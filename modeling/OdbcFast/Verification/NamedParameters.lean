import OdbcFast.Dart.NamedParameterParser
import OdbcFast.Wire.Sql
import Mathlib.Data.List.Nodup
import Mathlib.Data.List.TakeWhile

/-!
# Named parameters

The positional text has a question mark for every marker, but the values are those of the
distinct names: they fit together when no name is repeated (`positional_iff`).

The parser does not read SQL. What it takes for a parameter may stand inside a literal, a
quoted identifier or a comment, or be the type behind `::`; only a text without such a place
is rewritten as meant (`extract_eq_iff`).
-/

namespace OdbcFast.Verification

open Wire Dart NamedParameterParser

/-! ## The parameters of a text -/

/-- `\w`. -/
def NameChar (char : Char) : Prop := char.isAlphanum = true ∨ char = '_'

instance : DecidablePred NameChar := fun _ => inferInstanceAs (Decidable (_ ∨ _))

def StartsName : List Char → Prop
  | [] => False
  | char :: _ => NameChar char

instance : DecidablePred StartsName
  | [] => inferInstanceAs (Decidable False)
  | char :: _ => inferInstanceAs (Decidable (NameChar char))

def Marks (char : Char) : Prop := char = '@' ∨ char = ':'

instance : DecidablePred Marks := fun _ => inferInstanceAs (Decidable (_ ∨ _))

/-- No marker has a name behind it. -/
def Plain : List Char → Prop
  | [] => True
  | char :: chars => (Marks char → ¬ StartsName chars) ∧ Plain chars

/-- A parameter, with the text up to the next one. Its name is as long as it can be. -/
structure MarkedName where
  marker : Char
  name : List Char
  behind : List Char
  marks : Marks marker
  named : name ≠ []
  words : ∀ char ∈ name, NameChar char
  ends : ¬ StartsName behind
  plain : Plain behind

def MarkedName.written (parameter : MarkedName) : List Char :=
  parameter.marker :: (parameter.name ++ parameter.behind)

/-- A text cut at its parameters. -/
structure ParameterOutline (text : List Char) where
  front : List Char
  parameters : List MarkedName
  plain : Plain front
  whole : front ++ parameters.flatMap MarkedName.written = text

namespace ParameterOutline

variable {text : List Char}

/-- The names, in the order of their places. -/
def names (outline : ParameterOutline text) : List String :=
  outline.parameters.map fun parameter => String.ofList parameter.name

/-- The text with a question mark in the place of each parameter. -/
def positional (outline : ParameterOutline text) : List Char :=
  outline.front ++ outline.parameters.flatMap fun parameter => '?' :: parameter.behind

/-- What the parser's scan makes of it. -/
def pieces (outline : ParameterOutline text) : List SqlPiece :=
  outline.front.map .text ++ outline.parameters.flatMap fun parameter =>
    .parameter parameter.name :: parameter.behind.map .text

end ParameterOutline

theorem plain_dropWhile {text : List Char} (plain : Plain text) (p : Char → Bool) :
    Plain (text.dropWhile p) := by
  induction text with
  | nil => exact plain
  | cons char chars ih =>
      rw [List.dropWhile_cons]
      split_ifs
      · exact ih plain.2
      · exact plain

/-- A name ends where `takeWhile` ends. -/
theorem not_startsName_dropWhile (text : List Char) :
    ¬ StartsName (text.dropWhile fun char => decide (NameChar char)) := by
  induction text with
  | nil => exact id
  | cons char chars ih =>
      rw [List.dropWhile_cons]
      split_ifs with word
      · exact ih
      · exact fun starts => word (decide_eq_true starts)

theorem nameChar_of_mem_takeWhile {text : List Char} {char : Char}
    (member : char ∈ text.takeWhile fun char => decide (NameChar char)) : NameChar char := by
  simpa using List.mem_takeWhile_imp member

theorem takeWhile_ne_nil {text : List Char} (starts : StartsName text) :
    (text.takeWhile fun char => decide (NameChar char)) ≠ [] := by
  cases text with
  | nil => cases starts
  | cons char chars =>
      have first : NameChar char := starts
      rw [List.takeWhile_cons, if_pos (decide_eq_true first)]
      exact List.cons_ne_nil _ _

/-- Every text has an outline: a marker in front of a name begins a parameter, anything else
belongs to the text in front. -/
def outlineOf : (text : List Char) → ParameterOutline text
  | [] => ⟨[], [], trivial, rfl⟩
  | char :: chars =>
    let rest := outlineOf chars
    if begins : Marks char ∧ StartsName rest.front then
      let name := rest.front.takeWhile fun char => decide (NameChar char)
      let behind := rest.front.dropWhile fun char => decide (NameChar char)
      { front := []
        parameters := ⟨char, name, behind, begins.1, takeWhile_ne_nil begins.2,
          fun _ => nameChar_of_mem_takeWhile,
          not_startsName_dropWhile _, plain_dropWhile rest.plain _⟩ :: rest.parameters
        plain := trivial
        whole := by
          rw [List.nil_append, List.flatMap_cons, MarkedName.written, List.cons_append,
            List.takeWhile_append_dropWhile, rest.whole] }
    else
      { front := char :: rest.front
        parameters := rest.parameters
        plain := ⟨fun marks starts => begins ⟨marks, starts⟩, rest.plain⟩
        whole := by rw [List.cons_append, rest.whole] }

section

variable {text : List Char}

theorem isWord_iff (char : Char) : isWord char = true ↔ NameChar char := by
  rw [isWord, Bool.or_eq_true, decide_eq_true_eq, NameChar]

theorem isMarker_iff (char : Char) : isMarker char = true ↔ Marks char := by
  rw [isMarker, Bool.or_eq_true, decide_eq_true_eq, decide_eq_true_eq, Marks]

/-- A marker in front of something else than a word is text. -/
theorem pieces_marker_text {marker : Char} {chars : List Char} (ends : ¬ StartsName chars) :
    NamedParameterParser.pieces (some (marker, [])) chars =
      .text marker :: NamedParameterParser.pieces none chars := by
  cases chars with
  | nil => rfl
  | cons char chars =>
      rw [NamedParameterParser.pieces, NamedParameterParser.pieces,
        if_neg (mt (isWord_iff char).mp ends)]
      split_ifs <;> rfl

/-- Text without parameters stays, up to a place where no name goes on. -/
theorem pieces_plain {front rest : List Char} (plain : Plain front) (ends : ¬ StartsName rest) :
    NamedParameterParser.pieces none (front ++ rest) =
      front.map .text ++ NamedParameterParser.pieces none rest := by
  induction front with
  | nil => rfl
  | cons char chars ih =>
      rw [List.cons_append, List.map_cons, List.cons_append, ← ih plain.2,
        NamedParameterParser.pieces]
      split_ifs with marks
      · refine pieces_marker_text ?_
        cases chars with
        | nil => exact ends
        | cons next chars => exact plain.1 ((isMarker_iff char).mp marks)
      · rfl

/-- A match under way takes the rest of the name, and no more. -/
theorem pieces_name {marker : Char} {taken name rest : List Char}
    (words : ∀ char ∈ name, NameChar char) (named : taken ++ name ≠ [])
    (ends : ¬ StartsName rest) :
    NamedParameterParser.pieces (some (marker, taken)) (name ++ rest) =
      .parameter (taken ++ name) :: NamedParameterParser.pieces none rest := by
  induction name generalizing taken with
  | nil =>
      rw [List.append_nil] at named ⊢
      have closed : closeMatch (some (marker, taken)) = [.parameter taken] := by
        cases taken with
        | nil => cases named rfl
        | cons => rfl
      cases rest with
      | nil => exact closed
      | cons char chars =>
          rw [List.nil_append, NamedParameterParser.pieces, NamedParameterParser.pieces,
            if_neg (mt (isWord_iff char).mp ends), closed]
          split_ifs <;> rfl
  | cons char name ih =>
      obtain ⟨first, words⟩ := List.forall_mem_cons.mp words
      rw [List.cons_append, NamedParameterParser.pieces, if_pos ((isWord_iff char).mpr first),
        ih words (by simp), List.append_assoc, List.singleton_append]

/-- Text that begins with a parameter does not go on with a name. -/
theorem not_startsName_written (parameters : List MarkedName) :
    ¬ StartsName (parameters.flatMap MarkedName.written) := by
  cases parameters with
  | nil => exact id
  | cons parameter parameters =>
      rw [List.flatMap_cons, MarkedName.written]
      rintro (word | word)
      · rcases parameter.marks with same | same
        · rw [same] at word
          cases word
        · rw [same] at word
          cases word
      · rcases parameter.marks with same | same
        · rw [same] at word
          cases word
        · rw [same] at word
          cases word

/-- The parser finds parameters that stand one behind the other. -/
theorem pieces_written (parameters : List MarkedName) :
    NamedParameterParser.pieces none (parameters.flatMap MarkedName.written) =
      parameters.flatMap fun parameter =>
        .parameter parameter.name :: parameter.behind.map .text := by
  induction parameters with
  | nil => rfl
  | cons parameter parameters ih =>
      have ends : ¬ StartsName (parameter.behind ++ parameters.flatMap MarkedName.written) := by
        have behindEnds := parameter.ends
        cases behind : parameter.behind with
        | nil => exact not_startsName_written parameters
        | cons char chars =>
            rw [behind] at behindEnds
            exact behindEnds
      rw [List.flatMap_cons, List.flatMap_cons, MarkedName.written, List.cons_append,
        NamedParameterParser.pieces, if_pos ((isMarker_iff _).mpr parameter.marks),
        List.append_assoc,
        pieces_name parameter.words (show [] ++ parameter.name ≠ [] from parameter.named) ends,
        pieces_plain parameter.plain (not_startsName_written parameters), ih]
      rfl

theorem pieces_outline (outline : ParameterOutline text) :
    NamedParameterParser.pieces none text = outline.pieces := by
  obtain ⟨front, parameters, plain, rfl⟩ := outline
  rw [pieces_plain plain (not_startsName_written parameters), pieces_written]
  rfl

theorem cleanedSql_extract {sql : String} (outline : ParameterOutline sql.toList) :
    (extract sql).cleanedSql.toList = outline.positional := by
  rw [extract, pieces_outline outline, String.toList_ofList, ParameterOutline.pieces,
    ParameterOutline.positional, List.map_append, List.map_map, List.map_flatMap]
  simp [Function.comp_def, SqlPiece.cleaned]

theorem filterMap_name?_text (text : List Char) :
    (text.map SqlPiece.text).filterMap SqlPiece.name? = [] := by
  rw [List.filterMap_eq_nil_iff]
  rintro piece member
  obtain ⟨char, -, rfl⟩ := List.mem_map.mp member
  rfl

theorem paramNames_extract {sql : String} (outline : ParameterOutline sql.toList) :
    (extract sql).paramNames = firstOccurrences [] outline.names := by
  have found : outline.pieces.filterMap SqlPiece.name? = outline.names := by
    rw [ParameterOutline.pieces, ParameterOutline.names, List.filterMap_append,
      filterMap_name?_text, List.nil_append, List.filterMap_flatMap, List.map_eq_flatMap]
    simp only [List.filterMap_cons, SqlPiece.name?, filterMap_name?_text]
  rw [extract, pieces_outline outline, found]

end

/-! ## Values and question marks -/

theorem firstOccurrences_sublist (seen names : List String) :
    (firstOccurrences seen names).Sublist names := by
  induction names generalizing seen with
  | nil => exact List.Sublist.refl _
  | cons name names ih =>
      rw [firstOccurrences]
      split_ifs
      · exact (ih seen).cons name
      · exact (ih _).cons_cons name

theorem not_mem_of_mem_firstOccurrences {seen names : List String} {name : String}
    (kept : name ∈ firstOccurrences seen names) : name ∉ seen := by
  induction names generalizing seen with
  | nil => cases kept
  | cons other names ih =>
      rw [firstOccurrences] at kept
      split_ifs at kept with before
      · exact ih kept
      · rcases List.mem_cons.mp kept with rfl | later
        · exact before
        · intro earlier
          exact ih later (List.mem_cons_of_mem _ earlier)

theorem nodup_firstOccurrences (seen names : List String) :
    (firstOccurrences seen names).Nodup := by
  induction names generalizing seen with
  | nil => exact List.nodup_nil
  | cons name names ih =>
      rw [firstOccurrences]
      split_ifs
      · exact ih seen
      · refine List.nodup_cons.mpr ⟨?_, ih _⟩
        intro again
        exact not_mem_of_mem_firstOccurrences again List.mem_cons_self

theorem firstOccurrences_of_nodup {seen names : List String} (distinct : names.Nodup)
    (fresh : ∀ name ∈ names, name ∉ seen) : firstOccurrences seen names = names := by
  induction names generalizing seen with
  | nil => rfl
  | cons name names ih =>
      obtain ⟨first, distinct⟩ := List.nodup_cons.mp distinct
      rw [firstOccurrences, if_neg (fresh name List.mem_cons_self)]
      refine congrArg (name :: ·) (ih distinct ?_)
      intro other member
      rw [List.mem_cons, not_or]
      refine ⟨?_, fresh other (List.mem_cons_of_mem _ member)⟩
      rintro rfl
      exact first member

section

variable {α : Type}

/-- The map has a value for every name in the text. -/
def Covers {text : List Char} (outline : ParameterOutline text)
    (namedParams : HashMap String (Option α)) : Prop :=
  ∀ name ∈ outline.names, name ∈ namedParams

/-- Question marks stand where the parameters stood, there are as many values, and each question
mark gets the value of the name that stood in its place. -/
structure BindsPlaceholders {text : List Char} (outline : ParameterOutline text)
    (cleanedSql : String) (namedParams : HashMap String (Option α))
    (values : List (Option α)) : Prop where
  placed : cleanedSql.toList = outline.positional
  counted : values.length = outline.parameters.length
  bound : ∀ (i : Nat) parameter value, outline.parameters[i]? = some parameter →
    namedParams.lookup (String.ofList parameter.name) = some value → values[i]? = some value

theorem toPositionalParams_of_covers {sql : String} {outline : ParameterOutline sql.toList}
    {namedParams : HashMap String (Option α)} (covers : Covers outline namedParams) :
    toPositionalParams namedParams (extract sql).paramNames =
      .ok ((extract sql).paramNames.map fun name => (namedParams.lookup name).join) := by
  have none : (extract sql).paramNames.filter (fun name => ¬ name ∈ namedParams) = [] := by
    refine List.filter_eq_nil_iff.mpr fun name member => ?_
    rw [paramNames_extract outline] at member
    have inside := covers name ((firstOccurrences_sublist [] _).subset member)
    simpa using inside
  rw [toPositionalParams, none]
  rfl

/-- With a value for every name, text and values are right exactly when no name stands at two
places of the text. -/
theorem positional_iff {sql : String} {namedParams : HashMap String (Option α)}
    (covers : Covers (outlineOf sql.toList) namedParams) :
    (∃ values, toPositionalParams namedParams (extract sql).paramNames = .ok values ∧
      BindsPlaceholders (outlineOf sql.toList) (extract sql).cleanedSql namedParams values) ↔
      (outlineOf sql.toList).names.Nodup := by
  rw [toPositionalParams_of_covers covers, paramNames_extract (outlineOf sql.toList)]
  have places : (outlineOf sql.toList).names.length = (outlineOf sql.toList).parameters.length :=
    List.length_map _
  constructor
  · rintro ⟨values, made, binds⟩
    cases made
    have counted := binds.counted
    rw [List.length_map, ← places] at counted
    rw [← (firstOccurrences_sublist [] _).eq_of_length counted]
    exact nodup_firstOccurrences [] _
  · intro distinct
    rw [firstOccurrences_of_nodup distinct (by simp)]
    refine ⟨_, rfl, cleanedSql_extract _, (List.length_map _).trans places, ?_⟩
    intro i parameter value there found
    rw [List.getElem?_map, ParameterOutline.names, List.getElem?_map, there, Option.map_some,
      Option.map_some, found]
    rfl

end

/-- A value for `id`. -/
def idOnly : HashMap String (Option Nat) := (∅ : HashMap String (Option Nat)).insert "id" (some 7)

def someValues : HashMap String (Option Nat) := (idOnly.insert "a" none).insert "b_2" (some 9)

/-- Two kinds of markers and three names, in another order than in the map. -/
theorem positional_iff_update :
    toPositionalParams someValues
        (extract "UPDATE t SET a = @a, b=:b_2 WHERE id = @id").paramNames =
        .ok [none, some 9, some 7] ∧
      ∃ values, toPositionalParams someValues
          (extract "UPDATE t SET a = @a, b=:b_2 WHERE id = @id").paramNames = .ok values ∧
        BindsPlaceholders (outlineOf "UPDATE t SET a = @a, b=:b_2 WHERE id = @id".toList)
          (extract "UPDATE t SET a = @a, b=:b_2 WHERE id = @id").cleanedSql someValues values :=
  ⟨by decide, (positional_iff (by unfold Covers; decide)).mpr (by decide)⟩

/-- Two question marks and one value. -/
theorem repeated_name_has_one_value :
    ¬ ∀ sql (namedParams : HashMap String (Option Nat)),
      Covers (outlineOf sql.toList) namedParams →
        ∃ values, toPositionalParams namedParams (extract sql).paramNames = .ok values ∧
          BindsPlaceholders (outlineOf sql.toList) (extract sql).cleanedSql namedParams values := by
  intro binds
  have made : toPositionalParams idOnly
      (extract "SELECT * FROM t WHERE id = @id OR parent_id = @id").paramNames =
      .ok [some 7] := by decide
  obtain ⟨values, made', bound⟩ :=
    binds "SELECT * FROM t WHERE id = @id OR parent_id = @id" idOnly
      (by unfold Covers; decide)
  cases made.symm.trans made'
  exact absurd bound.counted (by decide)

/-! ## What is no parameter -/

/-- A literal, a quoted identifier or a comment is open. -/
def isInside : Sql.Reading → Bool
  | .identifier _ _ | .literal _ | .lineComment _ | .blockComment _ | .star _ => true
  | .between | .word _ | .closing _ _ | .literalEnd _ | .dash | .slash => false

/-- The text ends with the first colon of a `::`; colons are paired from the left. -/
def endsInColon (before : List Char) : Bool :=
  (before.reverse.takeWhile (· = ':')).length % 2 = 1

/-- A marker behind this text begins a parameter. -/
def opensParameter (quotes : Sql.Quotes) (before : List Char) (marker : Char) : Bool :=
  !isInside (Sql.readAll quotes .between before).1 && !(marker = ':' && endsInColon before)

section

variable (opens : List Char → Char → Bool)

/-- The parameters of a text and the characters between them. What has been read before
decides whether a marker begins a parameter; if not, it is a character that stays. -/
def parameterPieces : List Char → Option (Char × List Char) → List Char → List SqlPiece
  | _, started, [] => closeMatch started
  | before, none, char :: chars =>
    if isMarker char && opens before char then
      parameterPieces (before ++ [char]) (some (char, [])) chars
    else .text char :: parameterPieces (before ++ [char]) none chars
  | before, some (marker, name), char :: chars =>
    if isWord char then
      parameterPieces (before ++ [char]) (some (marker, name ++ [char])) chars
    else if isMarker char && opens before char then
      closeMatch (some (marker, name)) ++
        parameterPieces (before ++ [char]) (some (char, [])) chars
    else closeMatch (some (marker, name)) ++
      .text char :: parameterPieces (before ++ [char]) none chars

/-- How many characters are read into names. -/
def nameChars : List Char → Bool → List Char → Nat
  | _, _, [] => 0
  | before, inName, char :: chars =>
    if inName && isWord char then 1 + nameChars (before ++ [char]) true chars
    else nameChars (before ++ [char]) (isMarker char && opens before char) chars

end

/-- Text that stays, and a question mark in the place of each parameter. -/
def rewritten : List SqlPiece → List Char
  | [] => []
  | .text char :: found => char :: rewritten found
  | .parameter _ :: found => '?' :: rewritten found

def namesOf : List SqlPiece → List String
  | [] => []
  | .text _ :: found => namesOf found
  | .parameter name :: found => String.ofList name :: namesOf found

theorem rewritten_eq (found : List SqlPiece) : rewritten found = found.map SqlPiece.cleaned := by
  induction found with
  | nil => rfl
  | cons piece found ih => cases piece <;> exact congrArg _ ih

theorem namesOf_eq (found : List SqlPiece) : namesOf found = found.filterMap SqlPiece.name? := by
  induction found with
  | nil => rfl
  | cons piece found ih =>
      cases piece with
      | text char => exact ih
      | parameter name => exact congrArg _ ih

/-- Each name once, where it occurs first. -/
theorem firstOccurrences_eq (seen names : List String) :
    firstOccurrences seen names = (names.filter (· ∉ seen)).eraseDups := by
  induction names generalizing seen with
  | nil => rfl
  | cons name names ih =>
      rw [firstOccurrences, ih, ih, List.filter_cons]
      by_cases before : name ∈ seen
      · rw [if_pos before, if_neg (by simpa using before)]
      · rw [if_neg before, if_pos (by simpa using before), List.eraseDups_cons, List.filter_filter]
        congr 3
        funext other
        by_cases same : other = name <;> simp [same]

/-- The text with a question mark for each of its parameters, and their names, each once. -/
def extractParameters (quotes : Sql.Quotes) (sql : String) : Extract :=
  let found := parameterPieces (opensParameter quotes) [] none sql.toList
  { cleanedSql := String.ofList (rewritten found), paramNames := (namesOf found).eraseDups }

example : extractParameters (fun _ => none) "SELECT x::int -- :a\n, ':b', :c" =
    { cleanedSql := "SELECT x::int -- :a\n, ':b', ?", paramNames := ["c"] } := by
  decide

/-- Every marker in front of a word begins a parameter. -/
def OnlyParametersMarked (quotes : Sql.Quotes) (sql : String) : Prop :=
  ∀ before marker char after, sql.toList = before ++ marker :: char :: after →
    isMarker marker = true → isWord char = true → opensParameter quotes before marker = true

theorem isWord_eq_false_of_isMarker {char : Char} (marks : isMarker char = true) :
    isWord char = false := by
  rw [isMarker, Bool.or_eq_true, decide_eq_true_eq, decide_eq_true_eq] at marks
  rcases marks with rfl | rfl
  · rfl
  · rfl

section

variable {opens : List Char → Char → Bool}

/-- Where every marker in front of a word begins a parameter, the parser finds the parameters.
By induction on the text, the match under way being the same on both sides. -/
theorem parameterPieces_eq_pieces {before chars : List Char} {started : Option (Char × List Char)}
    (marked : ∀ between marker char after, chars = between ++ marker :: char :: after →
      isMarker marker = true → isWord char = true → opens (before ++ between) marker = true) :
    parameterPieces opens before started chars = NamedParameterParser.pieces started chars := by
  induction chars generalizing before started with
  | nil => cases started <;> rfl
  | cons char chars ih =>
      have later : ∀ started, parameterPieces opens (before ++ [char]) started chars =
          NamedParameterParser.pieces started chars := by
        intro started
        refine ih ?_
        rintro between marker next after rfl marks names
        rw [List.append_assoc]
        exact marked (char :: between) marker next after rfl marks names
      have marker : (if isMarker char && opens before char then
              NamedParameterParser.pieces (some (char, [])) chars
            else .text char :: NamedParameterParser.pieces none chars) =
          if isMarker char then NamedParameterParser.pieces (some (char, [])) chars
          else .text char :: NamedParameterParser.pieces none chars := by
        by_cases marks : isMarker char = true
        · by_cases begins : opens before char = true
          · rw [marks, begins]
            rfl
          · rw [if_pos marks, if_neg (by simp [begins])]
            refine (pieces_marker_text ?_).symm
            intro starts
            cases chars with
            | nil => exact starts
            | cons next after =>
                refine begins ?_
                have first := marked [] char next after rfl marks ((isWord_iff next).mpr starts)
                rwa [List.append_nil] at first
        · rw [if_neg marks, if_neg (by simp [marks])]
      rcases started with _ | ⟨begun, name⟩
      · rw [parameterPieces, NamedParameterParser.pieces, later, later]
        exact marker
      · rw [parameterPieces, NamedParameterParser.pieces, later, later, later]
        by_cases names : isWord char = true
        · rw [if_pos names, if_pos names]
        · rw [if_neg names, if_neg names, ← apply_ite (closeMatch (some (begun, name)) ++ ·),
            marker, apply_ite (closeMatch (some (begun, name)) ++ ·)]

theorem parameterPieces_always (before chars : List Char) (started : Option (Char × List Char)) :
    parameterPieces (fun _ _ => true) before started chars =
      NamedParameterParser.pieces started chars :=
  parameterPieces_eq_pieces fun _ _ _ _ _ _ _ => rfl

/-- What is not read into a name leaves a character, and so does every match. -/
theorem length_parameterPieces (opens : List Char → Char → Bool) (before chars : List Char)
    (started : Option (Char × List Char)) :
    (parameterPieces opens before started chars).length +
      nameChars opens before started.isSome chars =
        chars.length + started.isSome.toNat := by
  have closed : ∀ begun : Char × List Char, (closeMatch (some begun)).length = 1 := by
    rintro ⟨_, _ | _⟩ <;> rfl
  induction chars generalizing before started with
  | nil =>
      rcases started with _ | begun
      · rfl
      · exact closed begun
  | cons char chars ih =>
      have marked := ih (before ++ [char]) (some (char, []))
      have plain := ih (before ++ [char]) none
      simp only [Option.isSome_some, Option.isSome_none, Bool.toNat_true, Bool.toNat_false]
        at marked plain
      rcases started with _ | ⟨begun, name⟩
      · rw [parameterPieces, nameChars]
        simp only [Option.isSome_none, Bool.false_and, Bool.false_eq_true, if_false,
          Bool.toNat_false, List.length_cons]
        cases isMarker char && opens before char with
        | true =>
            rw [if_pos rfl]
            omega
        | false =>
            rw [if_neg (by decide), List.length_cons]
            omega
      · have named := ih (before ++ [char]) (some (begun, name ++ [char]))
        simp only [Option.isSome_some, Bool.toNat_true] at named
        rw [parameterPieces, nameChars]
        simp only [Option.isSome_some, Bool.true_and, Bool.toNat_true, List.length_cons]
        by_cases names : isWord char = true
        · rw [if_pos names, if_pos names]
          omega
        · rw [if_neg names, if_neg names]
          cases isMarker char && opens before char with
          | true =>
              rw [if_pos rfl, List.length_append, closed]
              omega
          | false =>
              rw [if_neg (by decide), List.length_append, closed, List.length_cons]
              omega

/-- One character: the more markers begin a parameter, the more is read into names. -/
theorem nameChars_cons_le {before chars : List Char} {char : Char} {k : Nat}
    (later : ∀ {fewer more : Bool}, (fewer = true → more = true) →
      nameChars opens (before ++ [char]) fewer chars + k ≤
        nameChars (fun _ _ => true) (before ++ [char]) more chars)
    {fewer more : Bool} (less : fewer = true → more = true) :
    nameChars opens before fewer (char :: chars) + k ≤
      nameChars (fun _ _ => true) before more (char :: chars) := by
  have marks : (isMarker char && opens before char) = true → (isMarker char && true) = true := by
    intro both
    rw [Bool.and_true]
    exact (Bool.and_eq_true_iff.mp both).1
  rw [nameChars, nameChars]
  by_cases names : isWord char = true
  · rw [names, Bool.and_true, Bool.and_true]
    cases fewer with
    | true =>
        rw [less rfl, if_pos rfl, if_pos rfl, Nat.add_assoc]
        exact Nat.add_le_add_left (later fun _ => rfl) 1
    | false =>
        rw [if_neg (by decide)]
        cases more with
        | true =>
            rw [if_pos rfl]
            exact Nat.le_trans (later fun _ => rfl) (Nat.le_add_left _ 1)
        | false =>
            rw [if_neg (by decide)]
            exact later marks
  · rw [if_neg (by simp [names]), if_neg (by simp [names])]
    exact later marks

theorem nameChars_le (before chars : List Char) {fewer more : Bool}
    (less : fewer = true → more = true) :
    nameChars opens before fewer chars ≤ nameChars (fun _ _ => true) before more chars := by
  induction chars generalizing before fewer more with
  | nil => exact Nat.le_refl 0
  | cons char chars ih => exact @nameChars_cons_le opens before chars char 0 (ih _) _ _ less

/-- A marker that begins no parameter costs the parser the word behind it. -/
theorem nameChars_lt {before between after : List Char} {marker char : Char}
    (marks : isMarker marker = true) (names : isWord char = true)
    (bad : opens (before ++ between) marker = false) {fewer more : Bool}
    (less : fewer = true → more = true) :
    nameChars opens before fewer (between ++ marker :: char :: after) <
      nameChars (fun _ _ => true) before more (between ++ marker :: char :: after) := by
  induction between generalizing before fewer more with
  | nil =>
      rw [List.append_nil] at bad
      have plain := isWord_eq_false_of_isMarker marks
      have first : nameChars opens before fewer (marker :: char :: after) =
          nameChars opens (before ++ [marker] ++ [char])
            (isMarker char && opens (before ++ [marker]) char) after := by
        rw [nameChars, plain, bad]
        simp only [Bool.and_false, Bool.false_eq_true, if_false]
        rw [nameChars, Bool.false_and, if_neg (by decide)]
      have second : nameChars (fun _ _ => true) before more (marker :: char :: after) =
          1 + nameChars (fun _ _ => true) (before ++ [marker] ++ [char]) true after := by
        rw [nameChars, plain, marks]
        simp only [Bool.and_false, Bool.false_eq_true, if_false, Bool.and_true]
        rw [nameChars, names, Bool.and_true, if_pos rfl]
      rw [List.nil_append, first, second, Nat.add_comm]
      exact Nat.lt_succ_of_le (nameChars_le _ _ fun _ => rfl)
  | cons other between ih =>
      refine @nameChars_cons_le opens before _ other 1 (fun less => ?_) _ _ less
      refine ih ?_ less
      rwa [List.append_assoc]

end

/-- The parser rewrites the parameters of a text and nothing else exactly when no literal, no
quoted identifier, no comment and no cast has a marker in front of a word. -/
theorem extract_eq_iff (quotes : Sql.Quotes) (sql : String) :
    extract sql = extractParameters quotes sql ↔ OnlyParametersMarked quotes sql := by
  constructor
  · intro same before marker char after text marks names
    by_contra bad
    rw [Bool.not_eq_true] at bad
    have cleaned : (NamedParameterParser.pieces none sql.toList).map SqlPiece.cleaned =
        (parameterPieces (opensParameter quotes) [] none sql.toList).map SqlPiece.cleaned := by
      rw [← rewritten_eq (parameterPieces _ _ _ _)]
      exact String.ofList_injective (congrArg Extract.cleanedSql same)
    have lengths := congrArg List.length cleaned
    rw [List.length_map, List.length_map, ← parameterPieces_always []] at lengths
    have taken := length_parameterPieces (fun _ _ => true) [] sql.toList none
    have meant := length_parameterPieces (opensParameter quotes) [] sql.toList none
    have fewer := @nameChars_lt (opensParameter quotes) [] before after marker char marks names
      bad false false id
    rw [← text] at fewer
    simp only [Option.isSome_none] at taken meant
    omega
  · intro marked
    have found : parameterPieces (opensParameter quotes) [] none sql.toList =
        NamedParameterParser.pieces none sql.toList := by
      refine parameterPieces_eq_pieces ?_
      intro between marker char after text marks names
      exact marked between marker char after text marks names
    rw [extractParameters, found, rewritten_eq, namesOf_eq, extract, firstOccurrences_eq]
    simp

/-- A text with a time of day in it. -/
theorem literal_is_rewritten :
    ¬ ∀ (quotes : Sql.Quotes) (sql : String), extract sql = extractParameters quotes sql := by
  intro same
  have kept : (extractParameters (fun _ => none) "SELECT 'at:noon', @x").paramNames = ["x"] := by
    decide
  rw [← same] at kept
  exact absurd kept (by decide)

end OdbcFast.Verification
