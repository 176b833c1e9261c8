import Mathlib.Data.List.Basic
import Mathlib.Data.List.Induction
import OdbcFast.Native.PoolOptions
import OdbcFast.Verification.Secrets
import OdbcFast.Wire.Trim

/-!
# The options of a pool among the attributes

The braces of the text are counted; a closing one where none is open counts nothing. The attributes
are the parts where this count is back at zero behind each of them and no semicolon inside one
stands where it is zero. A value loses all braces at its ends, its own included.
-/

namespace OdbcFast.Verification

open OdbcFast.Native OdbcFast.Native.Sanitize Wire

/-! ## What the attributes say -/

/-- The text that a value stands for. -/
def AttributeValue.content : AttributeValue → List Char
  | .plain text _ _ => trim text
  | .braced content => content

/-- What is to become of an attribute. -/
def Attribute.fate : Attribute → PartFate
  | .token key => if trim key.text = [] then .skipped else .kept
  | .assigned key value =>
    let name := (trim key.text).map Char.toLower
    if isPoolCheckoutOption name then .checkout value.content
    else if isPoolHealthCheckOption name then .healthCheck value.content
    else .kept

def flagOf : PartFate → Option Bool
  | .checkout value => parseBoolFlag value
  | _ => none

def queryOf : PartFate → Option (List Char)
  | .healthCheck value => if value ≠ [] then some value else none
  | _ => none

/-- The other attributes, in order and without what is blank around them. -/
def keptText (attributes : List Attribute) : List Char :=
  [';'].intercalate ((attributes.filter (·.fate = .kept)).map fun part => trim part.text)

/-- The options of a pool are removed from the string and nothing else is. -/
structure RemovesOptions (attributes : List Attribute) : Prop where
  parts : (readParts (connectionString attributes)).filter (·.2 ≠ .skipped) =
    (attributes.map fun part => (trim part.text, part.fate)).filter (·.2 ≠ .skipped)
  sanitized : (parsePoolOptionsFromConnectionString (connectionString attributes)).1 =
    if endsWithSemicolon (connectionString attributes) ∧ keptText attributes ≠ []
      then keptText attributes ++ [';'] else keptText attributes
  override : (parsePoolOptionsFromConnectionString (connectionString attributes)).2.1 =
    (attributes.filterMap fun part => flagOf part.fate).getLast?
  query : (parsePoolOptionsFromConnectionString (connectionString attributes)).2.2 =
    (attributes.filterMap fun part => queryOf part.fate).getLast?
  twice :
    (parsePoolOptionsFromConnectionString
      (parsePoolOptionsFromConnectionString (connectionString attributes)).1).1 =
        (parsePoolOptionsFromConnectionString (connectionString attributes)).1

/-- The braces at the ends of a value are its own. -/
def AttributeValue.BracesApart : AttributeValue → Prop
  | .plain text _ _ => Bare isBrace (trim text)
  | .braced content => Bare isBrace content ∧ '}' ∉ content

/-- No option of a pool has braces in its value that would be taken for those around it. -/
def Attribute.Apart : Attribute → Prop
  | .token _ => True
  | .assigned key value =>
    (isPoolCheckoutOption ((trim key.text).map Char.toLower) = true ∨
      isPoolHealthCheckOption ((trim key.text).map Char.toLower) = true) → value.BracesApart

/-! ## Counting braces -/

/-- The brace depth behind a text; none where a semicolon would end it. -/
def scanDepth : Nat → List Char → Option Nat
  | depth, [] => some depth
  | depth, ch :: rest =>
    if ch = '{' then scanDepth (braceDepthBehind depth) rest
    else if ch = '}' then scanDepth (depth - 1) rest
    else if ch = ';' ∧ depth = 0 then none
    else scanDepth depth rest

/-- Each text ends where no brace is open, the last one excepted. -/
def ReadsRight : List (List Char) → Prop
  | [] => True
  | [text] => (scanDepth 0 text).isSome = true
  | text :: text' :: texts => scanDepth 0 text = some 0 ∧ ReadsRight (text' :: texts)

theorem scanDepth_append (depth : Nat) (text more : List Char) :
    scanDepth depth (text ++ more) = (scanDepth depth text).bind (scanDepth · more) := by
  induction text generalizing depth with
  | nil => rfl
  | cons ch rest ih =>
      rw [List.cons_append, scanDepth, scanDepth]
      split_ifs
      · exact ih _
      · exact ih _
      · rfl
      · exact ih _

/-- Whitespace around a text opens and closes nothing. -/
theorem scanDepth_of_blank {text : List Char} (blank : ∀ c ∈ text, isWhitespace c = true)
    (depth : Nat) : scanDepth depth text = some depth := by
  induction text with
  | nil => rfl
  | cons ch rest ih =>
      rw [List.forall_mem_cons] at blank
      have other : ∀ c, isWhitespace c = false → ch ≠ c := by
        rintro _ shows rfl
        cases shows.symm.trans blank.1
      rw [scanDepth, if_neg (other _ (by decide)), if_neg (other _ (by decide)),
        if_neg fun ends => other _ (by decide) ends.1]
      exact ih blank.2

theorem scanDepth_trim (depth : Nat) (text : List Char) :
    scanDepth depth (trim text) = scanDepth depth text := by
  obtain ⟨front, back, whole, first, last⟩ := exists_trimWith isWhitespace text
  have around := congrArg (scanDepth depth) whole
  rw [List.append_assoc, scanDepth_append, scanDepth_of_blank first, Option.bind_some,
    scanDepth_append] at around
  rw [around]
  show _ = (scanDepth depth (trim text)).bind _
  cases scanDepth depth (trim text) with
  | none => rfl
  | some depth' => exact (scanDepth_of_blank last depth').symm

theorem splitParts_append {depth depth' : Nat} {text : List Char}
    (scanned : scanDepth depth text = some depth') (part more : List Char) :
    splitParts depth part (text ++ more) = splitParts depth' (part ++ text) more := by
  induction text generalizing depth part with
  | nil =>
      cases scanned
      rw [List.append_nil]
      rfl
  | cons ch rest ih =>
      rw [List.cons_append]
      rw [scanDepth] at scanned
      rw [splitParts, ← List.singleton_append (l := rest), ← List.append_assoc]
      split_ifs at scanned ⊢
      · exact ih scanned _
      · exact ih scanned _
      · exact ih scanned _

theorem splitParts_of_scanned {depth depth' : Nat} {text : List Char}
    (scanned : scanDepth depth text = some depth') (part : List Char) :
    splitParts depth part text = [part ++ text] := by
  have read := splitParts_append scanned part []
  rwa [List.append_nil] at read

theorem split_intercalate {text : List Char} {texts : List (List Char)}
    (right : ReadsRight (text :: texts)) :
    splitConnectionStringParts ([';'].intercalate (text :: texts)) = text :: texts := by
  induction texts generalizing text with
  | nil =>
      obtain ⟨depth, scanned⟩ := Option.isSome_iff_exists.mp right
      rw [List.intercalate_singleton]
      exact splitParts_of_scanned scanned []
  | cons text' texts ih =>
      rw [List.intercalate_cons_cons, List.append_assoc, List.singleton_append,
        splitConnectionStringParts, splitParts_append right.1]
      exact congrArg (text :: ·) (ih right.2)

theorem splitParts_ne_nil (depth : Nat) (part text : List Char) : splitParts depth part text ≠ [] := by
  induction text generalizing depth part with
  | nil => exact List.cons_ne_nil _ _
  | cons ch rest ih =>
      rw [splitParts]
      split_ifs
      · exact ih _ _
      · exact ih _ _
      · exact List.cons_ne_nil _ _
      · exact ih _ _

/-- The parts are what the text is made of, and they are read right. -/
theorem splitParts_spec {depth : Nat} {part : List Char} (scanned : scanDepth 0 part = some depth)
    (text : List Char) :
    ReadsRight (splitParts depth part text) ∧
      [';'].intercalate (splitParts depth part text) = part ++ text := by
  induction text generalizing depth part with
  | nil =>
      rw [List.append_nil]
      exact ⟨Option.isSome_iff_exists.mpr ⟨_, scanned⟩, List.intercalate_singleton⟩
  | cons ch rest ih =>
      have behind : scanDepth 0 (part ++ [ch]) = scanDepth depth [ch] := by
        rw [scanDepth_append, scanned, Option.bind_some]
      rw [scanDepth] at behind
      rw [splitParts, ← List.singleton_append (l := rest), ← List.append_assoc]
      split_ifs at behind ⊢ with opens closes ends
      · exact ih behind
      · exact ih behind
      · obtain ⟨right, joined⟩ := @ih 0 [] rfl
        obtain ⟨rfl, rfl⟩ := ends
        obtain ⟨next, texts, parts⟩ := List.exists_cons_of_ne_nil (splitParts_ne_nil 0 [] rest)
        rw [parts] at right joined ⊢
        rw [List.intercalate_cons_cons, joined]
        exact ⟨⟨scanned, right⟩, rfl⟩
      · exact ih behind

/-! ## One attribute -/

theorem trim_of_bare {text : List Char} (bare : Bare isWhitespace text) : trim text = text :=
  trimWith_of_bare bare

theorem splitOnceEquals_append {key : List Char} (noEquals : '=' ∉ key) (value : List Char) :
    splitOnceEquals (key ++ '=' :: value) = some (key, value) := by
  have all : ∀ c ∈ key, decide (c ≠ '=') = true := by
    rintro c member
    refine decide_eq_true ?_
    rintro rfl
    exact noEquals member
  have stops : ∀ c ∈ ('=' :: value).head?, decide (c ≠ '=') = false := by
    intro c head
    cases head
    rfl
  rw [splitOnceEquals, dropWhile_stops all stops, takeWhile_stops all stops]

theorem splitOnceEquals_eq_none {text : List Char} (noEquals : '=' ∉ text) :
    splitOnceEquals text = none := by
  have all : ∀ c ∈ text, decide (c ≠ '=') = true := by
    rintro c member
    refine decide_eq_true ?_
    rintro rfl
    exact noEquals member
  rw [splitOnceEquals, List.dropWhile_eq_nil_iff.mpr all]

theorem not_equals_mem_key (key : AttributeKey) : '=' ∉ key.text := by
  intro member
  cases key.noSeparator '=' member

theorem length_escaped (content : List Char) :
    (escaped content).length = content.length + content.count '}' := by
  induction content with
  | nil => rfl
  | cons c content ih =>
      have first : (escaped (c :: content)).length =
          (if c = '}' then ['}', '}'] else [c]).length + (escaped content).length := by
        rw [escaped, List.flatMap_cons, List.length_append]
        rfl
      rw [first, ih, List.length_cons, List.count_cons]
      split_ifs with closes closes'
      · simp only [List.length_cons, List.length_nil]
        omega
      · exact absurd (beq_iff_eq.mpr closes) closes'
      · next closes' => exact absurd (beq_iff_eq.mp closes') closes
      · simp only [List.length_cons, List.length_nil]
        omega

theorem escaped_eq_self_iff {content : List Char} : escaped content = content ↔ '}' ∉ content := by
  rw [← List.count_eq_zero]
  constructor
  · intro same
    have lengths := length_escaped content
    rw [same] at lengths
    omega
  · intro none
    refine escaped_of_braced fun c member => ?_
    have other : c ≠ '}' := by
      rintro rfl
      exact List.count_eq_zero.mp none member
    simpa [isBraced] using other

theorem head?_escaped (content : List Char) : (escaped content).head? = content.head? := by
  cases content with
  | nil => rfl
  | cons c content =>
      rw [escaped, List.flatMap_cons]
      split_ifs with closes
      · rw [closes]
        rfl
      · rfl

theorem getLast?_escaped (content : List Char) :
    (escaped content).getLast? = content.getLast? := by
  rcases content.eq_nil_or_concat with rfl | ⟨content, c, rfl⟩
  · rfl
  · rw [List.concat_eq_append, escaped_append, List.getLast?_append, List.getLast?_concat]
    by_cases closes : c = '}'
    · subst closes
      rfl
    · have one : escaped [c] = [c] := escaped_eq_self_iff.mpr (by simpa using Ne.symm closes)
      rw [one]
      rfl

/-- A value is read back when its braces are apart. -/
theorem trimBraces_eq_content_iff (value : AttributeValue) :
    trimBraces (trim value.text) = value.content ↔ value.BracesApart := by
  cases value with
  | plain text noSemicolon noBrace => exact trimWith_eq_self_iff
  | braced content =>
      have bare : trim ('{' :: (escaped content ++ ['}'])) = '{' :: (escaped content ++ ['}']) := by
        refine trim_of_bare ⟨?_, ?_⟩
        · rintro _ ⟨⟩
          rfl
        · intro x last
          rw [← List.cons_append, List.getLast?_concat] at last
          cases last
          rfl
      have inner : trimBraces ('{' :: (escaped content ++ ['}'])) =
          trimWith isBrace (escaped content) :=
        @trimWith_append _ isBrace ['{'] ['}'] (escaped content)
          (List.all_eq_true.mp (by decide)) (List.all_eq_true.mp (by decide))
      rw [AttributeValue.text, bare, inner, AttributeValue.content]
      constructor
      · intro same
        have bareContent := @bare_trimWith _ isBrace (escaped content)
        rw [same] at bareContent
        have bareEscaped : Bare isBrace (escaped content) := by
          rw [Bare, head?_escaped, getLast?_escaped]
          exact bareContent
        rw [trimWith_of_bare bareEscaped] at same
        exact ⟨bareContent, escaped_eq_self_iff.mp same⟩
      · rintro ⟨bareContent, noClosing⟩
        rw [escaped_eq_self_iff.mpr noClosing, trimWith_of_bare bareContent]

theorem fate_eq_skipped_iff (part : Attribute) : part.fate = .skipped ↔ trim part.text = [] := by
  cases part with
  | token key =>
      rw [Attribute.fate, Attribute.text]
      split_ifs with blank
      · exact iff_of_true rfl blank
      · exact iff_of_false (fun none => by cases none) blank
  | assigned key value =>
      refine iff_of_false ?_ ?_
      · simp only [Attribute.fate]
        split_ifs <;> exact fun none => by cases none
      · intro blank
        have trimmed := trimWith_eq_nil_iff.mp blank '='
          (List.mem_append_right _ List.mem_cons_self)
        cases trimmed

theorem partFate_eq_skipped_iff (text : List Char) : partFate text = .skipped ↔ trim text = [] := by
  rw [partFate]
  split_ifs with blank
  · exact iff_of_true rfl blank
  · refine iff_of_false ?_ blank
    split
    · simp only []
      split_ifs <;> exact fun none => by cases none
    · exact fun none => by cases none

/-- An attribute on its own meets the fate it should where its braces are apart. -/
theorem partFate_text_iff (part : Attribute) : partFate part.text = part.fate ↔ part.Apart := by
  cases part with
  | token key =>
      refine iff_of_true ?_ trivial
      rw [partFate, Attribute.text, splitOnceEquals_eq_none (not_equals_mem_key key),
        Attribute.fate]
  | assigned key value =>
      have shows : trim (key.text ++ '=' :: value.text) ≠ [] := by
        intro blank
        have trimmed := trimWith_eq_nil_iff.mp blank '='
          (List.mem_append_right _ List.mem_cons_self)
        cases trimmed
      rw [partFate, Attribute.text, if_neg shows,
        splitOnceEquals_append (not_equals_mem_key key), Attribute.fate, Attribute.Apart]
      simp only []
      split_ifs with checkout health
      · rw [PartFate.checkout.injEq, trimBraces_eq_content_iff]
        exact ⟨fun apart _ => apart, fun apart => apart (.inl checkout)⟩
      · rw [PartFate.healthCheck.injEq, trimBraces_eq_content_iff]
        exact ⟨fun apart _ => apart, fun apart => apart (.inr health)⟩
      · refine iff_of_true rfl fun option => ?_
        rcases option with option | option
        · exact absurd option checkout
        · exact absurd option health

/-- A semicolon in an attribute stands behind its equals sign. -/
theorem exists_front {key : AttributeKey} {value front back : List Char}
    (whole : key.text ++ '=' :: value = front ++ ';' :: back) :
    ∃ begun, front = key.text ++ '=' :: begun := by
  rcases List.append_eq_append_iff.mp whole with ⟨between, rfl, behind⟩ | ⟨between, written, behind⟩
  · cases between with
    | nil => cases List.head_eq_of_cons_eq behind
    | cons c between => exact ⟨between, by rw [List.head_eq_of_cons_eq behind]⟩
  · cases between with
    | nil => cases List.head_eq_of_cons_eq behind
    | cons c between =>
        have inside := key.noSeparator c (by
          rw [written]
          exact List.mem_append_right _ List.mem_cons_self)
        rw [← List.head_eq_of_cons_eq behind] at inside
        cases inside

theorem guarded_text (part : Attribute) : Guarded isWhitespace ';' part.text := by
  intro front back whole blank
  cases part with
  | token key =>
      have inside := key.noSeparator ';' (by
        rw [← Attribute.text, whole]
        exact List.mem_append_right _ List.mem_cons_self)
      cases inside
  | assigned key value =>
      obtain ⟨begun, rfl⟩ := exists_front whole
      have trimmed := trimWith_eq_nil_iff.mp blank '=' (List.mem_append_right _ List.mem_cons_self)
      cases trimmed

/-! ## The attributes as parts -/

theorem shown_of_filter {α : Type} (list : List α) (text : α → List Char) (fate : α → PartFate)
    (skipped : ∀ x, fate x = .skipped ↔ trim (text x) = []) :
    ((list.map fun x => (trim (text x), fate x)).filter (·.2 ≠ .skipped)).map Prod.fst =
      shownPieces isWhitespace (list.map text) := by
  induction list with
  | nil => rfl
  | cons x list ih =>
      rw [List.map_cons, List.map_cons]
      by_cases blank : trim (text x) = []
      · rw [List.filter_cons_of_neg (by simpa using (skipped x).mpr blank), ih,
          shownPieces_cons_of_eq_nil blank]
      · rw [List.filter_cons_of_pos (by simpa using (skipped x).not.mpr blank), List.map_cons, ih,
          shownPieces_cons_of_ne_nil blank]
        rfl

theorem eq_of_filter_map_eq {α β : Type} {list : List α} {f g : α → β} {q : β → Bool}
    (agree : ∀ x, q (f x) = q (g x)) (same : (list.map f).filter q = (list.map g).filter q) :
    ∀ x ∈ list, q (g x) = true → f x = g x := by
  have both : q ∘ f = q ∘ g := funext agree
  rw [List.filter_map, List.filter_map, both] at same
  intro x member shows
  exact List.map_inj_left.mp same x (List.mem_filter.mpr ⟨member, shows⟩)

theorem split_connectionString {parts : List Attribute}
    (right : ReadsRight (parts.map Attribute.text)) (some : parts ≠ []) :
    splitConnectionStringParts (connectionString parts) = parts.map Attribute.text := by
  obtain ⟨part, parts, rfl⟩ := List.exists_cons_of_ne_nil some
  exact split_intercalate right

/-- What is read of the attributes is what they say. -/
theorem parts_iff (parts : List Attribute) :
    (readParts (connectionString parts)).filter (·.2 ≠ .skipped) =
        (parts.map fun part => (trim part.text, part.fate)).filter (·.2 ≠ .skipped) ↔
      ReadsRight (parts.map Attribute.text) ∧ ∀ part ∈ parts, part.Apart := by
  rcases eq_or_ne parts [] with rfl | some
  · exact iff_of_true rfl ⟨trivial, by rintro _ ⟨⟩⟩
  · constructor
    · intro same
      have read := shown_of_filter (splitConnectionStringParts (connectionString parts)) id partFate
        partFate_eq_skipped_iff
      have meant := shown_of_filter parts Attribute.text Attribute.fate fate_eq_skipped_iff
      rw [List.map_id] at read
      have shown := read.symm.trans ((congrArg (List.map Prod.fst) same).trans meant)
      obtain ⟨right, joined⟩ := @splitParts_spec 0 [] rfl (connectionString parts)
      have split : splitConnectionStringParts (connectionString parts) =
          parts.map Attribute.text := by
        refine eq_of_shownPieces_eq (by decide) (splitParts_ne_nil _ _ _) (by simpa using some) ?_
          joined shown
        rw [List.forall_mem_map]
        exact fun part _ => guarded_text part
      have right' : ReadsRight (splitConnectionStringParts (connectionString parts)) := right
      rw [split] at right'
      refine ⟨right', fun part member => (partFate_text_iff part).mp ?_⟩
      rw [readParts, split, List.map_map] at same
      have agree : ∀ part, decide (partFate (Attribute.text part) ≠ .skipped) =
          decide (part.fate ≠ .skipped) := by
        intro part
        rw [decide_eq_decide, ne_eq, ne_eq, partFate_eq_skipped_iff, fate_eq_skipped_iff]
      by_cases blank : part.fate = .skipped
      · rw [blank, partFate_eq_skipped_iff, ← fate_eq_skipped_iff, blank]
      · have both := eq_of_filter_map_eq agree same part member (by simpa using blank)
        exact congrArg Prod.snd both
    · rintro ⟨right, apart⟩
      rw [readParts, split_connectionString right some, List.map_map]
      congr 1
      refine List.map_congr_left fun part member => ?_
      rw [Function.comp_apply, (partFate_text_iff part).mpr (apart part member)]

/-! ## What is left of the string -/

theorem take_eq (options : PoolStringOptions) (part : List Char × PartFate) :
    options.take part =
      ⟨options.sanitizedParts ++ ([part].filter (·.2 = .kept)).map Prod.fst,
        (flagOf part.2).or options.connOverride, (queryOf part.2).or options.healthCheckQuery⟩ := by
  obtain ⟨text, fate⟩ := part
  cases fate with
  | skipped => simp [PoolStringOptions.take, flagOf, queryOf]
  | checkout value =>
      cases flag : parseBoolFlag value <;> simp [PoolStringOptions.take, flagOf, queryOf, flag]
  | healthCheck value =>
      by_cases empty : value = [] <;> simp [PoolStringOptions.take, flagOf, queryOf, empty]
  | kept => simp [PoolStringOptions.take, flagOf, queryOf]

theorem getLast?_filterMap_concat {α β : Type} (f : α → Option β) (list : List α) (x : α) :
    ((list ++ [x]).filterMap f).getLast? = (f x).or (list.filterMap f).getLast? := by
  rw [List.filterMap_append, List.getLast?_append, List.filterMap_cons, List.filterMap_nil]
  cases f x <;> rfl

theorem foldl_take (parts : List (List Char × PartFate)) :
    parts.foldl PoolStringOptions.take {} =
      ⟨(parts.filter (·.2 = .kept)).map Prod.fst,
        (parts.filterMap fun part => flagOf part.2).getLast?,
        (parts.filterMap fun part => queryOf part.2).getLast?⟩ := by
  induction parts using List.reverseRecOn with
  | nil => rfl
  | append_singleton parts part ih =>
      rw [List.foldl_append, List.foldl_cons, List.foldl_nil, ih, take_eq,
        getLast?_filterMap_concat, getLast?_filterMap_concat, List.filter_append, List.map_append]

/-- What the loop keeps of texts. -/
def keptOf (texts : List (List Char)) : List Char :=
  [';'].intercalate ((texts.filter (partFate · = .kept)).map trim)

theorem parse_eq (text : List Char) :
    parsePoolOptionsFromConnectionString text =
      (if endsWithSemicolon text ∧ keptOf (splitConnectionStringParts text) ≠ []
        then keptOf (splitConnectionStringParts text) ++ [';']
        else keptOf (splitConnectionStringParts text),
      ((splitConnectionStringParts text).filterMap fun part => flagOf (partFate part)).getLast?,
      ((splitConnectionStringParts text).filterMap fun part => queryOf (partFate part)).getLast?) := by
  have kept : [';'].intercalate (((readParts text).filter (·.2 = .kept)).map Prod.fst) =
      keptOf (splitConnectionStringParts text) := by
    rw [keptOf, readParts, List.filter_map, List.map_map]
    rfl
  rw [parsePoolOptionsFromConnectionString, foldl_take]
  simp only []
  rw [kept, readParts, List.filterMap_map, List.filterMap_map]
  rfl

/-! ## The semicolon at the end -/

theorem endsWithSemicolon_behind {front back : List Char} {c : Char}
    (stays : isWhitespace c = false) (blank : ∀ x ∈ back, isWhitespace x = true) :
    endsWithSemicolon (front ++ c :: back) = decide (c = ';') := by
  have whole : (front ++ c :: back).reverse = back.reverse ++ c :: front.reverse := by simp
  rw [endsWithSemicolon, whole,
    List.dropWhile_append_of_pos fun x member => blank x (List.mem_reverse.mp member),
    List.dropWhile_cons_of_neg (by simp [stays]), List.head?_cons]
  simp only [Option.some_inj]

/-- The last character of a text that shows. -/
theorem exists_last {text : List Char} (shows : trim text ≠ []) :
    ∃ front inner c back, text = (front ++ inner) ++ c :: back ∧ trim text = inner ++ [c] ∧
      isWhitespace c = false ∧ ∀ x ∈ back, isWhitespace x = true := by
  obtain ⟨front, back, whole, -, last⟩ := exists_trimWith isWhitespace text
  have bare := @bare_trimWith _ isWhitespace text
  obtain ⟨inner, c, trimmed⟩ := (trimWith isWhitespace text).eq_nil_or_concat.resolve_left shows
  rw [trimmed, List.concat_eq_append] at whole bare
  refine ⟨front, inner, c, back, ?_, trimmed.trans List.concat_eq_append,
    bare.2 c List.getLast?_concat, last⟩
  rw [whole]
  simp

theorem endsWithSemicolon_trim {text : List Char} (shows : trim text ≠ []) :
    endsWithSemicolon (trim text) = endsWithSemicolon text := by
  obtain ⟨front, inner, c, back, whole, trimmed, stays, last⟩ := exists_last shows
  rw [trimmed, endsWithSemicolon_behind stays (by rintro _ ⟨⟩), whole,
    endsWithSemicolon_behind stays last]

theorem endsWithSemicolon_append (front text : List Char) :
    endsWithSemicolon (front ++ ';' :: text) = true ↔
      trim text = [] ∨ endsWithSemicolon text = true := by
  by_cases blank : trim text = []
  · refine iff_of_true ?_ (.inl blank)
    exact endsWithSemicolon_behind (by decide) (trimWith_eq_nil_iff.mp blank)
  · obtain ⟨front', inner, c, back, whole, -, stays, last⟩ := exists_last blank
    have longer : front ++ ';' :: text = (front ++ ';' :: (front' ++ inner)) ++ c :: back := by
      rw [whole]
      simp
    rw [or_iff_right blank, longer, endsWithSemicolon_behind stays last, whole,
      endsWithSemicolon_behind stays last]

theorem endsWithSemicolon_of_not_mem {text : List Char} (none : ';' ∉ text) :
    endsWithSemicolon text = false := by
  by_cases blank : trim text = []
  · have all := trimWith_eq_nil_iff.mp blank
    have nothing : text.reverse.dropWhile isWhitespace = [] :=
      List.dropWhile_eq_nil_iff.mpr fun c member => all c (List.mem_reverse.mp member)
    rw [endsWithSemicolon, nothing]
    rfl
  · obtain ⟨front, inner, c, back, rfl, -, stays, last⟩ := exists_last blank
    rw [endsWithSemicolon_behind stays last, decide_eq_false_iff_not]
    rintro rfl
    exact none (List.mem_append_right _ List.mem_cons_self)

theorem endsWithSemicolon_text (part : Attribute) : endsWithSemicolon part.text = false := by
  obtain key | ⟨key, ⟨text, noSemicolon, noBrace⟩ | content⟩ := part
  · refine endsWithSemicolon_of_not_mem fun member => ?_
    cases key.noSeparator ';' member
  · refine endsWithSemicolon_of_not_mem fun member => ?_
    rcases List.mem_append.mp member with inKey | behind
    · cases key.noSeparator ';' inKey
    · rcases List.mem_cons.mp behind with equals | inValue
      · cases equals
      · cases noSemicolon ';' inValue
  · have whole : (Attribute.assigned key (.braced content)).text =
        (key.text ++ '=' :: '{' :: escaped content) ++ ['}'] := by
      simp [Attribute.text, AttributeValue.text]
    rw [whole, endsWithSemicolon_behind (by decide) (by rintro _ ⟨⟩)]
    rfl

theorem trim_intercalate_ne_nil {text : List Char} {texts : List (List Char)}
    (shows : trim text ≠ []) : trim ([';'].intercalate (text :: texts)) ≠ [] := by
  cases texts with
  | nil => rwa [List.intercalate_singleton]
  | cons text' texts =>
      rw [List.intercalate_cons_cons, List.append_assoc, List.singleton_append]
      intro blank
      have trimmed := trimWith_eq_nil_iff.mp blank ';' (List.mem_append_right _ List.mem_cons_self)
      cases trimmed

/-- Texts between semicolons do not end with one when none of them does. -/
theorem endsWithSemicolon_intercalate {texts : List (List Char)}
    (shows : ∀ text ∈ texts, trim text ≠ [])
    (ends : ∀ text ∈ texts, endsWithSemicolon text = false) :
    endsWithSemicolon ([';'].intercalate texts) = false := by
  induction texts with
  | nil => rfl
  | cons text texts ih =>
      rw [List.forall_mem_cons] at shows ends
      cases texts with
      | nil =>
          rw [List.intercalate_singleton]
          exact ends.1
      | cons text' texts =>
          rw [List.intercalate_cons_cons, List.append_assoc, List.singleton_append,
            Bool.eq_false_iff, ne_eq, endsWithSemicolon_append, ih shows.2 ends.2]
          rintro (blank | ended)
          · exact trim_intercalate_ne_nil (shows.2 text' List.mem_cons_self) blank
          · cases ended

/-! ## The string once more -/

/-- What is blank around a part is blank around its key or its value. -/
theorem splitOnceEquals_trim (text : List Char) :
    (splitOnceEquals (trim text)).map (Prod.map trim trim) =
      (splitOnceEquals text).map (Prod.map trim trim) := by
  obtain ⟨front, back, whole, first, last⟩ := exists_trimWith isWhitespace text
  have equals : ∀ {around : List Char}, (∀ c ∈ around, isWhitespace c = true) → '=' ∉ around := by
    intro around blank member
    cases blank '=' member
  by_cases member : '=' ∈ trim text
  · obtain ⟨key, value, trimmed, noEquals⟩ := List.eq_append_cons_of_mem member
    have noEquals' : '=' ∉ front ++ key := by
      rw [List.mem_append]
      exact fun inside => inside.elim (equals first) noEquals
    have read : splitOnceEquals text = some (front ++ key, value ++ back) := by
      rw [← splitOnceEquals_append noEquals', whole]
      show splitOnceEquals (front ++ trim text ++ back) = _
      rw [trimmed]
      simp
    have sameKey : trim (front ++ key) = trim key := by
      have dropped := @trimWith_append _ isWhitespace front [] key first (by rintro _ ⟨⟩)
      rwa [List.append_nil] at dropped
    have sameValue : trim (value ++ back) = trim value :=
      @trimWith_append _ isWhitespace [] back value (by rintro _ ⟨⟩) last
    rw [read, trimmed, splitOnceEquals_append noEquals, Option.map_some, Option.map_some,
      Prod.map_apply, Prod.map_apply, sameKey, sameValue]
  · have none : '=' ∉ text := by
      rw [whole, List.mem_append, List.mem_append]
      exact fun inside => inside.elim (fun inside => inside.elim (equals first) member)
        (equals last)
    rw [splitOnceEquals_eq_none member, splitOnceEquals_eq_none none]

theorem partFate_trim (text : List Char) : partFate (trim text) = partFate text := by
  have again : trim (trim text) = trim text := trimWith_trimWith text
  have same := splitOnceEquals_trim text
  rw [partFate, partFate, again]
  rcases read : splitOnceEquals (trim text) with _ | ⟨key, value⟩
  · rw [read, Option.map_none, eq_comm, Option.map_eq_none_iff] at same
    rw [same]
  · rw [read, Option.map_some, eq_comm, Option.map_eq_some_iff] at same
    obtain ⟨⟨key', value'⟩, read', both⟩ := same
    rw [Prod.map_apply, Prod.map_apply, Prod.mk.injEq] at both
    rw [read']
    simp only [both.1, both.2]

theorem intercalate_concat {texts : List (List Char)} (nonempty : texts ≠ []) (text : List Char) :
    [';'].intercalate (texts ++ [text]) = [';'].intercalate texts ++ ';' :: text := by
  induction texts with
  | nil => cases nonempty rfl
  | cons first texts ih =>
      cases texts with
      | nil =>
          rw [List.intercalate_singleton, List.singleton_append, List.intercalate_cons_cons,
            List.intercalate_singleton, List.append_assoc]
          rfl
      | cons second texts =>
          rw [List.cons_append, List.cons_append, List.intercalate_cons_cons, ← List.cons_append,
            ih (List.cons_ne_nil _ _), List.intercalate_cons_cons, List.append_assoc,
            List.append_assoc, List.append_assoc]

theorem readsRight_cons {text : List Char} {texts : List (List Char)}
    (closed : scanDepth 0 text = some 0) (right : ReadsRight texts) :
    ReadsRight (text :: texts) := by
  cases texts with
  | nil => exact Option.isSome_iff_exists.mpr ⟨0, closed⟩
  | cons text' texts => exact ⟨closed, right⟩

theorem ReadsRight.tail {text : List Char} {texts : List (List Char)}
    (right : ReadsRight (text :: texts)) : ReadsRight texts := by
  cases texts with
  | nil => trivial
  | cons text' texts => exact right.2

theorem readsRight_concat {texts : List (List Char)}
    (closed : ∀ text ∈ texts, scanDepth 0 text = some 0) {text : List Char}
    (scanned : (scanDepth 0 text).isSome = true) : ReadsRight (texts ++ [text]) := by
  induction texts with
  | nil => exact scanned
  | cons text' texts ih =>
      rw [List.forall_mem_cons] at closed
      exact readsRight_cons closed.1 (ih closed.2)

/-- Texts that are left out and blanks that are trimmed off leave the others read right. -/
theorem ReadsRight.kept {texts : List (List Char)} (right : ReadsRight texts)
    (keeps : List Char → Bool) : ReadsRight ((texts.filter keeps).map trim) := by
  induction texts with
  | nil => trivial
  | cons text texts ih =>
      have others := ih right.tail
      by_cases keep : keeps text = true
      · rw [List.filter_cons_of_pos keep, List.map_cons]
        cases texts with
        | nil =>
            show (scanDepth 0 (trim text)).isSome = true
            rw [scanDepth_trim]
            exact right
        | cons text' texts =>
            refine readsRight_cons ?_ others
            rw [scanDepth_trim]
            exact right.1
      · rw [List.filter_cons_of_neg keep]
        exact others

theorem connectionString_cons_cons (part part' : Attribute) (parts : List Attribute) :
    connectionString (part :: part' :: parts) =
      part.text ++ ';' :: connectionString (part' :: parts) := by
  show [';'].intercalate (part.text :: part'.text :: parts.map Attribute.text) = _
  rw [List.intercalate_cons_cons, List.append_assoc]
  rfl

/-- Where the string ends with a semicolon, every part that is kept stands in front of it. -/
theorem closed_of_endsWithSemicolon {parts : List Attribute}
    (right : ReadsRight (parts.map Attribute.text))
    (ends : endsWithSemicolon (connectionString parts) = true) :
    ∀ part ∈ parts, part.fate = .kept → scanDepth 0 part.text = some 0 := by
  induction parts with
  | nil => rintro _ ⟨⟩
  | cons part parts ih =>
      cases parts with
      | nil =>
          rw [connectionString, List.map_singleton, List.intercalate_singleton,
            endsWithSemicolon_text] at ends
          cases ends
      | cons part' parts =>
          rw [connectionString_cons_cons, endsWithSemicolon_append] at ends
          rw [List.forall_mem_cons]
          refine ⟨fun _ => right.1, ?_⟩
          rcases ends with blank | ends
          · -- nothing shows behind it
            cases parts with
            | nil =>
                rw [connectionString, List.map_singleton, List.intercalate_singleton] at blank
                rw [List.forall_mem_singleton, (fate_eq_skipped_iff part').mpr blank]
                exact fun kept => by cases kept
            | cons part'' parts =>
                rw [connectionString_cons_cons] at blank
                have trimmed := trimWith_eq_nil_iff.mp blank ';'
                  (List.mem_append_right _ List.mem_cons_self)
                cases trimmed
          · exact ih right.2 ends

/-- A part that the loop keeps as it is. -/
structure Stays (text : List Char) : Prop where
  kept : partFate text = .kept
  trimmed : trim text = text
  ends : endsWithSemicolon text = false

theorem shows_of_kept {text : List Char} (kept : partFate text = .kept) : trim text ≠ [] := by
  intro blank
  have skipped := (partFate_eq_skipped_iff text).mpr blank
  cases kept.symm.trans skipped

section

variable {texts : List (List Char)} (kept : ∀ text ∈ texts, partFate text = .kept)

include kept

theorem filterMap_of_kept {β : Type} {read : PartFate → Option β} (none : read .kept = none) :
    (texts.filterMap fun text => read (partFate text)) = [] := by
  rw [List.filterMap_eq_nil_iff]
  intro text member
  rw [kept text member, none]

variable (trimmed : ∀ text ∈ texts, trim text = text)

include trimmed

theorem keptOf_of_kept : keptOf texts = [';'].intercalate texts := by
  have all : texts.filter (partFate · = .kept) = texts :=
    List.filter_eq_self.mpr fun text member => decide_eq_true (kept text member)
  have same : texts.map trim = texts.map id := List.map_congr_left trimmed
  rw [keptOf, all, same, List.map_id]

/-- Texts that are kept hold no option, and the semicolon that they may end with is set again. -/
theorem parse_of_kept (nonempty : texts ≠ []) (right : ReadsRight texts) :
    parsePoolOptionsFromConnectionString ([';'].intercalate texts) =
      (if endsWithSemicolon ([';'].intercalate texts) then [';'].intercalate texts ++ [';']
        else [';'].intercalate texts, none, none) := by
  have flags := @filterMap_of_kept texts kept _ flagOf rfl
  have queries := @filterMap_of_kept texts kept _ queryOf rfl
  obtain ⟨text, texts, rfl⟩ := List.exists_cons_of_ne_nil nonempty
  have notEmpty : [';'].intercalate (text :: texts) ≠ [] := by
    intro nothing
    refine @trim_intercalate_ne_nil text texts (shows_of_kept (kept text List.mem_cons_self)) ?_
    rw [nothing]
    rfl
  rw [parse_eq, split_intercalate right, keptOf_of_kept kept trimmed, flags, queries]
  simp only [notEmpty, ne_eq, not_false_eq_true, and_true, List.getLast?_nil]

/-- A semicolon behind texts that are closed stays as it is. -/
theorem parse_of_kept_ended (nonempty : texts ≠ [])
    (closed : ∀ text ∈ texts, scanDepth 0 text = some 0) :
    parsePoolOptionsFromConnectionString ([';'].intercalate texts ++ [';']) =
      ([';'].intercalate texts ++ [';'], none, none) := by
  have split : splitConnectionStringParts ([';'].intercalate texts ++ [';']) = texts ++ [[]] := by
    rw [← intercalate_concat nonempty]
    have right := @readsRight_concat texts closed [] rfl
    obtain ⟨text, texts, rfl⟩ := List.exists_cons_of_ne_nil nonempty
    exact split_intercalate right
  have keeps : keptOf (texts ++ [[]]) = [';'].intercalate texts := by
    rw [← keptOf_of_kept kept trimmed, keptOf, keptOf, List.filter_append]
    exact congrArg (fun kept => [';'].intercalate (List.map trim kept)) (List.append_nil _)
  have notEmpty : [';'].intercalate texts ≠ [] := by
    obtain ⟨text, texts, rfl⟩ := List.exists_cons_of_ne_nil nonempty
    intro nothing
    refine @trim_intercalate_ne_nil text texts (shows_of_kept (kept text List.mem_cons_self)) ?_
    rw [nothing]
    rfl
  have ends : endsWithSemicolon ([';'].intercalate texts ++ [';']) = true :=
    (endsWithSemicolon_append _ []).mpr (.inl rfl)
  rw [parse_eq, split, keeps, ends, if_pos ⟨rfl, notEmpty⟩, List.filterMap_append,
    List.filterMap_append, filterMap_of_kept kept rfl, filterMap_of_kept kept rfl]
  rfl

end

theorem parse_of_stays {texts : List (List Char)} (stays : ∀ text ∈ texts, Stays text)
    (right : ReadsRight texts) :
    (parsePoolOptionsFromConnectionString ([';'].intercalate texts)).1 =
      [';'].intercalate texts := by
  rcases eq_or_ne texts [] with rfl | nonempty
  · decide
  · have kept : ∀ text ∈ texts, partFate text = .kept := fun text member => (stays text member).kept
    have ends := endsWithSemicolon_intercalate
      (fun text member => shows_of_kept (kept text member)) fun text member => (stays text member).ends
    rw [parse_of_kept kept (fun text member => (stays text member).trimmed) nonempty right, ends]
    rfl

/-! ## The whole -/

section

variable {parts : List Attribute} (fates : ∀ part ∈ parts, partFate part.text = part.fate)

include fates

theorem filter_kept_texts :
    ((parts.map Attribute.text).filter (partFate · = .kept)).map trim =
      (parts.filter (·.fate = .kept)).map fun part => trim part.text := by
  have same : parts.filter (fun part => decide (partFate part.text = .kept)) =
      parts.filter (·.fate = .kept) :=
    List.filter_congr fun part member => by rw [fates part member]
  rw [List.filter_map, List.map_map, ← same]
  rfl

theorem keptOf_texts : keptOf (parts.map Attribute.text) = keptText parts :=
  congrArg ([';'].intercalate ·) (filter_kept_texts fates)

theorem filterMap_texts {β : Type} (read : PartFate → Option β) :
    ((parts.map Attribute.text).filterMap fun part => read (partFate part)) =
      parts.filterMap fun part => read part.fate := by
  rw [List.filterMap_map]
  exact List.filterMap_congr fun part member => congrArg read (fates part member)

theorem stays_keptText : ∀ text ∈ (parts.filter (·.fate = .kept)).map fun part => trim part.text,
    Stays text := by
  rw [List.forall_mem_map]
  intro part inside
  obtain ⟨member, keep⟩ := List.mem_filter.mp inside
  have kept : partFate part.text = .kept := (fates part member).trans (of_decide_eq_true keep)
  have shows : trim part.text ≠ [] := by
    intro blank
    have skipped := (partFate_eq_skipped_iff part.text).mpr blank
    cases kept.symm.trans skipped
  exact ⟨(partFate_trim _).trans kept, trimWith_trimWith _,
    (endsWithSemicolon_trim shows).trans (endsWithSemicolon_text part)⟩

end

/-- The options of a pool are removed from a connection string, and nothing else is, where its
attributes are read right and no option has braces of its own at the ends of its value. -/
theorem options_removed_iff (parts : List Attribute) :
    RemovesOptions parts ↔
      ReadsRight (parts.map Attribute.text) ∧ ∀ part ∈ parts, part.Apart := by
  refine ⟨fun removes => (parts_iff parts).mp removes.parts, ?_⟩
  rintro ⟨right, apart⟩
  have read := (parts_iff parts).mpr ⟨right, apart⟩
  rcases eq_or_ne parts [] with rfl | some
  · exact ⟨read, by decide, by decide, by decide, by decide⟩
  have fates : ∀ part ∈ parts, partFate part.text = part.fate :=
    fun part member => (partFate_text_iff part).mpr (apart part member)
  have stays := stays_keptText fates
  have parsed := parse_eq (connectionString parts)
  rw [split_connectionString right some, keptOf_texts fates, filterMap_texts fates,
    filterMap_texts fates] at parsed
  refine ⟨read, by rw [parsed], by rw [parsed], by rw [parsed], ?_⟩
  rw [parsed]
  split_ifs with ended
  · show (parsePoolOptionsFromConnectionString (keptText parts ++ [';'])).1 = keptText parts ++ [';']
    refine congrArg Prod.fst (parse_of_kept_ended (fun text member => (stays text member).kept)
      (fun text member => (stays text member).trimmed) ?_ ?_)
    · intro nothing
      refine ended.2 ?_
      rw [keptText, nothing]
      rfl
    · rw [List.forall_mem_map]
      intro part inside
      obtain ⟨member, keep⟩ := List.mem_filter.mp inside
      rw [scanDepth_trim]
      exact closed_of_endsWithSemicolon right ended.1 part member (of_decide_eq_true keep)
  · refine parse_of_stays stays ?_
    rw [← filter_kept_texts fates]
    exact right.kept _

def poolTestOnCheckout : AttributeKey :=
  ⟨"PoolTestOnCheckout".toList, List.all_eq_true.mp (by decide)⟩

def unchecked : AttributeValue :=
  .plain "false".toList (List.all_eq_true.mp (by decide)) (by decide)

/-- Behind a password with an opening brace an option of the pool is sent to the driver. -/
theorem option_behind_opening_brace : ¬ ∀ parts, RemovesOptions parts := by
  intro removes
  have sent := (removes [.assigned pwd (.braced "a\x7bb".toList),
    .assigned poolTestOnCheckout unchecked]).sanitized
  exact absurd sent (by decide)

end OdbcFast.Verification
