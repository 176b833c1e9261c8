import OdbcFast.Native.Plugins.Returning
import OdbcFast.Verification.Identifiers

/-!
# Where an `OUTPUT` clause goes

SQL Server has the clause for the rows that a statement returns in front of the source or the
condition of the outer statement. Which words stand there is guessed from the whole text, its
literals and sub-queries included.
-/

namespace OdbcFast.Verification

open Wire OdbcFast.Native OdbcFast.Native.Returning

/-! ## The outer statement -/

def sqlServerQuotes : Sql.Quotes
  | '[' => some ']'
  | '"' => some '"'
  | _ => none

def sqlWord (text : String) : Sql.Token := .word text.toList

/-- How a statement begins, up to what it is about. -/
def openings : DmlVerb → List (List Sql.Token)
  | .insert => [[sqlWord "INSERT"]]
  | .update => [[sqlWord "UPDATE"]]
  | .delete =>
    [[sqlWord "DELETE"], [sqlWord "DELETE", sqlWord "FROM"],
      [sqlWord "DELETE", sqlWord "TOP", .symbol '('],
      [sqlWord "DELETE", sqlWord "TOP", .symbol '(', sqlWord "FROM"],
      [sqlWord "DELETE", sqlWord "TOP", .symbol '(', sqlWord "PERCENT"],
      [sqlWord "DELETE", sqlWord "TOP", .symbol '(', sqlWord "PERCENT", sqlWord "FROM"]]

/-- The words that the clause stands in front of. -/
def outputWords : DmlVerb → List String
  | .insert => ["VALUES", "SELECT", "DEFAULT", "EXEC", "EXECUTE"]
  | .update | .delete => ["FROM", "WHERE", "OPTION"]

/-- The words that do not stand in front of it. -/
def laterWords : DmlVerb → List String
  | .insert => outputWords .insert
  | .update => outputWords .update
  | .delete => outputWords .delete ++ ["TOP", "PERCENT"]

/-- What stands in front of the clause, behind any common table expressions. -/
def FrontOf (verb : DmlVerb) (tokens : List Sql.Token) : Prop :=
  ∃ withs opening subject, Sql.outline tokens = withs ++ opening ++ subject ∧
    (withs = [] ∨ withs.head? = some (sqlWord "WITH")) ∧ opening ∈ openings verb ∧
    subject ≠ [] ∧ (∀ word ∈ laterWords verb, sqlWord word ∉ subject) ∧
    subject.getLast? ≠ some (sqlWord "DISTINCT") ∧ (verb = .update → sqlWord "SET" ∈ subject)

/-- A query behind an `INSERT` may stand in parentheses. -/
def unwrapped : DmlVerb → List Char → List Char
  | .insert, tail => tail.dropWhile fun c => Sql.isBlank c || c = '('
  | .update, tail | .delete, tail => tail

/-- No word goes on from one text into the other. -/
def Parted (head tail : List Char) : Prop :=
  (∃ c, tail.head? = some c ∧ (Sql.isBlank c = true ∨ c = '(')) ∨
    ∃ c ∈ [')', ']', '"', '\'', '/'], head.getLast? = some c

/-- Where an `OUTPUT` clause goes: in front of the source or the condition of the outer statement,
or at its end. -/
structure OutputPlace (verb : DmlVerb) (head tail : List Char) : Prop where
  unopened : (Sql.readAll sqlServerQuotes .between head).1.isOutside = true
  front : ∃ tokens, Sql.tokens sqlServerQuotes head = some tokens ∧ Sql.depth tokens = 0 ∧
    FrontOf verb tokens
  behind : tail = [] ∧ verb ≠ .insert ∨
    Parted head tail ∧ ∃ word ∈ outputWords verb,
      Sql.firstWord (unwrapped verb tail) = word.toList

/-! ## Where the words are found -/

def BeginsWith (word : String) (text : List Char) : Prop := word.toList <+: toAsciiUppercase text

def HasWord (word : String) (text : List Char) : Prop := word.toList <:+: toAsciiUppercase text

instance (word : String) (text : List Char) : Decidable (BeginsWith word text) :=
  inferInstanceAs (Decidable (word.toList <+: toAsciiUppercase text))

instance (word : String) (text : List Char) : Decidable (HasWord word text) :=
  inferInstanceAs (Decidable (word.toList <:+: toAsciiUppercase text))

/-- No `WHERE` stands behind a `SET`. -/
def NoWhereBehindSet (text : List Char) : Prop :=
  NoneBehind " SET".toList " WHERE".toList (toAsciiUppercase text)

/-- The search for the words ends between these texts. -/
inductive OutputFound (head tail : List Char) : Prop
  | values (here : BeginsWith " VALUES" tail) (last : ¬ HasWord " VALUES" tail.tail)
  | select (noValues : ¬ HasWord " VALUES" (head ++ tail)) (here : BeginsWith " SELECT" tail)
      (last : ¬ HasWord " SELECT" tail.tail)
  | whereBehindSet (noValues : ¬ HasWord " VALUES" (head ++ tail))
      (noSelect : ¬ HasWord " SELECT" (head ++ tail)) (here : BeginsWith " WHERE" tail)
      (sets : HasWord " SET" head) (first : NoWhereBehindSet head)
  | whereOfDelete (noValues : ¬ HasWord " VALUES" (head ++ tail))
      (noSelect : ¬ HasWord " SELECT" (head ++ tail)) (noSet : ¬ HasWord " SET" (head ++ tail))
      (deletes : BeginsWith "DELETE" (head ++ tail)) (here : BeginsWith " WHERE" tail)
      (first : ¬ HasWord " WHERE" head)
  | atEnd (noValues : ¬ HasWord " VALUES" (head ++ tail))
      (noSelect : ¬ HasWord " SELECT" (head ++ tail)) (here : tail = [])
      (noWhere : NoWhereBehindSet head)
      (noWhere' : ¬ HasWord " SET" head → BeginsWith "DELETE" head → ¬ HasWord " WHERE" head)

/-! ## The place that is found -/

/-- Where the clause is put. -/
def outputPosition (text : List Char) : Nat :=
  match rfind " VALUES" (toAsciiUppercase text) with
  | some pos => pos
  | none =>
    match rfind " SELECT" (toAsciiUppercase text) with
    | some pos => pos
    | none =>
      if " SET".toList <:+: toAsciiUppercase text then
        (firstBehind " SET".toList " WHERE".toList (toAsciiUppercase text)).getD text.length
      else if "DELETE".toList <+: toAsciiUppercase text then
        (find " WHERE" (toAsciiUppercase text)).getD text.length
      else text.length

theorem outputAt_length (text : List Char) (cols : String) :
    outputAt text cols text.length = text ++ s!" OUTPUT {cols}".toList := by
  rw [outputAt, List.take_length, List.drop_length, List.append_nil]

theorem insertOutput_eq (text : List Char) (cols : String) :
    insertOutput text cols = outputAt text cols (outputPosition text) := by
  unfold insertOutput outputPosition
  dsimp only
  generalize toAsciiUppercase text = upper
  rcases rfind " VALUES" upper with _ | pos
  · rcases rfind " SELECT" upper with _ | pos
    · dsimp only
      rcases sets : find " SET" upper with _ | setPos
      · rw [find, firstAt_eq_none_iff (by decide)] at sets
        rw [if_neg sets]
        dsimp only
        split_ifs
        · rcases find " WHERE" upper with _ | wherePos
          · exact (outputAt_length text cols).symm
          · rfl
        · exact (outputAt_length text cols).symm
      · have inside : " SET".toList <:+: upper :=
          (prefix_of_firstAt sets).isInfix.trans (List.drop_suffix setPos upper).isInfix
        rw [if_pos inside, firstBehind]
        rw [find] at sets
        rw [sets, Option.bind_some]
        dsimp only [find]
        rcases firstAt " WHERE".toList (upper.drop setPos) with _ | wherePos
        · exact (outputAt_length text cols).symm
        · rfl
    · rfl
  · rfl

theorem toAsciiUppercase_append (front back : List Char) :
    toAsciiUppercase (front ++ back) = toAsciiUppercase front ++ toAsciiUppercase back :=
  List.map_append

theorem length_toAsciiUppercase (text : List Char) :
    (toAsciiUppercase text).length = text.length := List.length_map _

theorem marked_of_decide {word : List Char} (begins : word.head? = some ' ')
    (once : ' ' ∉ word.tail) : Marked ' ' word := by
  obtain ⟨rest, rfl⟩ := List.head?_eq_some_iff.mp begins
  exact ⟨rest, rfl, once⟩

theorem marked_set : Marked ' ' " SET".toList :=
  marked_of_decide (by decide) (by decide)

theorem marked_where : Marked ' ' " WHERE".toList :=
  marked_of_decide (by decide) (by decide)

theorem marked_output : Marked ' ' " OUTPUT".toList :=
  marked_of_decide (by decide) (by decide)

/-- No text begins with both words. -/
theorem begins_apart {one other text : List Char} (long : one.length ≤ other.length)
    (differ : ¬ one <+: other) (begins : one <+: text) : ¬ other <+: text :=
  fun begins' => differ (List.prefix_of_prefix_length_le begins begins' long)

theorem rfind_append_iff {word : String} (letters : word.toList ≠ []) (head tail : List Char) :
    rfind word (toAsciiUppercase (head ++ tail)) = some head.length ↔
      BeginsWith word tail ∧ ¬ HasWord word tail.tail := by
  rw [rfind, toAsciiUppercase_append, ← length_toAsciiUppercase head, lastAt_append_iff letters]
  rw [toAsciiUppercase, ← List.map_tail]
  rfl

theorem rfind_eq_none_iff {word : String} (letters : word.toList ≠ []) (text : List Char) :
    rfind word (toAsciiUppercase text) = none ↔ ¬ HasWord word text :=
  lastAt_eq_none_iff letters _

theorem HasWord.of_begins {word : String} {head tail : List Char} (begins : BeginsWith word tail) :
    HasWord word (head ++ tail) := by
  rw [HasWord, toAsciiUppercase_append]
  exact begins.isInfix.trans List.infix_append_right

theorem HasWord.append {word : String} {head : List Char} (inside : HasWord word head)
    (tail : List Char) : HasWord word (head ++ tail) := by
  rw [HasWord, toAsciiUppercase_append]
  exact inside.trans List.infix_append_left

theorem NoWhereBehindSet.of_not_set {text : List Char} (noSet : ¬ HasWord " SET" text) :
    NoWhereBehindSet text := by
  intro before behind split begins _
  refine noSet (begins.isInfix.trans ?_)
  rw [split]
  exact List.infix_append_right

theorem getD_length_eq_iff (found : Option Nat) (head tail : List Char) :
    found.getD (head ++ tail).length = head.length ↔
      found = some head.length ∨ found = none ∧ tail = [] := by
  cases found with
  | none =>
      rw [Option.getD_none, List.length_append]
      simp [List.length_eq_zero_iff]
  | some pos => simp

theorem set_where_apart (text : List Char) : " SET".toList <+: text → ¬ " WHERE".toList <+: text :=
  begins_apart (by decide) (by decide)

section

variable {head tail : List Char} (noValues : ¬ HasWord " VALUES" (head ++ tail))
  (noSelect : ¬ HasWord " SELECT" (head ++ tail))

include noValues noSelect

/-- The search behind a `SET`. -/
theorem outputFound_of_set_iff (sets : HasWord " SET" (head ++ tail)) :
    (firstBehind " SET".toList " WHERE".toList (toAsciiUppercase (head ++ tail))).getD
      (head ++ tail).length = head.length ↔ OutputFound head tail := by
  rw [getD_length_eq_iff]
  constructor
  · rintro (found | ⟨none, rfl⟩)
    · rw [toAsciiUppercase_append, ← length_toAsciiUppercase head,
        firstBehind_append_iff marked_set marked_where set_where_apart] at found
      exact .whereBehindSet noValues noSelect found.1 found.2.1 found.2.2
    · rw [firstBehind_eq_none_iff marked_set.ne_nil marked_where.ne_nil, List.append_nil] at none
      rw [List.append_nil] at sets
      exact .atEnd noValues noSelect rfl none fun noSet => absurd sets noSet
  · intro found
    cases found with
    | values here _ => exact absurd (.of_begins here) noValues
    | select _ here _ => exact absurd (.of_begins here) noSelect
    | whereBehindSet _ _ here sets first =>
        left
        rw [toAsciiUppercase_append, ← length_toAsciiUppercase head,
          firstBehind_append_iff marked_set marked_where set_where_apart]
        exact ⟨here, sets, first⟩
    | whereOfDelete _ _ noSet _ _ _ => exact absurd sets noSet
    | atEnd _ _ here noWhere _ =>
        right
        rw [firstBehind_eq_none_iff marked_set.ne_nil marked_where.ne_nil, here, List.append_nil]
        exact ⟨noWhere, rfl⟩

/-- The search in a text that begins with `DELETE`. -/
theorem outputFound_of_delete_iff (noSet : ¬ HasWord " SET" (head ++ tail))
    (deletes : BeginsWith "DELETE" (head ++ tail)) :
    (find " WHERE" (toAsciiUppercase (head ++ tail))).getD (head ++ tail).length = head.length ↔
      OutputFound head tail := by
  rw [getD_length_eq_iff, find]
  constructor
  · rintro (found | ⟨none, rfl⟩)
    · rw [toAsciiUppercase_append, ← length_toAsciiUppercase head,
        firstAt_append_iff marked_where] at found
      exact .whereOfDelete noValues noSelect noSet deletes found.1 found.2
    · rw [firstAt_eq_none_iff marked_where.ne_nil, List.append_nil] at none
      rw [List.append_nil] at noSet
      exact .atEnd noValues noSelect rfl (.of_not_set noSet) fun _ _ => none
  · intro found
    cases found with
    | values here _ => exact absurd (.of_begins here) noValues
    | select _ here _ => exact absurd (.of_begins here) noSelect
    | whereBehindSet _ _ _ sets _ => exact absurd (sets.append tail) noSet
    | whereOfDelete _ _ _ _ here first =>
        left
        rw [toAsciiUppercase_append, ← length_toAsciiUppercase head,
          firstAt_append_iff marked_where]
        exact ⟨here, first⟩
    | atEnd _ _ here _ noWhere' =>
        right
        rw [here, List.append_nil] at noSet deletes ⊢
        rw [firstAt_eq_none_iff marked_where.ne_nil]
        exact ⟨noWhere' noSet deletes, rfl⟩

end

/-- The clause is put between two texts exactly when the search ends there. -/
theorem outputPosition_eq_iff (head tail : List Char) :
    outputPosition (head ++ tail) = head.length ↔ OutputFound head tail := by
  have letters : " VALUES".toList ≠ [] := by decide
  have letters' : " SELECT".toList ≠ [] := by decide
  have valuesHere := rfind_append_iff letters head tail
  have selectHere := rfind_append_iff letters' head tail
  have valuesNone := rfind_eq_none_iff letters (head ++ tail)
  have selectNone := rfind_eq_none_iff letters' (head ++ tail)
  rw [outputPosition]
  rcases values : rfind " VALUES" (toAsciiUppercase (head ++ tail)) with _ | pos
  · have noValues := valuesNone.mp values
    rcases select : rfind " SELECT" (toAsciiUppercase (head ++ tail)) with _ | pos
    · have noSelect := selectNone.mp select
      dsimp only
      split_ifs with sets deletes
      · exact outputFound_of_set_iff noValues noSelect sets
      · exact outputFound_of_delete_iff noValues noSelect sets deletes
      · rw [List.length_append]
        constructor
        · intro same
          obtain rfl : tail = [] := List.length_eq_zero_iff.mp (by omega)
          rw [List.append_nil] at sets deletes
          exact .atEnd noValues noSelect rfl (.of_not_set sets)
            fun _ deletes' => absurd deletes' deletes
        · intro found
          cases found with
          | values here _ => exact absurd (.of_begins here) noValues
          | select _ here _ => exact absurd (.of_begins here) noSelect
          | whereBehindSet _ _ _ sets' _ => exact absurd (sets'.append tail) sets
          | whereOfDelete _ _ _ deletes' _ _ => exact absurd deletes' deletes
          | atEnd _ _ here _ _ => rw [here, List.length_nil, Nat.add_zero]
    · dsimp only
      rw [← Option.some_inj, ← select, selectHere]
      constructor
      · exact fun found => .select noValues found.1 found.2
      · intro found
        have selects : HasWord " SELECT" (head ++ tail) := by
          by_contra none
          exact absurd (select.symm.trans (selectNone.mpr none)) (Option.some_ne_none pos)
        cases found with
        | values here _ => exact absurd (.of_begins here) noValues
        | select _ here last => exact ⟨here, last⟩
        | whereBehindSet _ none | whereOfDelete _ none | atEnd _ none => exact absurd selects none
  · dsimp only
    rw [← Option.some_inj, ← values, valuesHere]
    constructor
    · exact fun found => .values found.1 found.2
    · intro found
      have inside : HasWord " VALUES" (head ++ tail) := by
        by_contra none
        exact absurd (values.symm.trans (valuesNone.mpr none)) (Option.some_ne_none pos)
      cases found with
      | values here last => exact ⟨here, last⟩
      | select none | whereBehindSet none | whereOfDelete none | atEnd none =>
          exact absurd inside none

theorem outputPosition_le (text : List Char) : outputPosition text ≤ text.length := by
  have upper := length_toAsciiUppercase text
  rw [outputPosition]
  rcases values : rfind " VALUES" (toAsciiUppercase text) with _ | pos
  · rcases select : rfind " SELECT" (toAsciiUppercase text) with _ | pos
    · dsimp only
      split_ifs
      · rcases found :
          firstBehind " SET".toList " WHERE".toList (toAsciiUppercase text) with _ | pos
        · exact Nat.le_refl _
        · exact upper ▸ (lt_of_firstBehind marked_where.ne_nil found).le
      · rcases found : find " WHERE" (toAsciiUppercase text) with _ | pos
        · exact Nat.le_refl _
        · exact upper ▸ (lt_of_firstAt marked_where.ne_nil found).le
      · exact Nat.le_refl _
    · exact upper ▸ (lt_of_lastAt (by decide) select).le
  · exact upper ▸ (lt_of_lastAt (by decide) values).le

/-- No such clause stands behind the place that is found. -/
theorem OutputFound.not_output {head tail : List Char} (found : OutputFound head tail) :
    ¬ " OUTPUT".toList <+: tail := by
  intro output
  have upper : " OUTPUT".toList <+: toAsciiUppercase tail := output.map Char.toUpper
  cases found with
  | values here _ => exact begins_apart (by decide) (by decide) here upper
  | select _ here _ => exact begins_apart (by decide) (by decide) here upper
  | whereBehindSet _ _ here _ _ =>
      exact begins_apart (by decide) (by decide) here upper
  | whereOfDelete _ _ _ _ here _ =>
      exact begins_apart (by decide) (by decide) here upper
  | atEnd _ _ here _ _ =>
      rw [here] at output
      exact marked_output.ne_nil (List.prefix_nil.mp output)

theorem firstWord_output (verb : DmlVerb) (rest : List Char) :
    ['O', 'U'] <+: Sql.firstWord (unwrapped verb (" OUTPUT".toList ++ rest)) := by
  have written : " OUTPUT".toList ++ rest = ' ' :: 'O' :: 'U' :: ("TPUT".toList ++ rest) := rfl
  rw [written]
  generalize "TPUT".toList ++ rest = more
  refine ⟨(more.takeWhile Sql.isWordChar).map Char.toUpper, ?_⟩
  cases verb <;> rfl

theorem OutputPlace.not_output {verb : DmlVerb} {head tail : List Char}
    (place : OutputPlace verb head tail) : ¬ " OUTPUT".toList <+: tail := by
  rintro ⟨rest, rfl⟩
  have others : ∀ word ∈ outputWords verb, ¬ ['O', 'U'] <+: word.toList := by
    cases verb <;> decide
  rcases place.behind with ⟨empty, -⟩ | ⟨-, word, listed, starts⟩
  · cases empty
  · exact others word listed (starts ▸ firstWord_output verb rest)

theorem begins_output (cols : String) : " OUTPUT".toList <+: s!" OUTPUT {cols}".toList := by
  refine ⟨' ' :: cols.toList, ?_⟩
  simp [toString_text]

/-- A clause that goes between two texts is put there. -/
theorem outputFound_of_outputAt_eq {text head tail : List Char} {cols : String}
    (same : outputAt text cols (outputPosition text) =
      head ++ s!" OUTPUT {cols}".toList ++ tail)
    (whole : text = head ++ tail) (fresh : ¬ " OUTPUT".toList <+: tail) :
    OutputFound head tail := by
  have length : (text.take (outputPosition text)).length = outputPosition text :=
    List.length_take_of_le (outputPosition_le text)
  have split := List.take_append_drop (outputPosition text) text
  have found : OutputFound (text.take (outputPosition text)) (text.drop (outputPosition text)) := by
    rw [← outputPosition_eq_iff, split, length]
  rw [outputAt, List.append_assoc, List.append_assoc] at same
  have place := eq_of_inserted_eq marked_output (begins_output cols) (split.trans whole) same
    found.not_output fresh
  rw [← outputPosition_eq_iff, ← whole, ← place, length]

theorem length_outputAt (text : List Char) (cols : String) (pos : Nat) :
    (outputAt text cols pos).length = text.length + (s!" OUTPUT {cols}".toList).length := by
  have split := congrArg List.length (List.take_append_drop pos text)
  rw [List.length_append] at split
  rw [outputAt, List.length_append, List.length_append]
  omega

end OdbcFast.Verification
