import Mathlib.Data.List.Infix
import Mathlib.Tactic.Common

/-!
# Where a word stands in a text

A word is searched for from the left or from the right. A word that begins with a mark which it
has nowhere else does not overlap itself, and does not go over the beginning of another such word.
-/

namespace Wire

variable {α : Type}

/-! ## Words that do not go over a letter -/

section

variable {word front back : List α} {letter : α}

theorem prefix_of_append_cons (apart : letter ∉ word) (begins : word <+: front ++ letter :: back) :
    word <+: front := by
  induction front generalizing word with
  | nil =>
      cases word with
      | nil => exact List.nil_prefix
      | cons w word =>
          rw [List.nil_append, List.cons_prefix_cons] at begins
          exact absurd (begins.1 ▸ List.mem_cons_self) apart
  | cons f front ih =>
      cases word with
      | nil => exact List.nil_prefix
      | cons w word =>
          rw [List.cons_append, List.cons_prefix_cons] at begins
          exact List.cons_prefix_cons.mpr
            ⟨begins.1, ih (fun there => apart (List.mem_cons_of_mem _ there)) begins.2⟩

/-- A word does not go over a letter that it does not have. -/
theorem infix_of_append_cons (apart : letter ∉ word) (inside : word <:+: front ++ letter :: back) :
    word <:+: front ∨ word <:+: back := by
  induction front with
  | nil =>
      rw [List.nil_append, List.infix_cons_iff] at inside
      rcases inside with begins | behind
      · exact .inl (@prefix_of_append_cons α word [] back letter apart begins).isInfix
      · exact .inr behind
  | cons f front ih =>
      rw [List.cons_append, List.infix_cons_iff] at inside
      rcases inside with begins | behind
      · rw [← List.cons_append] at begins
        exact .inl (prefix_of_append_cons apart begins).isInfix
      · exact (ih behind).imp List.infix_cons id

end

theorem lt_of_prefix_drop {word text : List α} {i : Nat} (letters : word ≠ [])
    (begins : word <+: text.drop i) : i < text.length := by
  by_contra long
  rw [List.drop_eq_nil_of_le (Nat.not_lt.mp long), List.prefix_nil] at begins
  exact letters begins

/-! ## Marked words -/

/-- The word begins with the mark and has it nowhere else. -/
def Marked (mark : α) (word : List α) : Prop := ∃ rest, word = mark :: rest ∧ mark ∉ rest

section

variable {mark : α} {word front back : List α}

theorem Marked.ne_nil (marked : Marked mark word) : word ≠ [] := by
  obtain ⟨rest, rfl, -⟩ := marked
  exact List.cons_ne_nil _ _

/-- A marked word that begins in front of a mark ends there. -/
theorem Marked.prefix_of_append (marked : Marked mark word) (some : front ≠ [])
    (begins : word <+: front ++ mark :: back) : word <+: front := by
  obtain ⟨rest, rfl, apart⟩ := marked
  cases front with
  | nil => exact absurd rfl some
  | cons f front =>
      rw [List.cons_append, List.cons_prefix_cons] at begins
      exact List.cons_prefix_cons.mpr ⟨begins.1, prefix_of_append_cons apart begins.2⟩

theorem Marked.exists_cons (marked : Marked mark word) (begins : word <+: back) :
    ∃ more, back = mark :: more := by
  obtain ⟨rest, rfl, -⟩ := marked
  obtain ⟨more, rfl⟩ := begins
  exact ⟨rest ++ more, rfl⟩

end

/-! ## Insertions -/

section

variable {mark : α} {word inserted : List α}

/-- What is moved over another text begins there too. -/
theorem prefix_of_swapped (marked : Marked mark word) (starts : word <+: inserted)
    {between behind : List α} (some : between ≠ [])
    (swapped : inserted ++ (between ++ behind) = between ++ (inserted ++ behind)) :
    word <+: between ++ behind := by
  have begins : word <+: between ++ (inserted ++ behind) := by
    rw [← swapped]
    exact starts.trans (List.prefix_append _ _)
  obtain ⟨more, written⟩ : ∃ more, inserted = mark :: more :=
    marked.exists_cons starts
  rw [written] at begins
  exact (marked.prefix_of_append some begins).trans (List.prefix_append _ _)

/-- A text that is inserted at two places and gives the same was inserted at one place, or stood
at one of them already. -/
theorem eq_of_inserted_eq (marked : Marked mark word) (starts : word <+: inserted)
    {front back front' back' : List α} (whole : front ++ back = front' ++ back')
    (same : front ++ (inserted ++ back) = front' ++ (inserted ++ back'))
    (fresh : ¬ word <+: back) (fresh' : ¬ word <+: back') : front = front' := by
  rcases List.append_eq_append_iff.mp whole with ⟨between, rfl, rfl⟩ | ⟨between, rfl, rfl⟩
  · by_cases some : between = []
    · rw [some, List.append_nil]
    · rw [List.append_assoc, List.append_cancel_left_eq] at same
      exact absurd (prefix_of_swapped marked starts some same) fresh
  · by_cases some : between = []
    · rw [some, List.append_nil]
    · rw [List.append_assoc, List.append_cancel_left_eq] at same
      exact absurd (prefix_of_swapped marked starts some same.symm) fresh'

end

/-! ## The first place and the last -/

variable [DecidableEq α]

/-- How far from the beginning the word stands first. -/
def firstAt (word : List α) : List α → Option Nat
  | [] => if word = [] then some 0 else none
  | x :: text => if word <+: x :: text then some 0 else (firstAt word text).map (· + 1)

/-- How far from the beginning it stands last. -/
def lastAt (word : List α) : List α → Option Nat
  | [] => if word = [] then some 0 else none
  | x :: text =>
    match lastAt word text with
    | some i => some (i + 1)
    | none => if word <+: x :: text then some 0 else none

section

variable {word : List α}

theorem firstAt_eq_none_iff (letters : word ≠ []) (text : List α) :
    firstAt word text = none ↔ ¬ word <:+: text := by
  induction text with
  | nil =>
      rw [firstAt, if_neg letters, List.infix_nil]
      exact iff_of_true rfl letters
  | cons x text ih =>
      rw [firstAt, List.infix_cons_iff, not_or]
      by_cases here : word <+: x :: text
      · rw [if_pos here]
        exact iff_of_false (Option.some_ne_none 0) fun others => others.1 here
      · rw [if_neg here, Option.map_eq_none_iff, ih, and_iff_right here]

theorem lastAt_eq_none_iff (letters : word ≠ []) (text : List α) :
    lastAt word text = none ↔ ¬ word <:+: text := by
  induction text with
  | nil =>
      rw [lastAt, if_neg letters, List.infix_nil]
      exact iff_of_true rfl letters
  | cons x text ih =>
      rw [lastAt, List.infix_cons_iff, not_or, ← ih]
      cases lastAt word text with
      | some i => exact iff_of_false (by simp) fun others => Option.some_ne_none i others.2
      | none =>
          by_cases here : word <+: x :: text
          · exact iff_of_false (by simp [here]) fun others => others.1 here
          · exact iff_of_true (by simp [here]) ⟨here, rfl⟩

theorem prefix_of_firstAt {text : List α} {i : Nat} (found : firstAt word text = some i) :
    word <+: text.drop i := by
  induction text generalizing i with
  | nil =>
      rw [firstAt] at found
      split_ifs at found with empty
      rw [empty]
      exact List.nil_prefix
  | cons x text ih =>
      rw [firstAt] at found
      split_ifs at found with here
      · cases found
        exact here
      · obtain ⟨j, later, rfl⟩ := Option.map_eq_some_iff.mp found
        exact ih later

theorem prefix_of_lastAt {text : List α} {i : Nat} (found : lastAt word text = some i) :
    word <+: text.drop i := by
  induction text generalizing i with
  | nil =>
      rw [lastAt] at found
      split_ifs at found with empty
      rw [empty]
      exact List.nil_prefix
  | cons x text ih =>
      rw [lastAt] at found
      rcases later : lastAt word text with _ | j
      · rw [later] at found
        dsimp only at found
        split_ifs at found with here
        cases found
        exact here
      · rw [later] at found
        cases found
        exact ih later

theorem lt_of_firstAt {text : List α} {i : Nat} (letters : word ≠ [])
    (found : firstAt word text = some i) : i < text.length :=
  lt_of_prefix_drop letters (prefix_of_firstAt found)

theorem lt_of_lastAt {text : List α} {i : Nat} (letters : word ≠ [])
    (found : lastAt word text = some i) : i < text.length :=
  lt_of_prefix_drop letters (prefix_of_lastAt found)

/-- The word does not stand further in front. -/
theorem firstAt_le {front back : List α} {i : Nat} (found : firstAt word (front ++ back) = some i)
    (begins : word <+: back) : i ≤ front.length := by
  induction front generalizing i with
  | nil =>
      cases back with
      | nil =>
          rw [List.nil_append, firstAt] at found
          split_ifs at found
          cases found
          exact Nat.le_refl _
      | cons x back =>
          rw [List.nil_append, firstAt, if_pos begins] at found
          cases found
          exact Nat.le_refl _
  | cons f front ih =>
      rw [List.cons_append, firstAt] at found
      split_ifs at found
      · cases found
        exact Nat.zero_le _
      · obtain ⟨j, later, rfl⟩ := Option.map_eq_some_iff.mp found
        exact Nat.succ_le_succ (ih later)

/-- Behind the last place of a word it does not stand again. -/
theorem lastAt_append_iff (letters : word ≠ []) (front back : List α) :
    lastAt word (front ++ back) = some front.length ↔ word <+: back ∧ ¬ word <:+: back.tail := by
  induction front with
  | nil =>
      cases back with
      | nil =>
          rw [List.nil_append, lastAt, if_neg letters, List.prefix_nil]
          exact iff_of_false (by simp) fun begins => letters begins.1
      | cons x back =>
          rw [List.nil_append, List.tail_cons, ← lastAt_eq_none_iff letters, lastAt]
          cases lastAt word back with
          | some i => simp
          | none => simp
  | cons f front ih =>
      rw [← ih, List.cons_append, lastAt]
      cases lastAt word (front ++ back) with
      | some i => simp
      | none =>
          dsimp only
          split_ifs <;> simp

theorem firstAt_append_iff {mark : α} (marked : Marked mark word) (front back : List α) :
    firstAt word (front ++ back) = some front.length ↔ word <+: back ∧ ¬ word <:+: front := by
  constructor
  · intro found
    have begins : word <+: back := by
      have there := prefix_of_firstAt found
      rwa [List.drop_left] at there
    refine ⟨begins, ?_⟩
    rintro ⟨before, behind, whole⟩
    rw [← whole, List.append_assoc, List.append_assoc] at found
    have early := firstAt_le found (List.prefix_append _ _)
    have letters := List.length_pos_iff.mpr marked.ne_nil
    simp only [List.length_append] at early
    omega
  · rintro ⟨begins, absent⟩
    obtain ⟨more, rfl⟩ := marked.exists_cons begins
    rcases found : firstAt word (front ++ mark :: more) with _ | i
    · rw [firstAt_eq_none_iff marked.ne_nil] at found
      exact absurd (begins.isInfix.trans List.infix_append_right) found
    · have early := firstAt_le found begins
      rcases Nat.lt_or_eq_of_le early with inside | there
      · have here := prefix_of_firstAt found
        rw [List.drop_append_of_le_length early] at here
        have some : front.drop i ≠ [] := by
          rw [Ne, List.drop_eq_nil_iff]
          omega
        have begins' := marked.prefix_of_append some here
        exact absurd (begins'.isInfix.trans (List.drop_suffix i front).isInfix) absent
      · rw [there]

end

/-! ## One word behind another -/

/-- The second word stands nowhere behind the first. -/
def NoneBehind (first second text : List α) : Prop :=
  ∀ before behind, text = before ++ behind → first <+: behind → ¬ second <:+: behind

/-- How far from the beginning the second word stands first behind the first place of the first. -/
def firstBehind (first second text : List α) : Option Nat :=
  (firstAt first text).bind fun i => (firstAt second (text.drop i)).map (i + ·)

section

variable {mark : α} {first second : List α}

theorem noneBehind_iff {text : List α} {i : Nat} (found : firstAt first text = some i) :
    NoneBehind first second text ↔ ¬ second <:+: text.drop i := by
  constructor
  · intro none
    exact none (text.take i) (text.drop i) (List.take_append_drop i text).symm
      (prefix_of_firstAt found)
  · rintro none before behind rfl begins inside
    refine none (inside.trans ?_)
    rw [List.drop_append_of_le_length (firstAt_le found begins)]
    exact List.infix_append_right

theorem firstBehind_eq_none_iff (letters : first ≠ []) (letters' : second ≠ []) (text : List α) :
    firstBehind first second text = none ↔ NoneBehind first second text := by
  rw [firstBehind]
  rcases found : firstAt first text with _ | i
  · rw [firstAt_eq_none_iff letters] at found
    refine iff_of_true rfl ?_
    rintro before behind rfl begins -
    exact found (begins.isInfix.trans List.infix_append_right)
  · rw [Option.bind_some, Option.map_eq_none_iff, firstAt_eq_none_iff letters',
      noneBehind_iff found]

theorem lt_of_firstBehind {text : List α} {i : Nat} (letters : second ≠ [])
    (found : firstBehind first second text = some i) : i < text.length := by
  obtain ⟨place, -, found⟩ := Option.bind_eq_some_iff.mp found
  obtain ⟨j, second', rfl⟩ := Option.map_eq_some_iff.mp found
  have early := lt_of_firstAt letters second'
  rw [List.length_drop] at early
  omega

/-- A text that goes on with a mark does not change where the word stands first. -/
theorem firstAt_append_of_inside (marked : Marked mark first) {front : List α}
    (inside : first <:+: front) (more : List α) :
    firstAt first (front ++ mark :: more) = firstAt first front := by
  induction front with
  | nil => exact absurd (List.infix_nil.mp inside) marked.ne_nil
  | cons f front ih =>
      rw [List.cons_append, firstAt, firstAt]
      by_cases here : first <+: f :: front
      · have here' : first <+: f :: (front ++ mark :: more) :=
          here.trans (List.prefix_append (f :: front) _)
        rw [if_pos here, if_pos here']
      · have later : ¬ first <+: f :: (front ++ mark :: more) := fun begins =>
          here (marked.prefix_of_append (List.cons_ne_nil f front) begins)
        rw [if_neg here, if_neg later, ih ((List.infix_cons_iff.mp inside).resolve_left here)]

theorem firstBehind_append_iff (marked : Marked mark first) (marked' : Marked mark second)
    (differ : ∀ text, first <+: text → ¬ second <+: text) (front back : List α) :
    firstBehind first second (front ++ back) = some front.length ↔
      second <+: back ∧ first <:+: front ∧ NoneBehind first second front := by
  constructor
  · intro found
    obtain ⟨i, first', found⟩ := Option.bind_eq_some_iff.mp found
    obtain ⟨j, second', sum⟩ := Option.map_eq_some_iff.mp found
    have early : i ≤ front.length := by omega
    have length : j = (front.drop i).length := by
      rw [List.length_drop]
      omega
    rw [List.drop_append_of_le_length early, length, firstAt_append_iff marked'] at second'
    obtain ⟨begins, absent⟩ := second'
    obtain ⟨more, rfl⟩ := marked'.exists_cons begins
    have here := prefix_of_firstAt first'
    rw [List.drop_append_of_le_length early] at here
    have letters : front.drop i ≠ [] := by
      intro empty
      rw [empty] at here
      exact differ _ here begins
    have inside := (marked.prefix_of_append letters here).isInfix.trans
      (List.drop_suffix i front).isInfix
    rw [firstAt_append_of_inside marked inside] at first'
    exact ⟨begins, inside, (noneBehind_iff first').mpr absent⟩
  · rintro ⟨begins, inside, none⟩
    obtain ⟨more, rfl⟩ := marked'.exists_cons begins
    rcases first' : firstAt first front with _ | i
    · rw [firstAt_eq_none_iff marked.ne_nil] at first'
      exact absurd inside first'
    · have early := (lt_of_firstAt marked.ne_nil first').le
      have absent := (noneBehind_iff first').mp none
      have second' := (firstAt_append_iff marked' (front.drop i) (mark :: more)).mpr
        ⟨begins, absent⟩
      rw [← List.drop_append_of_le_length early, List.length_drop] at second'
      rw [firstBehind, firstAt_append_of_inside marked inside, first', Option.bind_some, second',
        Option.map_some, Nat.add_sub_of_le early]

end

end Wire
