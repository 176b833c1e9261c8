import Mathlib.Algebra.Order.Ring.Int
import Mathlib.Data.List.Perm.Basic
import Mathlib.Order.Basic
import Mathlib.Tactic.Common

/-!
# Sorted vectors

A binary search halves a range of a sorted list and then looks at the one element that is
left. Of elements that are equal it may find any one. What it does not find has a place,
where an insertion keeps the list sorted.

`insertSorted` and `removeSorted` keep a sorted list beside a collection that grows and
shrinks: the list stays a permutation of it.
-/

namespace Wire

variable {α : Type} [LinearOrder α]

/-- The range of `size` elements from `base` on, halved until one is left. -/
def narrow (xs : List α) (x : α) (base size : Nat) (inside : base + size ≤ xs.length)
    (positive : 0 < size) : Fin xs.length :=
  if more : 1 < size then
    if x < xs.get ⟨base + size / 2, by omega⟩ then narrow xs x base (size - size / 2) (by omega) (by omega)
    else narrow xs x (base + size / 2) (size - size / 2) (by omega) (by omega)
  else ⟨base, by omega⟩
termination_by size
decreasing_by all_goals omega

/-- `binary_search`: the place of the element, or the place where it could be inserted. -/
def binarySearch (xs : List α) (x : α) : Except Nat Nat :=
  if some : 0 < xs.length then
    let base := narrow xs x 0 xs.length (by omega) some
    if xs.get base = x then .ok base
    else if xs.get base < x then .error (base + 1)
    else .error base
  else .error 0

def insertSorted (xs : List α) (x : α) : List α :=
  match binarySearch xs x with
  | .ok index => xs.insertIdx index x
  | .error index => xs.insertIdx index x

def removeSorted (xs : List α) (x : α) : List α :=
  match binarySearch xs x with
  | .ok index => xs.eraseIdx index
  | .error _ => xs

variable {xs : List α} {x : α}

/-- In a sorted list what stands in front is not greater. -/
theorem le_of_mem_take {index : Nat} (sorted : xs.Pairwise (· ≤ ·)) (inside : index < xs.length)
    {a : α} (front : a ∈ xs.take index) : a ≤ xs[index] := by
  obtain ⟨place, early, rfl⟩ := List.mem_take_iff_getElem.mp front
  exact List.pairwise_iff_getElem.mp sorted place index _ inside (by omega)

theorem le_of_mem_drop {index : Nat} (sorted : xs.Pairwise (· ≤ ·)) (inside : index < xs.length)
    {a : α} (back : a ∈ xs.drop index) : xs[index] ≤ a := by
  rw [List.drop_eq_getElem_cons inside, List.mem_cons] at back
  obtain rfl | back := back
  · exact le_rfl
  · obtain ⟨place, late, rfl⟩ := List.mem_drop_iff_getElem.mp back
    exact List.pairwise_iff_getElem.mp sorted index _ inside _ (by omega)

/-- What the search keeps: nothing behind the range is too small, and the first element of the
range is not too great, unless the range starts the list. -/
theorem narrow_spec (sorted : xs.Pairwise (· ≤ ·)) {base size : Nat}
    {inside : base + size ≤ xs.length} {positive : 0 < size}
    (starts : base = 0 ∨ xs[base] ≤ x) (ends : ∀ a ∈ xs.drop (base + size), x < a)
    {place : Fin xs.length} (found : narrow xs x base size inside positive = place) :
    (place.val = 0 ∨ xs.get place ≤ x) ∧ ∀ a ∈ xs.drop (place.val + 1), x < a := by
  induction size using Nat.strongRecOn generalizing base with
  | _ size ih =>
      rw [narrow] at found
      split_ifs at found with more less
      · refine ih _ (by omega) starts (fun a back => ?_) found
        have middle : base + size / 2 < xs.length := by omega
        have later : a ∈ xs.drop (base + size / 2) := by
          have split : base + (size - size / 2) = base + size / 2 + (size - 2 * (size / 2)) := by
            omega
          rw [split, ← List.drop_drop] at back
          exact List.mem_of_mem_drop back
        exact less.trans_le (le_of_mem_drop sorted middle later)
      · refine ih _ (by omega) (.inr (not_lt.mp less)) (fun a back => ends a ?_) found
        have same : base + size / 2 + (size - size / 2) = base + size := by omega
        rwa [same] at back
      · have single : size = 1 := by omega
        subst single found
        exact ⟨starts, ends⟩

theorem get_of_binarySearch {index : Nat} (found : binarySearch xs x = .ok index) :
    ∃ place : Fin xs.length, place.val = index ∧ xs.get place = x := by
  rw [binarySearch] at found
  by_cases some : 0 < xs.length
  · rw [dif_pos some] at found
    dsimp only at found
    split_ifs at found with same less
    exact ⟨_, Except.ok.inj found, same⟩
  · rw [dif_neg some] at found
    cases found

/-- The place where an absent element could be inserted. -/
theorem binarySearch_error_spec (sorted : xs.Pairwise (· ≤ ·)) {index : Nat}
    (missing : binarySearch xs x = .error index) :
    index ≤ xs.length ∧ (∀ a ∈ xs.take index, a < x) ∧ ∀ a ∈ xs.drop index, x < a := by
  rw [binarySearch] at missing
  by_cases some : 0 < xs.length
  · rw [dif_pos some] at missing
    obtain ⟨starts, ends⟩ := narrow_spec sorted (.inl rfl) (by simp)
      (rfl : narrow xs x 0 xs.length (by omega) some = _)
    generalize narrow xs x 0 xs.length _ some = base at missing starts ends
    dsimp only at missing
    split_ifs at missing with same less
    · cases missing
      refine ⟨base.isLt, fun a front => ?_, ends⟩
      rw [List.take_add_one, List.getElem?_eq_getElem base.isLt] at front
      obtain front | last := List.mem_append.mp front
      · exact (le_of_mem_take sorted base.isLt front).trans_lt less
      · exact List.mem_singleton.mp last ▸ less
    · cases missing
      have greater : x < xs.get base := lt_of_le_of_ne (not_lt.mp less) (Ne.symm same)
      have first : base.val = 0 := starts.resolve_right (not_le.mpr greater)
      refine ⟨Nat.le_of_lt base.isLt, fun a front => ?_, fun a back => ?_⟩
      · rw [first] at front
        cases front
      · exact greater.trans_le (le_of_mem_drop sorted base.isLt back)
  · rw [dif_neg some] at missing
    cases missing
    obtain rfl := List.eq_nil_of_length_eq_zero (Nat.eq_zero_of_not_pos some)
    exact ⟨Nat.zero_le 0, fun a front => (by cases front), fun a back => (by cases back)⟩

/-! ## Insertion and removal -/

theorem insertIdx_eq_append {β : Type} {xs : List β} {index : Nat} (inside : index ≤ xs.length)
    (x : β) : xs.insertIdx index x = xs.take index ++ x :: xs.drop index := by
  induction xs generalizing index with
  | nil =>
      obtain rfl := Nat.le_zero.mp inside
      rfl
  | cons y ys ih =>
      cases index with
      | zero => rfl
      | succ index => exact congrArg (y :: ·) (ih (Nat.le_of_succ_le_succ inside))

/-- An element put between the smaller and the greater ones. -/
theorem pairwise_insertIdx {index : Nat} (sorted : xs.Pairwise (· ≤ ·))
    (below : ∀ a ∈ xs.take index, a ≤ x) (above : ∀ a ∈ xs.drop index, x ≤ a) :
    (xs.insertIdx index x).Pairwise (· ≤ ·) := by
  by_cases inside : index ≤ xs.length
  · rw [← List.take_append_drop index xs, List.pairwise_append] at sorted
    obtain ⟨front, back, across⟩ := sorted
    rw [insertIdx_eq_append inside, List.pairwise_append, List.pairwise_cons]
    refine ⟨front, ⟨above, back⟩, fun a early b late => ?_⟩
    obtain rfl | later := List.mem_cons.mp late
    · exact below a early
    · exact across a early b later
  · rw [List.insertIdx_of_length_lt (Nat.not_le.mp inside)]
    exact sorted

theorem pairwise_insertSorted (sorted : xs.Pairwise (· ≤ ·)) (x : α) :
    (insertSorted xs x).Pairwise (· ≤ ·) := by
  rw [insertSorted]
  cases searched : binarySearch xs x with
  | ok index =>
      obtain ⟨place, rfl, same⟩ := get_of_binarySearch searched
      apply pairwise_insertIdx sorted
      · exact fun a front => same ▸ le_of_mem_take sorted place.isLt front
      · exact fun a back => same ▸ le_of_mem_drop sorted place.isLt back
  | error index =>
      obtain ⟨-, below, above⟩ := binarySearch_error_spec sorted searched
      exact pairwise_insertIdx sorted (fun a front => (below a front).le)
        fun a back => (above a back).le

theorem perm_insertSorted (sorted : xs.Pairwise (· ≤ ·)) (x : α) :
    (insertSorted xs x).Perm (x :: xs) := by
  rw [insertSorted]
  cases searched : binarySearch xs x with
  | ok index =>
      obtain ⟨place, rfl, -⟩ := get_of_binarySearch searched
      exact List.perm_insertIdx x xs (Nat.le_of_lt place.isLt)
  | error index => exact List.perm_insertIdx x xs (binarySearch_error_spec sorted searched).1

/-- What is there is found. -/
theorem exists_binarySearch_of_mem (sorted : xs.Pairwise (· ≤ ·)) (member : x ∈ xs) :
    ∃ index, binarySearch xs x = .ok index := by
  cases searched : binarySearch xs x with
  | ok index => exact ⟨index, rfl⟩
  | error index =>
      obtain ⟨-, below, above⟩ := binarySearch_error_spec sorted searched
      rw [← List.take_append_drop index xs, List.mem_append] at member
      obtain front | back := member
      · exact absurd (below x front) (lt_irrefl x)
      · exact absurd (above x back) (lt_irrefl x)

theorem pairwise_removeSorted (sorted : xs.Pairwise (· ≤ ·)) (x : α) :
    (removeSorted xs x).Pairwise (· ≤ ·) := by
  rw [removeSorted]
  cases binarySearch xs x with
  | ok index => exact sorted.eraseIdx index
  | error index => exact sorted

/-- The removal of an element that is there takes it away once. -/
theorem perm_cons_removeSorted (sorted : xs.Pairwise (· ≤ ·)) (member : x ∈ xs) :
    (x :: removeSorted xs x).Perm xs := by
  obtain ⟨index, searched⟩ := exists_binarySearch_of_mem sorted member
  obtain ⟨place, rfl, same⟩ := get_of_binarySearch searched
  rw [removeSorted, searched]
  exact same ▸ List.getElem_cons_eraseIdx_perm place.isLt

end Wire
