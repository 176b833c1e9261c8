import Mathlib.Data.List.Basic
import Mathlib.Tactic.Common

/-!
# A list cut into portions

A list is cut from the front into portions of one size, the last of which may be shorter.
A size of zero counts as one. The empty list has no portion.
-/

namespace Wire

variable {α : Type*} {size limit : Nat} {xs portion : List α}

def portions (size : Nat) (xs : List α) : List (List α) :=
  if xs = [] then []
  else xs.take (max size 1) :: portions size (xs.drop (max size 1))
termination_by xs.length
decreasing_by
  have some := List.length_pos_of_ne_nil ‹xs ≠ []›
  rw [List.length_drop]
  omega

@[simp] theorem portions_nil (size : Nat) : portions size ([] : List α) = [] := by
  rw [portions, if_pos rfl]

theorem portions_of_ne_nil (size : Nat) (nonempty : xs ≠ []) :
    portions size xs = xs.take (max size 1) :: portions size (xs.drop (max size 1)) := by
  rw [portions, if_neg nonempty]

@[simp] theorem portions_eq_nil_iff : portions size xs = [] ↔ xs = [] := by
  constructor
  · intro none
    by_contra nonempty
    rw [portions_of_ne_nil size nonempty] at none
    cases none
  · rintro rfl
    exact portions_nil size

/-- The portions are the list. -/
theorem flatten_portions (size : Nat) (xs : List α) : (portions size xs).flatten = xs := by
  fun_induction portions size xs with
  | case1 => rfl
  | case2 xs _ ih => rw [List.flatten_cons, ih, List.take_append_drop]

theorem flatten_flatMap_portions (size : Nat) (lists : List (List α)) :
    (lists.flatMap (portions size)).flatten = lists.flatten := by
  induction lists with
  | nil => rfl
  | cons first lists ih =>
      rw [List.flatMap_cons, List.flatten_append, flatten_portions, ih, List.flatten_cons]

theorem length_le_of_mem_portions (member : portion ∈ portions size xs) :
    portion.length ≤ max size 1 := by
  fun_induction portions size xs with
  | case1 => cases member
  | case2 xs _ ih =>
      cases member with
      | head => exact List.length_take_le _ _
      | tail _ later => exact ih later

/-- The first portion is the longest. -/
theorem forall_mem_portions_length_le_iff :
    (∀ portion ∈ portions size xs, portion.length ≤ limit) ↔
      min (max size 1) xs.length ≤ limit := by
  fun_induction portions size xs with
  | case1 => simp
  | case2 xs nonempty ih =>
      rw [List.forall_mem_cons, ih, List.length_take, List.length_drop]
      omega

end Wire
