import Mathlib.Data.List.AList

/-!
# Maps that are searched by value

A hash map is a list of entries with distinct keys. Besides insertion, removal and
lookup, which are Mathlib's, a map is asked whether a value has some property and is
cut down to the entries that have one.
-/

namespace Wire

universe u v

/-- A map from keys of one type to values of another. -/
abbrev HashMap (κ : Type u) (α : Type v) := AList fun _ : κ => α

namespace HashMap

variable {κ : Type u} {α : Type v}

def anyValue (p : α → Bool) (m : HashMap κ α) : Bool := m.entries.any fun entry => p entry.2

def retain (p : κ → α → Bool) (m : HashMap κ α) : HashMap κ α where
  entries := m.entries.filter fun entry => p entry.1 entry.2
  nodupKeys := m.nodupKeys.sublist (List.filter_sublist)

variable [DecidableEq κ] {m : HashMap κ α} {key key' : κ} {value value' : α}

theorem anyValue_iff {p : α → Bool} :
    m.anyValue p = true ↔ ∃ key value, m.lookup key = some value ∧ p value = true := by
  rw [anyValue, List.any_eq_true]
  constructor
  · rintro ⟨⟨key, value⟩, member, holds⟩
    exact ⟨key, value, AList.mem_lookup_iff.mpr member, holds⟩
  · rintro ⟨key, value, found, holds⟩
    exact ⟨⟨key, value⟩, AList.mem_lookup_iff.mp found, holds⟩

theorem lookup_retain_eq_some {p : κ → α → Bool} :
    (m.retain p).lookup key = some value ↔ m.lookup key = some value ∧ p key value = true := by
  rw [← Option.mem_def, ← Option.mem_def, AList.mem_lookup_iff, AList.mem_lookup_iff, retain]
  exact List.mem_filter

theorem lookup_retain_eq_none {p : κ → α → Bool} :
    (m.retain p).lookup key = none ↔ ∀ value, m.lookup key = some value → p key value = false := by
  rw [Option.eq_none_iff_forall_ne_some]
  constructor
  · intro none value found
    by_contra holds
    rw [Bool.not_eq_false] at holds
    exact none value (lookup_retain_eq_some.mpr ⟨found, holds⟩)
  · intro dropped value found
    obtain ⟨found, holds⟩ := lookup_retain_eq_some.mp found
    cases holds.symm.trans (dropped value found)

/-- Exactly the entries that belong to something are gone, and the others are as they were. -/
def Clears (belongs : κ → α → Prop) (m m' : HashMap κ α) : Prop :=
  ∀ key value, m'.lookup key = some value ↔ m.lookup key = some value ∧ ¬ belongs key value

theorem clears_self_iff {belongs : κ → α → Prop} :
    Clears belongs m m ↔ ∀ key value, m.lookup key = some value → ¬ belongs key value :=
  forall_congr' fun _ => forall_congr' fun _ => iff_self_and

theorem clears_retain {belongs : κ → α → Prop} {p : κ → α → Bool}
    (keeps : ∀ key value, p key value = true ↔ ¬ belongs key value) :
    Clears belongs m (m.retain p) := fun key value => by
  rw [lookup_retain_eq_some, keeps]

theorem lookup_insert_eq_some :
    (m.insert key value).lookup key' = some value' ↔
      key' = key ∧ value' = value ∨ key' ≠ key ∧ m.lookup key' = some value' := by
  by_cases same : key' = key
  · subst same
    rw [AList.lookup_insert, Option.some.injEq, eq_comm]
    simp
  · rw [AList.lookup_insert_ne same]
    simp [same]

theorem lookup_erase_eq_some :
    (m.erase key).lookup key' = some value ↔ key' ≠ key ∧ m.lookup key' = some value := by
  by_cases same : key' = key
  · subst same
    simp [AList.lookup_erase]
  · rw [AList.lookup_erase_ne same, and_iff_right same]

theorem lookup_erase_eq_none :
    (m.erase key).lookup key' = none ↔ key' = key ∨ m.lookup key' = none := by
  by_cases same : key' = key
  · subst same
    simp [AList.lookup_erase]
  · rw [AList.lookup_erase_ne same, or_iff_right same]

theorem lookup_foldl_erase {keys : List κ} :
    (keys.foldl (fun m key => m.erase key) m).lookup key' =
      if key' ∈ keys then none else m.lookup key' := by
  induction keys generalizing m with
  | nil => rfl
  | cons key keys ih =>
      rw [List.foldl_cons, ih]
      by_cases same : key' = key
      · subst same
        simp [AList.lookup_erase]
      · rw [AList.lookup_erase_ne same]
        simp [same]

theorem isSome_lookup_insert (there : (m.lookup key').isSome) :
    ((m.insert key value).lookup key').isSome := by
  by_cases same : key' = key
  · rw [same, AList.lookup_insert]
    rfl
  · rwa [AList.lookup_insert_ne same]

end HashMap

end Wire
