import Mathlib.Data.Finset.Card
import Mathlib.Data.List.Nodup

/-!
# The most recently used keys

Keys are used again and again. In the order of their last uses each of them stands once, and
the first few are what a cache of bounded size should hold.

An `LruCache` is such a cache as a library offers it: it keeps keys in an order of its own, and
putting a new one into a full cache drops the last. A look whether a key is there leaves the
order as it is.

An `LruMap` keeps a value with each key, and a value that is read comes to the front. An entry
stays as long as fewer other keys are used than the cache has room for.
-/

namespace Wire

variable {κ : Type} [DecidableEq κ]

/-- The keys of some uses, newest first, each where it was used last. -/
def recent : List κ → List κ
  | [] => []
  | key :: uses => key :: (recent uses).erase key

theorem nodup_recent (uses : List κ) : (recent uses).Nodup := by
  induction uses with
  | nil => exact List.nodup_nil
  | cons key uses ih =>
      rw [recent, List.nodup_cons]
      exact ⟨ih.not_mem_erase, ih.erase key⟩

/-! ## Moving a key to the front -/

section

variable {key : κ} {keys others : List κ} {size : Nat}

/-- A key among the first few is moved to their front: they stay the same keys. -/
theorem mem_take_toFront (nodup : keys.Nodup) (early : key ∈ keys.take size) (other : κ) :
    other ∈ (key :: keys.erase key).take size ↔ other ∈ keys.take size := by
  obtain ⟨front, back, split⟩ := List.append_of_mem (List.mem_of_mem_take early)
  rw [split] at nodup early ⊢
  have absent : key ∉ front := by
    intro member
    exact (List.nodup_append.mp nodup).2.2 key member key List.mem_cons_self rfl
  have short : front.length < size := by
    rw [List.take_append] at early
    rcases List.mem_append.mp early with member | member
    · exact absurd (List.mem_of_mem_take member) absent
    · by_contra long
      rw [Nat.sub_eq_zero_of_le (Nat.not_lt.mp long)] at member
      cases member
  obtain ⟨rest, rfl⟩ := Nat.exists_eq_add_of_lt short
  rw [List.erase_append_right _ absent, List.erase_cons_head, List.take_succ_cons,
    List.take_length_add_append, Nat.add_assoc, List.take_length_add_append, List.take_succ_cons]
  simp only [List.mem_cons, List.mem_append]
  tauto

/-- A key that is not among the first few comes in front of all but the last of them. -/
theorem take_toFront (late : key ∉ keys.take (size + 1)) :
    (key :: keys.erase key).take (size + 1) = key :: keys.take size := by
  rw [List.take_succ_cons]
  congr 1
  by_cases member : key ∈ keys
  · obtain ⟨front, back, absent, split, erased⟩ := List.exists_erase_eq member
    rw [erased, split]
    have long : size ≤ front.length := by
      by_contra short
      refine late ?_
      rw [split, List.take_append]
      refine List.mem_append_right _ ?_
      rw [show size + 1 - front.length = size - front.length + 1 by omega, List.take_succ_cons]
      exact List.mem_cons_self
    rw [List.take_append_of_le_length long, List.take_append_of_le_length long]
  · rw [List.erase_of_not_mem member]

omit [DecidableEq κ] in
/-- A key in front of two lists that are without it. -/
theorem mem_cons_congr_iff (absent : key ∉ keys) (absent' : key ∉ others) :
    (∀ other, other ∈ key :: keys ↔ other ∈ key :: others) ↔
      ∀ other, other ∈ keys ↔ other ∈ others := by
  simp only [List.mem_cons]
  refine forall_congr' fun other => ⟨fun same => ?_, fun same => or_congr_right same⟩
  by_cases here : other = key
  · rw [here]
    exact iff_of_false absent absent'
  · rwa [or_iff_right here, or_iff_right here] at same

omit [DecidableEq κ] in
theorem not_mem_of_nodup_concat {last : κ} (nodup : (keys ++ [last]).Nodup) : last ∉ keys := by
  intro member
  exact (List.nodup_append.mp nodup).2.2 last member last List.mem_cons_self rfl

omit [DecidableEq κ] in
/-- Two lists with the same keys have the same without the last of each exactly when the last
ones are the same. -/
theorem mem_dropLast_iff (nodup : keys.Nodup) (nodup' : others.Nodup)
    (same : ∀ key, key ∈ keys ↔ key ∈ others) :
    (∀ key, key ∈ keys.dropLast ↔ key ∈ others.dropLast) ↔
      keys.getLast? = others.getLast? := by
  rcases List.eq_nil_or_concat keys with rfl | ⟨front, last, rfl⟩
  · have none : others = [] :=
      List.eq_nil_iff_forall_not_mem.mpr fun key member => by simpa using (same key).mpr member
    rw [none]
    exact iff_of_true (fun _ => Iff.rfl) rfl
  rcases List.eq_nil_or_concat others with rfl | ⟨front', last', rfl⟩
  · have member := (same last).mp (by simp)
    cases member
  simp only [List.concat_eq_append] at nodup nodup' same ⊢
  have apart := not_mem_of_nodup_concat nodup
  have apart' := not_mem_of_nodup_concat nodup'
  simp only [List.mem_append, List.mem_singleton] at same
  rw [List.dropLast_concat, List.dropLast_concat, List.getLast?_concat, List.getLast?_concat,
    Option.some_inj]
  constructor
  · intro equal
    rcases (same last).mp (.inr rfl) with member | here
    · exact absurd ((equal last).mpr member) apart
    · exact here
  · rintro rfl key
    constructor
    · intro member
      rcases (same key).mp (.inl member) with there | rfl
      · exact there
      · exact absurd member apart
    · intro member
      rcases (same key).mpr (.inl member) with there | rfl
      · exact there
      · exact absurd member apart'

end

/-! ## Caches -/

/-- A cache of keys with the laws that its documentation gives. -/
structure LruCache (κ : Type) [DecidableEq κ] where
  State : Type
  new : Nat → State
  contains : κ → State → Bool
  put : κ → State → State
  clear : State → State
  len : State → Nat
  capacity : State → Nat
  /-- Those that are dropped last come first. -/
  keys : State → List κ
  keys_new : ∀ size, keys (new size) = []
  capacity_new : ∀ size, capacity (new size) = size
  contains_iff : ∀ key state, contains key state = true ↔ key ∈ keys state
  keys_put : ∀ key state,
    keys (put key state) = (key :: (keys state).erase key).take (capacity state)
  capacity_put : ∀ key state, capacity (put key state) = capacity state
  keys_clear : ∀ state, keys (clear state) = []
  capacity_clear : ∀ state, capacity (clear state) = capacity state
  len_eq : ∀ state, len state = (keys state).length

namespace LruCache

/-- The cache that is the list of its keys. -/
def ofList (κ : Type) [DecidableEq κ] : LruCache κ where
  State := List κ × Nat
  new size := ([], size)
  contains key state := key ∈ state.1
  put key state := ((key :: state.1.erase key).take state.2, state.2)
  clear state := ([], state.2)
  len state := state.1.length
  capacity := Prod.snd
  keys := Prod.fst
  keys_new _ := rfl
  capacity_new _ := rfl
  contains_iff _ _ := decide_eq_true_iff
  keys_put _ _ := rfl
  capacity_put _ _ := rfl
  keys_clear _ := rfl
  capacity_clear _ := rfl
  len_eq _ := rfl

end LruCache

/-! ## Caches with values -/

section

variable {ν : Type} {key key' : κ} {value value' : ν} {entries : List (κ × ν)}

/-- The entries of the other keys. -/
def without (key : κ) (entries : List (κ × ν)) : List (κ × ν) :=
  entries.filter fun entry => entry.1 ≠ key

/-- The entry of the key in front of the others. -/
def promoted (key : κ) (entries : List (κ × ν)) : List (κ × ν) :=
  (entries.filter fun entry => entry.1 = key) ++ without key entries

theorem mem_without {entry : κ × ν} :
    entry ∈ without key entries ↔ entry ∈ entries ∧ entry.1 ≠ key := by
  simp [without]

theorem mem_promoted {entry : κ × ν} : entry ∈ promoted key entries ↔ entry ∈ entries := by
  simp only [promoted, List.mem_append, mem_without, List.mem_filter, decide_eq_true_iff]
  tauto

theorem not_mem_keys_without : key ∉ (without key entries).map Prod.fst := by
  intro member
  obtain ⟨entry, here, rfl⟩ := List.mem_map.mp member
  exact (mem_without.mp here).2 rfl

theorem nodup_without (nodup : (entries.map Prod.fst).Nodup) :
    ((without key entries).map Prod.fst).Nodup :=
  nodup.sublist (List.filter_sublist.map _)

theorem nodup_put (key : κ) (value : ν) (nodup : (entries.map Prod.fst).Nodup) (size : Nat) :
    ((((key, value) :: without key entries).take size).map Prod.fst).Nodup := by
  refine List.Nodup.sublist ((List.take_sublist _ _).map _) ?_
  rw [List.map_cons, List.nodup_cons]
  exact ⟨not_mem_keys_without, nodup_without nodup⟩

theorem perm_promoted (key : κ) (entries : List (κ × ν)) : (promoted key entries).Perm entries := by
  have split := List.filter_append_perm (fun entry : κ × ν => decide (entry.1 = key)) entries
  simpa only [promoted, without, ne_eq, decide_not] using split

theorem nodup_promoted (nodup : (entries.map Prod.fst).Nodup) :
    ((promoted key entries).map Prod.fst).Nodup :=
  ((perm_promoted key entries).map Prod.fst).nodup_iff.mpr nodup

end

/-- A cache of values with the laws that its documentation gives. -/
structure LruMap (κ ν : Type) [DecidableEq κ] where
  State : Type
  new : Nat → State
  /-- The value, and the cache after the look. -/
  get : κ → State → Option ν × State
  put : κ → ν → State → State
  pop : κ → State → State
  clear : State → State
  len : State → Nat
  capacity : State → Nat
  /-- The newest comes first. -/
  entries : State → List (κ × ν)
  nodup_entries : ∀ state, ((entries state).map Prod.fst).Nodup
  entries_new : ∀ size, entries (new size) = []
  capacity_new : ∀ size, capacity (new size) = size
  get_eq_some : ∀ key value state, (get key state).1 = some value ↔ (key, value) ∈ entries state
  entries_get : ∀ key state, entries (get key state).2 = promoted key (entries state)
  capacity_get : ∀ key state, capacity (get key state).2 = capacity state
  entries_put : ∀ key value state, entries (put key value state) =
    ((key, value) :: without key (entries state)).take (capacity state)
  capacity_put : ∀ key value state, capacity (put key value state) = capacity state
  entries_pop : ∀ key state, entries (pop key state) = without key (entries state)
  capacity_pop : ∀ key state, capacity (pop key state) = capacity state
  entries_clear : ∀ state, entries (clear state) = []
  capacity_clear : ∀ state, capacity (clear state) = capacity state
  len_eq : ∀ state, len state = (entries state).length

namespace LruMap

/-- A list of entries whose keys are distinct. -/
structure Listed (κ ν : Type) where
  entries : List (κ × ν)
  capacity : Nat
  nodup : (entries.map Prod.fst).Nodup

/-- The cache that is the list of its entries. -/
def ofList (κ ν : Type) [DecidableEq κ] : LruMap κ ν where
  State := Listed κ ν
  new size := ⟨[], size, List.nodup_nil⟩
  get key state :=
    ((state.entries.find? fun entry => entry.1 = key).map Prod.snd,
      ⟨promoted key state.entries, state.capacity, nodup_promoted state.nodup⟩)
  put key value state :=
    ⟨((key, value) :: without key state.entries).take state.capacity, state.capacity,
      nodup_put key value state.nodup _⟩
  pop key state := ⟨without key state.entries, state.capacity, nodup_without state.nodup⟩
  clear state := ⟨[], state.capacity, List.nodup_nil⟩
  len state := state.entries.length
  capacity := Listed.capacity
  entries := Listed.entries
  nodup_entries := Listed.nodup
  entries_new _ := rfl
  capacity_new _ := rfl
  get_eq_some key value state := by
    rw [Option.map_eq_some_iff]
    constructor
    · rintro ⟨⟨found, value⟩, first, rfl⟩
      obtain rfl : found = key := by simpa using List.find?_some first
      exact List.mem_of_find?_eq_some first
    · intro member
      cases first : state.entries.find? fun entry => entry.1 = key with
      | none => simpa using List.find?_eq_none.mp first _ member
      | some entry =>
          have same : entry.1 = key := by simpa using List.find?_some first
          have unique := List.inj_on_of_nodup_map state.nodup (List.mem_of_find?_eq_some first)
            member same
          exact ⟨entry, rfl, by rw [unique]⟩
  entries_get _ _ := rfl
  capacity_get _ _ := rfl
  entries_put _ _ _ := rfl
  capacity_put _ _ _ := rfl
  entries_pop _ _ := rfl
  capacity_pop _ _ := rfl
  entries_clear _ := rfl
  capacity_clear _ := rfl
  len_eq _ := rfl

/-- The entry is there, and only keys that were used stand in front of it. -/
def Keeps (used : Finset κ) (key : κ) (value : ν) (entries : List (κ × ν)) : Prop :=
  ∃ newer older, entries = newer ++ (key, value) :: older ∧ ∀ entry ∈ newer, entry.1 ∈ used

section

variable {ν : Type} {lru : LruMap κ ν} {state : lru.State} {used : Finset κ} {key key' : κ}
  {value value' : ν} {entries : List (κ × ν)}

theorem len_put_le (key : κ) (value : ν) (state : lru.State) :
    lru.len (lru.put key value state) ≤ lru.capacity (lru.put key value state) := by
  rw [lru.len_eq, lru.entries_put, lru.capacity_put]
  exact List.length_take_le _ _

theorem len_get (key : κ) (state : lru.State) : lru.len (lru.get key state).2 = lru.len state := by
  rw [lru.len_eq, lru.len_eq, lru.entries_get]
  exact (perm_promoted key _).length_eq

theorem len_pop_le (key : κ) (state : lru.State) : lru.len (lru.pop key state) ≤ lru.len state := by
  rw [lru.len_eq, lru.len_eq, lru.entries_pop]
  exact List.length_filter_le _ _

theorem mem_entries_get {entry : κ × ν} :
    entry ∈ lru.entries (lru.get key state).2 ↔ entry ∈ lru.entries state := by
  rw [lru.entries_get, mem_promoted]

omit [DecidableEq κ] in
theorem Keeps.mem (keeps : Keeps used key value entries) : (key, value) ∈ entries := by
  obtain ⟨newer, older, rfl, -⟩ := keeps
  exact List.mem_append_right _ List.mem_cons_self

theorem keeps_put (room : 0 < lru.capacity state) :
    Keeps used key value (lru.entries (lru.put key value state)) := by
  obtain ⟨size, room⟩ := Nat.exists_eq_succ_of_ne_zero room.ne'
  rw [lru.entries_put, room, List.take_succ_cons]
  exact ⟨[], _, rfl, by rintro _ ⟨⟩⟩

theorem Keeps.without (keeps : Keeps used key value entries) (other : key ≠ key') :
    Keeps used key value (without key' entries) := by
  obtain ⟨newer, older, rfl, among⟩ := keeps
  refine ⟨Wire.without key' newer, Wire.without key' older, ?_, ?_⟩
  · rw [Wire.without, List.filter_append, List.filter_cons_of_pos (by simpa using other)]
    rfl
  · exact fun entry member => among entry (mem_without.mp member).1

theorem Keeps.pop (keeps : Keeps used key value (lru.entries state)) (other : key ≠ key') :
    Keeps used key value (lru.entries (lru.pop key' state)) := by
  rw [lru.entries_pop]
  exact keeps.without other

/-- A look at a key that counts as used. -/
theorem Keeps.get (keeps : Keeps used key value (lru.entries state)) (other : key ≠ key')
    (counted : key' ∈ used) : Keeps used key value (lru.entries (lru.get key' state).2) := by
  obtain ⟨newer, older, split, among⟩ := keeps.without other
  rw [lru.entries_get, promoted, split]
  refine ⟨_ ++ newer, older, (List.append_assoc _ _ _).symm, ?_⟩
  intro entry member
  rcases List.mem_append.mp member with here | member
  · rw [List.mem_filter, decide_eq_true_iff] at here
    rwa [here.2]
  · exact among entry member

/-- A look at the key itself: nothing stands in front of it any more. -/
theorem keeps_get (there : (key, value) ∈ lru.entries state) :
    Keeps used key value (lru.entries (lru.get key state).2) := by
  have first : (lru.entries state).filter (fun entry => entry.1 = key) = [(key, value)] := by
    have nodup := lru.nodup_entries state
    obtain ⟨newer, older, split⟩ := List.append_of_mem there
    rw [split, List.map_append, List.map_cons, List.nodup_append, List.nodup_cons] at nodup
    obtain ⟨-, ⟨later, -⟩, apart⟩ := nodup
    have noNewer : newer.filter (fun entry => entry.1 = key) = [] := by
      refine List.filter_eq_nil_iff.mpr fun entry member => ?_
      have differs := apart entry.1 (List.mem_map_of_mem member) key List.mem_cons_self
      simpa using differs
    have noOlder : older.filter (fun entry => entry.1 = key) = [] := by
      refine List.filter_eq_nil_iff.mpr fun entry member => ?_
      have differs : entry.1 ≠ key := by
        rintro rfl
        exact later (List.mem_map.mpr ⟨entry, member, rfl⟩)
      simpa using differs
    rw [split, List.filter_append, noNewer, List.filter_cons_of_pos (by simp), noOlder]
    rfl
  rw [lru.entries_get, promoted, first]
  exact ⟨[], _, rfl, by rintro _ ⟨⟩⟩

/-- Another key that counts as used is put in, and all of these have room. -/
theorem Keeps.put (keeps : Keeps used key value (lru.entries state)) (other : key ≠ key')
    (counted : key' ∈ used) (room : used.card < lru.capacity state) :
    Keeps used key value (lru.entries (lru.put key' value' state)) := by
  obtain ⟨newer, older, split, among⟩ := keeps.without other
  have nodup := nodup_put key' value' (lru.nodup_entries state) (newer.length + 1)
  rw [split, ← List.cons_append] at nodup
  rw [lru.entries_put, split]
  have front : ((key', value') :: newer).length ≤ used.card := by
    rw [show newer.length + 1 = ((key', value') :: newer).length from rfl, List.take_left] at nodup
    rw [← List.length_map (f := Prod.fst), ← List.toFinset_card_of_nodup nodup]
    refine Finset.card_le_card fun found listed => ?_
    obtain ⟨entry, member, rfl⟩ := List.mem_map.mp (List.mem_toFinset.mp listed)
    rcases List.mem_cons.mp member with rfl | member
    · exact counted
    · exact among entry member
  obtain ⟨rest, room⟩ := Nat.exists_eq_add_of_lt (Nat.lt_of_le_of_lt front room)
  refine ⟨(key', value') :: newer, older.take rest, ?_, ?_⟩
  · rw [room, ← List.cons_append, Nat.add_assoc, List.take_length_add_append, List.take_succ_cons]
  · intro entry member
    rcases List.mem_cons.mp member with rfl | member
    · exact counted
    · exact among entry member

end

end LruMap

end Wire
