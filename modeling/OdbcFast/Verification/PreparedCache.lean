import OdbcFast.Native.Engine.PreparedCache
import OdbcFast.Wire.Machine
import Mathlib.Data.List.Perm.Subperm

/-!
# What the cache of prepared statements holds

The cache should hold the texts that were used last. A hit does not move its text to the front,
so a text that is dropped may have been used a moment ago; and a cache for no text holds some.
-/

namespace OdbcFast.Verification

open Wire OdbcFast.Native

namespace PreparedLookups

inductive Event where
  | getOrInsert (sql : String)
  | recordExecution
  | clear
  | metrics
  deriving DecidableEq, Repr

inductive Output where
  | found (hit : Bool)
  | metrics (metrics : PreparedStatementMetrics)
  | done
  deriving DecidableEq, Repr

/-- The cache, with the texts that were looked up since it was cleared, newest first, and the
number of all lookups. -/
structure Lookups (lru : LruCache String) where
  cache : PreparedStatementCache lru
  uses : List String := []
  count : Nat := 0

def Lookups.new (lru : LruCache String) (maxSize : Nat) : Lookups lru where
  cache := .new lru maxSize

variable {lru : LruCache String}

def step : Event → Lookups lru → Option (Lookups lru × Output)
  | .getOrInsert sql, lookups =>
    let (hit, cache) := lookups.cache.getOrInsert sql
    some ({ cache, uses := sql :: lookups.uses, count := lookups.count + 1 }, .found hit)
  | .recordExecution, lookups =>
    some ({ lookups with cache := lookups.cache.recordExecution }, .done)
  | .clear, lookups => some ({ lookups with cache := lookups.cache.clear, uses := [] }, .done)
  | .metrics, lookups => some (lookups, .metrics lookups.cache.getMetrics)

/-- The texts that were used last, as many as the cache is for. -/
def mostRecent (lookups : Lookups lru) : List String :=
  (recent lookups.uses).take lookups.cache.maxSize

/-- What is claimed of the cache. -/
structure HoldsRecent (lookups : Lookups lru) : Prop where
  cached : ∀ sql, lru.contains sql lookups.cache.cache = true ↔ sql ∈ mostRecent lookups
  size : lookups.cache.getMetrics.cacheSize ≤ lookups.cache.getMetrics.cacheMaxSize
  counted : lookups.cache.getMetrics.cacheHits + lookups.cache.getMetrics.cacheMisses =
    UInt64.ofNat lookups.count

/-- The cache is as claimed behind the event. -/
def HoldsBehind (event : Event) (lookups : Lookups lru) : Prop :=
  ∀ next output, step event lookups = some (next, output) → HoldsRecent next

/-- A cache for some texts, that drops the one that was not used for the longest time. -/
def DropsOldest : Event → Lookups lru → Prop
  | .getOrInsert sql, lookups =>
    lookups.cache.maxSize ≠ 0 ∧
      (lru.contains sql lookups.cache.cache = false →
        lookups.cache.len = lookups.cache.maxSize →
          (lru.keys lookups.cache.cache).getLast? = (mostRecent lookups).getLast?)
  | _, _ => True

/-! ## What every lookup keeps -/

structure Bounded (lookups : Lookups lru) : Prop where
  nodup : (lru.keys lookups.cache.cache).Nodup
  short : (lru.keys lookups.cache.cache).length ≤
    PreparedStatementCache.capacityFor lookups.cache.maxSize
  capacity : lru.capacity lookups.cache.cache =
    PreparedStatementCache.capacityFor lookups.cache.maxSize
  counted : lookups.cache.cacheHits + lookups.cache.cacheMisses = UInt64.ofNat lookups.count

theorem bounded_new (lru : LruCache String) (maxSize : Nat) :
    Bounded (Lookups.new lru maxSize) where
  nodup := by
    rw [Lookups.new, PreparedStatementCache.new, lru.keys_new]
    exact List.nodup_nil
  short := by
    rw [Lookups.new, PreparedStatementCache.new, lru.keys_new]
    exact Nat.zero_le _
  capacity := lru.capacity_new _
  counted := rfl

variable {event : Event} {lookups next : Lookups lru} {output : Output} {sql : String}

/-- A lookup of a text that is there. -/
theorem step_hit (hit : lru.contains sql lookups.cache.cache = true) :
    step (.getOrInsert sql) lookups =
      some (⟨{ lookups.cache with cacheHits := lookups.cache.cacheHits + 1 },
        sql :: lookups.uses, lookups.count + 1⟩, .found true) := by
  rw [step, PreparedStatementCache.getOrInsert, if_pos hit]

/-- A lookup of a text that is not. -/
theorem step_miss (miss : lru.contains sql lookups.cache.cache = false) :
    step (.getOrInsert sql) lookups =
      some (⟨{ lookups.cache with
          cacheMisses := lookups.cache.cacheMisses + 1
          totalPrepares := lookups.cache.totalPrepares + 1
          cache := lru.put sql lookups.cache.cache },
        sql :: lookups.uses, lookups.count + 1⟩, .found false) := by
  rw [step, PreparedStatementCache.getOrInsert, if_neg (by simp [miss])]

theorem contains_eq_false_iff {state : lru.State} :
    lru.contains sql state = false ↔ sql ∉ lru.keys state := by
  rw [← lru.contains_iff, Bool.not_eq_true]

theorem capacityFor_pos (maxSize : Nat) : 0 < PreparedStatementCache.capacityFor maxSize := by
  rw [PreparedStatementCache.capacityFor]
  split_ifs with none
  · exact Nat.zero_lt_succ 99
  · exact Nat.pos_of_ne_zero none

theorem bounded_step (bounded : Bounded lookups)
    (stepped : step event lookups = some (next, output)) : Bounded next := by
  obtain ⟨nodup, short, capacity, counted⟩ := bounded
  cases event with
  | getOrInsert sql =>
      rcases known : lru.contains sql lookups.cache.cache with _ | _
      · cases (step_miss known).symm.trans stepped
        have absent := contains_eq_false_iff.mp known
        have kept := lru.keys_put sql lookups.cache.cache
        rw [capacity, List.erase_of_not_mem absent] at kept
        refine ⟨?_, ?_, (lru.capacity_put _ _).trans capacity, ?_⟩
        · dsimp only
          rw [kept]
          exact (List.nodup_cons.mpr ⟨absent, nodup⟩).sublist (List.take_sublist _ _)
        · dsimp only
          rw [kept]
          exact List.length_take_le _ _
        · dsimp only
          rw [UInt64.ofNat_add, ← counted, UInt64.add_assoc]
          rfl
      · cases (step_hit known).symm.trans stepped
        refine ⟨nodup, short, capacity, ?_⟩
        dsimp only
        rw [UInt64.ofNat_add, ← counted, UInt64.add_assoc,
          UInt64.add_comm 1, ← UInt64.add_assoc]
        rfl
  | recordExecution | metrics =>
      cases stepped
      exact ⟨nodup, short, capacity, counted⟩
  | clear =>
      cases stepped
      have nothing := lru.keys_clear lookups.cache.cache
      refine ⟨?_, ?_, (lru.capacity_clear _).trans capacity, counted⟩
      · dsimp only [PreparedStatementCache.clear]
        rw [nothing]
        exact List.nodup_nil
      · dsimp only [PreparedStatementCache.clear]
        rw [nothing]
        exact Nat.zero_le _

/-! ## Which text is dropped -/

/-- The keys of the cache are the texts that were used last. -/
def SameTexts (lookups : Lookups lru) : Prop :=
  ∀ sql, sql ∈ lru.keys lookups.cache.cache ↔ sql ∈ mostRecent lookups

/-- What is claimed beside the texts holds of every cache that is for some. -/
theorem holdsRecent_iff (bounded : Bounded lookups) (some : lookups.cache.maxSize ≠ 0) :
    HoldsRecent lookups ↔ SameTexts lookups := by
  have size : lookups.cache.getMetrics.cacheSize ≤ lookups.cache.getMetrics.cacheMaxSize := by
    have short := bounded.short
    rw [PreparedStatementCache.capacityFor, if_neg some, ← lru.len_eq] at short
    exact short
  constructor
  · rintro ⟨cached, -, -⟩ sql
    rw [← lru.contains_iff, cached]
  · intro same
    refine ⟨fun sql => ?_, size, bounded.counted⟩
    rw [lru.contains_iff, same]

theorem nodup_mostRecent (lookups : Lookups lru) : (mostRecent lookups).Nodup :=
  (nodup_recent lookups.uses).sublist (List.take_sublist _ _)

/-- As many texts are cached as were used last. -/
theorem length_mostRecent (bounded : Bounded lookups) (same : SameTexts lookups) :
    (lru.keys lookups.cache.cache).length = (mostRecent lookups).length := by
  refine Nat.le_antisymm ?_ ?_
  · exact (List.subperm_of_subset bounded.nodup fun sql => (same sql).mp).length_le
  · exact (List.subperm_of_subset (nodup_mostRecent lookups) fun sql => (same sql).mpr).length_le

/-- After a miss the right texts are cached exactly when the one that was dropped, if any, was
the one of the oldest use. -/
theorem sameTexts_miss_iff (bounded : Bounded lookups) (same : SameTexts lookups)
    (some : lookups.cache.maxSize ≠ 0)
    (stepped : step (.getOrInsert sql) lookups = .some (next, output))
    (miss : lru.contains sql lookups.cache.cache = false) :
    SameTexts next ↔ (lookups.cache.len = lookups.cache.maxSize →
      (lru.keys lookups.cache.cache).getLast? = (mostRecent lookups).getLast?) := by
  cases (step_miss miss).symm.trans stepped
  obtain ⟨size, sized⟩ := Nat.exists_eq_succ_of_ne_zero some
  have absent := contains_eq_false_iff.mp miss
  have kept := lru.keys_put sql lookups.cache.cache
  rw [bounded.capacity, PreparedStatementCache.capacityFor, if_neg some, sized,
    List.erase_of_not_mem absent, List.take_succ_cons] at kept
  have equal := length_mostRecent bounded same
  have nodup := bounded.nodup
  have nodup' := nodup_mostRecent lookups
  have short := bounded.short
  rw [PreparedStatementCache.capacityFor, if_neg some, sized] at short
  have late := fun member => absent ((same sql).mpr member)
  dsimp only [SameTexts, mostRecent, PreparedStatementCache.len] at same equal nodup' late ⊢
  rw [sized] at same equal nodup' late ⊢
  rw [kept, lru.len_eq, recent, take_toFront late]
  generalize lru.keys lookups.cache.cache = keys at same equal nodup short absent ⊢
  generalize recent lookups.uses = texts at same equal nodup' late ⊢
  have front : texts.take size = (texts.take (size + 1)).take size := by
    rw [List.take_take, Nat.min_eq_left (Nat.le_succ size)]
  rw [front]
  generalize texts.take (size + 1) = latest at same equal nodup' late ⊢
  refine (mem_cons_congr_iff (fun member => absent (List.mem_of_mem_take member))
    fun member => late (List.mem_of_mem_take member)).trans ?_
  by_cases full : keys.length = size + 1
  · refine Iff.trans ?_ (imp_iff_right full).symm
    rw [← mem_dropLast_iff nodup nodup' same, List.dropLast_eq_take, List.dropLast_eq_take,
      ← equal, full, Nat.add_sub_cancel]
  · refine iff_of_true ?_ fun here => absurd here full
    rwa [List.take_of_length_le (by omega), List.take_of_length_le (by omega)]

theorem sameTexts_hit (same : SameTexts lookups)
    (stepped : step (.getOrInsert sql) lookups = .some (next, output))
    (hit : lru.contains sql lookups.cache.cache = true) : SameTexts next := by
  cases (step_hit hit).symm.trans stepped
  intro other
  refine (same other).trans ?_
  exact (mem_take_toFront (nodup_recent lookups.uses)
    ((same sql).mp ((lru.contains_iff _ _).mp hit)) other).symm

/-- A cache for no text holds the one that was looked up. -/
theorem not_holdsRecent_of_empty (none : lookups.cache.maxSize = 0)
    (stepped : step (.getOrInsert sql) lookups = some (next, output)) (bounded : Bounded lookups) :
    ¬ HoldsRecent next := by
  intro holds
  have there : lru.contains sql next.cache.cache = true := by
    rcases known : lru.contains sql lookups.cache.cache with _ | _
    · cases (step_miss known).symm.trans stepped
      have positive := capacityFor_pos lookups.cache.maxSize
      rw [← bounded.capacity] at positive
      rw [lru.contains_iff]
      dsimp only
      rw [lru.keys_put]
      obtain ⟨size, sized⟩ := Nat.exists_eq_add_of_lt positive
      rw [sized, List.take_succ_cons]
      exact List.mem_cons_self
    · cases (step_hit known).symm.trans stepped
      exact known
  have size : next.cache.maxSize = 0 := by
    rcases known : lru.contains sql lookups.cache.cache with _ | _
    · cases (step_miss known).symm.trans stepped
      exact none
    · cases (step_hit known).symm.trans stepped
      exact none
  have nowhere := (holds.cached sql).mp there
  rw [mostRecent, size] at nowhere
  cases nowhere

theorem holdsRecent_of_nil (nothing : lru.keys lookups.cache.cache = [])
    (unused : lookups.uses = [])
    (counted : lookups.cache.cacheHits + lookups.cache.cacheMisses = UInt64.ofNat lookups.count) :
    HoldsRecent lookups := by
  refine ⟨fun sql => ?_, ?_, counted⟩
  · rw [lru.contains_iff, nothing, mostRecent, unused, recent, List.take_nil]
  · dsimp only [PreparedStatementCache.getMetrics, PreparedStatementCache.len]
    rw [lru.len_eq, nothing]
    exact Nat.zero_le _

theorem holdsBehind_iff (bounded : Bounded lookups) (holds : HoldsRecent lookups) :
    HoldsBehind event lookups ↔ DropsOldest event lookups := by
  rcases stepped : step event lookups with _ | ⟨next, output⟩
  · cases event with
    | _ => cases stepped
  have behind : HoldsBehind event lookups ↔ HoldsRecent next := by
    refine ⟨fun holds => holds next output stepped, fun holds next' output' stepped' => ?_⟩
    cases stepped.symm.trans stepped'
    exact holds
  rw [behind]
  have bounded' := bounded_step bounded stepped
  cases event with
  | getOrInsert sql =>
      by_cases some : lookups.cache.maxSize = 0
      · exact iff_of_false (not_holdsRecent_of_empty some stepped bounded) fun keeps => keeps.1 some
      refine Iff.trans ?_ (and_iff_right some).symm
      have same := (holdsRecent_iff bounded some).mp holds
      rcases known : lru.contains sql lookups.cache.cache with _ | _
      · have sized : next.cache.maxSize ≠ 0 := by
          cases (step_miss known).symm.trans stepped
          exact some
        rw [holdsRecent_iff bounded' sized, sameTexts_miss_iff bounded same some stepped known]
        exact (imp_iff_right rfl).symm
      · have sized : next.cache.maxSize ≠ 0 := by
          cases (step_hit known).symm.trans stepped
          exact some
        rw [holdsRecent_iff bounded' sized]
        exact iff_of_true (sameTexts_hit same stepped known) (by rintro ⟨⟩)
  | recordExecution | metrics =>
      cases stepped
      exact iff_of_true ⟨holds.cached, holds.size, holds.counted⟩ trivial
  | clear =>
      cases stepped
      exact iff_of_true (holdsRecent_of_nil (lru.keys_clear _) rfl holds.counted) trivial

theorem holdsRecent_new (lru : LruCache String) (maxSize : Nat) :
    HoldsRecent (Lookups.new lru maxSize) :=
  holdsRecent_of_nil (lru.keys_new _) rfl rfl

end PreparedLookups

open PreparedLookups

/-- In a run the cache holds the texts that were used last, no more than it says, and has
counted every lookup, exactly when it is for some texts and drops the one of the oldest use. -/
theorem holds_recent_iff (lru : LruCache String) (maxSize : Nat) (events : List Event) :
    HoldsRecent (Lookups.new lru maxSize) ∧
        Along step HoldsBehind events (Lookups.new lru maxSize) ↔
      Along step DropsOldest events (Lookups.new lru maxSize) := by
  rw [and_iff_right (holdsRecent_new lru maxSize)]
  refine along_congr_while (fun lookups => Bounded lookups ∧ HoldsRecent lookups) ?_ ?_
    ⟨bounded_new lru maxSize, holdsRecent_new lru maxSize⟩
  · rintro event lookups next output ⟨bounded, -⟩ holds stepped
    exact ⟨bounded_step bounded stepped, holds next output stepped⟩
  · rintro lookups event ⟨bounded, holds⟩
    exact holdsBehind_iff bounded holds

/-- A text that was used a moment ago is dropped. -/
theorem used_text_dropped :
    ¬ ∀ (lru : LruCache String) (maxSize : Nat) (events : List Event),
      HoldsRecent (Lookups.new lru maxSize) ∧
        Along step HoldsBehind events (Lookups.new lru maxSize) := by
  intro claimed
  have along := (claimed (.ofList String) 2 [.getOrInsert "a", .getOrInsert "b", .getOrInsert "a",
    .getOrInsert "c"]).2
  have holds := ((((along.2 _ _ rfl).2 _ _ rfl).2 _ _ rfl).1) _ _ rfl
  have there := (holds.cached "a").mpr (by decide)
  revert there
  decide

end OdbcFast.Verification
