import Mathlib.Algebra.Order.Field.Rat
import Mathlib.Order.Bounds.Basic
import Mathlib.Tactic.Linarith
import Mathlib.Tactic.Positivity
import OdbcFast.Native.Observability.Metrics

/-!
# Percentiles and averages

The sorted copy of the window is a permutation of it, whatever the latencies are: what is
evicted is in the copy, so the search for it succeeds. Percentiles are read off the copy at
a place that grows with the percentage from the first to the last.

The average divides by the lower half of the counter. It is right while the upper half is
zero, and else only where both quotients vanish.
-/

namespace OdbcFast.Verification

open Native Native.Engine

/-! ## The window -/

/-- The copy of the window. -/
structure KeepsCopy (metrics : QueryMetrics) : Prop where
  sorted : metrics.sortedLatencySamples.Pairwise (· ≤ ·)
  perm : metrics.sortedLatencySamples.Perm metrics.latencySamples

/-- The window holds the last latencies in their order. -/
structure KeepsWindow (latencies : List Duration) (metrics : QueryMetrics) : Prop extends
    KeepsCopy metrics where
  window : metrics.latencySamples = latencies.drop (latencies.length - 1000)

theorem keepsWindow_nil : KeepsWindow [] {} := ⟨⟨.nil, .nil⟩, rfl⟩

variable {latencies : List Duration} {metrics recorded : QueryMetrics} {latency : Duration}

theorem KeepsCopy.insertLatencySample (keeps : KeepsCopy metrics) (latency : Duration) :
    KeepsCopy (metrics.insertLatencySample latency) := by
  refine ⟨Wire.pairwise_insertSorted keeps.sorted latency, ?_⟩
  have grown : (latency :: metrics.sortedLatencySamples).Perm (latency :: metrics.latencySamples) :=
    keeps.perm.cons latency
  exact ((Wire.perm_insertSorted keeps.sorted latency).trans grown).trans
    (List.perm_append_singleton latency metrics.latencySamples).symm

/-- What leaves the window is found in the copy. -/
theorem KeepsCopy.evictLatencySample (keeps : KeepsCopy metrics) :
    KeepsCopy metrics.evictLatencySample := by
  obtain ⟨sorted, perm⟩ := keeps
  rw [QueryMetrics.evictLatencySample]
  split
  · exact ⟨sorted, perm⟩
  · next evicted rest samples =>
      split_ifs
      · rw [samples] at perm
        have found : evicted ∈ metrics.sortedLatencySamples :=
          perm.mem_iff.mpr List.mem_cons_self
        refine ⟨Wire.pairwise_removeSorted sorted evicted, ?_⟩
        exact (List.perm_cons evicted).mp
          ((Wire.perm_cons_removeSorted sorted found).trans perm)
      · exact ⟨sorted, perm⟩

theorem latencySamples_evict : metrics.evictLatencySample.latencySamples =
    if 1000 < metrics.latencySamples.length then metrics.latencySamples.drop 1
    else metrics.latencySamples := by
  rw [QueryMetrics.evictLatencySample]
  cases samples : metrics.latencySamples with
  | nil => exact samples
  | cons evicted rest =>
      dsimp only
      by_cases long : 1000 < (evicted :: rest).length
      · rw [if_pos long, if_pos long]
        rfl
      · rw [if_neg long, if_neg long]
        exact samples

theorem KeepsWindow.recordQuery (keeps : KeepsWindow latencies metrics)
    (done : metrics.recordQuery latency = some recorded) :
    KeepsWindow (latencies ++ [latency]) recorded := by
  simp only [QueryMetrics.recordQuery, Option.bind_eq_bind, Option.bind_eq_some_iff,
    Option.some.injEq] at done
  obtain ⟨total, -, rfl⟩ := done
  refine ⟨KeepsCopy.evictLatencySample (KeepsCopy.insertLatencySample ?_ latency), ?_⟩
  · exact ⟨keeps.sorted, keeps.perm⟩
  · rw [latencySamples_evict]
    change (if 1000 < (metrics.latencySamples ++ [latency]).length then
      (metrics.latencySamples ++ [latency]).drop 1 else metrics.latencySamples ++ [latency]) = _
    rw [keeps.window, List.length_append, List.length_append, List.length_drop,
      List.length_singleton]
    by_cases full : 1000 ≤ latencies.length
    · have one : 1 ≤ (latencies.drop (latencies.length - 1000)).length := by
        rw [List.length_drop]
        omega
      have next : latencies.length - 1000 + 1 = latencies.length + 1 - 1000 := by omega
      rw [if_pos (by omega), List.drop_append_of_le_length one, List.drop_drop, next,
        List.drop_append_of_le_length (by omega)]
    · rw [if_neg (by omega), Nat.sub_eq_zero_of_le (by omega), Nat.sub_eq_zero_of_le (by omega)]
      rfl

/-- After any run the window is what it should be. -/
theorem KeepsWindow.recordQueries {earlier : List Duration} (keeps : KeepsWindow earlier metrics)
    (ran : metrics.recordQueries latencies = some recorded) :
    KeepsWindow (earlier ++ latencies) recorded := by
  induction latencies generalizing earlier metrics with
  | nil =>
      obtain rfl := Option.some.inj ran
      rwa [List.append_nil]
  | cons latency latencies ih =>
      rw [QueryMetrics.recordQueries, List.foldlM_cons, Option.bind_eq_bind,
        Option.bind_eq_some_iff] at ran
      obtain ⟨next, done, ran⟩ := ran
      have rest := ih (keeps.recordQuery done) ran
      rwa [List.append_assoc] at rest

theorem totalLatency_evict : metrics.evictLatencySample.totalLatency = metrics.totalLatency := by
  rw [QueryMetrics.evictLatencySample]
  split
  · rfl
  · split_ifs
    · rfl
    · rfl

theorem totalLatency_recordQuery (done : metrics.recordQuery latency = some recorded) :
    recorded.totalLatency.asNanos = metrics.totalLatency.asNanos + latency.asNanos := by
  simp only [QueryMetrics.recordQuery, Option.bind_eq_bind, Option.bind_eq_some_iff,
    Option.some.injEq] at done
  obtain ⟨total, sum, rfl⟩ := done
  rw [totalLatency_evict, ← Duration.ofNanos_eq_some_iff.mp sum]
  rfl

/-- A run goes through exactly when the latencies together fit a duration. -/
theorem exists_recordQueries_iff :
    (∃ recorded, metrics.recordQueries latencies = some recorded) ↔
      metrics.totalLatency.asNanos + (latencies.map Duration.asNanos).sum <
        18446744073709551616 * 1000000000 := by
  induction latencies generalizing metrics with
  | nil =>
      rw [List.map_nil, List.sum_nil, Nat.add_zero]
      exact iff_of_true ⟨metrics, rfl⟩ metrics.totalLatency.asNanos_lt
  | cons latency latencies ih =>
      rw [List.map_cons, List.sum_cons, ← Nat.add_assoc]
      cases done : metrics.recordQuery latency with
      | some next =>
          rw [← totalLatency_recordQuery done, ← ih]
          simp only [QueryMetrics.recordQueries, List.foldlM_cons, done, Option.bind_eq_bind,
            Option.bind_some]
      | none =>
          have long : 18446744073709551616 * 1000000000 ≤
              metrics.totalLatency.asNanos + latency.asNanos := by
            apply Duration.ofNanos_eq_none_iff.mp
            simp only [QueryMetrics.recordQuery, Option.bind_eq_bind, Option.bind_eq_none_iff,
              reduceCtorEq, imp_false] at done
            exact Option.eq_none_iff_forall_ne_some.mpr done
          apply iff_of_false
          · rintro ⟨recorded, ran⟩
            simp [QueryMetrics.recordQueries, List.foldlM_cons, done] at ran
          · omega

/-! ## Percentiles -/

/-- Percentiles are elements of the window, and they grow from the least to the greatest. -/
structure Percentiles (metrics : QueryMetrics) : Prop where
  element : ∀ p, 0 ≤ p → p ≤ 100 →
    ∃ latency ∈ metrics.latencySamples, metrics.percentile p = some latency
  mono : ∀ p q latency latency', 0 ≤ p → p ≤ q → q ≤ 100 →
    metrics.percentile p = some latency → metrics.percentile q = some latency' →
      latency ≤ latency'
  least : ∃ latency, metrics.percentile 0 = some latency ∧
    IsLeast {sample | sample ∈ metrics.latencySamples} latency
  greatest : ∃ latency, metrics.percentile 100 = some latency ∧
    IsGreatest {sample | sample ∈ metrics.latencySamples} latency

/-- The place that is read in a copy of some length. -/
def place (length : Nat) (p : ℚ) : Nat := ⌊((length - 1 : Nat) : ℚ) * p / 100⌋.toNat

theorem place_mono {length : Nat} {p q : ℚ} (grows : p ≤ q) : place length p ≤ place length q := by
  apply Int.toNat_le_toNat
  apply Int.floor_le_floor
  gcongr

theorem place_zero (length : Nat) : place length 0 = 0 := by
  simp [place]

theorem place_hundred (length : Nat) : place length 100 = length - 1 := by
  rw [place, mul_div_assoc, div_self (by norm_num), mul_one, Int.floor_natCast, Int.toNat_natCast]

theorem place_lt {length : Nat} (some : 0 < length) {p : ℚ} (most : p ≤ 100) :
    place length p < length := by
  have last : place length p ≤ place length 100 := place_mono most
  rw [place_hundred] at last
  omega

theorem percentile_eq {p : ℚ} {latency : Duration} (most : p ≤ 100)
    (some : 0 < metrics.sortedLatencySamples.length) :
    metrics.percentile p = Option.some latency ↔
      metrics.sortedLatencySamples.get ⟨place _ p, place_lt some most⟩ = latency := by
  have full : ¬ metrics.sortedLatencySamples.isEmpty := by
    rw [List.isEmpty_iff_length_eq_zero]
    exact some.ne'
  rw [QueryMetrics.percentile, if_neg full]
  change metrics.sortedLatencySamples[place metrics.sortedLatencySamples.length p]? = _ ↔ _
  rw [List.getElem?_eq_getElem (place_lt some most), Option.some.injEq]
  rfl

theorem KeepsCopy.percentiles (keeps : KeepsCopy metrics) (some : metrics.latencySamples ≠ []) :
    Percentiles metrics := by
  obtain ⟨sorted, perm⟩ := keeps
  have positive : 0 < metrics.sortedLatencySamples.length := by
    rw [perm.length_eq]
    exact List.length_pos_iff.mpr some
  refine ⟨fun p _ most => ?_, fun p q latency latency' _ grows most read read' => ?_, ?_, ?_⟩
  · exact ⟨_, perm.mem_iff.mp (List.get_mem _ _), (percentile_eq most positive).mpr rfl⟩
  · rw [percentile_eq (grows.trans most) positive] at read
    rw [percentile_eq most positive] at read'
    rw [← read, ← read']
    exact sorted.rel_get_of_le (place_mono grows)
  · refine ⟨_, (percentile_eq (by norm_num) positive).mpr rfl, perm.mem_iff.mp (List.get_mem _ _),
      fun sample member => ?_⟩
    obtain ⟨i, rfl⟩ := List.mem_iff_get.mp (perm.mem_iff.mpr member)
    exact sorted.rel_get_of_le ((place_zero _).trans_le (Nat.zero_le _))
  · refine ⟨_, (percentile_eq le_rfl positive).mpr rfl, perm.mem_iff.mp (List.get_mem _ _),
      fun sample member => ?_⟩
    obtain ⟨i, rfl⟩ := List.mem_iff_get.mp (perm.mem_iff.mpr member)
    have last := Nat.le_sub_one_of_lt i.isLt
    exact sorted.rel_get_of_le (last.trans_eq (place_hundred _).symm)

/-- After every recorded latency: the window and its copy are right, and so are the percentiles. -/
theorem recordQueries_keeps_percentiles {latencies : List Duration} {latency : Duration}
    {metrics : QueryMetrics}
    (ran : QueryMetrics.recordQueries {} (latencies ++ [latency]) = some metrics) :
    KeepsWindow (latencies ++ [latency]) metrics ∧ Percentiles metrics := by
  have keeps : KeepsWindow (latencies ++ [latency]) metrics := keepsWindow_nil.recordQueries ran
  refine ⟨keeps, keeps.percentiles ?_⟩
  rw [keeps.window, Ne, List.drop_eq_nil_iff, List.length_append, List.length_singleton]
  omega

/-- More latencies than the window holds, each of seven values again and again. -/
def repeatedLatencies : List Duration :=
  (List.range 1002).map fun k => .fromMicros (.ofNat (k % 7))

theorem length_repeatedLatencies : repeatedLatencies.length = 1002 := by
  rw [repeatedLatencies, List.length_map, List.length_range]

theorem repeatedLatencies_fit :
    ((repeatedLatencies ++ [Duration.fromMicros 3]).map Duration.asNanos).sum <
      18446744073709551616 * 1000000000 := by
  -- no latency is longer than seven microseconds
  have short : ∀ nanos ∈ (repeatedLatencies ++ [Duration.fromMicros 3]).map Duration.asNanos,
      nanos ≤ 7000 := by
    simp only [repeatedLatencies, List.map_append, List.map_map, List.mem_append, List.mem_map]
    rintro nanos (⟨k, -, rfl⟩ | ⟨latency, last, rfl⟩)
    · have least : k % 7 < 7 := Nat.mod_lt k (by decide)
      rw [Function.comp_apply, Duration.asNanos_fromMicros, UInt64.toNat_ofNat_of_lt' (by
        rw [UInt64.size]; omega)]
      omega
    · rw [List.mem_singleton.mp last, Duration.asNanos_fromMicros]
      decide
  have total := List.sum_le_card_nsmul _ _ short
  rw [List.length_map, List.length_append, length_repeatedLatencies] at total
  exact total.trans_lt (by decide)

/-- The first three latencies have left the window, although their like are still in it. -/
theorem recordQueries_keeps_percentiles_repeated : ∃ metrics,
    QueryMetrics.recordQueries {} (repeatedLatencies ++ [Duration.fromMicros 3]) = some metrics ∧
      metrics.latencySamples = (repeatedLatencies ++ [Duration.fromMicros 3]).drop 3 ∧
      KeepsWindow (repeatedLatencies ++ [Duration.fromMicros 3]) metrics ∧ Percentiles metrics := by
  have fits : (QueryMetrics.totalLatency {}).asNanos +
      ((repeatedLatencies ++ [Duration.fromMicros 3]).map Duration.asNanos).sum <
        18446744073709551616 * 1000000000 := by
    have nothing : (QueryMetrics.totalLatency {}).asNanos = 0 := rfl
    rw [nothing, Nat.zero_add]
    exact repeatedLatencies_fit
  obtain ⟨metrics, ran⟩ := exists_recordQueries_iff.mpr fits
  obtain ⟨keeps, percentiles⟩ := recordQueries_keeps_percentiles ran
  have lost : (repeatedLatencies ++ [Duration.fromMicros 3]).length - 1000 = 3 := by
    rw [List.length_append, length_repeatedLatencies, List.length_singleton]
  exact ⟨metrics, ran, lost ▸ keeps.window, keeps, percentiles⟩

/-! ## The average -/

/-- The average is the quotient, cut to whole nanoseconds. -/
def AveragesRight (metrics : QueryMetrics) : Prop :=
  ∃ average, metrics.averageLatency = some average ∧
    average.asNanos = metrics.totalLatency.asNanos / metrics.queryCount.toNat

/-- With a buffer that is large enough, and a lock that no earlier panic has poisoned, the metrics
are written. -/
def ReportsMetrics (metrics : QueryMetrics) : Prop :=
  ∀ (bufferLen : UInt32) (errorCount : Option UInt64) (uptime : Duration), 40 ≤ bufferLen →
    (MetricsState.odbcGetMetrics false false bufferLen
      ⟨some metrics, errorCount, uptime, false⟩).1.1 = 0

/-- Two divisors of which one is the other without its upper half. -/
theorem div_mod_eq_div_iff {total count : Nat} (positive : 0 < count % 4294967296) :
    total / (count % 4294967296) = total / count ↔
      count < 4294967296 ∨ total < count % 4294967296 := by
  constructor
  · intro same
    by_contra! wide
    -- the quotient by the smaller divisor is at least one, and then it is the greater one
    have once : 1 ≤ total / count := same ▸ (Nat.one_le_div_iff positive).mpr wide.2
    have upper : total < (total / count + 1) * (count % 4294967296) := by
      rw [← same, Nat.mul_comm]
      exact Nat.lt_mul_div_succ total positive
    have lower : total / count * count ≤ total := Nat.div_mul_le_self total count
    have split : count = 4294967296 * (count / 4294967296) + count % 4294967296 :=
      (Nat.div_add_mod count 4294967296).symm
    have half : 1 ≤ count / 4294967296 := (Nat.one_le_div_iff (by decide)).mpr wide.1
    have small : count % 4294967296 < 4294967296 := Nat.mod_lt _ (by decide)
    nlinarith
  · rintro (narrow | less)
    · rw [Nat.mod_eq_of_lt narrow]
    · rw [Nat.div_eq_of_lt less, Nat.div_eq_of_lt (less.trans_le (Nat.mod_le _ _))]

theorem averagesRight_iff : AveragesRight metrics ↔
    metrics.queryCount.toNat < 4294967296 ∨
      metrics.totalLatency.asNanos < metrics.queryCount.toNat % 4294967296 := by
  rw [AveragesRight, QueryMetrics.averageLatency]
  by_cases none : metrics.queryCount = 0
  · rw [if_pos none, none]
    exact iff_of_true ⟨_, rfl, (Nat.div_zero _).symm⟩ (.inl (by decide))
  · have counted : metrics.queryCount.toNat ≠ 0 := fun zero => none (UInt64.toNat_inj.mp zero)
    have divisor : metrics.queryCount.toUInt32.toNat = metrics.queryCount.toNat % 4294967296 :=
      UInt64.toNat_toUInt32 _
    have zero_iff : metrics.queryCount.toUInt32 = 0 ↔ metrics.queryCount.toNat % 4294967296 = 0 := by
      rw [← divisor]
      exact UInt32.toNat_inj.symm
    rw [if_neg none, Duration.checkedDiv, divisor]
    by_cases vanishes : metrics.queryCount.toNat % 4294967296 = 0
    · rw [if_pos (zero_iff.mpr vanishes)]
      apply iff_of_false
      · rintro ⟨_, ⟨⟩, -⟩
      · omega
    · rw [if_neg (mt zero_iff.mp vanishes), ← div_mod_eq_div_iff (Nat.pos_of_ne_zero vanishes)]
      constructor
      · rintro ⟨average, made, same⟩
        rw [← same, Duration.ofNanos_eq_some_iff.mp made]
      · intro same
        have fits : metrics.totalLatency.asNanos / (metrics.queryCount.toNat % 4294967296) <
            18446744073709551616 * 1000000000 :=
          (Nat.div_le_self _ _).trans_lt metrics.totalLatency.asNanos_lt
        obtain ⟨average, made⟩ := Option.ne_none_iff_exists'.mp
          (mt Duration.ofNanos_eq_none_iff.mp (Nat.not_le.mpr fits))
        exact ⟨average, made, (Duration.ofNanos_eq_some_iff.mp made).trans same⟩

theorem reportsMetrics_of_averages {average : Duration}
    (averaged : metrics.averageLatency = some average) : ReportsMetrics metrics := by
  intro bufferLen errorCount uptime enough
  simp only [MetricsState.odbcGetMetrics, MetricsState.getQueryMetrics, Option.getD_some,
    UInt32.not_lt.mpr enough, averaged, Bool.or_self, Bool.false_eq_true, if_false]

/-- For every count and every total: the average is the quotient and the metrics are written
exactly when the count fits 32 bits, or what is left of it there is greater than the total in
nanoseconds, so that both quotients vanish. -/
theorem averages_and_reports_iff (metrics : QueryMetrics) :
    AveragesRight metrics ∧ ReportsMetrics metrics ↔
      metrics.queryCount.toNat < 4294967296 ∨
        metrics.totalLatency.asNanos < metrics.queryCount.toNat % 4294967296 := by
  refine ⟨fun right => averagesRight_iff.mp right.1, fun small => ?_⟩
  obtain ⟨average, averaged, quotient⟩ := averagesRight_iff.mpr small
  exact ⟨⟨average, averaged, quotient⟩, reportsMetrics_of_averages averaged⟩

/-- So many queries that the lower half of their count is zero. -/
def fourBillionQueries : QueryMetrics := { queryCount := 4294967296 }

/-- The division by zero panics, and the code of the panic is returned. -/
theorem fourBillionQueries_panics :
    ¬ AveragesRight fourBillionQueries ∧ ¬ ReportsMetrics fourBillionQueries := by
  have panics : fourBillionQueries.averageLatency = none := rfl
  constructor
  · rintro ⟨average, averaged, -⟩
    cases panics.symm.trans averaged
  · intro reports
    have written := reports 40 none .zero (by decide)
    revert written
    decide

end OdbcFast.Verification
