import Mathlib.Data.Rat.Floor
import OdbcFast.Native.Engine.Duration
import OdbcFast.Wire.Bytes
import OdbcFast.Wire.SortedVec

/-!
# Metrics of the queries

The latencies of the last queries are kept twice, in the order of the queries and sorted.
The sorted copy is kept by binary searches: one finds the place of a new latency, another
the place of the one that leaves the window.

`odbc_get_metrics` reads the counters behind the lock of the global state. A panic there
is caught at the border and leaves that lock poisoned.
-/

namespace OdbcFast.Native

open Wire Engine

abbrev maxLatencySamples : Nat := 1000

structure QueryMetrics where
  queryCount : UInt64 := 0
  totalLatency : Duration := .zero
  minLatency : Duration := .max
  maxLatency : Duration := .zero
  latencySamples : List Duration := []
  sortedLatencySamples : List Duration := []

namespace QueryMetrics

def insertLatencySample (latency : Duration) (metrics : QueryMetrics) : QueryMetrics :=
  { metrics with
    latencySamples := metrics.latencySamples ++ [latency]
    sortedLatencySamples := insertSorted metrics.sortedLatencySamples latency }

def removeSortedLatencySample (latency : Duration) (metrics : QueryMetrics) : QueryMetrics :=
  { metrics with sortedLatencySamples := removeSorted metrics.sortedLatencySamples latency }

/-- The window loses its first sample when it has become too long. -/
def evictLatencySample (metrics : QueryMetrics) : QueryMetrics :=
  match metrics.latencySamples with
  | [] => metrics
  | evicted :: latencySamples =>
    if maxLatencySamples < (evicted :: latencySamples).length then
      { metrics with latencySamples }.removeSortedLatencySample evicted
    else metrics

/-- `none` where the sum of the latencies does not fit a duration: the addition panics. -/
def recordQuery (metrics : QueryMetrics) (latency : Duration) : Option QueryMetrics := do
  let totalLatency ← metrics.totalLatency.checkedAdd latency
  let recorded :=
    { metrics with
      queryCount := metrics.queryCount + 1
      totalLatency
      minLatency := if latency < metrics.minLatency then latency else metrics.minLatency
      maxLatency := if metrics.maxLatency < latency then latency else metrics.maxLatency }
  some (recorded.insertLatencySample latency).evictLatencySample

/-- Some queries, one after the other. -/
def recordQueries (metrics : QueryMetrics) (latencies : List Duration) : Option QueryMetrics :=
  latencies.foldlM recordQuery metrics

/-- The divisor is the count cut to 32 bits; `none` where it is zero, which panics. -/
def averageLatency (metrics : QueryMetrics) : Option Duration :=
  if metrics.queryCount = 0 then some .zero
  else metrics.totalLatency.checkedDiv metrics.queryCount.toUInt32

/-- `none` where the index is out of range, which panics. -/
def percentile (metrics : QueryMetrics) (p : ℚ) : Option Duration :=
  if metrics.sortedLatencySamples.isEmpty then some .zero
  else
    let index := ⌊((metrics.sortedLatencySamples.length - 1 : Nat) : ℚ) * p / 100⌋.toNat
    metrics.sortedLatencySamples[index]?

end QueryMetrics

/-- What is behind the lock of the global state, as far as it is asked for here. A poisoned lock
of a counter is a `none`. -/
structure MetricsState where
  queryMetrics : Option QueryMetrics := some {}
  errorCount : Option UInt64 := some 0
  uptime : Duration := .zero
  poisoned : Bool := false

namespace MetricsState

def getQueryMetrics (state : MetricsState) : QueryMetrics := state.queryMetrics.getD {}

def getErrorCount (state : MetricsState) : UInt64 := state.errorCount.getD 0

/-- `as_millis().min(u64::MAX)`. -/
def millis (dur : Duration) : Nat := min dur.asMillis 18446744073709551615

/-- The return code, and the bytes that are written. -/
def odbcGetMetrics (bufferIsNull outWrittenIsNull : Bool) (bufferLen : UInt32)
    (state : MetricsState) : (Int × Option Bytes) × MetricsState :=
  if bufferIsNull || outWrittenIsNull then ((-1, none), state)
  else if bufferLen < 40 then ((-2, none), state)
  else if state.poisoned then ((-1, none), state)
  else
    let q := state.getQueryMetrics
    match q.averageLatency with
    | none => ((-4, none), { state with poisoned := true })
    | some average =>
      ((0, some (toLeBytes 8 q.queryCount.toNat ++ toLeBytes 8 state.getErrorCount.toNat ++
        toLeBytes 8 state.uptime.secs.toNat ++ toLeBytes 8 (millis q.totalLatency) ++
        toLeBytes 8 (millis average))), state)

end MetricsState

end OdbcFast.Native
