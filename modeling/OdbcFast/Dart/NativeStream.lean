import Mathlib.Logic.Relation
import OdbcFast.Dart.FfiBuffer
import OdbcFast.Dart.StreamAsync
import OdbcFast.Native.Ffi.StreamKind

/-!
# What a native stream answers

The loops call a native stream whose worker runs beside them: it sends and leaves between
any two calls, and a fetch waits for it. `FetchScript.From` and `PollScript.From` say which
answers a loop can meet in this way, up to the one that ends it.

A chunk that is larger than the buffer of a fetch is offered again to the next one, so the
doubling of the buffer brings the chunk unless it is larger than the largest buffer.
-/

namespace OdbcFast.Dart

open Wire Native

/-! ## One fetch -/

structure StreamFetchResult where
  success : Bool
  data : Option Bytes
  hasMore : Bool
  deriving DecidableEq, Repr

/-- `OdbcNative.streamFetch` of a stream that gives this result and has this `has_more`
behind it. -/
def streamFetch (result : Except Native.OdbcError (Option Bytes)) (hasMore : Bool) :
    StreamFetchResult :=
  match result with
  | .error _ => { success := false, data := none, hasMore := false }
  | .ok none => { success := true, data := none, hasMore := false }
  | .ok (some chunk) =>
    match NativeCall.receive (fun _ => .produced chunk) none with
    | none => { success := false, data := none, hasMore := false }
    | some received =>
      { success := true, data := if received = [] then none else some received, hasMore }

/-- A chunk is no longer than the largest buffer. -/
def FitsBuffer (chunk : Bytes) : Prop := (chunk.length : Int) ≤ maxBufferSize

instance (chunk : Bytes) : Decidable (FitsBuffer chunk) := inferInstanceAs (Decidable (_ ≤ _))

theorem streamFetch_chunk {chunk : Bytes} (nonempty : chunk ≠ []) (hasMore : Bool) :
    streamFetch (.ok (some chunk)) hasMore =
      if FitsBuffer chunk then { success := true, data := some chunk, hasMore }
      else { success := false, data := none, hasMore := false } := by
  rw [streamFetch, NativeCall.receive_produced]
  by_cases fits : FitsBuffer chunk
  · rw [if_pos fits, if_pos (show (chunk.length : Int) ≤ maxBufferSize from fits)]
    simp only [if_neg nonempty]
  · rw [if_neg fits, if_neg (show ¬ (chunk.length : Int) ≤ maxBufferSize from fits)]

/-! ## The answers of a stream -/

/-- The worker has sent and left as far as it could or wanted to. -/
def Works : LiveStream → LiveStream → Prop :=
  Relation.ReflTransGen fun live next => ∃ event, (event = .send ∨ event = .hangUp) ∧
    LiveStream.step 1 event live = some (next, .worked)

/-- A fetch returns, perhaps behind moves of the worker. -/
def FetchReturns (live : LiveStream) (fetched : StreamFetchResult) (next : LiveStream) : Prop :=
  ∃ ready result, Works live ready ∧
    LiveStream.step 1 .fetch ready = some (next, .fetched result) ∧
    streamFetch result next.kind.hasMore = fetched

/-- A poll returns, perhaps behind moves of the worker. -/
def PollReturns (live : LiveStream) (status : Int) (next : LiveStream) : Prop :=
  ∃ ready, Works live ready ∧ LiveStream.step 1 .poll ready = some (next, .polled status)

/-- The answers that the loop of `streamQueryBatched` can meet. -/
inductive FetchScript.From : LiveStream → FetchScript → Prop
  | refused {live next : LiveStream} (error : Option String)
      (returns : FetchReturns live { success := false, data := none, hasMore := false } next) :
      From live (.refused error)
  | last {live next : LiveStream} {data : Option Bytes}
      (returns : FetchReturns live { success := true, data, hasMore := false } next) :
      From live (.last (data.getD []))
  | more {live next : LiveStream} {first : UInt8} {data : Bytes} {rest : FetchScript}
      (returns : FetchReturns live
        { success := true, data := some (first :: data), hasMore := true } next)
      (behind : From next rest) : From live (.more first data rest)

/-- The answers that the loop of `streamAsync` can meet. -/
inductive PollScript.From : LiveStream → PollScript → Prop
  | pending {live next : LiveStream} {rest : PollScript}
      (polled : PollReturns live streamAsyncStatusPending next)
      (behind : From next rest) : From live (.pending rest)
  | done {live next : LiveStream} (polled : PollReturns live streamAsyncStatusDone next) :
      From live .done
  | failed {live next : LiveStream} {status : Int} (polled : PollReturns live status next)
      (other : status ≠ streamAsyncStatusPending ∧ status ≠ streamAsyncStatusDone ∧
        status ≠ streamAsyncStatusReady) : From live (.failed status)
  | refused {live asked next : LiveStream} (error : Option String)
      (polled : PollReturns live streamAsyncStatusReady asked)
      (returns : FetchReturns asked { success := false, data := none, hasMore := false } next) :
      From live (.refused error)
  | ready {live asked next : LiveStream} {data : Option Bytes} {hasMore : Bool}
      {rest : PollScript} (polled : PollReturns live streamAsyncStatusReady asked)
      (returns : FetchReturns asked { success := true, data, hasMore } next)
      (behind : From next rest) : From live (.ready (data.getD []) rest)

/-- The stream was opened and answers the loop. -/
def StreamAnswers.From (answers : StreamAnswers) (live : LiveStream) : Prop :=
  answers.Opened ∧ answers.fetches.From live

def PollAnswers.From (answers : PollAnswers) (live : LiveStream) : Prop :=
  answers.Opened ∧ answers.polls.From live

end OdbcFast.Dart
