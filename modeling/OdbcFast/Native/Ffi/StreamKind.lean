import OdbcFast.Native.Engine.StreamingState

/-!
# The kinds of stream behind an identifier

The C interface hands out identifiers for three kinds of stream: a result that is
already complete, in memory or in a spill file, and the two kinds that a worker feeds.
It fetches from all of them in one way, and polls all of them too: a kind without a
status of its own reports `ready` while it has more.

`LiveStream` is such a stream with the messages its worker has yet to send.
-/

namespace OdbcFast.Native

open Wire

/-! ## Complete results -/

/-- `StreamingState`: a complete result in memory. -/
structure InMemoryStreamingState where
  data : Bytes
  offset : Nat := 0
  chunkSize : Nat
  deriving DecidableEq, Repr

namespace InMemoryStreamingState

def fetchNextChunk (state : InMemoryStreamingState) :
    Except OdbcError (Option Bytes) × InMemoryStreamingState :=
  if state.offset ≥ state.data.length then (.ok none, state)
  else
    let stop := min (state.offset + state.chunkSize) state.data.length
    (.ok (some ((state.data.drop state.offset).take (stop - state.offset))),
      { state with offset := stop })

def hasMore (state : InMemoryStreamingState) : Bool := state.offset < state.data.length

end InMemoryStreamingState

/-- The call that fails when a spill file is read, with the system's text. -/
inductive SpillFault where
  | opened (error : String)
  | seek (error : String)
  | readExact (error : String)
  deriving DecidableEq, Repr

def SpillFault.toError : SpillFault → OdbcError
  | .opened error => .internalError s!"spill file read: {error}"
  | .seek error => .internalError s!"spill file seek: {error}"
  | .readExact error => .internalError s!"spill file read_exact: {error}"

/-- `file` is what stands behind the path, and `faults` says how the reads to come fail. -/
structure StreamingStateFileBacked where
  file : Bytes
  faults : List (Option SpillFault) := []
  offset : Nat := 0
  chunkSize : Nat
  totalLen : Nat
  deriving DecidableEq, Repr

namespace StreamingStateFileBacked

def fetchNextChunk (state : StreamingStateFileBacked) :
    Except OdbcError (Option Bytes) × StreamingStateFileBacked :=
  if state.offset ≥ state.totalLen then (.ok none, state)
  else
    let toRead := min state.chunkSize (state.totalLen - state.offset)
    let buf := (state.file.drop state.offset).take toRead
    let fault := match state.faults.head?.join with
      | some fault => some fault
      | none =>
        if buf.length < toRead then some (.readExact "failed to fill whole buffer") else none
    let state := { state with faults := state.faults.tail }
    match fault with
    | some fault => (.error fault.toError, state)
    | none =>
      (.ok (if toRead = 0 then none else some buf), { state with offset := state.offset + toRead })

def hasMore (state : StreamingStateFileBacked) : Bool := state.offset < state.totalLen

end StreamingStateFileBacked

inductive StreamState where
  | inMemory (state : InMemoryStreamingState)
  | fileBacked (state : StreamingStateFileBacked)
  deriving DecidableEq, Repr

namespace StreamState

def fetchNextChunk : StreamState → Except OdbcError (Option Bytes) × StreamState
  | .inMemory state => (state.fetchNextChunk.1, .inMemory state.fetchNextChunk.2)
  | .fileBacked state => (state.fetchNextChunk.1, .fileBacked state.fetchNextChunk.2)

def hasMore : StreamState → Bool
  | .inMemory state => state.hasMore
  | .fileBacked state => state.hasMore

end StreamState

/-! ## The three kinds -/

inductive StreamKind where
  | buffer (state : StreamState)
  | batched (state : StreamingState)
  | asyncBatched (state : StreamingState)
  deriving DecidableEq, Repr

def streamAsyncStatusPending : Int := 0

def streamAsyncStatusReady : Int := 1

def streamAsyncStatusDone : Int := 2

def streamAsyncStatusError : Int := -1

def streamAsyncStatusCancelled : Int := -2

def AsyncStreamStatus.code : AsyncStreamStatus → Int
  | .pending => streamAsyncStatusPending
  | .ready => streamAsyncStatusReady
  | .done => streamAsyncStatusDone
  | .cancelled => streamAsyncStatusCancelled
  | .error => streamAsyncStatusError

namespace StreamKind

/-- `none` while a worker has to send first. -/
def fetchNextChunk : StreamKind → Option (Except OdbcError (Option Bytes) × StreamKind)
  | .buffer state => some (state.fetchNextChunk.1, .buffer state.fetchNextChunk.2)
  | .batched state =>
    (BatchedStreamingState.fetchNextChunk state).map fun (result, state) => (result, .batched state)
  | .asyncBatched state =>
    (AsyncStreamingState.fetchNextChunk state).map fun (result, state) =>
      (result, .asyncBatched state)

def hasMore : StreamKind → Bool
  | .buffer state => state.hasMore
  | .batched state => state.hasMore
  | .asyncBatched state => state.hasMore

def pollStatus : StreamKind → Int × StreamKind
  | .asyncBatched state =>
    ((AsyncStreamingState.pollStatus state).1.code,
      .asyncBatched (AsyncStreamingState.pollStatus state).2)
  | .buffer state =>
    (if state.hasMore then streamAsyncStatusReady else streamAsyncStatusDone, .buffer state)
  | .batched state =>
    (if state.hasMore then streamAsyncStatusReady else streamAsyncStatusDone, .batched state)

end StreamKind

/-- The two kinds that a worker feeds. -/
inductive WorkerMode where
  | batched
  | async
  deriving DecidableEq, Repr

namespace WorkerMode

def kind : WorkerMode → StreamingState → StreamKind
  | .batched => .batched
  | .async => .asyncBatched

/-- The text for a worker that is gone. -/
def crashed : WorkerMode → String
  | .batched => "Stream worker disconnected unexpectedly"
  | .async => "Async stream worker disconnected unexpectedly"

def corrupted : WorkerMode → String
  | .batched => "Streaming state corrupted: no batch available after receiver processing"
  | .async => "Async stream state corrupted: no batch available after receiver processing"

/-- What a poll does to the consumer: only the asynchronous kind looks into the channel. -/
def pull : WorkerMode → StreamingState → StreamingState
  | .batched => id
  | .async => AsyncStreamingState.pullNextMessageNonblocking

theorem kind_injective (mode : WorkerMode) : Function.Injective mode.kind := by
  cases mode with
  | batched => exact fun _ _ => StreamKind.batched.inj
  | async => exact fun _ _ => StreamKind.asyncBatched.inj

theorem pull_keeps (mode : WorkerMode) (state : StreamingState) :
    state.Keeps (mode.pull state) := by
  cases mode with
  | batched => exact ⟨rfl, rfl⟩
  | async => exact AsyncStreamingState.pull_keeps state

theorem fetchNextChunk_kind (mode : WorkerMode) (state : StreamingState) :
    (mode.kind state).fetchNextChunk =
      (state.fetchNextChunkWith mode.crashed mode.corrupted).map fun (result, state) =>
        (result, mode.kind state) := by
  cases mode <;> rfl

theorem pollStatus_kind (mode : WorkerMode) (state : StreamingState) :
    (mode.kind state).pollStatus.2 = mode.kind (mode.pull state) := by
  cases mode <;> rfl

end WorkerMode

/-! ## A stream and its worker -/

/-- How a worker leaves: with a last message, or without one. -/
inductive Closing where
  | done
  | cancelled
  | error (message : String)
  | crashed
  deriving DecidableEq, Repr

def Closing.messages : Closing → List BatchedMessage
  | .done => [.done]
  | .cancelled => [.cancelled]
  | .error message => [.error message]
  | .crashed => []

structure LiveStream where
  worker : List BatchedMessage := []
  kind : StreamKind
  deriving DecidableEq, Repr

namespace LiveStream

open StreamSystem

/-- A worker's move; a complete result has no worker. -/
def work (move : System → Option System) (live : LiveStream) : Option LiveStream :=
  match live.kind with
  | .buffer _ => none
  | .batched state => (move ⟨live.worker, state⟩).map fun system =>
      ⟨system.worker, .batched system.consumer⟩
  | .asyncBatched state => (move ⟨live.worker, state⟩).map fun system =>
      ⟨system.worker, .asyncBatched system.consumer⟩

/-- What the two calls of a consumer answer. -/
inductive Output where
  | worked
  | polled (status : Int)
  | fetched (result : Except OdbcError (Option Bytes))
  deriving DecidableEq, Repr

def step (capacity : Nat) : Event → LiveStream → Option (LiveStream × Output)
  | .send, live => (work (send capacity) live).map (·, .worked)
  | .hangUp, live => (work hangUp live).map (·, .worked)
  | .poll, live => some ({ live with kind := live.kind.pollStatus.2 },
      .polled live.kind.pollStatus.1)
  | .fetch, live => live.kind.fetchNextChunk.map fun (result, kind) =>
      ({ live with kind }, .fetched result)

/-- A worker about to send its batches and to leave as `closing` says. No stream has a
chunk size of zero. -/
def start (mode : WorkerMode) (batches : List Bytes) (closing : Closing) (chunkSize : Nat) :
    LiveStream :=
  ⟨batches.map .batch ++ closing.messages, mode.kind { chunkSize := max chunkSize 1 }⟩

theorem work_kind (mode : WorkerMode) (move : System → Option System)
    (worker : List BatchedMessage) (state : StreamingState) :
    work move ⟨worker, mode.kind state⟩ = (move ⟨worker, state⟩).map fun system =>
      ⟨system.worker, mode.kind system.consumer⟩ := by
  cases mode <;> rfl

theorem step_fetch_kind (mode : WorkerMode) (capacity : Nat) (worker : List BatchedMessage)
    (state : StreamingState) :
    step capacity .fetch ⟨worker, mode.kind state⟩ =
      (state.fetchNextChunkWith mode.crashed mode.corrupted).map fun (result, state) =>
        (⟨worker, mode.kind state⟩, .fetched result) := by
  rw [step, mode.fetchNextChunk_kind, Option.map_map]
  rfl

end LiveStream

/-! ## How a stream is closed -/

namespace Closing

variable {closing : Closing} {state : StreamingState} {crashed corrupted : String}

open StreamingState

def crashMessage (crashed : String) : String :=
  let closed := "receiving on a closed channel"
  s!"{crashed}: {closed}"

/-- The answer of the fetch that finds the worker gone or takes its last message. -/
def answer (crashed : String) : Closing → Except OdbcError (Option Bytes)
  | .done => .ok none
  | .cancelled => .ok none
  | .error message => .error (.internalError message)
  | .crashed => .error (.workerCrashed (crashMessage crashed))

/-- The consumer behind that fetch. -/
def close (crashed : String) (closing : Closing) (state : StreamingState) : StreamingState :=
  let state := { state with receiver := { state.receiver with queue := [] } }
  match closing with
  | .done => { state with done := true }
  | .cancelled => { state with done := true, cancelled := true }
  | .error message => { state with streamError := some message }
  | .crashed => { state with done := true, streamError := some (crashMessage crashed) }

/-- The consumer behind a poll that does the same: a crash leaves no error. -/
def closePolled (closing : Closing) (state : StreamingState) : StreamingState :=
  { closing.close "" state with streamError := match closing with
    | .error message => some message
    | _ => state.streamError }

/-- The marks that a closing leaves. -/
def Ended : Closing → StreamingState → Prop
  | .done, state => state.done = true ∧ state.streamError = none ∧ state.cancelled = false
  | .cancelled, state => state.done = true ∧ state.streamError = none ∧ state.cancelled = true
  | .error message, state => state.streamError = some message ∧ state.cancelled = false ∧
      state.done = false
  | .crashed, state => state.done = true ∧ state.cancelled = false ∧
      state.receiver.connected = false

/-- The channel holds nothing but the last message, or a crashed worker has left it. -/
structure AtClosing (closing : Closing) (state : StreamingState) : Prop where
  queue : state.receiver.queue = closing.messages
  gone : closing = .crashed → state.receiver.connected = false

theorem fetch_of_atClosing (clean : state.streamError = none) (open' : state.done = false)
    (empty : state.undelivered = []) (last : closing.AtClosing state) :
    fetchNextChunkWith crashed corrupted state =
      some (closing.answer crashed, closing.close crashed state) := by
  obtain ⟨waiting, gone⟩ := last
  have nothing := undelivered_eq_nil_iff.mp empty
  obtain ⟨⟨queue, connected⟩, _, _, _, _, _, _⟩ := state
  cases clean
  cases open'
  cases waiting
  cases closing with
  | done => exact if_pos nothing
  | cancelled => exact if_pos nothing
  | error message => exact if_pos nothing
  | crashed =>
      cases gone rfl
      exact if_pos nothing

theorem pull_of_atClosing (clean : state.streamError = none) (open' : state.done = false)
    (empty : state.undelivered = []) (last : closing.AtClosing state) :
    AsyncStreamingState.pullNextMessageNonblocking state = closing.closePolled state := by
  obtain ⟨waiting, gone⟩ := last
  have nothing := undelivered_ne_nil_iff.not.mp (not_not.mpr empty)
  obtain ⟨⟨queue, connected⟩, _, _, _, _, _, _⟩ := state
  cases clean
  cases open'
  cases waiting
  cases closing with
  | done => exact if_neg nothing
  | cancelled => exact if_neg nothing
  | error message => exact if_neg nothing
  | crashed =>
      cases gone rfl
      exact if_neg nothing

end Closing

end OdbcFast.Native
