import OdbcFast.Native.Error
import OdbcFast.Wire.Bytes
import OdbcFast.Wire.Machine

/-!
# Consuming a worker's batches in chunks

A worker thread sends batches through a bounded channel and closes with one last
message. The consumer holds the batch it is cutting into chunks and takes the next
message only when nothing of that batch is left. `poll_status` may take a message
too, so a poll between two fetches moves bytes from the channel to the consumer.

`BatchedStreamingState` and `AsyncStreamingState` have the same fields and the same
`fetch_next_chunk` up to the texts of two errors; only the second can be polled.
-/

namespace OdbcFast.Native

open Wire

inductive BatchedMessage where
  | batch (bytes : Bytes)
  | done
  | cancelled
  | error (message : String)
  deriving DecidableEq, Repr

/-- The receiving end of the channel; it is connected while the worker holds the
sending end. -/
structure Receiver where
  queue : List BatchedMessage := []
  connected : Bool := true
  deriving DecidableEq, Repr

namespace Receiver

/-- `recv`: waits (`none`) while the queue is empty and the worker connected. -/
def recv (receiver : Receiver) : Option (Except String BatchedMessage × Receiver) :=
  match receiver.queue with
  | message :: queue => some (.ok message, { receiver with queue })
  | [] =>
    if receiver.connected then none
    else some (.error "receiving on a closed channel", receiver)

/-- How `try_recv` fails. -/
inductive TryRecvError where
  | empty
  | disconnected
  deriving DecidableEq, Repr

def tryRecv (receiver : Receiver) : Except TryRecvError BatchedMessage × Receiver :=
  match receiver.queue with
  | message :: queue => (.ok message, { receiver with queue })
  | [] => (.error (if receiver.connected then .empty else .disconnected), receiver)

end Receiver

/-- The fields that both streaming states have. -/
structure StreamingState where
  receiver : Receiver := {}
  currentBatch : Option Bytes := none
  offset : Nat := 0
  chunkSize : Nat
  done : Bool := false
  streamError : Option String := none
  cancelled : Bool := false
  deriving DecidableEq, Repr

namespace StreamingState

def currentBatchLen (state : StreamingState) : Nat := (state.currentBatch.map List.length).getD 0

def hasMore (state : StreamingState) : Bool := !state.done

/-- The part of `fetch_next_chunk` behind the receiver. The saturation of the sum does
not show, since no batch is longer than the greatest `usize`. -/
def takeChunk (corrupted : String) (state : StreamingState) :
    Except OdbcError (Option Bytes) × StreamingState :=
  if state.offset = 0 ∧ state.chunkSize ≥ state.currentBatchLen then
    (.ok state.currentBatch, { state with currentBatch := none })
  else
    match state.currentBatch with
    | none => (.error (.internalError corrupted), state)
    | some b =>
      let stop := min (state.offset + state.chunkSize) b.length
      (.ok (some ((b.drop state.offset).take (stop - state.offset))), { state with offset := stop })

/-- `fetch_next_chunk` with the texts of its two errors; `none` while it waits. -/
def fetchNextChunkWith (crashed corrupted : String) (state : StreamingState) :
    Option (Except OdbcError (Option Bytes) × StreamingState) :=
  match state.streamError with
  | some message => some (.error (.internalError message), state)
  | none =>
    if state.done then some (.ok none, state)
    else if state.currentBatch.isNone ∨ state.offset ≥ state.currentBatchLen then
      state.receiver.recv.map fun (received, receiver) =>
        let state := { state with receiver }
        match received with
        | .ok (.batch b) => takeChunk corrupted { state with currentBatch := some b, offset := 0 }
        | .ok .done => (.ok none, { state with done := true })
        | .ok .cancelled => (.ok none, { state with done := true, cancelled := true })
        | .ok (.error message) =>
          (.error (.internalError message), { state with streamError := some message })
        | .error closed =>
          let message := s!"{crashed}: {closed}"
          (.error (.workerCrashed message),
            { state with done := true, streamError := some message })
    else some (takeChunk corrupted state)

end StreamingState

/-- `BatchedStreamingState::fetch_next_chunk`. -/
def BatchedStreamingState.fetchNextChunk :
    StreamingState → Option (Except OdbcError (Option Bytes) × StreamingState) :=
  StreamingState.fetchNextChunkWith "Stream worker disconnected unexpectedly"
    "Streaming state corrupted: no batch available after receiver processing"

namespace AsyncStreamingState

/-- `AsyncStreamingState::fetch_next_chunk`. -/
def fetchNextChunk : StreamingState → Option (Except OdbcError (Option Bytes) × StreamingState) :=
  StreamingState.fetchNextChunkWith "Async stream worker disconnected unexpectedly"
    "Async stream state corrupted: no batch available after receiver processing"

def pullNextMessageNonblocking (state : StreamingState) : StreamingState :=
  if state.done ∨ state.streamError.isSome then state
  else if state.currentBatch.isSome ∧ state.offset < state.currentBatchLen then state
  else
    let (received, receiver) := state.receiver.tryRecv
    let state := { state with receiver }
    match received with
    | .ok (.batch b) => { state with currentBatch := some b, offset := 0 }
    | .ok .done => { state with done := true }
    | .ok .cancelled => { state with done := true, cancelled := true }
    | .ok (.error message) => { state with streamError := some message }
    | .error .empty => state
    | .error .disconnected => { state with done := true }

end AsyncStreamingState

inductive AsyncStreamStatus where
  | pending
  | ready
  | done
  | cancelled
  | error
  deriving DecidableEq, Repr

def AsyncStreamingState.pollStatus (state : StreamingState) : AsyncStreamStatus × StreamingState :=
  let state := pullNextMessageNonblocking state
  let status :=
    if state.streamError.isSome then .error
    else if state.cancelled then .cancelled
    else if state.done then .done
    else if state.currentBatch.isSome ∧ state.offset < state.currentBatchLen then .ready
    else .pending
  (status, state)

/-! ## What a turn of the consumer does -/

namespace StreamingState

variable {state : StreamingState} {crashed corrupted : String} {b : Bytes}
  {queue : List BatchedMessage}

/-- What is left of the current batch. -/
def undelivered (state : StreamingState) : Bytes :=
  (state.currentBatch.getD []).drop state.offset

theorem undelivered_eq_nil_iff :
    state.undelivered = [] ↔
      state.currentBatch.isNone ∨ state.offset ≥ state.currentBatchLen := by
  rw [undelivered, currentBatchLen, List.drop_eq_nil_iff]
  cases state.currentBatch with
  | none => simp
  | some b => simp

theorem undelivered_ne_nil_iff :
    state.undelivered ≠ [] ↔
      state.currentBatch.isSome ∧ state.offset < state.currentBatchLen := by
  rw [ne_eq, undelivered_eq_nil_iff, not_or, Option.isNone_iff_eq_none, ← ne_eq,
    Option.ne_none_iff_isSome, Nat.not_le]

/-- A chunk is cut off the front of the batch; it is at most `chunkSize` long, and not
empty unless nothing was left. -/
theorem takeChunk_spec (corrupted : String) (held : state.currentBatch = some b) :
    ∃ chunk currentBatch offset, takeChunk corrupted state =
        (.ok (some chunk), { state with currentBatch, offset }) ∧
      chunk.length ≤ state.chunkSize ∧
      chunk ++ (currentBatch.getD []).drop offset = state.undelivered ∧
      (0 < state.chunkSize → state.undelivered ≠ [] → chunk ≠ []) := by
  have length : state.currentBatchLen = b.length := by rw [currentBatchLen, held]; rfl
  rw [undelivered, takeChunk, held, length, Option.getD_some]
  split_ifs with whole
  · refine ⟨b, none, state.offset, rfl, whole.2, ?_, ?_⟩
    · simp [whole.1]
    · intro _ left
      simpa [whole.1] using left
  · refine ⟨(b.drop state.offset).take (min (state.offset + state.chunkSize) b.length -
      state.offset), some b, min (state.offset + state.chunkSize) b.length, rfl, ?_, ?_, ?_⟩
    · rw [List.length_take]
      omega
    · rw [Option.getD_some]
      by_cases inside : state.offset ≤ b.length
      · have stop : min (state.offset + state.chunkSize) b.length = state.offset +
            (min (state.offset + state.chunkSize) b.length - state.offset) := by omega
        nth_rewrite 2 [stop]
        rw [← List.drop_drop, List.take_append_drop]
      · rw [Nat.min_eq_right (by omega), List.drop_length, List.append_nil,
          List.drop_eq_nil_of_le (by omega), List.take_nil]
    · intro pos left
      have more : 0 < b.length - state.offset := by
        rw [← List.length_drop]
        exact List.length_pos_of_ne_nil left
      apply List.ne_nil_of_length_pos
      rw [List.length_take, List.length_drop]
      omega

/-- What no turn of the consumer changes: only the worker can close the channel. -/
def Keeps (state next : StreamingState) : Prop :=
  next.receiver.connected = state.receiver.connected ∧ next.chunkSize = state.chunkSize

theorem takeChunk_keeps (corrupted : String) (state : StreamingState) :
    state.Keeps (takeChunk corrupted state).2 := by
  rw [takeChunk]
  split_ifs
  · exact ⟨rfl, rfl⟩
  · split <;> exact ⟨rfl, rfl⟩

theorem fetch_keeps {result : Except OdbcError (Option Bytes)} {next : StreamingState}
    (fetched : fetchNextChunkWith crashed corrupted state = some (result, next)) :
    state.Keeps next := by
  rw [fetchNextChunkWith] at fetched
  split at fetched
  · cases fetched
    exact ⟨rfl, rfl⟩
  · split_ifs at fetched
    · cases fetched
      exact ⟨rfl, rfl⟩
    · obtain ⟨⟨received, receiver⟩, taken, outcome⟩ := Option.map_eq_some_iff.mp fetched
      have same : receiver.connected = state.receiver.connected := by
        rw [Receiver.recv] at taken
        split at taken
        · cases taken
          rfl
        · obtain ⟨-, taken⟩ := Option.ite_none_left_eq_some.mp taken
          cases taken
          rfl
      have last : _ = next := congrArg Prod.snd outcome
      rw [← last, Keeps, ← same]
      cases received with
      | error closed => exact ⟨rfl, rfl⟩
      | ok message =>
          cases message with
          | batch b =>
              exact takeChunk_keeps corrupted
                { state with receiver, currentBatch := some b, offset := 0 }
          | done => exact ⟨rfl, rfl⟩
          | cancelled => exact ⟨rfl, rfl⟩
          | error message => exact ⟨rfl, rfl⟩
    · have last : _ = next := congrArg Prod.snd (Option.some.inj fetched)
      rw [← last]
      exact takeChunk_keeps corrupted state

theorem fetch_of_error {message : String} (failed : state.streamError = some message) :
    fetchNextChunkWith crashed corrupted state =
      some (.error (.internalError message), state) := by
  rw [fetchNextChunkWith, failed]

theorem fetch_of_done (clean : state.streamError = none) (done : state.done = true) :
    fetchNextChunkWith crashed corrupted state = some (.ok none, state) := by
  simp only [fetchNextChunkWith, clean, done, if_true]

theorem fetch_of_undelivered (clean : state.streamError = none) (open' : state.done = false)
    (left : state.undelivered ≠ []) :
    fetchNextChunkWith crashed corrupted state = some (takeChunk corrupted state) := by
  simp only [fetchNextChunkWith, clean, open', Bool.false_eq_true, if_false]
  rw [if_neg (undelivered_eq_nil_iff.not.mp left)]

theorem fetch_of_batch (clean : state.streamError = none) (open' : state.done = false)
    (empty : state.undelivered = []) (waiting : state.receiver.queue = .batch b :: queue) :
    fetchNextChunkWith crashed corrupted state =
      some (takeChunk corrupted { state with
        receiver := { state.receiver with queue }, currentBatch := some b, offset := 0 }) := by
  simp only [fetchNextChunkWith, clean, open', Bool.false_eq_true, if_false]
  rw [if_pos (undelivered_eq_nil_iff.mp empty), Receiver.recv, waiting]
  rfl

theorem fetch_of_doneMessage (clean : state.streamError = none) (open' : state.done = false)
    (empty : state.undelivered = []) (waiting : state.receiver.queue = .done :: queue) :
    fetchNextChunkWith crashed corrupted state =
      some (.ok none, { state with receiver := { state.receiver with queue }, done := true }) := by
  simp only [fetchNextChunkWith, clean, open', Bool.false_eq_true, if_false]
  rw [if_pos (undelivered_eq_nil_iff.mp empty), Receiver.recv, waiting]
  simp

theorem fetch_of_empty (clean : state.streamError = none) (open' : state.done = false)
    (empty : state.undelivered = []) (waiting : state.receiver.queue = [])
    (connected : state.receiver.connected = true) :
    fetchNextChunkWith crashed corrupted state = none := by
  simp only [fetchNextChunkWith, clean, open', Bool.false_eq_true, if_false]
  rw [if_pos (undelivered_eq_nil_iff.mp empty), Receiver.recv, waiting]
  simp [connected]

end StreamingState

namespace AsyncStreamingState

variable {state : StreamingState} {b : Bytes} {queue : List BatchedMessage}

theorem pull_keeps (state : StreamingState) : state.Keeps (pullNextMessageNonblocking state) := by
  rw [pullNextMessageNonblocking]
  split_ifs
  · exact ⟨rfl, rfl⟩
  · exact ⟨rfl, rfl⟩
  · rw [Receiver.tryRecv]
    cases state.receiver.queue with
    | nil =>
        cases there : state.receiver.connected with
        | true => exact ⟨rfl, rfl⟩
        | false => exact ⟨rfl, rfl⟩
    | cons message queue => cases message <;> exact ⟨rfl, rfl⟩

theorem pull_of_done (done : state.done = true) : pullNextMessageNonblocking state = state := by
  rw [pullNextMessageNonblocking, if_pos (.inl done)]

theorem pull_of_undelivered (left : state.undelivered ≠ []) :
    pullNextMessageNonblocking state = state := by
  rw [pullNextMessageNonblocking]
  split_ifs with finished held
  · rfl
  · rfl
  · exact absurd (StreamingState.undelivered_ne_nil_iff.mp left) held

theorem pull_of_batch (clean : state.streamError = none) (open' : state.done = false)
    (empty : state.undelivered = []) (waiting : state.receiver.queue = .batch b :: queue) :
    pullNextMessageNonblocking state = { state with
      receiver := { state.receiver with queue }, currentBatch := some b, offset := 0 } := by
  rw [pullNextMessageNonblocking, if_neg (by simp [clean, open']),
    if_neg (StreamingState.undelivered_ne_nil_iff.not.mp (not_not.mpr empty)), Receiver.tryRecv,
    waiting]

theorem pull_of_doneMessage (clean : state.streamError = none) (open' : state.done = false)
    (empty : state.undelivered = []) (waiting : state.receiver.queue = .done :: queue) :
    pullNextMessageNonblocking state = { state with
      receiver := { state.receiver with queue }, done := true } := by
  rw [pullNextMessageNonblocking, if_neg (by simp [clean, open']),
    if_neg (StreamingState.undelivered_ne_nil_iff.not.mp (not_not.mpr empty)), Receiver.tryRecv,
    waiting]

theorem pull_of_empty (waiting : state.receiver.queue = [])
    (connected : state.receiver.connected = true) : pullNextMessageNonblocking state = state := by
  rw [pullNextMessageNonblocking, Receiver.tryRecv, waiting]
  rw [if_pos connected]
  split_ifs <;> rfl

end AsyncStreamingState

/-! ## Worker and consumer together -/

namespace StreamSystem

/-- The messages that the worker has not sent yet, and the consumer. -/
structure System where
  worker : List BatchedMessage
  consumer : StreamingState
  deriving DecidableEq, Repr

/-- Whose turn it is: the worker sends its next message or drops its end of the channel
after the last one, the consumer polls or fetches. -/
inductive Event where
  | send
  | hangUp
  | poll
  | fetch
  deriving DecidableEq, Repr

inductive Output where
  | worked
  | polled (status : AsyncStreamStatus)
  | fetched (result : Except OdbcError (Option Bytes))
  deriving DecidableEq, Repr

/-- The worker's two moves; a full channel makes `send` wait. -/
def send (capacity : Nat) (system : System) : Option System :=
  match system.worker with
  | [] => none
  | message :: worker =>
    let receiver := system.consumer.receiver
    if receiver.queue.length < capacity then
      some ⟨worker, { system.consumer with
        receiver := { receiver with queue := receiver.queue ++ [message] } }⟩
    else none

def hangUp (system : System) : Option System :=
  if system.worker = [] then
    some { system with consumer := { system.consumer with
      receiver := { system.consumer.receiver with connected := false } } }
  else none

def fetchWith (fetch : StreamingState → Option (Except OdbcError (Option Bytes) × StreamingState))
    (system : System) : Option (System × Output) :=
  (fetch system.consumer).map fun (result, consumer) =>
    ({ system with consumer }, .fetched result)

/-- The system around a `BatchedStreamingState`, which has no poll. -/
def stepBatched (capacity : Nat) : Event → System → Option (System × Output)
  | .send, system => (send capacity system).map (·, .worked)
  | .hangUp, system => (hangUp system).map (·, .worked)
  | .poll, _ => none
  | .fetch, system => fetchWith BatchedStreamingState.fetchNextChunk system

/-- The system around an `AsyncStreamingState`. -/
def stepAsync (capacity : Nat) : Event → System → Option (System × Output)
  | .send, system => (send capacity system).map (·, .worked)
  | .hangUp, system => (hangUp system).map (·, .worked)
  | .poll, system =>
    let (status, consumer) := AsyncStreamingState.pollStatus system.consumer
    some ({ system with consumer }, .polled status)
  | .fetch, system => fetchWith AsyncStreamingState.fetchNextChunk system

/-- A started stream: the worker is about to send its batches and then `Done`. -/
def start (batches : List Bytes) (chunkSize : Nat) : System :=
  ⟨batches.map .batch ++ [.done], { chunkSize }⟩

/-- The chunks that fetching has returned. -/
def chunks (log : List Output) : List Bytes :=
  log.filterMap fun
    | .fetched (.ok chunk) => chunk
    | _ => none

@[simp] theorem chunks_nil : chunks [] = [] := rfl

@[simp] theorem chunks_append_worked (log : List Output) :
    chunks (log ++ [.worked]) = chunks log := by simp [chunks]

@[simp] theorem chunks_append_polled (log : List Output) (status : AsyncStreamStatus) :
    chunks (log ++ [.polled status]) = chunks log := by simp [chunks]

@[simp] theorem chunks_append_fetched (log : List Output) (chunk : Option Bytes) :
    chunks (log ++ [.fetched (.ok chunk)]) = chunks log ++ chunk.toList := by
  cases chunk <;> simp [chunks]

end StreamSystem

end OdbcFast.Native
