import OdbcFast.Native.Ffi.StreamKind
import OdbcFast.Verification.StreamingState

/-!
# Streams whose worker may fail

A worker sends its batches and then leaves: with `Done`, with `Cancelled`, with an
error, or without a word when it has crashed. Such a stream is `Streaming` or
`Finished`, whatever the order of sends, polls and fetches, and `fetch_cases` and
`pull_cases` say what a turn of the consumer can do to it. `remaining` is what the
consumer can still get, and `weight` bounds the fetches that this takes.
-/

namespace OdbcFast.Verification

open Wire Native StreamSystem StreamingState

variable {closing : Closing} {system next : System} {crashed corrupted : String}
  {capacity : Nat}

/-- What held of every output so far holds with one more. -/
theorem forall_mem_append_singleton {p : LiveStream.Output → Prop} {log : List LiveStream.Output}
    {output : LiveStream.Output} (earlier : ∀ o ∈ log, p o) (now : p output) :
    ∀ o ∈ log ++ [output], p o :=
  List.forall_mem_append.mpr ⟨earlier, List.forall_mem_singleton.mpr now⟩

/-! ## Where a stream stands -/

/-- Batches may still come, and behind them the worker leaves as `closing` says. -/
structure Streaming (closing : Closing) (system : System) : Prop where
  open' : system.consumer.done = false
  clean : system.consumer.streamError = none
  live : system.consumer.cancelled = false
  connected : system.worker ≠ [] → system.consumer.receiver.connected = true
  supply : ∃ later : List Bytes, system.consumer.receiver.queue ++ system.worker =
    later.map .batch ++ closing.messages

/-- The consumer has seen how the worker left, and nothing is left anywhere. -/
structure Finished (closing : Closing) (system : System) : Prop where
  idle : system.worker = []
  drained : system.consumer.receiver.queue = []
  delivered : system.consumer.undelivered = []
  marks : closing.Ended system.consumer

def Phase (closing : Closing) (system : System) : Prop :=
  Streaming closing system ∨ Finished closing system

/-- The bytes that are still to come: of the current batch, in the channel and with the
worker. -/
def remaining (system : System) : Bytes :=
  system.consumer.undelivered ++
    ((system.consumer.receiver.queue ++ system.worker).flatMap fun
      | .batch b => b
      | _ => [])

/-- The next batch is out of the channel. -/
def withBatch (b : Bytes) (queue : List BatchedMessage) (system : System) : System :=
  { system with consumer := { system.consumer with
      receiver := { system.consumer.receiver with queue }, currentBatch := some b, offset := 0 } }

theorem Closing.flatMap_messages (closing : Closing) :
    (closing.messages.flatMap fun
      | .batch b => b
      | _ => []) = ([] : Bytes) := by
  cases closing <;> rfl

namespace Streaming

theorem send (streaming : Streaming closing system)
    (sent : StreamSystem.send capacity system = some next) :
    Streaming closing next ∧ remaining next = remaining system ∧ weight next = weight system ∧
      next.consumer.chunkSize = system.consumer.chunkSize := by
  rw [StreamSystem.send] at sent
  split at sent
  · cases sent
  · next message worker waiting =>
      obtain ⟨-, sent⟩ := Option.ite_none_right_eq_some.mp sent
      cases sent
      have busy : system.worker ≠ [] := by simp [waiting]
      have order : system.consumer.receiver.queue ++ [message] ++ worker =
          system.consumer.receiver.queue ++ system.worker := by
        rw [waiting, List.append_assoc, List.singleton_append]
      refine ⟨⟨streaming.open', streaming.clean, streaming.live,
        fun _ => streaming.connected busy, ?_⟩, ?_, ?_, rfl⟩
      · simp only [order]
        exact streaming.supply
      · simp only [remaining, order]
        rfl
      · simp only [weight, order]
        rfl

theorem hangUp (streaming : Streaming closing system)
    (hung : StreamSystem.hangUp system = some next) :
    Streaming closing next ∧ remaining next = remaining system ∧ weight next = weight system ∧
      next.consumer.chunkSize = system.consumer.chunkSize := by
  obtain ⟨idle, hung⟩ := Option.ite_none_right_eq_some.mp hung
  cases hung
  exact ⟨⟨streaming.open', streaming.clean, streaming.live, fun busy => absurd idle busy,
    streaming.supply⟩, rfl, rfl, rfl⟩

/-- What a consumer without bytes finds: a batch, the worker's last message or its absence,
or nothing from a worker that is still there. -/
theorem next_message (streaming : Streaming closing system) :
    (∃ b queue, system.consumer.receiver.queue = .batch b :: queue) ∨
      (closing.AtClosing system.consumer ∧ system.worker = []) ∨
      (system.consumer.receiver.queue = [] ∧ system.consumer.receiver.connected = true) := by
  obtain ⟨later, supply⟩ := streaming.supply
  cases waiting : system.consumer.receiver.queue with
  | nil =>
      cases connected : system.consumer.receiver.connected with
      | true => exact .inr (.inr ⟨rfl, rfl⟩)
      | false =>
          have idle : system.worker = [] := by
            by_contra busy
            rw [streaming.connected busy] at connected
            cases connected
          rw [waiting, idle] at supply
          obtain ⟨-, silent⟩ := List.append_eq_nil_iff.mp supply.symm
          exact .inr (.inl ⟨⟨by rw [waiting, silent], fun _ => connected⟩, idle⟩)
  | cons message queue =>
      rw [waiting] at supply
      cases later with
      | cons first later =>
          obtain ⟨rfl, -⟩ := List.cons.inj supply
          exact .inl ⟨first, queue, rfl⟩
      | nil =>
          have single : closing.messages.length ≤ 1 := by cases closing <;> simp [Closing.messages]
          rw [List.map_nil, List.nil_append] at supply
          rw [← supply] at single
          have short : queue = [] ∧ system.worker = [] := by simpa using single
          obtain ⟨rfl, idle⟩ := short
          refine .inr (.inl ⟨⟨?_, ?_⟩, idle⟩)
          · rw [waiting, ← supply, idle, List.append_nil]
          · rintro rfl
            cases supply

/-- Taking a batch out of the channel moves bytes and delivers none. -/
theorem receive {b : Bytes} {queue : List BatchedMessage} (streaming : Streaming closing system)
    (empty : system.consumer.undelivered = [])
    (waiting : system.consumer.receiver.queue = .batch b :: queue) :
    Streaming closing (withBatch b queue system) ∧
      remaining (withBatch b queue system) = remaining system ∧
      weight (withBatch b queue system) < weight system := by
  obtain ⟨later, supply⟩ := streaming.supply
  rw [waiting] at supply
  refine ⟨⟨streaming.open', streaming.clean, streaming.live, streaming.connected, ?_⟩, ?_, ?_⟩
  · cases later with
    | nil => cases closing <;> cases supply
    | cons first later => exact ⟨later, (List.cons.inj supply).2⟩
  · rw [remaining, remaining, empty, waiting]
    rfl
  · simp only [weight, withBatch, waiting, undelivered, List.cons_append, List.map_cons,
      List.sum_cons, messageWeight, Option.getD_some, List.drop_zero]
    omega

/-- Cutting a chunk off the current batch. -/
theorem takeChunk {b : Bytes} (corrupted : String) (streaming : Streaming closing system)
    (held : system.consumer.currentBatch = some b) :
    ∃ chunk consumer, takeChunk corrupted system.consumer = (.ok (some chunk), consumer) ∧
      Streaming closing { system with consumer } ∧
      chunk ++ remaining { system with consumer } = remaining system ∧
      weight { system with consumer } ≤ weight system ∧
      (0 < system.consumer.chunkSize → system.consumer.undelivered ≠ [] →
        weight { system with consumer } < weight system) ∧
      consumer.chunkSize = system.consumer.chunkSize := by
  obtain ⟨chunk, currentBatch, offset, taken, -, cut, -⟩ := takeChunk_spec corrupted held
  obtain ⟨noHeavier, lighter⟩ := weight_takeChunk corrupted system.worker held
  rw [taken] at noHeavier lighter
  refine ⟨chunk, _, taken, ⟨streaming.open', streaming.clean, streaming.live,
    streaming.connected, streaming.supply⟩, ?_, noHeavier, lighter, rfl⟩
  rw [remaining, remaining, ← cut, List.append_assoc]
  rfl

/-- What closes the stream leaves nothing. -/
theorem finished_of_atClosing (streaming : Streaming closing system)
    (empty : system.consumer.undelivered = []) (idle : system.worker = [])
    (last : closing.AtClosing system.consumer) (crashed : String) :
    Finished closing { system with consumer := closing.close crashed system.consumer } ∧
      Finished closing { system with consumer := closing.closePolled system.consumer } := by
  have open' := streaming.open'
  have clean := streaming.clean
  have live := streaming.live
  refine ⟨⟨idle, ?_, ?_, ?_⟩, ⟨idle, ?_, ?_, ?_⟩⟩
  · cases closing <;> rfl
  · cases closing <;> exact empty
  · cases closing with
    | done => exact ⟨rfl, clean, live⟩
    | cancelled => exact ⟨rfl, clean, rfl⟩
    | error message => exact ⟨rfl, live, open'⟩
    | crashed => exact ⟨rfl, live, last.gone rfl⟩
  · cases closing <;> rfl
  · cases closing <;> exact empty
  · cases closing with
    | done => exact ⟨rfl, clean, live⟩
    | cancelled => exact ⟨rfl, clean, rfl⟩
    | error message => exact ⟨rfl, live, open'⟩
    | crashed => exact ⟨rfl, live, last.gone rfl⟩

theorem remaining_of_atClosing (empty : system.consumer.undelivered = [])
    (idle : system.worker = []) (last : closing.AtClosing system.consumer) :
    remaining system = [] := by
  rw [remaining, empty, idle, last.queue, List.append_nil, List.nil_append]
  exact Closing.flatMap_messages closing

/-- A fetch that returns from an open stream cuts a chunk off what remains, or closes the
stream. -/
theorem fetch_cases {result : Except OdbcError (Option Bytes)} {consumer : StreamingState}
    (streaming : Streaming closing system)
    (fetched : fetchNextChunkWith crashed corrupted system.consumer = some (result, consumer)) :
    (∃ chunk, result = .ok (some chunk) ∧ Streaming closing { system with consumer } ∧
        chunk ++ remaining { system with consumer } = remaining system ∧
        (0 < system.consumer.chunkSize → weight { system with consumer } < weight system) ∧
        consumer.chunkSize = system.consumer.chunkSize) ∨
      (result = closing.answer crashed ∧ consumer = closing.close crashed system.consumer ∧
        remaining system = [] ∧ Finished closing { system with consumer }) := by
  by_cases empty : system.consumer.undelivered = []
  · rcases streaming.next_message with ⟨b, queue, waiting⟩ | ⟨last, idle⟩ | ⟨waiting, connected⟩
    · rw [fetch_of_batch streaming.clean streaming.open' empty waiting] at fetched
      obtain ⟨after, same, lighter⟩ := streaming.receive empty waiting
      obtain ⟨chunk, next, taken, streaming', bytes, noHeavier, -, size⟩ :=
        after.takeChunk corrupted rfl
      have fetched : some (StreamingState.takeChunk corrupted (withBatch b queue system).consumer) =
        some (result, consumer) := fetched
      rw [taken] at fetched
      cases fetched
      exact .inl ⟨chunk, rfl, streaming', bytes.trans same,
        fun _ => Nat.lt_of_le_of_lt noHeavier lighter, size⟩
    · rw [Closing.fetch_of_atClosing streaming.clean streaming.open' empty last] at fetched
      cases fetched
      exact .inr ⟨rfl, rfl, remaining_of_atClosing empty idle last,
        (streaming.finished_of_atClosing empty idle last crashed).1⟩
    · rw [fetch_of_empty streaming.clean streaming.open' empty waiting connected] at fetched
      cases fetched
  · rw [fetch_of_undelivered streaming.clean streaming.open' empty] at fetched
    obtain ⟨b, held⟩ := Option.isSome_iff_exists.mp (undelivered_ne_nil_iff.mp empty).1
    obtain ⟨chunk, next, taken, streaming', bytes, -, lighter, size⟩ :=
      streaming.takeChunk corrupted held
    rw [taken] at fetched
    cases fetched
    exact .inl ⟨chunk, rfl, streaming', bytes, fun pos => lighter pos empty, size⟩

/-- A poll leaves an open stream open with the same bytes, or closes it. -/
theorem pull_cases (streaming : Streaming closing system) :
    (Streaming closing { system with
          consumer := AsyncStreamingState.pullNextMessageNonblocking system.consumer } ∧
        remaining { system with
          consumer := AsyncStreamingState.pullNextMessageNonblocking system.consumer } =
          remaining system ∧
        weight { system with
          consumer := AsyncStreamingState.pullNextMessageNonblocking system.consumer } ≤
          weight system ∧
        (AsyncStreamingState.pullNextMessageNonblocking system.consumer).chunkSize =
          system.consumer.chunkSize) ∨
      (AsyncStreamingState.pullNextMessageNonblocking system.consumer =
          closing.closePolled system.consumer ∧ system.consumer.undelivered = [] ∧
        closing.AtClosing system.consumer ∧ remaining system = [] ∧
        Finished closing { system with
          consumer := AsyncStreamingState.pullNextMessageNonblocking system.consumer }) := by
  by_cases empty : system.consumer.undelivered = []
  · rcases streaming.next_message with ⟨b, queue, waiting⟩ | ⟨last, idle⟩ | ⟨waiting, connected⟩
    · rw [AsyncStreamingState.pull_of_batch streaming.clean streaming.open' empty waiting]
      obtain ⟨after, same, lighter⟩ := streaming.receive empty waiting
      exact .inl ⟨after, same, Nat.le_of_lt lighter, rfl⟩
    · rw [Closing.pull_of_atClosing streaming.clean streaming.open' empty last]
      exact .inr ⟨rfl, empty, last, remaining_of_atClosing empty idle last,
        (streaming.finished_of_atClosing empty idle last "").2⟩
    · rw [AsyncStreamingState.pull_of_empty waiting connected]
      exact .inl ⟨streaming, rfl, Nat.le_refl _, rfl⟩
  · rw [AsyncStreamingState.pull_of_undelivered empty]
    exact .inl ⟨streaming, rfl, Nat.le_refl _, rfl⟩

/-- An open stream is `ready` or `pending`. -/
theorem pollStatus (streaming : Streaming closing { system with
      consumer := AsyncStreamingState.pullNextMessageNonblocking system.consumer }) :
    (AsyncStreamingState.pollStatus system.consumer).1 = .ready ∨
      (AsyncStreamingState.pollStatus system.consumer).1 = .pending := by
  have open' := streaming.open'
  have clean := streaming.clean
  have live := streaming.live
  simp only at open' clean live
  simp only [AsyncStreamingState.pollStatus, open', clean, live, Option.isSome_none,
    Bool.false_eq_true, if_false]
  split_ifs with held
  · exact .inl rfl
  · exact .inr rfl

end Streaming

namespace Finished

/-- A finished stream answers every fetch alike and stays as it is. -/
theorem fetch (finished : Finished closing system) :
    fetchNextChunkWith crashed corrupted system.consumer =
      some (match system.consumer.streamError with
        | some message => .error (.internalError message)
        | none => .ok none, system.consumer) := by
  have marks := finished.marks
  cases failed : system.consumer.streamError with
  | some message => exact fetch_of_error failed
  | none =>
      have done : system.consumer.done = true := by
        cases closing with
        | error message =>
            rw [marks.1] at failed
            cases failed
        | done => exact marks.1
        | cancelled => exact marks.1
        | crashed => exact marks.1
      exact fetch_of_done failed done

theorem pull (finished : Finished closing system) :
    AsyncStreamingState.pullNextMessageNonblocking system.consumer = system.consumer := by
  have marks := finished.marks
  rw [AsyncStreamingState.pullNextMessageNonblocking, if_pos]
  cases closing with
  | error message => exact .inr (by rw [marks.1]; rfl)
  | done => exact .inl marks.1
  | cancelled => exact .inl marks.1
  | crashed => exact .inl marks.1

theorem hangUp (finished : Finished closing system)
    (hung : StreamSystem.hangUp system = some next) :
    Finished closing next ∧ next.consumer.streamError = system.consumer.streamError ∧
      next.consumer.chunkSize = system.consumer.chunkSize := by
  obtain ⟨idle, hung⟩ := Option.ite_none_right_eq_some.mp hung
  cases hung
  refine ⟨⟨idle, finished.drained, finished.delivered, ?_⟩, rfl, rfl⟩
  have marks := finished.marks
  cases closing with
  | error message => exact marks
  | done => exact marks
  | cancelled => exact marks
  | crashed => exact ⟨marks.1, marks.2.1, rfl⟩

theorem not_send (finished : Finished closing system) :
    StreamSystem.send capacity system = none := by
  rw [StreamSystem.send, finished.idle]

theorem remaining_eq (finished : Finished closing system) : remaining system = [] := by
  rw [remaining, finished.delivered, finished.drained, finished.idle]
  rfl

end Finished

/-! ## What a stream answers -/

/-- A regular end: a fetch without a chunk, or the status `Done`. -/
def ReportsEnd (output : LiveStream.Output) : Prop :=
  output = .fetched (.ok none) ∨ output = .polled streamAsyncStatusDone

def isFetch : LiveStream.Output → Bool
  | .fetched _ => true
  | _ => false

/-- A failed worker is not taken for one that has finished, and only a cancelled one for a
cancelled one. -/
structure Fits (closing : Closing) (output : LiveStream.Output) : Prop where
  ended : ReportsEnd output → ∀ message, closing ≠ .error message
  cancelled : output = .polled streamAsyncStatusCancelled → closing = .cancelled

theorem fits_worked (closing : Closing) : Fits closing .worked := by
  refine ⟨?_, by rintro ⟨⟩⟩
  rintro (impossible | impossible) <;> cases impossible

theorem fits_chunk (closing : Closing) (chunk : Bytes) :
    Fits closing (.fetched (.ok (some chunk))) := by
  refine ⟨?_, by rintro ⟨⟩⟩
  rintro (impossible | impossible) <;> cases impossible

theorem fits_open (closing : Closing) {status : Int}
    (open' : status = streamAsyncStatusReady ∨ status = streamAsyncStatusPending) :
    Fits closing (.polled status) := by
  constructor
  · rintro (impossible | done)
    · cases impossible
    · rw [LiveStream.Output.polled.injEq] at done
      rcases open' with rfl | rfl <;> cases done
  · intro cancelled
    rw [LiveStream.Output.polled.injEq] at cancelled
    rcases open' with rfl | rfl <;> cases cancelled

/-- The status of a finished stream follows its marks. -/
theorem fits_status {state : StreamingState}
    (ended : closing.Ended (AsyncStreamingState.pullNextMessageNonblocking state)) :
    Fits closing (.polled (AsyncStreamingState.pollStatus state).1.code) := by
  rw [AsyncStreamingState.pollStatus]
  cases closing with
  | done =>
      obtain ⟨done, clean, live⟩ := ended
      simp only [done, clean, live, Option.isSome_none, Bool.false_eq_true, if_false, if_true]
      exact ⟨fun _ _ => by rintro ⟨⟩, by rintro ⟨⟩⟩
  | cancelled => exact ⟨fun _ _ => by rintro ⟨⟩, fun _ => rfl⟩
  | error message =>
      obtain ⟨failed, -⟩ := ended
      simp only [failed, Option.isSome_some, if_true]
      refine ⟨?_, by rintro ⟨⟩⟩
      rintro (impossible | impossible) <;> cases impossible
  | crashed =>
      obtain ⟨done, live, -⟩ := ended
      simp only [done, live, Bool.false_eq_true, if_false, if_true]
      refine ⟨fun _ _ => by rintro ⟨⟩, ?_⟩
      split_ifs <;> rintro ⟨⟩

theorem fits_answer (closing : Closing) (crashed : String) :
    Fits closing (.fetched (closing.answer crashed)) := by
  refine ⟨?_, by rintro ⟨⟩⟩
  rintro (ended | impossible) message rfl
  · cases ended
  · cases impossible

namespace Phase

variable {mode : WorkerMode} {worker : List BatchedMessage} {state : StreamingState}
  {live : LiveStream} {output : LiveStream.Output}

theorem fetch {result : Except OdbcError (Option Bytes)} {state' : StreamingState}
    (phase : Phase closing ⟨worker, state⟩)
    (fetched : fetchNextChunkWith crashed corrupted state = some (result, state')) :
    Phase closing ⟨worker, state'⟩ ∧ Fits closing (.fetched result) := by
  rcases phase with streaming | finished
  · rcases streaming.fetch_cases fetched with ⟨chunk, rfl, after, -⟩ | ⟨rfl, -, -, after⟩
    · exact ⟨.inl after, fits_chunk closing chunk⟩
    · exact ⟨.inr after, fits_answer closing crashed⟩
  · cases fetched.symm.trans finished.fetch
    refine ⟨.inr finished, ?_, by rintro ⟨⟩⟩
    rintro (ended | impossible) message rfl
    · have failed := finished.marks.1
      simp only at failed
      simp [failed] at ended
    · cases impossible

theorem poll (mode : WorkerMode) (phase : Phase closing ⟨worker, state⟩) :
    Phase closing ⟨worker, mode.pull state⟩ ∧
      Fits closing (.polled (mode.kind state).pollStatus.1) := by
  cases mode with
  | batched =>
      refine ⟨phase, ?_⟩
      rw [WorkerMode.kind, StreamKind.pollStatus]
      rcases phase with streaming | finished
      · exact fits_open closing (.inl (if_pos (by rw [hasMore, streaming.open']; rfl)))
      · constructor
        · rintro (impossible | done) message rfl
          · cases impossible
          · have more : state.hasMore = true := by rw [hasMore, finished.marks.2.2]; rfl
            rw [if_pos more] at done
            cases done
        · simp only
          split_ifs <;> rintro ⟨⟩
  | async =>
      rcases phase with streaming | finished
      · rcases streaming.pull_cases with ⟨after, -⟩ | ⟨-, -, -, -, after⟩
        · refine ⟨.inl after, fits_open closing ?_⟩
          rcases after.pollStatus with status | status
          · exact .inl (congrArg AsyncStreamStatus.code status)
          · exact .inr (congrArg AsyncStreamStatus.code status)
        · exact ⟨.inr after, fits_status after.marks⟩
      · have same := finished.pull
        simp only at same
        refine ⟨.inr (by rwa [WorkerMode.pull, same]), fits_status ?_⟩
        rw [same]
        exact finished.marks

/-- Every step keeps the phase, and its output fits the way the worker leaves. -/
theorem step {event : StreamSystem.Event} (phase : Phase closing ⟨worker, state⟩)
    (stepped : LiveStream.step capacity event ⟨worker, mode.kind state⟩ = some (live, output)) :
    ∃ state', live.kind = mode.kind state' ∧ Phase closing ⟨live.worker, state'⟩ ∧
      state'.chunkSize = state.chunkSize ∧ Fits closing output := by
  cases event with
  | send =>
      obtain ⟨_, worked, same⟩ := Option.map_eq_some_iff.mp stepped
      cases same
      rw [LiveStream.work_kind] at worked
      obtain ⟨system, sent, rfl⟩ := Option.map_eq_some_iff.mp worked
      rcases phase with streaming | finished
      · obtain ⟨after, -, -, size⟩ := streaming.send sent
        exact ⟨_, rfl, .inl after, size, fits_worked closing⟩
      · rw [finished.not_send] at sent
        cases sent
  | hangUp =>
      obtain ⟨_, worked, same⟩ := Option.map_eq_some_iff.mp stepped
      cases same
      rw [LiveStream.work_kind] at worked
      obtain ⟨system, hung, rfl⟩ := Option.map_eq_some_iff.mp worked
      rcases phase with streaming | finished
      · obtain ⟨after, -, -, size⟩ := streaming.hangUp hung
        exact ⟨_, rfl, .inl after, size, fits_worked closing⟩
      · obtain ⟨after, -, size⟩ := finished.hangUp hung
        exact ⟨_, rfl, .inr after, size, fits_worked closing⟩
  | poll =>
      cases stepped
      obtain ⟨after, fits⟩ := phase.poll mode
      exact ⟨_, mode.pollStatus_kind state, after, (mode.pull_keeps state).2, fits⟩
  | fetch =>
      rw [LiveStream.step_fetch_kind] at stepped
      obtain ⟨⟨result, state'⟩, fetched, same⟩ := Option.map_eq_some_iff.mp stepped
      cases same
      obtain ⟨after, fits⟩ := phase.fetch fetched
      exact ⟨state', rfl, after, (fetch_keeps fetched).2, fits⟩

end Phase

/-- A worker that is there keeps the stream open, and nobody is told of an end. -/
theorem Streaming.step_open {mode : WorkerMode} {worker : List BatchedMessage}
    {state : StreamingState} {live : LiveStream} {output : LiveStream.Output}
    {event : StreamSystem.Event} (streaming : Streaming .crashed ⟨worker, state⟩)
    (connected : state.receiver.connected = true) (there : event ≠ .hangUp)
    (stepped : LiveStream.step capacity event ⟨worker, mode.kind state⟩ = some (live, output)) :
    ∃ state', live.kind = mode.kind state' ∧ Streaming .crashed ⟨live.worker, state'⟩ ∧
      state'.receiver.connected = true ∧ state'.chunkSize = state.chunkSize ∧
      ∀ closing, Fits closing output := by
  cases event with
  | send =>
      obtain ⟨_, worked, same⟩ := Option.map_eq_some_iff.mp stepped
      cases same
      rw [LiveStream.work_kind] at worked
      obtain ⟨system, sent, rfl⟩ := Option.map_eq_some_iff.mp worked
      obtain ⟨after, -, -, size⟩ := streaming.send sent
      refine ⟨_, rfl, after, ?_, size, fits_worked⟩
      rw [StreamSystem.send] at sent
      split at sent
      · cases sent
      · obtain ⟨-, sent⟩ := Option.ite_none_right_eq_some.mp sent
        cases sent
        exact connected
  | hangUp => exact absurd rfl there
  | poll =>
      cases stepped
      cases mode with
      | batched =>
          exact ⟨state, rfl, streaming, connected, rfl, fun closing =>
            fits_open closing (.inl (if_pos (by rw [hasMore, streaming.open']; rfl)))⟩
      | async =>
          have kept := (AsyncStreamingState.pull_keeps state).1
          rcases streaming.pull_cases with ⟨after, -, -, size⟩ | ⟨-, -, last, -⟩
          · refine ⟨_, rfl, after, kept.trans connected, size, fun closing => fits_open closing ?_⟩
            rcases after.pollStatus with status | status
            · exact .inl (congrArg AsyncStreamStatus.code status)
            · exact .inr (congrArg AsyncStreamStatus.code status)
          · cases connected.symm.trans (last.gone rfl)
  | fetch =>
      rw [LiveStream.step_fetch_kind] at stepped
      obtain ⟨⟨result, state'⟩, fetched, same⟩ := Option.map_eq_some_iff.mp stepped
      cases same
      have kept := (fetch_keeps fetched).1.trans connected
      rcases streaming.fetch_cases fetched with ⟨chunk, rfl, after, -, -, size⟩ | ⟨-, -, -, after⟩
      · exact ⟨state', rfl, after, kept, size, fun closing => fits_chunk closing chunk⟩
      · cases kept.symm.trans after.marks.2.2

end OdbcFast.Verification
