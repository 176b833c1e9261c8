import OdbcFast.Dart.NativeStream
import OdbcFast.Verification.LiveStream
import OdbcFast.Wire.Portions

/-!
# The chunks of a stream

While a worker sends its batches and nothing fails, the chunks that fetches return are
decided before the first of them: each batch is cut into portions, and neither the polls nor
the moments at which the worker sends make a difference. `Feeding` says so for every state
of the stream, and `from_delivered` for everything a loop can meet: it gets all the bytes,
unless a chunk is larger than the largest buffer.
-/

namespace OdbcFast.Verification

open Wire Native StreamSystem StreamingState OdbcFast.Dart

variable {mode : WorkerMode} {system next : System} {chunks rest : List Bytes}
  {crashed corrupted : String} {capacity : Nat} {state consumer : StreamingState}
  {worker : List BatchedMessage} {live live' : LiveStream}

/-- The chunks that the batches among the messages give. -/
def chunksOf (chunkSize : Nat) (messages : List BatchedMessage) : List Bytes :=
  messages.flatMap fun
    | .batch b => portions chunkSize b
    | _ => []

/-- The chunks that fetches return from here on. -/
def chunksAhead (system : System) : List Bytes :=
  portions system.consumer.chunkSize system.consumer.undelivered ++
    chunksOf system.consumer.chunkSize (system.consumer.receiver.queue ++ system.worker)

/-- The stream is open, and these are its chunks. -/
structure Feeding (chunks : List Bytes) (system : System) : Prop where
  streaming : Streaming .done system
  pos : 0 < system.consumer.chunkSize
  full : ∀ b, .batch b ∈ system.consumer.receiver.queue ++ system.worker → b ≠ []
  ahead : chunksAhead system = chunks

theorem chunksOf_start (chunkSize : Nat) (batches : List Bytes) :
    chunksOf chunkSize (batches.map .batch ++ Closing.done.messages) =
      batches.flatMap (portions chunkSize) := by
  rw [chunksOf, List.flatMap_append, List.flatMap_map]
  exact List.append_nil _

theorem feeding_start {batches : List Bytes} (full : ∀ b ∈ batches, b ≠ []) (chunkSize : Nat) :
    Feeding (batches.flatMap (portions (max chunkSize 1)))
      ⟨batches.map .batch ++ Closing.done.messages, { chunkSize := max chunkSize 1 }⟩ where
  streaming := ⟨rfl, rfl, rfl, fun _ => rfl, batches, rfl⟩
  pos := by simp only; omega
  full := by
    intro b member
    simp only [List.nil_append, Closing.messages, List.mem_append, List.mem_map,
      BatchedMessage.batch.injEq, exists_eq_right, List.mem_singleton, reduceCtorEq,
      or_false] at member
    exact full b member
  ahead := by
    rw [chunksAhead, List.nil_append, chunksOf_start]
    exact congrArg (· ++ _) (portions_nil _)

/-- A chunk is the front of what is left of the batch. -/
theorem takeChunk_eq {b : Bytes} (corrupted : String) (held : state.currentBatch = some b) :
    ∃ currentBatch offset, takeChunk corrupted state =
        (.ok (some (state.undelivered.take state.chunkSize)),
          { state with currentBatch, offset }) ∧
      (currentBatch.getD []).drop offset = state.undelivered.drop state.chunkSize := by
  have length : state.currentBatchLen = b.length := by rw [currentBatchLen, held]; rfl
  rw [undelivered, takeChunk, held, length, Option.getD_some]
  split_ifs with whole
  · obtain ⟨front, short⟩ := whole
    refine ⟨none, state.offset, ?_, ?_⟩
    · rw [front, List.drop_zero, List.take_of_length_le short]
    · have all : (b.drop state.offset).drop state.chunkSize = [] := by
        rw [List.drop_drop]
        exact List.drop_eq_nil_of_le (by omega)
      rw [all]
      exact List.drop_nil
  · refine ⟨some b, min (state.offset + state.chunkSize) b.length, ?_, ?_⟩
    · have same : (b.drop state.offset).take
          (min (state.offset + state.chunkSize) b.length - state.offset) =
            (b.drop state.offset).take state.chunkSize := by
        rw [List.take_eq_take_iff, List.length_drop]
        omega
      simp only [same]
    · rw [List.drop_drop, Option.getD_some]
      by_cases inside : state.offset + state.chunkSize ≤ b.length
      · rw [Nat.min_eq_left inside]
      · rw [Nat.min_eq_right (by omega), List.drop_length, List.drop_eq_nil_of_le (by omega)]

namespace Feeding

/-! ## Moves of the worker -/

theorem send (feeding : Feeding chunks system)
    (sent : StreamSystem.send capacity system = some next) : Feeding chunks next := by
  have after := (feeding.streaming.send sent).1
  rw [StreamSystem.send] at sent
  split at sent
  · cases sent
  · next message worker waiting =>
      obtain ⟨-, sent⟩ := Option.ite_none_right_eq_some.mp sent
      cases sent
      have order : system.consumer.receiver.queue ++ [message] ++ worker =
          system.consumer.receiver.queue ++ system.worker := by
        rw [waiting, List.append_assoc, List.singleton_append]
      refine ⟨after, feeding.pos, ?_, ?_⟩
      · simp only [order]
        exact feeding.full
      · rw [← feeding.ahead, chunksAhead, chunksAhead, ← order]
        rfl

theorem hangUp (feeding : Feeding chunks system) (hung : StreamSystem.hangUp system = some next) :
    Feeding chunks next := by
  have after := (feeding.streaming.hangUp hung).1
  obtain ⟨-, hung⟩ := Option.ite_none_right_eq_some.mp hung
  cases hung
  exact ⟨after, feeding.pos, feeding.full, feeding.ahead⟩

/-- A consumer without anything to work on has a worker that can send. -/
theorem sends (feeding : Feeding chunks system) (waiting : system.consumer.receiver.queue = []) :
    ∃ next, StreamSystem.send 1 system = some next ∧ next.consumer.receiver.queue ≠ [] := by
  obtain ⟨later, supply⟩ := feeding.streaming.supply
  rw [waiting, List.nil_append] at supply
  cases busy : system.worker with
  | nil =>
      rw [busy] at supply
      simp [Closing.messages] at supply
  | cons message worker =>
      refine ⟨⟨worker, { system.consumer with
        receiver := { system.consumer.receiver with queue := [message] } }⟩, ?_, ?_⟩
      · simp [StreamSystem.send, busy, waiting]
      · exact List.cons_ne_nil _ _

/-! ## Calls of the consumer -/

/-- With something to work on a fetch returns. -/
theorem exists_fetch (crashed corrupted : String) (feeding : Feeding chunks system)
    (work : system.consumer.undelivered ≠ [] ∨ system.consumer.receiver.queue ≠ []) :
    ∃ result consumer, fetchNextChunkWith crashed corrupted system.consumer =
      some (result, consumer) := by
  have clean := feeding.streaming.clean
  have open' := feeding.streaming.open'
  by_cases empty : system.consumer.undelivered = []
  · rcases feeding.streaming.next_message with ⟨b, queue, waiting⟩ | ⟨last, -⟩ | ⟨waiting, -⟩
    · exact ⟨_, _, fetch_of_batch clean open' empty waiting⟩
    · exact ⟨_, _, Closing.fetch_of_atClosing clean open' empty last⟩
    · rcases work with left | filled
      · exact absurd empty left
      · exact absurd waiting filled
  · exact ⟨_, _, fetch_of_undelivered clean open' empty⟩

/-- Taking a batch out of the channel moves it in front of the others. -/
theorem receive {b : Bytes} {queue : List BatchedMessage} (feeding : Feeding chunks system)
    (empty : system.consumer.undelivered = [])
    (waiting : system.consumer.receiver.queue = .batch b :: queue) :
    Feeding chunks (withBatch b queue system) ∧
      (withBatch b queue system).consumer.undelivered = b ∧ b ≠ [] := by
  have nonempty := feeding.full b (by rw [waiting]; exact List.mem_cons_self)
  refine ⟨⟨(feeding.streaming.receive empty waiting).1, feeding.pos, ?_, ?_⟩, rfl, nonempty⟩
  · intro b' member
    refine feeding.full b' ?_
    rw [waiting]
    exact List.mem_cons_of_mem _ member
  · rw [← feeding.ahead, chunksAhead, chunksAhead, empty, portions_nil, waiting]
    rfl

/-- Cutting the next chunk off. -/
theorem takeChunk (corrupted : String) (feeding : Feeding chunks system)
    (left : system.consumer.undelivered ≠ []) :
    ∃ chunk later consumer, StreamingState.takeChunk corrupted system.consumer =
        (.ok (some chunk), consumer) ∧ chunks = chunk :: later ∧ chunk ≠ [] ∧
      consumer.hasMore = true ∧ Feeding later { system with consumer } := by
  obtain ⟨b, held⟩ := Option.isSome_iff_exists.mp (undelivered_ne_nil_iff.mp left).1
  obtain ⟨_, consumer, taken, after, -⟩ := feeding.streaming.takeChunk corrupted held
  obtain ⟨currentBatch, offset, cut, behind⟩ := takeChunk_eq corrupted held
  rw [taken] at cut
  obtain ⟨rfl, rfl⟩ : _ ∧ consumer = _ := by simpa using cut
  have size : max system.consumer.chunkSize 1 = system.consumer.chunkSize := by
    have pos := feeding.pos
    omega
  have ahead := feeding.ahead
  rw [chunksAhead, portions_of_ne_nil _ left, size, List.cons_append] at ahead
  refine ⟨_, _, _, taken, ahead.symm, ?_, ?_, after, feeding.pos, feeding.full, ?_⟩
  · have pos := feeding.pos
    rw [ne_eq, List.take_eq_nil_iff, not_or]
    exact ⟨by omega, left⟩
  · rw [hasMore, after.open']
    rfl
  · rw [chunksAhead]
    exact congrArg (portions _ · ++ _) behind

/-- A fetch returns the next chunk, or the end behind the last one. -/
theorem fetch {result : Except Native.OdbcError (Option Bytes)} (feeding : Feeding chunks system)
    (fetched : fetchNextChunkWith crashed corrupted system.consumer = some (result, consumer)) :
    (∃ chunk later, chunks = chunk :: later ∧ chunk ≠ [] ∧ result = .ok (some chunk) ∧
        consumer.hasMore = true ∧ Feeding later { system with consumer }) ∨
      (chunks = [] ∧ result = .ok none ∧ consumer.hasMore = false) := by
  have clean := feeding.streaming.clean
  have open' := feeding.streaming.open'
  by_cases empty : system.consumer.undelivered = []
  · rcases feeding.streaming.next_message with ⟨b, queue, waiting⟩ | ⟨last, idle⟩ |
      ⟨waiting, connected⟩
    · rw [fetch_of_batch clean open' empty waiting] at fetched
      obtain ⟨after, same, nonempty⟩ := feeding.receive empty waiting
      obtain ⟨chunk, later, next, taken, more⟩ :=
        after.takeChunk corrupted (by rw [same]; exact nonempty)
      have fetched : some (StreamingState.takeChunk corrupted (withBatch b queue system).consumer) =
        some (result, consumer) := fetched
      rw [taken] at fetched
      cases fetched
      exact .inl ⟨chunk, later, more.1, more.2.1, rfl, more.2.2⟩
    · rw [Closing.fetch_of_atClosing clean open' empty last] at fetched
      cases fetched
      refine .inr ⟨?_, rfl, rfl⟩
      rw [← feeding.ahead, chunksAhead, empty, idle, last.queue, portions_nil]
      rfl
    · rw [fetch_of_empty clean open' empty waiting connected] at fetched
      cases fetched
  · rw [fetch_of_undelivered clean open' empty] at fetched
    obtain ⟨chunk, later, next, taken, more⟩ := feeding.takeChunk corrupted empty
    rw [taken] at fetched
    cases fetched
    exact .inl ⟨chunk, later, more.1, more.2.1, rfl, more.2.2⟩

theorem chunks_ne_nil (feeding : Feeding chunks system)
    (left : system.consumer.undelivered ≠ []) : chunks ≠ [] := by
  rw [← feeding.ahead, chunksAhead, portions_of_ne_nil _ left]
  exact List.cons_ne_nil _ _

/-- With bytes left a poll says so, and it leaves them. -/
theorem poll_of_undelivered (feeding : Feeding chunks system)
    (left : system.consumer.undelivered ≠ []) :
    AsyncStreamingState.pollStatus system.consumer = (.ready, system.consumer) := by
  have clean := feeding.streaming.clean
  have open' := feeding.streaming.open'
  have live := feeding.streaming.live
  have held := undelivered_ne_nil_iff.mp left
  rw [AsyncStreamingState.pollStatus, AsyncStreamingState.pull_of_undelivered left]
  simp [clean, open', live, held]

/-- A poll keeps the chunks, and it says that the stream is done only behind the last one. -/
theorem poll {status : AsyncStreamStatus} (feeding : Feeding chunks system)
    (polled : AsyncStreamingState.pollStatus system.consumer = (status, consumer)) :
    (status = .ready ∧ chunks ≠ [] ∧ Feeding chunks { system with consumer }) ∨
      (status = .pending ∧ system.consumer.undelivered = [] ∧
        system.consumer.receiver.queue = [] ∧ Feeding chunks { system with consumer }) ∨
      (status = .done ∧ chunks = []) := by
  have clean := feeding.streaming.clean
  have open' := feeding.streaming.open'
  have live := feeding.streaming.live
  by_cases empty : system.consumer.undelivered = []
  · rcases feeding.streaming.next_message with ⟨b, queue, waiting⟩ | ⟨last, idle⟩ |
      ⟨waiting, connected⟩
    · obtain ⟨after, same, nonempty⟩ := feeding.receive empty waiting
      have left : (withBatch b queue system).consumer.undelivered ≠ [] := by rwa [same]
      have ready := after.poll_of_undelivered left
      rw [AsyncStreamingState.pollStatus, AsyncStreamingState.pull_of_undelivered left] at ready
      rw [AsyncStreamingState.pollStatus,
        AsyncStreamingState.pull_of_batch clean open' empty waiting] at polled
      cases polled.symm.trans ready
      exact .inl ⟨rfl, after.chunks_ne_nil left, after⟩
    · rw [AsyncStreamingState.pollStatus,
        Closing.pull_of_atClosing clean open' empty last] at polled
      obtain ⟨rfl, rfl⟩ := Prod.mk.inj polled
      refine .inr (.inr ⟨?_, ?_⟩)
      · simp [Closing.closePolled, Closing.close, clean, live]
      · rw [← feeding.ahead, chunksAhead, empty, idle, last.queue, portions_nil]
        rfl
    · rw [AsyncStreamingState.pollStatus, AsyncStreamingState.pull_of_empty waiting connected]
        at polled
      obtain ⟨rfl, rfl⟩ := Prod.mk.inj polled
      refine .inr (.inl ⟨?_, empty, waiting, feeding⟩)
      have held := undelivered_ne_nil_iff.not.mp (not_not.mpr empty)
      simp only [clean, open', live, Option.isSome_none, Bool.false_eq_true, if_false,
        if_neg held]
  · rw [feeding.poll_of_undelivered empty] at polled
    cases polled
    exact .inl ⟨rfl, feeding.chunks_ne_nil empty, feeding⟩

end Feeding

/-! ## Live streams -/

/-- The live stream has these chunks to give. -/
def Gives (mode : WorkerMode) (chunks : List Bytes) (live : LiveStream) : Prop :=
  ∃ state, live.kind = mode.kind state ∧ Feeding chunks ⟨live.worker, state⟩

theorem gives_start (mode : WorkerMode) {batches : List Bytes} (full : ∀ b ∈ batches, b ≠ [])
    (chunkSize : Nat) :
    Gives mode (batches.flatMap (portions (max chunkSize 1)))
      (LiveStream.start mode batches .done chunkSize) :=
  ⟨_, rfl, feeding_start full chunkSize⟩

namespace Gives

theorem work {move : System → Option System} (gives : Gives mode chunks live)
    (keeps : ∀ {system next}, Feeding chunks system → move system = some next →
      Feeding chunks next)
    (worked : live.work move = some live') : Gives mode chunks live' := by
  obtain ⟨state, kind, feeding⟩ := gives
  obtain ⟨worker, _⟩ := live
  obtain rfl : _ = mode.kind state := kind
  rw [LiveStream.work_kind] at worked
  obtain ⟨system, moved, rfl⟩ := Option.map_eq_some_iff.mp worked
  exact ⟨_, rfl, keeps feeding moved⟩

theorem works (gives : Gives mode chunks live) (works : Works live live') :
    Gives mode chunks live' := by
  induction works with
  | refl => exact gives
  | tail _ moved ih =>
      obtain ⟨event, rfl | rfl, stepped⟩ := moved
      · obtain ⟨_, worked, same⟩ := Option.map_eq_some_iff.mp stepped
        cases same
        exact ih.work Feeding.send worked
      · obtain ⟨_, worked, same⟩ := Option.map_eq_some_iff.mp stepped
        cases same
        exact ih.work Feeding.hangUp worked

theorem fetch {result : Except Native.OdbcError (Option Bytes)} (gives : Gives mode chunks live)
    (stepped : LiveStream.step 1 .fetch live = some (live', .fetched result)) :
    (∃ chunk later, chunks = chunk :: later ∧ chunk ≠ [] ∧ result = .ok (some chunk) ∧
        live'.kind.hasMore = true ∧ Gives mode later live') ∨
      (chunks = [] ∧ result = .ok none) := by
  obtain ⟨state, kind, feeding⟩ := gives
  obtain ⟨worker, _⟩ := live
  obtain rfl : _ = mode.kind state := kind
  rw [LiveStream.step_fetch_kind] at stepped
  obtain ⟨⟨result', state'⟩, fetched, same⟩ := Option.map_eq_some_iff.mp stepped
  cases same
  rcases feeding.fetch fetched with ⟨chunk, later, rfl, nonempty, rfl, more, after⟩ |
    ⟨rfl, rfl, -⟩
  · refine .inl ⟨chunk, later, rfl, nonempty, rfl, ?_, _, rfl, after⟩
    cases mode <;> exact more
  · exact .inr ⟨rfl, rfl⟩

/-- What a fetch of the Dart side gets. -/
theorem fetchReturns {fetched : StreamFetchResult} (gives : Gives mode chunks live)
    (returns : FetchReturns live fetched live') :
    (∃ chunk later, chunks = chunk :: later ∧ chunk ≠ [] ∧ Gives mode later live' ∧
        fetched = if FitsBuffer chunk then { success := true, data := some chunk, hasMore := true }
          else { success := false, data := none, hasMore := false }) ∨
      (chunks = [] ∧ fetched = { success := true, data := none, hasMore := false }) := by
  obtain ⟨ready, result, worked, stepped, rfl⟩ := returns
  rcases (gives.works worked).fetch stepped with ⟨chunk, later, rfl, nonempty, rfl, more, after⟩ |
    ⟨rfl, rfl⟩
  · refine .inl ⟨chunk, later, rfl, nonempty, after, ?_⟩
    rw [more, streamFetch_chunk nonempty]
  · exact .inr ⟨rfl, rfl⟩

/-- A poll of the polled kind. -/
theorem poll {status : Int} (gives : Gives .async chunks live)
    (stepped : LiveStream.step 1 .poll live = some (live', .polled status)) :
    (status = Dart.streamAsyncStatusReady ∧ chunks ≠ [] ∧ Gives .async chunks live') ∨
      (status = Dart.streamAsyncStatusPending ∧ Gives .async chunks live') ∨
      (status = Dart.streamAsyncStatusDone ∧ chunks = []) := by
  obtain ⟨state, kind, feeding⟩ := gives
  obtain ⟨worker, _⟩ := live
  obtain rfl : _ = WorkerMode.async.kind state := kind
  cases stepped
  rcases feeding.poll rfl with ⟨ready, some', after⟩ | ⟨pending, -, -, after⟩ | ⟨done, none⟩
  · exact .inl ⟨congrArg AsyncStreamStatus.code ready, some', _, rfl, after⟩
  · exact .inr (.inl ⟨congrArg AsyncStreamStatus.code pending, _, rfl, after⟩)
  · exact .inr (.inr ⟨congrArg AsyncStreamStatus.code done, none⟩)

/-- What a poll of the Dart side is told. -/
theorem pollReturns {status : Int} (gives : Gives .async chunks live)
    (returns : PollReturns live status live') :
    (status = Dart.streamAsyncStatusReady ∧ chunks ≠ [] ∧ Gives .async chunks live') ∨
      (status = Dart.streamAsyncStatusPending ∧ Gives .async chunks live') ∨
      (status = Dart.streamAsyncStatusDone ∧ chunks = []) := by
  obtain ⟨ready, worked, stepped⟩ := returns
  exact (gives.works worked).poll stepped

end Gives

/-! ## What is delivered -/

/-- Everything, unless a chunk is larger than the largest buffer. -/
def deliverable (chunks : List Bytes) : Option Bytes :=
  if ∀ chunk ∈ chunks, FitsBuffer chunk then some chunks.flatten else none

theorem deliverable_cons {chunk : Bytes} (fits : FitsBuffer chunk) :
    deliverable (chunk :: rest) = (deliverable rest).map (chunk ++ ·) := by
  simp only [deliverable, List.forall_mem_cons, fits, true_and, List.flatten_cons]
  split_ifs <;> rfl

theorem deliverable_of_large {chunk : Bytes} (large : ¬ FitsBuffer chunk) :
    deliverable (chunk :: rest) = none :=
  if_neg fun all => large (all chunk List.mem_cons_self)

namespace Gives

/-- A fetch that fails has met a chunk that is too large. -/
theorem deliverable_of_refused (gives : Gives mode chunks live)
    (returns : FetchReturns live { success := false, data := none, hasMore := false } live') :
    deliverable chunks = none := by
  rcases gives.fetchReturns returns with ⟨chunk, later, rfl, -, -, same⟩ | ⟨-, same⟩
  · refine deliverable_of_large ?_
    intro fits
    rw [if_pos fits] at same
    cases same
  · cases same

/-- A fetch that succeeds has brought the next chunk, or the end. -/
theorem deliverable_of_success {data : Option Bytes} {hasMore : Bool}
    (gives : Gives mode chunks live)
    (returns : FetchReturns live { success := true, data, hasMore } live') :
    (∃ later, hasMore = true ∧ Gives mode later live' ∧
        deliverable chunks = (deliverable later).map (data.getD [] ++ ·)) ∨
      (hasMore = false ∧ data = none ∧ chunks = []) := by
  rcases gives.fetchReturns returns with ⟨chunk, later, rfl, -, after, same⟩ | ⟨rfl, same⟩
  · by_cases fits : FitsBuffer chunk
    · rw [if_pos fits] at same
      cases same
      exact .inl ⟨later, rfl, after, deliverable_cons fits⟩
    · rw [if_neg fits] at same
      cases same
  · cases same
    exact .inr ⟨rfl, rfl, rfl⟩

theorem fetches_delivered {script : FetchScript} (gives : Gives mode chunks live)
    (answered : script.From live) : script.delivered = deliverable chunks := by
  induction answered generalizing chunks with
  | refused error returns => exact (gives.deliverable_of_refused returns).symm
  | last returns =>
      rcases gives.deliverable_of_success returns with ⟨later, more, -⟩ | ⟨-, rfl, rfl⟩
      · cases more
      · rfl
  | more returns behind ih =>
      rcases gives.deliverable_of_success returns with ⟨later, -, after, same⟩ | ⟨more, -⟩
      · rw [FetchScript.delivered, ih after, same]
        rfl
      · cases more

theorem polls_delivered {script : PollScript} (gives : Gives .async chunks live)
    (answered : script.From live) : script.delivered = deliverable chunks := by
  induction answered generalizing chunks with
  | pending polled behind ih =>
      rcases gives.pollReturns polled with ⟨status, -⟩ | ⟨-, after⟩ | ⟨status, -⟩
      · cases status
      · exact ih after
      · cases status
  | done polled =>
      rcases gives.pollReturns polled with ⟨status, -⟩ | ⟨status, -⟩ | ⟨-, rfl⟩
      · cases status
      · cases status
      · rfl
  | failed polled other =>
      obtain ⟨notPending, notDone, notReady⟩ := other
      rcases gives.pollReturns polled with ⟨status, -⟩ | ⟨status, -⟩ | ⟨status, -⟩
      · exact absurd status notReady
      · exact absurd status notPending
      · exact absurd status notDone
  | refused error polled returns =>
      rcases gives.pollReturns polled with ⟨-, -, asked⟩ | ⟨status, -⟩ | ⟨status, -⟩
      · exact (asked.deliverable_of_refused returns).symm
      · cases status
      · cases status
  | ready polled returns behind ih =>
      rcases gives.pollReturns polled with ⟨-, some', asked⟩ | ⟨status, -⟩ | ⟨status, -⟩
      · rcases asked.deliverable_of_success returns with ⟨later, -, after, same⟩ | ⟨-, -, none⟩
        · rw [PollScript.delivered, ih after, same]
        · exact absurd none some'
      · cases status
      · cases status

/-! ## The loops come to an end -/

/-- The worker can move until its consumer has something to work on. -/
theorem exists_work (gives : Gives mode chunks live) :
    ∃ worker state, Works live ⟨worker, mode.kind state⟩ ∧ Feeding chunks ⟨worker, state⟩ ∧
      (state.undelivered ≠ [] ∨ state.receiver.queue ≠ []) := by
  obtain ⟨state, kind, feeding⟩ := gives
  obtain ⟨worker, _⟩ := live
  obtain rfl : _ = mode.kind state := kind
  by_cases work : state.undelivered ≠ [] ∨ state.receiver.queue ≠ []
  · exact ⟨worker, state, .refl, feeding, work⟩
  · obtain ⟨-, waiting⟩ := not_or.mp work
    obtain ⟨next, sent, filled⟩ := feeding.sends (not_not.mp waiting)
    refine ⟨next.worker, next.consumer, .single ⟨.send, .inl rfl, ?_⟩, feeding.send sent,
      .inr filled⟩
    rw [LiveStream.step, LiveStream.work_kind, sent]
    rfl

theorem exists_fetchReturns (gives : Gives mode chunks live) :
    ∃ fetched live', FetchReturns live fetched live' := by
  obtain ⟨worker, state, works, feeding, work⟩ := gives.exists_work
  obtain ⟨result, consumer, fetched⟩ := feeding.exists_fetch mode.crashed mode.corrupted work
  refine ⟨_, ⟨worker, mode.kind consumer⟩, _, result, works, ?_, rfl⟩
  rw [LiveStream.step_fetch_kind, fetched]
  rfl

theorem exists_fetches (gives : Gives mode chunks live) :
    ∃ script : FetchScript, script.From live := by
  induction chunks generalizing live with
  | nil =>
      obtain ⟨fetched, live', returns⟩ := gives.exists_fetchReturns
      rcases gives.fetchReturns returns with ⟨_, _, impossible, -⟩ | ⟨-, rfl⟩
      · cases impossible
      · exact ⟨_, .last returns⟩
  | cons chunk later ih =>
      obtain ⟨fetched, live', returns⟩ := gives.exists_fetchReturns
      rcases gives.fetchReturns returns with ⟨_, _, same, nonempty, after, rfl⟩ | ⟨impossible, -⟩
      · cases same
        by_cases fits : FitsBuffer chunk
        · obtain ⟨script, answered⟩ := ih after
          obtain ⟨first, data, rfl⟩ := List.exists_cons_of_ne_nil nonempty
          rw [if_pos fits] at returns
          exact ⟨_, .more returns answered⟩
        · rw [if_neg fits] at returns
          exact ⟨_, .refused none returns⟩
      · cases impossible

/-- The worker can move until a poll says that the stream is ready, or done. -/
theorem exists_pollReturns (gives : Gives .async chunks live) :
    ∃ live', PollReturns live Dart.streamAsyncStatusReady live' ∧ Gives .async chunks live' ∨
      PollReturns live Dart.streamAsyncStatusDone live' := by
  obtain ⟨worker, state, works, feeding, work⟩ := gives.exists_work
  obtain ⟨status, consumer, polled⟩ : ∃ status consumer,
      AsyncStreamingState.pollStatus state = (status, consumer) := ⟨_, _, rfl⟩
  have stepped : LiveStream.step 1 .poll ⟨worker, WorkerMode.async.kind state⟩ =
      some (⟨worker, WorkerMode.async.kind consumer⟩, .polled status.code) := by
    simp only [LiveStream.step, WorkerMode.kind, StreamKind.pollStatus, polled]
  refine ⟨⟨worker, WorkerMode.async.kind consumer⟩, ?_⟩
  rcases feeding.poll polled with ⟨rfl, -, after⟩ | ⟨-, empty, waiting, -⟩ | ⟨rfl, -⟩
  · exact .inl ⟨⟨_, works, stepped⟩, _, rfl, after⟩
  · rcases work with left | filled
    · exact absurd empty left
    · exact absurd waiting filled
  · exact .inr ⟨_, works, stepped⟩

theorem exists_polls (gives : Gives .async chunks live) :
    ∃ script : PollScript, script.From live := by
  induction chunks generalizing live with
  | nil =>
      obtain ⟨live', ⟨polled, asked⟩ | polled⟩ := gives.exists_pollReturns
      · rcases gives.pollReturns polled with ⟨-, some', -⟩ | ⟨status, -⟩ | ⟨status, -⟩
        · exact absurd rfl some'
        · cases status
        · cases status
      · exact ⟨_, .done polled⟩
  | cons chunk later ih =>
      obtain ⟨live', ⟨polled, asked⟩ | polled⟩ := gives.exists_pollReturns
      · obtain ⟨fetched, live'', returns⟩ := asked.exists_fetchReturns
        rcases asked.fetchReturns returns with ⟨_, _, same, -, after, rfl⟩ | ⟨impossible, -⟩
        · cases same
          by_cases fits : FitsBuffer chunk
          · obtain ⟨script, answered⟩ := ih after
            rw [if_pos fits] at returns
            exact ⟨_, .ready polled returns answered⟩
          · rw [if_neg fits] at returns
            exact ⟨_, .refused none polled returns⟩
        · cases impossible
      · exact ⟨_, .done polled⟩

end Gives

end OdbcFast.Verification
