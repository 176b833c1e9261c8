import OdbcFast.Native.Ffi.Clients
import OdbcFast.Verification.LiveStream

/-!
# Fetching with buffers of any size

A chunk that does not fit the client's buffer waits beside its stream and is offered
again to the next fetch. Whatever the buffers and wherever the polls stand, the chunks
come once and in order, each with the `has_more` of the fetch that produced it.

A poll asks the stream alone. When the last chunk waits, the stream is at its end and
the poll says so: `streamsFaithfully_iff` says that only such a poll is wrong.
-/

namespace OdbcFast.Verification

open Wire Native StreamSystem StreamingState StreamClient

/-! ## Where chunks come from -/

/-- What is behind a stream: a worker with its batches, or a complete result in memory or in
a spill file whose reads may fail. -/
inductive Source where
  | worker (mode : WorkerMode) (batches : List Bytes) (closing : Closing)
  | memory (data : Bytes)
  | file (data : Bytes) (faults : List (Option SpillFault))

namespace Source

def start (chunkSize : Nat) : Source → LiveStream
  | .worker mode batches closing => LiveStream.start mode batches closing chunkSize
  | .memory data => ⟨[], .buffer (.inMemory { data, chunkSize })⟩
  | .file data faults =>
    ⟨[], .buffer (.fileBacked { file := data, faults, chunkSize, totalLen := data.length })⟩

def bytes : Source → Bytes
  | .worker _ batches _ => batches.flatten
  | .memory data => data
  | .file data _ => data

/-- The stream is one of the source's. -/
def Feeds : Source → LiveStream → Prop
  | .worker mode _ closing, live =>
    ∃ state, live.kind = mode.kind state ∧ Phase closing ⟨live.worker, state⟩
  | .memory data, live => ∃ state, live.kind = .buffer (.inMemory state) ∧ state.data = data
  | .file data _, live => ∃ state, live.kind = .buffer (.fileBacked state) ∧ state.file = data ∧
      state.totalLen = data.length

end Source

/-- The bytes that a stream has still to give. -/
def rest (live : LiveStream) : Bytes :=
  match live.kind with
  | .buffer (.inMemory state) => state.data.drop state.offset
  | .buffer (.fileBacked state) => state.file.drop state.offset
  | .batched state => remaining ⟨live.worker, state⟩
  | .asyncBatched state => remaining ⟨live.worker, state⟩

theorem rest_kind (mode : WorkerMode) (worker : List BatchedMessage) (state : StreamingState) :
    rest ⟨worker, mode.kind state⟩ = remaining ⟨worker, state⟩ := by
  cases mode <;> rfl

variable {source : Source} {live : LiveStream}

theorem Source.feeds_start (source : Source) (chunkSize : Nat) :
    source.Feeds (source.start chunkSize) ∧ rest (source.start chunkSize) = source.bytes := by
  cases source with
  | worker mode batches closing =>
      refine ⟨⟨_, rfl, .inl ⟨rfl, rfl, rfl, fun _ => rfl, batches, rfl⟩⟩, ?_⟩
      rw [Source.start, LiveStream.start, rest_kind, remaining, undelivered]
      simp only [List.nil_append, List.flatMap_append, Closing.flatMap_messages, List.append_nil,
        List.flatMap_map, Option.getD_none, List.drop_nil]
      exact List.flatMap_id
  | memory data => exact ⟨⟨_, rfl, rfl⟩, rfl⟩
  | file data faults => exact ⟨⟨_, rfl, rfl, rfl⟩, rfl⟩

/-- What a fetch makes of the bytes to come: it cuts the chunk off their front. -/
def CutBy (result : Except OdbcError (Option Bytes)) (before after : Bytes) : Prop :=
  match result with
  | .ok (some data) => data ++ after = before
  | _ => after = before

/-- Slicing a chunk of the given length off what is left of a list. -/
theorem take_append_drop_from (data : Bytes) (offset count : Nat) :
    (data.drop offset).take count ++ data.drop (offset + count) = data.drop offset := by
  rw [← List.drop_drop, List.take_append_drop]

theorem inMemory_fetch_cut (state : InMemoryStreamingState) :
    state.fetchNextChunk.2.data = state.data ∧
      CutBy state.fetchNextChunk.1 (state.data.drop state.offset)
        (state.fetchNextChunk.2.data.drop state.fetchNextChunk.2.offset) := by
  rw [InMemoryStreamingState.fetchNextChunk]
  split_ifs with past
  · exact ⟨rfl, rfl⟩
  · refine ⟨rfl, ?_⟩
    have stop : min (state.offset + state.chunkSize) state.data.length =
        state.offset + (min (state.offset + state.chunkSize) state.data.length - state.offset) := by
      omega
    simp only [CutBy]
    nth_rewrite 2 [stop]
    exact take_append_drop_from _ _ _

theorem fileBacked_fetch_cut (state : StreamingStateFileBacked) :
    state.fetchNextChunk.2.file = state.file ∧
      state.fetchNextChunk.2.totalLen = state.totalLen ∧
      CutBy state.fetchNextChunk.1 (state.file.drop state.offset)
        (state.fetchNextChunk.2.file.drop state.fetchNextChunk.2.offset) := by
  rw [StreamingStateFileBacked.fetchNextChunk]
  split_ifs with past
  · exact ⟨rfl, rfl, rfl⟩
  · simp only
    split
    · exact ⟨rfl, rfl, rfl⟩
    · refine ⟨rfl, rfl, ?_⟩
      split_ifs with nothing
      · simp [CutBy, nothing]
      · exact take_append_drop_from _ _ _

namespace Source

/-- A fetch keeps the source and cuts its chunk off the bytes to come. -/
theorem Feeds.fetch {result : Except OdbcError (Option Bytes)} {kind : StreamKind}
    (feeds : source.Feeds live) (fetched : live.kind.fetchNextChunk = some (result, kind)) :
    source.Feeds { live with kind } ∧ CutBy result (rest live) (rest { live with kind }) := by
  obtain ⟨worker, kind'⟩ := live
  cases source with
  | worker mode batches closing =>
      obtain ⟨state, rfl, phase⟩ := feeds
      simp only at fetched phase
      rw [mode.fetchNextChunk_kind] at fetched
      obtain ⟨⟨result', state'⟩, taken, same⟩ := Option.map_eq_some_iff.mp fetched
      cases same
      refine ⟨⟨state', rfl, (phase.fetch taken).1⟩, ?_⟩
      rw [rest_kind, rest_kind]
      rcases phase with streaming | finished
      · rcases streaming.fetch_cases taken with ⟨chunk, rfl, -, bytes, -⟩ |
          ⟨rfl, rfl, none, after⟩
        · exact bytes
        · rw [none, after.remaining_eq]
          cases closing <;> rfl
      · cases taken.symm.trans finished.fetch
        cases state.streamError <;> rfl
  | memory data =>
      obtain ⟨state, rfl, rfl⟩ := feeds
      cases fetched
      obtain ⟨same, cut⟩ := inMemory_fetch_cut state
      exact ⟨⟨_, rfl, same⟩, cut⟩
  | file data faults =>
      obtain ⟨state, rfl, rfl, total⟩ := feeds
      cases fetched
      obtain ⟨same, sameTotal, cut⟩ := fileBacked_fetch_cut state
      exact ⟨⟨_, rfl, same, sameTotal.trans total⟩, cut⟩

/-- A move of the worker leaves the bytes to come as they are. -/
theorem Feeds.work {move : System → Option System} {next : LiveStream}
    (feeds : source.Feeds live)
    (moves : ∀ {closing system next}, Streaming closing system → move system = some next →
      Streaming closing next ∧ remaining next = remaining system)
    (stays : ∀ {closing system next}, Finished closing system → move system = some next →
      Finished closing next)
    (worked : live.work move = some next) : source.Feeds next ∧ rest next = rest live := by
  obtain ⟨worker, kind⟩ := live
  cases source with
  | worker mode batches closing =>
      obtain ⟨state, rfl, phase⟩ := feeds
      rw [LiveStream.work_kind] at worked
      obtain ⟨system, moved, rfl⟩ := Option.map_eq_some_iff.mp worked
      rw [rest_kind, rest_kind]
      rcases phase with streaming | finished
      · obtain ⟨after, same⟩ := moves streaming moved
        exact ⟨⟨_, rfl, .inl after⟩, same⟩
      · have after := stays finished moved
        exact ⟨⟨_, rfl, .inr after⟩, after.remaining_eq.trans finished.remaining_eq.symm⟩
  | memory data =>
      obtain ⟨state, rfl, -⟩ := feeds
      cases worked
  | file data faults =>
      obtain ⟨state, rfl, -⟩ := feeds
      cases worked

/-- So does a poll. -/
theorem Feeds.poll (feeds : source.Feeds live) :
    source.Feeds { live with kind := live.kind.pollStatus.2 } ∧
      rest { live with kind := live.kind.pollStatus.2 } = rest live := by
  obtain ⟨worker, kind⟩ := live
  cases source with
  | worker mode batches closing =>
      obtain ⟨state, rfl, phase⟩ := feeds
      simp only [mode.pollStatus_kind, rest_kind]
      refine ⟨⟨_, rfl, (phase.poll mode).1⟩, ?_⟩
      cases mode with
      | batched => rfl
      | async =>
          rcases phase with streaming | finished
          · rcases streaming.pull_cases with ⟨-, same, -⟩ | ⟨-, -, -, none, after⟩
            · exact same
            · exact after.remaining_eq.trans none.symm
          · exact congrArg (fun state => remaining ⟨worker, state⟩) finished.pull
  | memory data =>
      obtain ⟨state, rfl, same⟩ := feeds
      exact ⟨⟨_, rfl, same⟩, rfl⟩
  | file data faults =>
      obtain ⟨state, rfl, same⟩ := feeds
      exact ⟨⟨_, rfl, same⟩, rfl⟩

end Source

/-! ## When a poll reports the end -/

/-- The stream is at its end: a complete result is used up, a batched stream has seen its
worker's last message, and of an asynchronous stream every byte is taken and the channel
holds `Done`, or nothing behind a worker that is gone. -/
def AtEnd : StreamKind → Prop
  | .buffer (.inMemory state) => state.data.length ≤ state.offset
  | .buffer (.fileBacked state) => state.totalLen ≤ state.offset
  | .batched state => state.done = true
  | .asyncBatched state => state.streamError = none ∧ state.cancelled = false ∧
      (state.done = true ∨ state.undelivered = [] ∧
        (state.receiver.queue.head? = some .done ∨
          state.receiver.queue = [] ∧ state.receiver.connected = false))

theorem code_eq_done_iff (status : AsyncStreamStatus) :
    status.code = streamAsyncStatusDone ↔ status = .done := by
  cases status <;> decide

theorem status_eq_done_iff (state : StreamingState) :
    (AsyncStreamingState.pollStatus state).1 = .done ↔
      (AsyncStreamingState.pullNextMessageNonblocking state).streamError = none ∧
      (AsyncStreamingState.pullNextMessageNonblocking state).cancelled = false ∧
      (AsyncStreamingState.pullNextMessageNonblocking state).done = true := by
  rw [AsyncStreamingState.pollStatus]
  simp only
  split_ifs with failed cancelled done held <;>
    simp_all [Option.isSome_iff_ne_none]

theorem pull_done_iff (state : StreamingState) :
    ((AsyncStreamingState.pullNextMessageNonblocking state).streamError = none ∧
      (AsyncStreamingState.pullNextMessageNonblocking state).cancelled = false ∧
      (AsyncStreamingState.pullNextMessageNonblocking state).done = true) ↔
      AtEnd (.asyncBatched state) := by
  rw [AsyncStreamingState.pullNextMessageNonblocking]
  simp only [AtEnd]
  split_ifs with settled held
  · rcases settled with done | failed
    · simp [done]
    · simp [Option.isSome_iff_ne_none.mp failed]
  · have left := undelivered_ne_nil_iff.mpr held
    simp [left]
  · have empty : state.undelivered = [] := by
      by_contra left
      exact held (undelivered_ne_nil_iff.mp left)
    rw [not_or] at settled
    have open' : state.done = false := by simpa using settled.1
    rw [Receiver.tryRecv]
    cases waiting : state.receiver.queue with
    | nil => cases there : state.receiver.connected <;> simp [empty, open']
    | cons message queue => cases message <;> simp [empty, open']

theorem pollStatus_eq_done_iff (kind : StreamKind) :
    kind.pollStatus.1 = streamAsyncStatusDone ↔ AtEnd kind := by
  have more (hasMore : Bool) : (if hasMore then streamAsyncStatusReady else streamAsyncStatusDone) =
      streamAsyncStatusDone ↔ hasMore = false := by
    cases hasMore <;> decide
  cases kind with
  | buffer state =>
      rw [StreamKind.pollStatus, more]
      cases state with
      | inMemory state => simp [StreamState.hasMore, InMemoryStreamingState.hasMore, AtEnd]
      | fileBacked state => simp [StreamState.hasMore, StreamingStateFileBacked.hasMore, AtEnd]
  | batched state =>
      rw [StreamKind.pollStatus, more]
      simp [hasMore, AtEnd]
  | asyncBatched state =>
      rw [StreamKind.pollStatus, code_eq_done_iff, status_eq_done_iff, pull_done_iff]

theorem Source.Feeds.rest_eq_nil (feeds : source.Feeds live) (last : AtEnd live.kind) :
    rest live = [] := by
  obtain ⟨worker, kind⟩ := live
  cases source with
  | worker mode batches closing =>
      obtain ⟨state, rfl, phase⟩ := feeds
      rw [rest_kind]
      rcases phase with streaming | finished
      · cases mode with
        | batched => cases last.symm.trans streaming.open'
        | async =>
            obtain ⟨-, -, done | ⟨empty, found⟩⟩ := last
            · cases done.symm.trans streaming.open'
            · rcases streaming.next_message with ⟨b, queue, waiting⟩ | ⟨closed, idle⟩ |
                ⟨waiting, connected⟩
              · simp only at waiting
                simp [waiting] at found
              · exact Streaming.remaining_of_atClosing empty idle closed
              · simp only at waiting connected
                simp [waiting, connected] at found
      · exact finished.remaining_eq
  | memory data =>
      obtain ⟨state, rfl, rfl⟩ := feeds
      exact List.drop_eq_nil_of_le last
  | file data faults =>
      obtain ⟨state, rfl, rfl, total⟩ := feeds
      exact List.drop_eq_nil_of_le (total ▸ last)

/-! ## Runs of a client -/

variable {streamId capacity : Nat} {log : List StreamClient.Output} {state next : GlobalState}
  {pending : Option PendingStreamChunk} {output : StreamClient.Output}

/-- What every client is promised: the chunks once and in order, one that was produced and not
delivered with the next buffer that holds it, and an end that is reported only behind the
last byte. -/
structure StreamsFaithfully (source : Source) (streamId : Nat) (log : List StreamClient.Output)
    (state : GlobalState) : Prop where
  inOrder : delivered log ++ ((state.pendingStreamChunks.lookup streamId).map fun chunk =>
    (chunk.data, chunk.hasMore)).toList = productions log
  whole : ((productions log).map Prod.fst).flatten <+: source.bytes
  retried : ∀ before bufLen answer chunk after data hasMore,
    log = before ++ .fetched bufLen answer chunk :: after →
    productions before = delivered before ++ [(data, hasMore)] →
    answer = if data.length ≤ bufLen then .delivered data hasMore else .tooSmall data.length
  ended : ∀ before after, log = before ++ .polled streamAsyncStatusDone :: after →
    delivered before = productions before ∧
      ((delivered before).map Prod.fst).flatten = source.bytes

/-- A stream at its end is not polled while a chunk of it waits for a larger buffer. -/
def WaitingRule (streamId : Nat) (event : StreamClient.Event) (state : GlobalState) : Prop :=
  event = .poll → state.pendingStreamChunks.lookup streamId ≠ none →
    ∀ live, state.streams.lookup streamId = some live → ¬ AtEnd live.kind

structure ClientInv (source : Source) (streamId : Nat) (log : List StreamClient.Output)
    (state : GlobalState) (live : LiveStream) (pending : Option PendingStreamChunk) : Prop where
  stream : state.streams.lookup streamId = some live
  waiting : state.pendingStreamChunks.lookup streamId = pending
  feeds : source.Feeds live
  inOrder : delivered log ++ (pending.map fun chunk => (chunk.data, chunk.hasMore)).toList =
    productions log
  whole : ((productions log).map Prod.fst).flatten ++ rest live = source.bytes

@[simp] theorem delivered_append (log later : List StreamClient.Output) :
    delivered (log ++ later) = delivered log ++ delivered later := List.filterMap_append

@[simp] theorem productions_append (log later : List StreamClient.Output) :
    productions (log ++ later) = productions log ++ productions later := List.filterMap_append

namespace ClientInv

theorem work {move : System → Option System} (inv : ClientInv source streamId log state live pending)
    (moves : ∀ {closing system next}, Streaming closing system → move system = some next →
      Streaming closing next ∧ remaining next = remaining system)
    (stays : ∀ {closing system next}, Finished closing system → move system = some next →
      Finished closing next)
    (stepped : (StreamClient.work streamId move state).map (·, .worked) = some (next, output)) :
    ∃ live, ClientInv source streamId (log ++ [output]) next live pending := by
  obtain ⟨_, worked, same⟩ := Option.map_eq_some_iff.mp stepped
  cases same
  simp only [StreamClient.work, inv.stream, Option.bind_eq_bind, Option.bind_some,
    Option.bind_eq_some_iff] at worked
  obtain ⟨live', moved, same⟩ := worked
  cases same
  obtain ⟨feeds, same⟩ := inv.feeds.work moves stays moved
  refine ⟨live', AList.lookup_insert _, inv.waiting, feeds, ?_, ?_⟩
  · simpa [delivered, productions] using inv.inOrder
  · simpa [productions, same] using inv.whole

theorem poll (inv : ClientInv source streamId log state live pending)
    (stepped : step streamId capacity .poll state = some (next, output)) :
    output = .polled live.kind.pollStatus.1 ∧
      ClientInv source streamId (log ++ [output]) next
        { live with kind := live.kind.pollStatus.2 } pending := by
  rw [step, GlobalState.odbcStreamPollAsync, inv.stream] at stepped
  cases stepped
  obtain ⟨feeds, same⟩ := inv.feeds.poll
  refine ⟨rfl, AList.lookup_insert _, inv.waiting, feeds, ?_, ?_⟩
  · simpa [delivered, productions] using inv.inOrder
  · simpa [productions, same] using inv.whole

/-- A chunk that waits answers the fetch alone. -/
theorem fetch_of_waiting {bufLen : Nat} {chunk : PendingStreamChunk}
    (inv : ClientInv source streamId log state live (some chunk))
    (stepped : step streamId capacity (.fetch bufLen) state = some (next, output)) :
    output = .fetched bufLen (if chunk.data.length ≤ bufLen then
        .delivered chunk.data chunk.hasMore else .tooSmall chunk.data.length) none ∧
      ClientInv source streamId (log ++ [output]) next live
        (if chunk.data.length ≤ bufLen then none else some chunk) := by
  rw [step, GlobalState.odbcStreamFetch, GlobalState.fetchBegin, produced, inv.waiting] at stepped
  have inOrder := inv.inOrder
  have whole := inv.whole
  simp only at stepped
  by_cases fits : chunk.data.length ≤ bufLen
  · rw [if_neg (Nat.not_lt.mpr fits)] at stepped
    cases stepped
    rw [if_pos fits, if_pos fits]
    refine ⟨rfl, inv.stream, AList.lookup_erase _ _, inv.feeds, ?_, ?_⟩
    · simpa [delivered, productions] using inOrder
    · simpa [productions] using whole
  · rw [if_pos (Nat.lt_of_not_le fits)] at stepped
    cases stepped
    rw [if_neg fits, if_neg fits]
    refine ⟨rfl, inv.stream, inv.waiting, inv.feeds, ?_, ?_⟩
    · simpa [delivered, productions] using inOrder
    · simpa [productions] using whole

/-- Without a waiting chunk the stream produces the next one. -/
theorem fetch_of_none {bufLen : Nat} (inv : ClientInv source streamId log state live none)
    (stepped : step streamId capacity (.fetch bufLen) state = some (next, output)) :
    ∃ live pending, ClientInv source streamId (log ++ [output]) next live pending := by
  rw [step, GlobalState.odbcStreamFetch, GlobalState.fetchBegin, produced, inv.waiting,
    inv.stream] at stepped
  simp only [GlobalState.fetchFinish] at stepped
  obtain ⟨⟨answer, next'⟩, finished, same⟩ := Option.map_eq_some_iff.mp stepped
  cases same
  obtain ⟨⟨result, kind⟩, fetched, finished⟩ := Option.map_eq_some_iff.mp finished
  obtain ⟨feeds, cut⟩ := inv.feeds.fetch fetched
  have inOrder := inv.inOrder
  have whole := inv.whole
  simp only [Option.map_none, Option.toList_none, List.append_nil] at inOrder
  simp only [fetched]
  -- by what the stream gave: a chunk, the end, or an error
  rcases result with err | (_ | data)
  · cases finished
    refine ⟨_, none, AList.lookup_insert _, inv.waiting, feeds, ?_, ?_⟩
    · simpa [delivered, productions] using inOrder
    · rw [show rest _ = rest live from cut]
      simpa [productions] using whole
  · cases finished
    refine ⟨_, none, AList.lookup_insert _, inv.waiting, feeds, ?_, ?_⟩
    · simpa [delivered, productions] using inOrder
    · rw [show rest _ = rest live from cut]
      simpa [productions] using whole
  · have grown : ((productions (log ++ [.fetched bufLen answer (some (data, kind.hasMore))])).map
        Prod.fst).flatten ++ rest { live with kind } = source.bytes := by
      rw [← whole, ← show data ++ rest { live with kind } = rest live from cut]
      simp [productions]
    simp only at finished
    split_ifs at finished with large
    · cases finished
      refine ⟨_, some ⟨data, kind.hasMore⟩, AList.lookup_insert _, AList.lookup_insert _, feeds,
        ?_, grown⟩
      rw [delivered_append, productions_append, inOrder]
      simp [delivered, productions]
    · cases finished
      refine ⟨_, none, AList.lookup_insert _, inv.waiting, feeds, ?_, grown⟩
      rw [delivered_append, productions_append, inOrder]
      simp [delivered, productions]

theorem step {event : StreamClient.Event} (inv : ClientInv source streamId log state live pending)
    (stepped : StreamClient.step streamId capacity event state = some (next, output)) :
    ∃ live pending, ClientInv source streamId (log ++ [output]) next live pending := by
  cases event with
  | send =>
      obtain ⟨live, after⟩ := inv.work
        (fun streaming sent => ⟨(streaming.send sent).1, (streaming.send sent).2.1⟩)
        (fun finished sent => by rw [finished.not_send] at sent; cases sent) stepped
      exact ⟨live, pending, after⟩
  | hangUp =>
      obtain ⟨live, after⟩ := inv.work
        (fun streaming hung => ⟨(streaming.hangUp hung).1, (streaming.hangUp hung).2.1⟩)
        (fun finished hung => (finished.hangUp hung).1) stepped
      exact ⟨live, pending, after⟩
  | poll => exact ⟨_, pending, (inv.poll stepped).2⟩
  | fetch bufLen =>
      cases pending with
      | none => exact inv.fetch_of_none stepped
      | some chunk => exact ⟨live, _, (inv.fetch_of_waiting stepped).2⟩

/-- A chunk that was produced and not delivered is the one that waits. -/
theorem retried {event : StreamClient.Event} {bufLen : Nat} {answer : FetchAnswer}
    {produced : Option (Bytes × Bool)} {data : Bytes} {hasMore : Bool}
    (inv : ClientInv source streamId log state live pending)
    (stepped : StreamClient.step streamId capacity event state =
      some (next, .fetched bufLen answer produced))
    (undelivered : productions log = delivered log ++ [(data, hasMore)]) :
    answer = if data.length ≤ bufLen then .delivered data hasMore else .tooSmall data.length := by
  have waits := List.append_cancel_left (inv.inOrder.trans undelivered)
  cases pending with
  | none => cases waits
  | some chunk =>
      obtain ⟨rfl, rfl⟩ : chunk.data = data ∧ chunk.hasMore = hasMore := by simpa using waits
      cases event with
      | send =>
          obtain ⟨_, -, same⟩ := Option.map_eq_some_iff.mp stepped
          cases same
      | hangUp =>
          obtain ⟨_, -, same⟩ := Option.map_eq_some_iff.mp stepped
          cases same
      | poll => cases (inv.poll stepped).1
      | fetch bufLen' =>
          obtain ⟨same, -⟩ := inv.fetch_of_waiting stepped
          cases same
          rfl

/-- A poll that reports the end does so at the end of the stream. -/
theorem atEnd_of_done {event : StreamClient.Event}
    (inv : ClientInv source streamId log state live pending)
    (stepped : StreamClient.step streamId capacity event state =
      some (next, .polled streamAsyncStatusDone)) :
    event = .poll ∧ AtEnd live.kind := by
  cases event with
  | send =>
      obtain ⟨_, -, same⟩ := Option.map_eq_some_iff.mp stepped
      cases same
  | hangUp =>
      obtain ⟨_, -, same⟩ := Option.map_eq_some_iff.mp stepped
      cases same
  | fetch bufLen =>
      obtain ⟨_, -, same⟩ := Option.map_eq_some_iff.mp stepped
      cases same
  | poll =>
      obtain ⟨same, -⟩ := inv.poll stepped
      rw [StreamClient.Output.polled.injEq] at same
      exact ⟨rfl, (pollStatus_eq_done_iff live.kind).mp same.symm⟩

end ClientInv

/-- A state that holds the stream and no chunk of it. -/
structure Opened (source : Source) (chunkSize streamId : Nat) (state : GlobalState) : Prop where
  stream : state.streams.lookup streamId = some (source.start chunkSize)
  nothing : state.pendingStreamChunks.lookup streamId = none

theorem Opened.clientInv {chunkSize : Nat} (opened : Opened source chunkSize streamId state) :
    ClientInv source streamId [] state (source.start chunkSize) none := by
  obtain ⟨feeds, whole⟩ := source.feeds_start chunkSize
  exact ⟨opened.stream, opened.nothing, feeds, rfl, whole⟩

/-- Whatever the source, the buffers and the order of the calls, a client is served as promised
exactly when it polls no stream at its end while a chunk waits. -/
theorem streamsFaithfully_iff (source : Source) (chunkSize streamId capacity : Nat)
    {initial : GlobalState} (opened : Opened source chunkSize streamId initial)
    {events : List StreamClient.Event}
    (ran : run (StreamClient.step streamId capacity) events initial = some (state, log)) :
    StreamsFaithfully source streamId log state ↔
      Along (StreamClient.step streamId capacity) (WaitingRule streamId) events initial := by
  have keeps {log event state next output}
      (inv : ∃ live pending, ClientInv source streamId log state live pending)
      (stepped : StreamClient.step streamId capacity event state = some (next, output)) :
      ∃ live pending, ClientInv source streamId (log ++ [output]) next live pending := by
    obtain ⟨live, pending, inv⟩ := inv
    exact inv.step stepped
  have reached {events : List StreamClient.Event} {state : GlobalState}
      {log : List StreamClient.Output}
      (ran : run (StreamClient.step streamId capacity) events initial = some (state, log)) :
      ∃ live pending, ClientInv source streamId log state live pending :=
    run_invariant
      (fun log state => ∃ live pending, ClientInv source streamId log state live pending)
      keeps [] ⟨_, _, opened.clientInv⟩ ran
  constructor
  · intro faithful
    refine along_of_run
      (fun log state => ∃ live pending, ClientInv source streamId log state live pending)
      (fun log output => output = .polled streamAsyncStatusDone → delivered log = productions log)
      (fun inv _ stepped => keeps inv stepped) ?_ [] ⟨_, _, opened.clientInv⟩ ran ?_
    · rintro log event state next output ⟨live, pending, inv⟩ stepped good rfl waits live' found last
      obtain rfl := Option.some.inj (inv.stream.symm.trans found)
      rw [inv.waiting] at waits
      obtain ⟨chunk, rfl⟩ := Option.ne_none_iff_exists'.mp waits
      have done : output = .polled streamAsyncStatusDone := by
        rw [(inv.poll stepped).1, (pollStatus_eq_done_iff live.kind).mpr last]
      have same := inv.inOrder
      rw [good done] at same
      simp at same
    · rintro earlier output later rfl rfl
      exact (faithful.ended earlier later rfl).1
  · intro along
    obtain ⟨live, pending, inv⟩ := reached ran
    refine ⟨?_, ⟨_, inv.whole⟩, ?_, ?_⟩
    · rw [inv.waiting]
      exact inv.inOrder
    · rintro before bufLen answer chunk after data hasMore rfl undelivered
      obtain ⟨_, _, middle, next, ran, stepped⟩ := run_split ran
      obtain ⟨live, pending, inv⟩ := reached ran
      exact inv.retried stepped undelivered
    · rintro before after rfl
      obtain ⟨_, event, middle, next, ran, -, allowed, stepped⟩ := run_split_along along ran
      obtain ⟨live, pending, inv⟩ := reached ran
      obtain ⟨isPoll, last⟩ := inv.atEnd_of_done stepped
      have nothing : pending = none := by
        by_contra waits
        rw [← inv.waiting] at waits
        exact allowed isPoll waits live inv.stream last
      have inOrder := inv.inOrder
      have whole := inv.whole
      rw [nothing, Option.map_none, Option.toList_none, List.append_nil] at inOrder
      rw [inv.feeds.rest_eq_nil last, List.append_nil, ← inOrder] at whole
      exact ⟨inOrder, whole⟩

/-- The state of an interface with one stream, of a result in memory. -/
def oneStream (data : Bytes) (chunkSize : Nat) : GlobalState :=
  { streams := AList.singleton 1 ((Source.memory data).start chunkSize) }

/-- The chunk does not fit, the poll says that there is more, and the next buffer gets it. -/
theorem streamsFaithfully_iff_retried :
    ∃ state log, run (StreamClient.step 1 1) [.fetch 1, .poll, .fetch 2, .fetch 2, .poll]
        (oneStream [1, 2, 3, 4] 2) = some (state, log) ∧
      log = [.fetched 1 (.tooSmall 2) (some ([1, 2], true)), .polled 1,
        .fetched 2 (.delivered [1, 2] true) none,
        .fetched 2 (.delivered [3, 4] false) (some ([3, 4], false)), .polled 2] ∧
      (StreamsFaithfully (.memory [1, 2, 3, 4]) 1 log state ↔
        Along (StreamClient.step 1 1) (WaitingRule 1)
          [.fetch 1, .poll, .fetch 2, .fetch 2, .poll] (oneStream [1, 2, 3, 4] 2)) := by
  have ran : run (StreamClient.step 1 1) [.fetch 1, .poll, .fetch 2, .fetch 2, .poll]
      (oneStream [1, 2, 3, 4] 2) = some ({
        streams := AList.singleton 1
          ⟨[], .buffer (.inMemory { data := [1, 2, 3, 4], offset := 4, chunkSize := 2 })⟩ },
      [.fetched 1 (.tooSmall 2) (some ([1, 2], true)), .polled 1,
        .fetched 2 (.delivered [1, 2] true) none,
        .fetched 2 (.delivered [3, 4] false) (some ([3, 4], false)), .polled 2]) := rfl
  exact ⟨_, _, ran, rfl, streamsFaithfully_iff (.memory [1, 2, 3, 4]) 2 1 1 ⟨rfl, rfl⟩ ran⟩

/-- The last chunk does not fit, and a poll reports the end before it is delivered. -/
theorem poll_forgets_waiting_chunk :
    ¬ ∀ (source : Source) (chunkSize streamId capacity : Nat) (initial : GlobalState)
        (events : List StreamClient.Event) (state : GlobalState) (log : List StreamClient.Output),
      Opened source chunkSize streamId initial →
      run (StreamClient.step streamId capacity) events initial = some (state, log) →
        StreamsFaithfully source streamId log state := by
  intro faithful
  have ran : run (StreamClient.step 1 1) [.fetch 1, .poll] (oneStream [1, 2] 2) =
      some ({
        streams := AList.singleton 1
          ⟨[], .buffer (.inMemory { data := [1, 2], offset := 2, chunkSize := 2 })⟩
        pendingStreamChunks := AList.singleton 1 ⟨[1, 2], false⟩ },
      [.fetched 1 (.tooSmall 2) (some ([1, 2], false)), .polled 2]) := rfl
  have ended := (faithful (.memory [1, 2]) 2 1 1 _ _ _ _ ⟨rfl, rfl⟩ ran).ended
    [.fetched 1 (.tooSmall 2) (some ([1, 2], false))] [] rfl
  cases ended.1

end OdbcFast.Verification
