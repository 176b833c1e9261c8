import OdbcFast.Verification.LiveStream

/-!
# Workers that disappear

A crash is reported to whoever fetches. A poll of an asynchronous stream that is the
first to find the channel closed reports a regular end instead, and so does a poll of
a batched stream behind the fetch that reported the crash. Every other sequence of
polls and fetches is told of the crash, and then of nothing but errors.
-/

namespace OdbcFast.Verification

open Wire Native StreamSystem StreamingState LiveStream

variable {mode : WorkerMode} {batches : List Bytes} {chunkSize capacity : Nat}
  {live next : LiveStream} {log : List LiveStream.Output} {output : LiveStream.Output}

def ReportsError : LiveStream.Output → Prop
  | .fetched (.error _) => True
  | .polled status => status = streamAsyncStatusError
  | _ => False

/-- The worker has dropped its end of the channel. -/
def HungUp : StreamKind → Prop
  | .buffer _ => False
  | .batched state => state.receiver.connected = false
  | .asyncBatched state => state.receiver.connected = false

/-- What the consumer of a stream whose worker crashes behind its batches is told. A fetch
waits for the worker only while it is there, so enough fetches bring the report. -/
structure ReportsCrash (batches : List Bytes) (log : List LiveStream.Output) (live : LiveStream) :
    Prop where
  unended : ∀ output ∈ log, ¬ ReportsEnd output
  answered : HungUp live.kind → live.kind.fetchNextChunk.isSome
  reported : (batches.map fun b => b.length + 1).sum < log.countP isFetch →
    ∃ message, .fetched (.error (.workerCrashed message)) ∈ log
  lasting : log.Pairwise fun earlier later =>
    ReportsError earlier → later = .worked ∨ ReportsError later

/-- A batched stream is not polled behind a reported crash; an asynchronous stream is not
polled when its worker is gone with every byte taken, unless the crash is reported. -/
def PollsSafely : StreamKind → Prop
  | .buffer _ => True
  | .batched state => state.streamError = none
  | .asyncBatched state => state.streamError ≠ none ∨ state.undelivered ≠ [] ∨
      state.receiver.queue ≠ [] ∨ state.receiver.connected = true

def PollRule (event : Event) (live : LiveStream) : Prop := event = .poll → PollsSafely live.kind

/-- Before the crash is seen every fetch makes the stream lighter; behind it the report
stands in the log and every answer is an error. -/
inductive CrashPhase (batches : List Bytes) (log : List LiveStream.Output) (system : System) :
    Prop where
  | before (streaming : Streaming .crashed system)
      (quiet : ∀ output ∈ log, ¬ ReportsError output)
      (work : log.countP isFetch + weight system ≤ (batches.map fun b => b.length + 1).sum)
  | behind (finished : Finished .crashed system) (failed : system.consumer.streamError ≠ none)
      (reported : ∃ message, .fetched (.error (.workerCrashed message)) ∈ log)

structure CrashInv (mode : WorkerMode) (batches : List Bytes) (log : List LiveStream.Output)
    (live : LiveStream) (state : StreamingState) : Prop where
  kind : live.kind = mode.kind state
  pos : 0 < state.chunkSize
  unended : ∀ output ∈ log, ¬ ReportsEnd output
  lasting : log.Pairwise fun earlier later =>
    ReportsError earlier → later = .worked ∨ ReportsError later
  phase : CrashPhase batches log ⟨live.worker, state⟩

theorem crashInv_start (mode : WorkerMode) (batches : List Bytes) (chunkSize : Nat) :
    CrashInv mode batches [] (LiveStream.start mode batches .crashed chunkSize)
      { chunkSize := max chunkSize 1 } where
  kind := rfl
  pos := Nat.lt_of_lt_of_le Nat.one_pos (Nat.le_max_right _ _)
  unended := List.forall_mem_nil _
  lasting := .nil
  phase := by
    refine .before ⟨rfl, rfl, rfl, fun _ => rfl, batches, rfl⟩ (List.forall_mem_nil _) ?_
    simp [weight, LiveStream.start, Closing.messages, undelivered, messageWeight,
      Function.comp_def]

namespace CrashInv

variable {state state' : StreamingState}

/-- Extending the log by an output that is no end and, behind the crash, an error. -/
theorem extend (inv : CrashInv mode batches log live state) (kind : next.kind = mode.kind state')
    (size : state'.chunkSize = state.chunkSize) (noEnd : ¬ ReportsEnd output)
    (follows : (∃ earlier ∈ log, ReportsError earlier) → output = .worked ∨ ReportsError output)
    (phase : CrashPhase batches (log ++ [output]) ⟨next.worker, state'⟩) :
    CrashInv mode batches (log ++ [output]) next state' where
  kind := kind
  pos := size ▸ inv.pos
  unended := forall_mem_append_singleton inv.unended noEnd
  lasting := by
    refine List.pairwise_append.mpr ⟨inv.lasting, List.pairwise_singleton _ _, ?_⟩
    intro earlier member later now failed
    rw [List.mem_singleton.mp now]
    exact follows ⟨earlier, member, failed⟩
  phase := phase

theorem not_reportsEnd_worked : ¬ ReportsEnd .worked := by
  rintro (impossible | impossible) <;> cases impossible

/-- The worker's moves. -/
theorem work {move : System → Option System} (inv : CrashInv mode batches log live state)
    (streaming : ∀ {system next}, Streaming .crashed system → move system = some next →
      Streaming .crashed next ∧ weight next = weight system ∧
        next.consumer.chunkSize = system.consumer.chunkSize)
    (finished : ∀ {system next}, Finished .crashed system → move system = some next →
      Finished .crashed next ∧ next.consumer.streamError = system.consumer.streamError ∧
        next.consumer.chunkSize = system.consumer.chunkSize)
    (stepped : (LiveStream.work move live).map (·, .worked) = some (next, output)) :
    ∃ state', CrashInv mode batches (log ++ [output]) next state' := by
  obtain ⟨_, worked, same⟩ := Option.map_eq_some_iff.mp stepped
  cases same
  obtain ⟨worker, kind⟩ := live
  obtain rfl := inv.kind
  rw [work_kind] at worked
  obtain ⟨system, moved, rfl⟩ := Option.map_eq_some_iff.mp worked
  rcases inv.phase with ⟨open', quiet, work⟩ | ⟨closed, failed, reported⟩
  · obtain ⟨after, same, size⟩ := streaming open' moved
    refine ⟨system.consumer, inv.extend rfl size not_reportsEnd_worked (fun _ => .inl rfl)
      (.before after (forall_mem_append_singleton quiet id) ?_)⟩
    rw [List.countP_append, same]
    exact work
  · obtain ⟨after, same, size⟩ := finished closed moved
    refine ⟨system.consumer, inv.extend rfl size not_reportsEnd_worked (fun _ => .inl rfl)
      (.behind after (by rwa [same]) ?_)⟩
    obtain ⟨message, member⟩ := reported
    exact ⟨message, List.mem_append_left _ member⟩

theorem send (inv : CrashInv mode batches log live state)
    (stepped : step capacity .send live = some (next, output)) :
    ∃ state', CrashInv mode batches (log ++ [output]) next state' := by
  refine inv.work ?_ ?_ stepped
  · intro system next streaming sent
    obtain ⟨after, -, same, size⟩ := streaming.send sent
    exact ⟨after, same, size⟩
  · intro system next finished sent
    rw [finished.not_send] at sent
    cases sent

theorem hangUp (inv : CrashInv mode batches log live state)
    (stepped : step capacity .hangUp live = some (next, output)) :
    ∃ state', CrashInv mode batches (log ++ [output]) next state' := by
  refine inv.work ?_ ?_ stepped
  · intro system next streaming hung
    obtain ⟨after, -, same, size⟩ := streaming.hangUp hung
    exact ⟨after, same, size⟩
  · intro system next finished hung
    exact finished.hangUp hung

theorem fetch (inv : CrashInv mode batches log live state)
    (stepped : step capacity .fetch live = some (next, output)) :
    ∃ state', CrashInv mode batches (log ++ [output]) next state' := by
  obtain ⟨worker, kind⟩ := live
  obtain rfl := inv.kind
  rw [step_fetch_kind] at stepped
  obtain ⟨⟨result, state'⟩, fetched, same⟩ := Option.map_eq_some_iff.mp stepped
  cases same
  rcases inv.phase with ⟨open', quiet, work⟩ | ⟨closed, failed, reported⟩
  · rcases open'.fetch_cases fetched with ⟨chunk, rfl, after, -, lighter, size⟩ |
      ⟨rfl, rfl, -, after⟩
    · refine ⟨state', inv.extend rfl size ?_ ?_ (.before after (forall_mem_append_singleton quiet id) ?_)⟩
      · rintro (impossible | impossible) <;> cases impossible
      · rintro ⟨earlier, member, wrong⟩
        exact absurd wrong (quiet earlier member)
      · have less : weight ⟨worker, state'⟩ < weight ⟨worker, state⟩ := lighter inv.pos
        simp only [List.countP_append, List.countP_singleton, isFetch, if_true] at work ⊢
        omega
    · refine ⟨_, inv.extend rfl rfl ?_ (fun _ => .inr trivial)
        (.behind after (by rintro ⟨⟩) ⟨_, List.mem_append_right _ (List.mem_singleton.mpr rfl)⟩)⟩
      rintro (impossible | impossible) <;> cases impossible
  · obtain ⟨message, failed'⟩ := Option.ne_none_iff_exists'.mp failed
    cases fetched.symm.trans (fetch_of_error failed')
    obtain ⟨text, member⟩ := reported
    refine ⟨state, inv.extend rfl rfl ?_ (fun _ => .inr trivial)
      (.behind closed failed ⟨text, List.mem_append_left _ member⟩)⟩
    rintro (impossible | impossible) <;> cases impossible

/-- A poll that keeps the rule finds the stream open, or reports the crash again. -/
theorem poll (inv : CrashInv mode batches log live state) (safe : PollsSafely live.kind)
    (stepped : step capacity .poll live = some (next, output)) :
    ∃ state', CrashInv mode batches (log ++ [output]) next state' := by
  obtain ⟨worker, kind⟩ := live
  obtain rfl := inv.kind
  cases stepped
  rcases inv.phase with ⟨open', quiet, work⟩ | ⟨closed, failed, reported⟩
  · have calm (status : Int) (same : status = streamAsyncStatusReady ∨
        status = streamAsyncStatusPending) : ¬ ReportsEnd (.polled status) ∧
          ¬ ReportsError (.polled status) := by
      rcases same with rfl | rfl <;> simp [ReportsEnd, ReportsError, streamAsyncStatusReady,
        streamAsyncStatusPending, streamAsyncStatusDone, streamAsyncStatusError]
    have early (later : LiveStream.Output) : (∃ earlier ∈ log, ReportsError earlier) →
        later = .worked ∨ ReportsError later := by
      rintro ⟨earlier, member, wrong⟩
      exact absurd wrong (quiet earlier member)
    cases mode with
    | batched =>
        have more : (WorkerMode.batched.kind state).pollStatus.1 = streamAsyncStatusReady :=
          if_pos (by rw [hasMore, open'.open']; rfl)
        obtain ⟨noEnd, noError⟩ := calm _ (.inl more)
        refine ⟨state, inv.extend rfl rfl noEnd (early _)
          (.before open' (forall_mem_append_singleton quiet noError) ?_)⟩
        rw [List.countP_append]
        exact work
    | async =>
        rcases open'.pull_cases with ⟨after, -, noHeavier, size⟩ | ⟨-, empty, last, -, -⟩
        · obtain ⟨noEnd, noError⟩ := calm ((AsyncStreamingState.pollStatus state).1.code) (by
            rcases after.pollStatus with status | status
            · exact .inl (by rw [status]; rfl)
            · exact .inr (by rw [status]; rfl))
          refine ⟨_, inv.extend rfl size noEnd (early _)
            (.before after (forall_mem_append_singleton quiet noError) ?_)⟩
          rw [List.countP_append]
          exact Nat.le_trans (Nat.add_le_add_left noHeavier _) work
        · rcases safe with failed | left | waiting | connected
          · exact absurd open'.clean failed
          · exact absurd empty left
          · exact absurd last.queue waiting
          · rw [last.gone rfl] at connected
            cases connected
  · obtain ⟨text, member⟩ := reported
    cases mode with
    | batched => exact absurd safe failed
    | async =>
        have same := closed.pull
        have status : (WorkerMode.async.kind state).pollStatus.1 = streamAsyncStatusError := by
          simp only at same
          rw [WorkerMode.kind, StreamKind.pollStatus, AsyncStreamingState.pollStatus, same]
          simp only [Option.ne_none_iff_isSome.mp failed, if_true]
          rfl
        refine ⟨state, inv.extend (congrArg StreamKind.asyncBatched same) rfl ?_
          (fun _ => .inr status) (.behind closed failed ⟨text, List.mem_append_left _ member⟩)⟩
        rw [status]
        rintro (impossible | impossible) <;> cases impossible

/-- A poll against the rule reports an end. -/
theorem poll_reportsEnd (inv : CrashInv mode batches log live state)
    (unsafe' : ¬ PollsSafely live.kind)
    (stepped : step capacity .poll live = some (next, output)) : ReportsEnd output := by
  obtain ⟨worker, kind⟩ := live
  obtain rfl := inv.kind
  cases stepped
  rcases inv.phase with ⟨open', -, -⟩ | ⟨closed, failed, -⟩
  · cases mode with
    | batched => exact absurd open'.clean unsafe'
    | async =>
        simp only [WorkerMode.kind, PollsSafely, not_or, not_not] at unsafe'
        obtain ⟨-, empty, waiting, gone⟩ := unsafe'
        have last : Closing.crashed.AtClosing state := ⟨waiting, fun _ => by simpa using gone⟩
        have pulled := Closing.pull_of_atClosing open'.clean open'.open' empty last
        have live := open'.live
        have clean := open'.clean
        simp only at pulled live clean
        refine .inr ?_
        rw [WorkerMode.kind, StreamKind.pollStatus, AsyncStreamingState.pollStatus, pulled]
        simp only [Closing.closePolled, Closing.close, clean, live]
        rfl
  · cases mode with
    | async => exact absurd (.inl failed) unsafe'
    | batched =>
        refine .inr ?_
        have done := closed.marks.1
        simp only at done
        rw [WorkerMode.kind, StreamKind.pollStatus, hasMore, done]
        rfl

theorem step (inv : CrashInv mode batches log live state) {event : Event}
    (rule : PollRule event live) (stepped : LiveStream.step capacity event live = some (next, output)) :
    ∃ state', CrashInv mode batches (log ++ [output]) next state' := by
  cases event with
  | send => exact inv.send stepped
  | hangUp => exact inv.hangUp stepped
  | poll => exact inv.poll (rule rfl) stepped
  | fetch => exact inv.fetch stepped

/-- A fetch waits only for a worker that is there. -/
theorem answered (inv : CrashInv mode batches log live state) (gone : HungUp live.kind) :
    live.kind.fetchNextChunk.isSome := by
  have hung : state.receiver.connected = false := by
    rw [inv.kind] at gone
    cases mode <;> exact gone
  rw [inv.kind, mode.fetchNextChunk_kind, Option.isSome_map]
  rcases inv.phase with ⟨open', -, -⟩ | ⟨-, failed, -⟩
  · by_cases empty : state.undelivered = []
    · rcases open'.next_message with ⟨b, queue, waiting⟩ | ⟨last, -⟩ | ⟨-, connected⟩
      · rw [fetch_of_batch open'.clean open'.open' empty waiting, Option.isSome_some]
      · rw [Closing.fetch_of_atClosing open'.clean open'.open' empty last, Option.isSome_some]
      · rw [hung] at connected
        cases connected
    · rw [fetch_of_undelivered open'.clean open'.open' empty, Option.isSome_some]
  · obtain ⟨message, failed⟩ := Option.ne_none_iff_exists'.mp failed
    rw [fetch_of_error failed, Option.isSome_some]

theorem reportsCrash (inv : CrashInv mode batches log live state) :
    ReportsCrash batches log live where
  unended := inv.unended
  answered := inv.answered
  lasting := inv.lasting
  reported := by
    intro many
    rcases inv.phase with ⟨-, -, work⟩ | ⟨-, -, reported⟩
    · omega
    · exact reported

end CrashInv

/-- A run in which the worker crashes behind its batches is told of the crash, and of no
end, exactly when its polls keep the rule. -/
theorem reportsCrash_iff (mode : WorkerMode) (batches : List Bytes) (chunkSize capacity : Nat)
    {events : List Event}
    (ran : run (step capacity) events (LiveStream.start mode batches .crashed chunkSize) =
      some (live, log)) :
    ReportsCrash batches log live ↔
      Along (step capacity) PollRule events
        (LiveStream.start mode batches .crashed chunkSize) := by
  have keeps {log event live next output}
      (inv : ∃ state, CrashInv mode batches log live state) (rule : PollRule event live)
      (stepped : step capacity event live = some (next, output)) :
      ∃ state, CrashInv mode batches (log ++ [output]) next state := by
    obtain ⟨state, inv⟩ := inv
    exact inv.step rule stepped
  have initial : ∃ state, CrashInv mode batches []
      (LiveStream.start mode batches .crashed chunkSize) state :=
    ⟨_, crashInv_start mode batches chunkSize⟩
  constructor
  · intro reports
    refine along_of_run (fun log live => ∃ state, CrashInv mode batches log live state)
      (fun _ output => ¬ ReportsEnd output) keeps ?_ [] initial ran ?_
    · rintro log event live next output ⟨state, inv⟩ stepped noEnd rfl
      by_contra unsafe'
      exact noEnd (inv.poll_reportsEnd unsafe' stepped)
    · rintro earlier output later rfl
      exact reports.unended output (List.mem_append_right _ List.mem_cons_self)
  · intro along
    obtain ⟨state, inv⟩ := run_invariant_along
      (fun log live => ∃ state, CrashInv mode batches log live state) keeps [] initial along ran
    exact inv.reportsCrash

/-- The fetch behind the crash reports it, and so does the poll behind the fetch. -/
theorem reportsCrash_iff_fetched :
    ∃ live, run (step 1) [.send, .fetch, .hangUp, .fetch, .poll]
        (LiveStream.start .async [[7]] .crashed 8) =
        some (live, [.worked, .fetched (.ok (some [7])), .worked,
          .fetched (.error (.workerCrashed
            "Async stream worker disconnected unexpectedly: receiving on a closed channel")),
          .polled (-1)]) ∧
      (ReportsCrash [[7]] [.worked, .fetched (.ok (some [7])), .worked,
          .fetched (.error (.workerCrashed
            "Async stream worker disconnected unexpectedly: receiving on a closed channel")),
          .polled (-1)] live ↔
        Along (step 1) PollRule [.send, .fetch, .hangUp, .fetch, .poll]
          (LiveStream.start .async [[7]] .crashed 8)) :=
  ⟨_, rfl, reportsCrash_iff .async [[7]] 8 1 rfl⟩

/-- The batch is fetched, the worker crashes, and a poll reports a complete stream. -/
theorem poll_hides_crash :
    ¬ ∀ (mode : WorkerMode) (batches : List Bytes) (chunkSize capacity : Nat)
        (events : List Event) (live : LiveStream) (log : List LiveStream.Output),
      run (step capacity) events (LiveStream.start mode batches .crashed chunkSize) =
        some (live, log) → ReportsCrash batches log live := by
  intro reports
  have ran : run (step 1) [.send, .fetch, .hangUp, .poll]
      (LiveStream.start .async [[7]] .crashed 8) =
        some (⟨[], .asyncBatched { receiver := { connected := false }, chunkSize := 8, done := true }⟩,
          [.worked, .fetched (.ok (some [7])), .worked, .polled 2]) := by decide
  exact (reports _ _ _ _ _ _ _ ran).unended (.polled 2) (by decide) (.inr rfl)

end OdbcFast.Verification
