import OdbcFast.Native.Engine.BatchedWorker
import OdbcFast.Verification.LiveStream

/-!
# Cancelled and failed streams

The worker of a batched stream returns with an error both when it finds the
cancellation flag set and when the driver fails, and it tells the two apart by looking
for a word in the text. A driver's error with that word in it ends the stream as a
cancellation nobody asked for: `tellsFailures_iff` says that there is no other way to
lose an error.
-/

namespace OdbcFast.Verification

open Wire Native StreamSystem StreamingState BatchedStream

variable {mode : WorkerMode} {job : BatchedJob} {system next : BatchedStream.System}
  {log : List LiveStream.Output} {output : LiveStream.Output} {live : LiveStream}
  {state : StreamingState} {text : String}

/-! ## An error on its way -/

/-- Neither a regular end nor a cancellation. -/
def TellsNoEnd (output : LiveStream.Output) : Prop :=
  ¬ ReportsEnd output ∧ output ≠ .polled streamAsyncStatusCancelled

theorem Fits.tellsNoEnd (fits : Fits (.error text) output) : TellsNoEnd output :=
  ⟨fun ended => fits.ended ended text rfl, fun cancelled => by cases fits.cancelled cancelled⟩

/-- Whatever is called from here on, no call reports an end, enough fetches report the error,
and a fetch waits only for a worker that can send. -/
def Arrives (text : String) (live : LiveStream) : Prop :=
  ∃ bound, ∀ events final log, run (LiveStream.step 1) events live = some (final, log) →
    (∀ output ∈ log, TellsNoEnd output) ∧
      (bound < log.countP isFetch → .fetched (.error (.internalError text)) ∈ log) ∧
      (final.kind.fetchNextChunk.isSome ∨ (LiveStream.step 1 .send final).isSome)

/-- The error is still to come and every fetch makes the stream lighter, or it has come and
the next fetch reports it. -/
structure Arriving (mode : WorkerMode) (text : String) (bound : Nat)
    (log : List LiveStream.Output) (live : LiveStream) (state : StreamingState) : Prop where
  kind : live.kind = mode.kind state
  pos : 0 < state.chunkSize
  quiet : ∀ output ∈ log, TellsNoEnd output
  phase : Streaming (.error text) ⟨live.worker, state⟩ ∧
      log.countP isFetch + weight ⟨live.worker, state⟩ ≤ bound ∨
    Finished (.error text) ⟨live.worker, state⟩ ∧
      (log.countP isFetch ≤ bound ∨ .fetched (.error (.internalError text)) ∈ log)

theorem countP_append_of_not_isFetch (plain : isFetch output = false) :
    (log ++ [output]).countP isFetch = log.countP isFetch := by
  rw [List.countP_append, List.countP_singleton, plain]
  rfl

namespace Arriving

variable {bound : Nat} {worker : List BatchedMessage} {next : LiveStream}

theorem send (arriving : Arriving mode text bound log ⟨worker, mode.kind state⟩ state)
    (quiet : TellsNoEnd output)
    (stepped : LiveStream.step 1 .send ⟨worker, mode.kind state⟩ = some (next, output)) :
    ∃ state', Arriving mode text bound (log ++ [output]) next state' := by
  obtain ⟨_, worked, same⟩ := Option.map_eq_some_iff.mp stepped
  cases same
  rw [LiveStream.work_kind] at worked
  obtain ⟨system, sent, rfl⟩ := Option.map_eq_some_iff.mp worked
  rcases arriving.phase with ⟨streaming, work⟩ | ⟨finished, -⟩
  · obtain ⟨after, -, same, size⟩ := streaming.send sent
    refine ⟨_, rfl, size ▸ arriving.pos, forall_mem_append_singleton arriving.quiet quiet,
      .inl ⟨after, ?_⟩⟩
    rw [countP_append_of_not_isFetch rfl, same]
    exact work
  · rw [finished.not_send] at sent
    cases sent

theorem hangUp (arriving : Arriving mode text bound log ⟨worker, mode.kind state⟩ state)
    (quiet : TellsNoEnd output)
    (stepped : LiveStream.step 1 .hangUp ⟨worker, mode.kind state⟩ = some (next, output)) :
    ∃ state', Arriving mode text bound (log ++ [output]) next state' := by
  obtain ⟨_, worked, same⟩ := Option.map_eq_some_iff.mp stepped
  cases same
  rw [LiveStream.work_kind] at worked
  obtain ⟨system, hung, rfl⟩ := Option.map_eq_some_iff.mp worked
  have quiet := forall_mem_append_singleton arriving.quiet quiet
  rcases arriving.phase with ⟨streaming, work⟩ | ⟨finished, reported⟩
  · obtain ⟨after, -, same, size⟩ := streaming.hangUp hung
    refine ⟨_, rfl, size ▸ arriving.pos, quiet, .inl ⟨after, ?_⟩⟩
    rw [countP_append_of_not_isFetch rfl, same]
    exact work
  · obtain ⟨after, -, size⟩ := finished.hangUp hung
    refine ⟨_, rfl, size ▸ arriving.pos, quiet, .inr ⟨after, ?_⟩⟩
    rw [countP_append_of_not_isFetch rfl]
    exact reported.imp id (List.mem_append_left _)

/-- Polling may take a message out of the channel, which makes the stream no heavier. -/
theorem poll (arriving : Arriving mode text bound log ⟨worker, mode.kind state⟩ state)
    (quiet : TellsNoEnd output)
    (stepped : LiveStream.step 1 .poll ⟨worker, mode.kind state⟩ = some (next, output)) :
    ∃ state', Arriving mode text bound (log ++ [output]) next state' := by
  cases stepped
  have quiet := forall_mem_append_singleton arriving.quiet quiet
  cases mode with
  | batched =>
      refine ⟨state, rfl, arriving.pos, quiet, ?_⟩
      rw [countP_append_of_not_isFetch rfl]
      exact arriving.phase.imp id (And.imp id (Or.imp id (List.mem_append_left _)))
  | async =>
      rcases arriving.phase with ⟨streaming, work⟩ | ⟨finished, reported⟩
      · have size := (AsyncStreamingState.pull_keeps state).2
        rcases streaming.pull_cases with ⟨after, -, noHeavier, -⟩ | ⟨-, -, -, -, after⟩
        · refine ⟨_, rfl, size ▸ arriving.pos, quiet, .inl ⟨after, ?_⟩⟩
          rw [countP_append_of_not_isFetch rfl]
          exact Nat.le_trans (Nat.add_le_add_left noHeavier _) work
        · refine ⟨_, rfl, size ▸ arriving.pos, quiet, .inr ⟨after, .inl ?_⟩⟩
          rw [countP_append_of_not_isFetch rfl]
          exact Nat.le_trans (Nat.le_add_right _ _) work
      · have same := finished.pull
        refine ⟨state, congrArg StreamKind.asyncBatched same, arriving.pos, quiet,
          .inr ⟨finished, ?_⟩⟩
        rw [countP_append_of_not_isFetch rfl]
        exact reported.imp id (List.mem_append_left _)

/-- A fetch makes the stream lighter, or reports the error. -/
theorem fetch (arriving : Arriving mode text bound log ⟨worker, mode.kind state⟩ state)
    (quiet : TellsNoEnd output)
    (stepped : LiveStream.step 1 .fetch ⟨worker, mode.kind state⟩ = some (next, output)) :
    ∃ state', Arriving mode text bound (log ++ [output]) next state' := by
  rw [LiveStream.step_fetch_kind] at stepped
  obtain ⟨⟨result, state'⟩, fetched, same⟩ := Option.map_eq_some_iff.mp stepped
  cases same
  have quiet := forall_mem_append_singleton arriving.quiet quiet
  rcases arriving.phase with ⟨streaming, work⟩ | ⟨finished, -⟩
  · rcases streaming.fetch_cases fetched with ⟨chunk, rfl, after, -, lighter, size⟩ |
      ⟨rfl, rfl, -, after⟩
    · refine ⟨state', rfl, size ▸ arriving.pos, quiet, .inl ⟨after, ?_⟩⟩
      have less : weight ⟨worker, state'⟩ < weight ⟨worker, state⟩ := lighter arriving.pos
      simp only [List.countP_append, List.countP_singleton, isFetch, if_true] at work ⊢
      omega
    · exact ⟨_, rfl, arriving.pos, quiet,
        .inr ⟨after, .inr (List.mem_append_right _ (List.mem_singleton.mpr rfl))⟩⟩
  · cases fetched.symm.trans (fetch_of_error finished.marks.1)
    exact ⟨state, rfl, arriving.pos, quiet,
      .inr ⟨finished, .inr (List.mem_append_right _ (List.mem_singleton.mpr rfl))⟩⟩

theorem step {event : StreamSystem.Event} (arriving : Arriving mode text bound log live state)
    (stepped : LiveStream.step 1 event live = some (next, output)) :
    ∃ state', Arriving mode text bound (log ++ [output]) next state' := by
  obtain ⟨worker, kind⟩ := live
  obtain rfl := arriving.kind
  have phase : Phase (.error text) ⟨worker, state⟩ := arriving.phase.imp And.left And.left
  obtain ⟨-, -, -, -, fits⟩ := phase.step stepped
  cases event with
  | send => exact arriving.send fits.tellsNoEnd stepped
  | hangUp => exact arriving.hangUp fits.tellsNoEnd stepped
  | poll => exact arriving.poll fits.tellsNoEnd stepped
  | fetch => exact arriving.fetch fits.tellsNoEnd stepped

/-- A fetch that has to wait leaves room for the worker's next message. -/
theorem moves (arriving : Arriving mode text bound log live state) :
    live.kind.fetchNextChunk.isSome ∨ (LiveStream.step 1 .send live).isSome := by
  obtain ⟨worker, kind⟩ := live
  obtain rfl := arriving.kind
  rw [mode.fetchNextChunk_kind, Option.isSome_map, LiveStream.step, Option.isSome_map,
    LiveStream.work_kind, Option.isSome_map]
  rcases arriving.phase with ⟨streaming, -⟩ | ⟨finished, -⟩
  · by_cases empty : state.undelivered = []
    · rcases streaming.next_message with ⟨b, queue, waiting⟩ | ⟨last, -⟩ | ⟨waiting, -⟩
      · exact .inl (by rw [fetch_of_batch streaming.clean streaming.open' empty waiting]; rfl)
      · exact .inl (by
          rw [Closing.fetch_of_atClosing streaming.clean streaming.open' empty last]; rfl)
      · obtain ⟨later, supply⟩ := streaming.supply
        have busy : worker ≠ [] := by
          rintro rfl
          simp only at waiting
          simp [waiting, Closing.messages] at supply
        obtain ⟨message, rest, rfl⟩ := List.exists_cons_of_ne_nil busy
        simp only at waiting
        exact .inr (by rw [StreamSystem.send]; simp [waiting])
    · exact .inl (by rw [fetch_of_undelivered streaming.clean streaming.open' empty]; rfl)
  · exact .inl (by rw [fetch_of_error finished.marks.1]; rfl)

end Arriving

theorem arrives_of_phase (phase : Phase (.error text) ⟨live.worker, state⟩)
    (kind : live.kind = mode.kind state) (pos : 0 < state.chunkSize) : Arrives text live := by
  refine ⟨weight ⟨live.worker, state⟩, ?_⟩
  intro events final log ran
  have initial : ∃ state', Arriving mode text (weight ⟨live.worker, state⟩) [] live state' := by
    refine ⟨state, kind, pos, List.forall_mem_nil _, ?_⟩
    rcases phase with streaming | finished
    · exact .inl ⟨streaming, by simp⟩
    · exact .inr ⟨finished, .inl (Nat.zero_le _)⟩
  obtain ⟨state', arriving⟩ := run_invariant
    (fun log live' => ∃ state', Arriving mode text (weight ⟨live.worker, state⟩) log live' state')
    (fun ⟨_, arriving⟩ stepped => arriving.step stepped) [] initial ran
  rw [List.nil_append] at arriving
  refine ⟨arriving.quiet, ?_, arriving.moves⟩
  intro many
  rcases arriving.phase with ⟨-, work⟩ | ⟨-, few | reported⟩
  · omega
  · omega
  · exact reported

/-! ## Runs of the worker -/

/-- What a run of a batched stream promises: it is cancelled, or ends without an error before
its worker has finished, only on request, and an error raised before any request is on its
way to the consumer or with it, and arrives. -/
structure TellsFailures (mode : WorkerMode) (log : List LiveStream.Output)
    (system : BatchedStream.System) : Prop where
  cancelled : ∀ state, system.live.kind = mode.kind state →
    .cancelled ∈ state.receiver.queue ++ system.live.worker ∨ state.cancelled = true ∨
        .polled streamAsyncStatusCancelled ∈ log →
      system.cancelRequested = true
  ended : (∃ output ∈ log, ReportsEnd output) →
    (∃ requested, system.thread = .returned .finished requested) ∨ system.cancelRequested = true
  failed : ∀ err, system.thread = .returned (.failed err) false →
    (∀ output ∈ log, TellsNoEnd output) ∧ Arrives err.display system.live ∧
      ∀ state, system.live.kind = mode.kind state →
        .error err.display ∈ state.receiver.queue ++ system.live.worker ∨
          state.streamError = some err.display

/-- The errors that are raised before any request to cancel do not have the word in them. -/
def Distinct (system : BatchedStream.System) : Prop :=
  ∀ err, system.thread = .returned (.failed err) false → strContains err.display "cancelled" = false

/-- A thread that has not returned is there, and leaves the stream open; behind its return
the stream is closed as its exit says. -/
inductive ThreadPhase (log : List LiveStream.Output) (system : BatchedStream.System)
    (state : StreamingState) : Prop where
  | running (busy : ∀ exit requested, system.thread ≠ .returned exit requested)
      (streaming : Streaming .crashed ⟨system.live.worker, state⟩)
      (connected : state.receiver.connected = true)
      (quiet : ∀ output ∈ log, TellsNoEnd output)
  | returned (exit : WorkerExit) (requested : Bool)
      (returned : system.thread = .returned exit requested)
      (asked : exit = .cancelled ∨ requested = true → system.cancelRequested = true)
      (phase : Phase exit.closing ⟨system.live.worker, state⟩)
      (fits : ∀ output ∈ log, Fits exit.closing output)

structure ThreadInv (mode : WorkerMode) (log : List LiveStream.Output)
    (system : BatchedStream.System) (state : StreamingState) : Prop where
  kind : system.live.kind = mode.kind state
  pos : 0 < state.chunkSize
  phase : ThreadPhase log system state

theorem TellsNoEnd.fits (quiet : TellsNoEnd output) (closing : Closing) : Fits closing output :=
  ⟨fun ended => absurd ended quiet.1, fun cancelled => absurd cancelled quiet.2⟩

theorem tellsNoEnd_worked : TellsNoEnd .worked := (fits_worked (.error "")).tellsNoEnd

theorem threadInv_start (mode : WorkerMode) (chunkSize : Nat) :
    ThreadInv mode [] (BatchedStream.start mode chunkSize) { chunkSize := max chunkSize 1 } where
  kind := rfl
  pos := Nat.lt_of_lt_of_le Nat.one_pos (Nat.le_max_right _ _)
  phase := .running (by rintro _ _ ⟨⟩) ⟨rfl, rfl, rfl, fun _ => rfl, [], rfl⟩ rfl (List.forall_mem_nil _)

namespace ThreadInv

theorem requestCancel (inv : ThreadInv mode log system state) :
    ThreadInv mode (log ++ [.worked]) { system with cancelRequested := true } state := by
  refine ⟨inv.kind, inv.pos, ?_⟩
  rcases inv.phase with ⟨busy, streaming, connected, quiet⟩ | ⟨exit, requested, returned, -, phase, fits⟩
  · exact .running busy streaming connected (forall_mem_append_singleton quiet tellsNoEnd_worked)
  · exact .returned exit requested returned (fun _ => rfl) phase
      (forall_mem_append_singleton fits (fits_worked _))

/-- The batches of a turn come behind those in the channel, and so does the last message. -/
theorem turn (inv : ThreadInv mode log system state)
    (stepped : BatchedStream.step job .turn system = some (next, output)) :
    ThreadInv mode (log ++ [output]) next state := by
  have supplied {messages : List BatchedMessage} {closing : Closing} {batch : Option Bytes}
      (streaming : Streaming .crashed ⟨[], state⟩) (connected : state.receiver.connected = true)
      (sends : messages = batch.toList.map .batch ++ closing.messages) :
      Streaming closing ⟨messages, state⟩ := by
    obtain ⟨later, supply⟩ := streaming.supply
    refine ⟨streaming.open', streaming.clean, streaming.live, fun _ => connected,
      later ++ batch.toList, ?_⟩
    simp only [Closing.messages, List.append_nil] at supply
    simp only [supply, sends, List.map_append, List.append_assoc]
  obtain ⟨thread, cancelRequested, worker, kind⟩ := system
  rcases inv.phase with ⟨busy, streaming, connected, quiet⟩ | ⟨exit, requested, returned, -, -, -⟩
  · cases worker with
    | cons message worker => cases thread <;> cases stepped
    | nil =>
        have stepped : some ((⟨(job.turn cancelRequested thread).2, cancelRequested,
            (job.turn cancelRequested thread).1, kind⟩ : BatchedStream.System),
              LiveStream.Output.worked) = some (next, output) := by
          cases thread with
          | returned exit asked => exact absurd rfl (busy exit asked)
          | opening => exact stepped
          | reading columns rows firstBatch => exact stepped
        cases stepped
        refine ⟨inv.kind, inv.pos, ?_⟩
        rcases job.turn_cases cancelRequested busy with ⟨batch, sends, goesOn⟩ |
          ⟨exit, batch, leaves, asked⟩
        · exact .running goesOn (supplied streaming connected (sends.trans (List.append_nil _).symm))
            connected (forall_mem_append_singleton quiet tellsNoEnd_worked)
        · rw [leaves]
          refine .returned exit cancelRequested rfl (Or.rec asked id)
            (.inl (supplied streaming connected rfl)) ?_
          exact forall_mem_append_singleton (fun o member => (quiet o member).fits _)
            (fits_worked _)
  · cases returned
    cases stepped

/-- A call of the consumer, a send, or the end of a thread that has returned. -/
theorem stream {event : StreamSystem.Event} (inv : ThreadInv mode log system state)
    (stepped : BatchedStream.step job (.stream event) system = some (next, output)) :
    ∃ state', ThreadInv mode (log ++ [output]) next state' := by
  obtain ⟨thread, cancelRequested, worker, kind⟩ := system
  obtain rfl := inv.kind
  rcases inv.phase with ⟨busy, streaming, connected, quiet⟩ |
    ⟨exit, requested, returned, asked, phase, fits⟩
  · have there : event ≠ .hangUp := by
      rintro rfl
      cases thread with
      | returned exit asked => exact absurd rfl (busy exit asked)
      | opening => cases stepped
      | reading columns rows firstBatch => cases stepped
    have stepped : ((LiveStream.step 1 event ⟨worker, mode.kind state⟩).map fun moved =>
        ((⟨thread, cancelRequested, moved.1⟩ : BatchedStream.System), moved.2)) =
          some (next, output) := by
      cases event with
      | hangUp => exact absurd rfl there
      | send => exact stepped
      | poll => exact stepped
      | fetch => exact stepped
    obtain ⟨⟨live, output'⟩, moved, same⟩ := Option.map_eq_some_iff.mp stepped
    cases same
    obtain ⟨state', kind, after, connected', size, fits⟩ :=
      streaming.step_open connected there moved
    exact ⟨state', kind, size ▸ inv.pos, .running busy after connected'
      (forall_mem_append_singleton quiet (fits (.error "")).tellsNoEnd)⟩
  · cases returned
    have stepped : ((LiveStream.step 1 event ⟨worker, mode.kind state⟩).map fun moved =>
        ((⟨.returned exit requested, cancelRequested, moved.1⟩ : BatchedStream.System), moved.2)) =
          some (next, output) := by
      cases event <;> exact stepped
    obtain ⟨⟨live, output'⟩, moved, same⟩ := Option.map_eq_some_iff.mp stepped
    cases same
    obtain ⟨state', kind, after, size, fits'⟩ := phase.step moved
    exact ⟨state', kind, size ▸ inv.pos, .returned exit requested rfl asked after
      (forall_mem_append_singleton fits fits')⟩

theorem step {event : BatchedStream.Event} (inv : ThreadInv mode log system state)
    (stepped : BatchedStream.step job event system = some (next, output)) :
    ∃ state', ThreadInv mode (log ++ [output]) next state' := by
  cases event with
  | turn => exact ⟨state, inv.turn stepped⟩
  | requestCancel =>
      cases stepped
      exact ⟨state, inv.requestCancel⟩
  | stream event => exact inv.stream stepped

end ThreadInv

/-- A cancellation that is seen anywhere is how the worker left. -/
theorem Phase.cancelled_of_seen {closing : Closing} {worker : List BatchedMessage}
    (phase : Phase closing ⟨worker, state⟩)
    (seen : .cancelled ∈ state.receiver.queue ++ worker ∨ state.cancelled = true) :
    closing = .cancelled := by
  rcases phase with streaming | finished
  · rcases seen with member | marked
    · obtain ⟨later, supply⟩ := streaming.supply
      simp only at supply
      rw [supply] at member
      cases closing <;> simp_all [Closing.messages]
    · cases marked.symm.trans streaming.live
  · have marks := finished.marks
    have drained := finished.drained
    have idle := finished.idle
    simp only at drained idle marks
    rw [drained, idle] at seen
    rcases seen with member | marked
    · cases member
    · cases closing with
      | cancelled => rfl
      | done => cases marked.symm.trans marks.2.2
      | error message => cases marked.symm.trans marks.2.1
      | crashed => cases marked.symm.trans marks.2.1

/-- An error that is on its way, or has come, is how the worker left. -/
theorem Phase.error_iff_seen {closing : Closing} {worker : List BatchedMessage}
    (phase : Phase closing ⟨worker, state⟩) (left : closing = .error text ∨ closing = .cancelled) :
    .error text ∈ state.receiver.queue ++ worker ∨ state.streamError = some text ↔
      closing = .error text := by
  rcases phase with streaming | finished
  · obtain ⟨later, supply⟩ := streaming.supply
    have clean := streaming.clean
    simp only at supply clean
    rw [supply, clean]
    rcases left with rfl | rfl <;> simp [Closing.messages]
  · have marks := finished.marks
    have drained := finished.drained
    have idle := finished.idle
    simp only at drained idle marks
    rw [drained, idle]
    rcases left with rfl | rfl
    · simp [marks.1]
    · simp [marks.2.1]

namespace ThreadInv

theorem tellsFailures (inv : ThreadInv mode log system state) (distinct : Distinct system) :
    TellsFailures mode log system := by
  rcases inv.phase with ⟨busy, streaming, connected, quiet⟩ |
    ⟨exit, requested, returned, asked, phase, fits⟩
  · refine ⟨?_, ?_, ?_⟩
    · intro state' same seen
      obtain rfl := mode.kind_injective (inv.kind.symm.trans same)
      rcases seen with member | marked | polled
      · cases (Phase.cancelled_of_seen (.inl streaming) (.inl member))
      · cases (Phase.cancelled_of_seen (.inl streaming) (.inr marked))
      · exact absurd rfl (quiet _ polled).2
    · rintro ⟨output, member, ended⟩
      exact absurd ended (quiet output member).1
    · intro err returned
      exact absurd returned (busy _ _)
  · -- an exit that closes the stream as cancelled was asked for
    have asked' (closed : exit.closing = .cancelled) : system.cancelRequested = true := by
      cases exit with
      | poisoned => cases closed
      | finished => cases closed
      | cancelled => exact asked (.inl rfl)
      | failed err =>
          refine asked (.inr ?_)
          by_contra unasked
          rw [Bool.not_eq_true] at unasked
          subst unasked
          rw [WorkerExit.closing_failed, distinct err returned] at closed
          cases closed
    refine ⟨?_, ?_, ?_⟩
    · intro state' same seen
      obtain rfl := mode.kind_injective (inv.kind.symm.trans same)
      rcases seen with member | marked | polled
      · exact asked' (phase.cancelled_of_seen (.inl member))
      · exact asked' (phase.cancelled_of_seen (.inr marked))
      · exact asked' ((fits _ polled).cancelled rfl)
    · rintro ⟨output, member, ended⟩
      have regular := (fits output member).ended ended
      cases exit with
      | poisoned => exact absurd rfl (regular _)
      | finished => exact .inl ⟨requested, returned⟩
      | cancelled => exact .inr (asked (.inl rfl))
      | failed err =>
          refine .inr (asked' ?_)
          rw [WorkerExit.closing_failed] at regular ⊢
          split_ifs at regular ⊢ with word
          · rfl
          · exact absurd rfl (regular _)
    · intro err failed
      obtain ⟨rfl, rfl⟩ := WorkerThread.returned.inj (returned.symm.trans failed)
      have closed : (WorkerExit.failed err).closing = .error err.display := by
        rw [WorkerExit.closing_failed, distinct err returned]
        rfl
      rw [closed] at phase fits
      refine ⟨fun output member => (fits output member).tellsNoEnd,
        arrives_of_phase phase inv.kind inv.pos, ?_⟩
      intro state' same
      obtain rfl := mode.kind_injective (inv.kind.symm.trans same)
      exact (phase.error_iff_seen (.inl rfl)).mpr rfl

theorem distinct (inv : ThreadInv mode log system state)
    (tells : TellsFailures mode log system) : Distinct system := by
  intro err failed
  by_contra word
  rw [Bool.not_eq_false] at word
  rcases inv.phase with ⟨busy, -, -, -⟩ | ⟨exit, requested, returned, -, phase, -⟩
  · exact absurd failed (busy _ _)
  · obtain ⟨rfl, rfl⟩ := WorkerThread.returned.inj (returned.symm.trans failed)
    have closed : (WorkerExit.failed err).closing = .cancelled := by
      rw [WorkerExit.closing_failed, if_pos word]
    rw [closed] at phase
    cases (phase.error_iff_seen (.inr rfl)).mp ((tells.failed err failed).2.2 state inv.kind)

end ThreadInv

/-- A run of a batched stream tells failures from cancellations exactly when no error that is
raised before a request to cancel has the word in its text. -/
theorem tellsFailures_iff (mode : WorkerMode) (job : BatchedJob) (chunkSize : Nat)
    {events : List BatchedStream.Event}
    (ran : run (BatchedStream.step job) events (BatchedStream.start mode chunkSize) =
      some (system, log)) :
    TellsFailures mode log system ↔ Distinct system := by
  obtain ⟨state, inv⟩ := run_invariant
    (fun log system => ∃ state, ThreadInv mode log system state)
    (fun ⟨_, inv⟩ stepped => inv.step stepped) [] ⟨_, threadInv_start mode chunkSize⟩ ran
  exact ⟨inv.distinct, inv.tellsFailures⟩

/-- A statement that the driver refuses to execute. -/
def refused (err : OdbcError) : BatchedJob where
  driver := {
    prepared := .ok ()
    executed := .error err
    first := {
      numResultCols := .ok 0
      rowCount := .ok 0
      colName := fun _ => .error err
      colDataType := fun _ => .error err
      rows := []
      fetched := .ok () }
    more := []
    ending := .noData }
  fetchSize := 100

/-- SQLSTATE 42000. -/
def stateSyntaxOrAccess : List UInt8 := [0x34, 0x32, 0x30, 0x30, 0x30]

/-- An error without the word reaches the consumer. -/
theorem tellsFailures_iff_refused :
    ∃ system log, run (BatchedStream.step
          (refused (.structured stateSyntaxOrAccess 207 "Invalid column name")))
        [.turn, .stream .send, .stream .fetch] (BatchedStream.start .async 8) = some (system, log) ∧
      log = [.worked, .worked,
        .fetched (.error (.internalError "Structured error: Invalid column name"))] ∧
      (TellsFailures .async log system ↔ Distinct system) := by
  have ran : run (BatchedStream.step
        (refused (.structured stateSyntaxOrAccess 207 "Invalid column name")))
      [.turn, .stream .send, .stream .fetch] (BatchedStream.start .async 8) =
        some (⟨.returned (.failed (.structured stateSyntaxOrAccess 207 "Invalid column name"))
            false, false, ⟨[], .asyncBatched {
              chunkSize := 8, streamError := some "Structured error: Invalid column name" }⟩⟩,
          [.worked, .worked,
            .fetched (.error (.internalError "Structured error: Invalid column name"))]) := rfl
  exact ⟨_, _, ran, rfl, tellsFailures_iff _ _ _ ran⟩

/-- A trigger raises an error that speaks of something cancelled, and the consumer sees a
complete stream. -/
theorem error_taken_for_cancellation :
    ¬ ∀ (mode : WorkerMode) (job : BatchedJob) (chunkSize : Nat)
        (events : List BatchedStream.Event) (system : BatchedStream.System)
        (log : List LiveStream.Output),
      run (BatchedStream.step job) events (BatchedStream.start mode chunkSize) =
        some (system, log) → TellsFailures mode log system := by
  intro tells
  have ran : run (BatchedStream.step
        (refused (.structured stateSyntaxOrAccess 50000 "Order 17 is cancelled")))
      [.turn, .stream .send, .stream .fetch] (BatchedStream.start .batched 8) =
        some (⟨.returned (.failed (.structured stateSyntaxOrAccess 50000 "Order 17 is cancelled"))
            false, false, ⟨[], .batched { chunkSize := 8, done := true, cancelled := true }⟩⟩,
          [.worked, .worked, .fetched (.ok none)]) := rfl
  have delivered := (tells _ _ _ _ _ _ ran).failed _ rfl
  exact (delivered.1 (.fetched (.ok none)) (by decide)).1 (.inl rfl)

end OdbcFast.Verification
