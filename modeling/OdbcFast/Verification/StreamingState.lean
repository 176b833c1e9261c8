import OdbcFast.Native.Engine.StreamingState

/-!
# Chunked streams under every interleaving

Whatever the order in which the worker sends and the consumer polls and fetches, the
bytes delivered, the rest of the current batch and the batches still in the channel
or with the worker are the worker's batches in order. A poll moves bytes from the
channel to the current batch and changes nothing in that sum.
-/

namespace OdbcFast.Verification

open Wire Native StreamSystem StreamingState

variable {batches : List Bytes} {chunkSize capacity : Nat} {log : List Output} {system : System}

/-- Where the stream stands: batches are still to come behind the current one, or the
consumer has seen the last message and everything is delivered. -/
inductive Progress (batches : List Bytes) (delivered : Bytes) (system : System) : Prop where
  | streaming (later : List Bytes) (open' : system.consumer.done = false)
      (supply : system.consumer.receiver.queue ++ system.worker = later.map .batch ++ [.done])
      (bytes : delivered ++ (system.consumer.undelivered ++ later.flatten) = batches.flatten)
  | finished (done : system.consumer.done = true) (bytes : delivered = batches.flatten)

structure Inv (batches : List Bytes) (chunkSize : Nat) (log : List Output) (system : System) :
    Prop where
  size : system.consumer.chunkSize = chunkSize
  clean : system.consumer.streamError = none
  live : system.consumer.cancelled = false
  connected : system.worker ≠ [] → system.consumer.receiver.connected = true
  short : ∀ chunk ∈ chunks log, chunk.length ≤ chunkSize
  progress : Progress batches (chunks log).flatten system

theorem inv_start (batches : List Bytes) (chunkSize : Nat) :
    Inv batches chunkSize [] (start batches chunkSize) where
  size := rfl
  clean := rfl
  live := rfl
  connected _ := rfl
  short := by simp
  progress := .streaming batches rfl rfl rfl

namespace Inv

theorem send {next : System} (inv : Inv batches chunkSize log system)
    (sent : send capacity system = some next) :
    Inv batches chunkSize (log ++ [.worked]) next := by
  rw [StreamSystem.send] at sent
  split at sent
  · cases sent
  · next message worker waiting =>
      obtain ⟨-, sent⟩ := Option.ite_none_right_eq_some.mp sent
      cases sent
      refine ⟨inv.size, inv.clean, inv.live, fun _ => inv.connected (by simp [waiting]), ?_, ?_⟩
      · simpa using inv.short
      · rw [chunks_append_worked]
        rcases inv.progress with ⟨later, open', supply, bytes⟩ | ⟨done, bytes⟩
        · refine .streaming later open' ?_ bytes
          rw [← supply, waiting]
          simp
        · exact .finished done bytes

theorem hangUp {next : System} (inv : Inv batches chunkSize log system)
    (hung : hangUp system = some next) :
    Inv batches chunkSize (log ++ [.worked]) next := by
  obtain ⟨idle, hung⟩ := Option.ite_none_right_eq_some.mp hung
  cases hung
  refine ⟨inv.size, inv.clean, inv.live, fun busy => absurd idle busy, ?_, ?_⟩
  · simpa using inv.short
  · rw [chunks_append_worked]
    rcases inv.progress with ⟨later, open', supply, bytes⟩ | ⟨done, bytes⟩
    · exact .streaming later open' supply bytes
    · exact .finished done bytes

theorem streaming (inv : Inv batches chunkSize log system)
    (open' : system.consumer.done = false) :
    ∃ later : List Bytes,
      system.consumer.receiver.queue ++ system.worker = later.map .batch ++ [.done] ∧
      (chunks log).flatten ++ (system.consumer.undelivered ++ later.flatten) =
        batches.flatten := by
  rcases inv.progress with ⟨later, -, supply, bytes⟩ | ⟨done, -⟩
  · exact ⟨later, supply, bytes⟩
  · rw [open'] at done
    cases done

theorem delivered_of_done (inv : Inv batches chunkSize log system)
    (done : system.consumer.done = true) : (chunks log).flatten = batches.flatten := by
  rcases inv.progress with ⟨-, open', -, -⟩ | ⟨-, bytes⟩
  · rw [done] at open'
    cases open'
  · exact bytes

/-- Taking a batch out of the channel moves bytes and delivers none. -/
theorem receive {b : Bytes} {queue : List BatchedMessage}
    (inv : Inv batches chunkSize log system) (open' : system.consumer.done = false)
    (empty : system.consumer.undelivered = [])
    (waiting : system.consumer.receiver.queue = .batch b :: queue) :
    Inv batches chunkSize log { system with consumer := { system.consumer with
      receiver := { system.consumer.receiver with queue }
      currentBatch := some b
      offset := 0 } } := by
  refine ⟨inv.size, inv.clean, inv.live, inv.connected, inv.short, ?_⟩
  obtain ⟨later, supply, bytes⟩ := inv.streaming open'
  rw [waiting] at supply
  cases later with
  | nil => simp at supply
  | cons first later =>
      obtain ⟨same, rest⟩ := List.cons.inj supply
      cases same
      refine .streaming later open' rest ?_
      rw [← bytes, empty]
      simp [undelivered]

/-- Taking the last message out of the channel: nothing is left anywhere. -/
theorem receiveDone {queue : List BatchedMessage} (inv : Inv batches chunkSize log system)
    (open' : system.consumer.done = false) (empty : system.consumer.undelivered = [])
    (waiting : system.consumer.receiver.queue = .done :: queue) :
    Inv batches chunkSize log { system with consumer := { system.consumer with
      receiver := { system.consumer.receiver with queue }, done := true } } := by
  refine ⟨inv.size, inv.clean, inv.live, inv.connected, inv.short, ?_⟩
  obtain ⟨later, supply, bytes⟩ := inv.streaming open'
  rw [waiting] at supply
  cases later with
  | nil =>
      refine .finished rfl ?_
      simpa [empty] using bytes
  | cons first later => simp at supply

/-- What the consumer finds when it needs a message: a batch, the end, or nothing from a
worker that is still there. -/
theorem next_message (inv : Inv batches chunkSize log system)
    (open' : system.consumer.done = false) :
    (∃ b queue, system.consumer.receiver.queue = .batch b :: queue) ∨
      (∃ queue, system.consumer.receiver.queue = .done :: queue) ∨
      (system.consumer.receiver.queue = [] ∧ system.worker ≠ [] ∧
        system.consumer.receiver.connected = true) := by
  obtain ⟨later, supply, -⟩ := inv.streaming open'
  cases waiting : system.consumer.receiver.queue with
  | nil =>
      rw [waiting, List.nil_append] at supply
      have busy : system.worker ≠ [] := by simp [supply]
      exact .inr (.inr ⟨rfl, busy, inv.connected busy⟩)
  | cons message queue =>
      rw [waiting] at supply
      cases later with
      | nil =>
          obtain ⟨rfl, -⟩ := List.cons.inj supply
          exact .inr (.inl ⟨queue, rfl⟩)
      | cons first later =>
          obtain ⟨rfl, -⟩ := List.cons.inj supply
          exact .inl ⟨first, queue, rfl⟩

/-- Cutting a chunk off the current batch. -/
theorem takeChunk {b : Bytes} (corrupted : String) (inv : Inv batches chunkSize log system)
    (open' : system.consumer.done = false) (held : system.consumer.currentBatch = some b) :
    ∃ chunk consumer, takeChunk corrupted system.consumer = (.ok (some chunk), consumer) ∧
      Inv batches chunkSize (log ++ [.fetched (.ok (some chunk))]) { system with consumer } := by
  obtain ⟨chunk, currentBatch, offset, taken, fits, cut, -⟩ := takeChunk_spec corrupted held
  refine ⟨chunk, _, taken, inv.size, inv.clean, inv.live, inv.connected, ?_, ?_⟩
  · rw [chunks_append_fetched]
    intro piece member
    rcases List.mem_append.mp member with earlier | now
    · exact inv.short piece earlier
    · rw [Option.toList_some, List.mem_singleton] at now
      rw [now, ← inv.size]
      exact fits
  · obtain ⟨later, supply, bytes⟩ := inv.streaming open'
    refine .streaming later open' supply ?_
    rw [← bytes, ← cut, chunks_append_fetched]
    simp [undelivered]

/-- A fetch that returns gives a chunk, or reports the end when everything is delivered. -/
theorem fetch {crashed corrupted : String} {result : Except OdbcError (Option Bytes)}
    {consumer : StreamingState} (inv : Inv batches chunkSize log system)
    (fetched : fetchNextChunkWith crashed corrupted system.consumer = some (result, consumer)) :
    Inv batches chunkSize (log ++ [.fetched result]) { system with consumer } ∧
      ∃ chunk, result = .ok chunk ∧
        (chunk = none → (chunks log).flatten = batches.flatten) := by
  have ended {next : System} (after : Inv batches chunkSize log next) :
      Inv batches chunkSize (log ++ [.fetched (.ok none)]) next := by
    refine ⟨after.size, after.clean, after.live, after.connected, ?_, ?_⟩
    · simpa using after.short
    · simpa using after.progress
  cases state : system.consumer.done with
  | true =>
      rw [fetch_of_done inv.clean state] at fetched
      cases fetched
      exact ⟨ended inv, none, rfl, fun _ => inv.delivered_of_done state⟩
  | false =>
      by_cases empty : system.consumer.undelivered = []
      · rcases inv.next_message state with ⟨b, queue, waiting⟩ | ⟨queue, waiting⟩ |
          ⟨waiting, -, connected⟩
        · rw [fetch_of_batch inv.clean state empty waiting] at fetched
          obtain ⟨chunk, next, taken, after⟩ :=
            (inv.receive state empty waiting).takeChunk corrupted state rfl
          rw [taken] at fetched
          cases fetched
          exact ⟨after, some chunk, rfl, nofun⟩
        · rw [fetch_of_doneMessage inv.clean state empty waiting] at fetched
          cases fetched
          have after := inv.receiveDone state empty waiting
          exact ⟨ended after, none, rfl, fun _ => after.delivered_of_done rfl⟩
        · rw [fetch_of_empty inv.clean state empty waiting connected] at fetched
          cases fetched
      · rw [fetch_of_undelivered inv.clean state empty] at fetched
        obtain ⟨b, held⟩ := Option.isSome_iff_exists.mp (undelivered_ne_nil_iff.mp empty).1
        obtain ⟨chunk, next, taken, after⟩ := inv.takeChunk corrupted state held
        rw [taken] at fetched
        cases fetched
        exact ⟨after, some chunk, rfl, nofun⟩

/-- A poll takes at most one message and keeps everything that was not delivered. -/
theorem pull (inv : Inv batches chunkSize log system) :
    Inv batches chunkSize log { system with
      consumer := AsyncStreamingState.pullNextMessageNonblocking system.consumer } := by
  cases state : system.consumer.done with
  | true => rwa [AsyncStreamingState.pull_of_done state]
  | false =>
      by_cases empty : system.consumer.undelivered = []
      · rcases inv.next_message state with ⟨b, queue, waiting⟩ | ⟨queue, waiting⟩ |
          ⟨waiting, -, connected⟩
        · rw [AsyncStreamingState.pull_of_batch inv.clean state empty waiting]
          exact inv.receive state empty waiting
        · rw [AsyncStreamingState.pull_of_doneMessage inv.clean state empty waiting]
          exact inv.receiveDone state empty waiting
        · rwa [AsyncStreamingState.pull_of_empty waiting connected]
      · rwa [AsyncStreamingState.pull_of_undelivered empty]

/-- The status is `done` only when everything is delivered, and never a failure. -/
theorem poll (inv : Inv batches chunkSize log system) :
    Inv batches chunkSize
        (log ++ [.polled (AsyncStreamingState.pollStatus system.consumer).1])
        { system with consumer := (AsyncStreamingState.pollStatus system.consumer).2 } ∧
      ((AsyncStreamingState.pollStatus system.consumer).1 = .ready ∨
        (AsyncStreamingState.pollStatus system.consumer).1 = .pending ∨
        (AsyncStreamingState.pollStatus system.consumer).1 = .done ∧
          (chunks log).flatten = batches.flatten) := by
  have after := inv.pull
  refine ⟨⟨after.size, after.clean, after.live, after.connected, ?_, ?_⟩, ?_⟩
  · simpa using after.short
  · rw [chunks_append_polled]
    exact after.progress
  · have clean := after.clean
    have live := after.live
    simp only at clean live
    simp only [AsyncStreamingState.pollStatus, clean, live, Option.isSome_none,
      Bool.false_eq_true, if_false]
    split_ifs with done held
    · exact .inr (.inr ⟨rfl, after.delivered_of_done done⟩)
    · exact .inl rfl
    · exact .inr (.inl rfl)

end Inv

/-! ## Whole runs -/

/-- The end of the stream is reported by a fetch without a chunk or by the status. -/
def IsEnd (output : Output) : Prop := output = .fetched (.ok none) ∨ output = .polled .done

/-- A fetch that fails, or a status that says so. -/
def IsFailure : Output → Prop
  | .fetched (.error _) => True
  | .polled .error => True
  | .polled .cancelled => True
  | _ => False

/-- What a step of either system keeps, and what its output means. -/
structure Sound (batches : List Bytes) (chunkSize : Nat) (log : List Output) (next : System)
    (output : Output) : Prop where
  inv : Inv batches chunkSize (log ++ [output]) next
  ended : IsEnd output → (chunks log).flatten = batches.flatten
  unfailing : ¬ IsFailure output

theorem Inv.sound_worked {next : System} (after : Inv batches chunkSize (log ++ [.worked]) next) :
    Sound batches chunkSize log next .worked := by
  refine ⟨after, ?_, id⟩
  rintro (impossible | impossible)
  · cases impossible
  · cases impossible

theorem Inv.sound_fetch {crashed corrupted : String} {next : System} {output : Output}
    (inv : Inv batches chunkSize log system)
    (stepped : fetchWith (fetchNextChunkWith crashed corrupted) system = some (next, output)) :
    Sound batches chunkSize log next output := by
  obtain ⟨⟨result, consumer⟩, fetched, same⟩ := Option.map_eq_some_iff.mp stepped
  cases same
  obtain ⟨after, chunk, rfl, ended⟩ := inv.fetch fetched
  refine ⟨after, ?_, id⟩
  rintro (none | impossible)
  · cases none
    exact ended rfl
  · cases impossible

theorem Inv.sound_poll (inv : Inv batches chunkSize log system) :
    Sound batches chunkSize log
      { system with consumer := (AsyncStreamingState.pollStatus system.consumer).2 }
      (.polled (AsyncStreamingState.pollStatus system.consumer).1) := by
  obtain ⟨after, status⟩ := inv.poll
  refine ⟨after, ?_, ?_⟩
  · rintro (impossible | done)
    · cases impossible
    · rw [Output.polled.injEq] at done
      rcases status with ready | pending | ⟨-, delivered⟩
      · simp [ready] at done
      · simp [pending] at done
      · exact delivered
  · rcases status with status | status | ⟨status, -⟩ <;>
    · rw [status]
      exact id

theorem Inv.sound_send {next : System} {output : Output} (inv : Inv batches chunkSize log system)
    (stepped : (StreamSystem.send capacity system).map (·, .worked) = some (next, output)) :
    Sound batches chunkSize log next output := by
  obtain ⟨_, sent, same⟩ := Option.map_eq_some_iff.mp stepped
  cases same
  exact (inv.send sent).sound_worked

theorem Inv.sound_hangUp {next : System} {output : Output}
    (inv : Inv batches chunkSize log system)
    (stepped : (StreamSystem.hangUp system).map (·, .worked) = some (next, output)) :
    Sound batches chunkSize log next output := by
  obtain ⟨_, hung, same⟩ := Option.map_eq_some_iff.mp stepped
  cases same
  exact (inv.hangUp hung).sound_worked

theorem stepBatched_sound {event : Event} {next : System} {output : Output}
    (inv : Inv batches chunkSize log system)
    (stepped : stepBatched capacity event system = some (next, output)) :
    Sound batches chunkSize log next output := by
  cases event with
  | send => exact inv.sound_send stepped
  | hangUp => exact inv.sound_hangUp stepped
  | poll => cases stepped
  | fetch => exact inv.sound_fetch stepped

theorem stepAsync_sound {event : Event} {next : System} {output : Output}
    (inv : Inv batches chunkSize log system)
    (stepped : stepAsync capacity event system = some (next, output)) :
    Sound batches chunkSize log next output := by
  cases event with
  | send => exact inv.sound_send stepped
  | hangUp => exact inv.sound_hangUp stepped
  | poll =>
      obtain ⟨rfl, rfl⟩ := Prod.mk.inj (Option.some.inj stepped)
      exact inv.sound_poll
  | fetch => exact inv.sound_fetch stepped

/-- What a log says about the stream it came from. -/
structure Delivers (batches : List Bytes) (chunkSize : Nat) (log : List Output)
    (system : System) : Prop where
  inOrder : (chunks log).flatten <+: batches.flatten
  short : ∀ chunk ∈ chunks log, chunk.length ≤ chunkSize
  ended : ∀ before output after, log = before ++ output :: after → IsEnd output →
    (chunks before).flatten = batches.flatten
  exhausted : system.consumer.hasMore = false → (chunks log).flatten = batches.flatten
  unfailing : ∀ output ∈ log, ¬ IsFailure output

section

variable {step : Event → System → Option (System × Output)}

theorem delivers_of_run {events : List Event}
    (sound : ∀ {log event system next output}, Inv batches chunkSize log system →
      step event system = some (next, output) → Sound batches chunkSize log next output)
    (ran : run step events (start batches chunkSize) = some (system, log)) :
    Inv batches chunkSize log system ∧ Delivers batches chunkSize log system := by
  have reached {events : List Event} {system : System} {log : List Output}
      (ran : run step events (start batches chunkSize) = some (system, log)) :
      Inv batches chunkSize log system :=
    run_invariant (Inv batches chunkSize) (fun inv stepped => (sound inv stepped).inv) []
      (inv_start batches chunkSize) ran
  have inv := reached ran
  refine ⟨inv, ?_, inv.short, ?_, ?_, ?_⟩
  · rcases inv.progress with ⟨later, -, -, bytes⟩ | ⟨-, bytes⟩
    · exact ⟨_, bytes⟩
    · exact ⟨[], by rw [bytes, List.append_nil]⟩
  · rintro before output after rfl isEnd
    obtain ⟨_, _, middle, next, ran, stepped⟩ := run_split ran
    exact (sound (reached ran) stepped).ended isEnd
  · intro exhausted
    exact inv.delivered_of_done (by simpa [hasMore] using exhausted)
  · intro output member
    obtain ⟨before, after, rfl⟩ := List.append_of_mem member
    obtain ⟨_, _, middle, next, ran, stepped⟩ := run_split ran
    exact (sound (reached ran) stepped).unfailing

/-! ## Reaching the end -/

/-- What is still to be done for a message. -/
def messageWeight : BatchedMessage → Nat
  | .batch b => b.length + 1
  | _ => 1

def weight (system : System) : Nat :=
  ((system.consumer.receiver.queue ++ system.worker).map messageWeight).sum +
    system.consumer.undelivered.length

theorem weight_takeChunk {consumer : StreamingState} {b : Bytes} (corrupted : String)
    (worker : List BatchedMessage) (held : consumer.currentBatch = some b) :
    weight ⟨worker, (takeChunk corrupted consumer).2⟩ ≤ weight ⟨worker, consumer⟩ ∧
      (0 < consumer.chunkSize → consumer.undelivered ≠ [] →
        weight ⟨worker, (takeChunk corrupted consumer).2⟩ < weight ⟨worker, consumer⟩) := by
  obtain ⟨chunk, currentBatch, offset, taken, -, cut, nonempty⟩ := takeChunk_spec corrupted held
  have left : (undelivered { consumer with currentBatch, offset }).length + chunk.length =
      consumer.undelivered.length := by
    rw [← cut, List.length_append, Nat.add_comm]
    rfl
  rw [weight, weight, taken]
  refine ⟨by simp only; omega, fun pos some' => ?_⟩
  have cutOff := List.length_pos_of_ne_nil (nonempty pos some')
  simp only
  omega

/-- The consumer has something to work on. -/
def HasWork (consumer : StreamingState) : Prop :=
  consumer.done = true ∨ consumer.undelivered ≠ [] ∨ consumer.receiver.queue ≠ []

/-- With something to work on, a fetch returns and either reports the end or leaves less. -/
theorem Inv.fetch_progress (crashed corrupted : String) (inv : Inv batches chunkSize log system)
    (pos : 0 < chunkSize) (ready : HasWork system.consumer) :
    ∃ result consumer,
      fetchNextChunkWith crashed corrupted system.consumer = some (result, consumer) ∧
      (result = .ok none ∨ weight { system with consumer } < weight system) := by
  cases state : system.consumer.done with
  | true => exact ⟨_, _, fetch_of_done inv.clean state, .inl rfl⟩
  | false =>
      by_cases empty : system.consumer.undelivered = []
      · rcases inv.next_message state with ⟨b, queue, waiting⟩ | ⟨queue, waiting⟩ | ⟨waiting, -⟩
        · refine ⟨_, _, fetch_of_batch inv.clean state empty waiting, .inr ?_⟩
          refine Nat.lt_of_le_of_lt (weight_takeChunk corrupted system.worker rfl).1 ?_
          simp only [weight, waiting, undelivered, List.cons_append, List.map_cons, List.sum_cons,
            messageWeight, Option.getD_some, List.drop_zero]
          omega
        · exact ⟨_, _, fetch_of_doneMessage inv.clean state empty waiting, .inl rfl⟩
        · simp [HasWork, state, empty, waiting] at ready
      · obtain ⟨b, held⟩ := Option.isSome_iff_exists.mp (undelivered_ne_nil_iff.mp empty).1
        exact ⟨_, _, fetch_of_undelivered inv.clean state empty,
          .inr ((weight_takeChunk corrupted system.worker held).2 (inv.size ▸ pos) empty)⟩

/-- A consumer that finds nothing to work on makes the worker's next send possible, and
the send gives it something. -/
theorem Inv.send_progress (inv : Inv batches chunkSize log system) (room : 0 < capacity)
    (idle : ¬ HasWork system.consumer) :
    ∃ next, StreamSystem.send capacity system = some next ∧ weight next = weight system ∧
      next.consumer.receiver.queue ≠ [] := by
  rw [HasWork, not_or, not_or, not_not, not_not] at idle
  obtain ⟨open', -, waiting⟩ := idle
  rcases inv.next_message (by simpa using open') with ⟨b, queue, full⟩ | ⟨queue, full⟩ |
    ⟨-, busy, -⟩
  · rw [waiting] at full
    cases full
  · rw [waiting] at full
    cases full
  · obtain ⟨message, worker, busy⟩ := List.exists_cons_of_ne_nil busy
    rw [StreamSystem.send, busy]
    refine ⟨_, if_pos (by rwa [waiting, List.length_nil]), ?_, ?_⟩
    · simp only [weight, busy, waiting, List.nil_append, List.cons_append]
      rfl
    · simp

/-- From here the end can be reached, with every byte delivered. -/
def Completes (step : Event → System → Option (System × Output)) (batches : List Bytes)
    (log : List Output) (system : System) : Prop :=
  ∃ events final later, run step events system = some (final, later ++ [.fetched (.ok none)]) ∧
    (chunks (log ++ later)).flatten = batches.flatten

theorem Completes.of_step {event : Event} {next : System} {output : Output}
    (stepped : step event system = some (next, output))
    (rest : Completes step batches (log ++ [output]) next) : Completes step batches log system := by
  obtain ⟨events, final, later, ran, delivered⟩ := rest
  refine ⟨event :: events, final, output :: later, run_cons_eq_some.mpr ⟨next, stepped, ran⟩, ?_⟩
  rwa [List.append_assoc] at delivered

/-- The worker is never stuck while the consumer waits for it, and every fetch leaves less
to do. -/
theorem Inv.completes {crashed corrupted : String}
    (sends : ∀ system, step .send system = (StreamSystem.send capacity system).map (·, .worked))
    (fetches : ∀ system,
      step .fetch system = fetchWith (fetchNextChunkWith crashed corrupted) system)
    (inv : Inv batches chunkSize log system) (pos : 0 < chunkSize) (room : 0 < capacity) :
    Completes step batches log system := by
  induction size : weight system using Nat.strongRecOn generalizing system log with
  | ind size' ih =>
      -- one fetch, and by induction everything behind it
      have fetching {log : List Output} {system : System} (inv : Inv batches chunkSize log system)
          (bounded : weight system ≤ size') (ready : HasWork system.consumer) :
          Completes step batches log system := by
        obtain ⟨result, consumer, fetched, outcome⟩ :=
          inv.fetch_progress crashed corrupted pos ready
        obtain ⟨after, chunk, rfl, ended⟩ := inv.fetch fetched
        have stepped : step .fetch system =
            some ({ system with consumer }, .fetched (.ok chunk)) := by
          rw [fetches, fetchWith, fetched]
          rfl
        rcases outcome with none | less
        · cases none
          refine ⟨[.fetch], _, [], run_cons_eq_some.mpr ⟨_, stepped, rfl⟩, ?_⟩
          rw [List.append_nil]
          exact ended rfl
        · exact .of_step stepped (ih _ (Nat.lt_of_lt_of_le less bounded) after rfl)
      by_cases ready : HasWork system.consumer
      · exact fetching inv (Nat.le_of_eq size) ready
      · obtain ⟨next, sent, same, full⟩ := inv.send_progress room ready
        have stepped : step .send system = some (next, .worked) := by
          rw [sends, sent]
          rfl
        exact .of_step stepped
          (fetching (inv.send sent) (Nat.le_of_eq (same.trans size)) (.inr (.inr full)))

end

/-- Every run of either system delivers the worker's batches: in order, in chunks of at
most `chunkSize` bytes, with the end reported only behind the last byte, and the end
can always be reached. -/
theorem run_delivers (batches : List Bytes) (pos : 0 < chunkSize) (room : 0 < capacity)
    {step : Event → System → Option (System × Output)}
    (either : step = stepBatched capacity ∨ step = stepAsync capacity) {events : List Event}
    (ran : run step events (start batches chunkSize) = some (system, log)) :
    Delivers batches chunkSize log system ∧ Completes step batches log system := by
  rcases either with rfl | rfl
  · obtain ⟨inv, delivers⟩ := delivers_of_run stepBatched_sound ran
    exact ⟨delivers, inv.completes (fun _ => rfl) (fun _ => rfl) pos room⟩
  · obtain ⟨inv, delivers⟩ := delivers_of_run stepAsync_sound ran
    exact ⟨delivers, inv.completes (fun _ => rfl) (fun _ => rfl) pos room⟩

/-- A poll takes the batch, two fetches cut it, and a poll sees the end. -/
theorem run_delivers_polled :
    ∃ system log, run (stepAsync 1) [.send, .poll, .fetch, .send, .fetch, .poll]
        (start [[10, 11, 12]] 2) = some (system, log) ∧
      chunks log = [[10, 11], [12]] ∧ Delivers [[10, 11, 12]] 2 log system ∧
      Completes (stepAsync 1) [[10, 11, 12]] log system := by
  have ran : run (stepAsync 1) [.send, .poll, .fetch, .send, .fetch, .poll]
      (start [[10, 11, 12]] 2) =
        some (⟨[], { currentBatch := some [10, 11, 12]
                     offset := 3
                     chunkSize := 2
                     done := true }⟩,
          [.worked, .polled .ready, .fetched (.ok (some [10, 11])), .worked,
            .fetched (.ok (some [12])), .polled .done]) := by decide
  exact ⟨_, _, ran, rfl, run_delivers [[10, 11, 12]] (by decide) Nat.one_pos (.inr rfl) ran⟩

end OdbcFast.Verification
