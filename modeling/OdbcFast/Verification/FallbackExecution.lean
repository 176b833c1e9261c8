import OdbcFast.Native.Engine.BatchedWorker
import OdbcFast.Verification.QueryResults

/-!
# How often a query is executed

The driver executes a statement when the worker of a batched stream opens its cursor,
and when a stream that reads everything first is started. Neither happens twice for
one native stream. A query without reconnects opens the second stream only behind an
exception that came before the first message, and by then the first stream may have
executed the statement already.

What the caller is answered and what the driver is sent are given separately: a
request may be executed although its answer is lost.
-/

namespace OdbcFast.Verification

open Wire Dart Native

/-! ## One native stream -/

/-- `prepare` comes first; the statement is sent to the driver when it succeeds. -/
def executions (driver : Driver) : Nat :=
  match driver.prepare with
  | .ok () => 1
  | .error _ => 0

theorem executions_le_one (driver : Driver) : executions driver ≤ 1 := by
  rw [executions]
  split
  · exact Nat.le_refl 1
  · exact Nat.zero_le 1

/-- What a turn of the worker sends to the driver: only the first one opens a cursor. -/
def turnExecutions (job : BatchedJob) : WorkerThread → Nat
  | .opening => if job.poisoned then 0 else executions job.driver
  | _ => 0

/-- What an event of a batched stream sends to the driver. -/
def eventExecutions (job : BatchedJob) (event : BatchedStream.Event)
    (system : BatchedStream.System) : Nat :=
  match event with
  | .turn => turnExecutions job system.thread
  | _ => 0

/-- What a whole run sends; an event that cannot happen is passed over. -/
def batchedExecutions (job : BatchedJob) : List BatchedStream.Event → BatchedStream.System → Nat
  | [], _ => 0
  | event :: events, system =>
    match BatchedStream.step job event system with
    | none => batchedExecutions job events system
    | some (next, _) =>
      eventExecutions job event system + batchedExecutions job events next

/-- A thread that has left its first turn behind never comes back to it. -/
theorem turn_ne_opening (job : BatchedJob) (requested : Bool) (thread : WorkerThread) :
    (job.turn requested thread).2 ≠ .opening := by
  cases thread with
  | opening =>
      rw [BatchedJob.turn]
      split_ifs
      · rintro ⟨⟩
      · split
        · rintro ⟨⟩
        · rintro ⟨⟩
        · rintro ⟨⟩
  | reading columns rows firstBatch =>
      rw [BatchedJob.turn]
      split_ifs
      · rintro ⟨⟩
      · split
        · rintro ⟨⟩
        · rintro ⟨⟩
        · rintro ⟨⟩
  | returned exit asked => rintro ⟨⟩

/-- A step keeps the thread where it is, or is a turn of it. -/
theorem step_thread {job : BatchedJob} {event : BatchedStream.Event}
    {system next : BatchedStream.System} {output : LiveStream.Output}
    (stepped : BatchedStream.step job event system = some (next, output)) :
    event ≠ .turn ∧ next.thread = system.thread ∨ event = .turn ∧ next.thread ≠ .opening := by
  cases event with
  | turn =>
      refine .inr ⟨rfl, ?_⟩
      unfold BatchedStream.step at stepped
      dsimp only at stepped
      split at stepped
      · cases stepped
      · cases stepped
      · cases stepped
        exact turn_ne_opening job _ _
  | requestCancel =>
      cases stepped
      exact .inl ⟨by rintro ⟨⟩, rfl⟩
  | stream event =>
      refine .inl ⟨by rintro ⟨⟩, ?_⟩
      unfold BatchedStream.step at stepped
      dsimp only at stepped
      split at stepped
      · next same => cases same
      · next same => cases same
      · split at stepped
        · obtain ⟨_, -, stepped⟩ := Option.map_eq_some_iff.mp stepped
          cases stepped
          rfl
        · cases stepped
      · obtain ⟨_, -, stepped⟩ := Option.map_eq_some_iff.mp stepped
        cases stepped
        rfl

theorem batchedExecutions_of_opened (job : BatchedJob) (events : List BatchedStream.Event)
    {system : BatchedStream.System} (opened : system.thread ≠ .opening) :
    batchedExecutions job events system = 0 := by
  induction events generalizing system with
  | nil => rfl
  | cons event events ih =>
      rw [batchedExecutions]
      split
      · exact ih opened
      · next next output stepped =>
          have nothing : eventExecutions job event system = 0 := by
            cases event with
            | turn =>
                rw [eventExecutions]
                cases thread : system.thread with
                | opening => cases opened thread
                | reading => rfl
                | returned => rfl
            | requestCancel => rfl
            | stream event => rfl
          rw [nothing, Nat.zero_add]
          rcases step_thread stepped with ⟨-, same⟩ | ⟨-, moved⟩
          · exact ih (same ▸ opened)
          · exact ih moved

/-- However a batched stream is driven, it executes its statement at most once. -/
theorem batchedExecutions_le_one (job : BatchedJob) (events : List BatchedStream.Event)
    (system : BatchedStream.System) : batchedExecutions job events system ≤ 1 := by
  induction events generalizing system with
  | nil => exact Nat.zero_le 1
  | cons event events ih =>
      rw [batchedExecutions]
      split
      · exact ih system
      · next next output stepped =>
          rcases step_thread stepped with ⟨other, -⟩ | ⟨rfl, moved⟩
          · have nothing : eventExecutions job event system = 0 := by
              cases event with
              | turn => cases other rfl
              | requestCancel => rfl
              | stream event => rfl
            rw [nothing, Nat.zero_add]
            exact ih next
          · rw [batchedExecutions_of_opened job events moved, Nat.add_zero, eventExecutions]
            cases system.thread with
            | opening =>
                rw [turnExecutions]
                split_ifs
                · exact Nat.zero_le 1
                · exact executions_le_one job.driver
            | reading => exact Nat.zero_le 1
            | returned => exact Nat.zero_le 1

/-! ## One run of a query -/

/-- What the two streams of a run do in the native library, when they come that far: the batched
one with what happens on it, and the driver of the other one. -/
structure NativeStreams where
  batched : Option (BatchedJob × List BatchedStream.Event)
  whole : Option Driver

namespace NativeStreams

/-- What the driver is sent when a stream is started. -/
def sent (streams : NativeStreams) : QueryStream → Nat
  | .batched =>
    match streams.batched with
    | none => 0
    | some (job, events) => batchedExecutions job events (BatchedStream.start .batched (64 * 1024))
  | .whole =>
    match streams.whole with
    | none => 0
    | some driver => executions driver

/-- What it is sent by all streams that were started. -/
def sentBy (streams : NativeStreams) (started : List QueryStream) : Nat :=
  (started.map streams.sent).sum

theorem sent_le_one (streams : NativeStreams) (stream : QueryStream) : streams.sent stream ≤ 1 := by
  cases stream with
  | batched =>
      rw [sent]
      split
      · exact Nat.zero_le 1
      · exact batchedExecutions_le_one _ _ _
  | whole =>
      rw [sent]
      split
      · exact Nat.zero_le 1
      · exact executions_le_one _

end NativeStreams

section Runs

variable (backend : Backend) (library : DecompressLibrary) (maxBufferBytes : Option Int)

/-- Sent twice is sent by both streams, the first of which threw before its first message. -/
structure SentOnce (turn : StreamTurn) (streams : NativeStreams) (sent : Nat) : Prop where
  at_most_two : sent ≤ 2
  twice : sent = 2 →
    (streamQueryBatched backend library maxBufferBytes turn.batched).fallsBack = true ∧
      streams.sent .batched = 1 ∧ streams.sent .whole = 1

variable {backend library maxBufferBytes}

theorem sentOnce_zero (turn : StreamTurn) (streams : NativeStreams) :
    SentOnce backend library maxBufferBytes turn streams 0 :=
  ⟨Nat.zero_le 2, by rintro ⟨⟩⟩

/-- The second stream is started only when the first one fell back. -/
theorem started_streams (turn : StreamTurn) :
    (streamNativeQueryWithFallback backend library maxBufferBytes turn.native).2.started =
      if (streamQueryBatched backend library maxBufferBytes turn.batched).fallsBack then
        [.batched, .whole]
      else [.batched] := by
  rw [streamNativeQueryWithFallback, StreamingNative.startBatched, StreamTurn.native]
  dsimp only
  split_ifs with fell
  · rfl
  · rfl

theorem sentOnce_streams (turn : StreamTurn) (streams : NativeStreams) :
    SentOnce backend library maxBufferBytes turn streams (streams.sentBy
      (streamNativeQueryWithFallback backend library maxBufferBytes turn.native).2.started) := by
  have first := streams.sent_le_one .batched
  have second := streams.sent_le_one .whole
  rw [started_streams]
  split_ifs with fell
  · have both : streams.sentBy [.batched, .whole] =
        streams.sent .batched + streams.sent .whole := by simp [NativeStreams.sentBy]
    rw [both]
    exact ⟨by omega, fun twice => ⟨fell, by omega, by omega⟩⟩
  · have single : streams.sentBy [.batched] = streams.sent .batched := by
      simp [NativeStreams.sentBy]
    rw [single]
    exact ⟨by omega, fun twice => by omega⟩

end Runs

/-! ## Whole calls -/

section Calls

variable {α : Type} {connectionId : String} {turns : Nat → ReconnectTurn} {world : World}

/-- What all runs of a call send. -/
def callSent (streams : Nat → NativeStreams) (call : StreamedCall) : Nat :=
  (call.started.mapIdx fun k started => (streams k).sentBy started).sum

/-- The connection does not reconnect by itself. -/
def Manual (connectionId : String) (world : World) : Prop :=
  ∀ options, world.optionsOf connectionId = some options →
    options.autoReconnectOnConnectionLost = false

theorem Manual.reconnectSettings (manual : Manual connectionId world) :
    world.repository.reconnectSettings connectionId = none := by
  cases settings : world.repository.reconnectSettings connectionId with
  | none => rfl
  | some found =>
      obtain ⟨options, connectionString⟩ := found
      have off := manual options (optionsOf_of_settings settings)
      rw [Repository.reconnectSettings] at settings
      split at settings
      · split_ifs at settings with asked
        cases settings
        rw [off] at asked
        cases asked.1
      · cases settings

/-- Without reconnects a method runs at most once. -/
theorem Manual.runs_queryMethod (manual : Manual connectionId world)
    (operation : Nat → Option ConnectionOptions → Nat → Completion (Result α)) :
    (queryMethod turns connectionId operation world).runs =
      (world.repository.connectionIds.lookup connectionId).toList.length := by
  rw [queryMethod]
  cases world.repository.connectionIds.lookup connectionId with
  | none => rfl
  | some nativeId =>
      dsimp only
      rw [withReconnect, manual.reconnectSettings]
      dsimp only
      split
      · rfl
      · split_ifs
        · rfl
        · rfl

/-- Without reconnects `executeQuery` starts the streams of its first run, if there is one. -/
theorem Manual.started_executeQuery (manual : Manual connectionId world) (backend : Backend)
    (library : DecompressLibrary) (turns : Nat → ReconnectTurn) (runs : Nat → StreamTurn) :
    (executeQuery library connectionId turns backend runs world).started =
      if (world.repository.connectionIds.lookup connectionId).isSome then
        [(streamNativeQueryWithFallback backend library (resultLimit (world.optionsOf connectionId))
          (runs 0).native).2.started]
      else [] := by
  rw [executeQuery]
  dsimp only
  rw [manual.runs_queryMethod]
  cases world.repository.connectionIds.lookup connectionId with
  | none => rfl
  | some nativeId => rfl

/-- On a known connection `streamQuery` starts the streams, however it ends. -/
theorem started_streamQuery (backend : Backend) (library : DecompressLibrary)
    (connectionId : String) (turn : StreamTurn) (seen : Nat) (world : World) :
    (Repository.streamQuery backend library connectionId turn seen world).started =
      if (world.repository.connectionIds.lookup connectionId).isSome then
        (streamNativeQueryWithFallback backend library (resultLimit (world.optionsOf connectionId))
          turn.native).2.started
      else [] := by
  rw [Repository.streamQuery]
  cases world.repository.connectionIds.lookup connectionId with
  | none => rfl
  | some nativeId =>
      rw [if_pos (show (some nativeId).isSome = true from rfl)]
      dsimp only
      split
      · rfl
      · split
        · rfl
        · rfl
        · split
          · rfl
          · rfl

end Calls

/-- On a connection that does not reconnect, `executeQuery` and `streamQuery` send a statement
at most once, except that one which the batched stream sent before it threw an exception, and
before its first message, is sent a second time by the other stream. -/
theorem queries_sentOnce (backend : Backend) (library : DecompressLibrary) (connectionId : String)
    (turns : Nat → ReconnectTurn) (runs : Nat → StreamTurn) (streams : Nat → NativeStreams)
    (world : World) (manual : Manual connectionId world) :
    SentOnce backend library (resultLimit (world.optionsOf connectionId)) (runs 0) (streams 0)
        (callSent streams (executeQuery library connectionId turns backend runs world)) ∧
      ∀ turn native seen, SentOnce backend library (resultLimit (world.optionsOf connectionId)) turn
        native (native.sentBy
          (Repository.streamQuery backend library connectionId turn seen world).started) := by
  constructor
  · rw [callSent, manual.started_executeQuery]
    split_ifs
    · rw [List.mapIdx_singleton, List.sum_singleton]
      exact sentOnce_streams _ _
    · exact sentOnce_zero _ _
  · intro turn native seen
    rw [started_streamQuery]
    split_ifs
    · exact sentOnce_streams _ _
    · exact sentOnce_zero _ _

/-- The statement is executed and its first fetch fails. -/
def deadlocked : Driver where
  prepared := .ok ()
  executed := .ok ()
  first :=
    { numResultCols := .ok 1, rowCount := .ok (-1), colName := fun _ => .ok "id"
      colDataType := fun _ => .ok .integer, rows := []
      fetched := .error (.odbcApi "Transaction was deadlocked") }
  more := []
  ending := .noData

/-- The first stream opens and its first fetch is refused; the second one reads everything first
and is refused at its start. -/
def refusedFetch : StreamTurn where
  batched := ⟨.ok 1, .refused none, .ok "Transaction was deadlocked", .ok true⟩
  whole := ⟨.ok 0, .refused none, .ok "Transaction was deadlocked", .ok true⟩
  errors := ⟨.ok none, .ok ""⟩

def retried : NativeStreams where
  batched := some (⟨false, deadlocked, 1000⟩, [.turn, .turn])
  whole := some deadlocked

theorem manual_plainWorld : Manual "1" plainWorld := by
  rintro options ⟨⟩

/-- The statement was executed, its first fetch failed, and it is executed again. -/
theorem statement_sent_twice :
    ¬ callSent (fun _ => retried) (executeQuery noDecompression "1" nextIdentifier .sync
      (fun _ => refusedFetch) plainWorld) ≤ 1 := by
  rw [callSent, manual_plainWorld.started_executeQuery]
  decide

theorem queries_sentOnce_retried :
    Manual "1" plainWorld ∧
      SentOnce .sync noDecompression (resultLimit (plainWorld.optionsOf "1")) refusedFetch retried
        (callSent (fun _ => retried) (executeQuery noDecompression "1" nextIdentifier .sync
          (fun _ => refusedFetch) plainWorld)) :=
  ⟨manual_plainWorld, (queries_sentOnce .sync noDecompression "1" nextIdentifier
    (fun _ => refusedFetch) (fun _ => retried) plainWorld manual_plainWorld).1⟩

end OdbcFast.Verification
