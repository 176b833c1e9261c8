import OdbcFast.Dart.WorkerIsolate
import OdbcFast.Verification.RequestCorrelation

/-!
# Failures that a worker answers

For all but six types of request, the answer to a handling that throws is read as a
failure. `setLogLevel` does not look at its answer; zero is the success of
`clearAllStatements` and the pending status of both polls, so that a loop that polls goes
on; what should be reported as a structured error is read as none, and a failed detection
as an unknown driver. The notice of a worker without a library names the request zero,
which only the first connection ever asks.
-/

namespace OdbcFast.Verification

open Wire Dart AsyncConnection

/-- Requests whose method returns an identifier, which is zero on failure. -/
def returnsId : RequestType → Bool
  | .beginTransaction | .prepare | .poolCreate | .poolGetConnection | .streamStart
  | .streamStartBatched | .streamStartAsync | .streamMultiStartBatched | .streamMultiStartAsync
  | .executeAsyncStart => true
  | _ => false

def isPoll (type : RequestType) : Bool := type = .asyncPoll || type = .streamPollAsync

/-- What a method returns is a failure by the convention of that method. `error` is the text
that the worker has for it. -/
def ReturnsFailure (type : RequestType) (error : String) : ClientResult → Prop
  | .void => False
  | .bool value => value = false
  | .int value =>
    if returnsId type then value = 0
    else if isPoll type then value = -1
    else if type = .clearAllStatements then value ≠ 0
    else value < 0
  | .data data => data = none
  | .text text => text = error
  | .optionalText text =>
    if type = .validateConnectionString then text ≠ none
    else if type = .detectDriver then False
    else text = none
  | .poolState state => state = none
  | .version version => version = none
  | .metrics metrics => metrics = none
  | .cacheMetrics metrics => metrics = none
  | .structuredError error => error ≠ none
  | .fetched success _ _ _ => success = false

/-- A method fails by throwing, or returns a failure. -/
def Fails (type : RequestType) (error : String) : Completion ClientResult → Prop
  | .error _ => True
  | .ok result => ReturnsFailure type error result

/-- The failure of a request reaches the caller of its method: the answer is for that request,
is of the class that the method waits for and read as a failure, and neither loop goes on
polling when it is the answer to every poll. -/
structure Reported (request : WorkerRequest) (error : String) (response : WorkerResponse) :
    Prop where
  addressed : response.requestId = request.requestId
  typed : response.body.type = request.type.expects
  fails : Fails request.type error (clientMethod request.type response)
  executeAsyncEnds : request.type = .asyncPoll →
    ∀ effectiveTimeout afterDeadline asyncGetResult, ∃ rounds,
      (executeAsyncLoop effectiveTimeout afterDeadline
        (fun _ => clientMethod request.type response) asyncGetResult rounds 0).isSome
  streamAsyncEnds : request.type = .streamPollAsync →
    ∃ rounds, (streamAsyncLoop (fun _ => clientMethod request.type response) rounds 0).isSome

/-- The types whose failures are not told from what is no failure. -/
def unreported : List RequestType :=
  [.setLogLevel, .clearAllStatements, .getStructuredError, .detectDriver, .asyncPoll,
    .streamPollAsync]

/-- The text that the answer carries. -/
def errorText (request : WorkerRequest) (exception stackTrace : String) : String :=
  if request.type = .connect then exception else exception ++ "\n" ++ stackTrace

variable {request : WorkerRequest} {exception stackTrace error : String} {type : RequestType}
  {id : Nat}

theorem type_errorBody (error : String) (type : RequestType) :
    (errorBody error type).type = type.expects := by
  cases type <;> rfl

theorem clientMethod_errorBody (error : String) (type : RequestType) (id : Nat) :
    clientMethod type ⟨id, errorBody error type⟩ = interpret type (errorBody error type) :=
  if_pos (type_errorBody error type)

/-- The answer to a connect has no stack trace, and is an error answer otherwise. -/
theorem answerToThrown_eq (request : WorkerRequest) (exception stackTrace : String) :
    answerToThrown request exception stackTrace =
      buildWorkerErrorResponse request (errorText request exception stackTrace) := by
  rw [answerToThrown, errorText]
  split
  · rename_i connects
    rw [buildWorkerErrorResponse, connects]
    rfl
  · rfl

theorem fails_errorBody (reported : type ∉ unreported) :
    Fails type error (interpret type (errorBody error type)) := by
  revert reported
  cases type <;> simp [unreported, errorBody, interpret, Fails, ReturnsFailure, returnsId, isPoll]

theorem not_fails_errorBody (member : type ∈ unreported) :
    ¬ Fails type error (interpret type (errorBody error type)) := by
  simp only [unreported, List.mem_cons, List.not_mem_nil, or_false] at member
  rcases member with rfl | rfl | rfl | rfl | rfl | rfl <;>
    simp [errorBody, interpret, Fails, ReturnsFailure, returnsId, isPoll]

theorem reported_iff :
    Reported request (errorText request exception stackTrace)
      (answerToThrown request exception stackTrace) ↔ request.type ∉ unreported := by
  rw [answerToThrown_eq, buildWorkerErrorResponse]
  constructor
  · intro reported member
    have fails := reported.fails
    rw [clientMethod_errorBody] at fails
    exact not_fails_errorBody member fails
  · intro told
    refine ⟨rfl, type_errorBody _ _, ?_, ?_, ?_⟩
    · rw [clientMethod_errorBody]
      exact fails_errorBody told
    · intro poll
      rw [poll] at told
      exact absurd (by decide) told
    · intro poll
      rw [poll] at told
      exact absurd (by decide) told

/-- An `initialize` that waits, on a port that is open, for the answer to its request. -/
def Waiting (connection : AsyncConnection) (port id : Nat) : Prop :=
  (∃ task : Nat, connection.tasks[task]? = some ⟨port, .awaiting id⟩) ∧ connection.table.Waits id ∧
    ∃ listener, connection.listeners[port]? = some listener ∧ listener.isClosed = false

/-- The notice of a worker that could not load the library completes this request. -/
def NoticeCompletes (connection : AsyncConnection) (port id : Nat) : Prop :=
  .settled id (.ok libraryNotLoaded) ∈
    settlements (connection.onMessage port (.response libraryNotLoaded)).2

theorem noticeCompletes_iff {connection : AsyncConnection} {port : Nat}
    (sound : connection.table.Sound) (waiting : Waiting connection port id) :
    NoticeCompletes connection port id ↔ id = 0 := by
  obtain ⟨-, waits, listener, there, hears⟩ := waiting
  have received : connection.onMessage port (.response libraryNotLoaded) =
      connection.handleResponse libraryNotLoaded := by
    simp only [onMessage, there, hears, Bool.false_eq_true, if_false]
  rw [NoticeCompletes, received]
  obtain ⟨done, -, told, only, answered⟩ :=
    Correlation.answer_spec sound libraryNotLoaded.requestId (.ok libraryNotLoaded)
  have settled : settlements (connection.handleResponse libraryNotLoaded).2 =
      done.map Settlement.of := by
    rw [← told]
    exact settlements_map _
  rw [settled]
  constructor
  · intro member
    obtain ⟨entry, ended, same⟩ := List.mem_map.mp member
    cases only entry ended
    cases same
    rfl
  · rintro rfl
    exact List.mem_map.mpr ⟨_, answered waits, rfl⟩

/-- The failure of a request is told exactly when its type is none of the six, and a worker
without the library ends the `initialize` that waits for it exactly when that one asked first
of all: no request had a number before. -/
theorem failures_told_iff (request : WorkerRequest) (exception stackTrace : String)
    {requestTimeout : Option Int} {autoRecover : Bool} {events : List Event} {log : List Entry}
    {connection : AsyncConnection} {port id : Nat}
    (ran : run step events (create requestTimeout autoRecover) = some (connection, log))
    (waiting : Waiting connection port id) :
    (Reported request (errorText request exception stackTrace)
        (answerToThrown request exception stackTrace) ↔ request.type ∉ unreported) ∧
      (NoticeCompletes connection port id ↔ id = 0) :=
  ⟨reported_iff, noticeCompletes_iff (followed_of_run ran).1.sound waiting⟩

/-- The first `initialize` of a connection. -/
def firstStart : List Event := [.initializeWorker, .spawned 0, .message 0 (.sendPort 7)]

theorem waiting_of_firstStart : ∃ connection log,
    run step firstStart (create none true) = some (connection, log) ∧ Waiting connection 0 0 :=
  ⟨_, _, rfl, ⟨0, rfl⟩, ⟨_, rfl, rfl⟩, _, rfl, rfl⟩

theorem failures_told_iff_first :
    ∃ connection log, run step firstStart (create none true) = some (connection, log) ∧
      (Reported ⟨4, .poolCreate⟩ "boom\n#0" (answerToThrown ⟨4, .poolCreate⟩ "boom" "#0") ↔
        RequestType.poolCreate ∉ unreported) ∧
      (NoticeCompletes connection 0 0 ↔ 0 = 0) := by
  obtain ⟨connection, log, ran, waiting⟩ := waiting_of_firstStart
  exact ⟨connection, log, ran, failures_told_iff ⟨4, .poolCreate⟩ "boom" "#0" ran waiting⟩

/-- A start that succeeds, and a recovery whose worker is heard of. -/
def recoveredStart : List Event :=
  firstStart ++ [.message 0 (.response ⟨0, .initialized true⟩), .recoverWorker, .spawned 1,
    .message 1 (.sendPort 8)]

theorem waiting_of_recoveredStart : ∃ connection log,
    run step recoveredStart (create none true) = some (connection, log) ∧ Waiting connection 1 1 :=
  ⟨_, _, rfl, ⟨1, rfl⟩, ⟨_, rfl, rfl⟩, _, rfl, rfl⟩

/-- A poll that throws is pending, however often it is asked again, and the `initialize` of a
recovery does not hear that its worker cannot load the library. -/
theorem failed_poll_stays_pending :
    ¬ Reported ⟨5, .streamPollAsync⟩ "boom\n#0" (answerToThrown ⟨5, .streamPollAsync⟩ "boom" "#0") ∧
      (∀ rounds, streamAsyncLoop (fun _ => clientMethod .streamPollAsync
        (answerToThrown ⟨5, .streamPollAsync⟩ "boom" "#0")) rounds 0 = none) ∧
      ∃ connection log, run step recoveredStart (create none true) = some (connection, log) ∧
        Waiting connection 1 1 ∧ ¬ NoticeCompletes connection 1 1 := by
  refine ⟨?_, fun rounds => ?_, ?_⟩
  · intro reported
    exact @reported_iff ⟨5, .streamPollAsync⟩ "boom" "#0" |>.mp reported (by decide)
  · generalize 0 = round
    induction rounds generalizing round with
    | zero => rfl
    | succ rounds ih => exact ih (round + 1)
  · obtain ⟨connection, log, ran, waiting⟩ := waiting_of_recoveredStart
    refine ⟨connection, log, ran, waiting, fun completes => ?_⟩
    cases (noticeCompletes_iff (followed_of_run ran).1.sound waiting).mp completes

end OdbcFast.Verification
