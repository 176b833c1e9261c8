import OdbcFast.Dart.Queries
import OdbcFast.Verification.EngineStreams
import OdbcFast.Verification.Reconnect

/-!
# What the query methods report

A method is honest about a native execution when it returns a success only for an
execution that succeeded, with what that produced, and a failure for every one that
failed. A call is judged by the last native execution it made, and what that produced by
what the engine has written for it.

The methods with one result are honest as long as the native library answers what went
wrong and the result has nothing that the package reads wrongly. The methods with several
results are not: to them a native failure looks like an empty batch. Where a method
reconnects, a native failure that was reported as a lost connection is also lost in the
cast behind a failed reconnect.
-/

namespace OdbcFast.Verification

open Wire Dart

variable {α : Type}

/-- What is known of one run from what it met. -/
structure RunFacts (α : Type) where
  /-- The native execution succeeded and produced this. -/
  produced : α → Prop
  /-- The native execution failed, or its result is above the limit. -/
  failed : Prop
  /-- A failure gets through to the caller. -/
  reported : Prop
  /-- What is reported asks for a new connection. -/
  lost : Prop

structure Honest (facts : RunFacts α) (completion : Completion (Result α)) : Prop where
  success : ∀ value, completion = .ok (.success value) → facts.produced value
  failure : facts.failed → ∃ error, completion = .ok (.failure error)

/-- How often the operation ran again. -/
def reruns (attempts : List (Attempt α)) : Nat :=
  attempts.countP fun attempt => attempt.reran.isSome

/-- The call is honest about its last run; without one it reports a failure. -/
def HonestCall (facts : Nat → RunFacts α) (call : Call α) : Prop :=
  match call.first with
  | none => ∃ error, call.completion = .ok (.failure error)
  | some _ => Honest (facts (reruns call.attempts)) call.completion

/-- A run is reported, and when a failed one was reported as a lost connection while attempts
are left, the reconnect succeeds; behind a reconnect the next run does as much. -/
def Recoverable (turns : Nat → ReconnectTurn) (facts : Nat → RunFacts α) : Nat → Nat → Nat → Prop
  | _, 0, k => (facts k).reported
  | nativeId, remaining + 1, k => (facts k).reported ∧ ((facts k).lost →
      ((facts k).failed → ∃ connId, Reopens nativeId connId (turns k)) ∧
      ∀ connId, Reopens nativeId connId (turns k) →
        Recoverable turns facts connId remaining (k + 1))

/-- The facts tell how a run is judged and whether it asks for a new connection. -/
structure Describes (facts : RunFacts α) (completion : Completion (Result α)) : Prop where
  honest_iff : Honest facts completion ↔ facts.reported
  lost_iff : (∃ result, completion = .ok result ∧ result.lost = true) ↔ facts.lost

theorem honest_failure {facts : RunFacts α} {error : OdbcError} :
    Honest facts (.ok (.failure error)) := ⟨by rintro _ ⟨⟩, fun _ => ⟨error, rfl⟩⟩

theorem honest_thrown_iff {facts : RunFacts α} {thrown : Thrown} :
    Honest facts (.error thrown) ↔ ¬ facts.failed := by
  constructor
  · intro honest failed
    obtain ⟨error, returned⟩ := honest.failure failed
    cases returned
  · intro succeeded
    exact ⟨by rintro _ ⟨⟩, fun failed => absurd failed succeeded⟩

theorem failure_of_lost {result : Result α} (lost : result.lost = true) :
    ∃ error, result = .failure error := by
  cases result with
  | success value => cases lost
  | failure error => exact ⟨error, rfl⟩

/-! ## The loop -/

section Loop

variable {turns : Nat → ReconnectTurn} {facts : Nat → RunFacts α} {operation : Operation α}
  {connectionId : String} {options : ConnectionOptions} {world : World}

theorem recoverable_of_not_lost {nativeId remaining k : Nat} (kept : ¬ (facts k).lost) :
    Recoverable turns facts nativeId remaining k ↔ (facts k).reported := by
  cases remaining with
  | zero => rfl
  | succ remaining =>
      refine ⟨And.left, fun reported => ⟨reported, ?_⟩⟩
      intro lost
      cases kept lost

/-- Behind a run that lost its connection, the call is judged by the runs that follow; only
when a reconnect fails it is judged by this one. -/
theorem reconnectLoop_honest_iff {remaining k : Nat} {result : Result α} {nativeId : Nat}
    (connectionString : String)
    (described : ∀ k, Describes (facts k) (operation.run (some options) k))
    (mapped : world.repository.connectionIds.lookup connectionId = some nativeId)
    (ran : operation.run (some options) k = .ok result) (lost : result.lost = true) :
    Honest (facts (k + reruns (reconnectLoop turns connectionId connectionString options operation
        remaining k result world).attempts))
      (reconnectLoop turns connectionId connectionString options operation remaining k result
        world).completion ↔
      Recoverable turns facts nativeId remaining k := by
  induction remaining generalizing k result world nativeId with
  | zero =>
      rw [reconnectLoop, Recoverable, ← (described k).honest_iff, ran]
      rfl
  | succ remaining ih =>
      obtain ⟨error, rfl⟩ := failure_of_lost lost
      have asksAgain : (facts k).lost := (described k).lost_iff.mp ⟨_, ran, lost⟩
      have reported : (facts k).reported := by
        rw [← (described k).honest_iff, ran]
        exact honest_failure
      have unfolded : Recoverable turns facts nativeId (remaining + 1) k ↔
          ((facts k).failed → ∃ connId, Reopens nativeId connId (turns k)) ∧
          ∀ connId, Reopens nativeId connId (turns k) →
            Recoverable turns facts connId remaining (k + 1) := by
        rw [Recoverable]
        exact ⟨fun recoverable => recoverable.2 asksAgain, fun rest => ⟨reported, fun _ => rest⟩⟩
      have refused (failed : (world.reconnect (turns k) connectionId connectionString options).1 ≠
          .ok (.success ())) (connId : Nat) : ¬ Reopens nativeId connId (turns k) :=
        fun reopens => failed (reconnect_of_reopens mapped reopens)
      rw [unfolded, reconnectLoop]
      generalize tried : world.reconnect (turns k) connectionId connectionString options = outcome
        at refused
      obtain ⟨reconnected, created, next⟩ := outcome
      have stopped (thrown : Thrown) (refused : ∀ connId, ¬ Reopens nativeId connId (turns k)) :
          Honest (facts k) (.error thrown) ↔
            ((facts k).failed → ∃ connId, Reopens nativeId connId (turns k)) ∧
            ∀ connId, Reopens nativeId connId (turns k) →
              Recoverable turns facts connId remaining (k + 1) := by
        rw [honest_thrown_iff]
        constructor
        · intro succeeded
          exact ⟨fun failed => absurd failed succeeded,
            fun connId reopens => absurd reopens (refused connId)⟩
        · rintro ⟨reopened, -⟩ failed
          obtain ⟨connId, reopens⟩ := reopened failed
          exact refused connId reopens
      cases reconnected with
      | error thrown => exact stopped thrown (refused (by rintro ⟨⟩))
      | ok reopened =>
          cases reopened with
          | failure error => exact stopped (.fault .typeError) (refused (by rintro ⟨⟩))
          | success opened =>
              obtain ⟨connId, rfl, kept⟩ := reconnect_eq_success tried
              simp only [kept.reopens_iff mapped, exists_eq', implies_true, true_and, forall_eq']
              rw [kept.options_kept]
              have judged := (described (k + 1)).honest_iff
              have again := (described (k + 1)).lost_iff
              cases ran' : operation.run (some options) (k + 1) with
              | error thrown =>
                  rw [ran'] at judged again
                  have settled : ¬ (facts (k + 1)).lost := by
                    rw [← again]
                    rintro ⟨_, ⟨⟩, -⟩
                  rw [recoverable_of_not_lost settled, ← judged]
                  rfl
              | ok result' =>
                  dsimp only
                  split_ifs with lost'
                  · rw [← ih kept.mapped ran' lost']
                    have counted : reruns (⟨.ok (.success ()), some connId,
                        some (operation.nativeId, .ok result')⟩ ::
                          (reconnectLoop turns connectionId connectionString options operation remaining
                            (k + 1) result' next).attempts) =
                        reruns (reconnectLoop turns connectionId connectionString options operation
                          remaining (k + 1) result' next).attempts + 1 :=
                      List.countP_cons_of_pos rfl
                    rw [counted, Nat.add_right_comm]
                    rfl
                  · rw [ran'] at judged again
                    have settled : ¬ (facts (k + 1)).lost := by
                      rw [← again]
                      rintro ⟨_, ⟨⟩, lost⟩
                      exact lost' lost
                    rw [recoverable_of_not_lost settled, ← judged]
                    rfl

theorem withReconnect_honest_iff
    (described : ∀ k, Describes (facts k) (operation.run (world.optionsOf connectionId) k))
    (mapped : world.repository.connectionIds.lookup connectionId = some operation.nativeId) :
    HonestCall facts (withReconnect turns connectionId operation world) ↔
      Recoverable turns facts operation.nativeId (world.repository.maxAttempts connectionId) 0 := by
  have judged := (described 0).honest_iff
  have again := (described 0).lost_iff
  rw [withReconnect]
  cases ran : operation.run (world.optionsOf connectionId) 0 with
  | error thrown =>
      rw [ran] at judged again
      have settled : ¬ (facts 0).lost := by
        rw [← again]
        rintro ⟨_, ⟨⟩, -⟩
      rw [recoverable_of_not_lost settled, ← judged]
      rfl
  | ok result =>
      rw [ran] at judged again
      dsimp only
      split_ifs with lost
      · rw [Repository.maxAttempts]
        cases settings : world.repository.reconnectSettings connectionId with
        | none =>
            rw [Recoverable, ← judged]
            rfl
        | some found =>
            obtain ⟨options, connectionString⟩ := found
            rw [optionsOf_of_settings settings] at ran described
            refine Iff.trans ?_
              (reconnectLoop_honest_iff connectionString described mapped ran lost)
            rw [Nat.zero_add]
            rfl
      · have settled : ¬ (facts 0).lost := by
          rw [← again]
          rintro ⟨_, ⟨⟩, lost'⟩
          exact lost lost'
        rw [recoverable_of_not_lost settled, ← judged]
        rfl

theorem queryMethod_honest_iff
    {operation : Nat → Option ConnectionOptions → Nat → Completion (Result α)}
    (described : ∀ nativeId k,
      Describes (facts k) (operation nativeId (world.optionsOf connectionId) k)) :
    HonestCall facts (queryMethod turns connectionId operation world) ↔
      ∀ nativeId, world.repository.connectionIds.lookup connectionId = some nativeId →
        Recoverable turns facts nativeId (world.repository.maxAttempts connectionId) 0 := by
  rw [queryMethod]
  cases mapped : world.repository.connectionIds.lookup connectionId with
  | none => exact iff_of_true ⟨_, rfl⟩ (by rintro _ ⟨⟩)
  | some nativeId =>
      simp only [Option.some.injEq, forall_eq']
      exact withReconnect_honest_iff (described nativeId) mapped

end Loop

/-! ## What the native library says went wrong -/

/-- The questions that are asked are answered. -/
def Answered (errors : NativeErrors) : Prop :=
  (∃ structured, errors.getStructuredError = .ok (some structured)) ∨
    errors.getStructuredError = .ok none ∧ ∃ message, errors.getError = .ok message

/-- A question that is asked throws an exception. -/
def Interrupted (errors : NativeErrors) : Prop :=
  (∃ exception, errors.getStructuredError = .error (.exception exception)) ∨
    errors.getStructuredError = .ok none ∧
      ∃ exception, errors.getError = .error (.exception exception)

/-- The answer is an SQLSTATE of class `08`. -/
def LinkLost (errors : NativeErrors) : Prop :=
  ∃ structured, errors.getStructuredError = .ok (some structured) ∧
    "08".toList.isPrefixOf structured.sqlStateString.toList = true

theorem Answered.not_interrupted {errors : NativeErrors} (answered : Answered errors) :
    ¬ Interrupted errors := by
  rintro (⟨exception, thrown⟩ | ⟨unstructured, exception, thrown⟩)
  · obtain ⟨structured, told⟩ | ⟨unstructured, -⟩ := answered
    · cases thrown.symm.trans told
    · cases thrown.symm.trans unstructured
  · obtain ⟨structured, told⟩ | ⟨-, message, told⟩ := answered
    · cases unstructured.symm.trans told
    · cases thrown.symm.trans told

theorem LinkLost.answered {errors : NativeErrors} (lost : LinkLost errors) : Answered errors := by
  obtain ⟨structured, told, -⟩ := lost
  exact .inl ⟨structured, told⟩

/-- A query's failure asks for a new connection by its SQLSTATE. -/
theorem lost_query_iff {error : OdbcError} (query : error.errorClass = .query) :
    (Result.failure error : Result α).lost = true ↔ error.isRetryable = true := by
  rw [Result.lost, OdbcError.category, query]
  simp only [OdbcError.isConnectionError, query]
  cases error.isRetryable with
  | true => exact iff_of_true rfl rfl
  | false => exact iff_of_false (by decide) (by decide)

/-- Both places that ask make a failure of the answer. -/
def askNative (told : StructuredError → OdbcError) (untold : String → OdbcError)
    (errors : NativeErrors) : Completion (Result α) := do
  match ← errors.getStructuredError with
  | some structured => .ok (.failure (told structured))
  | none =>
    let message ← errors.getError
    .ok (.failure (untold message))

/-- What comes of it is decided by how the questions are answered. -/
inductive Conversion (errors : NativeErrors) (completion : Completion (Result α)) : Prop where
  | answered (answered : Answered errors) (error : OdbcError)
      (completed : completion = .ok (.failure error))
      (lost_iff : (Result.failure error : Result α).lost = true ↔ LinkLost errors)
  | interrupted (interrupted : Interrupted errors) (exception : DartException)
      (completed : completion = .error (.exception exception))
  | broken (unanswered : ¬ Answered errors) (steady : ¬ Interrupted errors) (fault : DartFault)
      (completed : completion = .error (.fault fault))

section Asking

variable {told : StructuredError → OdbcError} {untold : String → OdbcError} {errors : NativeErrors}

theorem conversion_of_thrown {thrown : Thrown}
    (asked : errors.getStructuredError = .error thrown ∨
      errors.getStructuredError = .ok none ∧ errors.getError = .error thrown) :
    Conversion errors (askNative (α := α) told untold errors) := by
  have completed : askNative (α := α) told untold errors = .error thrown := by
    rcases asked with first | ⟨first, second⟩
    · rw [askNative, first]
      rfl
    · rw [askNative, first, second]
      rfl
  cases thrown with
  | exception exception =>
      have interrupted : Interrupted errors := by
        rcases asked with first | ⟨first, second⟩
        · exact .inl ⟨exception, first⟩
        · exact .inr ⟨first, exception, second⟩
      exact .interrupted interrupted exception completed
  | fault fault =>
      refine .broken ?_ ?_ fault completed
      · rintro (⟨structured, answer⟩ | ⟨answer, message, second⟩)
        · simp [answer] at asked
        · simp [answer, second] at asked
      · rintro (⟨exception, answer⟩ | ⟨answer, exception, second⟩)
        · simp [answer] at asked
        · simp [answer, second] at asked

theorem conversion_askNative
    (structured_query : ∀ structured, (told structured).errorClass = .query ∧
      (told structured).sqlState = some structured.sqlStateString)
    (plain_query : ∀ message, (untold message).errorClass = .query ∧
      (untold message).sqlState = none) :
    Conversion errors (askNative (α := α) told untold errors) := by
  cases first : errors.getStructuredError with
  | error thrown => exact conversion_of_thrown (.inl first)
  | ok structured =>
      cases structured with
      | some structured =>
          obtain ⟨query, sqlState⟩ := structured_query structured
          refine .answered (.inl ⟨structured, first⟩) (told structured)
            (by rw [askNative, first]; rfl) ?_
          rw [lost_query_iff query, OdbcError.isRetryable, sqlState]
          constructor
          · intro retryable
            exact ⟨structured, first, retryable⟩
          · rintro ⟨structured', answer, retryable⟩
            cases first.symm.trans answer
            exact retryable
      | none =>
          cases second : errors.getError with
          | error thrown => exact conversion_of_thrown (.inr ⟨first, second⟩)
          | ok message =>
              obtain ⟨query, sqlState⟩ := plain_query message
              refine .answered (.inr ⟨first, message, second⟩) (untold message)
                (by rw [askNative, first, second]; rfl) ?_
              rw [lost_query_iff query, OdbcError.isRetryable, sqlState]
              refine iff_of_false (by rintro ⟨⟩) ?_
              rintro ⟨structured, answer, -⟩
              cases first.symm.trans answer

end Asking

theorem conversion_convertNativeErrorToFailure (message : String) (errors : NativeErrors) :
    Conversion errors (convertNativeErrorToFailure (α := α) .query message errors) := by
  have asked : convertNativeErrorToFailure (α := α) .query message errors =
      askNative (fun structured =>
        { errorClass := .query, message := structured.message
          sqlState := some structured.sqlStateString
          nativeCode := some structured.nativeCode })
        (fun text => { errorClass := .query, message := if text ≠ "" then text else message })
        errors := rfl
  rw [asked]
  exact conversion_askNative (fun _ => ⟨rfl, rfl⟩) (fun _ => ⟨rfl, rfl⟩)

/-- The exception alone says what to report. -/
def Classified (exception : DartException) : Prop :=
  isStreamingTimeoutException exception = true ∨ isStreamingProtocolException exception = true ∨
    isStreamingInterruptionException exception = true

theorem streamingFailure_of_classified {exception : DartException} {errors : NativeErrors}
    (classified : Classified exception) :
    ∃ error, streamingFailureFromException (α := α) errors exception = .ok (.failure error) ∧
      (Result.failure error : Result α).lost = false := by
  rw [streamingFailureFromException]
  split_ifs with timeout protocol interruption
  · exact ⟨_, rfl, rfl⟩
  · exact ⟨_, rfl, rfl⟩
  · exact ⟨_, rfl, rfl⟩
  · rcases classified with is | is | is
    · cases timeout is
    · cases protocol is
    · cases interruption is

theorem conversion_streamingFailure {exception : DartException} {errors : NativeErrors}
    (unclassified : ¬ Classified exception) :
    Conversion errors (streamingFailureFromException (α := α) errors exception) := by
  simp only [Classified, not_or] at unclassified
  obtain ⟨timeout, protocol, interruption⟩ := unclassified
  have asked : streamingFailureFromException (α := α) errors exception =
      askNative (fun structured =>
        { errorClass := .query, message := "Streaming SQL error: " ++ structured.message
          sqlState := some structured.sqlStateString
          nativeCode := some structured.nativeCode })
        (fun text =>
          { errorClass := .query
            message := if text ≠ "" ∧ text ≠ "No error" then text else exception.text })
        errors := by
    rw [streamingFailureFromException, if_neg timeout, if_neg protocol, if_neg interruption]
    rfl
  rw [asked]
  exact conversion_askNative (fun _ => ⟨rfl, rfl⟩) (fun _ => ⟨rfl, rfl⟩)

/-! ## Single runs -/

/-- The completion is no success: a failure under `told`, one that asks for a new connection
under `lost`, and thrown otherwise. -/
structure Reports (told lost : Prop) (completion : Completion (Result α)) : Prop where
  ne_success : ∀ value, completion ≠ .ok (.success value)
  failure_iff : (∃ error, completion = .ok (.failure error)) ↔ told
  lost_iff : (∃ result, completion = .ok result ∧ result.lost = true) ↔ lost

theorem reports_thrown (thrown : Thrown) :
    Reports False False (.error thrown : Completion (Result α)) where
  ne_success := by rintro _ ⟨⟩
  failure_iff := by
    refine iff_of_false ?_ id
    rintro ⟨_, ⟨⟩⟩
  lost_iff := by
    refine iff_of_false ?_ id
    rintro ⟨_, ⟨⟩, -⟩

theorem reports_failure {told lost : Prop} {error : OdbcError} (answered : told)
    (lost_iff : (Result.failure error : Result α).lost = true ↔ lost) :
    Reports told lost (.ok (.failure error) : Completion (Result α)) where
  ne_success := by rintro _ ⟨⟩
  failure_iff := iff_of_true ⟨error, rfl⟩ answered
  lost_iff := by
    rw [← lost_iff]
    constructor
    · rintro ⟨_, ⟨⟩, lost⟩
      exact lost
    · intro lost
      exact ⟨_, rfl, lost⟩

theorem Reports.congr {told lost told' lost' : Prop} {completion : Completion (Result α)}
    (reports : Reports told lost completion) (same_told : told ↔ told') (same_lost : lost ↔ lost') :
    Reports told' lost' completion :=
  ⟨reports.ne_success, reports.failure_iff.trans same_told, reports.lost_iff.trans same_lost⟩

theorem Conversion.reports {errors : NativeErrors} {completion : Completion (Result α)}
    (conversion : Conversion errors completion) :
    Reports (Answered errors) (LinkLost errors) completion := by
  cases conversion with
  | answered answered error completed lost_iff =>
      rw [completed]
      exact reports_failure answered lost_iff
  | interrupted interrupted exception completed =>
      rw [completed]
      have unanswered : ¬ Answered errors := fun answered => answered.not_interrupted interrupted
      refine (reports_thrown _).congr (iff_of_false id unanswered) (iff_of_false id ?_)
      exact fun lost => unanswered lost.answered
  | broken unanswered _ fault completed =>
      rw [completed]
      refine (reports_thrown _).congr (iff_of_false id unanswered) (iff_of_false id ?_)
      exact fun lost => unanswered lost.answered

/-- A conversion inside a clause that converts once more. -/
theorem Conversion.reports_again {errors again : NativeErrors} {completion : Completion (Result α)}
    {handler : DartException → Completion (Result α)} (conversion : Conversion errors completion)
    (handled : ∀ exception, Conversion again (handler exception)) :
    Reports (Answered errors ∨ Interrupted errors ∧ Answered again)
      (LinkLost errors ∨ Interrupted errors ∧ LinkLost again) (onException completion handler) := by
  cases conversion with
  | answered answered error completed lost_iff =>
      rw [completed]
      have steady := answered.not_interrupted
      refine reports_failure (.inl answered) (lost_iff.trans ?_)
      exact ⟨.inl, fun lost => lost.resolve_right fun both => steady both.1⟩
  | interrupted interrupted exception completed =>
      rw [completed]
      have unanswered : ¬ Answered errors := fun answered => answered.not_interrupted interrupted
      refine (handled exception).reports.congr ⟨fun answered => .inr ⟨interrupted, answered⟩, ?_⟩
        ⟨fun lost => .inr ⟨interrupted, lost⟩, ?_⟩
      · rintro (answered | ⟨-, answered⟩)
        · cases unanswered answered
        · exact answered
      · rintro (lost | ⟨-, lost⟩)
        · cases unanswered lost.answered
        · exact lost
  | broken unanswered steady fault completed =>
      rw [completed]
      refine (reports_thrown _).congr (iff_of_false id ?_) (iff_of_false id ?_)
      · rintro (answered | ⟨interrupted, -⟩)
        · exact unanswered answered
        · exact steady interrupted
      · rintro (lost | ⟨interrupted, -⟩)
        · exact unanswered lost.answered
        · exact steady interrupted

theorem Reports.describes {facts : RunFacts α} {told lost : Prop}
    {completion : Completion (Result α)} (reports : Reports told lost completion)
    (reported : facts.reported ↔ (facts.failed → told)) (lost_iff : facts.lost ↔ lost) :
    Describes facts completion where
  honest_iff := by
    rw [reported, ← reports.failure_iff]
    constructor
    · intro honest
      exact honest.failure
    · intro failure
      exact ⟨fun value succeeded => absurd succeeded (reports.ne_success value), failure⟩
  lost_iff := reports.lost_iff.trans lost_iff.symm

/-- A success is judged by whether its value was produced. -/
theorem describes_success {facts : RunFacts α} {value : α}
    (produced_iff : facts.produced value ↔ facts.reported) (succeeded : ¬ facts.failed)
    (kept : ¬ facts.lost) : Describes facts (.ok (.success value)) where
  honest_iff := by
    rw [← produced_iff]
    constructor
    · intro honest
      exact honest.success value rfl
    · rintro produced
      refine ⟨?_, fun failed => absurd failed succeeded⟩
      rintro _ ⟨⟩
      exact produced
  lost_iff := by
    refine iff_of_false ?_ kept
    rintro ⟨_, ⟨⟩, ⟨⟩⟩

/-- A run under a time limit. -/
def RunFacts.limited (expired : Bool) (facts : RunFacts α) : RunFacts α where
  produced := facts.produced
  failed := facts.failed
  reported := expired = true ∨ facts.reported
  lost := expired = false ∧ facts.lost

theorem Describes.withTimeout {facts : RunFacts α} {completion : Completion (Result α)}
    (described : Describes facts completion) (options : Option ConnectionOptions)
    (timedOut : Bool) :
    Describes (facts.limited (expires options timedOut))
      (Dart.withTimeout options timedOut completion) := by
  rw [Dart.withTimeout]
  cases expires options timedOut with
  | true =>
      refine ⟨iff_of_true honest_failure (.inl rfl), iff_of_false ?_ ?_⟩
      · rintro ⟨_, ⟨⟩, ⟨⟩⟩
      · rintro ⟨⟨⟩, -⟩
  | false =>
      have same : facts.reported ↔ (false = true ∨ facts.reported) := by simp
      refine ⟨Iff.trans ?_ (described.honest_iff.trans same), ?_⟩
      · exact ⟨fun honest => ⟨honest.success, honest.failure⟩,
          fun honest => ⟨honest.success, honest.failure⟩⟩
      · exact described.lost_iff.trans (by simp [RunFacts.limited])

/-! ## One native call -/

/-- A run whose native call hands out what the engine has written. -/
structure EngineTurn (Written : Bytes → Prop) extends CallTurn where
  written : ∀ native, reply = .answered native →
    ∀ size data, native size = .produced data → Written data

/-- Written for a call with one result. -/
def SingleWritten (data : Bytes) : Prop := ∃ answer : EngineAnswer, answer.WrittenAs data

/-- Written for a call with several results. -/
def BatchWritten (data : Bytes) : Prop := ∃ contents, BatchWrittenAs contents data

theorem written_of_delivers {Written : Bytes → Prop} {native : NativeCall} {maxSize : Option Int}
    {data : Bytes} (written : ∀ size data, native size = .produced data → Written data)
    (delivers : native.Delivers maxSize data) : Written data := by
  obtain ⟨doublings, -, called, -⟩ := delivers
  exact written _ data called

section Calls

variable (maxSize : Option Int)

/-- The call was made and brought nothing: it failed, or its result does not fit. -/
def CallFailed : Reply → Prop
  | .unsent _ => False
  | .lost native _ | .answered native => ∀ data, ¬ native.Delivers maxSize data

/-- What a run with one result is judged by: the engine's answer to the call, which the result has
to show, and what the native library tells of a failure. -/
def singleFacts (turn : CallTurn) : RunFacts QueryResult where
  produced value := ∃ native data, turn.reply = .answered native ∧ native.Delivers maxSize data ∧
    ∃ answer : EngineAnswer, answer.WrittenAs data ∧ answer.Shows value
  failed := CallFailed maxSize turn.reply
  reported :=
    match turn.reply with
    | .unsent _ => True
    | .lost _ _ => CallFailed maxSize turn.reply → Answered turn.errorsAgain
    | .answered native =>
      (CallFailed maxSize turn.reply →
        Answered turn.errors ∨ Interrupted turn.errors ∧ Answered turn.errorsAgain) ∧
      ∀ data, native.Delivers maxSize data →
        ∃ answer : EngineAnswer, answer.WrittenAs data ∧ answer.Legible
  lost :=
    match turn.reply with
    | .unsent (.fault _) => False
    | .unsent (.exception _) | .lost _ _ => LinkLost turn.errorsAgain
    | .answered _ => CallFailed maxSize turn.reply ∧
      (LinkLost turn.errors ∨ Interrupted turn.errors ∧ LinkLost turn.errorsAgain)

/-- What a run with several results is judged by: the native call has to bring data. -/
def multiFacts (turn : CallTurn) : RunFacts QueryResultMulti where
  produced value := ∃ native data, turn.reply = .answered native ∧ native.Delivers maxSize data ∧
    ∃ contents, BatchWrittenAs contents data ∧ ShowsBatch contents value
  failed := CallFailed maxSize turn.reply
  reported :=
    match turn.reply with
    | .unsent _ => True
    | .lost _ _ => CallFailed maxSize turn.reply → Answered turn.errorsAgain
    | .answered native => ∃ data, native.Delivers maxSize data ∧
      ∃ contents, BatchWrittenAs contents data ∧ LegibleBatch contents
  lost :=
    match turn.reply with
    | .unsent (.fault _) | .answered _ => False
    | .unsent (.exception _) | .lost _ _ => LinkLost turn.errorsAgain

variable {maxSize}

/-- What was delivered is shown exactly when the answer is legible. -/
theorem shows_delivered_iff {native : NativeCall} {data : Bytes} {answer : EngineAnswer}
    (written : answer.WrittenAs data) (delivers : native.Delivers maxSize data) :
    (∃ data, native.Delivers maxSize data ∧
        ∃ other : EngineAnswer, other.WrittenAs data ∧ other.Shows answer.received) ↔
      ∀ data, native.Delivers maxSize data →
        ∃ other : EngineAnswer, other.WrittenAs data ∧ other.Legible := by
  have same {other : EngineAnswer} (written' : other.WrittenAs data) :
      answer.received = other.received :=
    Except.ok.inj ((EngineAnswer.decodeQueryResult_written noLibrary written).symm.trans
      (EngineAnswer.decodeQueryResult_written noLibrary written'))
  constructor
  · rintro ⟨data', delivers', other, written', shows'⟩ data'' delivers''
    obtain rfl := delivers.unique delivers'
    obtain rfl := delivers.unique delivers''
    rw [same written'] at shows'
    exact ⟨other, written', (EngineAnswer.shows_received_iff other).mp shows'⟩
  · intro legible
    obtain ⟨other, written', legible⟩ := legible data delivers
    refine ⟨data, delivers, other, written', ?_⟩
    rw [same written']
    exact (EngineAnswer.shows_received_iff other).mpr legible

theorem describes_runSingle (library : DecompressLibrary) (fallbackMessage : String)
    (turn : EngineTurn SingleWritten) :
    Describes (singleFacts maxSize turn.toCallTurn)
      (runSingle library maxSize fallbackMessage turn.toCallTurn) := by
  obtain ⟨⟨reply, timedOut, errors, errorsAgain⟩, handsOut⟩ := turn
  have again (exception : DartException) : Conversion errorsAgain
      (convertNativeErrorToFailure (α := QueryResult) .query exception.text errorsAgain) :=
    conversion_convertNativeErrorToFailure _ _
  have missing := (conversion_convertNativeErrorToFailure (α := QueryResult) fallbackMessage
    errors).reports_again again
  cases reply with
  | unsent thrown =>
      cases thrown with
      | fault fault =>
          exact (reports_thrown _).describes (by simp [singleFacts, CallFailed]) Iff.rfl
      | exception exception =>
          refine (again exception).reports.describes ?_ Iff.rfl
          exact iff_of_true trivial fun failed => absurd failed id
  | lost native exception => exact (again exception).reports.describes Iff.rfl Iff.rfl
  | answered native =>
      have answered : runSingle library maxSize fallbackMessage
          ⟨.answered native, timedOut, errors, errorsAgain⟩ =
          onException (parseBufferToQueryResult library (native.receive maxSize) >>=
            singleResult fallbackMessage errors) fun exception =>
              convertNativeErrorToFailure .query exception.text errorsAgain := rfl
      rw [answered]
      cases received : native.receive maxSize with
      | none =>
          have nothing := NativeCall.receive_eq_none.mp received
          refine missing.describes (and_iff_left ?_) (and_iff_right nothing)
          exact fun data delivers => absurd delivers (nothing data)
      | some data =>
          have delivers := NativeCall.receive_eq_some.mp received
          have succeeded : ¬ CallFailed maxSize (.answered native) :=
            fun nothing => nothing data delivers
          obtain ⟨answer, written⟩ := written_of_delivers (handsOut native rfl) delivers
          have parsed : parseBufferToQueryResult library (some data) =
              .ok (some answer.received) := by
            rw [parseBufferToQueryResult, EngineAnswer.decodeQueryResult_written library written]
            rfl
          rw [parsed]
          refine describes_success ?_ succeeded fun lost => succeeded lost.1
          have shown := shows_delivered_iff written delivers
          constructor
          · rintro ⟨_, data', ⟨⟩, produced⟩
            exact ⟨fun failed => absurd failed succeeded, shown.mp ⟨data', produced⟩⟩
          · rintro ⟨-, legible⟩
            obtain ⟨data', produced⟩ := shown.mpr legible
            exact ⟨native, data', rfl, produced⟩

theorem describes_runMulti (library : DecompressLibrary) (turn : EngineTurn BatchWritten) :
    Describes (multiFacts maxSize turn.toCallTurn) (runMulti library maxSize turn.toCallTurn) := by
  obtain ⟨⟨reply, timedOut, errors, errorsAgain⟩, handsOut⟩ := turn
  have again (exception : DartException) : Conversion errorsAgain
      (convertNativeErrorToFailure (α := QueryResultMulti) .query exception.text errorsAgain) :=
    conversion_convertNativeErrorToFailure _ _
  cases reply with
  | unsent thrown =>
      cases thrown with
      | fault fault => exact (reports_thrown _).describes (by simp [multiFacts, CallFailed]) Iff.rfl
      | exception exception =>
          refine (again exception).reports.describes ?_ Iff.rfl
          exact iff_of_true trivial fun failed => absurd failed id
  | lost native exception => exact (again exception).reports.describes Iff.rfl Iff.rfl
  | answered native =>
      have answered : runMulti library maxSize ⟨.answered native, timedOut, errors, errorsAgain⟩ =
          onException (multiResult library (native.receive maxSize)) fun exception =>
            convertNativeErrorToFailure .query exception.text errorsAgain := rfl
      rw [answered]
      cases received : native.receive maxSize with
      | none =>
          -- the failure looks like an empty batch
          have nothing := NativeCall.receive_eq_none.mp received
          refine ⟨iff_of_false ?_ ?_, iff_of_false ?_ id⟩
          · intro honest
            obtain ⟨error, returned⟩ := honest.failure nothing
            cases returned
          · rintro ⟨data, delivers, -⟩
            exact nothing data delivers
          · rintro ⟨_, ⟨⟩, ⟨⟩⟩
      | some data =>
          have delivers := NativeCall.receive_eq_some.mp received
          obtain ⟨contents, written⟩ := written_of_delivers (handsOut native rfl) delivers
          have parsed : multiResult library (some data) =
              .ok (.success (receivedBatch contents)) := by
            rw [multiResult, decodeQueryResultMulti_written library written]
            rfl
          have same {other : List Native.Content} (written' : BatchWrittenAs other data) :
              receivedBatch contents = receivedBatch other :=
            Except.ok.inj ((decodeQueryResultMulti_written library written).symm.trans
              (decodeQueryResultMulti_written library written'))
          rw [parsed]
          refine describes_success ?_ (fun nothing => nothing data delivers) id
          constructor
          · rintro ⟨_, data', ⟨⟩, delivers', other, written', shows'⟩
            obtain rfl := delivers.unique delivers'
            rw [same written'] at shows'
            exact ⟨data, delivers, other, written', (showsBatch_received_iff other).mp shows'⟩
          · rintro ⟨data', delivers', other, written', legible⟩
            obtain rfl := delivers.unique delivers'
            refine ⟨native, data, rfl, delivers, other, written', ?_⟩
            rw [same written']
            exact (showsBatch_received_iff other).mpr legible

end Calls

/-! ## Streams -/

/-- A run whose streams hand out what the engine has sent. -/
structure EngineStreamTurn extends StreamTurn where
  batchedSent : ∃ stream : EngineStream, stream.SentOn batched.fetches
  wholeSent : ∃ stream : EngineStream, stream.SentOn whole.fetches ∧ stream.batches.length ≤ 1

section Streams

/-- What is known of a run from the answers of the stream that it has read last. The stream
failed when something broke it; what its reader was thrown has to be explained. -/
def readFacts (reader : StreamReader) (errors : NativeErrors) (answers : StreamAnswers) :
    RunFacts QueryResult where
  produced value := answers.produced.isSome = true ∧ ∃ stream : EngineStream,
    stream.SentOn answers.fetches ∧ EngineAnswer.Shows { rows := some stream.whole } value
  failed := (reader.report answers).2 ≠ none
  reported :=
    match reader.raised answers with
    | none => ∃ stream : EngineStream, stream.SentOn answers.fetches ∧
      EngineAnswer.Legible { rows := some stream.whole }
    | some (.exception exception) =>
      (reader.report answers).2 ≠ none → Classified exception ∨ Answered errors
    | some (.fault _) => (reader.report answers).2 = none
  lost :=
    match reader.raised answers with
    | some (.exception exception) => ¬ Classified exception ∧ LinkLost errors
    | _ => False

/-- Behind an exception that comes before the first message, the other stream is read. -/
def streamFacts (backend : Backend) (maxBufferBytes : Option Int) (turn : StreamTurn) :
    RunFacts QueryResult :=
  let batched := batchedReader backend maxBufferBytes turn.batched.lastError
  if batched.fallsBack turn.batched then
    readFacts (wholeReader backend maxBufferBytes turn.whole.lastError) turn.errors turn.whole
  else readFacts batched turn.errors turn.batched

variable {backend : Backend} {library : DecompressLibrary} {maxBufferBytes : Option Int}

/-- An exception that says enough is reported without a question. -/
theorem reports_streamingFailure (exception : DartException) (errors : NativeErrors) :
    Reports (Classified exception ∨ Answered errors) (¬ Classified exception ∧ LinkLost errors)
      (streamingFailureFromException (α := α) errors exception) := by
  by_cases classified : Classified exception
  · obtain ⟨error, returned, kept⟩ :=
      @streamingFailure_of_classified α exception errors classified
    rw [returned]
    refine reports_failure (.inl classified) ?_
    rw [kept]
    exact iff_of_false Bool.false_ne_true fun both => both.1 classified
  · refine (conversion_streamingFailure classified).reports.congr ?_ ?_
    · exact ⟨.inr, fun told => told.resolve_left classified⟩
    · exact ⟨fun lost => ⟨classified, lost⟩, And.right⟩

/-- The chunks of a stream show its rows exactly when these are legible. -/
theorem shows_collectChunks_iff {stream : EngineStream} {script : FetchScript} {data : Bytes}
    (sent : stream.SentOn script) (delivered : script.delivered = some data) :
    (∃ other : EngineStream, other.SentOn script ∧
        EngineAnswer.Shows { rows := some other.whole } (collectChunks stream.receivedChunks)) ↔
      ∃ other : EngineStream, other.SentOn script ∧
        EngineAnswer.Legible { rows := some other.whole } := by
  refine exists_congr fun other => and_congr_right fun sent' => ?_
  rw [sent.unique sent' delivered, sent'.wellFormed.collectChunks]
  exact EngineAnswer.shows_received_iff _

theorem describes_streamed {reader : StreamReader} {errors : NativeErrors}
    {answers : StreamAnswers} {stream : EngineStream} {streamed : Streamed}
    (sent : stream.SentOn answers.fetches) (told : stream.ToldBy (reader.raised answers) streamed) :
    Describes (readFacts reader errors answers)
      (onException (do
        streamed.ending.completion
        .ok (.success (collectChunks streamed.chunks)))
        (streamingFailureFromException errors)) := by
  cases raised : reader.raised answers with
  | none =>
      obtain ⟨finished, chunks⟩ := told.finished raised
      obtain ⟨sound, produced, delivered⟩ := StreamReader.delivered_of_raised raised
      rw [finished, chunks]
      refine describes_success ?_ (fun failed => failed sound) (by simp [readFacts, raised])
      simp only [readFacts, raised, produced, delivered, Option.isSome_some, true_and]
      exact shows_collectChunks_iff sent delivered
  | some thrown =>
      rw [told.thrown thrown raised]
      cases thrown with
      | fault fault =>
          refine (reports_thrown _).describes ?_ ?_
          · simp only [readFacts, raised]
            exact ⟨fun sound failed => failed sound, fun failed => not_not.mp failed⟩
          · simp only [readFacts, raised]
      | exception exception =>
          refine (reports_streamingFailure exception errors).describes ?_ ?_
          · simp only [readFacts, raised]
          · simp only [readFacts, raised]

theorem describes_runStreams (library : DecompressLibrary) (turn : EngineStreamTurn) :
    Describes (streamFacts backend maxBufferBytes turn.toStreamTurn)
      (runStreams backend library maxBufferBytes turn.toStreamTurn).1 := by
  obtain ⟨turn, ⟨first, firstSent⟩, second, secondSent, single⟩ := turn
  obtain ⟨told, silent_iff⟩ := firstSent.toldBy_batched library backend maxBufferBytes
  have falls := told.fallsBack_eq silent_iff
  rw [runStreams, streamNativeQueryWithFallback, StreamingNative.startBatched, StreamTurn.native]
  dsimp only
  rw [falls, streamFacts]
  split_ifs with fell
  · exact describes_streamed secondSent
      (secondSent.toldBy_whole single library backend maxBufferBytes)
  · exact describes_streamed firstSent told

end Streams

/-! ## Every method -/

/-- A call of a query method, with what its runs meet. -/
inductive Query where
  | executeQuery (backend : Backend) (runs : Nat → EngineStreamTurn)
  | executeQueryParams (runs : Nat → EngineTurn SingleWritten)
  | executeQueryParamBuffer (runs : Nat → EngineTurn SingleWritten)
  | executeQueryMultiFull (runs : Nat → EngineTurn BatchWritten)
  | executeQueryMultiParams (runs : Nat → EngineTurn BatchWritten)
  | executePrepared (stmtId : Nat) (maxBufferSize : Option Int) (run : EngineTurn SingleWritten)
  | catalogTables (run : EngineTurn SingleWritten)
  | catalogColumns (run : EngineTurn SingleWritten)
  | catalogTypeInfo (run : EngineTurn SingleWritten)
  | catalogPrimaryKeys (run : EngineTurn SingleWritten)
  | catalogForeignKeys (run : EngineTurn SingleWritten)
  | catalogIndexes (run : EngineTurn SingleWritten)

namespace Query

def Value : Query → Type
  | executeQueryMultiFull _ | executeQueryMultiParams _ => QueryResultMulti
  | _ => QueryResult

variable (library : DecompressLibrary) (connectionId : String) (turns : Nat → ReconnectTurn)

def call (world : World) : (query : Query) → Call query.Value
  | executeQuery backend runs => (Dart.executeQuery library connectionId turns backend
    (fun k => (runs k).toStreamTurn) world).toCall
  | executeQueryParams runs => Dart.executeQueryParams library connectionId turns
    (fun k => (runs k).toCallTurn) world
  | executeQueryParamBuffer runs => Dart.executeQueryParamBuffer library connectionId turns
    (fun k => (runs k).toCallTurn) world
  | executeQueryMultiFull runs => Dart.executeQueryMultiFull library connectionId turns
    (fun k => (runs k).toCallTurn) world
  | executeQueryMultiParams runs => Dart.executeQueryMultiParams library connectionId turns
    (fun k => (runs k).toCallTurn) world
  | executePrepared stmtId maxBufferSize run =>
    Dart.executePrepared library connectionId stmtId maxBufferSize run.toCallTurn world
  | catalogTables run => Dart.catalogTables library connectionId run.toCallTurn world
  | catalogColumns run => Dart.catalogColumns library connectionId run.toCallTurn world
  | catalogTypeInfo run => Dart.catalogTypeInfo library connectionId run.toCallTurn world
  | catalogPrimaryKeys run => Dart.catalogPrimaryKeys library connectionId run.toCallTurn world
  | catalogForeignKeys run => Dart.catalogForeignKeys library connectionId run.toCallTurn world
  | catalogIndexes run => Dart.catalogIndexes library connectionId run.toCallTurn world

/-- What each run of the call is judged by. -/
def facts (options : Option ConnectionOptions) : (query : Query) → Nat → RunFacts query.Value
  | executeQuery backend runs, k =>
    (streamFacts backend (resultLimit options) (runs k).toStreamTurn).limited
      (expires options (runs k).timedOut)
  | executeQueryParams runs, k | executeQueryParamBuffer runs, k =>
    (singleFacts (resultLimit options) (runs k).toCallTurn).limited
      (expires options (runs k).timedOut)
  | executeQueryMultiFull runs, k | executeQueryMultiParams runs, k =>
    (multiFacts (resultLimit options) (runs k).toCallTurn).limited
      (expires options (runs k).timedOut)
  | executePrepared _ maxBufferSize run, _ => singleFacts maxBufferSize run.toCallTurn
  | catalogTables run, _ | catalogColumns run, _ | catalogTypeInfo run, _
  | catalogPrimaryKeys run, _ | catalogForeignKeys run, _ | catalogIndexes run, _ =>
    singleFacts none run.toCallTurn

/-- The method comes to its first native call. -/
def Admitted (repository : Repository) : Query → Prop
  | executePrepared stmtId _ _ =>
    repository.validateStatementOwnership connectionId stmtId "executePrepared" = none
  | _ => True

/-- How many reconnects the method may try. -/
def attempts (repository : Repository) : Query → Nat
  | executeQuery _ _ | executeQueryParams _ | executeQueryParamBuffer _
  | executeQueryMultiFull _ | executeQueryMultiParams _ => repository.maxAttempts connectionId
  | _ => 0

end Query

/-- The five methods that reconnect admit every call on a known connection. -/
theorem queryMethod_admitted_iff {facts : Nat → RunFacts α} {turns : Nat → ReconnectTurn}
    {connectionId : String} {world : World}
    {operation : Nat → Option ConnectionOptions → Nat → Completion (Result α)}
    (described : ∀ nativeId k,
      Describes (facts k) (operation nativeId (world.optionsOf connectionId) k)) :
    HonestCall facts (queryMethod turns connectionId operation world) ↔
      ∀ nativeId, world.repository.connectionIds.lookup connectionId = some nativeId → True →
        Recoverable turns facts nativeId (world.repository.maxAttempts connectionId) 0 := by
  simp only [queryMethod_honest_iff described, true_implies]

theorem runOnce_honest_iff {facts : Nat → RunFacts QueryResult} {refused : Option OdbcError}
    {outcome : Completion (Result QueryResult)} {world : World}
    (described : Describes (facts 0) outcome) :
    HonestCall facts (runOnce refused outcome world) ↔ (refused = none → (facts 0).reported) := by
  cases refused with
  | some error => exact iff_of_true ⟨error, rfl⟩ (by rintro ⟨⟩)
  | none =>
      rw [← described.honest_iff]
      exact ⟨fun honest _ => honest, fun honest => honest rfl⟩

theorem unknownConnection_eq_none {connectionId : String} {repository : Repository} :
    unknownConnection connectionId repository = none ↔
      ∃ nativeId, repository.connectionIds.lookup connectionId = some nativeId := by
  rw [unknownConnection]
  cases repository.connectionIds.lookup connectionId with
  | none => simp
  | some nativeId => simp

theorem mapped_of_owned {connectionId : String} {stmtId : Nat} {operationName : String}
    {repository : Repository}
    (owned : repository.validateStatementOwnership connectionId stmtId operationName = none) :
    ∃ nativeId, repository.connectionIds.lookup connectionId = some nativeId := by
  rw [Repository.validateStatementOwnership] at owned
  split_ifs at owned with unknown
  rw [Option.isNone_iff_eq_none] at unknown
  exact Option.ne_none_iff_exists'.mp unknown

theorem catalogQuery_honest_iff {library : DecompressLibrary} {connectionId message : String}
    {turns : Nat → ReconnectTurn} {world : World} (run : EngineTurn SingleWritten) :
    HonestCall (fun _ => singleFacts none run.toCallTurn)
        (catalogQuery library connectionId message run.toCallTurn world) ↔
      ∀ nativeId, world.repository.connectionIds.lookup connectionId = some nativeId → True →
        Recoverable turns (fun _ => singleFacts none run.toCallTurn) nativeId 0 0 := by
  rw [catalogQuery, runOnce_honest_iff (describes_runSingle library message run),
    unknownConnection_eq_none]
  exact ⟨fun reported nativeId mapped _ => reported ⟨nativeId, mapped⟩,
    fun reported mapped => mapped.elim fun nativeId mapped => reported nativeId mapped trivial⟩

/-- A query method is honest exactly when each run that is the last one gets its failure
through, and no failure is dropped behind a reconnect. -/
theorem honestCall_iff (library : DecompressLibrary) (connectionId : String)
    (turns : Nat → ReconnectTurn) (world : World) (query : Query) :
    HonestCall (query.facts (world.optionsOf connectionId))
        (query.call library connectionId turns world) ↔
      ∀ nativeId, world.repository.connectionIds.lookup connectionId = some nativeId →
        query.Admitted connectionId world.repository →
        Recoverable turns (query.facts (world.optionsOf connectionId)) nativeId
          (query.attempts connectionId world.repository) 0 := by
  cases query with
  | executeQuery backend runs =>
      exact queryMethod_admitted_iff fun _ k =>
        (describes_runStreams library (runs k)).withTimeout _ _
  | executeQueryParams runs =>
      exact queryMethod_admitted_iff fun _ k =>
        (describes_runSingle library _ (runs k)).withTimeout _ _
  | executeQueryParamBuffer runs =>
      exact queryMethod_admitted_iff fun _ k =>
        (describes_runSingle library _ (runs k)).withTimeout _ _
  | executeQueryMultiFull runs =>
      exact queryMethod_admitted_iff fun _ k =>
        (describes_runMulti library (runs k)).withTimeout _ _
  | executeQueryMultiParams runs =>
      exact queryMethod_admitted_iff fun _ k =>
        (describes_runMulti library (runs k)).withTimeout _ _
  | executePrepared stmtId maxBufferSize run =>
      refine (runOnce_honest_iff (describes_runSingle library _ run)).trans ?_
      constructor
      · intro reported nativeId _ owned
        exact reported owned
      · intro reported owned
        obtain ⟨nativeId, mapped⟩ := mapped_of_owned owned
        exact reported nativeId mapped owned
  | catalogTables run => exact catalogQuery_honest_iff run
  | catalogColumns run => exact catalogQuery_honest_iff run
  | catalogTypeInfo run => exact catalogQuery_honest_iff run
  | catalogPrimaryKeys run => exact catalogQuery_honest_iff run
  | catalogForeignKeys run => exact catalogQuery_honest_iff run
  | catalogIndexes run => exact catalogQuery_honest_iff run

/-- A native call that fails for every buffer, and a library that explains it. -/
def syntaxError : EngineTurn BatchWritten where
  reply := .answered fun _ => .failed
  errors := ⟨.ok (some ⟨"42000", 102, "Incorrect syntax"⟩), .ok "Incorrect syntax"⟩
  errorsAgain := ⟨.ok none, .ok ""⟩
  written := by rintro native ⟨⟩ _ _ ⟨⟩

/-- One connection, without options. -/
def plainWorld : World where
  repository := Repository.remember "1" 1 none "DSN=db" {}
  live := AList.singleton 1 ()

def noDecompression : DecompressLibrary := ⟨false, fun _ _ => none⟩

theorem nothing_received {maxSize : Option Int} (data : Bytes) :
    ¬ NativeCall.Delivers (fun _ => .failed) maxSize data := by
  rintro ⟨_, -, ⟨⟩, -⟩

/-- The batch fails in the database, and the caller is told that it has no results. -/
theorem failed_batch_succeeds :
    ¬ HonestCall ((Query.executeQueryMultiFull fun _ => syntaxError).facts none)
      ((Query.executeQueryMultiFull fun _ => syntaxError).call noDecompression "1" nextIdentifier
        plainWorld) := by
  have ran : runMulti noDecompression none syntaxError.toCallTurn = .ok (.success ⟨[]⟩) := by
    have answered : runMulti noDecompression none syntaxError.toCallTurn =
        onException (multiResult noDecompression (NativeCall.receive (fun _ => .failed) none))
          fun exception => convertNativeErrorToFailure .query exception.text
            syntaxError.errorsAgain := rfl
    rw [answered, NativeCall.receive_eq_none.mpr nothing_received]
    rfl
  have called : (Query.executeQueryMultiFull fun _ => syntaxError).call noDecompression "1"
      nextIdentifier plainWorld =
      withReconnect nextIdentifier "1" ⟨1, fun options _ =>
        withTimeout options false
          (runMulti noDecompression (resultLimit options) syntaxError.toCallTurn)⟩
        plainWorld := rfl
  have settled : withTimeout none false
      (runMulti noDecompression (resultLimit none) syntaxError.toCallTurn) =
      .ok (.success ⟨[]⟩) := ran
  have options : plainWorld.optionsOf "1" = none := rfl
  rw [called, withReconnect, options]
  dsimp only
  rw [settled]
  intro honest
  obtain ⟨error, returned⟩ := Honest.failure honest nothing_received
  cases returned

end OdbcFast.Verification
