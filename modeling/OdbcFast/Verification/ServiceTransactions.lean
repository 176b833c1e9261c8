import OdbcFast.Dart.AsyncConnection
import OdbcFast.Dart.ServiceTransactions

/-!
# What a service transaction promises

Whoever runs an action in a transaction is told that it succeeded exactly when it is
committed, gets the action's own failure back, and never has to catch anything. The
rollback keeps all of that, since nothing it does comes out. The begin and the commit
stand in no `try` of the service, and the repository catches exceptions only, so an error
of the native calls behind them comes out, and so does the text of a thrown object that
cannot be formed.
-/

namespace OdbcFast.Verification

open Dart

/-! ## What passes the repository -/

/-- It completes with what no `on Exception` clause catches. -/
def Faulty {α : Type} (completion : Completion α) : Prop :=
  ∃ fault, completion = .error (.fault fault)

/-- One of the questions about the last error does, as far as they are asked. -/
def FaultyAnswers (errors : NativeErrors) : Prop :=
  Faulty errors.getStructuredError ∨ errors.getStructuredError = .ok none ∧ Faulty errors.getError

theorem failureOnException_throws_iff {α : Type} {errorClass : ErrorClass}
    {completion : Completion (Result α)} :
    (∃ thrown, failureOnException errorClass completion = .error thrown) ↔ Faulty completion := by
  rw [failureOnException]
  obtain (exception | fault) | result := completion
  · constructor
    · rintro ⟨_, ⟨⟩⟩
    · rintro ⟨_, ⟨⟩⟩
  · exact iff_of_true ⟨_, rfl⟩ ⟨_, rfl⟩
  · constructor
    · rintro ⟨_, ⟨⟩⟩
    · rintro ⟨_, ⟨⟩⟩

theorem faulty_convertNativeErrorToFailure_iff {α : Type} {errorClass : ErrorClass}
    {fallbackMessage : String} {errors : NativeErrors} :
    Faulty (convertNativeErrorToFailure (α := α) errorClass fallbackMessage errors) ↔
      FaultyAnswers errors := by
  rw [convertNativeErrorToFailure, FaultyAnswers]
  obtain thrown | _ | structured := errors.getStructuredError
  · constructor
    · rintro ⟨fault, ⟨⟩⟩
      exact .inl ⟨fault, rfl⟩
    · rintro (⟨fault, ⟨⟩⟩ | ⟨⟨⟩, -⟩)
      exact ⟨fault, rfl⟩
  · obtain thrown | message := errors.getError
    · constructor
      · rintro ⟨fault, ⟨⟩⟩
        exact .inr ⟨rfl, fault, rfl⟩
      · rintro (⟨fault, ⟨⟩⟩ | ⟨-, fault, ⟨⟩⟩)
        exact ⟨fault, rfl⟩
    · constructor
      · rintro ⟨fault, ⟨⟩⟩
      · rintro (⟨fault, ⟨⟩⟩ | ⟨-, fault, ⟨⟩⟩)
  · constructor
    · rintro ⟨fault, ⟨⟩⟩
    · rintro (⟨fault, ⟨⟩⟩ | ⟨⟨⟩, -⟩)

section

variable {S T : Type} (natives : TransactionNatives S)

/-- An error comes out of a native call, or out of the questions behind its refusal. -/
def FaultyCall {α : Type} (refusal : α) (answered : Completion α × S) : Prop :=
  Faulty answered.1 ∨ answered.1 = .ok refusal ∧ FaultyAnswers (natives.errors answered.2).1

/-- The same of the native begin, which is asked for a connection that the repository knows. -/
def FaultyBegin (connectionId : String) (options : TransactionOptions) (state : S) : Prop :=
  ∃ nativeId, (natives.connectionIds state).lookup connectionId = some nativeId ∧
    FaultyCall natives 0 (natives.beginTransaction
      (.of nativeId (options.isolationLevel.getD .readCommitted)
        (options.savepointDialect.getD .auto) (options.accessMode.getD .readWrite)
        options.lockTimeout) state)

theorem beginTransaction_throws_iff {connectionId : String} {options : TransactionOptions}
    {state : S} :
    (∃ thrown, (OdbcService.beginTransaction natives connectionId options state).1 =
      .error thrown) ↔ FaultyBegin natives connectionId options state := by
  rw [OdbcService.beginTransaction, Repository.beginTransaction, FaultyBegin]
  cases (natives.connectionIds state).lookup connectionId with
  | none =>
      apply iff_of_false
      · rintro ⟨_, ⟨⟩⟩
      · rintro ⟨_, ⟨⟩, -⟩
  | some nativeId =>
      simp only [Option.some.injEq, exists_eq_left', FaultyCall]
      obtain ⟨thrown | _ | txnId, after⟩ := natives.beginTransaction _ state
      · rw [failureOnException_throws_iff]
        constructor
        · rintro ⟨fault, ⟨⟩⟩
          exact .inl ⟨fault, rfl⟩
        · rintro (⟨fault, ⟨⟩⟩ | ⟨⟨⟩, -⟩)
          exact ⟨fault, rfl⟩
      · change (∃ thrown, failureOnException .query (convertNativeErrorToFailure .query _
          (natives.errors after).1) = .error thrown) ↔ _
        rw [failureOnException_throws_iff, faulty_convertNativeErrorToFailure_iff]
        constructor
        · exact fun faulty => .inr ⟨rfl, faulty⟩
        · rintro (⟨fault, ⟨⟩⟩ | ⟨-, faulty⟩)
          exact faulty
      · apply iff_of_false
        · rintro ⟨_, ⟨⟩⟩
        · rintro (⟨fault, ⟨⟩⟩ | ⟨⟨⟩, -⟩)

theorem finishTransaction_throws_iff {call : Nat → S → Completion Bool × S}
    {fallbackMessage : String} {txnId : Nat} {state : S} :
    (∃ thrown, (Repository.finishTransaction natives call fallbackMessage txnId state).1 =
      .error thrown) ↔ FaultyCall natives false (call txnId state) := by
  rw [Repository.finishTransaction, FaultyCall]
  obtain ⟨thrown | _ | _, after⟩ := call txnId state
  · rw [failureOnException_throws_iff]
    constructor
    · rintro ⟨fault, ⟨⟩⟩
      exact .inl ⟨fault, rfl⟩
    · rintro (⟨fault, ⟨⟩⟩ | ⟨⟨⟩, -⟩)
      exact ⟨fault, rfl⟩
  · dsimp only
    rw [failureOnException_throws_iff, faulty_convertNativeErrorToFailure_iff]
    constructor
    · exact fun faulty => .inr ⟨rfl, faulty⟩
    · rintro (⟨fault, ⟨⟩⟩ | ⟨-, faulty⟩)
      exact faulty
  · apply iff_of_false
    · rintro ⟨_, ⟨⟩⟩
    · rintro (⟨fault, ⟨⟩⟩ | ⟨⟨⟩, -⟩)

/-! ## The contract -/

variable (connectionId : String) (action : Nat → S → ActionEnd T × S)
  (options : TransactionOptions) (state : S)

/-- The begin has given out the transaction and left this state. -/
def Begun (txnId : Nat) (opened : S) : Prop :=
  OdbcService.beginTransaction natives connectionId options state =
    (.ok (.success txnId), opened)

/-- What a native call that ends the transaction leaves. Behind a refusal the last error is asked
for. -/
def behindFinish (answered : Completion Bool × S) : S :=
  match answered with
  | (.ok false, state) => (natives.errors state).2
  | (_, state) => state

/-- What is left when this is all that the native side is called for. -/
def leftBy (acted : S) : EndAttempt → S
  | .commit txnId => behindFinish natives (natives.commitTransaction txnId acted)
  | .rollback txnId => behindFinish natives (natives.rollbackTransaction txnId acted)

theorem finishTransaction_state (call : Nat → S → Completion Bool × S) (fallbackMessage : String)
    (txnId : Nat) (acted : S) :
    (Repository.finishTransaction natives call fallbackMessage txnId acted).2 =
      behindFinish natives (call txnId acted) := by
  rw [Repository.finishTransaction]
  obtain ⟨thrown | _ | _, after⟩ := call txnId acted
  · rfl
  · rfl
  · rfl

/-- What the run may be relied on for. -/
structure HonoursContract (ran : ServiceRun S T) : Prop where
  succeeds_iff : ∀ value, ran.completion = .ok (.success value) ↔
    ∃ txnId opened acted, Begun natives connectionId options state txnId opened ∧
      action txnId opened = (.returned (.success value), acted) ∧
      (Repository.commitTransaction natives txnId acted).1 = .ok (.success ())
  ends_once : ∀ txnId opened, Begun natives connectionId options state txnId opened →
    ∃ attempt, (attempt = .commit txnId ∨ attempt = .rollback txnId) ∧ ran.attempts = [attempt] ∧
      ran.state = leftBy natives (action txnId opened).2 attempt
  ends_nothing : (∀ txnId opened, ¬ Begun natives connectionId options state txnId opened) →
    ran.attempts = [] ∧
      ran.state = (OdbcService.beginTransaction natives connectionId options state).2
  own_failure : ∀ txnId opened error,
    Begun natives connectionId options state txnId opened →
    (action txnId opened).1 = .returned (.failure error) →
      ran.completion = .ok (.failure error)
  returns : ∃ result, ran.completion = .ok result

/-- No native call that the outcome hangs on fails with an error, and what the action throws can
be shown. -/
structure Undisturbed : Prop where
  begins : ¬ FaultyBegin natives connectionId options state
  commits : ∀ txnId opened value acted, Begun natives connectionId options state txnId opened →
    action txnId opened = (.returned (.success value), acted) →
      ¬ FaultyCall natives false (natives.commitTransaction txnId acted)
  shown : ∀ txnId opened object, Begun natives connectionId options state txnId opened →
    (action txnId opened).1 = .threw object → ∃ text, object.text = .ok text

/-- The ways through the helper. -/
inductive RunsTo : ServiceRun S T → Prop where
  | unbegun {thrown : Thrown} {opened : S}
      (begun : OdbcService.beginTransaction natives connectionId options state =
        (.error thrown, opened)) : RunsTo ⟨.error thrown, [], opened⟩
  | unopened {error : OdbcError} {opened : S}
      (begun : OdbcService.beginTransaction natives connectionId options state =
        (.ok (.failure error), opened)) : RunsTo ⟨.ok (.failure error), [], opened⟩
  | threw {txnId : Nat} {opened acted : S} {object : ThrownObject}
      (begun : Begun natives connectionId options state txnId opened)
      (ended : action txnId opened = (.threw object, acted)) :
      RunsTo ⟨OdbcService.actionThrew object, [.rollback txnId],
        OdbcService.safelyRollback natives txnId acted⟩
  | failed {txnId : Nat} {opened acted : S} {error : OdbcError}
      (begun : Begun natives connectionId options state txnId opened)
      (ended : action txnId opened = (.returned (.failure error), acted)) :
      RunsTo ⟨.ok (.failure error), [.rollback txnId],
        OdbcService.safelyRollback natives txnId acted⟩
  | uncommitted {txnId : Nat} {opened acted final : S} {value : T} {thrown : Thrown}
      (begun : Begun natives connectionId options state txnId opened)
      (ended : action txnId opened = (.returned (.success value), acted))
      (answered : Repository.commitTransaction natives txnId acted = (.error thrown, final)) :
      RunsTo ⟨.error thrown, [.commit txnId], final⟩
  | refused {txnId : Nat} {opened acted final : S} {value : T} {error : OdbcError}
      (begun : Begun natives connectionId options state txnId opened)
      (ended : action txnId opened = (.returned (.success value), acted))
      (answered : Repository.commitTransaction natives txnId acted =
        (.ok (.failure error), final)) :
      RunsTo ⟨.ok (.failure error), [.commit txnId], final⟩
  | committed {txnId : Nat} {opened acted final : S} {value : T}
      (begun : Begun natives connectionId options state txnId opened)
      (ended : action txnId opened = (.returned (.success value), acted))
      (answered : Repository.commitTransaction natives txnId acted = (.ok (.success ()), final)) :
      RunsTo ⟨.ok (.success value), [.commit txnId], final⟩

theorem runsTo_runInTransaction :
    RunsTo natives connectionId action options state
      (OdbcService.runInTransaction natives connectionId action options state) := by
  rw [OdbcService.runInTransaction]
  rcases begun : OdbcService.beginTransaction natives connectionId options state with
    ⟨thrown | txnId | error, opened⟩
  · exact .unbegun begun
  · dsimp only
    rcases ended : action txnId opened with ⟨(value | error) | object, acted⟩
    · dsimp only
      rcases answered : Repository.commitTransaction natives txnId acted with
        ⟨thrown | ⟨⟩ | error, final⟩
      · exact .uncommitted begun ended answered
      · exact .committed begun ended answered
      · exact .refused begun ended answered
    · exact .failed begun ended
    · exact .threw begun ended
  · exact .unopened begun

variable {natives connectionId action options state} {ran : ServiceRun S T}

theorem Begun.unique {txnId txnId' : Nat} {opened opened' : S}
    (begun : Begun natives connectionId options state txnId opened)
    (begun' : Begun natives connectionId options state txnId' opened') :
    txnId = txnId' ∧ opened = opened' := by
  obtain ⟨⟨⟩⟩ := begun.symm.trans begun'
  exact ⟨rfl, rfl⟩

theorem actionThrew_ne_success {object : ThrownObject} (value : T) :
    OdbcService.actionThrew object ≠ .ok (.success value) := by
  intro succeeded
  rw [OdbcService.actionThrew] at succeeded
  cases shown : object.text with
  | error thrown =>
      rw [shown] at succeeded
      cases succeeded
  | ok text =>
      rw [shown] at succeeded
      cases succeeded

theorem actionThrew_returns_iff {object : ThrownObject} :
    (∃ result, OdbcService.actionThrew (T := T) object = .ok result) ↔
      ∃ text, object.text = .ok text := by
  rw [OdbcService.actionThrew]
  cases object.text with
  | error thrown =>
      constructor
      · rintro ⟨_, ⟨⟩⟩
      · rintro ⟨_, ⟨⟩⟩
  | ok text => exact iff_of_true ⟨_, rfl⟩ ⟨_, rfl⟩

/-- A run is a success exactly when all three steps are, whatever else is thrown. -/
theorem RunsTo.succeeds_iff (way : RunsTo natives connectionId action options state ran)
    (value : T) : ran.completion = .ok (.success value) ↔
      ∃ txnId opened acted, Begun natives connectionId options state txnId opened ∧
        action txnId opened = (.returned (.success value), acted) ∧
        (Repository.commitTransaction natives txnId acted).1 = .ok (.success ()) := by
  constructor
  · intro succeeded
    cases way with
    | unbegun => cases succeeded
    | unopened => cases succeeded
    | threw => exact absurd succeeded (actionThrew_ne_success value)
    | failed => cases succeeded
    | uncommitted => cases succeeded
    | refused => cases succeeded
    | committed begun ended answered =>
        cases succeeded
        exact ⟨_, _, _, begun, ended, congrArg Prod.fst answered⟩
  · rintro ⟨txnId, opened, acted, begun, ended, answered⟩
    cases way with
    | unbegun unbegun => cases unbegun.symm.trans begun
    | unopened unopened => cases unopened.symm.trans begun
    | threw begun' ended' =>
        obtain ⟨rfl, rfl⟩ := begun.unique begun'
        cases ended.symm.trans ended'
    | failed begun' ended' =>
        obtain ⟨rfl, rfl⟩ := begun.unique begun'
        cases ended.symm.trans ended'
    | uncommitted begun' ended' answered' =>
        obtain ⟨rfl, rfl⟩ := begun.unique begun'
        cases ended.symm.trans ended'
        cases answered.symm.trans (congrArg Prod.fst answered')
    | refused begun' ended' answered' =>
        obtain ⟨rfl, rfl⟩ := begun.unique begun'
        cases ended.symm.trans ended'
        cases answered.symm.trans (congrArg Prod.fst answered')
    | committed begun' ended' =>
        obtain ⟨rfl, rfl⟩ := begun.unique begun'
        cases ended.symm.trans ended'
        rfl

theorem RunsTo.ends_once (way : RunsTo natives connectionId action options state ran)
    {txnId : Nat} {opened : S} (begun : Begun natives connectionId options state txnId opened) :
    ∃ attempt, (attempt = .commit txnId ∨ attempt = .rollback txnId) ∧ ran.attempts = [attempt] ∧
      ran.state = leftBy natives (action txnId opened).2 attempt := by
  have commits {acted final : S} {result : Completion (Result Unit)}
      (answered : Repository.commitTransaction natives txnId acted = (result, final)) :
      final = leftBy natives acted (.commit txnId) := by
    rw [leftBy, ← finishTransaction_state natives natives.commitTransaction
      "Failed to commit transaction"]
    exact (congrArg Prod.snd answered).symm
  have rolls (acted : S) : OdbcService.safelyRollback natives txnId acted =
      leftBy natives acted (.rollback txnId) :=
    finishTransaction_state natives natives.rollbackTransaction _ txnId acted
  cases way with
  | unbegun unbegun => cases unbegun.symm.trans begun
  | unopened unopened => cases unopened.symm.trans begun
  | threw begun' ended =>
      obtain ⟨rfl, rfl⟩ := begun.unique begun'
      exact ⟨_, .inr rfl, rfl, by rw [ended]; exact rolls _⟩
  | failed begun' ended =>
      obtain ⟨rfl, rfl⟩ := begun.unique begun'
      exact ⟨_, .inr rfl, rfl, by rw [ended]; exact rolls _⟩
  | uncommitted begun' ended answered =>
      obtain ⟨rfl, rfl⟩ := begun.unique begun'
      exact ⟨_, .inl rfl, rfl, by rw [ended]; exact commits answered⟩
  | refused begun' ended answered =>
      obtain ⟨rfl, rfl⟩ := begun.unique begun'
      exact ⟨_, .inl rfl, rfl, by rw [ended]; exact commits answered⟩
  | committed begun' ended answered =>
      obtain ⟨rfl, rfl⟩ := begun.unique begun'
      exact ⟨_, .inl rfl, rfl, by rw [ended]; exact commits answered⟩

theorem RunsTo.ends_nothing (way : RunsTo natives connectionId action options state ran)
    (unopened : ∀ txnId opened, ¬ Begun natives connectionId options state txnId opened) :
    ran.attempts = [] ∧
      ran.state = (OdbcService.beginTransaction natives connectionId options state).2 := by
  cases way with
  | unbegun begun => exact ⟨rfl, (congrArg Prod.snd begun).symm⟩
  | unopened begun => exact ⟨rfl, (congrArg Prod.snd begun).symm⟩
  | threw begun => exact absurd begun (unopened _ _)
  | failed begun => exact absurd begun (unopened _ _)
  | uncommitted begun => exact absurd begun (unopened _ _)
  | refused begun => exact absurd begun (unopened _ _)
  | committed begun => exact absurd begun (unopened _ _)

theorem RunsTo.own_failure (way : RunsTo natives connectionId action options state ran)
    {txnId : Nat} {opened : S} {error : OdbcError}
    (begun : Begun natives connectionId options state txnId opened)
    (failed : (action txnId opened).1 = .returned (.failure error)) :
    ran.completion = .ok (.failure error) := by
  cases way with
  | unbegun unbegun => cases unbegun.symm.trans begun
  | unopened unopened => cases unopened.symm.trans begun
  | threw begun' ended =>
      obtain ⟨rfl, rfl⟩ := begun.unique begun'
      cases failed.symm.trans (congrArg Prod.fst ended)
  | failed begun' ended =>
      obtain ⟨rfl, rfl⟩ := begun.unique begun'
      cases failed.symm.trans (congrArg Prod.fst ended)
      rfl
  | uncommitted begun' ended =>
      obtain ⟨rfl, rfl⟩ := begun.unique begun'
      cases failed.symm.trans (congrArg Prod.fst ended)
  | refused begun' ended =>
      obtain ⟨rfl, rfl⟩ := begun.unique begun'
      cases failed.symm.trans (congrArg Prod.fst ended)
  | committed begun' ended =>
      obtain ⟨rfl, rfl⟩ := begun.unique begun'
      cases failed.symm.trans (congrArg Prod.fst ended)

/-- Everything but the last promise is kept in every run. -/
theorem RunsTo.honoursContract_iff (way : RunsTo natives connectionId action options state ran) :
    HonoursContract natives connectionId action options state ran ↔
      ∃ result, ran.completion = .ok result :=
  ⟨HonoursContract.returns, fun returns => ⟨way.succeeds_iff, fun _ _ => way.ends_once,
    way.ends_nothing, fun _ _ _ => way.own_failure, returns⟩⟩

/-! ## When nothing comes out -/

/-- Behind a begin that has succeeded only the action and the commit are left to look at. -/
theorem Begun.undisturbed_iff {txnId : Nat} {opened : S}
    (begun : Begun natives connectionId options state txnId opened) :
    Undisturbed natives connectionId action options state ↔
      (∀ value acted, action txnId opened = (.returned (.success value), acted) →
        ¬ FaultyCall natives false (natives.commitTransaction txnId acted)) ∧
      ∀ object, (action txnId opened).1 = .threw object → ∃ text, object.text = .ok text := by
  constructor
  · intro undisturbed
    exact ⟨fun value acted => undisturbed.commits txnId opened value acted begun,
      fun object => undisturbed.shown txnId opened object begun⟩
  · rintro ⟨commits, shown⟩
    refine ⟨fun faulty => ?_, fun txnId' opened' value acted begun' => ?_,
      fun txnId' opened' object begun' => ?_⟩
    · obtain ⟨thrown, unbegun⟩ := (beginTransaction_throws_iff natives).mpr faulty
      cases unbegun.symm.trans (congrArg Prod.fst begun)
    · obtain ⟨rfl, rfl⟩ := begun.unique begun'
      exact commits value acted
    · obtain ⟨rfl, rfl⟩ := begun.unique begun'
      exact shown object

theorem undisturbed_iff_of_commit {txnId : Nat} {opened acted : S} {value : T}
    (begun : Begun natives connectionId options state txnId opened)
    (ended : action txnId opened = (.returned (.success value), acted)) :
    Undisturbed natives connectionId action options state ↔
      ¬ ∃ thrown, (Repository.commitTransaction natives txnId acted).1 = .error thrown := by
  rw [begun.undisturbed_iff, Repository.commitTransaction, finishTransaction_throws_iff]
  constructor
  · exact fun undisturbed => undisturbed.1 value acted ended
  · intro calm
    constructor
    · intro value' acted' ended'
      cases ended.symm.trans ended'
      exact calm
    · intro object threw
      cases threw.symm.trans (congrArg Prod.fst ended)

theorem RunsTo.returns_iff (way : RunsTo natives connectionId action options state ran) :
    (∃ result, ran.completion = .ok result) ↔
      Undisturbed natives connectionId action options state := by
  cases way with
  | unbegun unbegun =>
      apply iff_of_false
      · rintro ⟨_, ⟨⟩⟩
      · exact fun undisturbed => undisturbed.begins
          ((beginTransaction_throws_iff natives).mp ⟨_, congrArg Prod.fst unbegun⟩)
  | unopened unopened =>
      refine iff_of_true ⟨_, rfl⟩ ⟨fun faulty => ?_, fun txnId opened value acted begun => ?_,
        fun txnId opened object begun => ?_⟩
      · obtain ⟨thrown, unbegun⟩ := (beginTransaction_throws_iff natives).mpr faulty
        cases unbegun.symm.trans (congrArg Prod.fst unopened)
      · cases unopened.symm.trans begun
      · cases unopened.symm.trans begun
  | threw begun ended =>
      rw [actionThrew_returns_iff, begun.undisturbed_iff, ended]
      constructor
      · rintro shown
        refine ⟨?_, ?_⟩
        · rintro _ _ ⟨⟩
        · rintro _ ⟨⟩
          exact shown
      · exact fun undisturbed => undisturbed.2 _ rfl
  | failed begun ended =>
      rw [begun.undisturbed_iff, ended]
      refine iff_of_true ⟨_, rfl⟩ ⟨?_, ?_⟩
      · rintro _ _ ⟨⟩
      · rintro _ ⟨⟩
  | uncommitted begun ended answered =>
      rw [undisturbed_iff_of_commit begun ended, answered]
      apply iff_of_false
      · rintro ⟨_, ⟨⟩⟩
      · exact not_not_intro ⟨_, rfl⟩
  | refused begun ended answered =>
      rw [undisturbed_iff_of_commit begun ended, answered]
      refine iff_of_true ⟨_, rfl⟩ ?_
      rintro ⟨_, ⟨⟩⟩
  | committed begun ended answered =>
      rw [undisturbed_iff_of_commit begun ended, answered]
      refine iff_of_true ⟨_, rfl⟩ ?_
      rintro ⟨_, ⟨⟩⟩

end

/-- For every action and every native side: the helper keeps its promises exactly when no native
begin, no native commit that is asked for and no question behind a refusal of one fails with an
error, and what the action throws can be shown. -/
theorem runInTransaction_honours_iff {S T : Type} (natives : TransactionNatives S)
    (connectionId : String) (action : Nat → S → ActionEnd T × S) (options : TransactionOptions)
    (state : S) :
    HonoursContract natives connectionId action options state
        (OdbcService.runInTransaction natives connectionId action options state) ↔
      Undisturbed natives connectionId action options state := by
  have way := runsTo_runInTransaction natives connectionId action options state
  exact way.honoursContract_iff.trans way.returns_iff

/-- One connection, and a worker that is there until the action has run. -/
def workerGoes : TransactionNatives Bool where
  connectionIds := fun _ => (∅ : Wire.HashMap String Nat).insert "1" 1
  beginTransaction := fun _ alive =>
    (if alive then .ok 1 else AsyncConnection.notInitialized.map fun _ => 0, alive)
  commitTransaction := fun _ alive =>
    (if alive then .ok true else AsyncConnection.notInitialized.map fun _ => true, alive)
  rollbackTransaction := fun _ alive =>
    (if alive then .ok true else AsyncConnection.notInitialized.map fun _ => true, alive)
  errors := fun alive => (⟨.ok none, .ok ""⟩, alive)

/-- The action returns a success, and the connection is disposed of meanwhile: the commit throws. -/
theorem commit_without_worker_escapes :
    ¬ HonoursContract workerGoes "1" (fun _ _ => (.returned (.success ()), false)) {} true
      (OdbcService.runInTransaction workerGoes "1" (fun _ _ => (.returned (.success ()), false)) {}
        true) := by
  intro honours
  have escaped : (OdbcService.runInTransaction workerGoes "1"
      (fun _ _ => (.returned (.success ()), false)) {} true).completion =
      .error (.fault (.stateError "Worker not initialized")) := rfl
  obtain ⟨result, returned⟩ := honours.returns
  cases escaped.symm.trans returned

end OdbcFast.Verification
