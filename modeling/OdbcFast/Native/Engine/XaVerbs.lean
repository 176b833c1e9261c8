import OdbcFast.Native.Engine.XaTransaction

/-!
# What the methods of a branch send

For each method, the statements that reach the database with their answers, and what the
method returns. A lookup that fails sends nothing. A statement that is refused makes its
method fail, except where the error is ignored. Autocommit, which is switched back behind
most methods, is no statement of the branch.
-/

namespace OdbcFast.Native.Engine

open Wire Fallible

def XaRecord.verb? (record : XaRecord) : Option (XaVerb × XaAnswer) :=
  match record.call with
  | .execute _ verb => some (verb, record.answer)
  | _ => none

/-- The statements among what was asked, with their answers. -/
def verbs (sent : List XaRecord) : List (XaVerb × XaAnswer) := sent.filterMap XaRecord.verb?

@[simp] theorem verbs_nil : verbs [] = [] := rfl

@[simp] theorem verbs_append (front back : List XaRecord) :
    verbs (front ++ back) = verbs front ++ verbs back := List.filterMap_append

/-- The handle manager did not give the connection. -/
def Unreached (sent : List XaRecord) : Prop :=
  ∃ record ∈ sent, record.call = .lookup ∧ record.answer ≠ .done

theorem Unreached.left {front : List XaRecord} (unreached : Unreached front)
    (back : List XaRecord) : Unreached (front ++ back) := by
  obtain ⟨record, member, lookup⟩ := unreached
  exact ⟨record, List.mem_append_left back member, lookup⟩

theorem Unreached.right {back : List XaRecord} (unreached : Unreached back)
    (front : List XaRecord) : Unreached (front ++ back) := by
  obtain ⟨record, member, lookup⟩ := unreached
  exact ⟨record, List.mem_append_right front member, lookup⟩

/-- The engines that have statements for branches. -/
def EngineId.Supported (engineId : EngineId) : Prop :=
  engineId = .postgres ∨ engineId = .mySql ∨ engineId = .mariaDb ∨ engineId = .db2 ∨
    engineId = .oracle

/-- The one verb that is no statement. -/
def Silent (engineId : EngineId) (verb : XaVerb) : Prop := engineId = .postgres ∧ verb = .finish

/-- What becomes of a verb on a connection that is locked. -/
inductive Applied (engineId : EngineId) (verb : XaVerb) :
    Except OdbcError Unit → List XaRecord → Prop
  | unsupported {error : OdbcError} {sent : List XaRecord} (other : ¬ engineId.Supported)
      (nothing : verbs sent = []) : Applied engineId verb (.error error) sent
  | silent {sent : List XaRecord} (isSilent : Silent engineId verb)
      (nothing : verbs sent = []) : Applied engineId verb (.ok ()) sent
  | answered {sent : List XaRecord} (answer : XaAnswer) (supported : engineId.Supported)
      (spoken : ¬ Silent engineId verb) (statement : verbs sent = [(verb, answer)]) :
      Applied engineId verb answer.result sent

/-- What becomes of a verb. -/
inductive Ran (engineId : EngineId) (verb : XaVerb) : Except OdbcError Unit → List XaRecord → Prop
  | unreached {error : OdbcError} {sent : List XaRecord} (lookup : Unreached sent)
      (nothing : verbs sent = []) : Ran engineId verb (.error error) sent
  | applied {result : Except OdbcError Unit} {sent : List XaRecord}
      (applied : Applied engineId verb result sent) : Ran engineId verb result sent

section

variable {engineId : EngineId} {verb : XaVerb} {result : Except OdbcError Unit}
  {front back : List XaRecord}

/-- In front of a verb and behind it may stand what is no statement. -/
theorem Applied.of_verbs {sent : List XaRecord} (applied : Applied engineId verb result sent)
    (same : verbs front = verbs sent) : Applied engineId verb result front := by
  cases applied with
  | unsupported other nothing => exact .unsupported other (same.trans nothing)
  | silent isSilent nothing => exact .silent isSilent (same.trans nothing)
  | answered answer supported spoken statement =>
      exact .answered answer supported spoken (same.trans statement)

theorem Ran.append (ran : Ran engineId verb result front) (quiet : verbs back = []) :
    Ran engineId verb result (front ++ back) := by
  have same : verbs (front ++ back) = verbs front := by
    rw [verbs_append, quiet, List.append_nil]
  cases ran with
  | unreached lookup nothing => exact .unreached (lookup.left back) (same.trans nothing)
  | applied applied => exact .applied (applied.of_verbs same)

end

/-- What a drop guard that has something to do sends. -/
inductive Dropped (engineId : EngineId) : List XaRecord → Prop
  | unreached {sent : List XaRecord} (lookup : Unreached sent) (nothing : verbs sent = []) :
      Dropped engineId sent
  | unsupported {sent : List XaRecord} (other : ¬ engineId.Supported) (nothing : verbs sent = []) :
      Dropped engineId sent
  | silent {sent : List XaRecord} (answer : XaAnswer) (isSilent : engineId = .postgres)
      (statement : verbs sent = [(.rollback, answer)]) : Dropped engineId sent
  | ended {sent : List XaRecord} (ending answer : XaAnswer) (spoken : engineId ≠ .postgres)
      (statements : verbs sent = [(.finish, ending), (.rollback, answer)]) : Dropped engineId sent

theorem Dropped.append {engineId : EngineId} {front back : List XaRecord}
    (dropped : Dropped engineId front) (quiet : verbs back = []) :
    Dropped engineId (front ++ back) := by
  cases dropped with
  | unreached lookup nothing => exact .unreached (lookup.left back) (by simp [nothing, quiet])
  | unsupported other nothing => exact .unsupported other (by simp [nothing, quiet])
  | silent answer isSilent statement =>
      exact .silent answer isSilent (by simp [statement, quiet])
  | ended ending answer spoken statements =>
      exact .ended ending answer spoken (by simp [statements, quiet])

/-- What `end` returns and sends. -/
inductive Finished (xa : XaTransaction) : Except OdbcError PreparingXa → List XaRecord → Prop
  | ended {sent : List XaRecord} (ran : Ran xa.engineId .finish (.ok ()) sent) :
      Finished xa (.ok ⟨{ xa with state := .idle }⟩) sent
  | dropped {error : OdbcError} {front back : List XaRecord}
      (failed : Ran xa.engineId .finish (.error error) front)
      (dropped : Dropped xa.engineId back) : Finished xa (.error error) (front ++ back)

/-- What `commit_one_phase` returns and sends. -/
inductive CommittedOnePhase (engineId : EngineId) : Except OdbcError Unit → List XaRecord → Prop
  | committed {result : Except OdbcError Unit} {front back : List XaRecord}
      (ended : Ran engineId .finish (.ok ()) front) (ran : Ran engineId (.commit true) result back) :
      CommittedOnePhase engineId result (front ++ back)
  | dropped {error : OdbcError} {front back : List XaRecord}
      (failed : Ran engineId .finish (.error error) front) (dropped : Dropped engineId back) :
      CommittedOnePhase engineId (.error error) (front ++ back)

/-- What `rollback` of an active branch returns and sends. -/
inductive RolledBack (engineId : EngineId) : Except OdbcError Unit → List XaRecord → Prop
  | intro {result ignored : Except OdbcError Unit} {front back : List XaRecord}
      (ended : Ran engineId .finish ignored front) (ran : Ran engineId .rollback result back) :
      RolledBack engineId result (front ++ back)

/-- What `prepare` returns and sends. -/
inductive Prepared (xa : XaTransaction) : Except OdbcError PreparedXa → List XaRecord → Prop
  | prepared {sent : List XaRecord} (ran : Ran xa.engineId .prepare (.ok ()) sent) :
      Prepared xa (.ok ⟨xa.connId, xa.xid, xa.engineId, .prepared⟩) sent
  | failed {error : OdbcError} {sent : List XaRecord}
      (ran : Ran xa.engineId .prepare (.error error) sent) : Prepared xa (.error error) sent

/-! ## One call -/

variable (driver : XaDriver)

theorem apply_cases (engineId : EngineId) (xid : Xid) (verb : XaVerb) :
    (¬ engineId.Supported ∧ ∃ error, verb.apply engineId xid = .error error) ∨
    (Silent engineId verb ∧ verb.apply engineId xid = .ok none) ∨
    (engineId.Supported ∧ ¬ Silent engineId verb ∧
      ∃ sql, verb.apply engineId xid = .ok (some sql)) := by
  cases engineId <;> cases verb <;>
    simp [EngineId.Supported, Silent, XaVerb.apply, applyXaStart, applyXaEnd, applyXaPrepare,
      applyXaCommit, applyXaRollback, applyXaRollbackPrepared]

/-- One thing is asked, and its answer is the result. -/
theorem logs_call (connId : Nat) (call : XaCall) :
    Logs (fun result sent => ∃ answer : XaAnswer, result = answer.result ∧
      sent = [⟨connId, call, answer⟩]) (driver.call connId call) :=
  fun history => ⟨_, rfl, driver.answer history connId call, rfl, rfl⟩

/-- A lookup is no statement, and fails by not reaching the connection. -/
theorem logs_lookup (connId : Nat) :
    Logs (fun result sent => verbs sent = [] ∧ ∀ error, result = .error error → Unreached sent)
      (driver.call connId .lookup) := by
  refine (logs_call driver connId .lookup).mono fun result sent said => ?_
  obtain ⟨answer, rfl, rfl⟩ := said
  refine ⟨rfl, fun error failed => ⟨_, List.mem_singleton_self _, rfl, ?_⟩⟩
  rintro rfl
  cases failed

theorem logs_apply (connId : Nat) (engineId : EngineId) (xid : Xid) (verb : XaVerb) :
    Logs (Applied engineId verb) (driver.apply connId engineId xid verb) := by
  rw [XaDriver.apply]
  rcases apply_cases engineId xid verb with
    ⟨other, error, refused⟩ | ⟨isSilent, nothing⟩ | ⟨supported, spoken, sql, statement⟩
  · rw [refused]
    exact Logs.check (.unsupported other rfl)
  · rw [nothing]
    exact Logs.pure (.silent isSilent rfl)
  · rw [statement]
    refine (logs_call driver connId _).mono fun result sent said => ?_
    obtain ⟨answer, rfl, rfl⟩ := said
    exact .answered answer supported spoken rfl

theorem logs_runOnConn (connId : Nat) (engineId : EngineId) (xid : Xid) (verb : XaVerb) :
    Logs (Ran engineId verb) (driver.runOnConn connId engineId xid verb) := by
  refine ((logs_lookup driver connId).bind fun _ => logs_apply driver connId engineId xid verb).mono
    fun result sent said => ?_
  rcases said with ⟨error, rfl, quiet, unreached⟩ | ⟨_, front, back, rfl, ⟨quiet, -⟩, applied⟩
  · exact .unreached (unreached error rfl) quiet
  · exact .applied (applied.of_verbs (by rw [verbs_append, quiet, List.nil_append]))

theorem logs_ignoringErrors {call : XaM Unit} {post : Except OdbcError Unit → List XaRecord → Prop}
    (logs : Logs post call) :
    Logs (fun result sent => result = .ok () ∧ ∃ ignored, post ignored sent)
      (ignoringErrors call) := by
  intro history
  obtain ⟨sent, grown, said⟩ := logs history
  exact ⟨sent, grown, rfl, _, said⟩

/-- The guard of a method passes on the handle it is meant for. -/
theorem logs_guard (owner op : String) {actual expected : XaState} (same : actual = expected) :
    Logs (fun result sent => result = .ok () ∧ sent = [])
      (Fallible.check (assertState owner actual expected op) : XaM Unit) := by
  rw [same, assertState, if_neg fun different => different rfl]
  exact Logs.check ⟨rfl, rfl⟩

namespace XaTransaction

variable {xa : XaTransaction}

/-- A branch is started where the engine has branches, and its `START` was done. -/
theorem logs_start (connId : Nat) (xid : Xid) (history : List XaRecord) :
    ∃ sent, ((start driver connId xid).perform history).2 = history ++ sent ∧
      ∀ xa, ((start driver connId xid).perform history).1 = .ok xa →
        xa = ⟨connId, xid, driver.engine history connId, .active⟩ ∧ xa.engineId.Supported ∧
          verbs sent = [(.start, .done)] := by
  have switching := logs_call driver connId (.setAutocommit false)
  have starting := logs_apply driver connId (driver.engine history connId) xid .start
  have opening := (logs_lookup driver connId).bind fun _ => switching.bind fun _ =>
    starting.bind fun _ => Logs.answers
      (XaTransaction.mk connId xid (driver.engine history connId) .active)
  obtain ⟨sent, grown, said⟩ := opening history
  refine ⟨sent, grown, fun xa started => ?_⟩
  rcases said with ⟨_, failed, -⟩ | ⟨_, looked, rest, rfl, ⟨quiet, -⟩, ⟨_, failed, -⟩ |
    ⟨_, switched, rest, rfl, ⟨_, -, rfl⟩, ⟨_, failed, -⟩ | ⟨_, first, last, rfl, applied, same, rfl⟩⟩⟩
  · cases failed.symm.trans started
  · cases failed.symm.trans started
  · cases failed.symm.trans started
  · cases same.symm.trans started
    generalize outcome : (Except.ok _ : Except OdbcError Unit) = answered at applied
    cases applied with
    | unsupported _ _ => cases outcome
    | silent isSilent _ => cases isSilent.2
    | answered answer supported _ statement =>
        cases answer with
        | refused _ _ => cases outcome
        | done =>
            refine ⟨rfl, supported, ?_⟩
            rw [verbs_append, verbs_append, verbs_append, quiet, statement]
            rfl

theorem logs_tryRestoreAutocommit (xa : XaTransaction) :
    Logs (fun result sent => result = .ok () ∧ verbs sent = [])
      (xa.tryRestoreAutocommit driver) := by
  have switching := (logs_lookup driver xa.connId).bind fun _ =>
    logs_call driver xa.connId (.setAutocommit true)
  refine (logs_ignoringErrors switching).mono fun result sent said => ?_
  obtain ⟨rfl, ignored, ⟨error, -, quiet, -⟩ | ⟨_, front, back, rfl, ⟨quiet, -⟩, answer, -, rfl⟩⟩ :=
    said
  · exact ⟨rfl, quiet⟩
  · refine ⟨rfl, ?_⟩
    rw [verbs_append, quiet]
    rfl

/-- The two statements under one lock, and autocommit. -/
theorem logs_drop (live : xa.state = .active ∨ xa.state = .idle) :
    Logs (fun result sent => result = .ok () ∧ Dropped xa.engineId sent) (xa.drop driver) := by
  rw [drop, if_pos live]
  have ending := logs_ignoringErrors
    (logs_apply driver xa.connId xa.engineId xa.xid .finish)
  have rolling := logs_apply driver xa.connId xa.engineId xa.xid .rollback
  have cleanup := logs_ignoringErrors
    ((logs_lookup driver xa.connId).bind fun _ => ending.bind fun _ => rolling)
  refine (cleanup.bind fun _ => logs_tryRestoreAutocommit driver xa).mono fun result sent said => ?_
  rcases said with ⟨_, -, wrong, -⟩ | ⟨_, front, back, rfl, ⟨-, ignored, cleaned⟩, rfl, quiet⟩
  · cases wrong
  refine ⟨rfl, Dropped.append ?_ quiet⟩
  rcases cleaned with ⟨error, -, quiet, unreached⟩ | ⟨_, looked, rest, rfl, ⟨quiet, -⟩, cleaned⟩
  · exact .unreached (unreached error rfl) quiet
  rcases cleaned with ⟨_, -, wrong, -⟩ | ⟨_, first, second, rfl, ⟨-, _, finished⟩, rolled⟩
  · cases wrong
  have sent : verbs (looked ++ (first ++ second)) = verbs first ++ verbs second := by
    rw [verbs_append, verbs_append, quiet, List.nil_append]
  cases finished with
  | unsupported other nothing =>
      cases rolled with
      | unsupported _ nothing' => exact .unsupported other (by rw [sent, nothing, nothing']; rfl)
      | silent isSilent _ => cases isSilent.2
      | answered _ supported _ _ => exact absurd supported other
  | silent isSilent nothing =>
      cases rolled with
      | unsupported other _ => exact absurd (.inl isSilent.1) other
      | silent isSilent _ => cases isSilent.2
      | answered answer _ _ statement =>
          exact .silent answer isSilent.1 (by rw [sent, nothing, statement]; rfl)
  | answered ending supported spoken statement =>
      cases rolled with
      | unsupported other _ => exact absurd supported other
      | silent isSilent _ => cases isSilent.2
      | answered answer _ _ statement' =>
          exact .ended ending answer (fun isPostgres => spoken ⟨isPostgres, rfl⟩)
            (by rw [sent, statement, statement']; rfl)

theorem logs_orDrop {α : Type} {method : XaM α} {post : Except OdbcError α → List XaRecord → Prop}
    (live : xa.state = .active ∨ xa.state = .idle) (logs : Logs post method) :
    Logs (fun result sent => (∃ value, result = .ok value ∧ post (.ok value) sent) ∨
        ∃ error front back, result = .error error ∧ sent = front ++ back ∧
          post (.error error) front ∧ Dropped xa.engineId back) (xa.orDrop driver method) := by
  intro history
  obtain ⟨front, grown, said⟩ := logs history
  rcases ran : method.perform history with ⟨answer, middle⟩
  rw [ran] at grown said
  cases answer with
  | ok value =>
      have left : (xa.orDrop driver method).perform history = (.ok value, middle) := by
        rw [orDrop, perform_of, ran]
      rw [left]
      exact ⟨front, grown, .inl ⟨value, rfl, said⟩⟩
  | error error =>
      have left : (xa.orDrop driver method).perform history =
          (.error error, ((xa.drop driver).perform middle).2) := by
        rw [orDrop, perform_of, ran]
      obtain ⟨back, grown', -, dropped⟩ := logs_drop driver live middle
      rw [left]
      refine ⟨front ++ back, ?_, .inr ⟨error, front, back, rfl, rfl, said, dropped⟩⟩
      rw [grown', show middle = history ++ front from grown, List.append_assoc]

theorem logs_runAndRestore (xa : XaTransaction) (verb : XaVerb) :
    Logs (Ran xa.engineId verb) (xa.runAndRestore driver verb) := by
  intro history
  obtain ⟨front, grown, ran⟩ :=
    logs_runOnConn driver xa.connId xa.engineId xa.xid verb history
  obtain ⟨back, grown', -, quiet⟩ := logs_tryRestoreAutocommit driver xa
    ((xa.runOnConn driver verb).perform history).2
  refine ⟨front ++ back, ?_, ran.append quiet⟩
  rw [runAndRestore, perform_of, grown', ← List.append_assoc]
  exact congrArg (· ++ back) grown

/-- A guard that passes and would drop the handle otherwise. -/
theorem logs_orDrop_guard (owner op : String) {state : XaState} (same : xa.state = state)
    (live : xa.state = .active ∨ xa.state = .idle) :
    Logs (fun result sent => result = .ok () ∧ sent = [])
      (xa.orDrop driver (.check (assertState owner xa.state state op))) := by
  refine (logs_orDrop driver live (logs_guard owner op same)).mono fun result sent said => ?_
  rcases said with ⟨_, rfl, -, rfl⟩ | ⟨_, _, _, -, -, ⟨wrong, -⟩, -⟩
  · exact ⟨rfl, rfl⟩
  · cases wrong

/-- The guard and `END`, which an early return drops behind. -/
theorem logs_orDrop_finish (owner op : String) (active : xa.state = .active) :
    Logs (fun result sent => (result = .ok () ∧ Ran xa.engineId .finish (.ok ()) sent) ∨
        ∃ error front back, result = .error error ∧ sent = front ++ back ∧
          Ran xa.engineId .finish (.error error) front ∧ Dropped xa.engineId back)
      (xa.orDrop driver do
        Fallible.check (assertState owner xa.state .active op)
        xa.runOnConn driver .finish) := by
  have ending := logs_runOnConn driver xa.connId xa.engineId xa.xid .finish
  have method := (logs_guard owner op active).bind fun _ => ending
  refine (logs_orDrop driver (.inl active) method).mono fun result sent said => ?_
  rcases said with ⟨_, rfl, ⟨_, wrong, -⟩ | ⟨_, first, second, rfl, ⟨-, rfl⟩, ran⟩⟩ |
    ⟨error, front, back, rfl, rfl, ⟨_, -, wrong, -⟩ | ⟨_, first, second, rfl, ⟨-, rfl⟩, ran⟩, dropped⟩
  · cases wrong
  · exact .inl ⟨rfl, ran⟩
  · cases wrong
  · exact .inr ⟨error, _, back, rfl, rfl, ran, dropped⟩

theorem logs_finish (active : xa.state = .active) : Logs (Finished xa) (xa.finish driver) := by
  refine ((logs_orDrop_finish driver "XaTransaction" "end" active).bind fun _ =>
    Logs.answers (PreparingXa.mk { xa with state := .idle })).mono fun result sent said => ?_
  rcases said with ⟨error, rfl, ⟨wrong, -⟩ | ⟨_, front, back, same, rfl, failed, dropped⟩⟩ |
    ⟨_, front, back, rfl, ⟨-, ran⟩ | ⟨_, _, _, wrong, -⟩, rfl, rfl⟩
  · cases wrong
  · cases same
    exact .dropped failed dropped
  · rw [List.append_nil]
    exact .ended ran
  · cases wrong

theorem logs_commitOnePhase (active : xa.state = .active) :
    Logs (CommittedOnePhase xa.engineId) (xa.commitOnePhase driver) := by
  refine ((logs_orDrop_finish driver "XaTransaction" "commit_one_phase" active).bind
    fun _ => logs_runAndRestore driver xa (.commit true)).mono fun result sent said => ?_
  rcases said with ⟨error, rfl, ⟨wrong, -⟩ | ⟨_, front, back, same, rfl, failed, dropped⟩⟩ |
    ⟨_, front, back, rfl, ⟨-, ended⟩ | ⟨_, _, _, wrong, -⟩, ran⟩
  · cases wrong
  · cases same
    exact .dropped failed dropped
  · exact .committed ended ran
  · cases wrong

theorem logs_rollback (active : xa.state = .active) :
    Logs (RolledBack xa.engineId) (xa.rollback driver) := by
  have ending := logs_ignoringErrors
    (logs_runOnConn driver xa.connId xa.engineId xa.xid .finish)
  refine ((logs_orDrop_guard driver "XaTransaction" "rollback" active (.inl active)).bind
    fun _ => ending.bind fun _ => logs_runAndRestore driver xa .rollback).mono fun result sent said => ?_
  rcases said with ⟨_, -, wrong, -⟩ | ⟨_, front, back, rfl, ⟨-, rfl⟩, ⟨_, -, wrong, -⟩ |
    ⟨_, first, second, rfl, ⟨-, ignored, ended⟩, ran⟩⟩
  · cases wrong
  · cases wrong
  · rw [List.nil_append]
    exact .intro ended ran

end XaTransaction

namespace PreparingXa

variable {preparing : PreparingXa}

theorem logs_prepare (idle : preparing.inner.state = .idle) :
    Logs (Prepared preparing.inner) (preparing.prepare driver) := by
  have preparation := (XaTransaction.logs_runAndRestore driver preparing.inner
    .prepare).bind fun _ => Logs.answers (PreparedXa.mk preparing.inner.connId
      preparing.inner.xid preparing.inner.engineId .prepared)
  refine ((XaTransaction.logs_orDrop_guard driver "XaTransaction" "prepare" idle
    (.inr idle)).bind fun _ => preparation).mono fun result sent said => ?_
  rcases said with ⟨_, -, wrong, -⟩ | ⟨_, front, back, rfl, ⟨-, rfl⟩, ⟨error, rfl, ran⟩ |
    ⟨_, first, second, rfl, ran, rfl, rfl⟩⟩
  · cases wrong
  · exact .failed ran
  · rw [List.nil_append, List.append_nil]
    exact .prepared ran

theorem logs_rollback (idle : preparing.inner.state = .idle) :
    Logs (Ran preparing.inner.engineId .rollback) (preparing.rollback driver) := by
  refine ((XaTransaction.logs_orDrop_guard driver "XaTransaction" "rollback" idle
    (.inr idle)).bind fun _ => XaTransaction.logs_runAndRestore driver preparing.inner
      .rollback).mono fun result sent said => ?_
  rcases said with ⟨_, -, wrong, -⟩ | ⟨_, front, back, rfl, ⟨-, rfl⟩, ran⟩
  · cases wrong
  · exact ran

end PreparingXa

namespace PreparedXa

variable {prepared : PreparedXa}

/-- Behind the guard the second phase is one verb. -/
theorem logs_secondPhase (op : String) (verb : XaVerb) (isPrepared : prepared.state = .prepared) :
    Logs (Ran prepared.engineId verb) (do
      Fallible.check (assertState "PreparedXa" prepared.state .prepared op)
      prepared.runOnConn driver verb) := by
  refine ((logs_guard "PreparedXa" op isPrepared).bind fun _ => logs_runOnConn driver prepared.connId
    prepared.engineId prepared.xid verb).mono fun result sent said => ?_
  rcases said with ⟨_, -, wrong, -⟩ | ⟨_, front, back, rfl, ⟨-, rfl⟩, ran⟩
  · cases wrong
  · exact ran

theorem logs_commit (isPrepared : prepared.state = .prepared) :
    Logs (Ran prepared.engineId (.commit false)) (prepared.commit driver) :=
  logs_secondPhase driver "commit" (.commit false) isPrepared

theorem logs_rollback (isPrepared : prepared.state = .prepared) :
    Logs (Ran prepared.engineId .rollbackPrepared) (prepared.rollback driver) :=
  logs_secondPhase driver "rollback" .rollbackPrepared isPrepared

end PreparedXa

end OdbcFast.Native.Engine
