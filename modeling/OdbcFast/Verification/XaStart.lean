import OdbcFast.Native.Engine.XaVerbs
import OdbcFast.Verification.XaBranches

/-!
# A start that fails

A branch is started by switching autocommit off and sending one statement. The handle, whose
methods and drop guard switch autocommit on again, comes into being behind both. When the
engine has no statement for it, or the statement is refused, autocommit stays off.
-/

namespace OdbcFast.Verification

open Wire OdbcFast.Native OdbcFast.Native.Engine

/-! ## The connection's side -/

/-- What a connection has of branches. -/
structure XaSession where
  autocommit : Bool
  branchOpen : Bool
  deriving DecidableEq, Repr

namespace XaSession

/-- What has been refused has no effect. -/
def after (session : XaSession) (record : XaRecord) : XaSession :=
  match record.call, record.answer with
  | .setAutocommit enabled, .done => { session with autocommit := enabled }
  | .execute _ .start, .done => { session with branchOpen := true }
  | .execute _ .prepare, .done | .execute _ (.commit _), .done | .execute _ .rollback, .done
  | .execute _ .rollbackPrepared, .done => { session with branchOpen := false }
  | _, _ => session

def afterAll (session : XaSession) (sent : List XaRecord) : XaSession :=
  sent.foldl XaSession.after session

end XaSession

/-- A start that fails has changed neither the autocommit mode nor what branches are open. -/
def StartLeavesSession (driver : XaDriver) (connId : Nat) (xid : Xid) (history : List XaRecord)
    (session : XaSession) : Prop :=
  ∀ sent error, ((XaTransaction.start driver connId xid).perform history) =
    (.error error, history ++ sent) → session.afterAll sent = session

/-! ## The ways through -/

section

variable (driver : XaDriver) (connId : Nat) (xid : Xid) (history : List XaRecord)

def lookedUp : List XaRecord := history ++ [⟨connId, .lookup, .done⟩]

def switchedOff : List XaRecord := lookedUp connId history ++ [⟨connId, .setAutocommit false, .done⟩]

/-- The engine that is detected has a statement that starts a branch, and the connection
accepts it behind the switch. -/
def StartAccepted : Prop :=
  ∃ sql, applyXaStart (driver.engine history connId) xid = .ok (some sql) ∧
    driver.answer (switchedOff connId history) connId (.execute sql .start) = .done

/-- Autocommit is switched off by the start, which goes no further than that. -/
def StopsSwitchedOff (session : XaSession) : Prop :=
  session.autocommit = true ∧ driver.answer history connId .lookup = .done ∧
    driver.answer (lookedUp connId history) connId (.setAutocommit false) = .done ∧
    ¬ StartAccepted driver connId xid history

variable {driver connId xid history}

theorem perform_call_done {call : XaCall} (done : driver.answer history connId call = .done) :
    (driver.call connId call).perform history = (.ok (), history ++ [⟨connId, call, .done⟩]) := by
  rw [XaDriver.call, Fallible.perform_of, done]
  rfl

theorem perform_call_refused {call : XaCall} {error : OdbcError} {lost : Bool}
    (refused : driver.answer history connId call = .refused error lost) :
    (driver.call connId call).perform history =
      (.error error, history ++ [⟨connId, call, .refused error lost⟩]) := by
  rw [XaDriver.call, Fallible.perform_of, refused]
  rfl

/-- Everything a start may do. -/
inductive Started (driver : XaDriver) (connId : Nat) (xid : Xid) (history : List XaRecord) :
    Except OdbcError XaTransaction × List XaRecord → Prop
  | unreached {error : OdbcError} {lost : Bool}
      (lookup : driver.answer history connId .lookup = .refused error lost) :
      Started driver connId xid history
        (.error error, history ++ [⟨connId, .lookup, .refused error lost⟩])
  | unswitched {error : OdbcError} {lost : Bool}
      (lookup : driver.answer history connId .lookup = .done)
      (switch : driver.answer (lookedUp connId history) connId (.setAutocommit false) =
        .refused error lost) :
      Started driver connId xid history (.error error, lookedUp connId history ++
        [⟨connId, .setAutocommit false, .refused error lost⟩])
  | stopped {error : OdbcError} {rest : List XaRecord}
      (lookup : driver.answer history connId .lookup = .done)
      (switch : driver.answer (lookedUp connId history) connId (.setAutocommit false) = .done)
      (failed : ¬ StartAccepted driver connId xid history)
      (quiet : ∀ session, XaSession.afterAll session rest = session) :
      Started driver connId xid history (.error error, switchedOff connId history ++ rest)
  | started {sent : List XaRecord} (accepted : StartAccepted driver connId xid history) :
      Started driver connId xid history
        (.ok ⟨connId, xid, driver.engine history connId, .active⟩, sent)

theorem started_start (driver : XaDriver) (connId : Nat) (xid : Xid) (history : List XaRecord) :
    Started driver connId xid history ((XaTransaction.start driver connId xid).perform history) := by
  rw [XaTransaction.start, Fallible.perform_of]
  rcases lookup : driver.answer history connId .lookup with _ | ⟨error, lost⟩
  · have looked : (driver.call connId .lookup).perform history = (.ok (), lookedUp connId history) :=
      perform_call_done lookup
    rw [Fallible.perform_bind_ok looked]
    rcases switch : driver.answer (lookedUp connId history) connId (.setAutocommit false) with
      _ | ⟨error, lost⟩
    · have switched : (driver.call connId (.setAutocommit false)).perform
          (lookedUp connId history) = (.ok (), switchedOff connId history) :=
        perform_call_done switch
      rw [Fallible.perform_bind_ok switched]
      rcases apply_cases (driver.engine history connId) xid .start with
        ⟨-, error, apply⟩ | ⟨isSilent, -⟩ | ⟨-, -, sql, apply⟩
      · have failed : (driver.apply connId (driver.engine history connId) xid .start).perform
            (switchedOff connId history) = (.error error, switchedOff connId history) := by
          rw [XaDriver.apply, apply]
          rfl
        rw [Fallible.perform_bind_error failed, ← List.append_nil (switchedOff connId history)]
        refine .stopped lookup switch ?_ fun _ => rfl
        rintro ⟨sql, accepted, -⟩
        cases apply.symm.trans accepted
      · cases isSilent.2
      · rw [XaDriver.apply, apply]
        rcases statement : driver.answer (switchedOff connId history) connId
            (.execute sql .start) with _ | ⟨error, lost⟩
        · rw [Fallible.perform_bind_ok (perform_call_done statement)]
          exact .started ⟨sql, apply, statement⟩
        · rw [Fallible.perform_bind_error (perform_call_refused statement)]
          refine .stopped lookup switch ?_ fun _ => rfl
          rintro ⟨sql', accepted, done⟩
          cases apply.symm.trans accepted
          cases statement.symm.trans done
    · rw [Fallible.perform_bind_error (perform_call_refused switch)]
      exact .unswitched lookup switch
  · rw [Fallible.perform_bind_error (perform_call_refused lookup)]
    exact .unreached lookup

end

/-- A start that stops behind the switch leaves autocommit off and nothing else. -/
theorem afterAll_switchedOff_iff (connId : Nat) (session : XaSession) {rest : List XaRecord}
    (quiet : ∀ session, XaSession.afterAll session rest = session) :
    session.afterAll ([⟨connId, .lookup, .done⟩, ⟨connId, .setAutocommit false, .done⟩] ++ rest) =
      session ↔ session.autocommit = false := by
  have off : session.afterAll ([⟨connId, .lookup, .done⟩, ⟨connId, .setAutocommit false, .done⟩] ++
      rest) = { session with autocommit := false } := by
    rw [XaSession.afterAll, List.foldl_append]
    exact quiet _
  rw [off]
  constructor
  · intro same
    exact (congrArg XaSession.autocommit same).symm
  · intro off
    rw [← off]

/-- A start that fails leaves the connection as it was exactly when autocommit was off, or the
start does not get as far as switching it off, or it does not fail. -/
theorem startLeavesSession_iff (driver : XaDriver) (connId : Nat) (xid : Xid)
    (history : List XaRecord) (session : XaSession) :
    StartLeavesSession driver connId xid history session ↔
      ¬ StopsSwitchedOff driver connId xid history session := by
  have outcome := started_start driver connId xid history
  rw [StartLeavesSession]
  generalize (XaTransaction.start driver connId xid).perform history = ran at outcome ⊢
  -- What a start that fails has sent is read off its outcome.
  have sentBy : ∀ {error : OdbcError} {sent : List XaRecord},
      (∀ sent' error', ((.error error, history ++ sent) :
          Except OdbcError XaTransaction × List XaRecord) = (.error error', history ++ sent') →
        session.afterAll sent' = session) ↔ session.afterAll sent = session := by
    intro error sent
    constructor
    · intro all
      exact all sent error rfl
    · intro same sent' error' ends
      rw [← List.append_cancel_left (Prod.mk.inj ends).2]
      exact same
  cases outcome with
  | unreached lookup =>
      refine iff_of_true (sentBy.mpr rfl) ?_
      rintro ⟨-, done, -⟩
      cases lookup.symm.trans done
  | unswitched lookup switch =>
      rw [lookedUp, List.append_assoc, sentBy]
      refine iff_of_true rfl ?_
      rintro ⟨-, -, done, -⟩
      cases switch.symm.trans done
  | stopped lookup switch failed quiet =>
      have sent : ∀ rest : List XaRecord, switchedOff connId history ++ rest = history ++
          ([⟨connId, .lookup, .done⟩, ⟨connId, .setAutocommit false, .done⟩] ++ rest) := by
        intro rest
        rw [switchedOff, lookedUp, List.append_assoc, List.append_assoc]
        rfl
      rw [sent, sentBy, afterAll_switchedOff_iff connId session quiet, ← Bool.not_eq_true]
      constructor
      · rintro on ⟨off, -⟩
        exact on off
      · intro goes off
        exact goes ⟨off, lookup, switch, failed⟩
  | started accepted =>
      refine iff_of_true ?_ ?_
      · intro sent error ends
        cases (Prod.mk.inj ends).1
      · rintro ⟨-, -, -, failed⟩
        exact failed accepted

/-- On an engine without branches autocommit stays off. -/
theorem autocommit_stays_off_behind_start :
    ¬ ∀ (driver : XaDriver) (connId : Nat) (xid : Xid) (history : List XaRecord)
      (session : XaSession), StartLeavesSession driver connId xid history session := by
  intro leaves
  have same := leaves (obligingXa .sqlServer) 1 sampleXid [] ⟨true, false⟩
    [⟨1, .lookup, .done⟩, ⟨1, .setAutocommit false, .done⟩] unsupportedSqlserver rfl
  cases same

end OdbcFast.Verification
