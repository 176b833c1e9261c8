import OdbcFast.Native.Engine.XaVerbs

/-!
# What the driver's answers decide

Whether a method succeeds, and what its drop guard gets done, in terms of the answers that
the driver has for the calls at the moment they are made.
-/

namespace OdbcFast.Native.Engine

open Wire Fallible

variable (driver : XaDriver) (connId : Nat) (engineId : EngineId) (xid : Xid) (verb : XaVerb)
  (history : List XaRecord)

/-- The history behind one call. -/
def XaDriver.behind (call : XaCall) : List XaRecord :=
  history ++ [⟨connId, call, driver.answer history connId call⟩]

/-- A connection that is locked does what a verb asks for, if anything. -/
def XaDriver.Executes : Prop :=
  verb.apply engineId xid = .ok none ∨ ∃ sql, verb.apply engineId xid = .ok (some sql) ∧
    driver.answer history connId (.execute sql verb) = .done

/-- The connection is there, and does it. -/
def XaDriver.Accepts : Prop :=
  driver.answer history connId .lookup = .done ∧
    driver.Executes connId engineId xid verb (driver.behind connId history .lookup)

/-- The history behind a verb on a connection that is locked. -/
def XaDriver.behindStatement : List XaRecord :=
  match verb.apply engineId xid with
  | .ok (some sql) => driver.behind connId history (.execute sql verb)
  | _ => history

/-- The history behind a verb. -/
def XaDriver.behindVerb : List XaRecord :=
  if driver.answer history connId .lookup = .done then
    driver.behindStatement connId engineId xid verb (driver.behind connId history .lookup)
  else driver.behind connId history .lookup

/-- The server refuses the `PREPARE` and has rolled the branch back. -/
def XaDriver.Loses : Prop :=
  driver.answer history connId .lookup = .done ∧ ∃ sql error,
    XaVerb.prepare.apply engineId xid = .ok (some sql) ∧
      driver.answer (driver.behind connId history .lookup) connId (.execute sql .prepare) =
        .refused error true

/-- The drop guard finds the connection, and its `ROLLBACK` is done. -/
def XaDriver.GuardRollsBack : Prop :=
  driver.answer history connId .lookup = .done ∧
    driver.Executes connId engineId xid .rollback
      (driver.behindStatement connId engineId xid .finish (driver.behind connId history .lookup))

theorem result_eq_ok {answer : XaAnswer} : answer.result = .ok () ↔ answer = .done := by
  cases answer with
  | done => exact ⟨fun _ => rfl, fun _ => rfl⟩
  | refused error lost =>
      constructor
      · rintro ⟨⟩
      · rintro ⟨⟩

theorem perform_apply :
    ((driver.apply connId engineId xid verb).perform history).2 =
        driver.behindStatement connId engineId xid verb history ∧
      (((driver.apply connId engineId xid verb).perform history).1 = .ok () ↔
        driver.Executes connId engineId xid verb history) := by
  rw [XaDriver.apply, XaDriver.behindStatement, XaDriver.Executes]
  rcases applied : verb.apply engineId xid with error | _ | sql
  · refine ⟨rfl, ?_, ?_⟩
    · rintro ⟨⟩
    · rintro (⟨⟨⟩⟩ | ⟨sql, ⟨⟩, -⟩)
  · exact ⟨rfl, fun _ => .inl rfl, fun _ => rfl⟩
  · refine ⟨rfl, fun answered => .inr ⟨sql, rfl, result_eq_ok.mp answered⟩, ?_⟩
    rintro (⟨⟨⟩⟩ | ⟨sql', ⟨⟩, done⟩)
    exact result_eq_ok.mpr done

theorem perform_runOnConn :
    ((driver.runOnConn connId engineId xid verb).perform history).2 =
        driver.behindVerb connId engineId xid verb history ∧
      (((driver.runOnConn connId engineId xid verb).perform history).1 = .ok () ↔
        driver.Accepts connId engineId xid verb history) := by
  have looked : (driver.call connId .lookup).perform history =
      ((driver.answer history connId .lookup).result, driver.behind connId history .lookup) := rfl
  rw [XaDriver.behindVerb, XaDriver.Accepts, XaDriver.runOnConn]
  rcases answered : driver.answer history connId .lookup with _ | ⟨error, lost⟩
  · rw [answered] at looked
    rw [perform_bind_ok looked, if_pos rfl, and_iff_right rfl]
    exact perform_apply driver connId engineId xid verb _
  · rw [answered] at looked
    rw [perform_bind_error looked, if_neg (by rintro ⟨⟩)]
    refine ⟨rfl, ?_, ?_⟩
    · rintro ⟨⟩
    · rintro ⟨⟨⟩, -⟩

/-- A verb is refused by someone. -/
theorem runOnConn_error (refused : ¬ driver.Accepts connId engineId xid verb history) :
    ∃ error, (driver.runOnConn connId engineId xid verb).perform history =
      (.error error, driver.behindVerb connId engineId xid verb history) := by
  obtain ⟨behind, accepts⟩ := perform_runOnConn driver connId engineId xid verb history
  rcases ran : (driver.runOnConn connId engineId xid verb).perform history with ⟨error | _, after⟩
  · rw [ran] at behind
    exact ⟨error, by rw [← behind]⟩
  · exact absurd (accepts.mp (by rw [ran])) refused

theorem runOnConn_ok (accepted : driver.Accepts connId engineId xid verb history) :
    (driver.runOnConn connId engineId xid verb).perform history =
      (.ok (), driver.behindVerb connId engineId xid verb history) := by
  obtain ⟨behind, accepts⟩ := perform_runOnConn driver connId engineId xid verb history
  rw [← behind, ← accepts.mpr accepted]

/-- The last answer that a verb got, when the server was asked. -/
theorem verbs_runOnConn {sql : String} {sent : List XaRecord}
    (applied : verb.apply engineId xid = .ok (some sql))
    (grown : ((driver.runOnConn connId engineId xid verb).perform history).2 = history ++ sent) :
    verbs sent = if driver.answer history connId .lookup = .done then
      [(verb, driver.answer (driver.behind connId history .lookup) connId (.execute sql verb))]
      else [] := by
  rw [(perform_runOnConn driver connId engineId xid verb history).1, XaDriver.behindVerb] at grown
  split_ifs at grown ⊢ with reached
  · rw [XaDriver.behindStatement, applied] at grown
    change history ++ [_] ++ [_] = _ at grown
    rw [List.append_assoc, List.append_cancel_left_eq] at grown
    rw [← grown]
    rfl
  · change history ++ [_] = _ at grown
    rw [List.append_cancel_left_eq] at grown
    rw [← grown]
    rfl

/-! ## The methods -/

theorem assertState_self (owner op : String) (state : XaState) :
    assertState owner state state op = .ok () :=
  if_neg fun different => different rfl

theorem perform_runAndRestore (xa : XaTransaction) :
    ((xa.runAndRestore driver verb).perform history).1 =
      ((driver.runOnConn xa.connId xa.engineId xa.xid verb).perform history).1 := rfl

namespace XaTransaction

variable {driver} {xa : XaTransaction} {history}

theorem orDrop_ok {α : Type} {method : XaM α} {value : α} {after : List XaRecord}
    (ran : method.perform history = (.ok value, after)) :
    (xa.orDrop driver method).perform history = (.ok value, after) := by
  rw [orDrop, perform_of, ran]

theorem orDrop_error {α : Type} {method : XaM α} {error : OdbcError} {after : List XaRecord}
    (ran : method.perform history = (.error error, after)) :
    (xa.orDrop driver method).perform history =
      (.error error, ((xa.drop driver).perform after).2) := by
  rw [orDrop, perform_of, ran]

/-- A guard that passes is not seen. -/
theorem perform_guard {α : Type} (owner op : String) {actual expected : XaState}
    (same : actual = expected) (next : Unit → XaM α) :
    (Fallible.check (assertState owner actual expected op) >>= next).perform history =
      (next ()).perform history := by
  rw [same, assertState_self]
  have passed : (Fallible.check (.ok ()) : XaM Unit).perform history = (.ok (), history) := rfl
  rw [perform_bind_ok passed]

theorem perform_orDrop_guard (owner op : String) {expected : XaState}
    (same : xa.state = expected) :
    (xa.orDrop driver (.check (assertState owner xa.state expected op))).perform history =
      (.ok (), history) := by
  rw [same, assertState_self]
  exact orDrop_ok rfl

theorem perform_call (driver : XaDriver) (connId : Nat) (call : XaCall)
    (history : List XaRecord) : (driver.call connId call).perform history =
      ((driver.answer history connId call).result, driver.behind connId history call) := rfl

/-- Nothing but the verb is sent for it. -/
theorem behindStatement_grows (driver : XaDriver) (connId : Nat) (engineId : EngineId) (xid : Xid)
    (verb : XaVerb) (history : List XaRecord) :
    ∃ sent, driver.behindStatement connId engineId xid verb history = history ++ sent ∧
      ∀ statement ∈ verbs sent, statement.1 = verb := by
  rw [XaDriver.behindStatement]
  rcases verb.apply engineId xid with error | _ | sql
  · exact ⟨[], (List.append_nil history).symm, by simp⟩
  · exact ⟨[], (List.append_nil history).symm, by simp⟩
  · refine ⟨_, rfl, fun statement member => ?_⟩
    rw [List.mem_singleton.mp member]

/-- The work of a guard that finds the connection, and of one that does not. -/
theorem perform_drop (live : xa.state = .active ∨ xa.state = .idle) :
    ((xa.drop driver).perform history).2 = ((xa.tryRestoreAutocommit driver).perform
      (if driver.answer history xa.connId .lookup = .done then
        ((driver.apply xa.connId xa.engineId xa.xid .rollback).perform
          (driver.behindStatement xa.connId xa.engineId xa.xid .finish
            (driver.behind xa.connId history .lookup))).2
        else driver.behind xa.connId history .lookup)).2 := by
  have looked := perform_call driver xa.connId .lookup history
  have ended : (ignoringErrors (driver.apply xa.connId xa.engineId xa.xid .finish)).perform
      (driver.behind xa.connId history .lookup) =
        (.ok (), driver.behindStatement xa.connId xa.engineId xa.xid .finish
          (driver.behind xa.connId history .lookup)) := by
    rw [ignoringErrors, perform_of, (perform_apply driver _ _ _ _ _).1]
  rw [drop, if_pos live, perform_bind_ok (by rw [ignoringErrors, perform_of])]
  rcases answered : driver.answer history xa.connId .lookup with _ | ⟨error, lost⟩
  · rw [answered] at looked
    rw [if_pos rfl, perform_bind_ok looked, perform_bind_ok ended]
  · rw [answered] at looked
    rw [if_neg (by rintro ⟨⟩), perform_bind_error looked]

/-- A verb that is no silent one was done when its call has succeeded. -/
theorem done_of_applied {engineId : EngineId} {verb : XaVerb} {result : Except OdbcError Unit}
    {sent : List XaRecord} (speaks : verb ≠ .finish) (applied : Applied engineId verb result sent) :
    (verb, .done) ∈ verbs sent ↔ result = .ok () := by
  cases applied with
  | unsupported _ nothing =>
      rw [nothing]
      constructor
      · rintro ⟨⟩
      · rintro ⟨⟩
  | silent isSilent _ => exact absurd isSilent.2 speaks
  | answered answer _ _ statement =>
      rw [statement, List.mem_singleton, result_eq_ok, Prod.mk.injEq, and_iff_right rfl, eq_comm]

/-- What a guard that has something to do sends: nothing without the connection, otherwise
a `ROLLBACK` behind what may only be `END`. -/
theorem verbs_drop (live : xa.state = .active ∨ xa.state = .idle) :
    ∃ sent, ((xa.drop driver).perform history).2 = history ++ sent ∧
      (driver.answer history xa.connId .lookup ≠ .done → verbs sent = []) ∧
      (driver.answer history xa.connId .lookup = .done →
        ∃ ending rolling, verbs sent = verbs ending ++ verbs rolling ∧
          (∀ statement ∈ verbs ending, statement.1 = .finish) ∧
          ∃ result, Applied xa.engineId .rollback result rolling ∧
            (result = .ok () ↔ driver.Executes xa.connId xa.engineId xa.xid .rollback
              (driver.behindStatement xa.connId xa.engineId xa.xid .finish
                (driver.behind xa.connId history .lookup)))) := by
  rw [perform_drop live]
  split_ifs with reached
  · obtain ⟨ending, grown, only⟩ := behindStatement_grows driver xa.connId xa.engineId xa.xid
      .finish (driver.behind xa.connId history .lookup)
    generalize driver.behindStatement xa.connId xa.engineId xa.xid .finish
      (driver.behind xa.connId history .lookup) = ended at grown ⊢
    obtain ⟨rolling, grown', applied⟩ :=
      logs_apply driver xa.connId xa.engineId xa.xid .rollback ended
    obtain ⟨rest, grown'', -, quiet⟩ := logs_tryRestoreAutocommit driver xa
      ((driver.apply xa.connId xa.engineId xa.xid .rollback).perform ended).2
    refine ⟨⟨xa.connId, .lookup, driver.answer history xa.connId .lookup⟩ ::
      (ending ++ rolling ++ rest), ?_, fun missing => absurd reached missing, fun _ =>
        ⟨ending, rolling, ?_, only, _, applied,
          (perform_apply driver xa.connId xa.engineId xa.xid .rollback ended).2⟩⟩
    · rw [grown'', grown', grown, XaDriver.behind]
      simp only [List.append_assoc, List.cons_append, List.nil_append]
    · change verbs (ending ++ rolling ++ rest) = _
      rw [verbs_append, verbs_append, quiet, List.append_nil]
  · obtain ⟨rest, grown, -, quiet⟩ := logs_tryRestoreAutocommit driver xa
      (driver.behind xa.connId history .lookup)
    refine ⟨⟨xa.connId, .lookup, driver.answer history xa.connId .lookup⟩ :: rest, ?_,
      fun _ => quiet, fun found => absurd found reached⟩
    rw [grown, XaDriver.behind, List.append_assoc]
    rfl

/-- The `ROLLBACK` of a guard is done, or it is not. -/
theorem drop_rolls_back (live : xa.state = .active ∨ xa.state = .idle) :
    ∃ sent, ((xa.drop driver).perform history).2 = history ++ sent ∧
      ((.rollback, .done) ∈ verbs sent ↔
        driver.GuardRollsBack xa.connId xa.engineId xa.xid history) := by
  obtain ⟨sent, grown, missing, found⟩ := @verbs_drop driver history xa live
  refine ⟨sent, grown, ?_⟩
  rw [XaDriver.GuardRollsBack]
  by_cases reached : driver.answer history xa.connId .lookup = .done
  · obtain ⟨ending, rolling, same, only, result, applied, executes⟩ := found reached
    have unended : (.rollback, XaAnswer.done) ∉ verbs ending := by
      intro member
      cases only _ member
    rw [and_iff_right reached, ← executes, ← done_of_applied (by rintro ⟨⟩) applied, same,
      List.mem_append]
    exact or_iff_right unended
  · rw [missing reached]
    constructor
    · rintro ⟨⟩
    · exact fun rolls => absurd rolls.1 reached

/-- A guard sends a `ROLLBACK` when it finds the connection. -/
theorem drop_sends (live : xa.state = .active ∨ xa.state = .idle)
    (supported : xa.engineId.Supported) :
    ∃ sent, ((xa.drop driver).perform history).2 = history ++ sent ∧
      ((∃ answer, (.rollback, answer) ∈ verbs sent) ↔
        driver.answer history xa.connId .lookup = .done) := by
  obtain ⟨sent, grown, missing, found⟩ := @verbs_drop driver history xa live
  refine ⟨sent, grown, fun rolls => ?_, fun reached => ?_⟩
  · by_contra unreached
    obtain ⟨answer, member⟩ := rolls
    rw [missing unreached] at member
    cases member
  · obtain ⟨ending, rolling, same, -, result, applied, -⟩ := found reached
    rw [same]
    cases applied with
    | unsupported other _ => exact absurd supported other
    | silent isSilent _ => cases isSilent.2
    | answered answer _ _ statement =>
        exact ⟨answer, List.mem_append_right _ (by rw [statement]; exact List.mem_singleton_self _)⟩

/-! A branch that is ended, and goes on by the answer to `END`. -/

section

variable (active : xa.state = .active)

include active

theorem finish_ok (accepted : driver.Accepts xa.connId xa.engineId xa.xid .finish history) :
    (xa.finish driver).perform history = (.ok ⟨{ xa with state := .idle }⟩,
      driver.behindVerb xa.connId xa.engineId xa.xid .finish history) := by
  have ended := (perform_guard "XaTransaction" "end" active fun _ =>
    xa.runOnConn driver .finish).trans (runOnConn_ok driver _ _ _ _ _ accepted)
  rw [finish, perform_bind_ok (orDrop_ok ended)]
  rfl

theorem finish_error (refused : ¬ driver.Accepts xa.connId xa.engineId xa.xid .finish history) :
    ∃ error, (xa.finish driver).perform history = (.error error, ((xa.drop driver).perform
      (driver.behindVerb xa.connId xa.engineId xa.xid .finish history)).2) := by
  obtain ⟨error, ran⟩ := runOnConn_error driver _ _ _ _ _ refused
  have ended := (perform_guard "XaTransaction" "end" active fun _ =>
    xa.runOnConn driver .finish).trans ran
  exact ⟨error, by rw [finish, perform_bind_error (orDrop_error ended)]⟩

theorem commitOnePhase_ended
    (accepted : driver.Accepts xa.connId xa.engineId xa.xid .finish history) :
    (xa.commitOnePhase driver).perform history = (xa.runAndRestore driver (.commit true)).perform
      (driver.behindVerb xa.connId xa.engineId xa.xid .finish history) := by
  have ended := (perform_guard "XaTransaction" "commit_one_phase" active fun _ =>
    xa.runOnConn driver .finish).trans (runOnConn_ok driver _ _ _ _ _ accepted)
  rw [commitOnePhase, perform_bind_ok (orDrop_ok ended)]

theorem commitOnePhase_error
    (refused : ¬ driver.Accepts xa.connId xa.engineId xa.xid .finish history) :
    ∃ error, (xa.commitOnePhase driver).perform history = (.error error, ((xa.drop driver).perform
      (driver.behindVerb xa.connId xa.engineId xa.xid .finish history)).2) := by
  obtain ⟨error, ran⟩ := runOnConn_error driver _ _ _ _ _ refused
  have ended := (perform_guard "XaTransaction" "commit_one_phase" active fun _ =>
    xa.runOnConn driver .finish).trans ran
  exact ⟨error, by rw [commitOnePhase, perform_bind_error (orDrop_error ended)]⟩

theorem perform_rollback :
    (xa.rollback driver).perform history = (xa.runAndRestore driver .rollback).perform
      (driver.behindVerb xa.connId xa.engineId xa.xid .finish history) := by
  have ending : (ignoringErrors (xa.runOnConn driver .finish)).perform history =
      (.ok (), driver.behindVerb xa.connId xa.engineId xa.xid .finish history) := by
    rw [ignoringErrors, perform_of]
    exact congrArg _ (perform_runOnConn driver _ _ _ _ _).1
  rw [rollback, perform_bind_ok (perform_orDrop_guard "XaTransaction" "rollback" active),
    perform_bind_ok ending]

end

end XaTransaction

/-! Branches that are idle or prepared. -/

theorem PreparingXa.perform_prepare {preparing : PreparingXa}
    (idle : preparing.inner.state = .idle) :
    ((preparing.prepare driver).perform history).2 =
        ((preparing.inner.runAndRestore driver .prepare).perform history).2 ∧
      ((preparing.prepare driver).perform history).1 =
        ((preparing.inner.runAndRestore driver .prepare).perform history).1.map fun _ =>
          ⟨preparing.inner.connId, preparing.inner.xid, preparing.inner.engineId, .prepared⟩ := by
  rw [prepare, perform_bind_ok (XaTransaction.perform_orDrop_guard "XaTransaction" "prepare" idle)]
  rcases ran : (preparing.inner.runAndRestore driver .prepare).perform history with
    ⟨error | _, after⟩
  · rw [perform_bind_error ran]
    exact ⟨rfl, rfl⟩
  · rw [perform_bind_ok ran]
    exact ⟨rfl, rfl⟩

theorem PreparedXa.perform_commit {prepared : PreparedXa} (ready : prepared.state = .prepared) :
    (prepared.commit driver).perform history =
      (driver.runOnConn prepared.connId prepared.engineId prepared.xid (.commit false)).perform
        history :=
  XaTransaction.perform_guard "PreparedXa" "commit" ready fun _ =>
    prepared.runOnConn driver (.commit false)

theorem PreparedXa.perform_rollback {prepared : PreparedXa} (ready : prepared.state = .prepared) :
    (prepared.rollback driver).perform history =
      (driver.runOnConn prepared.connId prepared.engineId prepared.xid .rollbackPrepared).perform
        history :=
  XaTransaction.perform_guard "PreparedXa" "rollback" ready fun _ =>
    prepared.runOnConn driver .rollbackPrepared

/-- A verb that is a statement, and autocommit behind it: the server was asked when the
connection was found. -/
theorem XaTransaction.verbs_runAndRestore (xa : XaTransaction) (supported : xa.engineId.Supported)
    (speaks : verb ≠ .finish) :
    ∃ sql sent, verb.apply xa.engineId xa.xid = .ok (some sql) ∧
      ((xa.runAndRestore driver verb).perform history).2 = history ++ sent ∧
      verbs sent = if driver.answer history xa.connId .lookup = .done then
        [(verb, driver.answer (driver.behind xa.connId history .lookup) xa.connId
          (.execute sql verb))] else [] := by
  obtain ⟨front, grown, -⟩ := logs_runOnConn driver xa.connId xa.engineId xa.xid verb history
  obtain ⟨back, grown', -, quiet⟩ := XaTransaction.logs_tryRestoreAutocommit driver xa
    ((driver.runOnConn xa.connId xa.engineId xa.xid verb).perform history).2
  obtain ⟨sql, applied⟩ : ∃ sql, verb.apply xa.engineId xa.xid = .ok (some sql) := by
    rcases apply_cases xa.engineId xa.xid verb with ⟨other, -⟩ | ⟨isSilent, -⟩ | ⟨-, -, statement⟩
    · exact absurd supported other
    · exact absurd isSilent.2 speaks
    · exact statement
  refine ⟨sql, front ++ back, applied, ?_, ?_⟩
  · rw [← List.append_assoc, ← grown]
    exact grown'
  · rw [verbs_append, quiet, List.append_nil, verbs_runOnConn driver _ _ _ _ _ applied grown]

/-- What a `PREPARE` is told is what the driver says at that moment. -/
theorem PreparingXa.prepare_loses {preparing : PreparingXa}
    (idle : preparing.inner.state = .idle) (supported : preparing.inner.engineId.Supported) :
    ∃ sent, ((preparing.prepare driver).perform history).2 = history ++ sent ∧
      ((∃ error, (.prepare, .refused error true) ∈ verbs sent) ↔
        driver.Loses preparing.inner.connId preparing.inner.engineId preparing.inner.xid
          history) := by
  obtain ⟨sql, sent, applied, grown, asked⟩ := preparing.inner.verbs_runAndRestore driver .prepare
    history supported (by rintro ⟨⟩)
  refine ⟨sent, (perform_prepare driver history idle).1.trans grown, ?_⟩
  rw [asked, XaDriver.Loses]
  split_ifs with reached
  · rw [and_iff_right reached]
    constructor
    · rintro ⟨error, member⟩
      exact ⟨sql, error, applied, (Prod.mk.inj (List.mem_singleton.mp member)).2.symm⟩
    · rintro ⟨sql', error, applied', refused⟩
      cases applied.symm.trans applied'
      exact ⟨error, by rw [refused]; exact List.mem_singleton_self _⟩
  · constructor
    · rintro ⟨error, ⟨⟩⟩
    · exact fun loses => absurd loses.1 reached

end OdbcFast.Native.Engine
