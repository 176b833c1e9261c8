import OdbcFast.Native.Engine.Transaction

/-!
# A transaction ends once

Up to its end a transaction sends queries and statements only, so what its begin does to the
autocommit mode is done by the last call of it. The end is one call and the attempt to switch
autocommit on; the state of the transaction keeps the drop from ending it again. This holds
for every way in which the driver refuses calls. Autocommit is on again unless the driver
refuses just that.
-/

namespace OdbcFast.Verification

open Wire Native.Engine Native.Engine.Transaction

open Native (OdbcError Fault)

section

variable {driver : ConnectionDriver} {handles next : Handles} {txn : Transaction}

/-! ## Up to the end -/

theorem statement_keeps (driver : ConnectionDriver) (sql : String) :
    (statement driver sql).Keeps Handles.Quiet :=
  fun handles => handles.call_quiet driver rfl

theorem applyIsolation_keeps (driver : ConnectionDriver) (engineId : EngineId) (level : IsolationLevel) :
    (applyIsolation driver engineId level).Keeps Handles.Quiet := by
  unfold applyIsolation
  cases IsolationStrategy.forEngine engineId with
  | sql92 => exact statement_keeps driver _
  | sqlitePragma => cases level <;> exact statement_keeps driver _
  | db2SetCurrent => exact statement_keeps driver _
  | oracleRestricted =>
      cases level with
      | readCommitted | serializable => exact statement_keeps driver _
      | readUncommitted | repeatableRead => exact .check _
  | skip => exact .pure ()

theorem applyAccessMode_keeps (driver : ConnectionDriver) (engineId : EngineId) (accessMode : TransactionAccessMode) :
    (applyAccessMode driver engineId accessMode).Keeps Handles.Quiet := by
  unfold applyAccessMode
  cases accessMode with
  | readWrite => exact .pure ()
  | readOnly => cases engineId <;> first | exact statement_keeps driver _ | exact .pure ()

theorem applyLockTimeout_keeps (driver : ConnectionDriver) (engineId : EngineId) (lockTimeout : LockTimeout) :
    (applyLockTimeout driver engineId lockTimeout).Keeps Handles.Quiet := by
  unfold applyLockTimeout LockTimeout.millisAsSecondsRoundedUp
  cases lockTimeout.millis with
  | none => exact .pure ()
  | some ms => cases engineId <;> first | exact statement_keeps driver _ | exact .pure ()

theorem applySettings_keeps (driver : ConnectionDriver) (engineId : EngineId)
    (level : IsolationLevel) (accessMode : TransactionAccessMode) (lockTimeout : LockTimeout) :
    (applySettings driver engineId level accessMode lockTimeout).Keeps Handles.Quiet :=
  (applyIsolation_keeps driver engineId level).bind fun _ =>
    (applyAccessMode_keeps driver engineId accessMode).bind fun _ =>
      applyLockTimeout_keeps driver engineId lockTimeout

theorem detectForConnId_quiet (driver : ConnectionDriver) (connId : Nat) (handles : Handles) :
    handles.Quiet (detectForConnId driver connId handles).2 := by
  unfold detectForConnId
  cases handles.reach connId "Failed to lock handles" with
  | error error => exact refl_of Handles.Quiet handles
  | ok reached => exact handles.call_quiet driver rfl

theorem detectEngineAndDialect_quiet (driver : ConnectionDriver) (connId : Nat)
    (requested : SavepointDialect) (handles : Handles) :
    handles.Quiet (detectEngineAndDialect driver connId requested handles).2 := by
  have detected := detectForConnId_quiet driver connId handles
  unfold detectEngineAndDialect
  cases requested with
  | sql92 | sqlServer => exact refl_of Handles.Quiet handles
  | auto =>
      rcases ran : detectForConnId driver connId handles with ⟨engine, next⟩
      rw [ran] at detected
      cases engine <;> exact detected

theorem executeSql_keeps (txn : Transaction) (sql : String) :
    (txn.executeSql driver sql).Keeps Handles.Quiet :=
  .bind (fun handles => refl_of Handles.Quiet handles) fun _ => statement_keeps driver sql

/-- No method but the ones that consume the transaction ends it. -/
theorem use_quiet (txn : Transaction) (use : Use) (handles : Handles) :
    handles.Quiet (txn.use driver use handles).2 := by
  cases use with
  | savepointCreate name =>
      refine Fallible.Keeps.bind (.check _) (fun _ => .bind (.check _) fun qname => ?_) handles
      cases txn.savepointDialect <;> exact executeSql_keeps txn _
  | savepointRollbackTo name =>
      refine Fallible.Keeps.bind (.check _) (fun _ => .bind (.check _) fun qname => ?_) handles
      cases txn.savepointDialect <;> exact executeSql_keeps txn _
  | savepointRelease name =>
      refine Fallible.Keeps.bind (.check _) (fun _ => ?_) handles
      cases txn.savepointDialect with
      | sqlServer => exact .pure ()
      | sql92 | auto => exact .bind (.check _) fun qname => executeSql_keeps txn _
  | executeSql sql => exact executeSql_keeps txn sql handles
  | interfere event => exact handles.interfere_quiet event

/-! ## Begin -/

section

variable {connId : Nat} {isolation : IsolationLevel} {dialect : SavepointDialect}
  {accessMode : TransactionAccessMode} {lockTimeout : LockTimeout}

/-- A begin that fails has not switched autocommit off: that is its last call. -/
theorem begin_failed {error : OdbcError}
    (failed : beginWithLockTimeout driver connId isolation dialect accessMode lockTimeout handles =
      (.error error, next)) :
    next.connection.autocommit = handles.connection.autocommit := by
  unfold beginWithLockTimeout at failed
  have detected := detectEngineAndDialect_quiet driver connId dialect handles
  rcases ran : detectEngineAndDialect driver connId dialect handles with ⟨⟨engineId, _⟩, between⟩
  rw [ran] at failed detected
  dsimp only at failed detected
  cases reached : between.reach connId "Failed to lock handles" with
  | error error' =>
      rw [reached] at failed
      cases failed
      exact detected.mode
  | ok reached' =>
      rw [reached] at failed
      have settings := applySettings_keeps driver engineId isolation accessMode
        lockTimeout between
      rcases Fallible.perform_bind_eq_error failed with early | ⟨_, set, applied, late⟩
      · rw [early] at settings
        exact settings.mode.trans detected.mode
      · rw [applied] at settings
        rcases Fallible.perform_bind_eq_error late with refused | ⟨_, _, _, impossible⟩
        · exact (Handles.call_setAutocommit_refused driver false refused).trans
            (settings.mode.trans detected.mode)
        · cases impossible

theorem begin_active
    (begun : beginWithLockTimeout driver connId isolation dialect accessMode lockTimeout handles =
      (.ok txn, next)) :
    txn.state = .active := by
  unfold beginWithLockTimeout at begun
  rcases ran : detectEngineAndDialect driver connId dialect handles with ⟨⟨engineId, _⟩, between⟩
  rw [ran] at begun
  dsimp only at begun
  cases reached : between.reach connId "Failed to lock handles" with
  | error error =>
      rw [reached] at begun
      cases begun
  | ok reached' =>
      rw [reached] at begun
      obtain ⟨_, set, _, rest⟩ := Fallible.perform_bind_eq_ok begun
      obtain ⟨_, off, _, rest⟩ := Fallible.perform_bind_eq_ok rest
      cases rest
      rfl

end

/-! ## The end -/

/-- The driver was asked to end the transaction and then, whatever it said, to switch
autocommit on. -/
def Ends (driver : ConnectionDriver) (call : ConnectionCall) (handles next : Handles) : Prop :=
  ∃ restored, next.connection.history = handles.connection.history ++
      [⟨call, driver.answer handles.connection.history call⟩, ⟨.setAutocommit true, restored⟩] ∧
    (restored = .ok () → next.connection.autocommit = true)

theorem endAndRestore_ends (driver : ConnectionDriver) (call : ConnectionCall) (handles : Handles) :
    (endAndRestore driver call handles).1 = driver.answer handles.connection.history call ∧
      Ends driver call handles (endAndRestore driver call handles).2 := by
  refine ⟨rfl, _, List.append_assoc .., ?_⟩
  intro accepted
  simp only [endAndRestore, Handles.call, Connection.call] at accepted ⊢
  rw [accepted]
  rfl

theorem drop_settled (settled : txn.state ≠ .active) : txn.drop driver handles = handles :=
  if_neg settled

theorem drop_reachable (active : txn.state = .active) (reachable : handles.Reachable) :
    Ends driver .rollback handles (txn.drop driver handles) := by
  rw [Transaction.drop, if_pos active, Handles.reach_of_reachable reachable]
  exact (endAndRestore_ends driver .rollback handles).2

theorem drop_unreachable (unreachable : ¬ handles.Reachable) :
    txn.drop driver handles = handles := by
  obtain ⟨error, failed⟩ := Handles.reach_of_not_reachable txn.connId "" unreachable
  by_cases active : txn.state = .active
  · rw [Transaction.drop, if_pos active, failed]
  · exact drop_settled active

/-! Commit and rollback leave nothing to the drop that follows them, unless they did not
get to the connection; then the drop does not get there either. -/

theorem finish_reachable {verb : String} {call : ConnectionCall}
    {settled : Except OdbcError Unit → TransactionState}
    (final : ∀ result, settled result ≠ .active)
    (active : txn.state = .active) (reachable : handles.Reachable) :
    (consume driver (finish verb call settled driver txn handles)).1 =
        driver.answer handles.connection.history call ∧
      Ends driver call handles
        (consume driver (finish verb call settled driver txn handles)).2 := by
  obtain ⟨answered, ended⟩ := endAndRestore_ends driver call handles
  rw [finish, if_pos active, Handles.reach_of_reachable reachable]
  refine ⟨answered, ?_⟩
  rw [consume, drop_settled (final _)]
  exact ended

theorem finish_unreachable {verb : String} {call : ConnectionCall}
    {settled : Except OdbcError Unit → TransactionState} (unreachable : ¬ handles.Reachable) :
    (∃ error, (consume driver (finish verb call settled driver txn handles)).1 = .error error) ∧
      (consume driver (finish verb call settled driver txn handles)).2 = handles := by
  obtain ⟨error, failed⟩ := Handles.reach_of_not_reachable txn.connId
    s!"Failed to lock handles for {verb}" unreachable
  by_cases active : txn.state = .active
  · rw [finish, if_pos active, failed]
    exact ⟨⟨error, rfl⟩, drop_unreachable unreachable⟩
  · rw [finish, if_neg active]
    exact ⟨⟨_, rfl⟩, drop_unreachable unreachable⟩

theorem commit_reachable (driver : ConnectionDriver) (active : txn.state = .active) (reachable : handles.Reachable) :
    (txn.commit driver handles).1 = driver.answer handles.connection.history .commit ∧
      Ends driver .commit handles (txn.commit driver handles).2 :=
  finish_reachable (fun result => by cases result <;> simp) active reachable

theorem commit_unreachable (driver : ConnectionDriver) (txn : Transaction)
    (unreachable : ¬ handles.Reachable) :
    (∃ error, (txn.commit driver handles).1 = .error error) ∧
      (txn.commit driver handles).2 = handles :=
  finish_unreachable unreachable

theorem rollback_reachable (active : txn.state = .active) (reachable : handles.Reachable) :
    (txn.rollback driver handles).1 = driver.answer handles.connection.history .rollback ∧
      Ends driver .rollback handles (txn.rollback driver handles).2 :=
  finish_reachable (fun _ => by simp) active reachable

theorem rollback_unreachable (unreachable : ¬ handles.Reachable) :
    (∃ error, (txn.rollback driver handles).1 = .error error) ∧
      (txn.rollback driver handles).2 = handles :=
  finish_unreachable unreachable

/-! ## A whole life -/

end

/-- What has become of a transaction that has begun. -/
inductive Lifetime (driver : ConnectionDriver) (begun : Handles) :
    Option Transaction × Handles → Prop where
  | alive {txn : Transaction} {handles : Handles} (active : txn.state = .active)
      (quiet : begun.Quiet handles) : Lifetime driver begun (some txn, handles)
  | ended {call : ConnectionCall} {handles next : Handles} (quiet : begun.Quiet handles)
      (ending : call.endsTransaction) (ends : Ends driver call handles next) :
      Lifetime driver begun (none, next)
  | lost {handles : Handles} (quiet : begun.Quiet handles) (unreachable : ¬ handles.Reachable) :
      Lifetime driver begun (none, handles)

section

variable {driver : ConnectionDriver} {handles next : Handles} {txn : Transaction}

theorem step_cases {event : Event} {after : Option Transaction × Handles}
    {output : Except OdbcError Unit}
    (stepped : step driver event (some txn, handles) = some (after, output)) :
    (∃ use, after = (some txn, (txn.use driver use handles).2)) ∨
      after = (none, (txn.commit driver handles).2) ∨
      after = (none, (txn.rollback driver handles).2) ∨
      after = (none, txn.drop driver handles) := by
  cases event with
  | use use => exact .inl ⟨use, (Prod.mk.inj (Option.some.inj stepped)).1.symm⟩
  | commit => exact .inr (.inl (Prod.mk.inj (Option.some.inj stepped)).1.symm)
  | rollback => exact .inr (.inr (.inl (Prod.mk.inj (Option.some.inj stepped)).1.symm))
  | drop => exact .inr (.inr (.inr (Prod.mk.inj (Option.some.inj stepped)).1.symm))

theorem step_lifetime {begun : Handles} {event : Event} {state after : Option Transaction × Handles}
    {output : Except OdbcError Unit} (lifetime : Lifetime driver begun state)
    (stepped : step driver event state = some (after, output)) : Lifetime driver begun after := by
  cases lifetime with
  | ended quiet ending ends => cases stepped
  | lost quiet unreachable => cases stepped
  | @alive txn handles active quiet =>
      rcases step_cases stepped with ⟨use, rfl⟩ | consumed
      · exact .alive active (trans_of Handles.Quiet quiet (use_quiet txn use handles))
      · by_cases reachable : handles.Reachable
        · rcases consumed with rfl | rfl | rfl
          · exact .ended quiet rfl (commit_reachable driver active reachable).2
          · exact .ended quiet rfl (rollback_reachable active reachable).2
          · exact .ended quiet rfl (drop_reachable active reachable)
        · rw [(commit_unreachable driver txn reachable).2, (rollback_unreachable reachable).2,
            drop_unreachable reachable, or_self, or_self] at consumed
          rw [consumed]
          exact .lost quiet reachable

theorem run_lifetime {events : List Event} {log : List (Except OdbcError Unit)}
    {final : Option Transaction × Handles} (active : txn.state = .active)
    (ran : run (step driver) events (some txn, handles) = some (final, log)) :
    Lifetime driver handles final :=
  run_invariant (fun _ => Lifetime driver handles) step_lifetime []
    (.alive active (refl_of Handles.Quiet handles)) ran

/-- Among the calls sent there is at most one that ends a transaction. The switch of the
mode is the next call and the last, and where it is accepted autocommit is on. -/
structure EndsOnce (sent : List CallRecord) (final : Handles) : Prop where
  once : sent.countP CallRecord.endsTransaction ≤ 1
  restored : ∀ before record after, sent = before ++ record :: after →
    record.endsTransaction → ∃ answer, after = [⟨.setAutocommit true, answer⟩] ∧
      (answer = .ok () → final.connection.autocommit = true)

theorem countP_statements {sent : List CallRecord}
    (statements : ∀ record ∈ sent, record.call.isStatement) :
    sent.countP CallRecord.endsTransaction = 0 :=
  List.countP_eq_zero.mpr fun record member =>
    ConnectionCall.isStatement.not_endsTransaction (statements record member)

theorem countP_ended {sent : List CallRecord} {ending restoring : CallRecord}
    (statements : ∀ record ∈ sent, record.call.isStatement) (ends : ending.endsTransaction)
    (restores : ¬ restoring.endsTransaction) :
    (sent ++ [ending, restoring]).countP CallRecord.endsTransaction = 1 := by
  rw [List.countP_append, countP_statements statements, List.countP_cons_of_pos ends,
    List.countP_cons_of_neg restores, List.countP_nil]

/-- An ending call is not among the statements, so it is the one behind them. -/
theorem split_behind_statements {sent before after : List CallRecord}
    {ending restoring record : CallRecord} (statements : ∀ record ∈ sent, record.call.isStatement)
    (restores : ¬ restoring.endsTransaction)
    (split : sent ++ [ending, restoring] = before ++ record :: after)
    (ends : record.endsTransaction) : after = [restoring] := by
  induction sent generalizing before with
  | nil =>
      cases before with
      | nil => exact (List.cons.inj split).2.symm
      | cons first before =>
          cases before with
          | nil =>
              obtain ⟨rfl, -⟩ := List.cons.inj (List.cons.inj split).2
              exact absurd ends restores
          | cons second before => cases before <;> cases (List.cons.inj (List.cons.inj split).2).2
  | cons first sent ih =>
      cases before with
      | nil =>
          obtain ⟨rfl, -⟩ := List.cons.inj split
          exact absurd ends (ConnectionCall.isStatement.not_endsTransaction
            (statements first List.mem_cons_self))
      | cons _ before =>
          exact ih (fun record member => statements record (List.mem_cons_of_mem _ member))
            (List.cons.inj split).2

theorem Lifetime.endsOnce {begun final : Handles} {slot : Option Transaction}
    (lifetime : Lifetime driver begun (slot, final)) :
    ∃ sent, final.connection.history = begun.connection.history ++ sent ∧ EndsOnce sent final ∧
      (slot = none → final.Reachable → sent.countP CallRecord.endsTransaction = 1) := by
  have silent {sent : List CallRecord} (statements : ∀ record ∈ sent, record.call.isStatement) :
      EndsOnce sent final := by
    refine ⟨(countP_statements statements).trans_le (Nat.zero_le 1), ?_⟩
    intro before record after split ends
    have member : record ∈ sent := split ▸ List.mem_append_right _ List.mem_cons_self
    exact absurd ends (ConnectionCall.isStatement.not_endsTransaction (statements record member))
  cases lifetime with
  | alive active quiet =>
      obtain ⟨sent, history, statements⟩ := quiet.sent
      exact ⟨sent, history, silent statements, by simp⟩
  | lost quiet unreachable =>
      obtain ⟨sent, history, statements⟩ := quiet.sent
      exact ⟨sent, history, silent statements, fun _ reachable => absurd reachable unreachable⟩
  | @ended call _ _ quiet ending ends =>
      obtain ⟨sent, history, statements⟩ := quiet.sent
      obtain ⟨restored, ended, autocommit⟩ := ends
      rw [history, List.append_assoc] at ended
      generalize driver.answer _ call = answer at ended
      have ending : (CallRecord.mk call answer).endsTransaction := ending
      have restores : ¬ (CallRecord.mk (.setAutocommit true) restored).endsTransaction := by
        simp [CallRecord.endsTransaction, ConnectionCall.endsTransaction]
      have one := countP_ended statements ending restores
      refine ⟨_, ended, ⟨one.le, ?_⟩, fun _ _ => one⟩
      intro before record after split ends
      exact ⟨restored, split_behind_statements statements restores split ends, autocommit⟩

end

/-! ## Closures -/

section

variable (driver : ConnectionDriver) (connId : Nat) (isolation : IsolationLevel)
  (dialect : SavepointDialect) (accessMode : TransactionAccessMode) (lockTimeout : LockTimeout)

/-- What running a closure in a transaction comes to, by how its begin, the closure itself and
the end turn out. -/
structure ExecutesOnce {T : Type} (f : Closure T) (handles : Handles) : Prop where
  ok_iff : ∀ result,
    (executeWithLockTimeout driver connId isolation dialect accessMode lockTimeout f handles).1 =
        .ok result ↔
      ∃ txn begun later,
        beginWithLockTimeout driver connId isolation dialect accessMode lockTimeout handles =
          (.ok txn, begun) ∧
        f.run (txn.use driver) begun = (.ok result, later) ∧ later.Reachable ∧
        driver.answer later.connection.history .commit = .ok ()
  beginFailed : ∀ error next,
    beginWithLockTimeout driver connId isolation dialect accessMode lockTimeout handles =
        (.error error, next) →
      executeWithLockTimeout driver connId isolation dialect accessMode lockTimeout f handles =
        (.error (.err error), next)
  closureFailed : ∀ txn begun original later,
    beginWithLockTimeout driver connId isolation dialect accessMode lockTimeout handles =
        (.ok txn, begun) →
    f.run (txn.use driver) begun = (.error (.err original), later) →
      ∃ final,
        executeWithLockTimeout driver connId isolation dialect accessMode lockTimeout f handles =
          (.error (.err original), final) ∧
        begun.Quiet later ∧ (later.Reachable → Ends driver .rollback later final) ∧
        (¬ later.Reachable → final = later)
  closurePanicked : ∀ txn begun message later,
    beginWithLockTimeout driver connId isolation dialect accessMode lockTimeout handles =
        (.ok txn, begun) →
    f.run (txn.use driver) begun = (.error (.panic message), later) →
      ∃ final,
        executeWithLockTimeout driver connId isolation dialect accessMode lockTimeout f handles =
          (.error (.panic message), final) ∧
        begun.Quiet later ∧ (later.Reachable → Ends driver .rollback later final) ∧
        (¬ later.Reachable → final = later)
  commitFailed : ∀ txn begun result later error,
    beginWithLockTimeout driver connId isolation dialect accessMode lockTimeout handles =
        (.ok txn, begun) →
    f.run (txn.use driver) begun = (.ok result, later) → later.Reachable →
    driver.answer later.connection.history .commit = .error error →
      ∃ final,
        executeWithLockTimeout driver connId isolation dialect accessMode lockTimeout f handles =
          (.error (.err error), final) ∧
        begun.Quiet later ∧ Ends driver .commit later final

variable {driver connId isolation dialect accessMode lockTimeout} {T : Type} {f : Closure T}
  {handles begun later next : Handles} {txn : Transaction}

/-- A closure has only the methods that leave the transaction open. -/
theorem closure_quiet (driver : ConnectionDriver) (f : Closure T) (txn : Transaction) (begun : Handles) :
    begun.Quiet (f.run (txn.use driver) begun).2 :=
  f.run_keeps (use_quiet txn) begun

theorem execute_beginFailed {error : OdbcError}
    (failed : beginWithLockTimeout driver connId isolation dialect accessMode lockTimeout handles =
      (.error error, next)) :
    executeWithLockTimeout driver connId isolation dialect accessMode lockTimeout f handles =
      (.error (.err error), next) := by
  rw [executeWithLockTimeout, failed]

theorem execute_closureFailed {original : OdbcError}
    (opened : beginWithLockTimeout driver connId isolation dialect accessMode lockTimeout handles =
      (.ok txn, begun))
    (failed : f.run (txn.use driver) begun = (.error (.err original), later)) :
    executeWithLockTimeout driver connId isolation dialect accessMode lockTimeout f handles =
      (.error (.err original), (txn.rollback driver later).2) := by
  rw [executeWithLockTimeout, opened]
  dsimp only
  rw [failed]

theorem execute_panicked {message : String}
    (opened : beginWithLockTimeout driver connId isolation dialect accessMode lockTimeout handles =
      (.ok txn, begun))
    (panicked : f.run (txn.use driver) begun = (.error (.panic message), later)) :
    executeWithLockTimeout driver connId isolation dialect accessMode lockTimeout f handles =
      (.error (.panic message), txn.drop driver later) := by
  rw [executeWithLockTimeout, opened]
  dsimp only
  rw [panicked]

/-- Behind a closure that succeeds the commit decides. -/
theorem execute_closureSucceeded {result : T}
    (opened : beginWithLockTimeout driver connId isolation dialect accessMode lockTimeout handles =
      (.ok txn, begun))
    (succeeded : f.run (txn.use driver) begun = (.ok result, later)) :
    executeWithLockTimeout driver connId isolation dialect accessMode lockTimeout f handles =
      (((txn.commit driver later).1.mapError .err).map fun _ => result,
        (txn.commit driver later).2) := by
  rw [executeWithLockTimeout, opened]
  dsimp only
  rw [succeeded]
  dsimp only
  rcases txn.commit driver later with ⟨answer, final⟩
  cases answer <;> rfl

theorem commit_eq_ok (active : txn.state = .active) :
    (txn.commit driver handles).1 = .ok () ↔
      handles.Reachable ∧ driver.answer handles.connection.history .commit = .ok () := by
  by_cases reachable : handles.Reachable
  · rw [(commit_reachable driver active reachable).1, and_iff_right reachable]
  · obtain ⟨⟨error, failed⟩, -⟩ := commit_unreachable driver txn reachable
    rw [failed]
    simp [reachable]

theorem execute_eq_ok {result : T} :
    (executeWithLockTimeout driver connId isolation dialect accessMode lockTimeout f handles).1 =
        .ok result ↔
      ∃ txn begun later,
        beginWithLockTimeout driver connId isolation dialect accessMode lockTimeout handles =
          (.ok txn, begun) ∧
        f.run (txn.use driver) begun = (.ok result, later) ∧ later.Reachable ∧
        driver.answer later.connection.history .commit = .ok () := by
  constructor
  · intro succeeded
    rcases opened : beginWithLockTimeout driver connId isolation dialect accessMode lockTimeout
      handles with ⟨outcome, begun⟩
    cases outcome with
    | error error =>
        rw [execute_beginFailed opened] at succeeded
        cases succeeded
    | ok txn =>
        rcases ran : f.run (txn.use driver) begun with ⟨answer, later⟩
        rcases answer with (original | message) | value
        · rw [execute_closureFailed opened ran] at succeeded
          cases succeeded
        · rw [execute_panicked opened ran] at succeeded
          cases succeeded
        · rw [execute_closureSucceeded opened ran] at succeeded
          cases committed : (txn.commit driver later).1 with
          | error error =>
              rw [committed] at succeeded
              cases succeeded
          | ok answered =>
              rw [committed] at succeeded
              cases succeeded
              obtain ⟨reachable, accepted⟩ := (commit_eq_ok (begin_active opened)).mp committed
              exact ⟨txn, begun, later, rfl, ran, reachable, accepted⟩
  · rintro ⟨txn, begun, later, opened, ran, reachable, accepted⟩
    rw [execute_closureSucceeded opened ran,
      (commit_eq_ok (begin_active opened)).mpr ⟨reachable, accepted⟩]
    rfl

theorem executesOnce (f : Closure T) (handles : Handles) :
    ExecutesOnce driver connId isolation dialect accessMode lockTimeout f handles where
  ok_iff result := execute_eq_ok
  beginFailed error next failed := execute_beginFailed failed
  closureFailed txn begun original later opened failed := by
    have quiet := closure_quiet driver f txn begun
    rw [failed] at quiet
    exact ⟨_, execute_closureFailed opened failed, quiet,
      fun reachable => (rollback_reachable (begin_active opened) reachable).2,
      fun unreachable => (rollback_unreachable unreachable).2⟩
  closurePanicked txn begun message later opened panicked := by
    have quiet := closure_quiet driver f txn begun
    rw [panicked] at quiet
    exact ⟨_, execute_panicked opened panicked, quiet, drop_reachable (begin_active opened),
      drop_unreachable⟩
  commitFailed txn begun result later error opened succeeded reachable refused := by
    have quiet := closure_quiet driver f txn begun
    rw [succeeded] at quiet
    obtain ⟨answered, ends⟩ :=
      commit_reachable driver (begin_active opened) reachable
    refine ⟨_, ?_, quiet, ends⟩
    rw [execute_closureSucceeded opened succeeded, answered, refused]
    rfl

/-! ## The result -/

/-- A begin that fails leaves the autocommit mode alone. A transaction that has begun ends at
most once, and exactly once if it is consumed while its connection can be reached; each end is
followed by the call that switches autocommit on. -/
theorem transaction_endsOnce (driver : ConnectionDriver) (connId : Nat) (isolation : IsolationLevel)
    (dialect : SavepointDialect) (accessMode : TransactionAccessMode) (lockTimeout : LockTimeout)
    (handles : Handles) :
    (∀ error next,
      beginWithLockTimeout driver connId isolation dialect accessMode lockTimeout handles =
          (.error error, next) →
        next.connection.autocommit = handles.connection.autocommit) ∧
    (∀ txn begun events slot final log,
      beginWithLockTimeout driver connId isolation dialect accessMode lockTimeout handles =
          (.ok txn, begun) →
      run (Transaction.step driver) events (some txn, begun) = some ((slot, final), log) →
        ∃ sent, final.connection.history = begun.connection.history ++ sent ∧
          EndsOnce sent final ∧
          (slot = none → final.Reachable → sent.countP CallRecord.endsTransaction = 1)) ∧
    ∀ (T : Type) (f : Closure T),
      ExecutesOnce driver connId isolation dialect accessMode lockTimeout f handles :=
  ⟨fun _ _ failed => begin_failed failed,
    fun _ _ _ _ _ _ opened ran => (run_lifetime (begin_active opened) ran).endsOnce,
    fun _ f => executesOnce f handles⟩

end

/-- A driver that refuses the calls on a list, each time. -/
def refusing (calls : List ConnectionCall) : ConnectionDriver where
  refusal _ call := if call ∈ calls then some (.odbcApi "Communication link failure") else none
  engine _ := .postgres
  resetsAutocommit _ := false

/-- A transaction of one statement whose rollback is refused. -/
theorem transaction_endsOnce_rollbackRefused :
    ∃ final : Handles, ∃ sent, final.connection.history =
        [⟨.execute "SET TRANSACTION ISOLATION LEVEL READ COMMITTED", .ok ()⟩,
          ⟨.setAutocommit false, .ok ()⟩] ++ sent ∧
      EndsOnce sent final ∧ sent.countP CallRecord.endsTransaction = 1 ∧
      final.connection.autocommit = true := by
  have life := (transaction_endsOnce (refusing [.rollback]) 7 .readCommitted .sql92 .readWrite
    .engineDefault {}).2.1
  obtain ⟨sent, history, once, complete⟩ :=
    life _ _ [.use (.executeSql "DELETE FROM t"), .rollback] _ _ _ rfl rfl
  exact ⟨_, sent, history, once, complete rfl (by decide), rfl⟩

/-- The rollback succeeds and autocommit stays off, since the driver refuses to switch it on.
A commit that is refused behind a closure that succeeded is not followed by a rollback. -/
theorem autocommit_stays_off :
    (∃ txn begun final,
      beginWithLockTimeout (refusing [.setAutocommit true]) 7 .readCommitted .sql92 .readWrite
          .engineDefault {} = (.ok txn, begun) ∧
        run (Transaction.step (refusing [.setAutocommit true])) [.rollback] (some txn, begun) =
          some ((none, final), [.ok ()]) ∧
        final.connection.autocommit = false) ∧
      ∃ final : Handles,
        executeWithLockTimeout (refusing [.commit]) 7 .readCommitted .sql92 .readWrite
            .engineDefault (.done (.ok ())) {} =
          (.error (.err (.odbcApi "Communication link failure")), final) ∧
        final.connection.history.map CallRecord.call =
          [.execute "SET TRANSACTION ISOLATION LEVEL READ COMMITTED", .setAutocommit false, .commit,
            .setAutocommit true] :=
  ⟨⟨_, _, _, rfl, rfl, rfl⟩, _, rfl, rfl⟩

end OdbcFast.Verification
