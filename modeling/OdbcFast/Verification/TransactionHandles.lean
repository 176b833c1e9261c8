import OdbcFast.Dart.TransactionHandle
import OdbcFast.Verification.Identifiers

/-!
# What a normal return of a transaction tells

An action that throws has its transaction rolled back once, and its error goes on. An action that
returns is followed by a commit, or by the release of its savepoint, of which neither is looked at.
So a normal return tells that the data is there as long as these are not refused.

Behind a savepoint an action is done or undone as a whole, on a database that keeps savepoints:
what the handle asks for becomes a statement with the quoted name, and the database reads it.
-/

namespace OdbcFast.Verification

open Wire OdbcFast.Dart OdbcFast.Dart.TransactionWorld

section

variable {O R T : Type} {backend : TransactionBackend O R} {world : TransactionWorld O}

/-! ## What a call leaves -/

@[simp] theorem call_handle (call : BackendCall) :
    (world.call backend call).2.handle = world.handle := rfl

/-- The transaction is the same, and what was asked for is not undone. -/
def Continues (world next : TransactionWorld O) : Prop :=
  next.handle.txnId = world.handle.txnId ∧ world.history <+: next.history

instance : IsPreorder (TransactionWorld O) Continues where
  refl _ := ⟨rfl, List.prefix_rfl⟩
  trans _ _ _ first second := ⟨second.1.trans first.1, first.2.trans second.2⟩

theorem continues_call (call : BackendCall) : Continues world (world.call backend call).2 :=
  ⟨rfl, List.prefix_append _ _⟩

theorem continues_finish (call : Nat → BackendCall) (next : TransactionHandleState) :
    Continues world (world.finish backend call next).2 := by
  rw [TransactionWorld.finish]
  split_ifs
  · exact refl_of Continues world
  · exact ⟨rfl, List.prefix_append _ _⟩

theorem continues_reply (op : TransactionWorld.Op O) (world : TransactionWorld O) :
    Continues world (reply backend op world).2 := by
  cases op with
  | commit | rollback => exact continues_finish _ _
  | createSavepoint | rollbackToSavepoint | releaseSavepoint | native => exact continues_call _
  | other => exact ⟨rfl, List.prefix_append _ _⟩

theorem continues_action (action : Action O R T) (world : TransactionWorld O) :
    Continues world (action.run (reply backend) world).2 :=
  Interaction.run_keeps continues_reply action world

/-- An active handle asks once. -/
theorem history_finish_of_active (active : world.handle.state = .active)
    (call : Nat → BackendCall) (next : TransactionHandleState) :
    (world.finish backend call next).2.history = world.history ++
      [.call (call world.handle.txnId)
        (backend.answer world.history (call world.handle.txnId))] := by
  rw [TransactionWorld.finish, if_neg (not_not_intro active)]
  rfl

theorem history_finish_of_ended (ended : world.handle.state ≠ .active)
    (call : Nat → BackendCall) (next : TransactionHandleState) :
    (world.finish backend call next).2.history = world.history := by
  rw [TransactionWorld.finish, if_pos ended]

/-! ## Transactions -/

/-- Behind what was asked for before, the backend has accepted a commit of the transaction. -/
def CommitAccepted (txnId : Nat) (before history : List (BackendRecord O)) : Prop :=
  .call (.commitTransaction txnId) true ∈ history.drop before.length

variable (backend) in
/-- What `runWithBegin` is for. -/
structure RunsInTransaction (begun : ActionOutcome (Option TransactionHandle))
    (action : Action O R T) (history : List (BackendRecord O))
    (ran : ActionOutcome T × List (BackendRecord O)) : Prop where
  durable : ∀ value, ran.1 = .returned value →
    ∃ txn, begun = .returned (some txn) ∧ CommitAccepted txn.txnId history ran.2
  rolledBack : ∀ txn error world, begun = .returned (some txn) →
    action.run (reply backend) ⟨txn, history⟩ = (.threw error, world) →
    world.handle.state = .active → ran.1 = .threw error ∧
      ∃ ok, ran.2 = world.history ++ [.call (.rollbackTransaction txn.txnId) ok]
  refused : ∀ txn value world, begun = .returned (some txn) →
    action.run (reply backend) ⟨txn, history⟩ = (.returned value, world) →
    ran.2 = world.history ++ [.call (.commitTransaction txn.txnId) false] →
    ∃ error, ran.1 = .threw error

variable (backend) in
/-- Behind an action that returns, the commit is accepted, or the action has committed. -/
def CommitsAccepted (begun : ActionOutcome (Option TransactionHandle)) (action : Action O R T)
    (history : List (BackendRecord O)) : Prop :=
  ∀ txn value world, begun = .returned (some txn) →
    action.run (reply backend) ⟨txn, history⟩ = (.returned value, world) →
    if world.handle.state = .active then
      backend.answer world.history (.commitTransaction txn.txnId) = true
    else CommitAccepted txn.txnId history world.history

variable {begun : ActionOutcome (Option TransactionHandle)} {action : Action O R T}
  {history : List (BackendRecord O)} {txn : TransactionHandle} {value : T} {error : String}

theorem runWithBegin_of_returned
    (ran : action.run (reply backend) ⟨txn, history⟩ = (.returned value, world)) :
    runWithBegin backend (.returned (some txn)) action history =
      (.returned value, (world.commit backend).2.history) := by
  rw [runWithBegin, ran]

theorem runWithBegin_of_threw
    (ran : action.run (reply backend) ⟨txn, history⟩ = (.threw error, world)) :
    runWithBegin backend (.returned (some txn)) action history =
      (.threw error, if world.handle.state = .active then (world.rollback backend).2.history
        else world.history) := by
  rw [runWithBegin, ran]
  dsimp only
  split_ifs <;> rfl

theorem txnId_of_run {outcome : ActionOutcome T}
    (ran : action.run (reply backend) ⟨txn, history⟩ = (outcome, world)) :
    world.handle.txnId = txn.txnId := by
  have continues := @continues_action _ _ _ backend action ⟨txn, history⟩
  rw [ran] at continues
  exact continues.1

/-- What stands behind the action once the commit has been tried. -/
theorem history_commit
    (ran : action.run (reply backend) ⟨txn, history⟩ = (.returned value, world)) :
    (world.commit backend).2.history =
      if world.handle.state = .active then world.history ++
        [.call (.commitTransaction txn.txnId)
          (backend.answer world.history (.commitTransaction txn.txnId))]
      else world.history := by
  rw [← txnId_of_run ran]
  split_ifs with active
  · exact history_finish_of_active active _ _
  · exact history_finish_of_ended active _ _

theorem history_run {outcome : ActionOutcome T}
    (ran : action.run (reply backend) ⟨txn, history⟩ = (outcome, world)) :
    history <+: world.history := by
  have continues := @continues_action _ _ _ backend action ⟨txn, history⟩
  rw [ran] at continues
  exact continues.2

theorem commitAccepted_append {txnId : Nat} {answer : Bool} {before now : List (BackendRecord O)}
    (grown : before <+: now) :
    CommitAccepted txnId before (now ++ [.call (.commitTransaction txnId) answer]) ↔
      CommitAccepted txnId before now ∨ answer = true := by
  rw [CommitAccepted, List.drop_append_of_le_length grown.length_le, List.mem_append,
    List.mem_singleton]
  apply or_congr_right
  rw [BackendRecord.call.injEq]
  exact ⟨fun same => same.2.symm, fun same => ⟨rfl, same.symm⟩⟩

/-- The rollback behind an action that throws is always as it should be. -/
theorem rolledBack_runWithBegin
    (ran : action.run (reply backend) ⟨txn, history⟩ = (.threw error, world))
    (active : world.handle.state = .active) :
    (runWithBegin backend (.returned (some txn)) action history).1 = .threw error ∧
      ∃ ok, (runWithBegin backend (.returned (some txn)) action history).2 =
        world.history ++ [.call (.rollbackTransaction txn.txnId) ok] := by
  rw [runWithBegin_of_threw ran, if_pos active, ← txnId_of_run ran]
  exact ⟨rfl, _, history_finish_of_active active _ _⟩

theorem runsInTransaction_iff (begun : ActionOutcome (Option TransactionHandle))
    (action : Action O R T) (history : List (BackendRecord O)) :
    RunsInTransaction backend begun action history (runWithBegin backend begun action history) ↔
      CommitsAccepted backend begun action history := by
  constructor
  · rintro runs txn value world rfl ran
    have behind := history_commit ran
    have durable := runs.durable
    have refused := runs.refused txn value world rfl ran
    rw [runWithBegin_of_returned ran, behind] at durable refused
    obtain ⟨txn', same, accepted⟩ := durable value rfl
    cases same
    split_ifs at accepted refused ⊢
    · by_contra failed
      rw [Bool.not_eq_true] at failed
      rw [failed] at refused
      obtain ⟨error, threw⟩ := refused rfl
      cases threw
    · exact accepted
  · intro accepts
    refine ⟨?_, ?_, ?_⟩
    · intro value returned
      cases begun with
      | threw error => cases returned
      | returned result =>
          cases result with
          | none => cases returned
          | some txn =>
              refine ⟨txn, rfl, ?_⟩
              rcases ran : action.run (reply backend) ⟨txn, history⟩ with ⟨outcome, world⟩
              cases outcome with
              | threw error =>
                  rw [runWithBegin_of_threw ran] at returned
                  cases returned
              | returned value =>
                  have accepted := accepts txn value world rfl ran
                  rw [runWithBegin_of_returned ran, history_commit ran]
                  split_ifs at accepted ⊢
                  · exact (commitAccepted_append (history_run ran)).mpr (.inr accepted)
                  · exact accepted
    · rintro txn error world rfl ran active
      exact rolledBack_runWithBegin ran active
    · rintro txn value world rfl ran behind
      have accepted := accepts txn value world rfl ran
      rw [runWithBegin_of_returned ran, history_commit ran] at behind
      split_ifs at accepted behind
      · rw [accepted] at behind
        cases List.append_cancel_left behind
      · cases List.self_eq_append_right.mp behind

/-! ## Savepoints -/

/-- A normal return tells that the savepoint was created first and released last. -/
def ReleasesSavepoint (name : String) (world : TransactionWorld O)
    (ran : ActionOutcome T × TransactionWorld O) : Prop :=
  ∀ value, ran.1 = .returned value → ∃ between, ran.2.history =
    world.history ++ [.call (.createSavepoint world.handle.txnId name) true] ++ between ++
      [.call (.releaseSavepoint world.handle.txnId name) true]

variable (backend) in
/-- Behind an action that returns, the release is accepted. -/
def ReleaseAccepted (name : String) (action : Action O R T) (world : TransactionWorld O) : Prop :=
  backend.answer world.history (.createSavepoint world.handle.txnId name) = true →
    ∀ value after, action.run (reply backend) (world.createSavepoint backend name).2 =
      (.returned value, after) →
    backend.answer after.history (.releaseSavepoint world.handle.txnId name) = true

theorem createSavepoint_eq (name : String) (world : TransactionWorld O) :
    world.createSavepoint backend name =
      (backend.answer world.history (.createSavepoint world.handle.txnId name),
        { world with history := world.history ++
          [.call (.createSavepoint world.handle.txnId name)
            (backend.answer world.history (.createSavepoint world.handle.txnId name))] }) := rfl

theorem releasesSavepoint_iff (name : String) (action : Action O R T)
    (world : TransactionWorld O) :
    ReleasesSavepoint name world (withSavepoint backend name action world) ↔
      ReleaseAccepted backend name action world := by
  rw [withSavepoint, ReleaseAccepted, createSavepoint_eq]
  cases created : backend.answer world.history (.createSavepoint world.handle.txnId name) with
  | false =>
      apply iff_of_true
      · intro value returned
        cases returned
      · intro accepted
        cases accepted
  | true =>
      dsimp only
      rw [if_neg (not_not_intro rfl)]
      have continues := @continues_action _ _ _ backend action { world with history :=
        world.history ++ [.call (.createSavepoint world.handle.txnId name) true] }
      generalize action.run (reply backend) { world with history :=
        world.history ++ [.call (.createSavepoint world.handle.txnId name) true] } = ran
        at continues ⊢
      obtain ⟨outcome, after⟩ := ran
      obtain ⟨same, between, grown⟩ := continues
      dsimp only at same grown
      cases outcome with
      | threw error =>
          apply iff_of_true
          · intro value returned
            cases returned
          · intro _ value after' ran
            cases ran
      | returned value =>
          have released : (after.releaseSavepoint backend name).2.history = after.history ++
              [.call (.releaseSavepoint world.handle.txnId name)
                (backend.answer after.history (.releaseSavepoint world.handle.txnId name))] := by
            rw [← same]
            rfl
          constructor
          · rintro releases - value' after' ran
            cases ran
            obtain ⟨between', behind⟩ := releases value rfl
            rw [released] at behind
            have last := List.append_inj_right' behind rfl
            exact (BackendRecord.call.inj (List.singleton_inj.mp last)).2
          · rintro accepted value' -
            refine ⟨between, ?_⟩
            rw [released, accepted rfl value after rfl, grown]

/-- A transaction and a savepoint are what their normal returns tell exactly if a commit, or a
release, that comes behind an action is accepted. -/
theorem normal_return_iff (backend : TransactionBackend O R)
    (begun : ActionOutcome (Option TransactionHandle)) (action : Action O R T)
    (history : List (BackendRecord O)) (name : String) (world : TransactionWorld O) :
    (RunsInTransaction backend begun action history (runWithBegin backend begun action history) ∧
        ReleasesSavepoint name world (withSavepoint backend name action world)) ↔
      CommitsAccepted backend begun action history ∧ ReleaseAccepted backend name action world :=
  and_congr (runsInTransaction_iff begun action history) (releasesSavepoint_iff name action world)

end

/-- A backend that refuses to commit. -/
def refusesCommit : TransactionBackend Unit Unit where
  answer _ call := match call with
    | .commitTransaction _ => false
    | _ => true
  other _ _ := ()

/-- The value is returned, and nothing was committed. -/
theorem refused_commit_returns :
    runWithBegin refusesCommit (.returned (some ⟨1, .active⟩)) (.done (.returned 42)) [] =
      (.returned 42, [.call (.commitTransaction 1) false]) ∧
    ¬ RunsInTransaction refusesCommit (.returned (some ⟨1, .active⟩))
      (.done (.returned 42) : Action Unit Unit Nat) []
      (runWithBegin refusesCommit (.returned (some ⟨1, .active⟩)) (.done (.returned 42)) []) := by
  refine ⟨rfl, fun runs => ?_⟩
  obtain ⟨txn, same, accepted⟩ := runs.durable 42 rfl
  cases same
  cases List.mem_singleton.mp accepted

/-! ## All or nothing -/

section

open Native (cText)
open Native.Engine (CallRecord ConnectionCall ConnectionDriver TransactionSlots)

variable {κ δ : Type} [DecidableEq κ]

/-- What a database does of a call about a savepoint, which fails if there is none. -/
def SavepointCall.effect (replaces keeps : Bool) (key : κ) (state : WithMarks κ δ) :
    SavepointCall → Option (WithMarks κ δ)
  | .create => some (state.set replaces key)
  | .rollbackTo => state.back keeps key
  | .release => state.forget key

/-- A database that keeps savepoints. Names are told apart by their keys. A second savepoint of a
name may take the place of the first, and one that was gone back to may stay. -/
structure SavepointServer (κ δ : Type) [DecidableEq κ] (driver : ConnectionDriver)
    (dialect : Native.Engine.SavepointDialect) where
  marked : List CallRecord → WithMarks κ δ
  key : String → κ
  replaces : Bool
  keeps : Bool
  /-- The calls that leave all savepoints alone. -/
  ordinary : ConnectionCall → Prop
  accepts : ∀ history (call : SavepointCall) name words sql,
    call.words dialect = some words →
    Names (Native.Engine.Transaction.quotingFor dialect) words name sql →
    driver.answer history (.execute sql) = .ok () →
    call.effect replaces keeps (key name) (marked history) =
      some (marked (history ++ [⟨.execute sql, .ok ()⟩]))
  refuses : ∀ history (call : SavepointCall) name words sql error,
    call.words dialect = some words →
    Names (Native.Engine.Transaction.quotingFor dialect) words name sql →
    driver.answer history (.execute sql) = .error error →
    marked (history ++ [⟨.execute sql, .error error⟩]) = marked history
  stays : ∀ history call answer, ordinary call →
    (marked (history ++ [⟨call, answer⟩])).marks = (marked history).marks

namespace SavepointCall

def asked : SavepointCall → Nat → String → BackendCall
  | .create => .createSavepoint
  | .rollbackTo => .rollbackToSavepoint
  | .release => .releaseSavepoint

/-- How the errors call it. -/
def verb : SavepointCall → String
  | .create => "create"
  | .rollbackTo => "rollback"
  | .release => "release"

theorem perform_asked (call : SavepointCall) (drivers : Nat → ConnectionDriver) (txnId : Nat)
    (name : String) :
    (call.asked txnId name).perform drivers = TransactionSlots.savepointDispatch drivers call.verb
      (fun driver txn name => call.perform driver txn name) txnId (cText name) := by
  cases call with
  | create | rollbackTo | release => rfl

theorem exists_words (call : SavepointCall) (other : call ≠ .release)
    (dialect : Native.Engine.SavepointDialect) : ∃ words, call.words dialect = some words := by
  cases call with
  | release => exact absurd rfl other
  | create | rollbackTo =>
      cases dialect with
      | auto | sql92 | sqlServer => exact ⟨_, rfl⟩

end SavepointCall

theorem executeSql_perform (driver : ConnectionDriver) (txn : Native.Engine.Transaction)
    (sql : String) (handles : Native.Engine.Handles) :
    (txn.executeSql driver sql).perform handles =
      match handles.reach txn.connId "Failed to lock handles for execute_sql" with
      | .error error => (.error error, handles)
      | .ok () => handles.call driver (.execute sql) := by
  rw [Native.Engine.Transaction.executeSql]
  generalize reached : handles.reach txn.connId "Failed to lock handles for execute_sql" = result
  have first : (Fallible.of fun handles : Native.Engine.Handles =>
      (handles.reach txn.connId "Failed to lock handles for execute_sql",
        handles)).perform handles = (result, handles) := by
    rw [Fallible.perform_of, reached]
  cases result with
  | error error => exact Fallible.perform_bind_error first
  | ok done => exact Fallible.perform_bind_ok first

/-- No transaction is begun, and the other connections are left alone. -/
structure Elsewhere (connId : Nat) (slots next : TransactionSlots) : Prop where
  alone : next.handles connId = slots.handles connId
  kept : ∀ id txn, slots.transactions.lookup id = some txn → txn.connId = connId →
    next.transactions.lookup id = some txn
  fewer : ∀ id txn, next.transactions.lookup id = some txn →
    slots.transactions.lookup id = some txn

section

variable {drivers : Nat → ConnectionDriver} {slots : TransactionSlots} {connId : Nat}

theorem elsewhere_refl (connId : Nat) (slots : TransactionSlots) : Elsewhere connId slots slots :=
  ⟨rfl, fun _ _ found _ => found, fun _ _ found => found⟩

theorem elsewhere_savepoint {verb : String} {txnId : Nat} {name : String}
    {action : ConnectionDriver → Native.Engine.Transaction → String →
      Fallible Native.Engine.Handles Native.OdbcError Unit}
    (other : ∀ txn ∈ slots.transactions.lookup txnId, txn.connId ≠ connId) :
    Elsewhere connId slots
      (TransactionSlots.savepointDispatch drivers verb action txnId name slots).2 := by
  rw [TransactionSlots.savepointDispatch]
  cases found : slots.transactions.lookup txnId with
  | none => exact elsewhere_refl connId slots
  | some txn =>
      refine ⟨?_, fun _ _ found _ => found, fun _ _ found => found⟩
      exact Function.update_of_ne (other txn found).symm _ _

theorem elsewhere_finish {verb : String} {txnId : Nat}
    {call : ConnectionDriver → Native.Engine.Transaction → Native.Engine.Handles →
      Except Native.OdbcError Unit × Native.Engine.Handles}
    (other : ∀ txn ∈ slots.transactions.lookup txnId, txn.connId ≠ connId) :
    Elsewhere connId slots (TransactionSlots.finish drivers verb call txnId slots).2 := by
  rw [TransactionSlots.finish]
  cases found : slots.transactions.lookup txnId with
  | none => exact elsewhere_refl connId slots
  | some txn =>
      refine ⟨Function.update_of_ne (other txn found).symm _ _, ?_, ?_⟩
      · intro id txn' found' here
        refine HashMap.lookup_erase_eq_some.mpr ⟨?_, found'⟩
        rintro rfl
        exact other txn' found' here
      · intro id txn' found'
        exact (HashMap.lookup_erase_eq_some.mp found').2

theorem elsewhere_perform (call : BackendCall)
    (other : ∀ txn ∈ slots.transactions.lookup call.txnId, txn.connId ≠ connId) :
    Elsewhere connId slots (call.perform drivers slots).2 := by
  cases call with
  | commitTransaction | rollbackTransaction => exact elsewhere_finish other
  | createSavepoint | rollbackToSavepoint | releaseSavepoint => exact elsewhere_savepoint other

end

namespace SavepointServer

section

variable {driver : ConnectionDriver} {txn : Native.Engine.Transaction}
  (server : SavepointServer κ δ driver txn.savepointDialect)

/-- What has come of a call. A refused one has changed nothing. -/
def Answered (call : SavepointCall) (name : String) (before after : WithMarks κ δ) : Bool → Prop
  | false => after = before
  | true => AcceptedName name ∧ match call.words txn.savepointDialect with
    | none => after = before
    | some _ => call.effect server.replaces server.keeps (server.key name) before = some after

theorem answered_perform (call : SavepointCall) (name : String)
    (handles : Native.Engine.Handles) :
    server.Answered call name (server.marked handles.connection.history)
      (server.marked ((call.perform driver txn name).perform handles).2.connection.history)
      (isOk ((call.perform driver txn name).perform handles).1) := by
  by_cases accepted : AcceptedName name
  · rw [perform_of_accepted call accepted]
    cases said : call.words txn.savepointDialect with
    | none =>
        refine ⟨accepted, ?_⟩
        rw [said]
        rfl
    | some words =>
        have named := names_of_front accepted (call.readAll_front txn.savepointDialect words said)
        dsimp only
        rw [executeSql_perform]
        cases handles.reach txn.connId "Failed to lock handles for execute_sql" with
        | error error => rfl
        | ok reached =>
            dsimp only [Native.Engine.Handles.call, Native.Engine.Connection.call]
            cases answer : driver.answer handles.connection.history (.execute (call.front
              txn.savepointDialect ++ (Native.Engine.Transaction.quotingFor
                txn.savepointDialect).wrap name)) with
            | error error => exact server.refuses _ call name words _ error said named answer
            | ok done =>
                refine ⟨accepted, ?_⟩
                rw [said]
                exact server.accepts _ call name words _ said named answer
  · obtain ⟨text, refused⟩ := @perform_of_not_accepted driver txn name handles call accepted
    rw [refused]
    rfl

end

section

variable {drivers : Nat → ConnectionDriver} {txn : Native.Engine.Transaction}
  (server : SavepointServer κ δ (drivers txn.connId) txn.savepointDialect)

/-- Where the connection of the transaction stands. -/
def stands (slots : TransactionSlots) : WithMarks κ δ :=
  server.marked (slots.handles txn.connId).connection.history

variable {slots : TransactionSlots} {txnId : Nat}

theorem answered_asked (found : slots.transactions.lookup txnId = some txn)
    (call : SavepointCall) (name : String) :
    server.Answered call (cText name) (server.stands slots)
        (server.stands ((call.asked txnId name).perform drivers slots).2)
        (isOk ((call.asked txnId name).perform drivers slots).1) ∧
      ((call.asked txnId name).perform drivers slots).2.transactions = slots.transactions := by
  have answered := server.answered_perform call (cText name) (slots.handles txn.connId)
  rw [call.perform_asked, TransactionSlots.savepointDispatch, found]
  refine ⟨?_, rfl⟩
  dsimp only [stands]
  rw [Function.update_self]
  generalize (call.perform (drivers txn.connId) txn (cText name)).perform
    (slots.handles txn.connId) = ran at answered ⊢
  obtain ⟨result, handles⟩ := ran
  cases result with
  | ok | error => exact answered

/-! ### What an action may do -/

/-- Not the key of the savepoint, nor of one that is below it. -/
def Fresh (keys : κ → Prop) (name : String) : Prop :=
  AcceptedName (cText name) → ¬ keys (server.key (cText name))

/-- What leaves the transaction open, and alone the savepoints with these keys. -/
def Careful (keys : κ → Prop) (start : TransactionSlots) (txnId : Nat) :
    TransactionWorld.Op ConnectionEvent → Prop
  | .commit | .rollback => False
  | .createSavepoint name | .rollbackToSavepoint name | .releaseSavepoint name =>
    server.Fresh keys name
  | .native call =>
    (∀ txn' ∈ start.transactions.lookup call.txnId, txn'.connId ≠ txn.connId) ∨
      ∃ (asked : SavepointCall) (name : String), call = asked.asked txnId name ∧
        server.Fresh keys name
  | .other (connId, call) => connId ≠ txn.connId ∨ server.ordinary call

/-- The transaction is open, and nothing is done to the savepoints with these keys. -/
structure Spared (keys : κ → Prop) (base : List (κ × δ)) (start : TransactionSlots) (txnId : Nat)
    (slots : TransactionSlots) : Prop where
  found : slots.transactions.lookup txnId = some txn
  fewer : ∀ id txn', slots.transactions.lookup id = some txn' →
    start.transactions.lookup id = some txn'
  above : WithMarks.Above keys base (server.stands slots)

variable {keys : κ → Prop} {base : List (κ × δ)} {start : TransactionSlots}

theorem above_of_answered {call : SavepointCall} {name : String} {before after : WithMarks κ δ}
    {ok : Bool} (known : ∀ mark ∈ base, keys mark.1) (fresh : server.Fresh keys name)
    (answered : server.Answered call (cText name) before after ok)
    (above : WithMarks.Above keys base before) : WithMarks.Above keys base after := by
  cases ok with
  | false =>
      obtain rfl : after = before := answered
      exact above
  | true =>
      obtain ⟨accepted, done⟩ := answered
      have other := fresh accepted
      cases said : call.words txn.savepointDialect with
      | none =>
          rw [said] at done
          obtain rfl : after = before := done
          exact above
      | some words =>
          rw [said] at done
          cases call with
          | create =>
              obtain rfl := Option.some.inj done
              exact above.set known other server.replaces
          | rollbackTo => exact above.back known other done
          | release => exact above.forget known other done

theorem Spared.asked (spared : server.Spared keys base start txnId slots)
    (known : ∀ mark ∈ base, keys mark.1) (call : SavepointCall) {name : String}
    (fresh : server.Fresh keys name) :
    server.Spared keys base start txnId ((call.asked txnId name).perform drivers slots).2 := by
  obtain ⟨answered, same⟩ := server.answered_asked spared.found call name
  refine ⟨?_, ?_, server.above_of_answered known fresh answered spared.above⟩
  · rw [same]
    exact spared.found
  · rw [same]
    exact spared.fewer

theorem Spared.elsewhere {next : TransactionSlots}
    (spared : server.Spared keys base start txnId slots)
    (elsewhere : Elsewhere txn.connId slots next) :
    server.Spared keys base start txnId next := by
  refine ⟨elsewhere.kept txnId txn spared.found rfl, ?_, ?_⟩
  · intro id txn' found
    exact spared.fewer id txn' (elsewhere.fewer id txn' found)
  · rw [stands, elsewhere.alone]
    exact spared.above

theorem Spared.event (spared : server.Spared keys base start txnId slots) (connId : Nat)
    (call : ConnectionCall) (careful : connId ≠ txn.connId ∨ server.ordinary call) :
    server.Spared keys base start txnId (performEvent drivers (connId, call) slots).2 := by
  refine ⟨spared.found, spared.fewer, ?_⟩
  by_cases same : txn.connId = connId
  · subst same
    have ordinary := careful.resolve_left (not_not_intro rfl)
    refine spared.above.of_marks ?_
    dsimp only [stands, performEvent]
    rw [Function.update_self]
    exact server.stays _ call _ ordinary
  · have alone : (performEvent drivers (connId, call) slots).2.handles txn.connId =
        slots.handles txn.connId := Function.update_of_ne same _ _
    rw [stands, alone]
    exact spared.above

/-! ### The run of an action -/

@[simp] theorem slotsBehind_append (drivers : Nat → ConnectionDriver) (start : TransactionSlots)
    (history : List (BackendRecord ConnectionEvent)) (call : BackendCall) (ok : Bool) :
    slotsBehind drivers start (history ++ [.call call ok]) =
      (call.perform drivers (slotsBehind drivers start history)).2 := by
  rw [slotsBehind, List.foldl_append]
  rfl

/-- The native library in a world. -/
def slotsIn (drivers : Nat → ConnectionDriver) (start : TransactionSlots)
    (world : TransactionWorld ConnectionEvent) : TransactionSlots :=
  slotsBehind drivers start world.history

theorem slotsIn_call (world : TransactionWorld ConnectionEvent) (call : BackendCall) :
    slotsIn drivers start (world.call (nativeBackend drivers start) call).2 =
      (call.perform drivers (slotsIn drivers start world)).2 :=
  slotsBehind_append drivers start world.history call _

theorem slotsIn_createSavepoint (world : TransactionWorld ConnectionEvent) (name : String) :
    slotsIn drivers start (world.createSavepoint (nativeBackend drivers start) name).2 =
      ((SavepointCall.create.asked world.handle.txnId name).perform drivers
        (slotsIn drivers start world)).2 :=
  slotsIn_call world _

theorem slotsIn_other (world : TransactionWorld ConnectionEvent) (event : ConnectionEvent) :
    slotsIn drivers start (reply (nativeBackend drivers start) (.other event) world).2 =
      (performEvent drivers event (slotsIn drivers start world)).2 := by
  dsimp only [slotsIn, reply, slotsBehind]
  rw [List.foldl_append]
  rfl

variable {begun : TransactionSlots}

theorem spared_reply (known : ∀ mark ∈ base, keys mark.1)
    (op : TransactionWorld.Op ConnectionEvent) (world : TransactionWorld ConnectionEvent)
    (careful : server.Careful keys begun txnId op)
    (spared : world.handle.txnId = txnId ∧
      server.Spared keys base begun txnId (slotsIn drivers start world)) :
    (reply (nativeBackend drivers start) op world).2.handle.txnId = txnId ∧
      server.Spared keys base begun txnId
        (slotsIn drivers start (reply (nativeBackend drivers start) op world).2) := by
  obtain ⟨rfl, spared⟩ := spared
  refine ⟨(continues_reply op world).1, ?_⟩
  cases op with
  | commit | rollback => exact careful.elim
  | createSavepoint name =>
      exact (slotsIn_call world _).symm ▸ spared.asked server known .create careful
  | rollbackToSavepoint name =>
      exact (slotsIn_call world _).symm ▸ spared.asked server known .rollbackTo careful
  | releaseSavepoint name =>
      exact (slotsIn_call world _).symm ▸ spared.asked server known .release careful
  | native call =>
      have moved := @slotsIn_call drivers start world call
      obtain other | ⟨asked, name, rfl, fresh⟩ := careful
      · refine moved.symm ▸ spared.elsewhere server (elsewhere_perform call ?_)
        intro txn' found
        exact other txn' (spared.fewer _ txn' found)
      · exact moved.symm ▸ spared.asked server known asked fresh
  | other event =>
      rw [slotsIn_other]
      exact spared.event server event.1 event.2 careful

/-! ### The savepoint at the end -/

/-- What is asked for when the action has ended. -/
def lastCall {T : Type} : ActionOutcome T → SavepointCall
  | .returned _ => .release
  | .threw _ => .rollbackTo

/-- The database behind its savepoint. -/
def marking (name : String) (before : WithMarks κ δ) : WithMarks κ δ :=
  before.set server.replaces (server.key (cText name))

/-- Where the database stands behind the last call. When that is refused, all is as the action has
left it. Else the savepoint is gone, with those set by the action, or the database is where it was;
and nothing is said to SQL Server about a release. -/
def Settled {T : Type} (name : String) (before within after : WithMarks κ δ) :
    ActionOutcome T → Bool → Prop
  | _, false => after = within
  | .threw _, true => after = ⟨before.current,
      if server.keeps then (server.marking name before).marks
      else (server.marking name before).marks.tail⟩
  | .returned _, true => match SavepointCall.words .release txn.savepointDialect with
    | none => after = within
    | some _ => after = ⟨within.current, (server.marking name before).marks.tail⟩

/-- The keys of a savepoint and of those that are below it. -/
def keysFrom (name : String) (before : WithMarks κ δ) (key : κ) : Prop :=
  key = server.key (cText name) ∨ ∃ mark ∈ before.marks, mark.1 = key

/-- An action runs behind a savepoint, which is there when it ends, or it does not run. -/
structure AllOrNothing {T : Type} (start : TransactionSlots) (name : String)
    (action : Action ConnectionEvent (Except Native.OdbcError Unit) T)
    (world : TransactionWorld ConnectionEvent) : Prop where
  refused : (world.createSavepoint (nativeBackend drivers start) name).1 = false →
    (∃ error, (withSavepoint (nativeBackend drivers start) name action world).1 = .threw error) ∧
    server.stands (slotsIn drivers start
      (withSavepoint (nativeBackend drivers start) name action world).2) =
        server.stands (slotsIn drivers start world)
  runs : (world.createSavepoint (nativeBackend drivers start) name).1 = true →
    ∃ outcome within ok,
      action.run (reply (nativeBackend drivers start))
        (world.createSavepoint (nativeBackend drivers start) name).2 = (outcome, within) ∧
      (withSavepoint (nativeBackend drivers start) name action world).1 = outcome ∧
      (withSavepoint (nativeBackend drivers start) name action world).2.history =
        within.history ++ [.call ((lastCall outcome).asked world.handle.txnId name) ok] ∧
      server.Settled name (server.stands (slotsIn drivers start world))
        (server.stands (slotsIn drivers start within))
        (server.stands (slotsIn drivers start
          (withSavepoint (nativeBackend drivers start) name action world).2)) outcome ok

theorem settled_of_answered {T : Type} {name : String} {before within after : WithMarks κ δ}
    {ok : Bool} (outcome : ActionOutcome T)
    (above : WithMarks.Above (server.keysFrom name before) (server.marking name before).marks
      within)
    (answered : server.Answered (lastCall outcome) (cText name) within after ok) :
    server.Settled name before within after outcome ok := by
  cases ok with
  | false =>
      cases outcome with
      | returned | threw => exact answered
  | true =>
      obtain ⟨-, done⟩ := answered
      cases outcome with
      | returned value =>
          dsimp only [Settled]
          cases said : SavepointCall.words .release txn.savepointDialect with
          | none =>
              rw [lastCall, said] at done
              exact done
          | some words =>
              rw [lastCall, said] at done
              have gone := above.forget_self (.inl rfl)
              exact Option.some.inj (done.symm.trans gone)
      | threw error =>
          obtain ⟨words, said⟩ := SavepointCall.exists_words .rollbackTo (by decide)
            txn.savepointDialect
          rw [lastCall, said] at done
          have gone := above.back_self (.inl rfl) server.keeps
          exact Option.some.inj (done.symm.trans gone)

theorem withSavepoint_of_created {O R T : Type} {backend : TransactionBackend O R}
    {world within : TransactionWorld O} {name : String} {action : Action O R T}
    {outcome : ActionOutcome T} (created : (world.createSavepoint backend name).1 = true)
    (ran : action.run (reply backend) (world.createSavepoint backend name).2 = (outcome, within)) :
    withSavepoint backend name action world =
      (outcome, (within.call backend ((lastCall outcome).asked within.handle.txnId name)).2) := by
  rw [withSavepoint]
  dsimp only
  rw [if_neg (not_not_intro created), ran]
  cases outcome with
  | returned | threw => rfl

theorem mem_marking {name : String} {before : WithMarks κ δ} {mark : κ × δ}
    (member : mark ∈ (server.marking name before).marks) :
    server.keysFrom name before mark.1 := by
  rcases List.mem_cons.mp member with rfl | older
  · exact .inl rfl
  · refine .inr ⟨mark, ?_, rfl⟩
    split_ifs at older
    · exact (List.mem_filter.mp older).1
    · exact older

/-- What an action finds, and what it leaves. -/
theorem spared_run {T : Type} {name : String}
    {action : Action ConnectionEvent (Except Native.OdbcError Unit) T}
    {world within : TransactionWorld ConnectionEvent} {outcome : ActionOutcome T}
    (found : (slotsIn drivers start world).transactions.lookup world.handle.txnId = some txn)
    (careful : action.Only (server.Careful
      (server.keysFrom name (server.stands (slotsIn drivers start world)))
      (slotsIn drivers start world) world.handle.txnId))
    (created : (world.createSavepoint (nativeBackend drivers start) name).1 = true)
    (ran : action.run (reply (nativeBackend drivers start))
      (world.createSavepoint (nativeBackend drivers start) name).2 = (outcome, within)) :
    within.handle.txnId = world.handle.txnId ∧
      server.Spared (server.keysFrom name (server.stands (slotsIn drivers start world)))
        (server.marking name (server.stands (slotsIn drivers start world))).marks
        (slotsIn drivers start world) world.handle.txnId (slotsIn drivers start within) := by
  obtain ⟨answered, same⟩ := server.answered_asked found .create name
  have isOk_eq : isOk ((SavepointCall.create.asked world.handle.txnId name).perform drivers
    (slotsIn drivers start world)).1 = true := created
  obtain ⟨words, said⟩ := SavepointCall.exists_words .create (by decide) txn.savepointDialect
  rw [isOk_eq, Answered, said] at answered
  have set := Option.some.inj answered.2
  have begins : server.Spared (server.keysFrom name (server.stands (slotsIn drivers start world)))
      (server.marking name (server.stands (slotsIn drivers start world))).marks
      (slotsIn drivers start world) world.handle.txnId
      (slotsIn drivers start (world.createSavepoint (nativeBackend drivers start) name).2) := by
    rw [slotsIn_createSavepoint]
    refine ⟨?_, ?_, [], ?_, by simp⟩
    · rw [same]
      exact found
    · rw [same]
      exact fun _ _ found => found
    · rw [← set]
      rfl
  have kept := careful.run_invariant _
    (fun op world' here => server.spared_reply (fun mark => server.mem_marking) op world' here)
    ⟨(rfl : (world.createSavepoint (nativeBackend drivers start) name).2.handle.txnId = _), begins⟩
  rw [ran] at kept
  exact kept

/-- Behind a savepoint that was set, an action that throws leaves the database where it was, and one
that returns leaves its work with the savepoint gone, if the last call is accepted; one that is
refused changes nothing. The action leaves the transaction open, and on its connection it leaves
that savepoint and those before it alone. -/
theorem withSavepoint_is_atomic {T : Type}
    (server : SavepointServer κ δ (drivers txn.connId) txn.savepointDialect)
    (start : TransactionSlots) (name : String)
    (action : Action ConnectionEvent (Except Native.OdbcError Unit) T)
    (world : TransactionWorld ConnectionEvent)
    (found : (slotsIn drivers start world).transactions.lookup world.handle.txnId = some txn)
    (careful : action.Only (server.Careful
      (server.keysFrom name (server.stands (slotsIn drivers start world)))
      (slotsIn drivers start world) world.handle.txnId)) :
    server.AllOrNothing start name action world := by
  have asked := server.answered_asked found .create name
  constructor
  · intro refused
    have isOk_eq : isOk ((SavepointCall.create.asked world.handle.txnId name).perform drivers
      (slotsIn drivers start world)).1 = false := refused
    rw [isOk_eq] at asked
    rw [withSavepoint]
    dsimp only
    rw [refused, if_pos (by decide)]
    refine ⟨⟨_, rfl⟩, ?_⟩
    dsimp only
    rw [slotsIn_createSavepoint]
    exact asked.1
  · intro created
    rcases ran : action.run (reply (nativeBackend drivers start))
      (world.createSavepoint (nativeBackend drivers start) name).2 with ⟨outcome, within⟩
    obtain ⟨same, spared⟩ := server.spared_run found careful created ran
    have last := server.answered_asked spared.found (lastCall outcome) name
    refine ⟨outcome, within, isOk (((lastCall outcome).asked world.handle.txnId name).perform
      drivers (slotsIn drivers start within)).1, rfl, ?_⟩
    rw [withSavepoint_of_created created ran, slotsIn_call, same]
    exact ⟨rfl, rfl, server.settled_of_answered outcome spared.above last.1⟩

end

end SavepointServer

end

/-! ### A database with one table -/

section

open Native.Engine (CallRecord ConnectionDriver TransactionSlots)

/-- The savepoint that a statement is about. -/
def savepointOf (sql : String) : Option (SavepointCall × String) :=
  match Sql.statements (quotesOf .doubleQuote) sql.toList with
  | some [[.word first, .identifier name]] =>
    if first = "SAVEPOINT".toList then some (.create, String.ofList name) else none
  | some [[.word first, .word second, .identifier name]] =>
    if first = "RELEASE".toList ∧ second = "SAVEPOINT".toList then
      some (.release, String.ofList name)
    else none
  | some [[.word first, .word second, .word third, .identifier name]] =>
    if first = "ROLLBACK".toList ∧ second = "TO".toList ∧ third = "SAVEPOINT".toList then
      some (.rollbackTo, String.ofList name)
    else none
  | _ => none

theorem savepointOf_of_names {call : SavepointCall} {words : List String} {name sql : String}
    (said : call.words .sql92 = some words) (named : Names .doubleQuote words name sql) :
    savepointOf sql = some (call, name) := by
  have text : String.ofList name.toList = name := String.ofList_toList
  rw [savepointOf, named]
  cases call with
  | create | rollbackTo | release =>
      obtain rfl := Option.some.inj said
      simp [text]

/-- The savepoints, and the other statements as the rows of the table. -/
def tableStep (state : WithMarks String (List String)) :
    CallRecord → WithMarks String (List String)
  | ⟨.execute sql, .ok ()⟩ =>
    match savepointOf sql with
    | some (call, name) => (call.effect false true name state).getD state
    | none => { state with current := sql :: state.current }
  | _ => state

def tableAfter (history : List CallRecord) : WithMarks String (List String) :=
  history.foldl tableStep ⟨[], []⟩

theorem tableAfter_append (history : List CallRecord) (record : CallRecord) :
    tableAfter (history ++ [record]) = tableStep (tableAfter history) record := by
  rw [tableAfter, List.foldl_append]
  rfl

/-- It refuses a savepoint that is not there. -/
def tableDriver : ConnectionDriver where
  refusal history call := match call with
    | .execute sql => match savepointOf sql with
      | some (call, name) =>
        match call.effect false true name (tableAfter history) with
        | some _ => none
        | none => some (.internalError s!"no savepoint {name}")
      | none => none
    | _ => none
  engine _ := .postgres
  resetsAutocommit _ := false

def tableServer : SavepointServer String (List String) tableDriver .sql92 where
  marked := tableAfter
  key := id
  replaces := false
  keeps := true
  ordinary call := ∃ sql, call = .execute sql ∧ savepointOf sql = none
  accepts history call name words sql said named answer := by
    rw [ConnectionDriver.answer, tableDriver] at answer
    dsimp only at answer
    rw [tableAfter_append, tableStep, id]
    rw [savepointOf_of_names said named] at answer ⊢
    dsimp only at answer ⊢
    cases done : call.effect false true name (tableAfter history) with
    | some next => rfl
    | none =>
        rw [done] at answer
        cases answer
  refuses history call name words sql error said named answer := tableAfter_append history _
  stays history call answer ordinary := by
    obtain ⟨sql, rfl, other⟩ := ordinary
    rw [tableAfter_append]
    cases answer with
    | error error => rfl
    | ok done =>
        rw [tableStep, other]

def openTransaction : Native.Engine.Transaction :=
  ⟨1, .active, .readCommitted, .sql92, .readWrite, .engineDefault⟩

def openSlots : TransactionSlots where
  transactions := (∅ : HashMap Nat Native.Engine.Transaction).insert 7 openTransaction

/-- A row is written and a savepoint of its own gone back to, and then it fails. -/
def failingAction : Action ConnectionEvent (Except Native.OdbcError Unit) Unit :=
  .ask (.other (1, .execute "ROW")) fun _ => .ask (.createSavepoint "b") fun _ =>
    .ask (.rollbackToSavepoint "b") fun _ => .done (.threw "failed")

theorem withSavepoint_is_atomic_failing :
    (TransactionWorld.createSavepoint (nativeBackend (fun _ => tableDriver) openSlots) "a"
        ⟨⟨7, .active⟩, []⟩).1 = true ∧
      @SavepointServer.AllOrNothing String (List String) _ (fun _ => tableDriver) openTransaction
        tableServer Unit openSlots "a" failingAction ⟨⟨7, .active⟩, []⟩ := by
  have fresh : @SavepointServer.Fresh String (List String) _ (fun _ => tableDriver) openTransaction
      tableServer (@SavepointServer.keysFrom String (List String) _ (fun _ => tableDriver)
        openTransaction tableServer "a" ⟨[], []⟩) "b" := by
    rintro - (same | ⟨mark, member, -⟩)
    · exact absurd same (by decide)
    · cases member
  constructor
  · have accepted : AcceptedName (Native.cText "a") :=
      ⟨by decide, 'a', [], rfl, .inl (by decide), by simp⟩
    have found : openSlots.transactions.lookup 7 = some openTransaction := rfl
    have asked : (TransactionWorld.createSavepoint (nativeBackend (fun _ => tableDriver) openSlots)
        "a" ⟨⟨7, .active⟩, []⟩).1 =
        isOk ((SavepointCall.create.asked 7 "a").perform (fun _ => tableDriver) openSlots).1 := rfl
    rw [asked, SavepointCall.perform_asked, TransactionSlots.savepointDispatch, found]
    dsimp only
    rw [perform_of_accepted .create accepted]
    rfl
  · refine @SavepointServer.withSavepoint_is_atomic String (List String) _ (fun _ => tableDriver)
      openTransaction Unit tableServer openSlots "a" failingAction ⟨⟨7, .active⟩, []⟩ rfl ?_
    refine .ask (.inr ⟨_, rfl, by decide⟩) fun _ => ?_
    exact .ask fresh fun _ => .ask fresh fun _ => .done _

end

end OdbcFast.Verification
