import OdbcFast.Native.Error
import OdbcFast.Wire.Fallible

/-!
# A connection and its driver

The engine asks a driver what the database is, executes statements, sets the autocommit mode
and ends transactions. Which of these calls the driver refuses may depend on everything that
was called before. A refused call leaves the autocommit mode as it was, except that a driver
may switch it on when it cannot end a transaction.

A connection is reached through the handle manager. Other threads share the manager: they may
remove the connection from it, or poison a lock by a panic.
-/

namespace OdbcFast.Native.Engine

open Wire

/-- The `ENGINE_*` identifiers. -/
inductive EngineId where
  | sqlServer
  | postgres
  | mySql
  | mariaDb
  | oracle
  | sybaseAse
  | sybaseAsa
  | sqlite
  | db2
  | snowflake
  | redshift
  | bigQuery
  | mongoDb
  | unknown
  deriving DecidableEq, Repr

/-- A call of `odbc_api::Connection`. -/
inductive ConnectionCall where
  | databaseManagementSystemName
  | execute (sql : String)
  | setAutocommit (enabled : Bool)
  | commit
  | rollback
  deriving DecidableEq, Repr

namespace ConnectionCall

/-- The call ends a transaction (`SQLEndTran`). -/
def endsTransaction : ConnectionCall → Bool
  | .commit | .rollback => true
  | _ => false

/-- The call is a query or a statement. -/
def isStatement : ConnectionCall → Bool
  | .databaseManagementSystemName | .execute _ => true
  | _ => false

theorem isStatement.not_endsTransaction {call : ConnectionCall} (statement : call.isStatement) :
    ¬ call.endsTransaction := by
  cases call <;> simp_all [isStatement, endsTransaction]

end ConnectionCall

structure CallRecord where
  call : ConnectionCall
  answer : Except OdbcError Unit

def CallRecord.endsTransaction (record : CallRecord) : Bool := record.call.endsTransaction

/-- A driver, by what it does after the calls made so far. -/
structure ConnectionDriver where
  /-- The error with which a call is refused. -/
  refusal : List CallRecord → ConnectionCall → Option OdbcError
  /-- The engine that the name of the database stands for. -/
  engine : List CallRecord → EngineId
  /-- Whether refusing to end a transaction switches autocommit on. -/
  resetsAutocommit : List CallRecord → Bool

structure Connection where
  autocommit : Bool := true
  /-- Oldest first. -/
  history : List CallRecord := []

namespace ConnectionDriver

def answer (driver : ConnectionDriver) (history : List CallRecord) (call : ConnectionCall) :
    Except OdbcError Unit :=
  match driver.refusal history call with
  | some error => .error error
  | none => .ok ()

/-- The autocommit mode after a call with this answer. -/
def mode (driver : ConnectionDriver) (conn : Connection) :
    ConnectionCall → Except OdbcError Unit → Bool
  | .setAutocommit enabled, .ok () => enabled
  | .commit, .error _ | .rollback, .error _ =>
    conn.autocommit || driver.resetsAutocommit conn.history
  | _, _ => conn.autocommit

end ConnectionDriver

def Connection.call (driver : ConnectionDriver) (call : ConnectionCall) (conn : Connection) :
    Except OdbcError Unit × Connection :=
  let answer := driver.answer conn.history call
  (answer, ⟨driver.mode conn call answer, conn.history ++ [⟨call, answer⟩]⟩)

/-! ## The handle manager -/

/-- The handle manager, as far as one connection is concerned. -/
structure Handles where
  poisoned : Bool := false
  registered : Bool := true
  connectionPoisoned : Bool := false
  connection : Connection := {}

/-- What other threads do to the handle manager. -/
inductive HandleEvent where
  | removeConnection
  | poisonHandles
  | poisonConnection
  deriving DecidableEq, Repr

namespace Handles

/-- Lock the manager, look the connection up and lock it. `lockError` is the text for a
poisoned manager. -/
def reach (connId : Nat) (lockError : String) (handles : Handles) : Except OdbcError Unit :=
  if handles.poisoned then .error (.internalError lockError)
  else if handles.registered then
    if handles.connectionPoisoned then .error (.internalError "Failed to lock connection")
    else .ok ()
  else .error (.invalidHandle connId)

/-- Neither lock is poisoned and the connection is there. -/
def Reachable (handles : Handles) : Prop :=
  handles.poisoned = false ∧ handles.registered = true ∧ handles.connectionPoisoned = false

instance (handles : Handles) : Decidable handles.Reachable :=
  inferInstanceAs (Decidable (_ ∧ _))

def call (driver : ConnectionDriver) (call : ConnectionCall) (handles : Handles) :
    Except OdbcError Unit × Handles :=
  let (answer, connection) := handles.connection.call driver call
  (answer, { handles with connection })

def interfere (handles : Handles) : HandleEvent → Handles
  | .removeConnection => { handles with registered := false }
  | .poisonHandles => { handles with poisoned := true }
  | .poisonConnection => { handles with connectionPoisoned := true }

variable {connId : Nat} {lockError : String} {handles : Handles}

theorem reach_of_reachable (reachable : handles.Reachable) :
    handles.reach connId lockError = .ok () := by
  obtain ⟨sound, registered, unpoisoned⟩ := reachable
  simp [reach, sound, registered, unpoisoned]

theorem reach_of_not_reachable (connId : Nat) (lockError : String)
    (unreachable : ¬ handles.Reachable) :
    ∃ error, handles.reach connId lockError = .error error := by
  by_cases poisoned : handles.poisoned
  · exact ⟨_, if_pos poisoned⟩
  · by_cases registered : handles.registered
    · have locked : handles.connectionPoisoned := by
        by_contra unpoisoned
        simp only [Bool.not_eq_true] at poisoned unpoisoned
        exact unreachable ⟨poisoned, registered, unpoisoned⟩
      exact ⟨_, by rw [reach, if_neg poisoned, if_pos registered, if_pos locked]⟩
    · exact ⟨_, by rw [reach, if_neg poisoned, if_neg registered]⟩

/-- Nothing but queries and statements has passed between the two moments. -/
structure Quiet (handles next : Handles) : Prop where
  mode : next.connection.autocommit = handles.connection.autocommit
  sent : ∃ sent, next.connection.history = handles.connection.history ++ sent ∧
    ∀ record ∈ sent, record.call.isStatement

instance : IsPreorder Handles Quiet where
  refl _ := ⟨rfl, [], (List.append_nil _).symm, by simp⟩
  trans _ _ _ first second := by
    obtain ⟨mode, sent, history, statements⟩ := first
    obtain ⟨mode', sent', history', statements'⟩ := second
    refine ⟨mode'.trans mode, sent ++ sent', by rw [history', history, List.append_assoc], ?_⟩
    intro record member
    rcases List.mem_append.mp member with early | late
    · exact statements record early
    · exact statements' record late

theorem call_quiet (driver : ConnectionDriver) {request : ConnectionCall}
    (statement : request.isStatement) (handles : Handles) :
    Quiet handles (handles.call driver request).2 := by
  refine ⟨?_, [⟨request, driver.answer handles.connection.history request⟩], rfl, by simpa⟩
  cases request <;> simp_all [ConnectionCall.isStatement, call, Connection.call,
    ConnectionDriver.mode]

theorem interfere_quiet (event : HandleEvent) (handles : Handles) :
    Quiet handles (handles.interfere event) := by
  refine ⟨?_, [], ?_, by simp⟩
  · cases event <;> rfl
  · cases event <;> simp [interfere]

/-- A refused switch of the mode leaves it. -/
theorem call_setAutocommit_refused (driver : ConnectionDriver) (enabled : Bool)
    {error : OdbcError} {next : Handles}
    (refused : handles.call driver (.setAutocommit enabled) = (.error error, next)) :
    next.connection.autocommit = handles.connection.autocommit := by
  obtain ⟨answered, rfl⟩ := Prod.mk.inj refused
  have answer : driver.answer handles.connection.history (.setAutocommit enabled) = .error error :=
    answered
  simp [answer, ConnectionDriver.mode]

end Handles

end OdbcFast.Native.Engine
