import OdbcFast.Native.Engine.Connection
import OdbcFast.Native.Engine.Duration
import OdbcFast.Native.Engine.Identifier
import OdbcFast.Wire.HashMap
import OdbcFast.Wire.Machine

/-!
# Transactions

A transaction begins with the statements that set its isolation level, its access mode and its
lock timeout, each in the words of the engine, and with autocommit switched off last. It is
finished by a commit, by a rollback or by being dropped. All three consume it, and the drop
that ends a commit or a rollback finds in its state whether anything is left to do.

A closure that is run inside a transaction is an interaction with its methods. Between two of
them other threads may get at the handle manager.
-/

namespace OdbcFast.Native.Engine

open Wire

inductive IsolationLevel where
  | readUncommitted
  | readCommitted
  | repeatableRead
  | serializable
  deriving DecidableEq, Repr

namespace IsolationLevel

def toSqlKeyword : IsolationLevel → String
  | .readUncommitted => "READ UNCOMMITTED"
  | .readCommitted => "READ COMMITTED"
  | .repeatableRead => "REPEATABLE READ"
  | .serializable => "SERIALIZABLE"

def toDb2Keyword : IsolationLevel → String
  | .readUncommitted => "UR"
  | .readCommitted => "CS"
  | .repeatableRead => "RS"
  | .serializable => "RR"

/-- The name that `{:?}` prints. -/
def debug : IsolationLevel → String
  | .readUncommitted => "ReadUncommitted"
  | .readCommitted => "ReadCommitted"
  | .repeatableRead => "RepeatableRead"
  | .serializable => "Serializable"

end IsolationLevel

inductive TransactionAccessMode where
  | readWrite
  | readOnly
  deriving DecidableEq, Repr

namespace TransactionAccessMode

def toSqlKeyword : TransactionAccessMode → String
  | .readOnly => "READ ONLY"
  | .readWrite => "READ WRITE"

def isReadOnly : TransactionAccessMode → Bool
  | .readOnly => true
  | .readWrite => false

end TransactionAccessMode

/-- `u32::try_from`. -/
def u32TryFrom (n : Nat) : Option UInt32 := if n < 4294967296 then some (UInt32.ofNat n) else none

theorem toNat_getD_u32TryFrom (n : Nat) :
    ((u32TryFrom n).getD 4294967295).toNat = min n 4294967295 := by
  rw [u32TryFrom]
  by_cases fits : n < 4294967296
  · rw [if_pos fits, Option.getD_some, UInt32.toNat_ofNat_of_lt' fits]
    omega
  · rw [if_neg fits]
    exact (Nat.min_eq_right (Nat.le_trans (by decide) (Nat.le_of_not_lt fits))).symm

/-- The override in milliseconds; `none` is the engine's default, and zero is not an override. -/
structure LockTimeout where
  millis : Option UInt32
  positive : ∀ ms ∈ millis, ms ≠ 0

namespace LockTimeout

def engineDefault : LockTimeout := ⟨none, by simp⟩

def fromMillis (millis : UInt32) : LockTimeout :=
  if zero : millis = 0 then engineDefault else ⟨some millis, by simpa using zero⟩

/-- Less than a millisecond is one, so that it does not become the engine's default. -/
def fromDuration (dur : Duration) : LockTimeout :=
  let rawMs := dur.asMillis
  if rawMs = 0 ∧ ¬ dur.isZero then ⟨some 1, by simp⟩
  else if zero : rawMs = 0 then engineDefault
  else ⟨some ((u32TryFrom rawMs).getD 4294967295), by
    intro ms same none
    obtain rfl := Option.some.inj same
    have clamped := toNat_getD_u32TryFrom rawMs
    rw [none, UInt32.toNat_zero] at clamped
    omega⟩

/-- Seconds, for the engines that count in them. -/
def millisAsSecondsRoundedUp (timeout : LockTimeout) : Option Nat :=
  timeout.millis.map fun ms => max ((ms.toNat + 999) / 1000) 1

end LockTimeout

inductive TransactionState where
  | none
  | active
  | committed
  | rolledBack
  deriving DecidableEq, Repr

/-- The name that `{:?}` prints. -/
def TransactionState.debug : TransactionState → String
  | .none => "None"
  | .active => "Active"
  | .committed => "Committed"
  | .rolledBack => "RolledBack"

inductive SavepointDialect where
  | auto
  | sql92
  | sqlServer
  deriving DecidableEq, Repr

inductive IsolationStrategy where
  | sql92
  | sqlitePragma
  | db2SetCurrent
  | oracleRestricted
  | skip
  deriving DecidableEq, Repr

def IsolationStrategy.forEngine : EngineId → IsolationStrategy
  | .sqlite => .sqlitePragma
  | .db2 => .db2SetCurrent
  | .oracle => .oracleRestricted
  | .snowflake => .skip
  | _ => .sql92

def resolveSavepointDialectForEngine (engine : EngineId) : SavepointDialect :=
  if engine = .sqlServer then .sqlServer else .sql92

/-- Without the handle manager, which is passed along. -/
structure Transaction where
  connId : Nat
  state : TransactionState
  isolationLevel : IsolationLevel
  savepointDialect : SavepointDialect
  accessMode : TransactionAccessMode
  lockTimeout : LockTimeout

namespace Transaction

/-! ## Begin -/

/-- `DbmsInfo::detect_for_conn_id`, of which only the engine is used. -/
def detectForConnId (driver : ConnectionDriver) (connId : Nat) (handles : Handles) :
    Except OdbcError EngineId × Handles :=
  match handles.reach connId "Failed to lock handles" with
  | .error error => (.error error, handles)
  | .ok () =>
    let engine := driver.engine handles.connection.history
    let (answer, handles) := handles.call driver .databaseManagementSystemName
    (answer.map fun _ => engine, handles)

/-- A failure to find the engine out is not a failure of the begin. -/
def detectEngineAndDialect (driver : ConnectionDriver) (connId : Nat)
    (requested : SavepointDialect) (handles : Handles) : (EngineId × SavepointDialect) × Handles :=
  match requested with
  | .sql92 => ((.unknown, .sql92), handles)
  | .sqlServer => ((.sqlServer, .sqlServer), handles)
  | .auto =>
    match detectForConnId driver connId handles with
    | (.ok engine, handles) => ((engine, resolveSavepointDialectForEngine engine), handles)
    | (.error _, handles) => ((.unknown, .sql92), handles)

/-- `execute` on the connection that is locked. -/
def statement (driver : ConnectionDriver) (sql : String) : Fallible Handles OdbcError Unit :=
  .of fun handles => handles.call driver (.execute sql)

def applyIsolation (driver : ConnectionDriver) (engineId : EngineId) (level : IsolationLevel) :
    Fallible Handles OdbcError Unit :=
  match IsolationStrategy.forEngine engineId with
  | .sql92 => statement driver s!"SET TRANSACTION ISOLATION LEVEL {level.toSqlKeyword}"
  | .sqlitePragma =>
    match level with
    | .readUncommitted => statement driver "PRAGMA read_uncommitted = 1"
    | _ => statement driver "PRAGMA read_uncommitted = 0"
  | .db2SetCurrent => statement driver s!"SET CURRENT ISOLATION = {level.toDb2Keyword}"
  | .oracleRestricted =>
    match level with
    | .readCommitted => statement driver "SET TRANSACTION ISOLATION LEVEL READ COMMITTED"
    | .serializable => statement driver "SET TRANSACTION ISOLATION LEVEL SERIALIZABLE"
    | .readUncommitted | .repeatableRead =>
      .check (.error (.validationError (s!"Oracle does not support isolation level {level.debug}; "
        ++ "only ReadCommitted and Serializable are supported")))
  | .skip => pure ()

/-- Only read-only is said to the engine, and only to those that know it. -/
def applyAccessMode (driver : ConnectionDriver) (engineId : EngineId)
    (accessMode : TransactionAccessMode) : Fallible Handles OdbcError Unit :=
  if accessMode.isReadOnly then
    match engineId with
    | .postgres | .mySql | .mariaDb | .db2 | .oracle =>
      statement driver s!"SET TRANSACTION {accessMode.toSqlKeyword}"
    | _ => pure ()
  else pure ()

def applyLockTimeout (driver : ConnectionDriver) (engineId : EngineId) (lockTimeout : LockTimeout) :
    Fallible Handles OdbcError Unit :=
  match lockTimeout.millis, lockTimeout.millisAsSecondsRoundedUp with
  | some ms, some secs =>
    match engineId with
    | .sqlServer => statement driver s!"SET LOCK_TIMEOUT {ms}"
    | .postgres => statement driver s!"SET LOCAL lock_timeout = '{ms}ms'"
    | .mySql | .mariaDb => statement driver s!"SET SESSION innodb_lock_wait_timeout = {secs}"
    | .db2 => statement driver s!"SET CURRENT LOCK TIMEOUT {secs}"
    | .sqlite => statement driver s!"PRAGMA busy_timeout = {ms}"
    | _ => pure ()
  | _, _ => pure ()

/-- What the connection is told before autocommit goes off. -/
def applySettings (driver : ConnectionDriver) (engineId : EngineId) (level : IsolationLevel)
    (accessMode : TransactionAccessMode) (lockTimeout : LockTimeout) :
    Fallible Handles OdbcError Unit := do
  applyIsolation driver engineId level
  applyAccessMode driver engineId accessMode
  applyLockTimeout driver engineId lockTimeout

def beginWithLockTimeout (driver : ConnectionDriver) (connId : Nat)
    (isolationLevel : IsolationLevel) (savepointDialect : SavepointDialect)
    (accessMode : TransactionAccessMode) (lockTimeout : LockTimeout) (handles : Handles) : Except OdbcError Transaction × Handles :=
  let ((engineId, resolvedDialect), handles) :=
    detectEngineAndDialect driver connId savepointDialect handles
  match handles.reach connId "Failed to lock handles" with
  | .error error => (.error error, handles)
  | .ok () =>
    let opening : Fallible Handles OdbcError Transaction := do
      applySettings driver engineId isolationLevel accessMode lockTimeout
      Fallible.of fun handles => handles.call driver (.setAutocommit false)
      pure ⟨connId, .active, isolationLevel, resolvedDialect, accessMode, lockTimeout⟩
    opening.perform handles

/-! ## Methods that leave the transaction open -/

def executeSql (driver : ConnectionDriver) (txn : Transaction) (sql : String) :
    Fallible Handles OdbcError Unit := do
  Fallible.of fun handles =>
    (handles.reach txn.connId "Failed to lock handles for execute_sql", handles)
  statement driver sql

def quotingFor : SavepointDialect → IdentifierQuoting
  | .sql92 | .auto => .doubleQuote
  | .sqlServer => .brackets

def savepointCreate (driver : ConnectionDriver) (txn : Transaction) (name : String) :
    Fallible Handles OdbcError Unit := do
  Fallible.check (validateIdentifier name)
  let qname ← Fallible.check (quoteIdentifier name (quotingFor txn.savepointDialect))
  match txn.savepointDialect with
  | .sqlServer => txn.executeSql driver s!"SAVE TRANSACTION {qname}"
  | .sql92 | .auto => txn.executeSql driver s!"SAVEPOINT {qname}"

def savepointRollbackTo (driver : ConnectionDriver) (txn : Transaction) (name : String) :
    Fallible Handles OdbcError Unit := do
  Fallible.check (validateIdentifier name)
  let qname ← Fallible.check (quoteIdentifier name (quotingFor txn.savepointDialect))
  match txn.savepointDialect with
  | .sqlServer => txn.executeSql driver s!"ROLLBACK TRANSACTION {qname}"
  | .sql92 | .auto => txn.executeSql driver s!"ROLLBACK TO SAVEPOINT {qname}"

def savepointRelease (driver : ConnectionDriver) (txn : Transaction) (name : String) :
    Fallible Handles OdbcError Unit := do
  Fallible.check (validateIdentifier name)
  match txn.savepointDialect with
  | .sqlServer => pure ()
  | .sql92 | .auto =>
    let qname ← Fallible.check (quoteIdentifier name .doubleQuote)
    txn.executeSql driver s!"RELEASE SAVEPOINT {qname}"

/-! ## The end -/

/-- End the transaction on the driver, and try to switch autocommit on whatever it says. -/
def endAndRestore (driver : ConnectionDriver) (call : ConnectionCall) (handles : Handles) :
    Except OdbcError Unit × Handles :=
  let (result, handles) := handles.call driver call
  let (_, handles) := handles.call driver (.setAutocommit true)
  (result, handles)

/-- What commit and rollback share: the guard on the state, the connection, the call. -/
def finish (verb : String) (call : ConnectionCall)
    (settled : Except OdbcError Unit → TransactionState) (driver : ConnectionDriver)
    (txn : Transaction) (handles : Handles) : Except OdbcError Unit × Transaction × Handles :=
  if txn.state = .active then
    match handles.reach txn.connId s!"Failed to lock handles for {verb}" with
    | .error error => (.error error, txn, handles)
    | .ok () =>
      let (result, handles) := endAndRestore driver call handles
      (result, { txn with state := settled result }, handles)
  else
    (.error (.validationError s!"Cannot {verb}: transaction state is {txn.state.debug}"), txn,
      handles)

/-- `Drop for Transaction`. Its errors are only logged. -/
def drop (driver : ConnectionDriver) (txn : Transaction) (handles : Handles) : Handles :=
  if txn.state = .active then
    match handles.reach txn.connId "" with
    | .error _ => handles
    | .ok () => (endAndRestore driver .rollback handles).2
  else handles

/-- The transaction is dropped when the method returns. -/
def consume (driver : ConnectionDriver) :
    Except OdbcError Unit × Transaction × Handles → Except OdbcError Unit × Handles
  | (result, txn, handles) => (result, txn.drop driver handles)

/-- A commit that fails counts as rolled back. -/
def commit (driver : ConnectionDriver) (txn : Transaction) (handles : Handles) :
    Except OdbcError Unit × Handles :=
  let settled : Except OdbcError Unit → TransactionState
    | .ok () => .committed
    | .error _ => .rolledBack
  consume driver (finish "commit" .commit settled driver txn handles)

def rollback (driver : ConnectionDriver) (txn : Transaction) (handles : Handles) :
    Except OdbcError Unit × Handles :=
  consume driver (finish "rollback" .rollback (fun _ => .rolledBack) driver txn handles)

/-! ## Closures -/

/-- What can happen to a transaction that stays open: a call of one of its methods, or
something that another thread does. -/
inductive Use where
  | savepointCreate (name : String)
  | savepointRollbackTo (name : String)
  | savepointRelease (name : String)
  | executeSql (sql : String)
  | interfere (event : HandleEvent)
  deriving DecidableEq, Repr

def use (driver : ConnectionDriver) (txn : Transaction) :
    Use → Handles → Except OdbcError Unit × Handles
  | .savepointCreate name => (txn.savepointCreate driver name).perform
  | .savepointRollbackTo name => (txn.savepointRollbackTo driver name).perform
  | .savepointRelease name => (txn.savepointRelease driver name).perform
  | .executeSql sql => (txn.executeSql driver sql).perform
  | .interfere event => fun handles => (.ok (), handles.interfere event)

/-- `FnOnce(&Transaction) -> Result<T>`. It may also panic. -/
abbrev Closure (T : Type) := Interaction Use (Except OdbcError Unit) (Except (Fault OdbcError) T)

def executeWithLockTimeout {T : Type} (driver : ConnectionDriver) (connId : Nat)
    (isolation : IsolationLevel) (savepointDialect : SavepointDialect)
    (accessMode : TransactionAccessMode) (lockTimeout : LockTimeout) (f : Closure T)
    (handles : Handles) : Except (Fault OdbcError) T × Handles :=
  match beginWithLockTimeout driver connId isolation savepointDialect accessMode lockTimeout
    handles with
  | (.error error, handles) => (.error (.err error), handles)
  | (.ok txn, handles) =>
    match f.run (txn.use driver) handles with
    | (.ok result, handles) =>
      match txn.commit driver handles with
      | (.ok (), handles) => (.ok result, handles)
      | (.error error, handles) => (.error (.err error), handles)
    | (.error (.err original), handles) =>
      (.error (.err original), (txn.rollback driver handles).2)
    -- A panic unwinds through the frame that owns the transaction.
    | (.error (.panic message), handles) => (.error (.panic message), txn.drop driver handles)

/-! ## A transaction over its life -/

inductive Event where
  | use (use : Use)
  | commit
  | rollback
  | drop
  deriving DecidableEq, Repr

/-- A transaction that has been consumed is `none`, and has no next step. -/
def step (driver : ConnectionDriver) (event : Event) :
    Option Transaction × Handles →
      Option ((Option Transaction × Handles) × Except OdbcError Unit)
  | (none, _) => none
  | (some txn, handles) =>
    match event with
    | .use use =>
      let (result, handles) := txn.use driver use handles
      some ((some txn, handles), result)
    | .commit =>
      let (result, handles) := txn.commit driver handles
      some ((none, handles), result)
    | .rollback =>
      let (result, handles) := txn.rollback driver handles
      some ((none, handles), result)
    | .drop => some ((none, txn.drop driver handles), .ok ())

end Transaction

/-! ## Transactions by their numbers -/

/-- The transactions that the C interface holds, and for each connection its handle manager. -/
structure TransactionSlots where
  transactions : HashMap Nat Transaction := ∅
  handles : Nat → Handles := fun _ => {}

namespace TransactionSlots

variable (drivers : Nat → ConnectionDriver)

/-- `savepoint_dispatch`: code 0, or code 1 with the text that is left for the caller. -/
def savepointDispatch (op : String)
    (action : ConnectionDriver → Transaction → String → Fallible Handles OdbcError Unit)
    (txnId : Nat) (name : String) (slots : TransactionSlots) :
    Except String Unit × TransactionSlots :=
  match slots.transactions.lookup txnId with
  | none => (.error s!"Invalid transaction ID: {txnId}", slots)
  | some txn =>
    let (result, handles) :=
      (action (drivers txn.connId) txn name).perform (slots.handles txn.connId)
    (result.mapError fun err => s!"Savepoint {op} failed: {err.display}",
      { slots with handles := Function.update slots.handles txn.connId handles })

def odbcSavepointCreate : Nat → String → TransactionSlots → Except String Unit × TransactionSlots :=
  savepointDispatch drivers "create" fun driver txn => txn.savepointCreate driver

def odbcSavepointRollback :
    Nat → String → TransactionSlots → Except String Unit × TransactionSlots :=
  savepointDispatch drivers "rollback" fun driver txn => txn.savepointRollbackTo driver

def odbcSavepointRelease :
    Nat → String → TransactionSlots → Except String Unit × TransactionSlots :=
  savepointDispatch drivers "release" fun driver txn => txn.savepointRelease driver

/-- What the commit and the rollback share: the transaction is taken out, whatever comes of it. -/
def finish (verb : String)
    (call : ConnectionDriver → Transaction → Handles → Except OdbcError Unit × Handles)
    (txnId : Nat) (slots : TransactionSlots) : Except String Unit × TransactionSlots :=
  match slots.transactions.lookup txnId with
  | none => (.error s!"Invalid transaction ID: {txnId}", slots)
  | some txn =>
    let (result, handles) := call (drivers txn.connId) txn (slots.handles txn.connId)
    (result.mapError fun err => s!"{verb} failed: {err.display}",
      { transactions := slots.transactions.erase txnId
        handles := Function.update slots.handles txn.connId handles })

def odbcTransactionCommit : Nat → TransactionSlots → Except String Unit × TransactionSlots :=
  finish drivers "Commit" Transaction.commit

def odbcTransactionRollback : Nat → TransactionSlots → Except String Unit × TransactionSlots :=
  finish drivers "Rollback" Transaction.rollback

end TransactionSlots

end OdbcFast.Native.Engine
