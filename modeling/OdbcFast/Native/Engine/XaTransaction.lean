import OdbcFast.Native.Engine.Xid
import OdbcFast.Wire.Fallible

/-!
# Distributed branches

A branch is started on a connection, ended, prepared and finished in a second phase; or it is
committed in one phase, rolled back or dropped before that. Each step consumes the handle it is
called on, and a handle that is lost on the way runs its drop guard. The engines spell the
steps in their own words; PostgreSQL has none for the end of a branch.

Every step looks the connection up anew. What the handle manager and the database answer
depends on everything that was asked before and is otherwise free: other threads remove
connections and poison locks at any moment. The build without the MSDTC feature is modelled.
-/

namespace OdbcFast.Native.Engine

open Wire

/-! ## Statements -/

/-- The `ENGINE_*` constants. -/
def EngineId.text : EngineId → String
  | .sqlServer => "sqlserver"
  | .postgres => "postgres"
  | .mySql => "mysql"
  | .mariaDb => "mariadb"
  | .oracle => "oracle"
  | .sybaseAse => "sybase_ase"
  | .sybaseAsa => "sybase_asa"
  | .sqlite => "sqlite"
  | .db2 => "db2"
  | .snowflake => "snowflake"
  | .redshift => "redshift"
  | .bigQuery => "bigquery"
  | .mongoDb => "mongodb"
  | .unknown => "unknown"

def unsupportedSqlserver : OdbcError :=
  .unsupportedFeature ("XA / 2PC on SQL Server requires MSDTC enlistment via Windows " ++
    "COM (SQLSetConnectAttr(SQL_ATTR_ENLIST_IN_DTC, ITransaction*)). " ++
    "Build with \x60--features xa-dtc\x60 on a Windows host with MSDTC " ++
    "enabled to activate the integration — see " ++
    "doc/Features/PENDING_IMPLEMENTATIONS.md §1.1 for prerequisites.")

def unsupportedOther (engineId : EngineId) : OdbcError :=
  .unsupportedFeature (s!"XA / 2PC is not supported on engine \"{engineId.text}\". " ++
    "Supported engines: postgres, mysql, mariadb, db2, oracle (via DBMS_XA). SQL Server " ++
    "requires MSDTC enlistment (xa-dtc feature, Phase 2 pending).")

/-- The three arguments of MySQL, MariaDB and DB2. -/
def xidArguments (xid : Xid) : String :=
  let (g, b, f) := xid.encodeMysqlComponents
  if b.isEmpty then s!"'{g}', '', {f.toInt}" else s!"'{g}', '{b}', {f.toInt}"

def oracleXidLiteral (xid : Xid) : String :=
  let (fmt, g, b) := xid.encodeOracleComponents
  s!"SYS.DBMS_XA_XID({fmt.toInt}, HEXTORAW('{g}'), HEXTORAW('{b}'))"

/-- A return code that is neither zero nor allowed raises. -/
def oracleXaBlock (call : String) (allowRcs : List Int) : String :=
  let allowClause := String.join (allowRcs.map fun rc => s!" AND rc <> {rc}")
  s!"BEGIN DECLARE rc PLS_INTEGER; BEGIN rc := {call}; IF rc <> 0{allowClause} THEN " ++
    "RAISE_APPLICATION_ERROR(-20100, 'DBMS_XA rc=' || rc); END IF; END; END;"

def oracleXaRdonly : Int := 3
def oracleXaerNota : Int := -4

/-! What an engine is told, if it is told anything. -/

def applyXaStart (engineId : EngineId) (xid : Xid) : Except OdbcError (Option String) :=
  match engineId with
  | .postgres => .ok (some "BEGIN")
  | .mySql | .mariaDb | .db2 => .ok (some s!"XA START {xidArguments xid}")
  | .sqlServer => .error unsupportedSqlserver
  | .oracle => .ok (some (oracleXaBlock
      s!"DBMS_XA.XA_START({oracleXidLiteral xid}, DBMS_XA.TMNOFLAGS)" []))
  | _ => .error (unsupportedOther engineId)

def applyXaEnd (engineId : EngineId) (xid : Xid) : Except OdbcError (Option String) :=
  match engineId with
  | .postgres => .ok none
  | .mySql | .mariaDb | .db2 => .ok (some s!"XA END {xidArguments xid}")
  | .sqlServer => .error unsupportedSqlserver
  | .oracle => .ok (some (oracleXaBlock
      s!"DBMS_XA.XA_END({oracleXidLiteral xid}, DBMS_XA.TMSUCCESS)" []))
  | _ => .error (unsupportedOther engineId)

def applyXaPrepare (engineId : EngineId) (xid : Xid) : Except OdbcError (Option String) :=
  match engineId with
  | .postgres => .ok (some s!"PREPARE TRANSACTION '{xid.encodePostgres}'")
  | .mySql | .mariaDb | .db2 => .ok (some s!"XA PREPARE {xidArguments xid}")
  | .sqlServer => .error unsupportedSqlserver
  | .oracle => .ok (some (oracleXaBlock s!"DBMS_XA.XA_PREPARE({oracleXidLiteral xid})"
      [oracleXaRdonly]))
  | _ => .error (unsupportedOther engineId)

def applyXaCommit (onePhase : Bool) (engineId : EngineId) (xid : Xid) :
    Except OdbcError (Option String) :=
  match engineId with
  | .postgres =>
    .ok (some (if onePhase then "COMMIT" else s!"COMMIT PREPARED '{xid.encodePostgres}'"))
  | .mySql | .mariaDb | .db2 =>
    let suffix := if onePhase then " ONE PHASE" else ""
    .ok (some s!"XA COMMIT {xidArguments xid}{suffix}")
  | .sqlServer => .error unsupportedSqlserver
  | .oracle =>
    let onephaseLit := if onePhase then "TRUE" else "FALSE"
    let allow := if onePhase then [] else [oracleXaerNota]
    .ok (some (oracleXaBlock
      s!"DBMS_XA.XA_COMMIT({oracleXidLiteral xid}, {onephaseLit})" allow))
  | _ => .error (unsupportedOther engineId)

/-- A branch that is not prepared. Oracle ends it once more in the same block. -/
def applyXaRollback (engineId : EngineId) (xid : Xid) : Except OdbcError (Option String) :=
  match engineId with
  | .postgres => .ok (some "ROLLBACK")
  | .mySql | .mariaDb | .db2 => .ok (some s!"XA ROLLBACK {xidArguments xid}")
  | .sqlServer => .error unsupportedSqlserver
  | .oracle => .ok (some ("BEGIN DECLARE rc PLS_INTEGER; BEGIN " ++
      s!"rc := DBMS_XA.XA_END({oracleXidLiteral xid}, DBMS_XA.TMSUCCESS); " ++
      "IF rc <> 0 THEN RAISE_APPLICATION_ERROR(-20100, 'DBMS_XA xa_end rc=' || rc); END IF; " ++
      s!"rc := DBMS_XA.XA_ROLLBACK({oracleXidLiteral xid}); " ++
      "IF rc <> 0 THEN RAISE_APPLICATION_ERROR(-20101, 'DBMS_XA xa_rollback rc=' || rc); END IF; " ++
      "END; END;"))
  | _ => .error (unsupportedOther engineId)

def applyXaRollbackPrepared (engineId : EngineId) (xid : Xid) :
    Except OdbcError (Option String) :=
  match engineId with
  | .postgres => .ok (some s!"ROLLBACK PREPARED '{xid.encodePostgres}'")
  | .mySql | .mariaDb | .db2 => applyXaRollback engineId xid
  | .sqlServer => .error unsupportedSqlserver
  | .oracle => .ok (some (oracleXaBlock s!"DBMS_XA.XA_ROLLBACK({oracleXidLiteral xid})"
      [oracleXaerNota]))
  | _ => .error (unsupportedOther engineId)

inductive XaVerb where
  | start
  | finish
  | prepare
  | commit (onePhase : Bool)
  | rollback
  | rollbackPrepared
  deriving DecidableEq, Repr

/-- The end of a branch is `finish`. -/
def XaVerb.apply : XaVerb → EngineId → Xid → Except OdbcError (Option String)
  | .start => applyXaStart
  | .finish => applyXaEnd
  | .prepare => applyXaPrepare
  | .commit onePhase => applyXaCommit onePhase
  | .rollback => applyXaRollback
  | .rollbackPrepared => applyXaRollbackPrepared

/-! ## The handle manager and the database -/

/-- What is asked for a branch. -/
inductive XaCall where
  /-- Lock the handle manager, look the connection up and lock it. -/
  | lookup
  | setAutocommit (enabled : Bool)
  /-- The text of a statement, with the verb it stands for. -/
  | execute (sql : String) (verb : XaVerb)
  /-- The query for the branches that are prepared. -/
  | recover (sql : String)
  deriving DecidableEq, Repr

inductive XaAnswer where
  | done
  /-- `lost` when the server has rolled the branch back by itself. -/
  | refused (error : OdbcError) (lost : Bool)
  deriving DecidableEq, Repr

structure XaRecord where
  connId : Nat
  call : XaCall
  answer : XaAnswer
  deriving DecidableEq, Repr

/-- What the manager and the database do after the calls made so far, oldest first. -/
structure XaDriver where
  answer : List XaRecord → Nat → XaCall → XaAnswer
  /-- The engine that is detected, unknown when the detection fails. -/
  engine : List XaRecord → Nat → EngineId
  /-- The rows of the query for the prepared branches, for each kind of engine. -/
  gids : List XaRecord → Nat → List (Option Bytes)
  recoverRows : List XaRecord → Nat → List Xid.XaRecoverRow
  pendingRows : List XaRecord → Nat → List Xid.PendingTransactionRow

/-- Calls for branches; the state is what was asked and answered. -/
abbrev XaM := Fallible (List XaRecord) OdbcError

def XaAnswer.result : XaAnswer → Except OdbcError Unit
  | .done => .ok ()
  | .refused error _ => .error error

def XaDriver.call (driver : XaDriver) (connId : Nat) (call : XaCall) : XaM Unit :=
  .of fun history =>
    let answer := driver.answer history connId call
    (answer.result, history ++ [⟨connId, call, answer⟩])

/-- A verb on a connection that is locked. -/
def XaDriver.apply (driver : XaDriver) (connId : Nat) (engineId : EngineId) (xid : Xid)
    (verb : XaVerb) : XaM Unit :=
  match verb.apply engineId xid with
  | .error error => .check (.error error)
  | .ok none => pure ()
  | .ok (some sql) => driver.call connId (.execute sql verb)

def XaDriver.runOnConn (driver : XaDriver) (connId : Nat) (engineId : EngineId) (xid : Xid)
    (verb : XaVerb) : XaM Unit := do
  driver.call connId .lookup
  driver.apply connId engineId xid verb

/-- A call whose failure is not looked at. -/
def ignoringErrors (call : XaM Unit) : XaM Unit :=
  .of fun history => (.ok (), (call.perform history).2)

/-! ## Handles -/

inductive XaState where
  | none
  | active
  | idle
  | prepared
  | committed
  | rolledBack
  | failed
  deriving DecidableEq, Repr

/-- The name that `{:?}` prints. -/
def XaState.debug : XaState → String
  | .none => "None"
  | .active => "Active"
  | .idle => "Idle"
  | .prepared => "Prepared"
  | .committed => "Committed"
  | .rolledBack => "RolledBack"
  | .failed => "Failed"

/-- Without the handle manager, which is passed along. -/
structure XaTransaction where
  connId : Nat
  xid : Xid
  engineId : EngineId
  state : XaState
  deriving DecidableEq

structure PreparingXa where
  inner : XaTransaction
  deriving DecidableEq

structure PreparedXa where
  connId : Nat
  xid : Xid
  engineId : EngineId
  state : XaState
  deriving DecidableEq

variable (driver : XaDriver)

/-- What both kinds of handle check first. -/
def assertState (owner : String) (actual expected : XaState) (op : String) :
    Except OdbcError Unit :=
  if actual ≠ expected then
    .error (.validationError
      s!"{owner}::{op}: expected state {expected.debug}, got {actual.debug}")
  else .ok ()

namespace XaTransaction

def start (connId : Nat) (xid : Xid) : XaM XaTransaction :=
  .of fun history =>
    let engineId := driver.engine history connId
    let opening : XaM XaTransaction := do
      driver.call connId .lookup
      driver.call connId (.setAutocommit false)
      driver.apply connId engineId xid .start
      pure ⟨connId, xid, engineId, .active⟩
    opening.perform history

def runOnConn (xa : XaTransaction) (verb : XaVerb) : XaM Unit :=
  driver.runOnConn xa.connId xa.engineId xa.xid verb

/-- Its errors are logged at most. -/
def tryRestoreAutocommit (xa : XaTransaction) : XaM Unit :=
  ignoringErrors do
    driver.call xa.connId .lookup
    driver.call xa.connId (.setAutocommit true)

/-- `Drop for XaTransaction`: whatever the database answers, the next call is made. -/
def drop (xa : XaTransaction) : XaM Unit :=
  if xa.state = .active ∨ xa.state = .idle then do
    ignoringErrors do
      driver.call xa.connId .lookup
      ignoringErrors (driver.apply xa.connId xa.engineId xa.xid .finish)
      driver.apply xa.connId xa.engineId xa.xid .rollback
    xa.tryRestoreAutocommit driver
  else pure ()

/-- A method that leaves early drops the handle in the state it is in. -/
def orDrop {α : Type} (xa : XaTransaction) (method : XaM α) : XaM α :=
  .of fun history =>
    match method.perform history with
    | (.ok value, history) => (.ok value, history)
    | (.error error, history) => (.error error, ((xa.drop driver).perform history).2)

/-- A verb, and autocommit again whatever its answer. The state that the handle is left in
gives its drop guard nothing to do. -/
def runAndRestore (xa : XaTransaction) (verb : XaVerb) : XaM Unit :=
  .of fun history =>
    let (result, history) := (xa.runOnConn driver verb).perform history
    (result, ((xa.tryRestoreAutocommit driver).perform history).2)

/-- `XaTransaction::end`. -/
def finish (xa : XaTransaction) : XaM PreparingXa := do
  xa.orDrop driver do
    Fallible.check (assertState "XaTransaction" xa.state .active "end")
    xa.runOnConn driver .finish
  pure ⟨{ xa with state := .idle }⟩

def commitOnePhase (xa : XaTransaction) : XaM Unit := do
  xa.orDrop driver do
    Fallible.check (assertState "XaTransaction" xa.state .active "commit_one_phase")
    xa.runOnConn driver .finish
  xa.runAndRestore driver (.commit true)

def rollback (xa : XaTransaction) : XaM Unit := do
  xa.orDrop driver (.check (assertState "XaTransaction" xa.state .active "rollback"))
  ignoringErrors (xa.runOnConn driver .finish)
  xa.runAndRestore driver .rollback

end XaTransaction

namespace PreparingXa

/-- After a refused `PREPARE` the branch is failed, and nothing more is sent for it. -/
def prepare (preparing : PreparingXa) : XaM PreparedXa := do
  let inner := preparing.inner
  inner.orDrop driver (.check (assertState "XaTransaction" inner.state .idle "prepare"))
  inner.runAndRestore driver .prepare
  pure ⟨inner.connId, inner.xid, inner.engineId, .prepared⟩

def rollback (preparing : PreparingXa) : XaM Unit := do
  let inner := preparing.inner
  inner.orDrop driver (.check (assertState "XaTransaction" inner.state .idle "rollback"))
  inner.runAndRestore driver .rollback

def drop (preparing : PreparingXa) : XaM Unit := preparing.inner.drop driver

end PreparingXa

namespace PreparedXa

def runOnConn (prepared : PreparedXa) (verb : XaVerb) : XaM Unit :=
  driver.runOnConn prepared.connId prepared.engineId prepared.xid verb

def commit (prepared : PreparedXa) : XaM Unit := do
  Fallible.check (assertState "PreparedXa" prepared.state .prepared "commit")
  prepared.runOnConn driver (.commit false)

def rollback (prepared : PreparedXa) : XaM Unit := do
  Fallible.check (assertState "PreparedXa" prepared.state .prepared "rollback")
  prepared.runOnConn driver .rollbackPrepared

end PreparedXa

/-! ## Recovery -/

def applyXaRecover (connId : Nat) (engineId : EngineId) : XaM (List Xid) :=
  .of fun history =>
    match engineId with
    | .postgres =>
      let rows := driver.gids history connId
      (driver.call connId (.recover "SELECT gid FROM pg_prepared_xacts") >>=
        fun _ => pure (Xid.recoverPostgres rows)).perform history
    | .mySql | .mariaDb | .db2 =>
      let rows := driver.recoverRows history connId
      (driver.call connId (.recover "XA RECOVER") >>=
        fun _ => pure (Xid.recoverMysql rows)).perform history
    | .sqlServer => (.error unsupportedSqlserver, history)
    | .oracle =>
      let rows := driver.pendingRows history connId
      (driver.call connId (.recover ("SELECT FORMATID, RAWTOHEX(GLOBALID), RAWTOHEX(BRANCHID) " ++
        "FROM DBA_PENDING_TRANSACTIONS")) >>=
        fun _ => pure (Xid.recoverOracle rows)).perform history
    | _ => (.error (unsupportedOther engineId), history)

def recoverPreparedXids (connId : Nat) : XaM (List Xid) :=
  .of fun history =>
    let engineId := driver.engine history connId
    (driver.call connId .lookup >>=
      fun _ => applyXaRecover driver connId engineId).perform history

def resumePrepared (connId : Nat) (xid : Xid) : XaM PreparedXa :=
  .of fun history => (.ok ⟨connId, xid, driver.engine history connId, .prepared⟩, history)

end OdbcFast.Native.Engine
