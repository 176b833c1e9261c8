import OdbcFast.Native.Ffi.GlobalState
import OdbcFast.Native.Engine.XaHandles

/-!
# The maps of distributed branches

The C interface knows a branch by a number and keeps its handle in one of three maps, by the
type of the handle. A call takes the handle out of its map, calls the method that consumes it
and puts what the method returns into the next map. Every call holds the lock of the global
state from its beginning to its end.
-/

namespace OdbcFast.Native

open Wire Engine

/-- The connections and the branches of `GlobalState`, and what was asked for branches. -/
structure XaMaps where
  connections : HashMap Nat Unit := ∅
  xaActive : HashMap Nat XaTransaction := ∅
  xaPreparing : HashMap Nat PreparingXa := ∅
  xaPrepared : HashMap Nat PreparedXa := ∅
  nextXaId : Nat := 1
  history : List XaRecord := []

/-- What a call answers: an identifier, a number of branches, success, or the error it stores. -/
inductive XaReply where
  | started (xaId : Nat)
  | counted (count : Nat)
  | done
  | failed (message : String)
  deriving DecidableEq, Repr

/-- The return code of the calls that take a branch. -/
def XaReply.code : XaReply → Int
  | .failed _ => 1
  | _ => 0

namespace XaMaps

/-- Some map has the identifier. -/
def HasSlot (xaId : Nat) (state : XaMaps) : Prop :=
  (state.xaActive.lookup xaId).isSome ∨ (state.xaPreparing.lookup xaId).isSome ∨
    (state.xaPrepared.lookup xaId).isSome

instance (xaId : Nat) (state : XaMaps) : Decidable (state.HasSlot xaId) :=
  inferInstanceAs (Decidable (_ ∨ _))

def xaAllocId (state : XaMaps) : Option Nat × XaMaps :=
  let (id, nextXaId) := allocateFrom (fun id => decide (state.HasSlot id)) maxIdAllocAttempts
    state.nextXaId
  (id, { state with nextXaId })

variable (driver : XaDriver)

/-- What `odbc_xa_start` and `odbc_xa_resume_prepared` check first; `none` is a null pointer
with a length. -/
def xaArguments (entry : String) (connId : Nat) (formatId : Int32) (gtrid bqual : Option Bytes)
    (state : XaMaps) : Except String Xid := do
  let gtrid ← gtrid.elim (.error s!"{entry}: gtrid_ptr is null but gtrid_len > 0") .ok
  let bqual ← bqual.elim (.error s!"{entry}: bqual_ptr is null but bqual_len > 0") .ok
  let xid ← (Xid.new formatId gtrid bqual).mapError fun error => s!"{entry}: {error.display}"
  if (state.connections.lookup connId).isNone then
    .error s!"Invalid connection ID: {connId}"
  else .ok xid

/-- A branch that finds no identifier is dropped. -/
def odbcXaStart (connId : Nat) (formatId : Int32) (gtrid bqual : Option Bytes) (state : XaMaps) :
    XaReply × XaMaps :=
  match xaArguments "odbc_xa_start" connId formatId gtrid bqual state with
  | .error message => (.failed message, state)
  | .ok xid =>
    match (XaTransaction.start driver connId xid).perform state.history with
    | (.error error, history) =>
      (.failed s!"odbc_xa_start: {error.display}", { state with history })
    | (.ok xa, history) =>
      let state := { state with history }
      match state.xaAllocId with
      | (none, state) =>
        let (_, history) := (xa.drop driver).perform state.history
        (.failed "Failed to allocate XA ID", { state with history })
      | (some xaId, state) =>
        (.started xaId, { state with xaActive := state.xaActive.insert xaId xa })

def odbcXaResumePrepared (connId : Nat) (formatId : Int32) (gtrid bqual : Option Bytes)
    (state : XaMaps) : XaReply × XaMaps :=
  match xaArguments "odbc_xa_resume_prepared" connId formatId gtrid bqual state with
  | .error message => (.failed message, state)
  | .ok xid =>
    match (resumePrepared driver connId xid).perform state.history with
    | (.error error, history) =>
      (.failed s!"odbc_xa_resume_prepared: {error.display}", { state with history })
    | (.ok prepared, history) =>
      let state := { state with history }
      match state.xaAllocId with
      | (none, state) => (.failed "Failed to allocate XA ID", state)
      | (some xaId, state) =>
        (.started xaId, { state with xaPrepared := state.xaPrepared.insert xaId prepared })

def odbcXaRecoverCount (connId : Nat) (state : XaMaps) : XaReply × XaMaps :=
  if (state.connections.lookup connId).isNone then
    (.failed s!"Invalid connection ID: {connId}", state)
  else
    match (recoverPreparedXids driver connId).perform state.history with
    | (.ok xids, history) => (.counted xids.length, { state with history })
    | (.error error, history) =>
      (.failed s!"xa_recover_count failed: {error.display}", { state with history })

/-- The handle is looked for, consumed by its method, and what that returns is kept. Behind a
failure there is nothing to keep. -/
def consume {α β : Type} (state : XaMaps) (handle : Option α) (missing verb : String)
    (method : α → XaM β) (taken : XaMaps) (keep : β → XaMaps → XaMaps) : XaReply × XaMaps :=
  match handle with
  | none => (.failed missing, state)
  | some handle =>
    match (method handle).perform state.history with
    | (.ok next, history) => (.done, keep next { taken with history })
    | (.error error, history) =>
      (.failed s!"{verb} failed: {error.display}", { taken with history })

def odbcXaEnd (xaId : Nat) (state : XaMaps) : XaReply × XaMaps :=
  state.consume (state.xaActive.lookup xaId) s!"Invalid XA ID (Active): {xaId}" "xa_end"
    (fun xa => xa.finish driver) { state with xaActive := state.xaActive.erase xaId }
    fun preparing state => { state with xaPreparing := state.xaPreparing.insert xaId preparing }

def odbcXaPrepare (xaId : Nat) (state : XaMaps) : XaReply × XaMaps :=
  state.consume (state.xaPreparing.lookup xaId)
    s!"Invalid XA ID (Idle, awaiting prepare): {xaId}" "xa_prepare"
    (fun preparing => preparing.prepare driver)
    { state with xaPreparing := state.xaPreparing.erase xaId }
    fun prepared state => { state with xaPrepared := state.xaPrepared.insert xaId prepared }

def odbcXaCommitPrepared (xaId : Nat) (state : XaMaps) : XaReply × XaMaps :=
  state.consume (state.xaPrepared.lookup xaId) s!"Invalid XA ID (Prepared): {xaId}"
    "xa_commit_prepared" (fun prepared => prepared.commit driver)
    { state with xaPrepared := state.xaPrepared.erase xaId } fun _ state => state

def odbcXaRollbackPrepared (xaId : Nat) (state : XaMaps) : XaReply × XaMaps :=
  state.consume (state.xaPrepared.lookup xaId) s!"Invalid XA ID (Prepared): {xaId}"
    "xa_rollback_prepared" (fun prepared => prepared.rollback driver)
    { state with xaPrepared := state.xaPrepared.erase xaId } fun _ state => state

def odbcXaCommitOnePhase (xaId : Nat) (state : XaMaps) : XaReply × XaMaps :=
  state.consume (state.xaActive.lookup xaId) s!"Invalid XA ID (Active): {xaId}"
    "xa_commit_one_phase" (fun xa => xa.commitOnePhase driver)
    { state with xaActive := state.xaActive.erase xaId } fun _ state => state

def odbcXaRollbackActive (xaId : Nat) (state : XaMaps) : XaReply × XaMaps :=
  state.consume (state.xaActive.lookup xaId) s!"Invalid XA ID (Active): {xaId}"
    "xa_rollback_active" (fun xa => xa.rollback driver)
    { state with xaActive := state.xaActive.erase xaId } fun _ state => state

/-! ## Any sequence of calls -/

/-- The entry points that take the identifier of a branch. -/
inductive Entry where
  | finish
  | prepare
  | commitPrepared
  | rollbackPrepared
  | commitOnePhase
  | rollbackActive
  deriving DecidableEq, Repr

def Entry.call : Entry → Nat → XaMaps → XaReply × XaMaps
  | .finish => odbcXaEnd driver
  | .prepare => odbcXaPrepare driver
  | .commitPrepared => odbcXaCommitPrepared driver
  | .rollbackPrepared => odbcXaRollbackPrepared driver
  | .commitOnePhase => odbcXaCommitOnePhase driver
  | .rollbackActive => odbcXaRollbackActive driver

inductive Event where
  /-- Connections come and go beside the branches. -/
  | connected (connId : Nat)
  | disconnected (connId : Nat)
  | start (connId : Nat) (formatId : Int32) (gtrid bqual : Option Bytes)
  | resume (connId : Nat) (formatId : Int32) (gtrid bqual : Option Bytes)
  | recover (connId : Nat)
  | call (entry : Entry) (xaId : Nat)

def act : Event → XaMaps → XaReply × XaMaps
  | .connected connId, state =>
    (.done, { state with connections := state.connections.insert connId () })
  | .disconnected connId, state =>
    (.done, { state with connections := state.connections.erase connId })
  | .start connId formatId gtrid bqual, state =>
    state.odbcXaStart driver connId formatId gtrid bqual
  | .resume connId formatId gtrid bqual, state =>
    state.odbcXaResumePrepared driver connId formatId gtrid bqual
  | .recover connId, state => state.odbcXaRecoverCount driver connId
  | .call entry xaId, state => entry.call driver xaId state

/-- The reply of a call, and what was asked for it. -/
structure Output where
  event : Event
  reply : XaReply
  sent : List XaRecord

def step (event : Event) (state : XaMaps) : Option (XaMaps × Output) :=
  let (reply, next) := state.act driver event
  some (next, ⟨event, reply, next.history.drop state.history.length⟩)

end XaMaps

end OdbcFast.Native
