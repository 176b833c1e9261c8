import OdbcFast.Wire.LockSystem
import OdbcFast.Wire.Machine

/-!
# The locks of the C interface

Behind the C interface lie three levels of locks: the global state, the table of handles
and one lock for each connection. An entry point is the list of what it takes and gives
back, in the order of the source: a guard that is bound in a function is given back at
its end, behind the guards bound after it. A stream's worker keeps the lock of its
connection from its start to its last message, and waits where its channel, which has
one slot, is full.

Which way an entry point goes depends on what it finds: a failing driver, a transaction
of the connection, a stream in its map. These answers are parameters of the entry point.
The environment's lock is left out, which is only taken under the global one, and so are
poisoned locks and the pools, whose connections have no lock of their own here.
-/

namespace OdbcFast.Native

open Wire

namespace Locks

inductive Lock where
  | global
  | handles
  | connection (connId : Nat)
  deriving DecidableEq, Repr

/-- A caller of the C interface (the task of an asynchronous request included), or the worker
of a stream. -/
inductive Thread where
  | caller (number : Nat)
  | worker (streamId : Nat)
  deriving DecidableEq, Repr

inductive Act where
  | work
  | spawn (streamId connId messages : Nat)
  | send (streamId : Nat)
  | receive (streamId : Nat)
  | tryReceive (streamId : Nat)
  | close (streamId : Nat)
  deriving DecidableEq, Repr

/-- A `sync_channel(1)`: whether its slot is taken and whether the receiving end is gone. -/
structure Channel where
  connId : Nat
  full : Bool := false
  closed : Bool := false
  deriving DecidableEq, Repr

abbrev Program := List (LockAction Lock Act)

/-- The channels are known by their streams. -/
abbrev System := LockSystem Thread Lock Act (Nat → Option Channel)

/-! ## Entry points -/

section Sections

variable (connId streamId : Nat)

def lockGlobal : LockAction Lock Act := .acquire .global

def dropGlobal : LockAction Lock Act := .release .global

/-- `handles.lock()`, released as soon as the connection is cloned. -/
def cloneConnection : Program := [.acquire .handles, .release .handles]

/-- A section that holds the connection and nothing else of its own: `run_on_conn`,
`Transaction::commit`, `DbmsInfo::detect_for_conn_id`, `run_async_query` and their like. -/
def onConnection : Program :=
  cloneConnection ++
    [.acquire (.connection connId), .act .work, .release (.connection connId)]

/-- Several such sections in a row. -/
def onConnectionTimes : Nat → Program
  | 0 => []
  | times + 1 => onConnection connId ++ onConnectionTimes times

/-- `times` sections that lock the global state. -/
def globalTimes : Nat → Program
  | 0 => []
  | times + 1 => lockGlobal :: .act .work :: dropGlobal :: globalTimes times

/-- A worker: the lock of its connection, its messages, and the lock back at its end. -/
def workerProgram (messages : Nat) : Program :=
  .acquire (.connection connId) ::
    (List.replicate messages (.act (.send streamId)) ++ [.release (.connection connId)])

/-- Work under the global lock that locks the connection `times` times. -/
def underGlobal (times : Nat) : Program :=
  lockGlobal :: (onConnectionTimes connId times ++ [dropGlobal])

/-- The connection's guard is bound beside the global one, and a failure drops and retakes the
global lock with the connection's guard still there. -/
def guardBesideGlobal (failed : Bool) : Program :=
  lockGlobal :: (cloneConnection ++ .acquire (.connection connId) :: .act .work ::
    if failed then [dropGlobal, lockGlobal, dropGlobal, .release (.connection connId)]
    else [.release (.connection connId), dropGlobal])

/-- The connection's guard ends with its block; a failure retakes the global lock behind it. -/
def guardInBlock (failed : Bool) : Program :=
  underGlobal connId 1 ++ globalTimes failed.toNat

/-- The start of a stream with a worker; with no free identifier the receiver is dropped. -/
def startStream (messages : Nat) (stored : Bool) : Program :=
  lockGlobal :: dropGlobal :: (cloneConnection ++ .act (.spawn streamId connId messages) ::
    lockGlobal :: ((if stored then [] else [.act (.close streamId)]) ++ [dropGlobal]))

end Sections

/-- The calls of the C interface, with what they find. Where the source names a transaction, a
branch or a statement, `connId` is its connection. -/
inductive EntryPoint where
  /-- Any call that locks nothing but the global state: errors, metrics, audit, caches,
  statements, pools, asynchronous requests, `odbc_stream_cancel`, and every call that is
  refused before it reaches a connection. -/
  | globalOnly (sections : Nat)
  | odbcConnect
  | odbcConnectWithTimeout
  | odbcDisconnect (connId transactions : Nat) (streams : List Nat)
  | odbcTransactionBegin (connId : Nat) (auto stored : Bool)
  | odbcTransactionCommit (connId : Nat) (failed : Bool)
  | odbcTransactionRollback (connId : Nat) (failed : Bool)
  | odbcSavepointCreate (connId : Nat)
  | odbcSavepointRollback (connId : Nat)
  | odbcSavepointRelease (connId : Nat)
  | odbcXaStart (connId sections : Nat)
  | odbcXaEnd (connId sections : Nat)
  | odbcXaPrepare (connId sections : Nat)
  | odbcXaCommitPrepared (connId sections : Nat)
  | odbcXaRollbackPrepared (connId sections : Nat)
  | odbcXaCommitOnePhase (connId sections : Nat)
  | odbcXaRollbackActive (connId sections : Nat)
  | odbcXaResumePrepared (connId sections : Nat)
  | odbcXaRecoverCount (connId : Nat) (failed : Bool)
  | odbcGetConnectionDbmsInfo (connId : Nat) (failed : Bool)
  | odbcExecQuery (connId : Nat) (failed : Bool)
  | runAsyncQuery (connId : Nat)
  | odbcExecQueryParams (connId : Nat) (failed : Bool)
  | odbcExecQueryMulti (connId : Nat) (failed : Bool)
  | odbcExecQueryMultiParams (connId : Nat) (failed : Bool)
  | odbcExecute (connId : Nat) (failed : Bool)
  | odbcBulkInsertArray (connId : Nat)
  | odbcCatalogTables (connId : Nat) (failed : Bool)
  | odbcCatalogColumns (connId : Nat) (failed : Bool)
  | odbcCatalogTypeInfo (connId : Nat) (failed : Bool)
  | odbcCatalogPrimaryKeys (connId : Nat) (failed : Bool)
  | odbcCatalogForeignKeys (connId : Nat) (failed : Bool)
  | odbcCatalogIndexes (connId : Nat) (failed : Bool)
  | odbcStreamStart (connId : Nat)
  | odbcStreamStartBatched (streamId connId messages : Nat) (stored : Bool)
  | odbcStreamStartAsync (streamId connId messages : Nat) (stored : Bool)
  | odbcStreamMultiStartBatched (streamId connId messages : Nat) (stored : Bool)
  | odbcStreamMultiStartAsync (streamId connId messages : Nat) (stored : Bool)
  | odbcStreamFetch (streamId : Nat) (receives : Bool)
  | odbcStreamPollAsync (streamId : Nat) (pulls : Bool)
  | odbcStreamClose (streamId : Nat) (found : Bool)
  | odbcPoolGetConnection
  deriving DecidableEq, Repr

namespace EntryPoint

/-- What the call takes and gives back. -/
def program : EntryPoint → Program
  | globalOnly sections => globalTimes sections
  | odbcConnect | odbcConnectWithTimeout =>
      [lockGlobal, .acquire .handles, .act .work, .release .handles, dropGlobal]
  -- Open transactions are rolled back before the connection's streams are dropped.
  | odbcDisconnect connId transactions streams =>
      lockGlobal :: (onConnectionTimes connId transactions ++
        (streams.map (fun streamId => .act (.close streamId)) ++
          (cloneConnection ++ [dropGlobal])))
  -- A transaction that finds no identifier is rolled back as it is dropped, where
  -- `Transaction::drop` keeps the handles while it waits for the connection.
  | odbcTransactionBegin connId auto stored =>
      lockGlobal :: dropGlobal :: (onConnectionTimes connId (auto.toNat + 1) ++
        (if stored then globalTimes 1
        else [lockGlobal, .acquire .handles, .acquire (.connection connId), .act .work,
          .release (.connection connId), .release .handles, dropGlobal]))
  | odbcTransactionCommit connId failed | odbcTransactionRollback connId failed =>
      lockGlobal :: dropGlobal :: (onConnection connId ++ globalTimes failed.toNat)
  | odbcSavepointCreate connId | odbcSavepointRollback connId | odbcSavepointRelease connId =>
      underGlobal connId 1
  | odbcXaStart connId sections | odbcXaEnd connId sections | odbcXaPrepare connId sections
  | odbcXaCommitPrepared connId sections | odbcXaRollbackPrepared connId sections
  | odbcXaCommitOnePhase connId sections | odbcXaRollbackActive connId sections
  | odbcXaResumePrepared connId sections => underGlobal connId sections
  | odbcXaRecoverCount connId failed =>
      lockGlobal :: dropGlobal :: (onConnectionTimes connId 2 ++ globalTimes failed.toNat)
  | odbcGetConnectionDbmsInfo connId failed => guardInBlock connId failed
  | odbcExecQuery connId failed =>
      lockGlobal :: (cloneConnection ++ dropGlobal :: .acquire (.connection connId) ::
        .act .work :: .release (.connection connId) :: globalTimes (failed.toNat + 1))
  | runAsyncQuery connId => onConnection connId
  | odbcExecQueryMulti connId failed | odbcExecQueryMultiParams connId failed
  | odbcExecute connId failed => guardInBlock connId failed
  | odbcBulkInsertArray connId => underGlobal connId 1
  | odbcExecQueryParams connId failed | odbcCatalogTables connId failed
  | odbcCatalogColumns connId failed | odbcCatalogTypeInfo connId failed
  | odbcCatalogPrimaryKeys connId failed | odbcCatalogForeignKeys connId failed
  | odbcCatalogIndexes connId failed => guardBesideGlobal connId failed
  -- The global lock is retaken to store the stream, the connection's guard still there.
  | odbcStreamStart connId => guardBesideGlobal connId true
  | odbcStreamStartBatched streamId connId messages stored
  | odbcStreamStartAsync streamId connId messages stored
  | odbcStreamMultiStartBatched streamId connId messages stored
  | odbcStreamMultiStartAsync streamId connId messages stored =>
      startStream connId streamId messages stored
  -- The stream is taken out under the lock, and its channel read without it.
  | odbcStreamFetch streamId receives =>
      if receives then lockGlobal :: dropGlobal :: .act (.receive streamId) :: globalTimes 1
      else globalTimes 1
  | odbcStreamPollAsync streamId pulls =>
      lockGlobal :: ((if pulls then [.act (.tryReceive streamId)] else []) ++ [dropGlobal])
  | odbcStreamClose streamId found =>
      lockGlobal :: ((if found then [.act (.close streamId)] else []) ++ [dropGlobal])
  | odbcPoolGetConnection => lockGlobal :: dropGlobal :: .act .work :: globalTimes 1

end EntryPoint

/-! ## Runs -/

/-- A change to the channel of a stream. -/
def onChannel (streamId : Nat) (change : Channel → Channel) (system : System) : System :=
  { system with
    shared := Function.update system.shared streamId ((system.shared streamId).map change) }

/-- What an action does behind its thread's back; `none` where the thread has to wait. -/
def perform : Act → System → Option System
  | .work, system => some system
  -- The channel is a new one.
  | .spawn streamId connId messages, system =>
      if system.shared streamId = none ∧ system.program (.worker streamId) = [] then
        some (LockSystem.assign (.worker streamId) (workerProgram connId streamId messages)
          { system with shared := Function.update system.shared streamId (some { connId }) })
      else none
  | .send streamId, system =>
      match system.shared streamId with
      | none => none
      | some channel =>
          -- With the receiver gone `send` fails at once, and the worker leaves.
          if channel.closed then some system
          else if channel.full then none
          else some (onChannel streamId (fun channel => { channel with full := true }) system)
  | .receive streamId, system =>
      match system.shared streamId with
      | none => some system
      | some channel =>
          if channel.full then
            some (onChannel streamId (fun channel => { channel with full := false }) system)
          else if system.program (.worker streamId) = [] then some system
          else none
  | .tryReceive streamId, system =>
      some (onChannel streamId (fun channel => { channel with full := false }) system)
  | .close streamId, system =>
      some (onChannel streamId (fun channel => { channel with closed := true }) system)

inductive Event where
  | call (number : Nat) (entry : EntryPoint)
  | move (thread : Thread)
  deriving DecidableEq, Repr

def step : Event → System → Option (System × Unit)
  | .call number entry, system =>
      if system.program (.caller number) = [] then
        some (system.assign (.caller number) entry.program, ())
      else none
  | .move thread, system => (system.advance perform thread).map fun next => (next, ())

/-- No call has been made. -/
def initial : System := LockSystem.idle fun _ => none

end Locks

end OdbcFast.Native
