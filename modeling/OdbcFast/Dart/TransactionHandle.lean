import OdbcFast.Dart.XaTransactionHandle
import OdbcFast.Native.Engine.Transaction
import OdbcFast.Native.Ffi.Sessions

/-!
# Transactions driven from Dart

The handle of a transaction holds the native identifier and a state of its own. Whether the
backend has done what the handle asks for, it answers with a flag. Two helpers run an action, one
inside a transaction of its own and one behind a savepoint.

The action is any program that goes on by what it is answered. It may call the methods of the
handle, the backend past the handle, and anything else.
-/

namespace OdbcFast.Dart

open Wire

inductive TransactionHandleState where
  | active
  | committed
  | rolledBack
  | failed
  deriving DecidableEq, Repr

structure TransactionHandle where
  txnId : Nat
  state : TransactionHandleState := .active
  deriving DecidableEq, Repr

/-- What `OdbcConnectionBackend` is asked for a transaction. -/
inductive BackendCall where
  | commitTransaction (txnId : Nat)
  | rollbackTransaction (txnId : Nat)
  | createSavepoint (txnId : Nat) (name : String)
  | rollbackToSavepoint (txnId : Nat) (name : String)
  | releaseSavepoint (txnId : Nat) (name : String)
  deriving DecidableEq, Repr

def BackendCall.txnId : BackendCall → Nat
  | .commitTransaction txnId | .rollbackTransaction txnId | .createSavepoint txnId _
  | .rollbackToSavepoint txnId _ | .releaseSavepoint txnId _ => txnId

/-- A call with its answer, or something else that an action does. -/
inductive BackendRecord (O : Type) where
  | call (call : BackendCall) (ok : Bool)
  | other (event : O)
  deriving DecidableEq, Repr

/-- A backend answers by all that was done before. -/
structure TransactionBackend (O R : Type) where
  answer : List (BackendRecord O) → BackendCall → Bool
  other : List (BackendRecord O) → O → R

/-- A handle beside what the backend has been through. -/
structure TransactionWorld (O : Type) where
  handle : TransactionHandle
  history : List (BackendRecord O)

namespace TransactionWorld

variable {O R T : Type} (backend : TransactionBackend O R)

def call (call : BackendCall) (world : TransactionWorld O) : Bool × TransactionWorld O :=
  let ok := backend.answer world.history call
  (ok, { world with history := world.history ++ [.call call ok] })

/-- A method that ends the transaction. It asks for nothing when that was tried before. -/
def finish (call : Nat → BackendCall) (next : TransactionHandleState)
    (world : TransactionWorld O) : Bool × TransactionWorld O :=
  if world.handle.state ≠ .active then (false, world)
  else
    let (ok, world) := world.call backend (call world.handle.txnId)
    (ok, { world with handle := { world.handle with state := if ok then next else .failed } })

def commit : TransactionWorld O → Bool × TransactionWorld O :=
  finish backend .commitTransaction .committed

def rollback : TransactionWorld O → Bool × TransactionWorld O :=
  finish backend .rollbackTransaction .rolledBack

def createSavepoint (name : String) (world : TransactionWorld O) : Bool × TransactionWorld O :=
  world.call backend (.createSavepoint world.handle.txnId name)

def rollbackToSavepoint (name : String) (world : TransactionWorld O) :
    Bool × TransactionWorld O :=
  world.call backend (.rollbackToSavepoint world.handle.txnId name)

def releaseSavepoint (name : String) (world : TransactionWorld O) : Bool × TransactionWorld O :=
  world.call backend (.releaseSavepoint world.handle.txnId name)

/-! ## Actions -/

inductive Op (O : Type) where
  | commit
  | rollback
  | createSavepoint (name : String)
  | rollbackToSavepoint (name : String)
  | releaseSavepoint (name : String)
  /-- A call past the handle. -/
  | native (call : BackendCall)
  | other (event : O)

inductive OpReply (R : Type) where
  | answered (ok : Bool)
  | other (reply : R)

def reply : Op O → TransactionWorld O → OpReply R × TransactionWorld O
  | .commit, world => (world.commit backend).map .answered id
  | .rollback, world => (world.rollback backend).map .answered id
  | .createSavepoint name, world => (world.createSavepoint backend name).map .answered id
  | .rollbackToSavepoint name, world => (world.rollbackToSavepoint backend name).map .answered id
  | .releaseSavepoint name, world => (world.releaseSavepoint backend name).map .answered id
  | .native call, world => (world.call backend call).map .answered id
  | .other event, world =>
    (.other (backend.other world.history event),
      { world with history := world.history ++ [.other event] })

abbrev Action (O R T : Type) := Interaction (Op O) (OpReply R) (ActionOutcome T)

/-- The answer of a release is not looked at. -/
def withSavepoint (name : String) (action : Action O R T) (world : TransactionWorld O) :
    ActionOutcome T × TransactionWorld O :=
  let (created, world) := world.createSavepoint backend name
  if ¬ created then
    let txnId := world.handle.txnId
    (.threw s!"Failed to create savepoint \"{name}\" on txn {txnId}", world)
  else
    match action.run (reply backend) world with
    | (.returned result, world) => (.returned result, (world.releaseSavepoint backend name).2)
    | (.threw error, world) => (.threw error, (world.rollbackToSavepoint backend name).2)

/-- What `beginFn` has come to is given. The answer of the commit is not looked at. -/
def runWithBegin (begun : ActionOutcome (Option TransactionHandle)) (action : Action O R T)
    (history : List (BackendRecord O)) : ActionOutcome T × List (BackendRecord O) :=
  match begun with
  | .threw error => (.threw error, history)
  | .returned none => (.threw "beginTransactionHandle returned null", history)
  | .returned (some txn) =>
    match action.run (reply backend) ⟨txn, history⟩ with
    | (.returned result, world) => (.returned result, (world.commit backend).2.history)
    | (.threw error, world) =>
      if world.handle.state = .active then (.threw error, (world.rollback backend).2.history)
      else (.threw error, world.history)

end TransactionWorld

/-! ## The native backend -/

open Native.Engine (ConnectionCall ConnectionDriver TransactionSlots)

/-- Something that reaches the driver of a connection by another way. -/
abbrev ConnectionEvent := Nat × ConnectionCall

def isOk {ε α : Type} : Except ε α → Bool
  | .ok _ => true
  | .error _ => false

/-- What the native library does for a call, which passes names as C strings. -/
def BackendCall.perform (drivers : Nat → ConnectionDriver) :
    BackendCall → TransactionSlots → Except String Unit × TransactionSlots
  | .commitTransaction txnId => TransactionSlots.odbcTransactionCommit drivers txnId
  | .rollbackTransaction txnId => TransactionSlots.odbcTransactionRollback drivers txnId
  | .createSavepoint txnId name =>
    TransactionSlots.odbcSavepointCreate drivers txnId (Native.cText name)
  | .rollbackToSavepoint txnId name =>
    TransactionSlots.odbcSavepointRollback drivers txnId (Native.cText name)
  | .releaseSavepoint txnId name =>
    TransactionSlots.odbcSavepointRelease drivers txnId (Native.cText name)

/-- What is answered for it on a connection. -/
def performEvent (drivers : Nat → ConnectionDriver) (event : ConnectionEvent)
    (slots : TransactionSlots) : Except Native.OdbcError Unit × TransactionSlots :=
  let (result, handles) := (slots.handles event.1).call (drivers event.1) event.2
  (result, { slots with handles := Function.update slots.handles event.1 handles })

/-- The native library behind all that was done. -/
def slotsBehind (drivers : Nat → ConnectionDriver) (start : TransactionSlots)
    (history : List (BackendRecord ConnectionEvent)) : TransactionSlots :=
  history.foldl (fun slots record => match record with
    | .call call _ => (call.perform drivers slots).2
    | .other event => (performEvent drivers event slots).2) start

/-- The backend that is the native library. -/
def nativeBackend (drivers : Nat → ConnectionDriver) (start : TransactionSlots) :
    TransactionBackend ConnectionEvent (Except Native.OdbcError Unit) where
  answer history call := isOk (call.perform drivers (slotsBehind drivers start history)).1
  other history event := (performEvent drivers event (slotsBehind drivers start history)).1

end OdbcFast.Dart
