import OdbcFast.Dart.Repository

/-!
# Transactions of the service

The repository turns what its native calls answer into results, and the exceptions they
throw as well; what is no exception passes it. The service runs an action behind a begin
and commits or rolls back by how the action ends.

The native side and the action go on by the state of the whole program, and each may
change it, so whatever happens between two steps is part of one of them.
-/

namespace OdbcFast.Dart

open Wire

inductive IsolationLevel where
  | readUncommitted
  | readCommitted
  | repeatableRead
  | serializable
  deriving DecidableEq, Repr

def IsolationLevel.value : IsolationLevel → Nat
  | .readUncommitted => 0
  | .readCommitted => 1
  | .repeatableRead => 2
  | .serializable => 3

inductive SavepointDialect where
  | auto
  | sqlServer
  | sql92
  deriving DecidableEq, Repr

def SavepointDialect.code : SavepointDialect → Nat
  | .auto => 0
  | .sqlServer => 1
  | .sql92 => 2

inductive TransactionAccessMode where
  | readWrite
  | readOnly
  deriving DecidableEq, Repr

def TransactionAccessMode.code : TransactionAccessMode → Nat
  | .readWrite => 0
  | .readOnly => 1

/-- `lockTimeoutMs` of a duration in microseconds. Without one it is the engine's default. -/
def lockTimeoutMs (lockTimeout : Option Int) : Int :=
  match lockTimeout with
  | none => 0
  | some lockTimeout =>
    let inMilliseconds := lockTimeout.tdiv 1000
    if inMilliseconds = 0 ∧ 0 < lockTimeout then 1
    else max 0 (min inMilliseconds 0xFFFFFFFF)

/-- What the native begin is asked. -/
structure BeginRequest where
  connectionId : Nat
  isolationLevel : Nat
  savepointDialect : Nat
  accessMode : Nat
  lockTimeoutMs : Int
  deriving DecidableEq, Repr

def BeginRequest.of (nativeId : Nat) (isolationLevel : IsolationLevel)
    (savepointDialect : SavepointDialect) (accessMode : TransactionAccessMode)
    (lockTimeout : Option Int) : BeginRequest :=
  ⟨nativeId, isolationLevel.value, savepointDialect.code, accessMode.code,
    Dart.lockTimeoutMs lockTimeout⟩

/-- The native function takes an unsigned number of 32 bits. -/
def BeginRequest.nativeLockTimeoutMs (request : BeginRequest) : UInt32 :=
  .ofBitVec (.ofInt 32 request.lockTimeoutMs)

/-- What the transactions of the repository rest on. -/
structure TransactionNatives (S : Type) where
  connectionIds : S → HashMap String Nat
  beginTransaction : BeginRequest → S → Completion Nat × S
  commitTransaction : Nat → S → Completion Bool × S
  rollbackTransaction : Nat → S → Completion Bool × S
  errors : S → NativeErrors × S

/-! ## The repository -/

namespace Repository

variable {S : Type} (natives : TransactionNatives S)

def beginTransaction (connectionId : String) (isolationLevel : IsolationLevel)
    (savepointDialect : SavepointDialect) (accessMode : TransactionAccessMode)
    (lockTimeout : Option Int) (state : S) : Completion (Result Nat) × S :=
  match (natives.connectionIds state).lookup connectionId with
  | none => (.ok (.failure invalidConnectionId), state)
  | some nativeId =>
    match natives.beginTransaction
      (.of nativeId isolationLevel savepointDialect accessMode lockTimeout) state with
    | (.error thrown, state) => (failureOnException .query (.error thrown), state)
    | (.ok 0, state) =>
      let (errors, state) := natives.errors state
      (failureOnException .query
        (convertNativeErrorToFailure .query "Failed to begin transaction" errors), state)
    | (.ok txnId, state) => (.ok (.success txnId), state)

/-- What `commitTransaction` and `rollbackTransaction` share. -/
def finishTransaction (call : Nat → S → Completion Bool × S) (fallbackMessage : String)
    (txnId : Nat) (state : S) : Completion (Result Unit) × S :=
  match call txnId state with
  | (.error thrown, state) => (failureOnException .query (.error thrown), state)
  | (.ok true, state) => (.ok (.success ()), state)
  | (.ok false, state) =>
    let (errors, state) := natives.errors state
    (failureOnException .query (convertNativeErrorToFailure .query fallbackMessage errors), state)

def commitTransaction : Nat → S → Completion (Result Unit) × S :=
  finishTransaction natives natives.commitTransaction "Failed to commit transaction"

def rollbackTransaction : Nat → S → Completion (Result Unit) × S :=
  finishTransaction natives natives.rollbackTransaction "Failed to rollback transaction"

end Repository

/-! ## The service -/

structure TransactionOptions where
  isolationLevel : Option IsolationLevel := none
  savepointDialect : Option SavepointDialect := none
  accessMode : Option TransactionAccessMode := none
  lockTimeout : Option Int := none
  deriving DecidableEq, Repr

/-- Any object can be thrown, and its `toString` is code of its own. -/
structure ThrownObject where
  runtimeType : String
  text : Completion String
  stackTrace : String

inductive ActionEnd (T : Type) where
  | returned (result : Result T)
  | threw (object : ThrownObject)

/-- How the service tries to end a transaction. -/
inductive EndAttempt where
  | commit (txnId : Nat)
  | rollback (txnId : Nat)
  deriving DecidableEq, Repr

structure ServiceRun (S T : Type) where
  completion : Completion (Result T)
  attempts : List EndAttempt
  state : S

namespace OdbcService

variable {S T : Type} (natives : TransactionNatives S)

def beginTransaction (connectionId : String) (options : TransactionOptions) (state : S) :
    Completion (Result Nat) × S :=
  Repository.beginTransaction natives connectionId (options.isolationLevel.getD .readCommitted)
    (options.savepointDialect.getD .auto) (options.accessMode.getD .readWrite)
    options.lockTimeout state

/-- `_safelyRollback`: whatever it completes with is dropped. -/
def safelyRollback (txnId : Nat) (state : S) : S :=
  (Repository.rollbackTransaction natives txnId state).2

/-- The failure that stands for a thrown object. Its text is formed outside every `try`. -/
def actionThrew (object : ThrownObject) : Completion (Result T) := do
  let text ← object.text
  .ok (.failure
    { errorClass := .query
      message := "runInTransaction: action threw " ++ object.runtimeType ++ ": " ++ text ++ "\n" ++
        object.stackTrace })

/-- Neither the begin nor the commit is inside a `try`. -/
def runInTransaction (connectionId : String) (action : Nat → S → ActionEnd T × S)
    (options : TransactionOptions) (state : S) : ServiceRun S T :=
  match beginTransaction natives connectionId options state with
  | (.error thrown, state) => ⟨.error thrown, [], state⟩
  | (.ok (.failure error), state) => ⟨.ok (.failure error), [], state⟩
  | (.ok (.success txnId), state) =>
    match action txnId state with
    | (.threw object, state) =>
      ⟨actionThrew object, [.rollback txnId], safelyRollback natives txnId state⟩
    | (.returned (.failure error), state) =>
      ⟨.ok (.failure error), [.rollback txnId], safelyRollback natives txnId state⟩
    | (.returned (.success value), state) =>
      match Repository.commitTransaction natives txnId state with
      | (.error thrown, state) => ⟨.error thrown, [.commit txnId], state⟩
      | (.ok (.failure error), state) => ⟨.ok (.failure error), [.commit txnId], state⟩
      | (.ok (.success ()), state) => ⟨.ok (.success value), [.commit txnId], state⟩

end OdbcService

end OdbcFast.Dart
