import OdbcFast.Native.Ffi.GlobalState

/-!
# Connection handles

The engine gives its connections numbers. A number is not given out while it is in use, also
when the counter has begun again at zero. Whoever asks for a connection gets a reference to it,
which stays good when the number is taken away, and works on it behind its lock.

References are modelled by the places of the connections in the order they were made.
-/

namespace OdbcFast.Native

open Wire

variable {C T : Type}

/-- A connection behind its mutex. -/
structure SharedConnection (C : Type) where
  connection : C
  poisoned : Bool := false
  deriving DecidableEq, Repr

/-- The locked connection is used; a panic poisons its mutex. -/
def SharedConnection.locked (use : C → Except (Fault OdbcError) T × C)
    (shared : SharedConnection C) : Except (Fault OdbcError) T × SharedConnection C :=
  if shared.poisoned then (.error (.err (.internalError "Failed to lock connection")), shared)
  else
    match use shared.connection with
    | (.error (.panic message), connection) => (.error (.panic message), ⟨connection, true⟩)
    | (answer, connection) => (answer, ⟨connection, false⟩)

/-- `MAX_CONN_ID_ALLOC_ATTEMPTS`. -/
def maxConnIdAllocAttempts : Nat := 1000

/-- The manager, with the connections that were ever made. -/
structure HandleManager (C : Type) where
  env : Bool := false
  connections : HashMap Nat Nat := ∅
  nextConnId : Nat := 1
  shared : List (SharedConnection C) := []

namespace HandleManager

def initEnvironment (created : Except OdbcError Unit) (manager : HandleManager C) :
    Except OdbcError Unit × HandleManager C :=
  match created with
  | .error error => (.error error, manager)
  | .ok () => (.ok (), { manager with env := true })

/-- How the driver connects: a string and a login timeout. -/
abbrev Connect (C : Type) := String → Option Nat → Except OdbcError C

def createConnectionWithOptions (connect : Connect C) (connStr : String)
    (loginTimeoutSec : Option Nat) (manager : HandleManager C) :
    Except OdbcError Nat × HandleManager C :=
  if ¬ manager.env then (.error .environmentNotInitialized, manager)
  else
    match connect connStr loginTimeoutSec with
    | .error error => (.error error, manager)
    | .ok connection =>
      let (connId, nextConnId) := allocateFrom (fun id => (manager.connections.lookup id).isSome)
        maxConnIdAllocAttempts manager.nextConnId
      let manager := { manager with nextConnId }
      match connId with
      | none =>
        (.error (.internalError "Failed to allocate connection ID after max attempts"), manager)
      | some connId => (.ok connId, { manager with
          connections := manager.connections.insert connId manager.shared.length
          shared := manager.shared ++ [{ connection }] })

def createConnection (connect : Connect C) (connStr : String) :
    HandleManager C → Except OdbcError Nat × HandleManager C :=
  createConnectionWithOptions connect connStr none

def createConnectionWithTimeout (connect : Connect C) (connStr : String) (timeoutSecs : Nat) :
    HandleManager C → Except OdbcError Nat × HandleManager C :=
  createConnectionWithOptions connect connStr (some timeoutSecs)

def getConnection (connId : Nat) (manager : HandleManager C) : Except OdbcError Nat :=
  match manager.connections.lookup connId with
  | some ref => .ok ref
  | none => .error (.invalidHandle connId)

/-- A reference is used. -/
def lockShared (ref : Nat) (use : C → Except (Fault OdbcError) T × C)
    (manager : HandleManager C) : Except (Fault OdbcError) T × HandleManager C :=
  match manager.shared[ref]? with
  | none => (.error (.err (.internalError "Failed to lock connection")), manager)
  | some shared =>
    let (answer, shared) := shared.locked use
    (answer, { manager with shared := manager.shared.set ref shared })

def withConnection (connId : Nat) (use : C → Except (Fault OdbcError) T × C)
    (manager : HandleManager C) : Except (Fault OdbcError) T × HandleManager C :=
  match manager.getConnection connId with
  | .error error => (.error (.err error), manager)
  | .ok ref => manager.lockShared ref use

def removeConnection (connId : Nat) (manager : HandleManager C) :
    Except OdbcError Unit × HandleManager C :=
  match manager.connections.lookup connId with
  | none => (.error (.invalidHandle connId), manager)
  | some _ => (.ok (), { manager with connections := manager.connections.erase connId })

/-- What is behind an identifier: the reference, and the connection as it is now. -/
def entry (connId : Nat) (manager : HandleManager C) : Option (Nat × Option (SharedConnection C)) :=
  (manager.connections.lookup connId).map fun ref => (ref, manager.shared[ref]?)

/-! ## What each operation changes -/

variable {manager next : HandleManager C} {connId other ref : Nat}

theorem createConnectionWithOptions_cases {connect : Connect C} {connStr : String}
    {timeout : Option Nat} {answer : Except OdbcError Nat}
    (created : manager.createConnectionWithOptions connect connStr timeout = (answer, next)) :
    (∃ error, answer = .error error ∧ next.connections = manager.connections ∧
        next.shared = manager.shared) ∨
      ∃ id connection, answer = .ok id ∧ id ≠ 0 ∧ manager.connections.lookup id = none ∧
        next.connections = manager.connections.insert id manager.shared.length ∧
        next.shared = manager.shared ++ [⟨connection, false⟩] := by
  rw [createConnectionWithOptions] at created
  by_cases ready : manager.env
  swap
  · rw [if_pos ready] at created
    cases created
    exact .inl ⟨_, rfl, rfl, rfl⟩
  rw [if_neg (not_not_intro ready)] at created
  rcases connected : connect connStr timeout with error | connection
  · rw [connected] at created
    cases created
    exact .inl ⟨_, rfl, rfl, rfl⟩
  rw [connected] at created
  rcases allocated : allocateFrom (fun id => (manager.connections.lookup id).isSome)
    maxConnIdAllocAttempts manager.nextConnId with ⟨_ | id, nextConnId⟩
  · dsimp only at created
    rw [allocated] at created
    cases created
    exact .inl ⟨_, rfl, rfl, rfl⟩
  · dsimp only at created
    rw [allocated] at created
    cases created
    obtain ⟨positive, free⟩ := allocateFrom_spec (congrArg Prod.fst allocated)
    exact .inr ⟨id, connection, rfl, positive, by simpa using free, rfl, rfl⟩

/-- Only the connection behind the reference is changed. -/
theorem lockShared_changes (use : C → Except (Fault OdbcError) T × C) :
    (manager.lockShared ref use).2.connections = manager.connections ∧
      (manager.lockShared ref use).2.shared.length = manager.shared.length ∧
      ∀ ref' ≠ ref, (manager.lockShared ref use).2.shared[ref']? = manager.shared[ref']? := by
  rw [lockShared]
  rcases manager.shared[ref]? with _ | shared
  · exact ⟨rfl, rfl, fun _ _ => rfl⟩
  · refine ⟨rfl, List.length_set, fun ref' apart => ?_⟩
    exact List.getElem?_set_ne apart.symm

theorem getConnection_eq_ok_iff :
    manager.getConnection connId = .ok ref ↔ manager.connections.lookup connId = some ref := by
  rw [getConnection]
  rcases manager.connections.lookup connId with _ | ref'
  · exact iff_of_false (by rintro ⟨⟩) (by rintro ⟨⟩)
  · rw [Except.ok.injEq, Option.some.injEq]

/-- A number is taken away, and no connection. -/
theorem removeConnection_changes :
    (manager.removeConnection connId).2.shared = manager.shared ∧
      (∀ other ≠ connId, (manager.removeConnection connId).2.connections.lookup other =
        manager.connections.lookup other) ∧
      (manager.removeConnection connId).2.connections.lookup connId = none := by
  rw [removeConnection]
  rcases found : manager.connections.lookup connId with _ | ref
  · exact ⟨rfl, fun _ _ => rfl, found⟩
  · exact ⟨rfl, fun other apart => AList.lookup_erase_ne apart, AList.lookup_erase _ _⟩

end HandleManager

end OdbcFast.Native
