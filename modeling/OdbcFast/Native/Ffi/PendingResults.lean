import OdbcFast.Native.Ffi.Sessions
import OdbcFast.Native.Protocol.BoundParam

/-!
# Results that did not fit

A query that was executed but whose result is larger than the caller's buffer is
answered with -2, and the result is kept for two seconds under a key made of the
connection and a hash of the text. Every later call looks there first. Five entry points
share the map; each builds its key by itself.

`odbc_exec_query` gives up the global lock while the driver works, so other calls come in
between; the other entry points hold it throughout. The hash is the standard library's,
whose algorithm is not specified, and stays a parameter.
-/

namespace OdbcFast.Native

open Wire

/-- A call of one of the five entry points, without its buffer. No parameters is the empty
list. -/
inductive ExecCall where
  | execQuery (connId : Nat) (sql : String)
  | execQueryParams (connId : Nat) (sql : String) (params : Bytes)
  | execQueryMulti (connId : Nat) (sql : String)
  | execQueryMultiParams (connId : Nat) (sql : String) (params : Bytes)
  | execute (stmtId : Nat) (params : Bytes) (timeoutOverrideMs fetchSize : Nat)
  deriving DecidableEq, Repr

inductive PendingResultKey where
  | execQuery (connId : Nat) (sqlHash : UInt64)
  | execQueryParams (connId : Nat) (sqlHash paramsHash : UInt64)
  | execQueryMulti (connId : Nat) (sqlHash : UInt64)
  | execute (stmtId : Nat) (paramsHash : UInt64) (timeoutOverrideMs fetchSize : Nat)
  deriving DecidableEq, Repr

section

variable (hashBytes : Bytes → UInt64)

def sqlHash (sql : String) : UInt64 := hashBytes (utf8Bytes sql)

def paramsHash (params : Bytes) : UInt64 := if params.isEmpty then 0 else hashBytes params

/-- The key each entry point builds. -/
def ExecCall.pendingKey : ExecCall → PendingResultKey
  | .execQuery connId sql => .execQuery connId (sqlHash hashBytes sql)
  | .execQueryParams connId sql params =>
    .execQueryParams connId (sqlHash hashBytes sql) (paramsHash hashBytes params)
  | .execQueryMulti connId sql => .execQueryMulti connId (sqlHash hashBytes sql)
  | .execQueryMultiParams connId sql params =>
    .execQueryParams connId (sqlHash hashBytes sql) (paramsHash hashBytes params)
  | .execute stmtId params timeoutOverrideMs fetchSize =>
    .execute stmtId (paramsHash hashBytes params) timeoutOverrideMs fetchSize

end

structure PendingResultBuffer where
  data : Bytes
  createdAt : Nat
  /-- The call that was refused. No code reads it. -/
  call : ExecCall
  deriving DecidableEq, Repr

/-- In nanoseconds. -/
def pendingResultTtl : Nat := 2000000000

/-- Why a call is answered with -1. -/
inductive Failure where
  | message (text : String)
  | execution (error : OdbcError)
  deriving DecidableEq, Repr

inductive Answer where
  | written (data : Bytes)
  /-- The two numbers are in the message that is left on the connection. -/
  | tooSmall (need got : Nat)
  | failed (reason : Failure)
  deriving DecidableEq, Repr

def Answer.code : Answer → Int
  | .written _ => 0
  | .tooSmall _ _ => -2
  | .failed _ => -1

structure PendingResults where
  sessions : Sessions := {}
  buffers : HashMap PendingResultKey PendingResultBuffer := ∅
  now : Nat := 0

namespace PendingResults

/-- The answer the map gives, if the key is there. -/
def tryWritePendingResult (key : PendingResultKey) (bufferLen : Nat) (state : PendingResults) :
    Option (PendingResults × Answer) :=
  match state.buffers.lookup key with
  | none => none
  | some entry =>
    if state.now - entry.createdAt > pendingResultTtl then
      some ({ state with buffers := state.buffers.erase key },
        .failed (.message "Pending result expired; retry the query with a larger initial buffer"))
    else if entry.data.length > bufferLen then
      -- taken out and put back as it was
      some (state, .tooSmall entry.data.length bufferLen)
    else some ({ state with buffers := state.buffers.erase key }, .written entry.data)

def stashPendingResult (key : PendingResultKey) (data : Bytes) (call : ExecCall)
    (state : PendingResults) : PendingResults :=
  { state with buffers := state.buffers.insert key ⟨data, state.now, call⟩ }

/-- What an entry point checks before it looks at the map. -/
def precheck : ExecCall → Sessions → Option Failure
  | .execQueryParams connId _ _, sessions =>
    if (sessions.connections.lookup connId).isSome then none
    else some (.message s!"Invalid connection ID: {connId}")
  | .execQueryMultiParams _ _ params, _ =>
    if params.isEmpty then none
    else match deserializeParamBuffer params with
      | .ok (.legacy _) => none
      | .ok (.directed bound) =>
        if bound.any fun b => b.direction ≠ .input then
          some (.message ("odbc_exec_query_multi_params: OUTPUT/INOUT not supported " ++
            "(use odbc_exec_query with DRT1)"))
        else none
      | .error err => some (.message s!"Invalid params: {err.display}")
  | .execute stmtId _ _ _, sessions =>
    if (sessions.statements.lookup stmtId).isSome then none
    else some (.message s!"Invalid statement ID: {stmtId}")
  | .execQuery _ _, _ | .execQueryMulti _ _, _ => none

/-- What it checks when the map has nothing. -/
def resolve : ExecCall → Sessions → Option Failure
  | .execQuery connId _, sessions | .execQueryMulti connId _, sessions
  | .execQueryMultiParams connId _ _, sessions =>
    if sessions.knows connId then none else some (.message s!"Invalid connection ID: {connId}")
  | .execQueryParams _ _ _, _ => none
  | .execute stmtId _ _ _, sessions =>
    match sessions.statements.lookup stmtId with
    | none => none
    | some statement =>
      if sessions.knows statement.connId then none
      else some (.message s!"Connection {statement.connId} no longer valid")

/-- What becomes of the result of an execution. -/
def deliver (hashBytes : Bytes → UInt64) (call : ExecCall) (bufferLen : Nat)
    (result : Except OdbcError Bytes) (state : PendingResults) : PendingResults × Answer :=
  match result with
  | .ok data =>
    if data.length > bufferLen then
      (state.stashPendingResult (call.pendingKey hashBytes) data call,
        .tooSmall data.length bufferLen)
    else (state, .written data)
  | .error err => (state, .failed (.execution err))

/-- How a call was answered. -/
inductive Outcome where
  | refused (reason : Failure)
  /-- From the map. -/
  | served (answer : Answer)
  /-- By the driver. -/
  | executed (result : Except OdbcError Bytes) (answer : Answer)

def Outcome.answer : Outcome → Answer
  | .refused reason => .failed reason
  | .served answer => answer
  | .executed _ answer => answer

/-- A whole call; `result` is what the driver answers if it is asked. -/
def exec (hashBytes : Bytes → UInt64) (call : ExecCall) (bufferLen : Nat)
    (result : Except OdbcError Bytes) (state : PendingResults) : PendingResults × Outcome :=
  match precheck call state.sessions with
  | some reason => (state, .refused reason)
  | none =>
    match state.tryWritePendingResult (call.pendingKey hashBytes) bufferLen with
    | some (state, answer) => (state, .served answer)
    | none =>
      match resolve call state.sessions with
      | some reason => (state, .refused reason)
      | none =>
        let (state, answer) := state.deliver hashBytes call bufferLen result
        (state, .executed result answer)

/-! ## What a call does to the kept results -/

/-- The map answers from the entry under the key, which stays only when it does not fit. -/
theorem tryWritePendingResult_eq_some {key : PendingResultKey} {bufferLen : Nat}
    {state next : PendingResults} {answer : Answer}
    (served : state.tryWritePendingResult key bufferLen = some (next, answer)) :
    ∃ entry, state.buffers.lookup key = some entry ∧
      ((∃ reason, answer = .failed reason ∧
          next = { state with buffers := state.buffers.erase key }) ∨
        answer = .tooSmall entry.data.length bufferLen ∧ next = state ∨
        answer = .written entry.data ∧
          next = { state with buffers := state.buffers.erase key }) := by
  rw [tryWritePendingResult] at served
  split at served
  · cases served
  · next entry found =>
      refine ⟨entry, found, ?_⟩
      split_ifs at served
      · obtain ⟨rfl, rfl⟩ := Prod.mk.inj (Option.some.inj served)
        exact .inl ⟨_, rfl, rfl⟩
      · obtain ⟨rfl, rfl⟩ := Prod.mk.inj (Option.some.inj served)
        exact .inr (.inl ⟨rfl, rfl⟩)
      · obtain ⟨rfl, rfl⟩ := Prod.mk.inj (Option.some.inj served)
        exact .inr (.inr ⟨rfl, rfl⟩)

theorem tryWritePendingResult_eq_none {key : PendingResultKey} {bufferLen : Nat}
    {state : PendingResults} (unserved : state.tryWritePendingResult key bufferLen = none) :
    state.buffers.lookup key = none := by
  rw [tryWritePendingResult] at unserved
  split at unserved
  · assumption
  · split_ifs at unserved

/-- A whole call is refused, served from the map, or, when nothing is there, executed. -/
theorem exec_cases {hashBytes : Bytes → UInt64} {call : ExecCall} {bufferLen : Nat}
    {result : Except OdbcError Bytes} {state next : PendingResults} {outcome : Outcome}
    (done : state.exec hashBytes call bufferLen result = (next, outcome)) :
    (∃ reason, outcome = .refused reason ∧ next = state) ∨
    (∃ answer, outcome = .served answer ∧ precheck call state.sessions = none ∧
      state.tryWritePendingResult (call.pendingKey hashBytes) bufferLen = some (next, answer)) ∨
    (state.buffers.lookup (call.pendingKey hashBytes) = none ∧
      next = (state.deliver hashBytes call bufferLen result).1 ∧
      outcome = .executed result (state.deliver hashBytes call bufferLen result).2) := by
  rw [exec] at done
  split at done
  · obtain ⟨rfl, rfl⟩ := Prod.mk.inj done
    exact .inl ⟨_, rfl, rfl⟩
  · next admitted =>
      split at done
      · next served =>
          obtain ⟨rfl, rfl⟩ := Prod.mk.inj done
          exact .inr (.inl ⟨_, rfl, admitted, served⟩)
      · next unserved =>
          split at done
          · obtain ⟨rfl, rfl⟩ := Prod.mk.inj done
            exact .inl ⟨_, rfl, rfl⟩
          · obtain ⟨rfl, rfl⟩ := Prod.mk.inj done
            exact .inr (.inr ⟨tryWritePendingResult_eq_none unserved, rfl, rfl⟩)

/-- What is kept under the key of an admitted call, is not too old and fits, is its answer. -/
theorem exec_of_found {hashBytes : Bytes → UInt64} {bufferLen : Nat} (state : PendingResults)
    (call : ExecCall) (result : Except OdbcError Bytes) (entry : PendingResultBuffer)
    (admitted : precheck call state.sessions = none)
    (found : state.buffers.lookup (call.pendingKey hashBytes) = some entry)
    (fresh : state.now - entry.createdAt ≤ pendingResultTtl)
    (fits : entry.data.length ≤ bufferLen) :
    state.exec hashBytes call bufferLen result =
      ({ state with buffers := state.buffers.erase (call.pendingKey hashBytes) },
        .served (.written entry.data)) := by
  have served : state.tryWritePendingResult (call.pendingKey hashBytes) bufferLen =
      some ({ state with buffers := state.buffers.erase (call.pendingKey hashBytes) },
        .written entry.data) := by
    rw [tryWritePendingResult, found]
    dsimp only
    rw [if_neg (Nat.not_lt.mpr fresh), if_neg (Nat.not_lt.mpr fits)]
  rw [exec, admitted]
  dsimp only
  rw [served]

/-- A result is kept under the key of its call exactly when the answer is -2. -/
theorem deliver_cases (hashBytes : Bytes → UInt64) (call : ExecCall) (bufferLen : Nat)
    (result : Except OdbcError Bytes) (state : PendingResults) :
    (∃ data, result = .ok data ∧
      (state.deliver hashBytes call bufferLen result).2 = .tooSmall data.length bufferLen ∧
      (state.deliver hashBytes call bufferLen result).1 =
        state.stashPendingResult (call.pendingKey hashBytes) data call) ∨
    (state.deliver hashBytes call bufferLen result).1 = state ∧
      ((∃ data, result = .ok data ∧
          (state.deliver hashBytes call bufferLen result).2 = .written data) ∨
        ∃ reason, (state.deliver hashBytes call bufferLen result).2 = .failed reason) := by
  cases result with
  | error err => exact .inr ⟨rfl, .inr ⟨_, rfl⟩⟩
  | ok data =>
      by_cases large : data.length > bufferLen
      · have stashed : state.deliver hashBytes call bufferLen (.ok data) =
            (state.stashPendingResult (call.pendingKey hashBytes) data call,
              .tooSmall data.length bufferLen) := if_pos large
        rw [stashed]
        exact .inl ⟨data, rfl, rfl, rfl⟩
      · have written : state.deliver hashBytes call bufferLen (.ok data) = (state, .written data) :=
          if_neg large
        rw [written]
        exact .inr ⟨rfl, .inl ⟨data, rfl, rfl⟩⟩

/-! ## Calls that take results away -/

/-- `odbc_disconnect`: what is kept for the connection or one of its statements goes. -/
def disconnect (connId : Nat) (closed : Bool) (state : PendingResults) : PendingResults :=
  match state.sessions.connections.lookup connId with
  | none => state
  | some _ =>
    let dropped := fun stmtId =>
      (state.sessions.statements.lookup stmtId).any fun statement => statement.connId = connId
    { state with
      sessions := (state.sessions.odbcDisconnect connId closed).2
      buffers := state.buffers.retain fun key _ => match key with
        | .execQuery keyConn _ => keyConn ≠ connId
        | .execQueryParams keyConn _ _ => keyConn ≠ connId
        | .execQueryMulti keyConn _ => keyConn ≠ connId
        | .execute stmtId _ _ _ => ¬ dropped stmtId }

def closeStatement (stmtId : Nat) (state : PendingResults) : PendingResults :=
  match state.sessions.statements.lookup stmtId with
  | none => state
  | some _ =>
    { state with
      sessions := (state.sessions.odbcCloseStatement stmtId).2
      buffers := state.buffers.retain fun key _ => match key with
        | .execute keyStmt _ _ _ => keyStmt ≠ stmtId
        | _ => true }

def clearAllStatements (state : PendingResults) : PendingResults :=
  { state with
    sessions := state.sessions.odbcClearAllStatements.2
    buffers := state.buffers.retain fun key _ => match key with
      | .execute _ _ _ _ => false
      | _ => true }

/-- Nothing is kept that was not kept before. -/
def KeepsOnly (next state : PendingResults) : Prop :=
  ∀ key entry, next.buffers.lookup key = some entry → state.buffers.lookup key = some entry

theorem keepsOnly_erase (state : PendingResults) (key : PendingResultKey) :
    KeepsOnly { state with buffers := state.buffers.erase key } state :=
  fun _ _ kept => (HashMap.lookup_erase_eq_some.mp kept).2

theorem keepsOnly_disconnect (connId : Nat) (closed : Bool) (state : PendingResults) :
    KeepsOnly (state.disconnect connId closed) state := by
  rw [disconnect]
  split
  · exact fun _ _ kept => kept
  · exact fun _ _ kept => (HashMap.lookup_retain_eq_some.mp kept).1

theorem keepsOnly_closeStatement (stmtId : Nat) (state : PendingResults) :
    KeepsOnly (state.closeStatement stmtId) state := by
  rw [closeStatement]
  split
  · exact fun _ _ kept => kept
  · exact fun _ _ kept => (HashMap.lookup_retain_eq_some.mp kept).1

theorem keepsOnly_clearAllStatements (state : PendingResults) :
    KeepsOnly state.clearAllStatements state :=
  fun _ _ kept => (HashMap.lookup_retain_eq_some.mp kept).1

theorem keepsOnly_tryWritePendingResult {key : PendingResultKey} {bufferLen : Nat}
    {state next : PendingResults} {answer : Answer}
    (served : state.tryWritePendingResult key bufferLen = some (next, answer)) :
    KeepsOnly next state := by
  obtain ⟨_, -, ⟨_, -, rfl⟩ | ⟨-, rfl⟩ | ⟨-, rfl⟩⟩ := tryWritePendingResult_eq_some served
  · exact keepsOnly_erase state key
  · exact fun _ _ kept => kept
  · exact keepsOnly_erase state key

end PendingResults

/-! ## Threads -/

namespace PendingCalls

/-- The calls that change connections and statements and leave the kept results alone. -/
inductive SessionCall where
  | connect (opened : Bool)
  | prepare (connId : Nat) (sql : String)
  | poolCreate (built : Bool)
  | poolGetConnection (poolId : Nat) (available : Bool)
  | poolReleaseConnection (connId : Nat)
  | poolClose (poolId : Nat)

def SessionCall.apply : SessionCall → Sessions → Sessions
  | .connect opened, sessions => (sessions.odbcConnect opened).2
  | .prepare connId sql, sessions => (sessions.odbcPrepare connId sql).2
  | .poolCreate built, sessions => (sessions.odbcPoolCreate built).2
  | .poolGetConnection poolId available, sessions =>
    (sessions.odbcPoolGetConnection poolId available).2
  | .poolReleaseConnection connId, sessions => (sessions.odbcPoolReleaseConnection connId).2
  | .poolClose poolId, sessions => (sessions.odbcPoolClose poolId).2

/-- An `odbc_exec_query` that has given up the global lock. -/
structure Running where
  connId : Nat
  sql : String
  bufferLen : Nat
  /-- The pool of a connection that was taken out of the table for the time being. -/
  pool : Option Nat

structure System where
  state : PendingResults := {}
  running : HashMap Nat Running := ∅

inductive Event where
  /-- A call that holds the lock throughout. -/
  | exec (call : ExecCall) (bufferLen : Nat) (result : Except OdbcError Bytes)
  | beginExecQuery (thread connId : Nat) (sql : String) (bufferLen : Nat)
  | endExecQuery (thread : Nat) (result : Except OdbcError Bytes)
  | wait (elapsed : Nat)
  | session (call : SessionCall)
  | disconnect (connId : Nat) (closed : Bool)
  | closeStatement (stmtId : Nat)
  | clearAllStatements

inductive Output where
  | answered (call : ExecCall) (outcome : PendingResults.Outcome)
  | silent

namespace System

/-- `odbc_exec_query` up to the execution. -/
def beginExecQuery (hashBytes : Bytes → UInt64) (thread connId : Nat) (sql : String)
    (bufferLen : Nat) (system : System) : System × Output :=
  let call := ExecCall.execQuery connId sql
  match system.state.tryWritePendingResult (call.pendingKey hashBytes) bufferLen with
  | some (state, answer) => ({ system with state }, .answered call (.served answer))
  | none =>
    let sessions := system.state.sessions
    if (sessions.connections.lookup connId).isSome then
      let running := system.running.insert thread ⟨connId, sql, bufferLen, none⟩
      ({ system with running }, .silent)
    else match sessions.pooledConnections.lookup connId with
      | some poolId =>
        let sessions := { sessions with
          pooledConnections := sessions.pooledConnections.erase connId }
        let running := system.running.insert thread ⟨connId, sql, bufferLen, some poolId⟩
        ({ state := { system.state with sessions }, running }, .silent)
      | none =>
        (system, .answered call (.refused (.message s!"Invalid connection ID: {connId}")))

/-- The rest of it, with the answer of the driver. -/
def endExecQuery (hashBytes : Bytes → UInt64) (thread : Nat) (running : Running)
    (result : Except OdbcError Bytes) (system : System) : System × Output :=
  let call := ExecCall.execQuery running.connId running.sql
  let sessions := system.state.sessions
  let sessions := match running.pool with
    | none => sessions
    | some poolId => { sessions with
        pooledConnections := sessions.pooledConnections.insert running.connId poolId }
  let (state, answer) :=
    { system.state with sessions }.deliver hashBytes call running.bufferLen result
  ({ state, running := system.running.erase thread }, .answered call (.executed result answer))

end System

def step (hashBytes : Bytes → UInt64) : Event → System → Option (System × Output)
  | .exec (.execQuery _ _) _ _, _ => none
  | .exec call bufferLen result, system =>
    let (state, outcome) := system.state.exec hashBytes call bufferLen result
    some ({ system with state }, .answered call outcome)
  | .beginExecQuery thread connId sql bufferLen, system =>
    match system.running.lookup thread with
    | some _ => none
    | none => some (system.beginExecQuery hashBytes thread connId sql bufferLen)
  | .endExecQuery thread result, system =>
    match system.running.lookup thread with
    | none => none
    | some running => some (system.endExecQuery hashBytes thread running result)
  | .wait elapsed, system =>
    some ({ system with state := { system.state with now := system.state.now + elapsed } }, .silent)
  | .session call, system =>
    let sessions := call.apply system.state.sessions
    some ({ system with state := { system.state with sessions } }, .silent)
  | .disconnect connId closed, system =>
    some ({ system with state := system.state.disconnect connId closed }, .silent)
  | .closeStatement stmtId, system =>
    some ({ system with state := system.state.closeStatement stmtId }, .silent)
  | .clearAllStatements, system =>
    some ({ system with state := system.state.clearAllStatements }, .silent)

end PendingCalls

/-! ## Callers that retry -/

namespace LogicalRequests

/-- The requests whose last answer was -2, by their numbers; each is one logical request, which
its caller may retry or give up. -/
structure System where
  state : PendingResults := {}
  waiting : HashMap Nat ExecCall := ∅
  next : Nat := 0

inductive Event where
  /-- The first call of a new request. -/
  | first (call : ExecCall) (bufferLen : Nat) (result : Except OdbcError Bytes)
  | retry (number bufferLen : Nat) (result : Except OdbcError Bytes)
  | wait (elapsed : Nat)

inductive Output where
  | answered (number : Nat) (outcome : PendingResults.Outcome)
  | waited

/-- One call of a request: while the answer is -2 the request waits for a larger buffer. -/
def System.exec (hashBytes : Bytes → UInt64) (number : Nat) (call : ExecCall) (bufferLen : Nat)
    (result : Except OdbcError Bytes) (system : System) : System × Output :=
  let (state, outcome) := system.state.exec hashBytes call bufferLen result
  let waiting := match outcome.answer with
    | .tooSmall _ _ => system.waiting.insert number call
    | _ => system.waiting.erase number
  ({ system with state, waiting }, .answered number outcome)

def step (hashBytes : Bytes → UInt64) : Event → System → Option (System × Output)
  | .first call bufferLen result, system =>
    some ({ system with next := system.next + 1 }.exec hashBytes system.next call bufferLen result)
  | .retry number bufferLen result, system =>
    match system.waiting.lookup number with
    | none => none
    | some call => some (system.exec hashBytes number call bufferLen result)
  | .wait elapsed, system =>
    some ({ system with state := { system.state with now := system.state.now + elapsed } }, .waited)

end LogicalRequests

end OdbcFast.Native
