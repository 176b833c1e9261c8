import OdbcFast.Dart.NamedParameterParser
import OdbcFast.Dart.OdbcError
import OdbcFast.Wire.HashMap

/-!
# The repository's connections and statements

The repository knows a connection by a text, its native identifier in decimal when it
was opened, and keeps the native identifier, the options and the connection string
under it. A statement is known by its native identifier; the repository remembers
which connection it was prepared for and, when its parameters have names, their order.

Each method is a function of what the native call was answered. A method that finds
its connection passes the native identifier on, so the answer may depend on it.
-/

namespace OdbcFast.Dart

open Wire

/-- Durations are in microseconds. -/
structure ConnectionOptions where
  connectionTimeout : Option Int := none
  loginTimeout : Option Int := none
  queryTimeout : Option Int := none
  maxResultBufferBytes : Option Int := none
  initialResultBufferBytes : Option Int := none
  autoReconnectOnConnectionLost : Bool := false
  maxReconnectAttempts : Option Int := none
  reconnectBackoff : Option Int := none
  deriving DecidableEq, Repr

namespace ConnectionOptions

def defaultMaxReconnectAttempts : Int := 3

def effectiveMaxReconnectAttempts (options : ConnectionOptions) : Int :=
  options.maxReconnectAttempts.getD defaultMaxReconnectAttempts

/-- The first field whose value is refused, as a message. -/
def validate (options : ConnectionOptions) : Option String :=
  if options.connectionTimeout.any (· < 0) then some "connectionTimeout cannot be negative"
  else if options.loginTimeout.any (· < 0) then some "loginTimeout cannot be negative"
  else if options.queryTimeout.any (· < 0) then some "queryTimeout cannot be negative"
  else if options.maxResultBufferBytes.any (· ≤ 0) then
    some "maxResultBufferBytes must be greater than zero"
  else if options.initialResultBufferBytes.any (· ≤ 0) then
    some "initialResultBufferBytes must be greater than zero"
  else if options.maxResultBufferBytes.any fun limit =>
      options.initialResultBufferBytes.any (· > limit) then
    some "initialResultBufferBytes cannot be greater than maxResultBufferBytes"
  else if options.maxReconnectAttempts.any (· < 0) then
    some "maxReconnectAttempts cannot be negative"
  else if options.reconnectBackoff.any (· < 0) then some "reconnectBackoff cannot be negative"
  else none

end ConnectionOptions

structure Connection where
  id : String
  connectionString : String
  deriving DecidableEq, Repr

structure Repository where
  connectionIds : HashMap String Nat := ∅
  connectionOptions : HashMap String (Option ConnectionOptions) := ∅
  connectionStrings : HashMap String String := ∅
  namedParamOrderByStmtId : HashMap Nat (List String) := ∅
  statementConnectionByStmtId : HashMap Nat String := ∅

def invalidConnectionId : OdbcError :=
  { errorClass := .validation, message := "Invalid connection ID" }

/-- What `trim` removes at the ends of a text: Unicode white space and the byte order mark. -/
def isTrimmed (char : Char) : Bool :=
  let code := char.toNat
  (9 ≤ code && code ≤ 13) || (0x2000 ≤ code && code ≤ 0x200A) ||
    code ∈ [0x20, 0x85, 0xA0, 0x1680, 0x2028, 0x2029, 0x202F, 0x205F, 0x3000, 0xFEFF]

namespace Repository

/-- `_validateStatementOwnership`; `none` when the statement may be used. -/
def validateStatementOwnership (connectionId : String) (stmtId : Nat) (operationName : String)
    (repository : Repository) : Option OdbcError :=
  if (repository.connectionIds.lookup connectionId).isNone then some invalidConnectionId
  else
    match repository.statementConnectionByStmtId.lookup stmtId with
    | none => some
        { errorClass := .validation
          message := "Unknown statement ID for " ++ operationName ++ ". Prepare statement first." }
    | some ownerConnectionId =>
      if ownerConnectionId ≠ connectionId then some
        { errorClass := .validation
          message := "Statement ID " ++ toString stmtId ++ " does not belong to connection ID " ++
            connectionId }
      else none

/-- Remove what is kept under the connection. -/
def forget (connectionId : String) (repository : Repository) : Repository :=
  { repository with
    connectionIds := repository.connectionIds.erase connectionId
    connectionOptions := repository.connectionOptions.erase connectionId
    connectionStrings := repository.connectionStrings.erase connectionId }

/-- Keep a connection under the text. -/
def remember (connectionId : String) (connId : Nat) (options : Option ConnectionOptions)
    (connectionString : String) (repository : Repository) : Repository :=
  { repository with
    connectionIds := repository.connectionIds.insert connectionId connId
    connectionOptions := repository.connectionOptions.insert connectionId options
    connectionStrings := repository.connectionStrings.insert connectionId connectionString }

/-- Remove both entries of a statement. -/
def removeStatement (stmtId : Nat) (repository : Repository) : Repository :=
  { repository with
    statementConnectionByStmtId := repository.statementConnectionByStmtId.erase stmtId
    namedParamOrderByStmtId := repository.namedParamOrderByStmtId.erase stmtId }

/-- The statements that were prepared for the connection. -/
def statementsOf (connectionId : String) (repository : Repository) : List Nat :=
  (repository.statementConnectionByStmtId.entries.filter fun entry =>
    entry.2 = connectionId).map Sigma.fst

/-! ## Connections -/

/-- What `connect` refuses before it calls the native library. -/
def connectRefusal (connectionString : String) (options : Option ConnectionOptions) :
    Option OdbcError :=
  if connectionString.toList.all isTrimmed then
    some { errorClass := .validation, message := "Connection string cannot be empty" }
  else (options.bind ConnectionOptions.validate).map fun message =>
    { errorClass := .validation, message }

def connect (reply : Completion Nat) (errors : NativeErrors) (connectionString : String)
    (options : Option ConnectionOptions) (repository : Repository) :
    Completion (Result Connection) × Repository :=
  match connectRefusal connectionString options with
  | some error => (.ok (.failure error), repository)
  | none =>
    match reply with
    | .error thrown => (failureOnException .connection (.error thrown), repository)
    | .ok 0 =>
      (failureOnException .connection
        (convertNativeErrorToFailure .connection "Failed to connect to database" errors),
        repository)
    | .ok connId =>
      let id := toString connId
      (.ok (.success ⟨id, connectionString⟩),
        repository.remember id connId options connectionString)

/-- A connect keeps the connection it was answered, or changes nothing. -/
theorem connect_snd (reply : Completion Nat) (errors : NativeErrors) (connectionString : String)
    (options : Option ConnectionOptions) (repository : Repository) :
    (repository.connect reply errors connectionString options).2 = repository ∨
      ∃ connId, connId ≠ 0 ∧ reply = .ok connId ∧
        (repository.connect reply errors connectionString options).2 =
          repository.remember (toString connId) connId options connectionString := by
  unfold connect
  split
  · exact .inl rfl
  · split
    · exact .inl rfl
    · exact .inl rfl
    · next connId nonzero =>
        exact .inr ⟨connId, fun zero => nonzero (zero ▸ rfl), rfl, rfl⟩

def disconnect (reply : Nat → Completion Bool) (errors : NativeErrors) (connectionId : String)
    (repository : Repository) : Completion (Result Unit) × Repository :=
  match repository.connectionIds.lookup connectionId with
  | none => (.ok (.failure invalidConnectionId), repository)
  | some nativeId =>
    match reply nativeId with
    | .error thrown => (failureOnException .connection (.error thrown), repository)
    | .ok true =>
      let stmtIdsToRemove := repository.statementsOf connectionId
      let repository := stmtIdsToRemove.foldl (fun repository stmtId =>
        repository.removeStatement stmtId) repository
      (.ok (.success ()), repository.forget connectionId)
    | .ok false =>
      (failureOnException .connection
        (convertNativeErrorToFailure .connection "Failed to disconnect from database" errors),
        repository)

/-- The statements of a connection go one by one. -/
theorem removeStatements_eq (stmtIds : List Nat) (repository : Repository) :
    stmtIds.foldl (fun repository stmtId => repository.removeStatement stmtId) repository =
      { repository with
        statementConnectionByStmtId :=
          stmtIds.foldl (fun owners stmtId => owners.erase stmtId)
            repository.statementConnectionByStmtId
        namedParamOrderByStmtId :=
          stmtIds.foldl (fun orders stmtId => orders.erase stmtId)
            repository.namedParamOrderByStmtId } := by
  induction stmtIds generalizing repository with
  | nil => rfl
  | cons stmtId stmtIds ih => exact ih (repository.removeStatement stmtId)

theorem mem_statementsOf {connectionId : String} {stmtId : Nat} {repository : Repository} :
    stmtId ∈ repository.statementsOf connectionId ↔
      repository.statementConnectionByStmtId.lookup stmtId = some connectionId := by
  rw [statementsOf, ← Option.mem_def, AList.mem_lookup_iff]
  simp

theorem disconnect_snd (reply : Nat → Completion Bool) (errors : NativeErrors)
    (connectionId : String) (repository : Repository) :
    (repository.disconnect reply errors connectionId).2 = repository ∧
        (∀ nativeId, repository.connectionIds.lookup connectionId = some nativeId →
          reply nativeId ≠ .ok true) ∨
      ∃ nativeId, repository.connectionIds.lookup connectionId = some nativeId ∧
        reply nativeId = .ok true ∧
        (repository.disconnect reply errors connectionId).2 =
          forget connectionId ((repository.statementsOf connectionId).foldl
            (fun repository stmtId => repository.removeStatement stmtId) repository) := by
  unfold disconnect
  cases mapped : repository.connectionIds.lookup connectionId with
  | none => exact .inl ⟨rfl, by rintro _ ⟨⟩⟩
  | some nativeId =>
      dsimp only
      split
      · next failed => exact .inl ⟨rfl, by rintro _ ⟨⟩ answered; cases failed.symm.trans answered⟩
      · next answered => exact .inr ⟨nativeId, rfl, answered, rfl⟩
      · next refused => exact .inl ⟨rfl, by rintro _ ⟨⟩ answered; cases refused.symm.trans answered⟩

/-- What a reconnect is answered. -/
structure ReconnectReplies where
  disconnect : Nat → Completion Bool
  connect : Completion Nat
  errors : NativeErrors

/-- The second half of `_reconnect`. -/
def reopen (replies : ReconnectReplies) (connectionId connectionString : String)
    (options : Option ConnectionOptions) (repository : Repository) :
    Completion (Result Unit) × Repository :=
  match replies.connect with
  | .error thrown => (.error thrown, repository)
  | .ok 0 => (convertNativeErrorToFailure .connection "Reconnect failed" replies.errors, repository)
  | .ok connId =>
    (.ok (.success ()), repository.remember connectionId connId options connectionString)

/-- `_reconnect`: the answer to the disconnect is not looked at, and no clause catches what the
native calls throw. -/
def reconnect (replies : ReconnectReplies) (connectionId connectionString : String)
    (options : Option ConnectionOptions) (repository : Repository) :
    Completion (Result Unit) × Repository :=
  match repository.connectionIds.lookup connectionId with
  | none => repository.reopen replies connectionId connectionString options
  | some nativeId =>
    match replies.disconnect nativeId with
    | .error thrown => (.error thrown, repository)
    | .ok _ => (repository.forget connectionId).reopen replies connectionId connectionString options

theorem reopen_snd (replies : ReconnectReplies) (connectionId connectionString : String)
    (options : Option ConnectionOptions) (repository : Repository) :
    (repository.reopen replies connectionId connectionString options).2 = repository ∨
      ∃ connId, (repository.reopen replies connectionId connectionString options).2 =
        repository.remember connectionId connId options connectionString := by
  unfold reopen
  split
  · exact .inl rfl
  · exact .inl rfl
  · next connId _ _ => exact .inr ⟨connId, rfl⟩

/-- A reconnect touches nothing but the entries of its connection, and none when its disconnect
throws. -/
theorem reconnect_snd (replies : ReconnectReplies) (connectionId connectionString : String)
    (options : Option ConnectionOptions) (repository : Repository) :
    ((repository.reconnect replies connectionId connectionString options).2 = repository ∨
      ∀ nativeId thrown, repository.connectionIds.lookup connectionId = some nativeId →
        replies.disconnect nativeId ≠ .error thrown) ∧
    (repository.reconnect replies connectionId connectionString
      options).2.statementConnectionByStmtId = repository.statementConnectionByStmtId ∧
    (repository.reconnect replies connectionId connectionString
      options).2.namedParamOrderByStmtId = repository.namedParamOrderByStmtId ∧
    ∀ other, other ≠ connectionId →
      (repository.reconnect replies connectionId connectionString
        options).2.connectionIds.lookup other = repository.connectionIds.lookup other := by
  unfold reconnect
  cases mapped : repository.connectionIds.lookup connectionId with
  | none =>
      dsimp only
      obtain same | ⟨connId, same⟩ :=
        repository.reopen_snd replies connectionId connectionString options
      · rw [same]
        exact ⟨.inl rfl, rfl, rfl, fun _ _ => rfl⟩
      · rw [same]
        exact ⟨.inr (by rintro _ _ ⟨⟩), rfl, rfl, fun _ => AList.lookup_insert_ne⟩
  | some nativeId =>
      dsimp only
      cases answered : replies.disconnect nativeId with
      | error thrown => exact ⟨.inl rfl, rfl, rfl, fun _ _ => rfl⟩
      | ok answer =>
          dsimp only
          have answers : ∀ nativeId' thrown, some nativeId = some nativeId' →
              replies.disconnect nativeId' ≠ .error thrown := by
            rintro _ thrown ⟨⟩ failed
            cases answered.symm.trans failed
          obtain same | ⟨connId, same⟩ :=
            (repository.forget connectionId).reopen_snd replies connectionId connectionString options
          · rw [same]
            exact ⟨.inr answers, rfl, rfl, fun _ => AList.lookup_erase_ne⟩
          · rw [same]
            refine ⟨.inr answers, rfl, rfl, fun other different => ?_⟩
            rw [remember, AList.lookup_insert_ne different, forget,
              AList.lookup_erase_ne different]

/-! ## Pools -/

def poolGetConnection (reply : Completion Nat) (errors : NativeErrors) (repository : Repository) :
    Completion (Result Connection) × Repository :=
  match reply with
  | .error thrown => (failureOnException .connection (.error thrown), repository)
  | .ok 0 =>
    (failureOnException .connection
      (convertNativeErrorToFailure .connection "Failed to get connection from pool" errors),
      repository)
  | .ok connId =>
    let id := toString connId
    (.ok (.success ⟨id, ""⟩),
      { repository with connectionIds := repository.connectionIds.insert id connId })

theorem poolGetConnection_snd (reply : Completion Nat) (errors : NativeErrors)
    (repository : Repository) :
    (repository.poolGetConnection reply errors).2 = repository ∨
      ∃ connId, connId ≠ 0 ∧ reply = .ok connId ∧
        (repository.poolGetConnection reply errors).2 = { repository with
          connectionIds := repository.connectionIds.insert (toString connId) connId } := by
  unfold poolGetConnection
  split
  · exact .inl rfl
  · exact .inl rfl
  · next connId nonzero =>
      exact .inr ⟨connId, fun zero => nonzero (zero ▸ rfl), rfl, rfl⟩

def poolReleaseConnection (reply : Nat → Completion Bool) (errors : NativeErrors)
    (connectionId : String) (repository : Repository) : Completion (Result Unit) × Repository :=
  match repository.connectionIds.lookup connectionId with
  | none => (.ok (.failure invalidConnectionId), repository)
  | some nativeId =>
    match reply nativeId with
    | .error thrown => (failureOnException .connection (.error thrown), repository)
    | .ok true =>
      (.ok (.success ()),
        { repository with connectionIds := repository.connectionIds.erase connectionId })
    | .ok false =>
      (failureOnException .connection
        (convertNativeErrorToFailure .connection "Failed to release connection to pool" errors),
        repository)

theorem poolReleaseConnection_snd (reply : Nat → Completion Bool) (errors : NativeErrors)
    (connectionId : String) (repository : Repository) :
    (repository.poolReleaseConnection reply errors connectionId).2 = repository ∨
      ∃ nativeId, repository.connectionIds.lookup connectionId = some nativeId ∧
        reply nativeId = .ok true ∧
        (repository.poolReleaseConnection reply errors connectionId).2 = { repository with
          connectionIds := repository.connectionIds.erase connectionId } := by
  rw [poolReleaseConnection]
  split
  · exact .inl rfl
  · next nativeId mapped =>
      split
      · exact .inl rfl
      · next answered => exact .inr ⟨nativeId, mapped, answered, rfl⟩
      · exact .inl rfl

/-- `poolClose` changes no map. -/
def poolClose (reply : Completion Bool) (errors : NativeErrors) : Completion (Result Unit) :=
  failureOnException .connection do
    if ← reply then .ok (.success ())
    else convertNativeErrorToFailure .connection "Failed to close pool" errors

/-! ## Statements -/

def prepare (reply : Nat → Completion Nat) (errors : NativeErrors) (connectionId : String)
    (repository : Repository) : Completion (Result Nat) × Repository :=
  match repository.connectionIds.lookup connectionId with
  | none => (.ok (.failure invalidConnectionId), repository)
  | some nativeId =>
    match reply nativeId with
    | .error thrown => (failureOnException .query (.error thrown), repository)
    | .ok 0 =>
      (failureOnException .query
        (convertNativeErrorToFailure .query "Failed to prepare statement" errors), repository)
    | .ok stmtId =>
      (.ok (.success stmtId), { repository with
        statementConnectionByStmtId :=
          repository.statementConnectionByStmtId.insert stmtId connectionId })

/-- A prepare lists the statement it was answered, or changes nothing. -/
theorem prepare_cases (reply : Nat → Completion Nat) (errors : NativeErrors)
    (connectionId : String) (repository : Repository) :
    (∃ nativeId stmtId, repository.connectionIds.lookup connectionId = some nativeId ∧
      reply nativeId = .ok stmtId ∧ stmtId ≠ 0 ∧
      repository.prepare reply errors connectionId = (.ok (.success stmtId), { repository with
        statementConnectionByStmtId :=
          repository.statementConnectionByStmtId.insert stmtId connectionId })) ∨
    ∃ completion, (∀ stmtId, completion ≠ .ok (.success stmtId)) ∧
      repository.prepare reply errors connectionId = (completion, repository) := by
  unfold prepare
  cases mapped : repository.connectionIds.lookup connectionId with
  | none => exact .inr ⟨_, by rintro _ ⟨⟩, rfl⟩
  | some nativeId =>
      dsimp only
      split
      · next thrown _ => exact .inr ⟨_, failureOnException_ne_success (by rintro _ ⟨⟩), rfl⟩
      · refine .inr ⟨_, failureOnException_ne_success ?_, rfl⟩
        exact convertNativeErrorToFailure_ne_success
      · next stmtId nonzero answered =>
          exact .inl ⟨nativeId, stmtId, rfl, answered, fun zero => nonzero (zero ▸ rfl), rfl⟩

/-- `prepareNamed`, with the answer for the text that is left of the SQL. -/
def prepareNamed (reply : String → Nat → Completion Nat) (errors : NativeErrors)
    (connectionId sql : String) (repository : Repository) :
    Completion (Result Nat) × Repository :=
  let extract := NamedParameterParser.extract sql
  match repository.prepare (reply extract.cleanedSql) errors connectionId with
  | (.ok (.success stmtId), repository) =>
    (.ok (.success stmtId),
      if 0 < stmtId then { repository with
        namedParamOrderByStmtId :=
          repository.namedParamOrderByStmtId.insert stmtId extract.paramNames }
      else repository)
  | (other, repository) => (failureOnException .query other, repository)

/-- `closeStatement`: the entries go whatever the native call is answered. -/
def closeStatement (reply : Completion Bool) (errors : NativeErrors) (connectionId : String)
    (stmtId : Nat) (repository : Repository) : Completion (Result Unit) × Repository :=
  match repository.validateStatementOwnership connectionId stmtId "closeStatement" with
  | some error => (.ok (.failure error), repository)
  | none =>
    (failureOnException .query do
      if ← reply then .ok (.success ())
      else convertNativeErrorToFailure .query "Failed to close statement" errors,
      repository.removeStatement stmtId)

/-- `clearAllStatements` changes no map. -/
def clearAllStatements (reply : Completion Int) (errors : NativeErrors) :
    Completion (Result Unit) :=
  failureOnException .query do
    if (← reply) = 0 then .ok (.success ())
    else convertNativeErrorToFailure .query "Failed to clear all statements" errors

end Repository

end OdbcFast.Dart
