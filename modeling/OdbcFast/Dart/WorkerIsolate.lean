import OdbcFast.Dart.MessageProtocol
import OdbcFast.Dart.OdbcError

/-!
# Failures between the isolates

What the worker answers when the handling of a request throws, and what each method of
the main isolate makes of the answer that its request completes with. A method casts the
answer to the class it waits for, and then reads it by a convention of its own.
-/

namespace OdbcFast.Dart

open Wire

/-! ## The worker -/

/-- What `workerEntry` sends when the native library cannot be loaded. -/
def libraryNotLoaded : WorkerResponse := ⟨0, .initialized false⟩

/-- `buildWorkerErrorResponse`, but for the number. -/
def errorBody (error : String) : RequestType → ResponseBody
  | .initializeEnvironment => .initialized false
  | .validateConnectionString => .validateConnectionString false (some error)
  | .connect => .connect 0 (some error)
  | .disconnect | .cancelStatement | .closeStatement | .poolReleaseConnection | .poolHealthCheck
  | .poolSetSize | .poolClose | .setLogLevel | .commitTransaction | .rollbackTransaction
  | .savepointCreate | .savepointRollback | .savepointRelease | .auditEnable | .auditClear
  | .asyncCancel | .asyncFree | .streamCancel | .metadataCacheEnable | .metadataCacheClear =>
    .bool false
  | .executeQueryParams | .executeQueryMulti | .executeQueryMultiParams | .executePrepared
  | .catalogTables | .catalogColumns | .catalogTypeInfo | .catalogPrimaryKeys
  | .catalogForeignKeys | .catalogIndexes | .asyncGetResult => .query none (some error)
  | .beginTransaction | .prepare | .poolCreate | .poolGetConnection | .streamStart
  | .streamStartBatched | .streamStartAsync | .streamMultiStartBatched | .streamMultiStartAsync
  | .clearAllStatements | .executeAsyncStart | .asyncPoll | .streamPollAsync => .int 0
  | .streamFetch => .streamFetch false none false (some error)
  | .streamClose => .bool false
  | .bulkInsertArray | .bulkInsertParallel => .int (-1)
  | .poolGetState => .poolState none none (some error)
  | .getDriverCapabilities | .getConnectionDbmsInfo | .poolGetStateJson =>
    .auditPayload none (some error)
  | .getVersion => .version "" ""
  | .getMetrics => .metrics {} (some error)
  | .getError => .getError error
  | .getStructuredError => .structuredError error none none (some error)
  | .detectDriver => .detectDriver none
  | .auditGetEvents | .auditGetStatus | .metadataCacheStats => .auditPayload none (some error)
  | .getCacheMetrics => .cacheMetrics {} (some error)
  | .clearCache => .clearCache (some error)

def buildWorkerErrorResponse (request : WorkerRequest) (error : String) : WorkerResponse :=
  ⟨request.requestId, errorBody error request.type⟩

/-- What `_handleRequest` sends when the handling throws. A connect is caught on the spot. -/
def answerToThrown (request : WorkerRequest) (exception stackTrace : String) : WorkerResponse :=
  if request.type = .connect then ⟨request.requestId, .connect 0 (some exception)⟩
  else buildWorkerErrorResponse request (exception ++ "\n" ++ stackTrace)

/-! ## The methods of the main isolate -/

/-- The class that the method behind a request waits for. -/
def RequestType.expects : RequestType → ResponseType
  | .initializeEnvironment => .initialized
  | .validateConnectionString => .validateConnectionString
  | .connect => .connect
  | .disconnect | .setLogLevel | .commitTransaction | .rollbackTransaction | .savepointCreate
  | .savepointRollback | .savepointRelease | .cancelStatement | .closeStatement | .streamCancel
  | .streamClose | .poolReleaseConnection | .poolHealthCheck | .poolSetSize | .poolClose
  | .metadataCacheEnable | .metadataCacheClear | .auditEnable | .auditClear | .asyncCancel
  | .asyncFree => .bool
  | .executeQueryParams | .executeQueryMulti | .executeQueryMultiParams | .executePrepared
  | .catalogTables | .catalogColumns | .catalogTypeInfo | .catalogPrimaryKeys
  | .catalogForeignKeys | .catalogIndexes | .asyncGetResult => .query
  | .beginTransaction | .prepare | .streamStart | .streamStartBatched | .streamStartAsync
  | .streamMultiStartBatched | .streamMultiStartAsync | .streamPollAsync | .clearAllStatements
  | .poolCreate | .poolGetConnection | .bulkInsertArray | .bulkInsertParallel
  | .executeAsyncStart | .asyncPoll => .int
  | .streamFetch => .streamFetch
  | .poolGetState => .poolState
  | .getDriverCapabilities | .getConnectionDbmsInfo | .poolGetStateJson | .metadataCacheStats
  | .auditGetEvents | .auditGetStatus => .auditPayload
  | .getVersion => .version
  | .getMetrics => .metrics
  | .getCacheMetrics => .cacheMetrics
  | .clearCache => .clearCache
  | .getError => .getError
  | .getStructuredError => .structuredError
  | .detectDriver => .detectDriver

/-- What a method returns. -/
inductive ClientResult where
  | void
  | bool (value : Bool)
  | int (value : Int)
  | data (data : Option Bytes)
  | text (text : String)
  | optionalText (text : Option String)
  | poolState (state : Option (Int × Int))
  | version (version : Option (String × String))
  | metrics (metrics : Option MetricsData)
  | cacheMetrics (metrics : Option CacheMetricsData)
  | structuredError (error : Option (String × List Nat × Int))
  | fetched (success : Bool) (data : Option Bytes) (hasMore : Bool) (error : Option String)
  deriving DecidableEq, Repr

/-- Five zero bytes stand for a SQLSTATE that is not known. -/
def sqlStateUnits (sqlStateString : Option String) : List Nat :=
  let units := (sqlStateString.getD "").toList.map Char.toNat
  if units ≠ [] then units else List.replicate 5 0

/-- What the method behind a request makes of an answer of the class it waits for. -/
def interpret (type : RequestType) : ResponseBody → Completion ClientResult
  | .initialized success => .ok (.bool success)
  | .connect connectionId error =>
    match error with
    | some message => .error (.exception (.async .connectionFailed message))
    | none => .ok (.int connectionId)
  | .bool value => .ok (if type = .setLogLevel then .void else .bool value)
  | .query data error => .ok (.data (if error.isSome then none else data))
  | .int value => .ok (.int value)
  | .poolState size idle error =>
    .ok (.poolState (if error.isSome then none else size.map fun size => (size, idle.getD 0)))
  | .metrics metrics error => .ok (.metrics (if error.isSome then none else some metrics))
  | .cacheMetrics metrics error =>
    .ok (.cacheMetrics (if error.isSome then none else some metrics))
  | .clearCache error => .ok (.bool error.isNone)
  | .version api abi => .ok (.version (if api = "" ∧ abi = "" then none else some (api, abi)))
  | .getError message => .ok (.text message)
  | .structuredError message sqlStateString nativeCode error =>
    .ok (.structuredError (
      if error.isSome then none
      else if message = "" ∧ sqlStateString = none then none
      else some (message, sqlStateUnits sqlStateString, nativeCode.getD 0)))
  | .detectDriver driverName => .ok (.optionalText driverName)
  | .auditPayload payload error =>
    .ok (.optionalText (if error.isSome then none else payload))
  | .validateConnectionString isValid errorMessage =>
    .ok (.optionalText (
      if isValid then none else some (errorMessage.getD "Invalid connection string")))
  | .streamFetch success data hasMore error => .ok (.fetched success data hasMore error)

/-- An answer of another class fails the cast. -/
def clientMethod (type : RequestType) (response : WorkerResponse) : Completion ClientResult :=
  if response.body.type = type.expects then interpret type response.body
  else .error (.fault .typeError)

/-! ## Loops that poll -/

def streamAsyncStatusPending : Int := 0

/-- The loop of `executeAsync`, for as many rounds as are given: `none` while it still
polls. The deadline is looked at only behind a positive time limit. -/
def executeAsyncLoop (effectiveTimeout : Int) (afterDeadline : Nat → Bool)
    (poll : Nat → Completion ClientResult) (asyncGetResult : Completion ClientResult) :
    Nat → Nat → Option (Completion ClientResult)
  | 0, _ => none
  | rounds + 1, round =>
    match poll round with
    | .ok (.int 1) => some asyncGetResult
    | .ok (.int 0) =>
      if 0 < effectiveTimeout ∧ afterDeadline round then some (.ok (.data none))
      else executeAsyncLoop effectiveTimeout afterDeadline poll asyncGetResult rounds (round + 1)
    | .ok _ => some (.ok (.data none))
    | .error thrown => some (.error thrown)

/-- `streamAsync` up to the next status that is not pending: `none` while it still polls. -/
def streamAsyncLoop (poll : Nat → Completion ClientResult) :
    Nat → Nat → Option (Completion ClientResult)
  | 0, _ => none
  | rounds + 1, round =>
    if poll round = .ok (.int streamAsyncStatusPending) then streamAsyncLoop poll rounds (round + 1)
    else some (poll round)

end OdbcFast.Dart
