import OdbcFast.Dart.FfiBuffer
import OdbcFast.Dart.Reconnect
import OdbcFast.Dart.Streaming
import OdbcFast.Native.Ffi.MetadataCache
import OdbcFast.Native.Ffi.PendingResults

/-!
# The query methods of the repository

A method that calls the native library once asks for a buffer and decodes what it
holds. When there is none, or it cannot be decoded, the method asks the native library
what went wrong and reports that. The methods for several results differ: no buffer
means no results to them. `executeQuery` reads the streams instead.

Five of the methods set a time limit and reconnect; the prepared statements and the
catalog do neither.
-/

namespace OdbcFast.Dart

open Wire

/-- What becomes of a native call. -/
inductive Reply where
  /-- The call was not made: an argument was refused, or there is no worker to ask. -/
  | unsent (thrown : Thrown)
  /-- The worker made the call, and its answer did not arrive. -/
  | lost (native : NativeCall) (exception : DartException)
  | answered (native : NativeCall)

/-- The buffer the caller is given. -/
def Reply.buffer (maxSize : Option Int) : Reply → Completion (Option Bytes)
  | .unsent thrown => .error thrown
  | .lost _ exception => .error (.exception exception)
  | .answered native => .ok (native.receive maxSize)

/-- What one run of a method with a single native call meets. -/
structure CallTurn where
  reply : Reply
  /-- The time limit passed first. -/
  timedOut : Bool := false
  /-- Asked when there is no result. -/
  errors : NativeErrors
  /-- Asked behind an exception. -/
  errorsAgain : NativeErrors

/-- What one run of `executeQuery` meets. -/
structure StreamTurn where
  /-- What the batched stream answers. -/
  batched : StreamAnswers
  /-- What the other one answers, when it is started. -/
  whole : StreamAnswers
  timedOut : Bool := false
  errors : NativeErrors

/-- The native library before anything is started. -/
def StreamTurn.native (turn : StreamTurn) : StreamingNative where
  batched := turn.batched
  whole := turn.whole

/-- Whether a time limit is set, and passed before the run was over. -/
def expires (options : Option ConnectionOptions) (timedOut : Bool) : Bool :=
  match options.bind ConnectionOptions.queryTimeout with
  | none => false
  | some limit => limit ≠ 0 ∧ timedOut

/-- `runWithTimeout`. -/
def withTimeout {α : Type} (options : Option ConnectionOptions) (timedOut : Bool)
    (run : Completion (Result α)) : Completion (Result α) :=
  if expires options timedOut then .ok (.failure queryTimedOut) else run

/-- `_connectionOptions[connectionId]?.maxResultBufferBytes`. -/
def resultLimit (options : Option ConnectionOptions) : Option Int :=
  options.bind ConnectionOptions.maxResultBufferBytes

/-- No result is reported as the native library explains it. -/
def singleResult (fallbackMessage : String) (errors : NativeErrors) :
    Option QueryResult → Completion (Result QueryResult)
  | none => convertNativeErrorToFailure .query fallbackMessage errors
  | some qr => .ok (.success qr)

/-- The body of the methods with one result. -/
def runSingle (library : DecompressLibrary) (maxSize : Option Int) (fallbackMessage : String)
    (turn : CallTurn) : Completion (Result QueryResult) :=
  let body : Completion (Result QueryResult) := do
    let buf ← turn.reply.buffer maxSize
    let qr ← parseBufferToQueryResult library buf
    singleResult fallbackMessage turn.errors qr
  onException body fun exception =>
    convertNativeErrorToFailure .query exception.text turn.errorsAgain

/-- No buffer is no results. -/
def multiResult (library : DecompressLibrary) :
    Option Bytes → Completion (Result QueryResultMulti)
  | none => .ok (.success ⟨[]⟩)
  | some buf => Completion.ofParser ((decodeQueryResultMulti library buf).map .success)

/-- The body of the methods with several results. -/
def runMulti (library : DecompressLibrary) (maxSize : Option Int) (turn : CallTurn) :
    Completion (Result QueryResultMulti) :=
  let body : Completion (Result QueryResultMulti) := do
    let buf ← turn.reply.buffer maxSize
    multiResult library buf
  onException body fun exception =>
    convertNativeErrorToFailure .query exception.text turn.errorsAgain

/-- The body of `executeQuery`, and the streams that it has started. -/
def runStreams (backend : Backend) (library : DecompressLibrary) (maxBufferBytes : Option Int)
    (turn : StreamTurn) : Completion (Result QueryResult) × List QueryStream :=
  let (streamed, native) :=
    streamNativeQueryWithFallback backend library maxBufferBytes turn.native
  let body : Completion (Result QueryResult) := do
    streamed.ending.completion
    .ok (.success (collectChunks streamed.chunks))
  (onException body (streamingFailureFromException turn.errors), native.started)

/-- How often the operation of a call ran. -/
def Call.runs {α : Type} (call : Call α) : Nat :=
  call.first.toList.length + call.attempts.countP fun attempt => attempt.reran.isSome

/-- A call with the streams that each of its runs has started. -/
structure StreamedCall extends Call QueryResult where
  started : List (List QueryStream)

section Methods

variable (library : DecompressLibrary) (connectionId : String)

section Reconnecting

variable (turns : Nat → ReconnectTurn)

/-- A run that is out of time goes on, and nobody waits for it. -/
def executeQuery (backend : Backend) (runs : Nat → StreamTurn) (world : World) : StreamedCall :=
  let run (options : Option ConnectionOptions) (k : Nat) :=
    runStreams backend library (resultLimit options) (runs k)
  let call := queryMethod turns connectionId (fun _ options k =>
    withTimeout options (runs k).timedOut (run options k).1) world
  { call with
    started := (List.range call.runs).map fun k => (run (world.optionsOf connectionId) k).2 }

/-- The parameters' values are serialized before the call; a list or a buffer of them makes no
difference behind that. -/
def parameterizedQuery (runs : Nat → CallTurn) (world : World) : Call QueryResult :=
  queryMethod turns connectionId (fun _ options k =>
    withTimeout options (runs k).timedOut (runSingle library (resultLimit options)
      "Failed to execute parameterized query" (runs k))) world

def executeQueryParams (runs : Nat → CallTurn) (world : World) : Call QueryResult :=
  parameterizedQuery library connectionId turns runs world

def executeQueryParamBuffer (runs : Nat → CallTurn) (world : World) : Call QueryResult :=
  parameterizedQuery library connectionId turns runs world

/-- With parameters or without. -/
def multiQuery (runs : Nat → CallTurn) (world : World) : Call QueryResultMulti :=
  queryMethod turns connectionId (fun _ options k =>
    withTimeout options (runs k).timedOut
      (runMulti library (resultLimit options) (runs k))) world

def executeQueryMultiFull (runs : Nat → CallTurn) (world : World) : Call QueryResultMulti :=
  multiQuery library connectionId turns runs world

def executeQueryMultiParams (runs : Nat → CallTurn) (world : World) : Call QueryResultMulti :=
  multiQuery library connectionId turns runs world

end Reconnecting

/-- A method that runs once. -/
def runOnce (refused : Option OdbcError) (outcome : Completion (Result QueryResult))
    (world : World) : Call QueryResult :=
  match refused with
  | some error => { completion := .ok (.failure error), world }
  | none => { completion := outcome, first := some outcome, world }

/-- The limit is an option of the statement. -/
def executePrepared (stmtId : Nat) (maxBufferSize : Option Int) (run : CallTurn) (world : World) :
    Call QueryResult :=
  runOnce (world.repository.validateStatementOwnership connectionId stmtId "executePrepared")
    (runSingle library maxBufferSize "Failed to execute prepared statement" run) world

/-- `none` when the connection is known. -/
def unknownConnection (repository : Repository) : Option OdbcError :=
  if (repository.connectionIds.lookup connectionId).isNone then some invalidConnectionId else none

def catalogQuery (fallbackMessage : String) (run : CallTurn) (world : World) : Call QueryResult :=
  runOnce (unknownConnection connectionId world.repository)
    (runSingle library none fallbackMessage run) world

def catalogTables : CallTurn → World → Call QueryResult :=
  catalogQuery library connectionId "Failed to list catalog tables"

def catalogColumns : CallTurn → World → Call QueryResult :=
  catalogQuery library connectionId "Failed to list catalog columns"

def catalogTypeInfo : CallTurn → World → Call QueryResult :=
  catalogQuery library connectionId "Failed to get catalog type info"

def catalogPrimaryKeys : CallTurn → World → Call QueryResult :=
  catalogQuery library connectionId "Failed to list catalog primary keys"

def catalogForeignKeys : CallTurn → World → Call QueryResult :=
  catalogQuery library connectionId "Failed to list catalog foreign keys"

def catalogIndexes : CallTurn → World → Call QueryResult :=
  catalogQuery library connectionId "Failed to list catalog indexes"

end Methods

/-- What `streamQuery` of the repository yields and how it ends, with the streams it started. -/
structure StreamedResults where
  items : List (Result QueryResult)
  ending : Completion Unit
  started : List QueryStream := []

/-- `streamQuery` of the repository: a result for every message, and one for the exception that
ended the stream. The time limit ends it behind the results `seen` before. -/
def Repository.streamQuery (backend : Backend) (library : DecompressLibrary)
    (connectionId : String) (turn : StreamTurn) (seen : Nat) (world : World) : StreamedResults :=
  match world.repository.connectionIds.lookup connectionId with
  | none => { items := [.failure invalidConnectionId], ending := .ok () }
  | some _ =>
    let options := world.optionsOf connectionId
    let (streamed, native) :=
      streamNativeQueryWithFallback backend library (resultLimit options) turn.native
    let started := native.started
    let items := streamed.chunks.map fun chunk => .success (toQueryResult chunk)
    if expires options turn.timedOut then
      { items := items.take seen ++ [.failure queryTimedOut], ending := .ok (), started }
    else
      match streamed.ending.completion with
      | .ok () => { items, ending := .ok (), started }
      | .error (.fault fault) => { items, ending := .error (.fault fault), started }
      | .error (.exception exception) =>
        match streamingFailureFromException turn.errors exception with
        | .ok result => { items := items ++ [result], ending := .ok (), started }
        | .error thrown => { items, ending := .error thrown, started }

/-! ## Calls with larger and larger buffers -/

/-- What `callWithBuffer` makes of an answer. -/
def FfiAnswer.ofAnswer : Native.Answer → FfiAnswer
  | .written data => .written data
  | .tooSmall _ _ => .tooSmall
  | .failed _ => .failed

/-- What the calls of a request meet: the call with a buffer of each size is made at some time, and
the driver has some result for it, if it is asked. -/
structure Requests where
  clock : Nat → Nat
  results : Nat → Except Native.OdbcError Bytes

namespace OdbcNative

/-- One of the calls; the answers of the library are listed. -/
def execWith (hashBytes : Bytes → UInt64) (requests : Requests) (call : Native.ExecCall)
    (size : Nat) (made : Native.PendingResults × List Native.PendingResults.Outcome) :
    (Native.PendingResults × List Native.PendingResults.Outcome) × FfiAnswer :=
  let (next, outcome) := { made.1 with now := requests.clock size }.exec hashBytes call size
    (requests.results size)
  ((next, made.2 ++ [outcome]), .ofAnswer outcome.answer)

/-- The methods of the bindings that execute something. -/
def execRepeatedly (hashBytes : Bytes → UInt64) (requests : Requests) (maxBufferBytes : Option Int)
    (call : Native.ExecCall) (state : Native.PendingResults) :
    (Native.PendingResults × List Native.PendingResults.Outcome) × Option Bytes :=
  callWithBufferOn (execWith hashBytes requests call) maxBufferBytes (state, [])

section

variable (hashBytes : Bytes → UInt64) (requests : Requests) (maxBufferBytes : Option Int)

def execQuery (connectionId : Nat) (sql : String) :=
  execRepeatedly hashBytes requests maxBufferBytes (.execQuery connectionId sql)

def execQueryParams (connectionId : Nat) (sql : String) (params : Option Bytes) :=
  execRepeatedly hashBytes requests maxBufferBytes
    (.execQueryParams connectionId sql (params.getD []))

def execQueryMulti (connectionId : Nat) (sql : String) :=
  execRepeatedly hashBytes requests maxBufferBytes (.execQueryMulti connectionId sql)

/-- Where the library exports it. -/
def execQueryMultiParams (connectionId : Nat) (sql : String) (paramsBuffer : Option Bytes) :=
  execRepeatedly hashBytes requests maxBufferBytes
    (.execQueryMultiParams connectionId sql (paramsBuffer.getD []))

def execute (stmtId : Nat) (params : Option Bytes) (timeoutOverrideMs fetchSize : Nat) :=
  execRepeatedly hashBytes requests maxBufferBytes
    (.execute stmtId (params.getD []) timeoutOverrideMs fetchSize)

end

/-- What a call of `odbc_catalog_columns` meets. -/
structure ColumnsTurn where
  /-- The call is not made before. -/
  time : Nat
  fault : Option Native.HandleFault
  result : Except Native.OdbcError Bytes
  took : Nat

def ColumnsTurn.call (connectionId : Nat) (table : String) (size : Nat) (turn : ColumnsTurn) :
    Native.ColumnsCall :=
  ⟨connectionId, table, size, turn.fault, turn.result, turn.took⟩

/-- One of the calls; the answers of the library are listed here too. -/
def columnsWith {lru : ∀ ν : Type, LruMap String ν} (connectionId : Nat) (table : String)
    (turns : Nat → ColumnsTurn) (size : Nat)
    (made : Native.CatalogState lru × List Native.ColumnsOutcome) :
    (Native.CatalogState lru × List Native.ColumnsOutcome) × FfiAnswer :=
  let (next, outcome) :=
    { made.1 with now := max made.1.now (turns size).time }.odbcCatalogColumns
      ((turns size).call connectionId table size)
  ((next, made.2 ++ [outcome]), .ofCode outcome.reply)

def catalogColumns {lru : ∀ ν : Type, LruMap String ν} (connectionId : Nat) (table : String)
    (turns : Nat → ColumnsTurn) (state : Native.CatalogState lru) :
    (Native.CatalogState lru × List Native.ColumnsOutcome) × Option Bytes :=
  callWithBufferOn (columnsWith connectionId table turns) none (state, [])

end OdbcNative

end OdbcFast.Dart
