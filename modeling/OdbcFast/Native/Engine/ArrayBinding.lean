import OdbcFast.Native.Engine.DriverCapabilities
import OdbcFast.Native.Engine.ParallelInsert

/-!
# The buffers of a bulk insert

A bulk insert has a buffer for each column. The cells of a batch are copied into the first places
of the buffers, and the execution sends as many rows as the batch has. What was in a place before
stays there until it is written over.

The buffers are the driver manager's; what is relied on is that a cell that is written is the one
that is sent, and that the others stay.

A bulk copy opens a connection of its own, with a library of the vendor. Each row is written into
the variables that are bound to the columns, its lengths are told, and it is sent. Where the copy
cannot be had or fails, the payload is inserted through the buffers.
-/

namespace OdbcFast.Native

open Wire

/-- A parameter as it is sent. -/
inductive BoundCell where
  | null
  | i32 (value : Int32)
  | i64 (value : Int64)
  | text (bytes : Bytes)
  | binary (bytes : Bytes)
  | timestamp (value : BulkTimestamp)
  deriving DecidableEq, Repr

inductive BufferDesc where
  | i32 (nullable : Bool)
  | i64 (nullable : Bool)
  | text (maxStrLen : Nat)
  | binary (length : Nat)
  | timestamp (nullable : Bool)
  deriving DecidableEq, Repr

/-- The cells that a buffer has room for. -/
def BufferDesc.holds : BufferDesc → BoundCell → Bool
  | .text maxStrLen, .text bytes => bytes.length ≤ maxStrLen
  | .binary length, .binary bytes => bytes.length ≤ length
  | _, _ => true

def BufferDesc.isText : BufferDesc → Bool
  | .text _ => true
  | _ => false

def BufferDesc.isBinary : BufferDesc → Bool
  | .binary _ => true
  | _ => false

/-- `odbc_api::ColumnarBulkInserter`. A value and its indicator are one cell. -/
structure BulkInserter (B : Type) where
  create (capacity : Nat) (descs : List BufferDesc) : B
  capacity : B → Nat
  descs : B → List BufferDesc
  setCell (column row : Nat) (cell : BoundCell) : B → B
  cell : B → Nat → Nat → BoundCell
  capacity_create : ∀ capacity' descs', capacity (create capacity' descs') = capacity'
  descs_create : ∀ capacity' descs', descs (create capacity' descs') = descs'
  capacity_setCell : ∀ column row cell' buffers,
    capacity (setCell column row cell' buffers) = capacity buffers
  descs_setCell : ∀ column row cell' buffers,
    descs (setCell column row cell' buffers) = descs buffers
  cell_setCell : ∀ column row cell' buffers column' row',
    cell (setCell column row cell' buffers) column' row' =
      if column' = column ∧ row' = row then cell' else cell buffers column' row'

namespace ArrayBinding

variable {B : Type} (inserter : BulkInserter B)

def specToBufferDesc (spec : BulkColumnSpec) : BufferDesc :=
  match spec.colType with
  | .i32 => .i32 spec.nullable
  | .i64 => .i64 spec.nullable
  | .text | .decimal => .text (max spec.maxLen 1)
  | .binary => .binary (max spec.maxLen 1)
  | .timestamp => .timestamp spec.nullable

/-- A place behind the end of the buffer and a cell that is too long panic. -/
def putCell (desc : BufferDesc) (column row : Nat) (cell : BoundCell) (buffers : B) :
    Except (Fault OdbcError) B :=
  if inserter.capacity buffers ≤ row then .error (.panic "index out of bounds")
  else if desc.holds cell then .ok (inserter.setCell column row cell buffers)
  else .error (.panic "larger than the maximum allowed string length for the buffer")

/-- The loop over the rows of a chunk. -/
def fillRows (desc : BufferDesc) (column : Nat)
    (cellAt : Nat → Except (Fault OdbcError) BoundCell) :
    Nat → B → Except (Fault OdbcError) B
  | 0, buffers => .ok buffers
  | chunkLen + 1, buffers => do
    let buffers ← fillRows desc column cellAt chunkLen buffers
    let cell ← cellAt chunkLen
    putCell inserter desc column chunkLen cell buffers

/-- Whether the null bit of a row is set; a column without a bitmap has none. -/
def isNullAt (bitmap : Option Bytes) (row : Nat) : Bool := bitmap.any (isNull · row)

/-- `values[row]` is read even for a cell that is null. -/
def valueCell {α : Type} (wrap : α → BoundCell) (values : List α) (bitmap : Option Bytes)
    (row : Nat) : Except (Fault OdbcError) BoundCell :=
  match values[row]? with
  | none => .error (.panic "index out of bounds")
  | some value => .ok (if isNullAt bitmap row then .null else wrap value)

/-- `rows[row]` is read for a cell that is not null. -/
def bytesCell (wrap : Bytes → BoundCell) (rows : List Bytes) (bitmap : Option Bytes) (row : Nat) :
    Except (Fault OdbcError) BoundCell :=
  if isNullAt bitmap row then .ok .null
  else
    match rows[row]? with
    | none => .error (.panic "index out of bounds")
    | some bytes => .ok (wrap bytes)

/-- A column whose buffer is as expected is filled row by row. -/
def fillExpected (bufIdx : Nat) (expected : BufferDesc → Bool) (message : String)
    (cellAt : Nat → Except (Fault OdbcError) BoundCell) (chunkStart chunkLen : Nat) (buffers : B) :
    Except (Fault OdbcError) B :=
  match (inserter.descs buffers)[bufIdx]? with
  | none => .error (.panic "index out of bounds")
  | some desc =>
    if expected desc then
      fillRows inserter desc bufIdx (fun i => cellAt (chunkStart + i)) chunkLen buffers
    else .error (.err (.internalError message))

/-- `as_nullable_slice` where there is a bitmap, `as_slice` where there is none. -/
def fillValues {α : Type} (bufIdx : Nat) (typeName : String) (desc : Bool → BufferDesc)
    (wrap : α → BoundCell) (values : List α) (bitmap : Option Bytes) (chunkStart chunkLen : Nat)
    (buffers : B) : Except (Fault OdbcError) B :=
  fillExpected inserter bufIdx (· = desc bitmap.isSome)
    (if bitmap.isSome then s!"{typeName} nullable column expected"
      else s!"{typeName} column expected")
    (valueCell wrap values bitmap) chunkStart chunkLen buffers

/-- `fill_column`. -/
def fillColumn (bufIdx : Nat) (spec : BulkColumnSpec) (data : BulkColumnData)
    (chunkStart chunkLen : Nat) (buffers : B) : Except (Fault OdbcError) B :=
  match data, spec.colType with
  | .i32 values bitmap, .i32 =>
    fillValues inserter bufIdx "I32" .i32 .i32 values bitmap chunkStart chunkLen buffers
  | .i64 values bitmap, .i64 =>
    fillValues inserter bufIdx "I64" .i64 .i64 values bitmap chunkStart chunkLen buffers
  | .text rows _ bitmap, .text | .text rows _ bitmap, .decimal =>
    fillExpected inserter bufIdx BufferDesc.isText "Text column expected"
      (bytesCell .text rows bitmap) chunkStart chunkLen buffers
  | .binary rows _ bitmap, .binary =>
    fillExpected inserter bufIdx BufferDesc.isBinary "Binary column expected"
      (bytesCell .binary rows bitmap) chunkStart chunkLen buffers
  | .timestamp values bitmap, .timestamp =>
    fillValues inserter bufIdx "Timestamp" .timestamp .timestamp values bitmap chunkStart chunkLen
      buffers
  | _, _ => .error (.err (.validationError "Column data does not match spec"))

/-- The loop over the columns of a chunk. -/
def fillColumns (chunkStart chunkLen : Nat) :
    Nat → List (BulkColumnSpec × BulkColumnData) → B → Except (Fault OdbcError) B
  | _, [], buffers => .ok buffers
  | bufIdx, (spec, data) :: columns, buffers => do
    let buffers ← fillColumn inserter bufIdx spec data chunkStart chunkLen buffers
    fillColumns chunkStart chunkLen (bufIdx + 1) columns buffers

/-- The rows that an execution sends. -/
def boundRows (numRows : Nat) (buffers : B) : List (List BoundCell) :=
  (List.range numRows).map fun row =>
    (List.range (inserter.descs buffers).length).map fun column => inserter.cell buffers column row

/-- `set_num_rows` and the columns behind it. -/
def fillChunk (columns : List (BulkColumnSpec × BulkColumnData)) (chunkStart chunkLen : Nat)
    (buffers : B) : Except (Fault OdbcError) B :=
  if inserter.capacity buffers < chunkLen then
    .error (.panic "Columnar buffers may not be resized beyond their initial capacity")
  else fillColumns inserter chunkStart chunkLen 0 columns buffers

/-- The loop over the chunks. -/
def insertChunks (driver : SessionDriver (List BoundCell))
    (columns : List (BulkColumnSpec × BulkColumnData)) :
    List (Nat × Nat) → B → Nat → Fallible (Session (List BoundCell)) (Fault OdbcError) Nat
  | [], _, total => pure total
  | (chunkStart, stop) :: ranges, buffers, total => do
    let chunkLen := stop - chunkStart
    let buffers ← Fallible.check (fillChunk inserter columns chunkStart chunkLen buffers)
    Fallible.adapt .err (Session.call driver (.statement (boundRows inserter chunkLen buffers)))
    insertChunks driver columns ranges buffers (total + chunkLen)

/-- `ArrayBinding::bulk_insert_generic`. -/
def bulkInsertGeneric (driver : SessionDriver (List BoundCell)) (paramsetSize : Nat)
    (payload : BulkInsertPayload) :
    Fallible (Session (List BoundCell)) (Fault OdbcError) Nat :=
  let nRows := payload.rowCount.toNat
  if nRows = 0 then pure 0
  else if payload.columnData.length ≠ payload.columns.length then
    .check (.error (.err (.validationError "column_data length must match columns length")))
  else do
    let sql ← Fallible.check
      (orFault (insertStatement payload.table (payload.columns.map BulkColumnSpec.name)))
    let capacity := min (max paramsetSize 1) nRows
    Fallible.adapt .err (Session.call driver (.prepare sql))
    Fallible.adapt .err (Session.call driver (.bind capacity))
    insertChunks inserter driver (payload.columns.zip payload.columnData)
      (stepRanges nRows capacity)
      (inserter.create capacity (payload.columns.map specToBufferDesc)) 0

end ArrayBinding

/-! ## Bulk copy -/

/-- A call on the handles of a bulk copy. -/
inductive BcpCall where
  | allocEnv
  | setVersion
  | allocDbc
  | setBcp
  | connect (connStr : String)
  | initW (table : String)
  | bind (cbData dataType : Int) (column : Nat)
  | collen (length : Int) (column : Nat)
  | sendRow
  | done
  | disconnect
  | freeDbc
  | freeEnv
  deriving DecidableEq, Repr

/-- Whether a return code says that the call has done its work. -/
def BcpCall.succeeded (call : BcpCall) (code : Int) : Bool :=
  match call with
  | .initW _ | .bind _ _ _ | .collen _ _ | .sendRow => code ≠ 0
  | .done => 0 ≤ code
  | _ => code = 0 ∨ code = 1

/-- The driver manager and the vendor's library. A call may read the variables of the columns, and
answers a return code. -/
abbrev BcpLibrary (L : Type) := BcpCall → (Nat → BoundCell) → L → Int × L

structure BcpSession (L : Type) where
  /-- What was called, with the return codes. -/
  history : List (BcpCall × Int) := []
  /-- The variables of the columns. -/
  cells : Nat → BoundCell := fun _ => .null
  /-- What is behind the library: its handles, and the server. -/
  state : L

def sqlNullData : Int := -1

namespace BcpSession

variable {L : Type} (library : BcpLibrary L)

def made (session : BcpSession L) (call : BcpCall) : BcpSession L :=
  let (code, state) := library call session.cells session.state
  { session with history := session.history ++ [(call, code)], state }

/-- A call whose return code is looked at. -/
def ask (call : BcpCall) (error : Int → OdbcError) : Fallible (BcpSession L) OdbcError Int :=
  .of fun session =>
    let (code, _) := library call session.cells session.state
    (if call.succeeded code then .ok code else .error (error code), session.made library call)

def call (call : BcpCall) (error : Int → OdbcError) : Fallible (BcpSession L) OdbcError Unit := do
  let _ ← ask library call error
  pure ()

/-- Calls whose return codes are not looked at. -/
def silently (calls : List BcpCall) (session : BcpSession L) : BcpSession L :=
  calls.foldl (made library) session

/-- The calls that follow on an error. -/
def onError {α : Type} (calls : List BcpCall) (body : Fallible (BcpSession L) OdbcError α) :
    Fallible (BcpSession L) OdbcError α :=
  .of fun session =>
    match body.perform session with
    | (.ok value, session) => (.ok value, session)
    | (.error error, session) => (.error error, session.silently library calls)

end BcpSession

/-- `BoundColumnRef`. -/
inductive BoundColumn where
  | i32 (values : List Int32) (nullBitmap : Option Bytes)
  | i64 (values : List Int64) (nullBitmap : Option Bytes)

namespace BoundColumn

def len : BoundColumn → Nat
  | .i32 values _ => values.length
  | .i64 values _ => values.length

/-- The size of a cell and the type of the server. -/
def bindArgs : BoundColumn → Int × Int
  | .i32 _ _ => (4, 56)
  | .i64 _ _ => (8, 127)

def nullBitmap : BoundColumn → Option Bytes
  | .i32 _ bitmap | .i64 _ bitmap => bitmap

/-- What `write_row` writes. The values are as many as the rows. -/
def writeRow (row : Nat) : BoundColumn → BoundCell
  | .i32 values bitmap => .i32 (if ArrayBinding.isNullAt bitmap row then 0 else values.getD row 0)
  | .i64 values bitmap => .i64 (if ArrayBinding.isNullAt bitmap row then 0 else values.getD row 0)

def rowCollenForBcp (row : Nat) (column : BoundColumn) : Int :=
  if ArrayBinding.isNullAt column.nullBitmap row then sqlNullData else column.bindArgs.1

end BoundColumn

namespace SqlserverBcp

def validateNullBitmap (bitmap : Option Bytes) (rowCount : Nat) (columnName : String) :
    Except OdbcError (Option Bytes) :=
  match bitmap with
  | none => .ok none
  | some bitmap =>
    let expected := (rowCount + 7) / 8
    let got := bitmap.length
    if got ≠ expected then
      .error (.validationError (s!"Native BCP null bitmap size mismatch for column " ++
        s!"'{columnName}': got {got}, expected {expected}"))
    else .ok (some bitmap)

/-- The name that `{:?}` prints. -/
def debugType : BulkColumnType → String
  | .i32 => "I32"
  | .i64 => "I64"
  | .text => "Text"
  | .decimal => "Decimal"
  | .binary => "Binary"
  | .timestamp => "Timestamp"

def buildBoundColumn (spec : BulkColumnSpec) (data : BulkColumnData) :
    Except OdbcError BoundColumn :=
  match spec.colType, data with
  | .i32, .i32 values bitmap =>
    (validateNullBitmap bitmap values.length spec.name).map (.i32 values)
  | .i64, .i64 values bitmap =>
    (validateNullBitmap bitmap values.length spec.name).map (.i64 values)
  | .i32, _ | .i64, _ =>
    .error (.unsupportedFeature
      s!"Native BCP currently requires matching payload type for '{spec.name}'")
  | colType, _ =>
    let uses := debugType colType
    .error (.unsupportedFeature (s!"Native BCP currently supports only I32/I64 columns; " ++
      s!"'{spec.name}' uses {uses}"))

def buildBoundColumns (payload : BulkInsertPayload) : Except OdbcError (List BoundColumn) :=
  let columns := payload.columns.length
  let blocks := payload.columnData.length
  if blocks ≠ columns then
    .error (.validationError
      s!"Native BCP payload mismatch: {columns} columns vs {blocks} data blocks")
  else
    (payload.columns.zip payload.columnData).mapM fun column => buildBoundColumn column.1 column.2

/-- Every column has as many rows as it should. -/
def checkLengths (rowCount : Nat) : Nat → List BoundColumn → Except OdbcError Unit
  | _, [] => .ok ()
  | idx, column :: columns =>
    let len := column.len
    if len ≠ rowCount then
      .error (.validationError
        s!"Native BCP payload column {idx} has {len} rows, expected {rowCount}")
    else checkLengths rowCount (idx + 1) columns

/-! ### Libraries -/

def candidateLibraries : List String := ["sqlncli11.dll", "msodbcsql17.dll", "msodbcsql18.dll"]

/-- Of each set one symbol has to be there. -/
def requiredSymbolSets : List (List String) :=
  [["bcp_initW", "bcp_init"], ["bcp_bind"], ["bcp_collen"], ["bcp_sendrow"], ["bcp_done"]]

/-- The symbols of a library, or the text for one that cannot be loaded. -/
abbrev Libraries := String → Except String (List String)

def probeLibrary (libraries : Libraries) (name : String) : Except OdbcError Unit :=
  match libraries name with
  | .error err => .error (.unsupportedFeature s!"failed to load library '{name}': {err}")
  | .ok symbols =>
    match requiredSymbolSets.find? fun set => ¬ set.any (· ∈ symbols) with
    | none => .ok ()
    | some set =>
      let expected := " or ".intercalate set
      .error (.unsupportedFeature
        s!"library '{name}' missing required symbol(s): {expected}")

/-- The first library that will do is enough. -/
def probeNativeBcpSupport (libraries : Libraries) : Except OdbcError Unit :=
  if candidateLibraries.any fun name => (probeLibrary libraries name).isOk then .ok ()
  else
    let errors := candidateLibraries.filterMap fun name => match probeLibrary libraries name with
      | .ok () => none
      | .error err =>
        let text := err.display
        some s!"{name}: {text}"
    let tried := " | ".intercalate errors
    .error (.unsupportedFeature
      s!"Unable to load SQL Server BCP libraries from PATH. Tried: {tried}")

/-- The first library that can be loaded, whether it will do or not. -/
def loadBcpLibrary (libraries : Libraries) : Except OdbcError (List String) :=
  match candidateLibraries.filterMap fun name => (libraries name).toOption with
  | symbols :: _ => .ok symbols
  | [] =>
    let errors := candidateLibraries.filterMap fun name => match libraries name with
      | .ok _ => none
      | .error err => some s!"{name}: {err}"
    let tried := " | ".intercalate errors
    .error (.unsupportedFeature s!"Unable to load SQL Server BCP library. Tried: {tried}")

def getSymbol (symbols : List String) (name : String) : Except OdbcError Unit :=
  if name ∈ symbols then .ok ()
  else .error (.unsupportedFeature s!"Required BCP symbol not found: {name}")

def loadSymbols (libraries : Libraries) : Except OdbcError Unit := do
  let symbols ← loadBcpLibrary libraries
  ["bcp_initW", "bcp_bind", "bcp_collen", "bcp_sendrow", "bcp_done"].forM (getSymbol symbols)

/-! ### A copy -/

def ensureSuccess (step : String) (code : Int) : OdbcError :=
  .internalError s!"{step} failed with SQL return code {code}"

variable {L : Type} (library : BcpLibrary L)

def bindColumns : Nat → List BoundColumn → Fallible (BcpSession L) OdbcError Unit
  | _, [] => pure ()
  | idx, column :: columns => do
    let (cbData, dataType) := column.bindArgs
    let number := idx + 1
    BcpSession.call library (.bind cbData dataType number) fun _ =>
      .internalError s!"bcp_bind failed for native BCP execution at column {number}"
    bindColumns (idx + 1) columns

/-- The variable of a column is written. -/
def writeCell (column : Nat) (cell : BoundCell) : Fallible (BcpSession L) OdbcError Unit :=
  .of fun session => (.ok (), { session with cells := Function.update session.cells column cell })

def writeRow (row : Nat) : Nat → List BoundColumn → Fallible (BcpSession L) OdbcError Unit
  | _, [] => pure ()
  | idx, column :: columns => do
    let number := idx + 1
    writeCell number (column.writeRow row)
    BcpSession.call library (.collen (column.rowCollenForBcp row) number) fun _ =>
      .internalError
        s!"bcp_collen failed during native BCP execution at row {row} column {number}"
    writeRow row (idx + 1) columns

def sendRows (columns : List BoundColumn) : List Nat → Fallible (BcpSession L) OdbcError Unit
  | [] => pure ()
  | row :: rows => do
    writeRow library row 0 columns
    BcpSession.call library .sendRow fun _ =>
      .internalError s!"bcp_sendrow failed at row {row} during native BCP execution"
    sendRows columns rows

/-- `bcp_done`, whose return code is taken for the number of rows. -/
def finish : Fallible (BcpSession L) OdbcError Nat := do
  let doneRows ← BcpSession.ask library .done fun _ =>
    .internalError "bcp_done failed during native BCP execution"
  pure doneRows.toNat

/-- What is done on the connection. -/
def copyRows (connStr : String) (payload : BulkInsertPayload) (columns : List BoundColumn) :
    Fallible (BcpSession L) OdbcError Nat := do
  BcpSession.call library .setBcp (ensureSuccess "SQLSetConnectAttr(SQL_COPT_SS_BCP)")
  BcpSession.call library (.connect connStr) (ensureSuccess "SQLDriverConnectW")
  BcpSession.call library (.initW payload.table) fun _ =>
    .internalError "bcp_initW failed for native BCP execution"
  bindColumns library 0 columns
  sendRows library columns (List.range payload.rowCount.toNat)
  finish library

def disconnectAndFreeSilent : List BcpCall := [.disconnect, .freeDbc, .freeEnv]

/-- `execute_native_bcp`. -/
def executeNativeBcp (libraries : Libraries) (connStr : String) (payload : BulkInsertPayload) :
    Fallible (BcpSession L) OdbcError Nat :=
  if payload.columns = [] then pure 0
  else do
    let columns ← Fallible.check (buildBoundColumns payload)
    Fallible.check (checkLengths payload.rowCount.toNat 0 columns)
    Fallible.check (loadSymbols libraries)
    BcpSession.call library .allocEnv (ensureSuccess "SQLAllocHandle(SQL_HANDLE_ENV)")
    BcpSession.onError library [.freeEnv] do
      BcpSession.call library .setVersion (ensureSuccess "SQLSetEnvAttr(SQL_ATTR_ODBC_VERSION)")
      BcpSession.call library .allocDbc (ensureSuccess "SQLAllocHandle(SQL_HANDLE_DBC)")
    let count ← BcpSession.onError library disconnectAndFreeSilent
      (copyRows library connStr payload columns)
    Fallible.of fun session => (.ok count, session.silently library disconnectAndFreeSilent)

end SqlserverBcp

/-! ### With and without -/

/-- Where the engine runs. -/
structure BcpRuntime where
  windows : Bool
  /-- `ODBC_ENABLE_UNSTABLE_NATIVE_BCP`. -/
  unstable : Option String
  libraries : SqlserverBcp.Libraries

namespace BulkCopyExecutor

open Engine (lowercase)

def isNativeBcpRuntimeEnabled (runtime : BcpRuntime) : Bool :=
  runtime.unstable.any fun raw =>
    ["1", "true", "TRUE", "yes", "YES"].any fun word => trim raw.toList = word.toList

def isSqlServerConnStr (connStr : String) : Bool :=
  let lowered := lowercase connStr.toList
  contains "sql server" lowered || contains "odbc driver 17 for sql server" lowered ||
    contains "odbc driver 18 for sql server" lowered ||
    (contains "server=" lowered && contains "database=" lowered)

def columnRowCount : BulkColumnData → Nat
  | .i32 values _ => values.length
  | .i64 values _ => values.length
  | .text rows _ _ => rows.length
  | .binary rows _ _ => rows.length
  | .timestamp values _ => values.length

def checkRows (rowCount : Nat) :
    Nat → List (BulkColumnSpec × BulkColumnData) → Except OdbcError Unit
  | _, [] => .ok ()
  | idx, (spec, data) :: columns =>
    let actual := columnRowCount data
    if actual ≠ rowCount then
      .error (.validationError (s!"Bulk insert payload column '{spec.name}' (index {idx}) has " ++
        s!"{actual} rows, expected {rowCount}"))
    else checkRows rowCount (idx + 1) columns

def validatePayload (payload : BulkInsertPayload) : Except OdbcError Unit :=
  let columns := payload.columns.length
  let blocks := payload.columnData.length
  if trim payload.table.toList = [] then
    .error (.validationError "Bulk insert payload table cannot be empty")
  else if payload.columns = [] then
    .error (.validationError "Bulk insert payload must contain at least one column")
  else if blocks ≠ columns then
    .error (.validationError (s!"Bulk insert payload column_data count ({blocks}) does not " ++
      s!"match columns count ({columns})"))
  else checkRows payload.rowCount.toNat 0 (payload.columns.zip payload.columnData)

def shouldFallbackToArrayBinding : OdbcError → Bool
  | .validationError _ | .malformedPayload _ | .cancelled | .noMoreResults => false
  | .unsupportedFeature _ | .internalError _ | .odbcApi _ | .structured _ _ _ | .poolError _
  | .invalidHandle _ | .emptyConnectionString | .environmentNotInitialized
  | .rollbackFailed _ => true
  | .resourceLimitReached _ | .workerCrashed _ | .bulkPartialFailure _ _ _ => false

def tryNativeSqlserverBcp {L : Type} (runtime : BcpRuntime) (library : BcpLibrary L)
    (payload : BulkInsertPayload) (connStr : Option String) :
    Fallible (BcpSession L) OdbcError Nat :=
  if runtime.windows then
    if isNativeBcpRuntimeEnabled runtime then do
      Fallible.check (SqlserverBcp.probeNativeBcpSupport runtime.libraries)
      match connStr with
      | none =>
        .check (.error (.unsupportedFeature ("Native SQL Server BCP requires connection string " ++
          "for pre-connect SQL_COPT_SS_BCP; not available in this context")))
      | some connStr =>
        if isSqlServerConnStr connStr then
          SqlserverBcp.executeNativeBcp library runtime.libraries connStr payload
        else
          .check (.error (.unsupportedFeature
            "Native SQL Server BCP path only applies to SQL Server connections"))
    else
      .check (.error (.unsupportedFeature ("Native SQL Server BCP is disabled by default due to " ++
        "known stability issues. Set ODBC_ENABLE_UNSTABLE_NATIVE_BCP=1 to enable experimental " ++
        "native path")))
  else
    .check (.error (.unsupportedFeature
      "Native SQL Server BCP is currently supported only on Windows builds"))

def bulkCopyNative {L : Type} (runtime : BcpRuntime) (library : BcpLibrary L)
    (payload : BulkInsertPayload) (connStr : Option String) :
    Fallible (BcpSession L) OdbcError Nat := do
  Fallible.check (validatePayload payload)
  tryNativeSqlserverBcp runtime library payload connStr

/-- What is made of an error of the insert behind a copy that failed. -/
def bothFailed (nativeError : OdbcError) : Fault OdbcError → Fault OdbcError
  | .panic message => .panic message
  | .err fallbackError =>
    let native := nativeError.display
    let fallback := fallbackError.display
    .err (.internalError (s!"Bulk copy native failed ('{native}'), and fallback ArrayBinding " ++
      s!"also failed ('{fallback}')"))

/-- `bulk_copy_from_payload`, on the session of the caller and one of the copy. -/
def bulkCopyFromPayload {B L : Type} (runtime : BcpRuntime) (library : BcpLibrary L)
    (inserter : BulkInserter B) (driver : SessionDriver (List BoundCell)) (batchSize : Nat)
    (payload : BulkInsertPayload) (connStr : Option String) (session : Session (List BoundCell))
    (state : L) : (Except (Fault OdbcError) Nat × Session (List BoundCell)) × BcpSession L :=
  if payload.rowCount = 0 then ((.ok 0, session), { state })
  else
    match (bulkCopyNative runtime library payload connStr).perform { state } with
    | (.ok inserted, copy) => ((.ok inserted, session), copy)
    | (.error nativeError, copy) =>
      if shouldFallbackToArrayBinding nativeError then
        let (result, session) := (ArrayBinding.bulkInsertGeneric inserter driver (max batchSize 1)
          payload).perform session
        ((result.mapError (bothFailed nativeError), session), copy)
      else ((.error (.err nativeError), session), copy)

end BulkCopyExecutor

/-- `bulk_insert_payload`; without the feature there is no runtime. -/
def bulkInsertPayload {B L : Type} (feature : Option BcpRuntime) (library : BcpLibrary L)
    (inserter : BulkInserter B) (driver : SessionDriver (List BoundCell))
    (payload : BulkInsertPayload) (connStr : Option String) (session : Session (List BoundCell))
    (state : L) : (Except (Fault OdbcError) Nat × Session (List BoundCell)) × BcpSession L :=
  match feature with
  | some runtime =>
    BulkCopyExecutor.bulkCopyFromPayload runtime library inserter driver 1000 payload connStr
      session state
  | none =>
    ((ArrayBinding.bulkInsertGeneric inserter driver defaultParamsetSize payload).perform session,
      { state })

end OdbcFast.Native
