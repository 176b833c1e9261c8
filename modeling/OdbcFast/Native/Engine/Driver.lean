import OdbcFast.Native.Engine.CellReader
import OdbcFast.Native.Protocol.MultiResult

/-!
# What a driver answers

A statement exposes one result at a time. Each result answers every call that the
engine may make: its number of columns, its row count, the description of a column
and the rows of a cursor. `SQLMoreResults` moves to the next one, and after the last
it says that there are no more, or fails.

Reading a cursor turns its answers into a row buffer. The column types go through the
active plugin; on the codes the engine produces every plugin agrees with the table.
-/

namespace OdbcFast.Native

open Wire

/-! ## Column types -/

/-- `odbc_api::DataType` without its parameters; `other` is every type that the engine
reads as text. -/
inductive DataType where
  | integer
  | smallInt
  | tinyInt
  | bit
  | bigInt
  | numeric
  | decimal
  | date
  | timestamp
  | binary
  | varbinary
  | longVarbinary
  | other
  deriving DecidableEq, Repr

namespace OdbcType

def sqlTypeCodeFromDataType : DataType → Int
  | .integer | .smallInt | .tinyInt | .bit => 4
  | .bigInt => -5
  | .numeric | .decimal => 3
  | .date => 9
  | .timestamp => 11
  | .binary | .varbinary | .longVarbinary => -2
  | .other => 1

def fromOdbcSqlType (sqlType : Int) : OdbcType :=
  if sqlType = 1 then .varchar
  else if sqlType = 4 then .integer
  else if sqlType = -5 then .bigInt
  else if sqlType = 3 then .decimal
  else if sqlType = 9 ∨ sqlType = 91 then .date
  else if sqlType = 11 ∨ sqlType = 93 then .timestamp
  else if -4 ≤ sqlType ∧ sqlType ≤ -2 then .binary
  else if -10 ≤ sqlType ∧ sqlType ≤ -8 then .nVarchar
  else if sqlType = 5 then .smallInt
  else if sqlType = -6 then .smallInt
  else if sqlType = -7 then .boolean
  else if sqlType = 7 then .float
  else if sqlType = 6 ∨ sqlType = 8 then .double
  else if sqlType = 10 ∨ sqlType = 92 then .time
  else if sqlType = 2 then .decimal
  else if sqlType = -11 then .uuid
  else .varchar

end OdbcType

/-- The plugins of the default registry. -/
inductive Plugin where
  | sqlServer
  | oracle
  | postgres
  | mySql
  | mariaDb
  | sybase
  | sqlite
  | db2
  | snowflake
  deriving DecidableEq, Repr

namespace Plugin

/-- The table that several plugins spell out. -/
def mapStandard (odbcType : Int) : OdbcType :=
  if odbcType = 1 then .varchar
  else if odbcType = 4 then .integer
  else if odbcType = -5 then .bigInt
  else if odbcType = 3 then .decimal
  else if odbcType = 9 then .date
  else if odbcType = 11 then .timestamp
  else if odbcType = -2 then .binary
  else .varchar

def mapType : Plugin → Int → OdbcType
  | .sqlServer, odbcType => mapStandard odbcType
  | .oracle, odbcType => if odbcType = 2 then .integer else mapStandard odbcType
  | .postgres, odbcType => mapStandard odbcType
  | .mySql, odbcType => mapStandard odbcType
  | .mariaDb, odbcType => OdbcType.fromOdbcSqlType odbcType
  | .sybase, odbcType => mapStandard odbcType
  | .sqlite, odbcType => OdbcType.fromOdbcSqlType odbcType
  | .db2, odbcType => OdbcType.fromOdbcSqlType odbcType
  | .snowflake, odbcType => OdbcType.fromOdbcSqlType odbcType

/-- The plugins differ only on codes that are never asked for. -/
theorem mapType_sqlTypeCode (plugin : Plugin) (dataType : DataType) :
    plugin.mapType (OdbcType.sqlTypeCodeFromDataType dataType) =
      OdbcType.fromOdbcSqlType (OdbcType.sqlTypeCodeFromDataType dataType) := by
  cases plugin <;> cases dataType <;> rfl

end Plugin

/-! ## Results and statements -/

/-- One result of a statement, by its answers. `rows` are the rows that are fetched
and `fetched` is how fetching ends: `ok` behind the last row, or the error that stops it. -/
structure DriverResult where
  numResultCols : Except OdbcError Int
  rowCount : Except OdbcError Int64
  colName : Nat → Except OdbcError String
  colDataType : Nat → Except OdbcError DataType
  rows : List (Nat → Except OdbcError (Option CellReader.RawCell))
  fetched : Except OdbcError Unit

/-- `SqlResult` of an `SQLMoreResults` call, with the error converted. -/
inductive SqlResult where
  | success
  | successWithInfo
  | noData
  | needData
  | stillExecuting
  | error (err : OdbcError)
  deriving DecidableEq, Repr

/-- What `SQLMoreResults` answers behind the last result. -/
inductive Ending where
  | noData
  | needData
  | stillExecuting
  | error (err : OdbcError)
  deriving DecidableEq, Repr

def Ending.toSqlResult : Ending → SqlResult
  | .noData => .noData
  | .needData => .needData
  | .stillExecuting => .stillExecuting
  | .error err => .error err

/-- An executed statement: the result it exposes and those that follow, each with whether
the step to it carries diagnostics. -/
structure Statement where
  current : DriverResult
  pending : List (Bool × DriverResult)
  ending : Ending

def Statement.moreResults (stmt : Statement) : SqlResult × Statement :=
  match stmt.pending with
  | [] => (stmt.ending.toSqlResult, stmt)
  | (withInfo, result) :: pending =>
    (if withInfo then .successWithInfo else .success, { stmt with current := result, pending })

/-- `SQLMoreResults` moves on whenever it succeeds. -/
theorem Statement.pending_lt {stmt : Statement}
    (moved : stmt.moreResults.1 = .success ∨ stmt.moreResults.1 = .successWithInfo) :
    stmt.moreResults.2.pending.length < stmt.pending.length := by
  rw [Statement.moreResults] at moved ⊢
  split at moved
  · cases ending : stmt.ending <;> simp [ending, Ending.toSqlResult] at moved
  · next pending => simp [pending]

/-- A connection's behaviour on one batch. -/
structure Driver where
  prepared : Except OdbcError Unit
  executed : Except OdbcError Unit
  first : DriverResult
  more : List (Bool × DriverResult)
  ending : Ending

namespace Driver

/-- The results of the batch in the driver's order. -/
def results (driver : Driver) : List DriverResult := driver.first :: driver.more.map Prod.snd

def prepare (driver : Driver) : Except OdbcError Unit := driver.prepared

/-- `execute`: says whether there is a cursor, which is when there are columns. -/
def execute (driver : Driver) : Except OdbcError (Bool × Statement) := do
  driver.executed
  let cols ← driver.first.numResultCols
  .ok (decide (cols ≠ 0), ⟨driver.first, driver.more, driver.ending⟩)

end Driver

/-- `row_count` of a prepared statement: minus one means that no count is available. -/
def DriverResult.availableRowCount (result : DriverResult) : Except OdbcError (Option Int64) :=
  result.rowCount.map fun n => if n = -1 then none else some n

/-- SQLSTATE 02000 says that there are no more results. -/
def isNoMoreResults (err : OdbcError) : Bool := err.sqlstate = [0x30, 0x32, 0x30, 0x30, 0x30]

/-- What a loop over the results makes of an `SQLMoreResults` answer: go on, stop, or fail
with the text it has for the state. -/
def onAdvanceWith (needData stillExecuting : String) : SqlResult → Except OdbcError Bool
  | .noData => .ok false
  | .success => .ok true
  | .successWithInfo => .ok true
  | .error err => if isNoMoreResults err then .ok false else .error err
  | .needData => .error (.odbcApi needData)
  | .stillExecuting => .error (.odbcApi stillExecuting)

section

variable {needData stillExecuting : String}

theorem moved_of_onAdvanceWith {advance : SqlResult}
    (goOn : onAdvanceWith needData stillExecuting advance = .ok true) :
    advance = .success ∨ advance = .successWithInfo := by
  cases advance with
  | success => exact .inl rfl
  | successWithInfo => exact .inr rfl
  | error err =>
      rw [onAdvanceWith] at goOn
      split at goOn <;> cases goOn
  | noData => cases goOn
  | needData => cases goOn
  | stillExecuting => cases goOn

/-- The driver says that there are no more results, by code or by state. -/
def Ending.IsEnd : Ending → Prop
  | .noData => True
  | .error err => isNoMoreResults err
  | .needData => False
  | .stillExecuting => False

theorem Ending.IsEnd.onAdvanceWith {ending : Ending} (ends : ending.IsEnd) :
    onAdvanceWith needData stillExecuting ending.toSqlResult = .ok false := by
  cases ending with
  | noData => rfl
  | error err => exact if_pos ends
  | needData => cases ends
  | stillExecuting => cases ends

theorem onAdvanceWith_advanced (withInfo : Bool) :
    onAdvanceWith needData stillExecuting (if withInfo then .successWithInfo else .success) =
      .ok true := by
  cases withInfo <;> rfl

end

/-! ## Reading a cursor -/

def sqlServerForJsonColumnName : String := "JSON_F52E2B61-18A1-11D1-B105-00805F49916B"

/-- `str::eq_ignore_ascii_case`. -/
def eqIgnoreAsciiCase (a b : String) : Bool := a.toList.map Char.toLower = b.toList.map Char.toLower

def isForJsonResult (buffer : RowBuffer) : Bool :=
  buffer.columnCount = 1 ∧
    (buffer.columns.head?.any fun col => eqIgnoreAsciiCase col.name sqlServerForJsonColumnName)

/-- The first cells that are not NULL. -/
def jsonChunks (rows : List (List Cell)) : List Bytes := rows.filterMap fun row => row.head?.join

/-- A `FOR JSON` result becomes one row with the chunks put together. -/
def coalesceForJsonRows (buffer : RowBuffer) : RowBuffer :=
  if ¬ isForJsonResult buffer then buffer
  else if buffer.rows.isEmpty then buffer
  else
    let mergedCell := if (jsonChunks buffer.rows).isEmpty then none
      else some (jsonChunks buffer.rows).flatten
    { columns := buffer.columns.modifyHead fun col => { col with odbcType := .json }
      rows := [[mergedCell]] }

/-- The description of the columns `1..=cols`. -/
def readColumns (mapType : Int → OdbcType) (result : DriverResult) (cols : Nat) :
    Except OdbcError (List ColumnMetadata) :=
  (List.range' 1 cols).mapM fun colIdx => do
    let colName ← result.colName colIdx
    let colType ← result.colDataType colIdx
    .ok ⟨colName, mapType (OdbcType.sqlTypeCodeFromDataType colType)⟩

/-- One row, cell by cell. -/
def readRow (columns : List ColumnMetadata)
    (row : Nat → Except OdbcError (Option CellReader.RawCell)) : Except OdbcError (List Cell) :=
  columns.zipIdx.mapM fun (col, colIdx) =>
    if colIdx + 1 < 2 ^ 16 then
      (row (colIdx + 1)).map (CellReader.readCellBytes col.odbcType)
    else .error (.internalError "Invalid column number")

/-- The part that the engine's and the stream's cursor encoders share. -/
def readCursor (mapType : Int → OdbcType) (result : DriverResult) :
    Except OdbcError RowBuffer := do
  let cols ← result.numResultCols
  if cols < 0 then .error (.internalError "Invalid column count")
  else
    let columns ← readColumns mapType result cols.toNat
    let rows ← result.rows.mapM (readRow columns)
    result.fetched
    .ok (coalesceForJsonRows ⟨columns, rows⟩)

/-- Reading depends on the type mapping only through the codes of the data types. -/
theorem readCursor_congr {mapType mapType' : Int → OdbcType}
    (same : ∀ dataType, mapType (OdbcType.sqlTypeCodeFromDataType dataType) =
      mapType' (OdbcType.sqlTypeCodeFromDataType dataType)) :
    readCursor mapType = readCursor mapType' := by
  funext result
  simp only [readCursor, readColumns, same]

/-! ## What a batch holds -/

/-- The rows of a cursor, or a row count. -/
inductive Content where
  | rows (buffer : RowBuffer)
  | count (n : Int64)
  deriving DecidableEq, Repr

/-- The first result has a cursor when it has columns; without a count it counts zero rows. -/
def firstContent (mapType : Int → OdbcType) (result : DriverResult) : Except OdbcError Content := do
  let cols ← result.numResultCols
  if cols ≠ 0 then
    (readCursor mapType result).map .rows
  else
    result.availableRowCount.map fun rc => .count (rc.getD 0)

def laterContent (mapType : Int → OdbcType) (result : DriverResult) : Except OdbcError Content := do
  let cols ← result.numResultCols
  if cols > 0 then
    (readCursor mapType result).map .rows
  else
    result.rowCount.map .count

/-- The item of a content, with the encoding of a cursor's rows. -/
def Content.item {ε : Type} (encode : RowBuffer → Except ε Bytes) :
    Content → Except ε MultiResultItem
  | .rows buffer => (encode buffer).map .resultSet
  | .count n => .ok (.rowCount n)

/-- The contents of a batch, one for each result in the driver's order. -/
def Driver.contents (mapType : Int → OdbcType) (driver : Driver) :
    Except OdbcError (List Content) := do
  let first ← firstContent mapType driver.first
  let later ← driver.more.mapM fun step => laterContent mapType step.2
  .ok (first :: later)

/-- The statement is prepared and executed, and its results come to an end. -/
structure Driver.Completes (driver : Driver) : Prop where
  prepared : driver.prepared = .ok ()
  executed : driver.executed = .ok ()
  ends : driver.ending.IsEnd

end OdbcFast.Native
