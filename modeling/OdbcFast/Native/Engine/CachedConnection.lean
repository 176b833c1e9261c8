import OdbcFast.Native.Engine.OptimizeQuery
import OdbcFast.Wire.Recency

/-!
# Queries on a connection with a statement cache

`execute_query` prepares the text that the plugin makes of a query, fetches the result and
encodes it. A cached connection has a pipeline of its own for that. It keeps the statements that
it has executed, and prepares a text only when it has no statement for it.
-/

namespace OdbcFast.Native

open Wire

/-! ## Fetching -/

/-- The columns and the rows of a cursor. -/
def fetchCursor (mapType : Int → OdbcType) (result : DriverResult) : Except OdbcError RowBuffer := do
  let cols ← result.numResultCols
  if cols < 0 then .error (.internalError "Invalid column count")
  else
    let columns ← readColumns mapType result cols.toNat
    let rows ← result.rows.mapM (readRow columns)
    result.fetched
    .ok ⟨columns, rows⟩

/-- What an executed statement returns; without a cursor there is nothing in it. -/
def fetch (mapType : Int → OdbcType) (driver : Driver) : Except OdbcError RowBuffer := do
  let (hasCursor, stmt) ← driver.execute
  if hasCursor then fetchCursor mapType stmt.current else .ok ⟨[], []⟩

/-- What a connection does with a text. -/
abbrev Database := List Char → Driver

/-! ## Without a cache -/

namespace ExecutionEngine

/-- `execute_query` without its logs and counters. -/
def executeQueryInner (codecs : Codecs) (engine : ExecutionEngine) (database : Database)
    (sql : List Char) : Except (Fault OdbcError) Bytes := do
  let driver := database (engine.optimizedSql sql)
  orFault driver.prepare
  let buffer ← orFault (fetch engine.mapType driver)
  engine.encodeBuffer codecs (coalesceForJsonRows buffer)

end ExecutionEngine

/-! ## With a cache -/

/-- The feature keeps the statements by their texts. -/
structure CachedConnection (lru : LruCache (List Char)) where
  stmtCache : lru.State
  cacheHits : UInt64 := 0
  cacheMisses : UInt64 := 0
  cacheEvictions : UInt64 := 0

def defaultStmtCacheSize : Nat := 32

/-- `execute_stmt_to_buffer`. -/
def executeStmtToBuffer (driver : Driver) : Except (Fault OdbcError) Bytes := do
  let buffer ← orFault (fetch OdbcType.fromOdbcSqlType driver)
  RowBufferEncoder.encode buffer

namespace CachedConnection

variable {lru : LruCache (List Char)}

def new (lru : LruCache (List Char)) : CachedConnection lru where
  stmtCache := lru.new defaultStmtCacheSize

/-- A statement that is found becomes the most recent one. -/
def executeQueryWithReuse (database : Database) (sql : List Char) (conn : CachedConnection lru) :
    Except (Fault OdbcError) Bytes × CachedConnection lru :=
  if lru.contains sql conn.stmtCache then
    (executeStmtToBuffer (database sql),
      { conn with cacheHits := conn.cacheHits + 1, stmtCache := lru.put sql conn.stmtCache })
  else
    let conn := { conn with cacheMisses := conn.cacheMisses + 1 }
    match (database sql).prepare with
    | .error err => (.error (.err err), conn)
    | .ok () =>
      let full := lru.capacity conn.stmtCache ≤ lru.len conn.stmtCache
      match executeStmtToBuffer (database sql) with
      | .error fault => (.error fault, conn)
      | .ok response =>
        (.ok response, { conn with
          stmtCache := lru.put sql conn.stmtCache
          cacheEvictions := if full then conn.cacheEvictions + 1 else conn.cacheEvictions })

/-- Without the feature every text is prepared. -/
def executeQueryNoParams (reuse : Bool) (database : Database) (sql : List Char)
    (conn : CachedConnection lru) : Except (Fault OdbcError) Bytes × CachedConnection lru :=
  if reuse then executeQueryWithReuse database sql conn
  else
    match (database sql).prepare with
    | .error err => (.error (.err err), conn)
    | .ok () => (executeStmtToBuffer (database sql), conn)

end CachedConnection

/-- `execute_query_cached` without its logs and counters. -/
def ExecutionEngine.executeQueryCached {lru : LruCache (List Char)} (engine : ExecutionEngine)
    (reuse : Bool) (database : Database) (sql : List Char) (conn : CachedConnection lru) :
    Except (Fault OdbcError) Bytes × CachedConnection lru :=
  conn.executeQueryNoParams reuse database (engine.optimizedSql sql)

/-! ## What is fetched -/

theorem fetchCursor_congr {mapType mapType' : Int → OdbcType}
    (same : ∀ dataType, mapType (OdbcType.sqlTypeCodeFromDataType dataType) =
      mapType' (OdbcType.sqlTypeCodeFromDataType dataType)) :
    fetchCursor mapType = fetchCursor mapType' := by
  funext result
  simp only [fetchCursor, readColumns, same]

/-- The plugin makes no difference to what is fetched. -/
theorem fetch_mapType (engine : ExecutionEngine) (driver : Driver) :
    fetch engine.mapType driver = fetch OdbcType.fromOdbcSqlType driver := by
  have same : fetchCursor engine.mapType = fetchCursor OdbcType.fromOdbcSqlType := by
    refine fetchCursor_congr fun dataType => ?_
    obtain ⟨_, _, _ | plugin⟩ := engine
    · rfl
    · exact plugin.mapType_sqlTypeCode dataType
  rw [fetch, same]
  rfl

theorem fromOdbcSqlType_ne_json (dataType : DataType) :
    OdbcType.fromOdbcSqlType (OdbcType.sqlTypeCodeFromDataType dataType) ≠ .json := by
  cases dataType <;> decide

/-- No column is fetched as JSON. -/
theorem fetch_ne_json {driver : Driver} {buffer : RowBuffer}
    (fetched : fetch OdbcType.fromOdbcSqlType driver = .ok buffer) :
    ∀ col ∈ buffer.columns, col.odbcType ≠ .json := by
  obtain ⟨⟨hasCursor, stmt⟩, -, fetched⟩ := bind_eq_ok.mp fetched
  dsimp only at fetched
  cases hasCursor with
  | false =>
      rw [if_neg Bool.false_ne_true] at fetched
      cases fetched
      rintro _ ⟨⟩
  | true =>
      rw [if_pos rfl] at fetched
      obtain ⟨cols, -, fetched⟩ := bind_eq_ok.mp fetched
      split_ifs at fetched
      obtain ⟨columns, read, fetched⟩ := bind_eq_ok.mp fetched
      obtain ⟨rows, -, fetched⟩ := bind_eq_ok.mp fetched
      obtain ⟨-, -, fetched⟩ := bind_eq_ok.mp fetched
      cases fetched
      intro col member
      obtain ⟨index, -, described⟩ := exists_of_mem_mapM_eq_ok read member
      obtain ⟨name, -, described⟩ := bind_eq_ok.mp described
      obtain ⟨dataType, -, described⟩ := bind_eq_ok.mp described
      cases described
      exact fromOdbcSqlType_ne_json dataType

end OdbcFast.Native
