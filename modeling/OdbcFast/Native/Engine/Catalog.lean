import OdbcFast.Native.Engine.DriverCapabilities
import OdbcFast.Native.Plugins.CatalogProvider
import OdbcFast.Wire.Occurrences
import OdbcFast.Wire.Trim

/-!
# Listing what the catalog has

The table is given as one text, which may begin with the schema and a dot. The name of the database
system tells the plugin whose statement is run. Without a plugin the statement asks the views of
`INFORMATION_SCHEMA`.
-/

namespace OdbcFast.Native.Engine

open DriverCapabilities

/-! ## The plugin -/

/-- `PluginRegistry::plugin_id_for_dbms_name`. -/
def pluginIdForDbmsName (dbmsName : List Char) : Option Plugin :=
  match (fromDriverName dbmsName).engine with
  | .sqlServer => some .sqlServer
  | .postgres => some .postgres
  | .mySql => some .mySql
  | .mariaDb => some .mariaDb
  | .oracle => some .oracle
  | .sybaseAse | .sybaseAsa => some .sybase
  | .sqlite => some .sqlite
  | .db2 => some .db2
  | .snowflake => some .snowflake
  | .redshift | .bigQuery | .mongoDb | .unknown => none

/-- The plugin of a connection, by what it answers when it is asked for its system. -/
def catalogPlugin (dbmsName : Option (List Char)) : Option Plugin :=
  dbmsName.bind fun name => pluginIdForDbmsName (fromDriverName name).driverName.toList

def dispatchCatalog (dbmsName : Option (List Char))
    (liveQuery : CatalogProvider → Except OdbcError CatalogQuery) :
    Option (Except OdbcError CatalogQuery) :=
  (catalogPlugin dbmsName).map fun plugin => liveQuery plugin.catalogProvider

/-! ## The statement that is run -/

/-- What the pipeline is called with. -/
inductive PipelineCall where
  | executeDirect (sql : String)
  | executeWithParams (sql : String) (params : List ParamValue)
  deriving DecidableEq, Repr

def PipelineCall.query : PipelineCall → CatalogQuery
  | .executeDirect sql => .noParams sql
  | .executeWithParams sql params => ⟨sql, params⟩

def executeCatalogQuery (q : CatalogQuery) : PipelineCall :=
  if q.params = [] then .executeDirect q.sql else .executeWithParams q.sql q.params

@[simp] theorem query_executeCatalogQuery (q : CatalogQuery) :
    (executeCatalogQuery q).query = q := by
  obtain ⟨sql, params⟩ := q
  rw [executeCatalogQuery]
  split_ifs with none
  · obtain rfl : params = [] := none
    rfl
  · rfl

/-- The schema, if there is a dot, and the table. -/
def validateAndParseTable (table : List Char) : Except OdbcError (Option (List Char) × List Char) :=
  let table := Native.trim table
  if table = [] then .error (.validationError "Table name cannot be empty")
  else
    match Wire.lastAt ['.'] table with
    | some dot =>
      if Native.trim (table.drop (dot + 1)) = [] then
        .error (.validationError "Invalid table name (empty after schema)")
      else .ok (some (Native.trim (table.take dot)), Native.trim (table.drop (dot + 1)))
    | none => .ok (none, table)

theorem validateAndParseTable_qualified {front back : List Char} (apart : '.' ∉ back)
    (shows : Native.trim back ≠ []) :
    validateAndParseTable (front ++ '.' :: back) =
      .ok (some (Native.trim front), Native.trim back) := by
  have trimmed : Native.trim (front ++ '.' :: back) =
      front.dropWhile Native.isWhitespace ++ '.' :: back.rdropWhile Native.isWhitespace :=
    Wire.trimWith_append_cons (by decide) front back
  have alone : '.' ∉ back.rdropWhile Native.isWhitespace := fun there =>
    apart ((List.rdropWhile_prefix _ back).subset there)
  have last : Wire.lastAt ['.'] (Native.trim (front ++ '.' :: back)) =
      some (front.dropWhile Native.isWhitespace).length := by
    rw [trimmed]
    refine (Wire.lastAt_append_iff (List.cons_ne_nil _ _) _ _).mpr ⟨⟨_, rfl⟩, fun inside => ?_⟩
    exact alone (inside.subset List.mem_cons_self)
  have before : Native.trim (front.dropWhile Native.isWhitespace) = Native.trim front :=
    Wire.trimWith_dropWhile front
  have behind : Native.trim (back.rdropWhile Native.isWhitespace) = Native.trim back :=
    Wire.trimWith_rdropWhile back
  rw [validateAndParseTable, last, trimmed, if_neg (by simp)]
  dsimp only
  rw [List.take_left, ← List.drop_drop, List.drop_left, List.drop_one, List.tail_cons, before,
    behind, if_neg shows]

/-- `live` is the plugin's statement; the others are for a connection without a plugin, with the
schema and without it. -/
def listOf (live : CatalogProvider → CatalogSql) (qualified unqualified : String)
    (dbmsName : Option (List Char)) (table : List Char) : Except OdbcError PipelineCall := do
  let (schema, tableName) ← validateAndParseTable table
  match dispatchCatalog dbmsName fun p => live p tableName schema with
  | some q => return executeCatalogQuery (← q)
  | none =>
    match schema with
    | some sch => return .executeWithParams qualified [textParam sch, textParam tableName]
    | none => return .executeWithParams unqualified [textParam tableName]

def listColumns : Option (List Char) → List Char → Except OdbcError PipelineCall :=
  listOf CatalogProvider.listColumnsSql
    ("SELECT TABLE_CATALOG, TABLE_SCHEMA, TABLE_NAME, COLUMN_NAME, " ++
      "ORDINAL_POSITION, DATA_TYPE, IS_NULLABLE " ++
      "FROM INFORMATION_SCHEMA.COLUMNS " ++
      "WHERE TABLE_SCHEMA = ? AND TABLE_NAME = ? " ++
      "ORDER BY ORDINAL_POSITION")
    ("SELECT TABLE_CATALOG, TABLE_SCHEMA, TABLE_NAME, COLUMN_NAME, " ++
      "ORDINAL_POSITION, DATA_TYPE, IS_NULLABLE " ++
      "FROM INFORMATION_SCHEMA.COLUMNS " ++
      "WHERE TABLE_NAME = ? " ++
      "ORDER BY TABLE_SCHEMA, ORDINAL_POSITION")

def listPrimaryKeys : Option (List Char) → List Char → Except OdbcError PipelineCall :=
  listOf CatalogProvider.listPrimaryKeysSql
    ("SELECT " ++
      "kcu.TABLE_NAME, " ++
      "kcu.COLUMN_NAME, " ++
      "kcu.ORDINAL_POSITION, " ++
      "tc.CONSTRAINT_NAME " ++
      "FROM INFORMATION_SCHEMA.TABLE_CONSTRAINTS tc " ++
      "JOIN INFORMATION_SCHEMA.KEY_COLUMN_USAGE kcu " ++
      "ON tc.CONSTRAINT_NAME = kcu.CONSTRAINT_NAME " ++
      "AND tc.TABLE_SCHEMA = kcu.TABLE_SCHEMA " ++
      "AND tc.TABLE_NAME = kcu.TABLE_NAME " ++
      "WHERE tc.CONSTRAINT_TYPE = 'PRIMARY KEY' " ++
      "AND tc.TABLE_SCHEMA = ? " ++
      "AND tc.TABLE_NAME = ? " ++
      "ORDER BY kcu.ORDINAL_POSITION")
    ("SELECT " ++
      "kcu.TABLE_NAME, " ++
      "kcu.COLUMN_NAME, " ++
      "kcu.ORDINAL_POSITION, " ++
      "tc.CONSTRAINT_NAME " ++
      "FROM INFORMATION_SCHEMA.TABLE_CONSTRAINTS tc " ++
      "JOIN INFORMATION_SCHEMA.KEY_COLUMN_USAGE kcu " ++
      "ON tc.CONSTRAINT_NAME = kcu.CONSTRAINT_NAME " ++
      "AND tc.TABLE_SCHEMA = kcu.TABLE_SCHEMA " ++
      "AND tc.TABLE_NAME = kcu.TABLE_NAME " ++
      "WHERE tc.CONSTRAINT_TYPE = 'PRIMARY KEY' " ++
      "AND tc.TABLE_NAME = ? " ++
      "ORDER BY kcu.ORDINAL_POSITION")

def listForeignKeys : Option (List Char) → List Char → Except OdbcError PipelineCall :=
  listOf CatalogProvider.listForeignKeysSql
    ("SELECT " ++
      "rc.CONSTRAINT_NAME, " ++
      "kcu1.TABLE_NAME AS FROM_TABLE, " ++
      "kcu1.COLUMN_NAME AS FROM_COLUMN, " ++
      "kcu2.TABLE_NAME AS TO_TABLE, " ++
      "kcu2.COLUMN_NAME AS TO_COLUMN, " ++
      "rc.UPDATE_RULE, " ++
      "rc.DELETE_RULE " ++
      "FROM INFORMATION_SCHEMA.REFERENTIAL_CONSTRAINTS rc " ++
      "JOIN INFORMATION_SCHEMA.KEY_COLUMN_USAGE kcu1 " ++
      "ON rc.CONSTRAINT_NAME = kcu1.CONSTRAINT_NAME " ++
      "AND rc.CONSTRAINT_SCHEMA = kcu1.CONSTRAINT_SCHEMA " ++
      "JOIN INFORMATION_SCHEMA.KEY_COLUMN_USAGE kcu2 " ++
      "ON rc.UNIQUE_CONSTRAINT_NAME = kcu2.CONSTRAINT_NAME " ++
      "AND rc.UNIQUE_CONSTRAINT_SCHEMA = kcu2.CONSTRAINT_SCHEMA " ++
      "AND kcu1.ORDINAL_POSITION = kcu2.ORDINAL_POSITION " ++
      "WHERE kcu1.TABLE_SCHEMA = ? " ++
      "AND kcu1.TABLE_NAME = ? " ++
      "ORDER BY rc.CONSTRAINT_NAME, kcu1.ORDINAL_POSITION")
    ("SELECT " ++
      "rc.CONSTRAINT_NAME, " ++
      "kcu1.TABLE_NAME AS FROM_TABLE, " ++
      "kcu1.COLUMN_NAME AS FROM_COLUMN, " ++
      "kcu2.TABLE_NAME AS TO_TABLE, " ++
      "kcu2.COLUMN_NAME AS TO_COLUMN, " ++
      "rc.UPDATE_RULE, " ++
      "rc.DELETE_RULE " ++
      "FROM INFORMATION_SCHEMA.REFERENTIAL_CONSTRAINTS rc " ++
      "JOIN INFORMATION_SCHEMA.KEY_COLUMN_USAGE kcu1 " ++
      "ON rc.CONSTRAINT_NAME = kcu1.CONSTRAINT_NAME " ++
      "AND rc.CONSTRAINT_SCHEMA = kcu1.CONSTRAINT_SCHEMA " ++
      "JOIN INFORMATION_SCHEMA.KEY_COLUMN_USAGE kcu2 " ++
      "ON rc.UNIQUE_CONSTRAINT_NAME = kcu2.CONSTRAINT_NAME " ++
      "AND rc.UNIQUE_CONSTRAINT_SCHEMA = kcu2.CONSTRAINT_SCHEMA " ++
      "AND kcu1.ORDINAL_POSITION = kcu2.ORDINAL_POSITION " ++
      "WHERE kcu1.TABLE_NAME = ? " ++
      "ORDER BY rc.CONSTRAINT_NAME, kcu1.ORDINAL_POSITION")

/-- Without a plugin the primary keys and the unique constraints stand for the indexes. -/
def listIndexes : Option (List Char) → List Char → Except OdbcError PipelineCall :=
  listOf CatalogProvider.listIndexesSql
    ("SELECT " ++
      "tc.CONSTRAINT_NAME AS INDEX_NAME, " ++
      "kcu.TABLE_NAME, " ++
      "kcu.COLUMN_NAME, " ++
      "CASE WHEN tc.CONSTRAINT_TYPE = 'UNIQUE' THEN 1 ELSE 0 END AS IS_UNIQUE, " ++
      "CASE WHEN tc.CONSTRAINT_TYPE = 'PRIMARY KEY' THEN 1 ELSE 0 END AS IS_PRIMARY, " ++
      "kcu.ORDINAL_POSITION " ++
      "FROM INFORMATION_SCHEMA.TABLE_CONSTRAINTS tc " ++
      "JOIN INFORMATION_SCHEMA.KEY_COLUMN_USAGE kcu " ++
      "ON tc.CONSTRAINT_NAME = kcu.CONSTRAINT_NAME " ++
      "AND tc.TABLE_SCHEMA = kcu.TABLE_SCHEMA " ++
      "AND tc.TABLE_NAME = kcu.TABLE_NAME " ++
      "WHERE (tc.CONSTRAINT_TYPE = 'PRIMARY KEY' OR tc.CONSTRAINT_TYPE = 'UNIQUE') " ++
      "AND tc.TABLE_SCHEMA = ? " ++
      "AND tc.TABLE_NAME = ? " ++
      "ORDER BY tc.CONSTRAINT_NAME, kcu.ORDINAL_POSITION")
    ("SELECT " ++
      "tc.CONSTRAINT_NAME AS INDEX_NAME, " ++
      "kcu.TABLE_NAME, " ++
      "kcu.COLUMN_NAME, " ++
      "CASE WHEN tc.CONSTRAINT_TYPE = 'UNIQUE' THEN 1 ELSE 0 END AS IS_UNIQUE, " ++
      "CASE WHEN tc.CONSTRAINT_TYPE = 'PRIMARY KEY' THEN 1 ELSE 0 END AS IS_PRIMARY, " ++
      "kcu.ORDINAL_POSITION " ++
      "FROM INFORMATION_SCHEMA.TABLE_CONSTRAINTS tc " ++
      "JOIN INFORMATION_SCHEMA.KEY_COLUMN_USAGE kcu " ++
      "ON tc.CONSTRAINT_NAME = kcu.CONSTRAINT_NAME " ++
      "AND tc.TABLE_SCHEMA = kcu.TABLE_SCHEMA " ++
      "AND tc.TABLE_NAME = kcu.TABLE_NAME " ++
      "WHERE (tc.CONSTRAINT_TYPE = 'PRIMARY KEY' OR tc.CONSTRAINT_TYPE = 'UNIQUE') " ++
      "AND tc.TABLE_NAME = ? " ++
      "ORDER BY tc.CONSTRAINT_NAME, kcu.ORDINAL_POSITION")

end OdbcFast.Native.Engine
