import OdbcFast.Native.Engine.Driver
import OdbcFast.Native.Protocol.ParamValue
import OdbcFast.Native.Security.Sanitize

/-!
# What a plugin asks the catalog

For the columns, the keys and the indexes of a table a plugin has a statement of its own, with the
values for its placeholders. The schema of the table is optional. Some statements ask for it if it
is given, the others leave it out.
-/

namespace OdbcFast.Native

/-- A statement and its parameters in order. -/
structure CatalogQuery where
  sql : String
  params : List ParamValue
  deriving DecidableEq, Repr

def CatalogQuery.noParams (sql : String) : CatalogQuery := ⟨sql, []⟩

/-- `ParamValue::String` of a text. -/
def textParam (text : List Char) : ParamValue := .string (String.ofList text)

/-- The query for a table and its schema. -/
abbrev CatalogSql := List Char → Option (List Char) → Except OdbcError CatalogQuery

namespace CatalogSql

/-- The schema is not looked at. -/
def byTable (sql : String) : CatalogSql := fun table _schema => .ok ⟨sql, [textParam table]⟩

def byTrimmedTable (sql : String) : CatalogSql := fun table _schema =>
  .ok ⟨sql, [textParam (trim table)]⟩

/-- The table is shown in each row, and passed to a function. -/
def byTableTwice (sql : String) : CatalogSql := fun table _schema =>
  .ok ⟨sql, [textParam (trim table), textParam (trim table)]⟩

/-- A schema that is not blank is asked for as well. -/
def bySchema (qualified unqualified : String) : CatalogSql := fun table schema =>
  match schema.filter (trim · ≠ []) with
  | some s => .ok ⟨qualified, [textParam (trim table), textParam (trim s)]⟩
  | none => .ok ⟨unqualified, [textParam (trim table)]⟩

def checked (sql : CatalogSql) : CatalogSql := fun table schema =>
  if trim table = [] then .error (.validationError "Table name cannot be empty")
  else sql table schema

end CatalogSql

/-- `defaults::list_columns`. -/
def Defaults.listColumns : CatalogSql := .checked <| .bySchema
  ("SELECT TABLE_CATALOG, TABLE_SCHEMA, TABLE_NAME, COLUMN_NAME, " ++
    "ORDINAL_POSITION, DATA_TYPE, IS_NULLABLE, COLUMN_DEFAULT " ++
    "FROM INFORMATION_SCHEMA.COLUMNS " ++
    "WHERE TABLE_NAME = ? AND TABLE_SCHEMA = ? " ++
    "ORDER BY ORDINAL_POSITION")
  ("SELECT TABLE_CATALOG, TABLE_SCHEMA, TABLE_NAME, COLUMN_NAME, " ++
    "ORDINAL_POSITION, DATA_TYPE, IS_NULLABLE, COLUMN_DEFAULT " ++
    "FROM INFORMATION_SCHEMA.COLUMNS " ++
    "WHERE TABLE_NAME = ? " ++
    "ORDER BY ORDINAL_POSITION")

structure CatalogProvider where
  listColumnsSql : CatalogSql := Defaults.listColumns
  listPrimaryKeysSql : CatalogSql
  listForeignKeysSql : CatalogSql
  listIndexesSql : CatalogSql

namespace CatalogProvider

def sqlServer : CatalogProvider where
  listPrimaryKeysSql := .byTable
    ("SELECT s.name AS TABLE_SCHEMA, t.name AS TABLE_NAME, c.name AS COLUMN_NAME, " ++
      "ic.key_ordinal AS POSITION " ++
      "FROM sys.indexes i " ++
      "JOIN sys.tables t ON i.object_id = t.object_id " ++
      "JOIN sys.schemas s ON t.schema_id = s.schema_id " ++
      "JOIN sys.index_columns ic ON i.object_id = ic.object_id AND i.index_id = ic.index_id " ++
      "JOIN sys.columns c ON ic.object_id = c.object_id AND ic.column_id = c.column_id " ++
      "WHERE i.is_primary_key = 1 AND t.name = ? " ++
      "ORDER BY ic.key_ordinal")
  listForeignKeysSql := .byTable
    ("SELECT sch.name AS TABLE_SCHEMA, t.name AS TABLE_NAME, fc.name AS COLUMN_NAME, " ++
      "rsch.name AS REFERENCED_SCHEMA, rt.name AS REFERENCED_TABLE, " ++
      "rc.name AS REFERENCED_COLUMN, fkc.constraint_column_id AS POSITION " ++
      "FROM sys.foreign_keys fk " ++
      "JOIN sys.foreign_key_columns fkc ON fk.object_id = fkc.constraint_object_id " ++
      "JOIN sys.tables t ON fk.parent_object_id = t.object_id " ++
      "JOIN sys.schemas sch ON t.schema_id = sch.schema_id " ++
      "JOIN sys.columns fc ON fkc.parent_object_id = fc.object_id " ++
      "AND fkc.parent_column_id = fc.column_id " ++
      "JOIN sys.tables rt ON fk.referenced_object_id = rt.object_id " ++
      "JOIN sys.schemas rsch ON rt.schema_id = rsch.schema_id " ++
      "JOIN sys.columns rc ON fkc.referenced_object_id = rc.object_id " ++
      "AND fkc.referenced_column_id = rc.column_id " ++
      "WHERE t.name = ? ORDER BY fkc.constraint_column_id")
  listIndexesSql := .byTable
    ("SELECT s.name AS TABLE_SCHEMA, t.name AS TABLE_NAME, i.name AS INDEX_NAME, " ++
      "c.name AS COLUMN_NAME, ic.key_ordinal AS COLUMN_POSITION, " ++
      "CASE WHEN i.is_unique = 1 THEN 'UNIQUE' ELSE 'NON-UNIQUE' END AS DESCEND " ++
      "FROM sys.indexes i " ++
      "JOIN sys.tables t ON i.object_id = t.object_id " ++
      "JOIN sys.schemas s ON t.schema_id = s.schema_id " ++
      "JOIN sys.index_columns ic ON i.object_id = ic.object_id AND i.index_id = ic.index_id " ++
      "JOIN sys.columns c ON ic.object_id = c.object_id AND ic.column_id = c.column_id " ++
      "WHERE t.name = ? AND i.type > 0 " ++
      "ORDER BY i.name, ic.key_ordinal")

def postgres : CatalogProvider where
  listPrimaryKeysSql := .byTable
    ("SELECT tc.table_schema AS TABLE_SCHEMA, tc.table_name AS TABLE_NAME, " ++
      "kcu.column_name AS COLUMN_NAME, kcu.ordinal_position AS POSITION " ++
      "FROM information_schema.table_constraints tc " ++
      "JOIN information_schema.key_column_usage kcu " ++
      "ON tc.constraint_name = kcu.constraint_name " ++
      "WHERE tc.constraint_type = 'PRIMARY KEY' AND tc.table_name = ? " ++
      "ORDER BY kcu.ordinal_position")
  listForeignKeysSql := .byTable
    ("SELECT tc.table_schema AS TABLE_SCHEMA, tc.table_name AS TABLE_NAME, " ++
      "kcu.column_name AS COLUMN_NAME, ccu.table_schema AS REFERENCED_SCHEMA, " ++
      "ccu.table_name AS REFERENCED_TABLE, ccu.column_name AS REFERENCED_COLUMN, " ++
      "kcu.ordinal_position AS POSITION " ++
      "FROM information_schema.table_constraints tc " ++
      "JOIN information_schema.key_column_usage kcu " ++
      "ON tc.constraint_name = kcu.constraint_name " ++
      "JOIN information_schema.constraint_column_usage ccu " ++
      "ON ccu.constraint_name = tc.constraint_name " ++
      "WHERE tc.constraint_type = 'FOREIGN KEY' AND tc.table_name = ? " ++
      "ORDER BY kcu.ordinal_position")
  listIndexesSql := .byTable
    ("SELECT schemaname AS TABLE_SCHEMA, tablename AS TABLE_NAME, indexname AS INDEX_NAME, " ++
      "NULL AS COLUMN_NAME, 0 AS COLUMN_POSITION, indexdef AS DESCEND " ++
      "FROM pg_indexes WHERE tablename = ?")

def mySql : CatalogProvider where
  listPrimaryKeysSql := .byTable
    ("SELECT TABLE_SCHEMA, TABLE_NAME, COLUMN_NAME, ORDINAL_POSITION AS POSITION " ++
      "FROM INFORMATION_SCHEMA.KEY_COLUMN_USAGE " ++
      "WHERE CONSTRAINT_NAME = 'PRIMARY' AND TABLE_NAME = ? " ++
      "ORDER BY ORDINAL_POSITION")
  listForeignKeysSql := .byTable
    ("SELECT TABLE_SCHEMA, TABLE_NAME, COLUMN_NAME, " ++
      "REFERENCED_TABLE_SCHEMA AS REFERENCED_SCHEMA, " ++
      "REFERENCED_TABLE_NAME AS REFERENCED_TABLE, REFERENCED_COLUMN_NAME AS REFERENCED_COLUMN, " ++
      "ORDINAL_POSITION AS POSITION " ++
      "FROM INFORMATION_SCHEMA.KEY_COLUMN_USAGE " ++
      "WHERE REFERENCED_TABLE_NAME IS NOT NULL AND TABLE_NAME = ? " ++
      "ORDER BY ORDINAL_POSITION")
  listIndexesSql := .byTable
    ("SELECT TABLE_SCHEMA, TABLE_NAME, INDEX_NAME, COLUMN_NAME, SEQ_IN_INDEX AS COLUMN_POSITION, " ++
      "CASE WHEN NON_UNIQUE = 0 THEN 'UNIQUE' ELSE 'NON-UNIQUE' END AS DESCEND " ++
      "FROM INFORMATION_SCHEMA.STATISTICS " ++
      "WHERE TABLE_NAME = ? ORDER BY INDEX_NAME, SEQ_IN_INDEX")

def mariaDb : CatalogProvider where
  listPrimaryKeysSql := .byTable
    ("SELECT TABLE_SCHEMA, TABLE_NAME, COLUMN_NAME, ORDINAL_POSITION AS POSITION " ++
      "FROM INFORMATION_SCHEMA.KEY_COLUMN_USAGE " ++
      "WHERE CONSTRAINT_NAME = 'PRIMARY' AND TABLE_NAME = ? " ++
      "ORDER BY ORDINAL_POSITION")
  listForeignKeysSql := .byTable
    ("SELECT TABLE_SCHEMA, TABLE_NAME, COLUMN_NAME, " ++
      "REFERENCED_TABLE_SCHEMA AS REFERENCED_SCHEMA, " ++
      "REFERENCED_TABLE_NAME AS REFERENCED_TABLE, REFERENCED_COLUMN_NAME AS REFERENCED_COLUMN, " ++
      "ORDINAL_POSITION AS POSITION " ++
      "FROM INFORMATION_SCHEMA.KEY_COLUMN_USAGE " ++
      "WHERE REFERENCED_TABLE_NAME IS NOT NULL AND TABLE_NAME = ? " ++
      "ORDER BY ORDINAL_POSITION")
  listIndexesSql := .byTable
    ("SELECT TABLE_SCHEMA, TABLE_NAME, INDEX_NAME, COLUMN_NAME, SEQ_IN_INDEX AS COLUMN_POSITION, " ++
      "CASE WHEN NON_UNIQUE = 0 THEN 'UNIQUE' ELSE 'NON-UNIQUE' END AS DESCEND " ++
      "FROM INFORMATION_SCHEMA.STATISTICS WHERE TABLE_NAME = ? " ++
      "ORDER BY INDEX_NAME, SEQ_IN_INDEX")

def oracle : CatalogProvider where
  listColumnsSql := .checked <| .bySchema
    ("SELECT NULL AS TABLE_CATALOG, OWNER AS TABLE_SCHEMA, TABLE_NAME, " ++
      "COLUMN_NAME, COLUMN_ID AS ORDINAL_POSITION, DATA_TYPE, " ++
      "NULLABLE AS IS_NULLABLE, DATA_DEFAULT AS COLUMN_DEFAULT " ++
      "FROM ALL_TAB_COLUMNS " ++
      "WHERE TABLE_NAME = ? AND OWNER = ? " ++
      "ORDER BY COLUMN_ID")
    ("SELECT NULL AS TABLE_CATALOG, USER AS TABLE_SCHEMA, TABLE_NAME, " ++
      "COLUMN_NAME, COLUMN_ID AS ORDINAL_POSITION, DATA_TYPE, " ++
      "NULLABLE AS IS_NULLABLE, DATA_DEFAULT AS COLUMN_DEFAULT " ++
      "FROM USER_TAB_COLUMNS WHERE TABLE_NAME = ? ORDER BY COLUMN_ID")
  listPrimaryKeysSql := .bySchema
    ("SELECT cc.OWNER AS TABLE_SCHEMA, cc.TABLE_NAME, cc.COLUMN_NAME, cc.POSITION " ++
      "FROM ALL_CONSTRAINTS c " ++
      "JOIN ALL_CONS_COLUMNS cc ON c.OWNER = cc.OWNER " ++
      "AND c.CONSTRAINT_NAME = cc.CONSTRAINT_NAME " ++
      "WHERE c.CONSTRAINT_TYPE = 'P' AND c.TABLE_NAME = ? AND c.OWNER = ? " ++
      "ORDER BY cc.POSITION")
    ("SELECT USER AS TABLE_SCHEMA, cc.TABLE_NAME, cc.COLUMN_NAME, cc.POSITION " ++
      "FROM USER_CONSTRAINTS c " ++
      "JOIN USER_CONS_COLUMNS cc ON c.CONSTRAINT_NAME = cc.CONSTRAINT_NAME " ++
      "WHERE c.CONSTRAINT_TYPE = 'P' AND c.TABLE_NAME = ? " ++
      "ORDER BY cc.POSITION")
  listForeignKeysSql := .byTable
    ("SELECT a.OWNER AS TABLE_SCHEMA, a.TABLE_NAME, a.COLUMN_NAME, " ++
      "c_pk.OWNER AS REFERENCED_SCHEMA, c_pk.TABLE_NAME AS REFERENCED_TABLE, " ++
      "b.COLUMN_NAME AS REFERENCED_COLUMN, a.POSITION " ++
      "FROM ALL_CONS_COLUMNS a " ++
      "JOIN ALL_CONSTRAINTS c ON a.OWNER = c.OWNER AND a.CONSTRAINT_NAME = c.CONSTRAINT_NAME " ++
      "JOIN ALL_CONSTRAINTS c_pk ON c.R_OWNER = c_pk.OWNER " ++
      "AND c.R_CONSTRAINT_NAME = c_pk.CONSTRAINT_NAME " ++
      "JOIN ALL_CONS_COLUMNS b ON c_pk.OWNER = b.OWNER " ++
      "AND c_pk.CONSTRAINT_NAME = b.CONSTRAINT_NAME AND a.POSITION = b.POSITION " ++
      "WHERE c.CONSTRAINT_TYPE = 'R' AND a.TABLE_NAME = ? " ++
      "ORDER BY a.POSITION")
  listIndexesSql := .bySchema
    ("SELECT INDEX_OWNER AS TABLE_SCHEMA, TABLE_NAME, INDEX_NAME, COLUMN_NAME, " ++
      "COLUMN_POSITION, DESCEND " ++
      "FROM ALL_IND_COLUMNS " ++
      "WHERE TABLE_NAME = ? AND INDEX_OWNER = ? " ++
      "ORDER BY INDEX_NAME, COLUMN_POSITION")
    ("SELECT USER AS TABLE_SCHEMA, TABLE_NAME, INDEX_NAME, COLUMN_NAME, " ++
      "COLUMN_POSITION, DESCEND " ++
      "FROM USER_IND_COLUMNS WHERE TABLE_NAME = ? " ++
      "ORDER BY INDEX_NAME, COLUMN_POSITION")

/-- Db2 has its names in upper case. -/
def db2 : CatalogProvider where
  listColumnsSql := .bySchema
    ("SELECT NULL AS TABLE_CATALOG, TABSCHEMA AS TABLE_SCHEMA, TABNAME AS TABLE_NAME, " ++
      "COLNAME AS COLUMN_NAME, COLNO + 1 AS ORDINAL_POSITION, " ++
      "TYPENAME AS DATA_TYPE, NULLS AS IS_NULLABLE, DEFAULT AS COLUMN_DEFAULT " ++
      "FROM SYSCAT.COLUMNS " ++
      "WHERE TABNAME = UPPER(?) AND TABSCHEMA = UPPER(?) " ++
      "ORDER BY COLNO")
    ("SELECT NULL AS TABLE_CATALOG, TABSCHEMA AS TABLE_SCHEMA, TABNAME AS TABLE_NAME, " ++
      "COLNAME AS COLUMN_NAME, COLNO + 1 AS ORDINAL_POSITION, " ++
      "TYPENAME AS DATA_TYPE, NULLS AS IS_NULLABLE, DEFAULT AS COLUMN_DEFAULT " ++
      "FROM SYSCAT.COLUMNS WHERE TABNAME = UPPER(?) ORDER BY COLNO")
  listPrimaryKeysSql := .byTable
    ("SELECT TABSCHEMA AS TABLE_SCHEMA, TABNAME AS TABLE_NAME, COLNAME AS COLUMN_NAME, " ++
      "COLSEQ AS POSITION " ++
      "FROM SYSCAT.KEYCOLUSE WHERE CONSTNAME IN (" ++
      "SELECT CONSTNAME FROM SYSCAT.TABCONST WHERE TYPE='P' AND TABNAME=UPPER(?)" ++
      ") ORDER BY COLSEQ")
  listForeignKeysSql := .byTable
    ("SELECT r.TABSCHEMA AS TABLE_SCHEMA, r.TABNAME AS TABLE_NAME, k.COLNAME AS COLUMN_NAME, " ++
      "r.REFTABSCHEMA AS REFERENCED_SCHEMA, r.REFTABNAME AS REFERENCED_TABLE, " ++
      "pk.COLNAME AS REFERENCED_COLUMN, k.COLSEQ AS POSITION " ++
      "FROM SYSCAT.REFERENCES r " ++
      "JOIN SYSCAT.KEYCOLUSE k ON r.CONSTNAME = k.CONSTNAME AND r.TABNAME = k.TABNAME " ++
      "JOIN SYSCAT.KEYCOLUSE pk ON r.REFKEYNAME = pk.CONSTNAME AND k.COLSEQ = pk.COLSEQ " ++
      "WHERE r.TABNAME = UPPER(?) ORDER BY k.COLSEQ")
  listIndexesSql := .byTable
    ("SELECT i.TABSCHEMA AS TABLE_SCHEMA, i.TABNAME AS TABLE_NAME, i.INDNAME AS INDEX_NAME, " ++
      "c.COLNAME AS COLUMN_NAME, c.COLSEQ AS COLUMN_POSITION, " ++
      "CASE i.UNIQUERULE WHEN 'U' THEN 'UNIQUE' ELSE 'NON-UNIQUE' END AS DESCEND " ++
      "FROM SYSCAT.INDEXES i " ++
      "JOIN SYSCAT.INDEXCOLUSE c ON i.INDNAME = c.INDNAME " ++
      "WHERE i.TABNAME = UPPER(?) ORDER BY i.INDNAME, c.COLSEQ")

def snowflake : CatalogProvider where
  listPrimaryKeysSql := .byTable
    ("SELECT table_schema AS TABLE_SCHEMA, table_name AS TABLE_NAME, " ++
      "column_name AS COLUMN_NAME, key_sequence AS POSITION " ++
      "FROM INFORMATION_SCHEMA.TABLE_CONSTRAINTS tc " ++
      "JOIN INFORMATION_SCHEMA.KEY_COLUMN_USAGE kcu " ++
      "ON tc.constraint_name = kcu.constraint_name " ++
      "WHERE tc.constraint_type = 'PRIMARY KEY' AND tc.table_name = ? " ++
      "ORDER BY key_sequence")
  listForeignKeysSql := .byTable
    ("SELECT table_schema AS TABLE_SCHEMA, table_name AS TABLE_NAME, " ++
      "column_name AS COLUMN_NAME, NULL AS REFERENCED_SCHEMA, " ++
      "NULL AS REFERENCED_TABLE, NULL AS REFERENCED_COLUMN, key_sequence AS POSITION " ++
      "FROM INFORMATION_SCHEMA.KEY_COLUMN_USAGE " ++
      "WHERE table_name = ? ORDER BY key_sequence")
  -- there are no indexes that a user defines
  listIndexesSql _table _schema := .ok (.noParams
    ("SELECT NULL AS TABLE_SCHEMA, NULL AS TABLE_NAME, NULL AS INDEX_NAME, " ++
      "NULL AS COLUMN_NAME, 0 AS COLUMN_POSITION, '' AS DESCEND WHERE 1 = 0"))

def sqlite : CatalogProvider where
  listColumnsSql := .checked <| .byTableTwice
    ("SELECT NULL AS TABLE_CATALOG, NULL AS TABLE_SCHEMA, ? AS TABLE_NAME, " ++
      "name AS COLUMN_NAME, cid + 1 AS ORDINAL_POSITION, type AS DATA_TYPE, " ++
      "CASE WHEN [notnull] = 0 THEN 'YES' ELSE 'NO' END AS IS_NULLABLE, " ++
      "dflt_value AS COLUMN_DEFAULT " ++
      "FROM pragma_table_info(?) ORDER BY cid")
  listPrimaryKeysSql := .byTableTwice
    ("SELECT NULL AS TABLE_SCHEMA, ? AS TABLE_NAME, name AS COLUMN_NAME, pk AS POSITION " ++
      "FROM pragma_table_info(?) WHERE pk > 0 ORDER BY pk")
  listForeignKeysSql := .byTableTwice
    ("SELECT NULL AS TABLE_SCHEMA, ? AS TABLE_NAME, [from] AS COLUMN_NAME, " ++
      "NULL AS REFERENCED_SCHEMA, [table] AS REFERENCED_TABLE, [to] AS REFERENCED_COLUMN, " ++
      "seq AS POSITION " ++
      "FROM pragma_foreign_key_list(?) ORDER BY id, seq")
  listIndexesSql := .byTableTwice
    ("SELECT NULL AS TABLE_SCHEMA, ? AS TABLE_NAME, name AS INDEX_NAME, " ++
      "NULL AS COLUMN_NAME, seq AS COLUMN_POSITION, " ++
      "CASE WHEN [unique] = 1 THEN 'UNIQUE' ELSE 'NON-UNIQUE' END AS DESCEND " ++
      "FROM pragma_index_list(?) ORDER BY seq")

def sybase : CatalogProvider where
  listColumnsSql := .byTrimmedTable
    ("SELECT db_name() AS TABLE_CATALOG, user_name(o.uid) AS TABLE_SCHEMA, " ++
      "o.name AS TABLE_NAME, c.name AS COLUMN_NAME, c.colid AS ORDINAL_POSITION, " ++
      "type_name(c.usertype) AS DATA_TYPE, " ++
      "CASE WHEN (c.status & 8) = 0 THEN 'NO' ELSE 'YES' END AS IS_NULLABLE, " ++
      "NULL AS COLUMN_DEFAULT " ++
      "FROM sysobjects o JOIN syscolumns c ON o.id = c.id " ++
      "WHERE o.name = ? AND o.type = 'U' ORDER BY c.colid")
  listPrimaryKeysSql := .byTable
    ("SELECT user_name(o.uid) AS TABLE_SCHEMA, o.name AS TABLE_NAME, " ++
      "c.name AS COLUMN_NAME, ik.colid AS POSITION " ++
      "FROM sysobjects o " ++
      "JOIN sysindexes i ON o.id = i.id AND i.status & 2048 = 2048 " ++
      "JOIN sysindexkeys ik ON i.id = ik.id AND i.indid = ik.indid " ++
      "JOIN syscolumns c ON ik.id = c.id AND ik.colid = c.colid " ++
      "WHERE o.name = ? ORDER BY ik.colid")
  listForeignKeysSql := .byTable
    ("SELECT user_name(o.uid) AS TABLE_SCHEMA, o.name AS TABLE_NAME, " ++
      "fc.name AS COLUMN_NAME, user_name(po.uid) AS REFERENCED_SCHEMA, " ++
      "po.name AS REFERENCED_TABLE, pc.name AS REFERENCED_COLUMN, " ++
      "1 AS POSITION " ++
      "FROM sysreferences r " ++
      "JOIN sysobjects o ON r.tableid = o.id " ++
      "JOIN sysobjects po ON r.reftabid = po.id " ++
      "JOIN syscolumns fc ON r.tableid = fc.id AND r.fokey1 = fc.colid " ++
      "JOIN syscolumns pc ON r.reftabid = pc.id AND r.refkey1 = pc.colid " ++
      "WHERE o.name = ?")
  listIndexesSql := .byTable
    ("SELECT user_name(o.uid) AS TABLE_SCHEMA, o.name AS TABLE_NAME, " ++
      "i.name AS INDEX_NAME, c.name AS COLUMN_NAME, ik.colid AS COLUMN_POSITION, " ++
      "CASE WHEN i.status & 2 = 2 THEN 'UNIQUE' ELSE 'NON-UNIQUE' END AS DESCEND " ++
      "FROM sysobjects o JOIN sysindexes i ON o.id = i.id " ++
      "JOIN sysindexkeys ik ON i.id = ik.id AND i.indid = ik.indid " ++
      "JOIN syscolumns c ON ik.id = c.id AND ik.colid = c.colid " ++
      "WHERE o.name = ? AND i.indid > 0 ORDER BY i.name, ik.colid")

end CatalogProvider

def Plugin.catalogProvider : Plugin → CatalogProvider
  | .sqlServer => .sqlServer
  | .oracle => .oracle
  | .postgres => .postgres
  | .mySql => .mySql
  | .mariaDb => .mariaDb
  | .sybase => .sybase
  | .sqlite => .sqlite
  | .db2 => .db2
  | .snowflake => .snowflake

end OdbcFast.Native
