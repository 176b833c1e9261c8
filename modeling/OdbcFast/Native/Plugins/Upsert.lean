import OdbcFast.Native.Engine.Driver
import OdbcFast.Native.Engine.Identifier
import OdbcFast.Native.Security.Sanitize

/-!
# Inserting or updating

A plugin builds one statement that inserts a row or, where there is one with the same key, updates
it. The names in it are validated first, and each is put between the quotes of some style. The
values are given by placeholders.
-/

namespace OdbcFast.Native

namespace Plugin

def quotingStyle : Plugin → IdentifierQuoting
  | .mySql | .mariaDb => .backtick
  | .sqlServer | .sybase => .brackets
  | .postgres | .oracle | .sqlite | .db2 | .snowflake => .doubleQuote

end Plugin

namespace Upsert

/-! ## What the plugins share -/

/-- Each name is quoted and written in its place; the items are joined. -/
def joinQuoted (style : IdentifierQuoting) (item : String → String) (separator : String)
    (names : List String) : Except OdbcError String := do
  let items ← names.mapM fun name => do
    let q ← quoteIdentifier name style
    pure (item q)
  pure (separator.intercalate items)

def quoteColumns (columns : List String) : Except OdbcError String :=
  if columns.isEmpty then .error (.validationError "Upsert requires at least one column")
  else joinQuoted .doubleQuote id ", " columns

def effectiveUpdateColumns (columns conflictColumns : List String)
    (updateColumns : Option (List String)) : List String :=
  match updateColumns with
  | some explicit => explicit
  | none => columns.filter fun c => ¬ conflictColumns.contains c

def validateUpsertInputs (table : String) (columns conflictColumns : List String)
    (updateColumns : Option (List String)) : Except OdbcError Unit :=
  if trim table.toList = [] then .error (.validationError "Upsert table must not be empty")
  else do
    (dotParts table).forM validateIdentifier
    if columns.isEmpty then .error (.validationError "Upsert requires at least one column")
    else if conflictColumns.isEmpty then
      .error (.validationError "Upsert requires at least one conflict column")
    else do
      (columns ++ conflictColumns).forM validateIdentifier
      (updateColumns.getD []).forM validateIdentifier
      conflictColumns.forM fun cc =>
        if columns.contains cc then .ok ()
        else .error (.validationError
          s!"Conflict column {debugStr cc} must also appear in \x60columns\x60")

def placeholderList (n : Nat) : String := ", ".intercalate (List.replicate n "?")

/-! ## The statements -/

/-- `ON CONFLICT`, with what is written for a column to update. -/
def onConflict (set : String → String) (table : String) (columns conflictColumns : List String)
    (updateColumns : Option (List String)) : Except OdbcError String := do
  validateUpsertInputs table columns conflictColumns updateColumns
  let qtable ← quoteQualifiedDefault table
  let qcols ← quoteColumns columns
  let qconflict ← quoteColumns conflictColumns
  let updates := effectiveUpdateColumns columns conflictColumns updateColumns
  let placeholders := placeholderList columns.length
  if updates.isEmpty then
    pure (s!"INSERT INTO {qtable} ({qcols}) VALUES ({placeholders}) " ++
      s!"ON CONFLICT ({qconflict}) DO NOTHING")
  else
    let setClause ← joinQuoted .doubleQuote set ", " updates
    pure (s!"INSERT INTO {qtable} ({qcols}) VALUES ({placeholders}) " ++
      s!"ON CONFLICT ({qconflict}) DO UPDATE SET {setClause}")

def postgres := onConflict fun q => s!"{q} = EXCLUDED.{q}"

def sqlite := onConflict fun q => s!"{q} = excluded.{q}"

def mySql (table : String) (columns conflictColumns : List String)
    (updateColumns : Option (List String)) : Except OdbcError String := do
  validateUpsertInputs table columns conflictColumns updateColumns
  let qtable ← quoteQualifiedDefault table
  let qcols ← quoteColumns columns
  let updates := effectiveUpdateColumns columns conflictColumns updateColumns
  let placeholders := placeholderList columns.length
  if updates.isEmpty then
    .error (.validationError
      "MySQL ON DUPLICATE KEY UPDATE requires at least one column to update")
  else
    let setClause ← joinQuoted .backtick (fun q => s!"{q} = VALUES({q})") ", " updates
    pure (s!"INSERT INTO {qtable} ({qcols}) VALUES ({placeholders}) " ++
      s!"ON DUPLICATE KEY UPDATE {setClause}")

/-- Where there is nothing to update, a column `id` is set to itself. -/
def mariaDb (table : String) (columns conflictColumns : List String)
    (updateColumns : Option (List String)) : Except OdbcError String := do
  validateUpsertInputs table columns conflictColumns updateColumns
  let qtable ← quoteQualifiedDefault table
  let qcols ← quoteColumns columns
  let updates := effectiveUpdateColumns columns conflictColumns updateColumns
  let placeholders := placeholderList columns.length
  let setParts ← joinQuoted .backtick (fun q => s!"{q} = VALUES({q})") ", " updates
  let setClause := if updates.isEmpty then "id = id" else setParts
  pure (s!"INSERT INTO {qtable} ({qcols}) VALUES ({placeholders}) " ++
    s!"ON DUPLICATE KEY UPDATE {setClause}")

/-- What a `MERGE` does with a row that is there. -/
def whenMatched (style : IdentifierQuoting) (item : String → String) (updates : List String) :
    Except OdbcError String := do
  if updates.isEmpty then pure ""
  else
    let set ← joinQuoted style item ", " updates
    pure s!" WHEN MATCHED THEN UPDATE SET {set}"

def oracle (table : String) (columns conflictColumns : List String)
    (updateColumns : Option (List String)) : Except OdbcError String := do
  validateUpsertInputs table columns conflictColumns updateColumns
  let qtable ← quoteQualifiedDefault table
  let source ← joinQuoted .doubleQuote (fun q => s!"? {q}") ", " columns
  let onClause ← joinQuoted .doubleQuote (fun q => s!"t.{q} = s.{q}") " AND " conflictColumns
  let updates := effectiveUpdateColumns columns conflictColumns updateColumns
  let matched ← whenMatched .doubleQuote (fun q => s!"t.{q} = s.{q}") updates
  let insertCols ← joinQuoted .doubleQuote id ", " columns
  let insertVals ← joinQuoted .doubleQuote (fun q => s!"s.{q}") ", " columns
  pure (s!"MERGE INTO {qtable} t USING (SELECT {source} FROM dual) s ON ({onClause})" ++
    s!"{matched} WHEN NOT MATCHED THEN INSERT ({insertCols}) VALUES ({insertVals})")

def snowflake (table : String) (columns conflictColumns : List String)
    (updateColumns : Option (List String)) : Except OdbcError String := do
  validateUpsertInputs table columns conflictColumns updateColumns
  let qtable ← quoteQualifiedDefault table
  let source ← joinQuoted .doubleQuote (fun q => s!"? AS {q}") ", " columns
  let onClause ← joinQuoted .doubleQuote (fun q => s!"t.{q} = s.{q}") " AND " conflictColumns
  let updates := effectiveUpdateColumns columns conflictColumns updateColumns
  let matched ← whenMatched .doubleQuote (fun q => s!"t.{q} = s.{q}") updates
  let insertCols ← joinQuoted .doubleQuote id ", " columns
  let insertVals ← joinQuoted .doubleQuote (fun q => s!"s.{q}") ", " columns
  pure (s!"MERGE INTO {qtable} t USING (SELECT {source}) s ON {onClause}" ++
    s!"{matched} WHEN NOT MATCHED THEN INSERT ({insertCols}) VALUES ({insertVals})")

def db2 (table : String) (columns conflictColumns : List String)
    (updateColumns : Option (List String)) : Except OdbcError String := do
  validateUpsertInputs table columns conflictColumns updateColumns
  let qtable ← quoteQualifiedDefault table
  let placeholders := placeholderList columns.length
  let aliasCols ← joinQuoted .doubleQuote id ", " columns
  let onClause ← joinQuoted .doubleQuote (fun q => s!"t.{q} = s.{q}") " AND " conflictColumns
  let updates := effectiveUpdateColumns columns conflictColumns updateColumns
  let matched ← whenMatched .doubleQuote (fun q => s!"{q} = s.{q}") updates
  let insertVals ← joinQuoted .doubleQuote (fun q => s!"s.{q}") ", " columns
  pure (s!"MERGE INTO {qtable} t USING (VALUES ({placeholders})) AS s({aliasCols}) " ++
    s!"ON {onClause}{matched} WHEN NOT MATCHED THEN INSERT ({aliasCols}) VALUES ({insertVals})")

/-- SQL Server wants a `MERGE` to end with a semicolon. -/
def sqlServer (table : String) (columns conflictColumns : List String)
    (updateColumns : Option (List String)) : Except OdbcError String := do
  validateUpsertInputs table columns conflictColumns updateColumns
  let qtable ← quoteTableBrackets table
  let qcols ← joinQuoted .brackets id ", " columns
  let aliasList ← joinQuoted .brackets (fun q => s!"? AS {q}") ", " columns
  let onClause ← joinQuoted .brackets (fun q => s!"t.{q} = s.{q}") " AND " conflictColumns
  let updates := effectiveUpdateColumns columns conflictColumns updateColumns
  let setClause ← if updates.isEmpty then pure ""
    else joinQuoted .brackets (fun q => s!"t.{q} = s.{q}") ", " updates
  let insertVals ← joinQuoted .brackets (fun q => s!"s.{q}") ", " columns
  let matched := if setClause.isEmpty then "" else s!" WHEN MATCHED THEN UPDATE SET {setClause}"
  pure (s!"MERGE INTO {qtable} AS t USING (SELECT {aliasList}) AS s ON {onClause}" ++
    s!"{matched} WHEN NOT MATCHED THEN INSERT ({qcols}) VALUES ({insertVals});")

end Upsert

def Plugin.buildUpsertSql (plugin : Plugin) (table : String)
    (columns conflictColumns : List String) (updateColumns : Option (List String)) :
    Except OdbcError String :=
  match plugin with
  | .sqlServer => Upsert.sqlServer table columns conflictColumns updateColumns
  | .oracle => Upsert.oracle table columns conflictColumns updateColumns
  | .postgres => Upsert.postgres table columns conflictColumns updateColumns
  | .mySql => Upsert.mySql table columns conflictColumns updateColumns
  | .mariaDb => Upsert.mariaDb table columns conflictColumns updateColumns
  | .sqlite => Upsert.sqlite table columns conflictColumns updateColumns
  | .db2 => Upsert.db2 table columns conflictColumns updateColumns
  | .snowflake => Upsert.snowflake table columns conflictColumns updateColumns
  | .sybase => .error (.unsupportedFeature
      ("Generic Sybase plugin does not implement UPSERT; use SybaseAsaPlugin (MERGE-capable) " ++
        "when targeting SQL Anywhere"))

end OdbcFast.Native
