import Mathlib.Data.List.DropRight
import OdbcFast.Native.Plugins.Upsert
import OdbcFast.Wire.Occurrences

/-!
# Rows that a statement returns

A plugin adds a clause to an `INSERT`, `UPDATE` or `DELETE`, so that the rows it has written come
back. Most engines have it at the end, Db2 selects from the statement, and SQL Server has it in
the middle, where it is looked for in the upper case of the text.
-/

namespace OdbcFast.Native

inductive DmlVerb where
  | insert
  | update
  | delete
  deriving DecidableEq, Repr

namespace Plugin

def supportsReturning : Plugin → Bool
  | .mySql | .sybase => false
  | .sqlServer | .oracle | .postgres | .mariaDb | .sqlite | .db2 | .snowflake => true

end Plugin

namespace Returning

/-! ## Texts

Places in a text are counted in characters. -/

/-- `str::trim_end_matches` of a character. -/
def trimEndMatches (c : Char) (text : List Char) : List Char := text.rdropWhile (· == c)

/-- `str::trim_end`. -/
def trimEnd (text : List Char) : List Char := text.rdropWhile isWhitespace

/-- `str::to_ascii_uppercase`. -/
def toAsciiUppercase (text : List Char) : List Char := text.map Char.toUpper

/-- `str::find`. -/
def find (pattern : String) (text : List Char) : Option Nat := Wire.firstAt pattern.toList text

/-- `str::rfind`. -/
def rfind (pattern : String) (text : List Char) : Option Nat := Wire.lastAt pattern.toList text

/-! ## The statements -/

def quoteReturningColumns (columns : List String) : Except OdbcError String :=
  if columns.isEmpty then .error (.validationError "RETURNING requires at least one column")
  else do
    let out ← columns.mapM fun c => do
      validateIdentifier c
      quoteIdentifierDefault c
    pure (", ".intercalate out)

/-- The clause at the end. -/
def atEnd (sql : List Char) (columns : List String) : Except OdbcError (List Char) := do
  let proj ← quoteReturningColumns columns
  pure (trimEndMatches ';' sql ++ s!" RETURNING {proj}".toList)

def postgres (sql : List Char) (_verb : DmlVerb) (columns : List String) :
    Except OdbcError (List Char) := atEnd sql columns

def mariaDb (sql : List Char) (_verb : DmlVerb) (columns : List String) :
    Except OdbcError (List Char) := atEnd sql columns

def sqlite (sql : List Char) (_verb : DmlVerb) (columns : List String) :
    Except OdbcError (List Char) := atEnd sql columns

def snowflake (sql : List Char) (_verb : DmlVerb) (columns : List String) :
    Except OdbcError (List Char) := atEnd sql columns

def oracle (sql : List Char) (_verb : DmlVerb) (columns : List String) :
    Except OdbcError (List Char) := do
  let proj ← quoteReturningColumns columns
  let intoVars := ", ".intercalate ((List.range columns.length).map fun i => s!":ret_{i}")
  pure (trimEndMatches ';' sql ++ s!" RETURNING {proj} INTO {intoVars}".toList)

def db2 (sql : List Char) (verb : DmlVerb) (columns : List String) :
    Except OdbcError (List Char) :=
  if verb = .delete then
    .error (.unsupportedFeature "Db2 FROM FINAL TABLE works for INSERT and UPDATE only")
  else do
    let proj ← Upsert.joinQuoted .doubleQuote id ", " columns
    pure (s!"SELECT {proj} FROM FINAL TABLE (".toList ++ trimEndMatches ';' sql ++ ")".toList)

/-- The clause between what stands in front of a place and what stands behind it. -/
def outputAt (trimmed : List Char) (cols : String) (pos : Nat) : List Char :=
  trimmed.take pos ++ s!" OUTPUT {cols}".toList ++ trimmed.drop pos

/-- The words are looked for in this order, whatever the verb is. -/
def insertOutput (trimmed : List Char) (cols : String) : List Char :=
  let upper := toAsciiUppercase trimmed
  match rfind " VALUES" upper with
  | some valuesPos => outputAt trimmed cols valuesPos
  | none =>
    match rfind " SELECT" upper with
    | some selectPos => outputAt trimmed cols selectPos
    | none =>
      match find " SET" upper with
      | some setPos =>
        match find " WHERE" (upper.drop setPos) with
        | some wherePos => outputAt trimmed cols (setPos + wherePos)
        | none => trimmed ++ s!" OUTPUT {cols}".toList
      | none =>
        if "DELETE".toList <+: upper then
          match find " WHERE" upper with
          | some wherePos => outputAt trimmed cols wherePos
          | none => trimmed ++ s!" OUTPUT {cols}".toList
        else trimmed ++ s!" OUTPUT {cols}".toList

/-- The table that the columns are read from. -/
def outputTable : DmlVerb → String
  | .insert => "INSERTED"
  | .delete => "DELETED"
  | .update => "INSERTED"

def sqlServer (sql : List Char) (verb : DmlVerb) (columns : List String) :
    Except OdbcError (List Char) := do
  let cols ← Upsert.joinQuoted .brackets (fun q => s!"{outputTable verb}.{q}") ", " columns
  pure (insertOutput (trimEnd (trimEndMatches ';' sql)) cols)

def mySql (_sql : List Char) (_verb : DmlVerb) (_columns : List String) :
    Except OdbcError (List Char) :=
  .error (.unsupportedFeature
    "MySQL does not support RETURNING; use SELECT LAST_INSERT_ID() instead")

def sybase (_sql : List Char) (_verb : DmlVerb) (_columns : List String) :
    Except OdbcError (List Char) :=
  .error (.unsupportedFeature
    "Sybase does not support RETURNING; use SELECT @@IDENTITY (ASE) instead")

end Returning

def Plugin.appendReturningClause (plugin : Plugin) (sql : List Char) (verb : DmlVerb)
    (columns : List String) : Except OdbcError (List Char) :=
  match plugin with
  | .sqlServer => Returning.sqlServer sql verb columns
  | .oracle => Returning.oracle sql verb columns
  | .postgres => Returning.postgres sql verb columns
  | .mySql => Returning.mySql sql verb columns
  | .mariaDb => Returning.mariaDb sql verb columns
  | .sybase => Returning.sybase sql verb columns
  | .sqlite => Returning.sqlite sql verb columns
  | .db2 => Returning.db2 sql verb columns
  | .snowflake => Returning.snowflake sql verb columns

end OdbcFast.Native
