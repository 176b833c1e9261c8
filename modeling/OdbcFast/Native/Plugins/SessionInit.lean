import OdbcFast.Native.Engine.Driver
import OdbcFast.Native.Engine.Identifier

/-!
# Statements behind a fresh connection

What a caller says about a session becomes statements that are run right after the connect, in
this order. Each plugin has its own, and uses the options that its engine knows. A schema whose
name is not accepted is left out.
-/

namespace OdbcFast.Native

structure SessionOptions where
  applicationName : Option String
  timezone : Option String
  charset : Option String
  schema : Option String
  /-- Statements that the caller has written. -/
  extraSql : List String
  deriving DecidableEq, Repr

namespace SessionInit

/-- `str::replace` of each single quote. -/
def replaceQuotes (replacement text : String) : String :=
  String.ofList (text.toList.flatMap fun c => if c = '\'' then replacement.toList else [c])

def removed (text : String) : String := replaceQuotes "" text

def doubled (text : String) : String := replaceQuotes "''" text

/-- The statement about an option, if it is given. -/
def given (option : Option String) (sql : String → String) : List String :=
  (option.map sql).toList

/-- The statement about a schema, if it is given and its name accepted. -/
def schemaSql (opts : SessionOptions) (style : IdentifierQuoting) (sql : String → String) :
    List String :=
  match opts.schema with
  | some schema =>
    match quoteIdentifier schema style with
    | .ok q => [sql q]
    | .error _ => []
  | none => []

def mySql (opts : SessionOptions) : List String :=
  let charset := opts.charset.getD "utf8mb4"
  [s!"SET NAMES {removed charset}"] ++
    given opts.timezone (fun tz => s!"SET time_zone = '{doubled tz}'") ++
    schemaSql opts .backtick (fun q => s!"USE {q}") ++ opts.extraSql

def mariaDb (opts : SessionOptions) : List String :=
  let charset := opts.charset.getD "utf8mb4"
  [s!"SET NAMES {removed charset}"] ++
    given opts.timezone (fun tz => s!"SET time_zone = '{doubled tz}'") ++
    schemaSql opts .backtick (fun q => s!"USE {q}") ++ opts.extraSql

def postgres (opts : SessionOptions) : List String :=
  given opts.applicationName (fun name => s!"SET application_name = '{doubled name}'") ++
    given opts.timezone (fun tz => s!"SET TIME ZONE '{doubled tz}'") ++
    schemaSql opts .doubleQuote (fun quoted => s!"SET search_path TO {quoted}") ++ opts.extraSql

/-- The statement that is built for a schema is taken back. -/
def sqlServer (opts : SessionOptions) : List String :=
  ["SET ARITHABORT ON", "SET CONCAT_NULL_YIELDS_NULL ON"] ++ opts.extraSql

def oracle (opts : SessionOptions) : List String :=
  ["ALTER SESSION SET NLS_DATE_FORMAT='YYYY-MM-DD HH24:MI:SS'",
    "ALTER SESSION SET NLS_TIMESTAMP_FORMAT='YYYY-MM-DD HH24:MI:SS.FF'",
    "ALTER SESSION SET NLS_NUMERIC_CHARACTERS='.,'"] ++
    given opts.timezone (fun tz => s!"ALTER SESSION SET TIME_ZONE='{doubled tz}'") ++
    schemaSql opts .doubleQuote (fun q => s!"ALTER SESSION SET CURRENT_SCHEMA = {q}") ++
    opts.extraSql

def db2 (opts : SessionOptions) : List String :=
  schemaSql opts .doubleQuote (fun q => s!"SET CURRENT SCHEMA = {q}") ++
    given opts.applicationName (fun name =>
      s!"CALL SYSPROC.WLM_SET_CLIENT_INFO('{doubled name}', NULL, NULL, NULL, NULL)") ++
    opts.extraSql

def snowflake (opts : SessionOptions) : List String :=
  given opts.timezone (fun tz => s!"ALTER SESSION SET TIMEZONE = '{doubled tz}'") ++
    schemaSql opts .doubleQuote (fun q => s!"USE SCHEMA {q}") ++
    given opts.applicationName (fun name => s!"ALTER SESSION SET QUERY_TAG = '{doubled name}'") ++
    opts.extraSql

def sqlite (opts : SessionOptions) : List String :=
  ["PRAGMA foreign_keys = ON", "PRAGMA journal_mode = WAL", "PRAGMA synchronous = NORMAL"] ++
    opts.extraSql

def sybase (opts : SessionOptions) : List String :=
  ["SET QUOTED_IDENTIFIER ON", "SET CHAINED OFF"] ++ opts.extraSql

end SessionInit

def Plugin.initializationSql (plugin : Plugin) (opts : SessionOptions) : List String :=
  match plugin with
  | .sqlServer => SessionInit.sqlServer opts
  | .oracle => SessionInit.oracle opts
  | .postgres => SessionInit.postgres opts
  | .mySql => SessionInit.mySql opts
  | .mariaDb => SessionInit.mariaDb opts
  | .sybase => SessionInit.sybase opts
  | .sqlite => SessionInit.sqlite opts
  | .db2 => SessionInit.db2 opts
  | .snowflake => SessionInit.snowflake opts

end OdbcFast.Native
