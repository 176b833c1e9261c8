import OdbcFast.Dart.Repository
import OdbcFast.Wire.Trim

/-!
# Building connection strings

Attributes are collected and written one behind the other, with semicolons between them. A value
is trimmed, and left out when nothing is left of it; else it is written as it is.
-/

namespace OdbcFast.Dart

open Wire

structure ConnectionStringBuilder where
  driver : Option (List Char) := none
  server : Option (List Char) := none
  port : Option Int := none
  database : Option (List Char) := none
  uid : Option (List Char) := none
  pwd : Option (List Char) := none
  trustedConnection : Bool := false
  /-- The entries of a map, in the order they were added in. -/
  options : List (List Char × List Char) := []

namespace ConnectionStringBuilder

variable (builder : ConnectionStringBuilder)

def setServer (value : List Char) : ConnectionStringBuilder := { builder with server := some value }

def setPort (value : Int) : ConnectionStringBuilder := { builder with port := some value }

def setDatabase (value : List Char) : ConnectionStringBuilder :=
  { builder with database := some value }

def credentials (user password : List Char) : ConnectionStringBuilder :=
  { builder with uid := some user, pwd := some password }

def trusted : ConnectionStringBuilder := { builder with trustedConnection := true }

/-- A key that is there keeps its place. -/
def option (key value : List Char) : ConnectionStringBuilder :=
  if builder.options.any (·.1 = key) then
    { builder with options := builder.options.map fun e => if e.1 = key then (key, value) else e }
  else { builder with options := builder.options ++ [(key, value)] }

/-- The part that an attribute adds. -/
def add (key : List Char) (value : Option (List Char)) : List (List Char) :=
  match value with
  | none => []
  | some value =>
    let s := trimWith isTrimmed value
    if s = [] then [] else [key ++ '=' :: s]

def build : List Char :=
  [';'].intercalate <|
    add "Driver".toList builder.driver ++ add "Server".toList builder.server ++
      add "Port".toList (builder.port.map fun port => (toString port).toList) ++
      add "Database".toList builder.database ++ add "Uid".toList builder.uid ++
      add "Pwd".toList builder.pwd ++
      (if builder.trustedConnection then ["Trusted_Connection=yes".toList] else []) ++
      builder.options.flatMap fun e => add e.1 (some e.2)

end ConnectionStringBuilder

/-! ## Builders with the defaults of a vendor -/

def sqlServerBuilder : ConnectionStringBuilder := { driver := some "\x7bSQL Server\x7d".toList }

def postgreSqlBuilder : ConnectionStringBuilder :=
  { driver := some "\x7bPostgreSQL Unicode\x7d".toList, port := some 5432 }

def mySqlBuilder : ConnectionStringBuilder :=
  { driver := some "\x7bMySQL ODBC 8.0 Driver\x7d".toList, port := some 3306 }

def mariaDbBuilder : ConnectionStringBuilder :=
  { driver := some "\x7bMariaDB ODBC 3.1 Driver\x7d".toList, port := some 3306 }

def sqliteBuilder : ConnectionStringBuilder :=
  { driver := some "\x7bSQLite3 ODBC Driver\x7d".toList }

def db2Builder : ConnectionStringBuilder :=
  { driver := some "\x7bIBM DB2 ODBC DRIVER\x7d".toList, port := some 50000 }

def snowflakeBuilder : ConnectionStringBuilder :=
  { driver := some "\x7bSnowflakeDSIIDriver\x7d".toList }

example : (((sqlServerBuilder.setServer "db".toList).credentials "sa".toList " p ".toList).option
    "Encrypt".toList "yes".toList).build =
    "Driver=\x7bSQL Server\x7d;Server=db;Uid=sa;Pwd=p;Encrypt=yes".toList := by decide

end OdbcFast.Dart
