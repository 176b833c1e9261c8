import OdbcFast.Native.Engine.OptimizeQuery
import OdbcFast.Native.Engine.XaTransaction
import OdbcFast.Native.Security.Sanitize

/-!
# Which engine a driver is for

The engine is told by the words of a text: the name that a server gives, the label of a driver, or
a whole connection string. The words are looked for in a fixed order.
-/

namespace OdbcFast.Native.Engine


/-- `char::to_lowercase`. Beyond ASCII two letters have an ASCII letter in their lower case: the
Kelvin sign and the capital I with a dot. The others are left as they are, since no word below has
one of them. -/
def lowerChar (c : Char) : List Char :=
  if c = Char.ofNat 0x212a then ['k']
  else if c = Char.ofNat 0x130 then ['i', Char.ofNat 0x307]
  else [c.toLower]

def lowercase (text : List Char) : List Char := text.flatMap lowerChar

structure DriverCapabilities where
  supportsPreparedStatements : Bool := true
  supportsBatchOperations : Bool := true
  supportsStreaming : Bool := true
  maxRowArraySize : Nat := 1000
  driverName : String := "Unknown"
  driverVersion : String := "Unknown"
  engine : EngineId := .unknown
  deriving DecidableEq, Repr

namespace DriverCapabilities

/-- More specific names come first. -/
def engineFromName (lower : List Char) : EngineId :=
  if contains "sql anywhere" lower ∨ contains "adaptive server anywhere" lower ∨
      contains "asa" lower ∧ (contains "sybase" lower ∨ contains "sql anywhere" lower) then
    .sybaseAsa
  else if contains "adaptive server enterprise" lower ∨
      contains "ase" lower ∧ (contains "sybase" lower ∨ contains "adaptive" lower) then
    .sybaseAse
  else if contains "sybase" lower then .sybaseAse
  else if contains "mariadb" lower then .mariaDb
  else if contains "microsoft sql server" lower ∨ contains "sql server" lower ∨
      contains "mssql" lower ∨ lower = "sqlserver".toList ∨ contains "sqlsrv32" lower then
    .sqlServer
  else if contains "postgresql" lower ∨ contains "postgres" lower then .postgres
  else if contains "mysql" lower then .mySql
  else if contains "oracle" lower then .oracle
  else if contains "sqlite" lower then .sqlite
  else if lower = "db2".toList ∨ contains " db2" lower ∨ contains "ibm db2" lower ∨
      contains "db2/" lower then
    .db2
  else if contains "snowflake" lower then .snowflake
  else if contains "redshift" lower then .redshift
  else if contains "bigquery" lower then .bigQuery
  else if contains "mongodb" lower then .mongoDb
  else .unknown

def canonical (engine : EngineId) (display : String) (maxArray : Nat) : DriverCapabilities where
  maxRowArraySize := maxArray
  driverName := display
  engine := engine

def fromDriverName (driverName : List Char) : DriverCapabilities :=
  match engineFromName (lowercase (Native.trim driverName)) with
  | .sqlServer => canonical .sqlServer "SQL Server" 2000
  | .postgres => canonical .postgres "PostgreSQL" 2000
  | .mySql => canonical .mySql "MySQL" 1500
  | .mariaDb => canonical .mariaDb "MariaDB" 1500
  | .oracle => canonical .oracle "Oracle" 5000
  | .sybaseAse => canonical .sybaseAse "Adaptive Server Enterprise" 1000
  | .sybaseAsa => canonical .sybaseAsa "SQL Anywhere" 1000
  | .sqlite => canonical .sqlite "SQLite" 1000
  | .db2 => canonical .db2 "IBM Db2" 1000
  | .snowflake => canonical .snowflake "Snowflake" 1000
  | .redshift => canonical .redshift "Amazon Redshift" 1000
  | .bigQuery => canonical .bigQuery "Google BigQuery" 1000
  | .mongoDb => canonical .mongoDb "MongoDB" 1000
  | .unknown => {}

/-- The whole string is searched. -/
def detectFromConnectionString (connectionString : List Char) : DriverCapabilities :=
  let engine := engineFromName (lowercase connectionString)
  if engine = .unknown then {} else fromDriverName engine.text.toList

end DriverCapabilities

end OdbcFast.Native.Engine
