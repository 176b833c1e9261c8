import OdbcFast.Native.Security.Sanitize
import OdbcFast.Wire.Utf8

/-!
# The audit log

The log keeps what was asked of it while it is enabled, the latest ten thousand events at most.
The connection strings in it are shown without their secrets.

Other logs show a statement with a question mark for every literal text and number. It is read
byte by byte, and a digit in a name or a comment begins a number as any other does.
-/

namespace OdbcFast.Native

open Wire

structure AuditEvent where
  timestamp : Nat
  eventType : String
  connectionId : Option Nat
  query : Option String
  metadata : List (String × List Char)
  deriving DecidableEq, Repr

structure AuditLogger where
  events : List AuditEvent
  enabled : Bool

namespace AuditLogger

def maxEvents : Nat := 10000

/-- `events.push(event)`, and `events.remove(0)` where there are too many. -/
def push (logger : AuditLogger) (event : AuditEvent) : AuditLogger :=
  if logger.enabled then
    { logger with
      events :=
        if maxEvents < (logger.events ++ [event]).length then (logger.events ++ [event]).drop 1
        else logger.events ++ [event] }
  else logger

def logConnection (logger : AuditLogger) (now connectionId : Nat) (connectionString : List Char) :
    AuditLogger :=
  logger.push ⟨now, "connection", some connectionId, none,
    [("connection_string", sanitizeConnectionString connectionString)]⟩

def logQuery (logger : AuditLogger) (now connectionId : Nat) (query : String) : AuditLogger :=
  logger.push ⟨now, "query", some connectionId, some query, []⟩

def logError (logger : AuditLogger) (now : Nat) (connectionId : Option Nat) (error : List Char) :
    AuditLogger :=
  logger.push ⟨now, "error", connectionId, none, [("error", error)]⟩

def getEvents (logger : AuditLogger) (limit : Nat) : List AuditEvent :=
  logger.events.reverse.take limit

end AuditLogger

/-- The line that `StructuredLogger::log_connection` writes. -/
def connectionMessage (action connectionString : List Char) : List Char :=
  "Connection ".toList ++ action ++ ": ".toList ++ sanitizeConnectionString connectionString

/-! ### Statements -/

/-- What stands behind the end of a literal. Two apostrophes do not end it. -/
def skipLiteral : Bytes → Bytes
  | [] | [_] => []
  | b :: c :: rest =>
    if b = 0x27 then if c = 0x27 then skipLiteral rest else c :: rest
    else skipLiteral (c :: rest)

def isDigitByte (b : UInt8) : Bool := 0x30 ≤ b ∧ b ≤ 0x39

/-- A byte with which a number goes on. -/
def isNumberByte (b : UInt8) : Bool := isDigitByte b || b ∈ [0x2e, 0x65, 0x45, 0x2b, 0x2d]

theorem length_skipLiteral_le (text : Bytes) : (skipLiteral text).length ≤ text.length := by
  induction text using skipLiteral.induct with
  | case1 => exact Nat.le_refl _
  | case2 b => exact Nat.zero_le _
  | case3 rest ih =>
      rw [skipLiteral, if_pos rfl, if_pos rfl]
      exact ih.trans (Nat.le_add_right _ 2)
  | case4 c rest other =>
      rw [skipLiteral, if_pos rfl, if_neg other]
      exact Nat.le_succ _
  | case5 b c rest other ih =>
      rw [skipLiteral, if_neg other]
      exact ih.trans (Nat.le_succ _)

/-- The scan of `sanitize_sql_for_log`. A byte is pushed as a character of its own. -/
def sanitizeSqlBytes : Bytes → List Char
  | [] => []
  | b :: rest =>
    if b = 0x27 then '?' :: sanitizeSqlBytes (skipLiteral rest)
    else if isDigitByte b then '?' :: sanitizeSqlBytes (rest.dropWhile isNumberByte)
    else Char.ofNat b.toNat :: sanitizeSqlBytes rest
termination_by text => text.length
decreasing_by
  · exact Nat.lt_succ_of_le (length_skipLiteral_le rest)
  · exact Nat.lt_succ_of_le (List.dropWhile_sublist _).length_le
  · exact Nat.lt_succ_self _

/-- `sanitize_sql_for_log`, with what `ODBC_FAST_LOG_RAW_SQL` is set to. -/
def sanitizeSqlForLog (logRawSql : Option String) (sql : String) : String :=
  if logRawSql = some "1" then sql else String.ofList (sanitizeSqlBytes (utf8Bytes sql))

/-- The line that `StructuredLogger::log_query` writes, with the metadata in some order. -/
def queryMessage (logRawSql : Option String) (query : String) (metadata : List (String × String)) :
    String :=
  metadata.foldl (fun message (key, value) => message ++ s!", {key}={value}")
    ("Query: " ++ sanitizeSqlForLog logRawSql query)

end OdbcFast.Native
