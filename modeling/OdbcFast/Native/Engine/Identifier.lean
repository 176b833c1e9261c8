import OdbcFast.Native.Error

/-!
# SQL identifiers

The names that callers give to savepoints, tables and columns go into statements. A name is
looked at byte by byte before that, and put between the quotes of its dialect.
-/

namespace OdbcFast.Native

def maxIdentifierLen : Nat := 128

inductive IdentifierQuoting where
  | doubleQuote
  | brackets
  | backtick
  deriving DecidableEq, Repr

def IdentifierQuoting.wrap (validated : String) : IdentifierQuoting → String
  | .doubleQuote => "\"" ++ validated ++ "\""
  | .brackets => "[" ++ validated ++ "]"
  | .backtick => "\x60" ++ validated ++ "\x60"

/-! ## How a rejected name is shown -/

/-- A character as `{:?}` prints it between such quotes. Control characters are given by their
code; every character above Latin-1 counts as printable. -/
def escapeDebug (quote c : Char) : String :=
  let code := c.toNat
  if code = 0 then "\\0"
  else if c = '\t' then "\\t"
  else if c = '\r' then "\\r"
  else if c = '\n' then "\\n"
  else if c = '\\' ∨ c = quote then "\\" ++ c.toString
  else if code < 0x20 ∨ 0x7f ≤ code ∧ code ≤ 0xa0 ∨ code = 0xad then
    "\\u\x7b" ++ String.ofList (Nat.toDigits 16 code) ++ "\x7d"
  else c.toString

def debugStr (text : String) : String :=
  "\"" ++ String.join (text.toList.map (escapeDebug '"')) ++ "\""

/-- `b as char`, shown. -/
def debugByte (byte : UInt8) : String :=
  "'" ++ escapeDebug '\'' (Char.ofNat byte.toNat) ++ "'"

/-! ## Validation -/

def isAsciiAlphabetic (byte : UInt8) : Bool :=
  0x41 ≤ byte ∧ byte ≤ 0x5a ∨ 0x61 ≤ byte ∧ byte ≤ 0x7a

def isAsciiDigit (byte : UInt8) : Bool := 0x30 ≤ byte ∧ byte ≤ 0x39

def underscore : UInt8 := 0x5f

def startsIdentifier (byte : UInt8) : Bool := isAsciiAlphabetic byte || byte == underscore

def continuesIdentifier (byte : UInt8) : Bool :=
  isAsciiAlphabetic byte || isAsciiDigit byte || byte == underscore

/-- The bytes behind the first, up to one that is not allowed. -/
def validateTail (name : String) : List UInt8 → Except OdbcError Unit
  | [] => .ok ()
  | byte :: bytes =>
    if continuesIdentifier byte then validateTail name bytes
    else .error (.validationError
      s!"Identifier {debugStr name} contains invalid character {debugByte byte}")

def validateIdentifier (name : String) : Except OdbcError Unit :=
  match name.toUTF8.toList with
  | [] => .error (.validationError "Identifier must not be empty")
  | first :: rest =>
    if (first :: rest).length > maxIdentifierLen then
      .error (.validationError s!"Identifier exceeds {maxIdentifierLen} characters")
    else if startsIdentifier first then validateTail name rest
    else .error (.validationError
      s!"Identifier {debugStr name} must start with ASCII letter or underscore")

def quoteIdentifier (name : String) (style : IdentifierQuoting) : Except OdbcError String := do
  validateIdentifier name
  pure (style.wrap name)

def quoteIdentifierDefault (name : String) : Except OdbcError String :=
  quoteIdentifier name .doubleQuote

/-- `str::split` at dots; there is always a part. -/
def dotParts (qualified : String) : List String :=
  (qualified.toList.splitOn '.').map String.ofList

/-- A name with dots, part by part. -/
def quoteQualifiedDefault (qualified : String) : Except OdbcError String := do
  let quoted ← (dotParts qualified).mapM quoteIdentifierDefault
  pure (".".intercalate quoted)

/-- `quote_table_brackets` of the SQL Server plugin. -/
def quoteTableBrackets (table : String) : Except OdbcError String := do
  let parts ← (dotParts table).mapM fun seg => do
    validateIdentifier seg
    quoteIdentifier seg .brackets
  pure (".".intercalate parts)

end OdbcFast.Native
