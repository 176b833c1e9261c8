import OdbcFast.Dart.ParamValue
import OdbcFast.Native.Protocol.BulkInsert
import OdbcFast.Wire.Numeral

/-!
# The bulk-insert builder

`BulkInsertBuilder` collects a table's name, column declarations and rows, and `build` writes
them as a bulk-insert payload. `addRow` checks each value against its column; of the types
with a width only texts are checked against it, and only when it is positive. `build` cuts
every text, decimal or binary cell to its width, which is one where none is declared.

A row is a list of arbitrary objects. An object is known by what the builder asks of it: its
kind, the text `'$v'` and the name of its type.
-/

namespace OdbcFast.Dart

open Wire

inductive BulkColumnType where
  | i32
  | i64
  | text
  | decimal
  | binary
  | timestamp
  deriving DecidableEq, Repr

def BulkColumnType.tag : BulkColumnType → UInt8
  | i32 => 0
  | i64 => 1
  | text => 2
  | decimal => 3
  | binary => 4
  | timestamp => 5

structure BulkColumnSpec where
  name : String
  colType : BulkColumnType
  nullable : Bool := false
  maxLen : Int := 0
  deriving DecidableEq, Repr

structure BulkTimestamp where
  year : Int
  month : Int
  day : Int
  hour : Int
  minute : Int
  second : Int
  fraction : Int := 0
  deriving DecidableEq, Repr

structure DateTime where
  year : Int
  month : Int
  day : Int
  hour : Int
  minute : Int
  second : Int
  millisecond : Int
  microsecond : Int
  /-- What `toString` gives. -/
  text : String
  deriving DecidableEq, Repr

def BulkTimestamp.fromDateTime (dt : DateTime) : BulkTimestamp where
  year := dt.year
  month := dt.month
  day := dt.day
  hour := dt.hour
  minute := dt.minute
  second := dt.second
  fraction := dt.millisecond * 1000000 + dt.microsecond

/-- An object in a row. An `int` has 64 bits. -/
inductive BulkValue where
  | null
  | int (value : Int64)
  | double (text : String)
  | string (value : String)
  /-- A `List<int>`, for instance a `Uint8List`. -/
  | bytes (elements : List Int) (runtimeType : String)
  | dateTime (dt : DateTime)
  | timestamp (t : BulkTimestamp)
  | other (text runtimeType : String)
  deriving DecidableEq, Repr

namespace BulkValue

/-- The text of `'$v'`. -/
def display : BulkValue → String
  | null => "null"
  | int value => toString value.toInt
  | double text => text
  | string value => value
  | bytes elements _ => "[" ++ ", ".intercalate (elements.map toString) ++ "]"
  | dateTime dt => dt.text
  | timestamp _ => "Instance of 'BulkTimestamp'"
  | other text _ => text

def runtimeType : BulkValue → String
  | null => "Null"
  | int _ => "int"
  | double _ => "double"
  | string _ => "String"
  | bytes _ runtimeType => runtimeType
  | dateTime _ => "DateTime"
  | timestamp _ => "BulkTimestamp"
  | other _ runtimeType => runtimeType

end BulkValue

/-- What the builder throws. -/
inductive BuilderError where
  | stateError (message : String)
  | argumentError (message : String)
  | rangeError
  deriving DecidableEq, Repr

/-! ## Checking a row -/

def nullabilityError (columnName : String) (rowNumber : Nat) : BuilderError :=
  .stateError (s!"Column \"{columnName}\" is non-nullable but contains null " ++
    s!"at row {rowNumber}. " ++ "Use nullable: true for columns that should accept null.")

/-- `String.length`, in UTF-16 code units. -/
def utf16Length (text : String) : Nat :=
  (text.toList.map fun c => if c.toNat < 0x10000 then 1 else 2).sum

def validateTextColumn (value : String) (spec : BulkColumnSpec) (rowNumber : Nat) :
    Except BuilderError Unit :=
  let length := utf16Length value
  let utf8Length := (utf8Bytes value).length
  if spec.maxLen > 0 ∧ (length : Int) > spec.maxLen then
    .error (.argumentError (s!"Column \"{spec.name}\" exceeds max length {spec.maxLen} " ++
      s!"(got {length} characters) at row {rowNumber}."))
  else if spec.maxLen > 0 ∧ (utf8Length : Int) > spec.maxLen then
    .error (.argumentError
      (s!"Column \"{spec.name}\" UTF-8 encoding exceeds max length {spec.maxLen} " ++
        s!"(got {utf8Length} bytes) at row {rowNumber}."))
  else .ok ()

/-- A value of the wrong kind. -/
def kindError (expects : String) (value : BulkValue) (spec : BulkColumnSpec) (rowNumber : Nat) :
    BuilderError :=
  .argumentError (s!"Column \"{spec.name}\" expects {expects} but got {value.display} " ++
    s!"({value.runtimeType}) at row {rowNumber}.")

def validateValueForColumn (value : BulkValue) (spec : BulkColumnSpec) (rowNumber : Nat) :
    Except BuilderError Unit :=
  match spec.colType, value with
  | _, .null => if spec.nullable then .ok () else .error (nullabilityError spec.name rowNumber)
  | .i32, .int v =>
    if v.toInt < -0x80000000 ∨ v.toInt > 0x7FFFFFFF then
      .error (kindError "i32 value" value spec rowNumber)
    else .ok ()
  | .i32, _ => .error (kindError "i32 value" value spec rowNumber)
  | .i64, .int _ => .ok ()
  | .i64, _ => .error (kindError "i64 value" value spec rowNumber)
  | .text, .string text => validateTextColumn text spec rowNumber
  | .text, _ => .error (kindError "text value" value spec rowNumber)
  | .decimal, .string _ | .decimal, .int _ | .decimal, .double _ => .ok ()
  | .decimal, _ => .error (kindError "decimal (num/string)" value spec rowNumber)
  | .binary, .bytes _ _ => .ok ()
  | .binary, _ => .error (kindError "binary data" value spec rowNumber)
  | .timestamp, .dateTime _ | .timestamp, .timestamp _ => .ok ()
  | .timestamp, _ =>
    .error (kindError "timestamp (DateTime/BulkTimestamp)" value spec rowNumber)

structure BulkInsertBuilder where
  tableName : String := ""
  columns : List BulkColumnSpec := []
  rows : List (List BulkValue) := []
  deriving DecidableEq, Repr

namespace BulkInsertBuilder

def table (name : String) (builder : BulkInsertBuilder) : BulkInsertBuilder :=
  { builder with tableName := name }

def addColumn (spec : BulkColumnSpec) (builder : BulkInsertBuilder) : BulkInsertBuilder :=
  { builder with columns := builder.columns ++ [spec] }

def addRow (values : List BulkValue) (builder : BulkInsertBuilder) :
    Except BuilderError BulkInsertBuilder :=
  if builder.columns.isEmpty then .error (.stateError "Add columns before rows")
  else if values.length ≠ builder.columns.length then
    .error (.argumentError
      s!"Row length {values.length} != column count {builder.columns.length}")
  else do
    let rowNumber := builder.rows.length + 1
    let _ ← (values.zip builder.columns).mapM fun (value, spec) =>
      validateValueForColumn value spec rowNumber
    .ok { builder with rows := builder.rows ++ [values] }

end BulkInsertBuilder

/-! ## Writing a column -/

def nullBitmapSize (rowCount : Nat) : Nat := Bitmap.size rowCount

def setNullAt (bitmap : Bytes) (row : Nat) : Bytes := Bitmap.set bitmap row

/-- The loop that marks the nulls of a column, from row `r` on. -/
def markNulls : Nat → List BulkValue → Bytes → Bytes
  | _, [], bitmap => bitmap
  | r, value :: values, bitmap =>
    markNulls (r + 1) values (if value = .null then setNullAt bitmap r else bitmap)

def nullBitmapOf (values : List BulkValue) : Bytes :=
  markNulls 0 values (List.replicate (nullBitmapSize values.length) 0)

def isDartWhitespace (c : Char) : Bool :=
  (9 ≤ c.toNat && c.toNat ≤ 13) || (0x2000 ≤ c.toNat && c.toNat ≤ 0x200A) ||
    [0x20, 0x85, 0xA0, 0x1680, 0x2028, 0x2029, 0x202F, 0x205F, 0x3000, 0xFEFF].contains c.toNat

def hexDigit? (c : Char) : Option Nat :=
  if '0' ≤ c ∧ c ≤ '9' then some (c.toNat - 48)
  else if 'a' ≤ c ∧ c ≤ 'f' then some (c.toNat - 87)
  else if 'A' ≤ c ∧ c ≤ 'F' then some (c.toNat - 55)
  else none

/-- The digits behind `0x`, of which there is at least one. -/
def hexValue? : List Char → Option Nat
  | [] => none
  | digits => digits.foldlM (fun n c => (hexDigit? c).map (n * 16 + ·)) 0

/-- `int.tryParse`: a decimal numeral, or a hexadecimal one that may wrap around. -/
def intTryParse (text : String) : Option Int :=
  let chars := ((text.toList.dropWhile isDartWhitespace).reverse.dropWhile isDartWhitespace).reverse
  let (sign, body) : Int × List Char := match chars with
    | '-' :: cs => (-1, cs)
    | '+' :: cs => (1, cs)
    | cs => (1, cs)
  match body with
  | '0' :: 'x' :: digits | '0' :: 'X' :: digits =>
    (hexValue? digits).bind fun n =>
      if n < 2 ^ 64 then some (Int64.ofInt (sign * n)).toInt else none
  | _ => Numeral.parseInt (-2 ^ 63) (2 ^ 63 - 1) chars

/-- The number that is written; `addRow` lets nothing but integers and nulls through. -/
def intOf : BulkValue → Int
  | .null => 0
  | .int value => value.toInt
  | value => (intTryParse value.display).getD 0

/-- `setUint32`, which stores the low 32 bits. -/
def u32LeOfInt (v : Int) : Bytes := toLeBytes 4 (v % 2 ^ 32).toNat

/-- `setInt16` and `setUint16`. -/
def u16LeOfInt (v : Int) : Bytes := toLeBytes 2 (v % 2 ^ 16).toNat

def rawText : BulkValue → Bytes
  | .null => []
  | value => utf8Bytes value.display

/-- `Uint8List.fromList` keeps the low eight bits. -/
def byteOf (element : Int) : UInt8 := .ofNat (element % 256).toNat

def elementBytes : BulkValue → Bytes
  | .bytes elements _ => elements.map byteOf
  | _ => []

def timestampOf : BulkValue → BulkTimestamp
  | .dateTime dt => .fromDateTime dt
  | .timestamp t => t
  | _ => ⟨0, 0, 0, 0, 0, 0, 0⟩

def timestampLe (t : BulkTimestamp) : Bytes :=
  u16LeOfInt t.year ++ u16LeOfInt t.month ++ u16LeOfInt t.day ++ u16LeOfInt t.hour ++
    u16LeOfInt t.minute ++ u16LeOfInt t.second ++ u32LeOfInt t.fraction

/-- Cut to the width or filled up with zeros. -/
def paddedTo (maxLen : Nat) (raw : Bytes) : Bytes :=
  let len := min raw.length maxLen
  raw.take len ++ List.replicate (maxLen - len) 0

def serializeColumn (spec : BulkColumnSpec) (values : List BulkValue) : Bytes :=
  let maxLen := if spec.maxLen > 0 then spec.maxLen.toNat else 1
  let nullBitmap := if spec.nullable then nullBitmapOf values else []
  nullBitmap ++ match spec.colType with
  | .i32 => values.flatMap fun value => i32Le (intOf value)
  | .i64 => values.flatMap fun value => i64Le (intOf value)
  | .text | .decimal => values.flatMap fun value => paddedTo maxLen (rawText value)
  | .binary => values.flatMap fun value => paddedTo maxLen (elementBytes value)
  | .timestamp => values.flatMap fun value => timestampLe (timestampOf value)

def columnSpecBytes (spec : BulkColumnSpec) : Bytes :=
  u32Le (utf8Bytes spec.name).length ++ utf8Bytes spec.name ++ [spec.colType.tag] ++
    [if spec.nullable then 1 else 0] ++ u32LeOfInt spec.maxLen

namespace BulkInsertBuilder

/-- `_rows[r][c]` for every row. -/
def columnValues (c : Nat) (builder : BulkInsertBuilder) : Except BuilderError (List BulkValue) :=
  builder.rows.mapM fun row => match row[c]? with
    | some value => .ok value
    | none => .error .rangeError

/-- The rows could have been changed since they were added. -/
def checkNulls (builder : BulkInsertBuilder) : Except BuilderError Unit := do
  let _ ← builder.columns.zipIdx.mapM fun (spec, c) =>
    if spec.nullable then .ok []
    else builder.rows.zipIdx.mapM fun (row, r) => match row[c]? with
      | none => .error .rangeError
      | some .null => .error (nullabilityError spec.name (r + 1))
      | some _ => .ok ()
  .ok ()

def build (builder : BulkInsertBuilder) : Except BuilderError Bytes :=
  if builder.tableName.isEmpty then .error (.stateError "Table name required")
  else if builder.columns.isEmpty then .error (.stateError "At least one column required")
  else if builder.rows.isEmpty then .error (.stateError "At least one row required")
  else do
    builder.checkNulls
    let blocks ← builder.columns.zipIdx.mapM fun (spec, c) => do
      let values ← builder.columnValues c
      .ok (serializeColumn spec values)
    .ok (u32Le (utf8Bytes builder.tableName).length ++ utf8Bytes builder.tableName ++
      u32Le builder.columns.length ++ builder.columns.flatMap columnSpecBytes ++
      u32Le builder.rows.length ++ blocks.flatten)

end BulkInsertBuilder

/-! ## In the engine's terms -/

def BulkColumnType.toNative : BulkColumnType → Native.BulkColumnType
  | i32 => .i32
  | i64 => .i64
  | text => .text
  | decimal => .decimal
  | binary => .binary
  | timestamp => .timestamp

theorem BulkColumnType.tag_toNative (colType : BulkColumnType) :
    colType.toNative.toTag = colType.tag := by
  cases colType <;> rfl

def BulkColumnSpec.toNative (spec : BulkColumnSpec) : Native.BulkColumnSpec where
  name := spec.name
  colType := spec.colType.toNative
  nullable := spec.nullable
  maxLen := spec.maxLen.toNat

/-- Fields that are too large are cut down to their width. -/
def BulkTimestamp.toNative (t : BulkTimestamp) : Native.BulkTimestamp where
  year := .ofInt t.year
  month := .ofInt t.month
  day := .ofInt t.day
  hour := .ofInt t.hour
  minute := .ofInt t.minute
  second := .ofInt t.second
  fraction := .ofInt t.fraction

theorem toNat_ofInt_u16 (v : Int) : (UInt16.ofInt v).toNat = (v % 2 ^ 16).toNat := by
  rw [UInt16.ofInt, UInt16.toNat_ofNat']
  omega

theorem toNat_ofInt_u32 (v : Int) : (UInt32.ofInt v).toNat = (v % 2 ^ 32).toNat := by
  rw [UInt32.ofInt, UInt32.toNat_ofNat']
  omega

theorem timestampLe_eq (t : BulkTimestamp) :
    timestampLe t = Native.BulkInsert.timestampBytes t.toNative := by
  rw [Native.BulkInsert.timestampBytes, BulkTimestamp.toNative]
  dsimp only
  rw [Int16.toBitVec_ofInt, toNat_ofInt_u16, toNat_ofInt_u16, toNat_ofInt_u16, toNat_ofInt_u16,
    toNat_ofInt_u16, toNat_ofInt_u32]
  rfl

theorem paddedTo_eq (maxLen : Nat) (raw : Bytes) :
    paddedTo maxLen raw = Native.BulkInsert.paddedCell maxLen raw := rfl

/-- Both sides give a column without a width one byte. -/
theorem cellWidth_toNative (spec : BulkColumnSpec) :
    (if spec.maxLen > 0 then spec.maxLen.toNat else 1) =
      Native.BulkInsert.cellWidth spec.toNative := by
  rw [Native.BulkInsert.cellWidth]
  show _ = max spec.maxLen.toNat 1
  split_ifs with positive
  · omega
  · omega

theorem columnSpecBytes_eq {spec : BulkColumnSpec} (positive : 0 ≤ spec.maxLen)
    (small : spec.maxLen < 2 ^ 32) :
    columnSpecBytes spec = Native.BulkInsert.specBytes spec.toNative := by
  have word : u32LeOfInt spec.maxLen = toLeBytes 4 spec.maxLen.toNat := by
    rw [u32LeOfInt, Int.emod_eq_of_lt positive small]
  rw [columnSpecBytes, word, Native.BulkInsert.specBytes, BulkColumnSpec.toNative,
    BulkColumnType.tag_toNative]
  rfl

/-- What the engine receives of a column. -/
def bulkColumnDataOf (spec : BulkColumnSpec) (values : List BulkValue) : Native.BulkColumnData :=
  let bitmap := if spec.nullable then some (nullBitmapOf values) else none
  match spec.colType with
  | .i32 => .i32 (values.map fun value => .ofInt (intOf value)) bitmap
  | .i64 => .i64 (values.map fun value => .ofInt (intOf value)) bitmap
  | .text | .decimal =>
    Native.BulkInsert.trimmedColumn spec.toNative (values.map rawText) bitmap
  | .binary => Native.BulkInsert.trimmedColumn spec.toNative (values.map elementBytes) bitmap
  | .timestamp => .timestamp (values.map fun value => (timestampOf value).toNative) bitmap

theorem length_markNulls (r : Nat) (values : List BulkValue) (bitmap : Bytes) :
    (markNulls r values bitmap).length = bitmap.length := by
  induction values generalizing r bitmap with
  | nil => rfl
  | cons value values ih =>
      rw [markNulls, ih]
      split_ifs
      · exact Bitmap.length_set bitmap r
      · rfl

theorem length_nullBitmapOf (values : List BulkValue) :
    (nullBitmapOf values).length = Native.nullBitmapSize values.length := by
  rw [nullBitmapOf, length_markNulls, List.length_replicate]
  rfl

/-- The loop marks the rows from `r` on whose value is null, and no other. -/
theorem test_markNulls {r : Nat} {values : List BulkValue} {bitmap : Bytes}
    (inside : r + values.length ≤ bitmap.length * 8) (i : Nat) :
    Bitmap.test (markNulls r values bitmap) i = true ↔
      (r ≤ i ∧ values[i - r]? = some .null) ∨ Bitmap.test bitmap i = true := by
  induction values generalizing r bitmap with
  | nil => simp [markNulls]
  | cons value values ih =>
      rw [List.length_cons] at inside
      have first : (r ≤ i ∧ (value :: values)[i - r]? = some .null) ↔
          (i = r ∧ value = .null) ∨ (r + 1 ≤ i ∧ values[i - (r + 1)]? = some .null) := by
        rcases Nat.lt_trichotomy i r with before | rfl | behind
        · have below := before.trans (Nat.lt_succ_self r)
          simp [before.ne, Nat.not_le.mpr before, Nat.not_le.mpr below]
        · simp
        · have later : i - r = i - (r + 1) + 1 := by omega
          simp [later, behind.ne', behind.le, Nat.succ_le_of_lt behind]
      rw [markNulls, first]
      split_ifs with null
      · rw [ih (by rw [setNullAt, Bitmap.length_set]; omega), setNullAt,
          Bitmap.test_set (by omega)]
        simp only [null, and_true, Bool.or_eq_true, decide_eq_true_eq]
        tauto
      · rw [ih (by omega)]
        simp [null]

theorem isNull_nullBitmapOf (values : List BulkValue) (r : Nat) :
    Native.isNull (nullBitmapOf values) r = true ↔ values[r]? = some .null := by
  have room : 0 + values.length ≤
      (List.replicate (nullBitmapSize values.length) (0 : UInt8)).length * 8 := by
    rw [List.length_replicate, nullBitmapSize, Bitmap.size]
    omega
  rw [Native.isNull, nullBitmapOf, test_markNulls room, Bitmap.test_replicate_zero]
  simp

/-- A column that is written is received. -/
theorem reads_serializeColumn (spec : BulkColumnSpec) (values : List BulkValue) :
    Native.BulkInsert.Reads values.length spec.toNative (serializeColumn spec values)
      (bulkColumnDataOf spec values) := by
  have bits : Native.BulkInsert.BitmapFits spec.toNative.nullable values.length
      (if spec.nullable then some (nullBitmapOf values) else none) := by
    show Native.BulkInsert.BitmapFits spec.nullable _ _
    cases spec.nullable with
    | false => rfl
    | true => exact ⟨rfl, length_nullBitmapOf values⟩
  have mark : (if spec.nullable then nullBitmapOf values else []) =
      (if spec.nullable then some (nullBitmapOf values) else none).getD [] := by
    cases spec.nullable <;> rfl
  rw [serializeColumn, bulkColumnDataOf, mark, cellWidth_toNative]
  generalize (if spec.nullable then some (nullBitmapOf values) else none) = bitmap at bits
  have type : spec.toNative.colType = spec.colType.toNative := rfl
  cases typed : spec.colType with
  | i32 =>
      rw [typed] at type
      have reads := Native.BulkInsert.reads_i32 type
        (List.length_map (fun value => Int32.ofInt (intOf value))) bits
      simpa only [List.flatMap_map, ← i32Le_eq] using reads
  | i64 =>
      rw [typed] at type
      have reads := Native.BulkInsert.reads_i64 type
        (List.length_map (fun value => Int64.ofInt (intOf value))) bits
      simpa only [List.flatMap_map, ← i64Le_eq] using reads
  | text | decimal =>
      rw [typed] at type
      have reads := Native.BulkInsert.reads_trimmed (by simp [type, BulkColumnType.toNative])
        (List.length_map rawText) bits
      simpa only [List.flatMap_map, paddedTo_eq] using reads
  | binary =>
      rw [typed] at type
      have reads := Native.BulkInsert.reads_trimmed (by simp [type, BulkColumnType.toNative])
        (List.length_map elementBytes) bits
      simpa only [List.flatMap_map, paddedTo_eq] using reads
  | timestamp =>
      rw [typed] at type
      have reads := Native.BulkInsert.reads_timestamp type
        (List.length_map (fun value => (timestampOf value).toNative)) bits
      simpa only [List.flatMap_map, ← timestampLe_eq] using reads

end OdbcFast.Dart
