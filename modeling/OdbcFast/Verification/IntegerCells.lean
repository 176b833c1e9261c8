import OdbcFast.Native.Engine.CellReader
import OdbcFast.Verification.RowMajor

/-!
# Integer columns end to end

The engine sends the integer a text denotes, or the text itself when that does not
fit; the Dart side takes any cell of at least the integer's width for an integer.
A text therefore arrives as it should exactly when it denotes a fitting integer,
or is too short to be mistaken for one and has no byte order mark to lose.
-/

namespace OdbcFast.Verification

open Wire Native CellReader
open OdbcFast.Dart BinaryProtocolParser

/-- The two column types whose texts are parsed. -/
inductive IntegerColumn where
  | integer
  | bigInt
  deriving DecidableEq, Repr

namespace IntegerColumn

def odbcType : IntegerColumn → Native.OdbcType
  | integer => .integer
  | bigInt => .bigInt

/-- Width of the integer in bytes. -/
def width : IntegerColumn → Nat
  | integer => 4
  | bigInt => 8

/-- The cell the engine makes of a text. -/
def cell : IntegerColumn → List UInt16 → Bytes
  | integer, wide => readI32AsLeBytes wide
  | bigInt, wide => readI64AsLeBytes wide

/-- What the application should receive: the integer if it fits, else the text. -/
def expected (column : IntegerColumn) (wide : List UInt16) : Value :=
  match fitting column.width wide with
  | some value => .int value
  | none => .text (textOf wide)

theorem convertData_discriminant (column : IntegerColumn) (data : Bytes) :
    convertData data column.odbcType.discriminant =
      if column.width ≤ data.length then .int (signed column.width (readLe column.width data 0))
      else .text (decodeText data) := by
  cases column <;> rfl

/-- The cell of a fitting integer is converted to that integer. -/
theorem convertData_of_fitting {column : IntegerColumn} {wide : List UInt16} {value : Int}
    (fits : fitting column.width wide = some value) :
    convertData (column.cell wide) column.odbcType.discriminant = .int value := by
  obtain ⟨low, high⟩ := inRange_of_fitting fits
  cases column with
  | integer =>
      have bytes : readI32AsLeBytes wide = i32Bytes (Int32.ofInt value) := by
        rw [readI32AsLeBytes, readAsLeBytes_eq]
        simp only [show fitting 4 wide = some value from fits]
      have int : (Int32.ofInt value).toInt = value :=
        Int32.toInt_ofInt_of_le low (Int.lt_of_le_sub_one high)
      rw [convertData_discriminant, cell, bytes, width, length_i32Bytes, if_pos (Nat.le_refl _),
        readLe, List.drop_zero, List.take_of_length_le (by simp), signed_i32Bytes, int]
  | bigInt =>
      have bytes : readI64AsLeBytes wide = i64Bytes (Int64.ofInt value) := by
        rw [readI64AsLeBytes, readAsLeBytes_eq]
        simp only [show fitting 8 wide = some value from fits]
      have int : (Int64.ofInt value).toInt = value :=
        Int64.toInt_ofInt_of_le low (Int.lt_of_le_sub_one high)
      rw [convertData_discriminant, cell, bytes, width, length_i64Bytes, if_pos (Nat.le_refl _),
        readLe, List.drop_zero, List.take_of_length_le (by simp), signed_i64Bytes, int]

/-- Any other text is the cell. -/
theorem cell_of_not_fitting {column : IntegerColumn} {wide : List UInt16}
    (unfit : fitting column.width wide = none) : column.cell wide = utf8Bytes (textOf wide) := by
  cases column with
  | integer =>
      rw [cell, readI32AsLeBytes, readAsLeBytes_eq]
      simp only [show fitting 4 wide = none from unfit]
  | bigInt =>
      rw [cell, readI64AsLeBytes, readAsLeBytes_eq]
      simp only [show fitting 8 wide = none from unfit]

theorem convertData_eq_expected_iff (column : IntegerColumn) (wide : List UInt16) :
    convertData (column.cell wide) column.odbcType.discriminant = column.expected wide ↔
      (fitting column.width wide).isSome ∨
        ((utf8Bytes (textOf wide)).length < column.width ∧ ¬ StartsWithBom (textOf wide)) := by
  rw [expected]
  cases fits : fitting column.width wide with
  | some value => simp [convertData_of_fitting fits]
  | none =>
      rw [cell_of_not_fitting fits, convertData_discriminant]
      by_cases long : column.width ≤ (utf8Bytes (textOf wide)).length
      · rw [if_pos long]
        simp only [reduceCtorEq, Option.isSome_none, Bool.false_eq_true, false_or, false_iff,
          not_and]
        omega
      · rw [if_neg long, decodeText, Value.text.injEq, decodeDroppingBom_utf8Bytes_iff]
        simp [Nat.lt_of_not_le long]

end IntegerColumn

/-- A text in an integer column of any encoded buffer arrives as the integer it
denotes, or as itself, exactly when it denotes a fitting integer or is shorter than
the integer and starts with no byte order mark. -/
theorem parse_integerText_iff {buffer : RowBuffer} {bytes : Bytes} (library : DecompressLibrary)
    (rectangular : buffer.Rectangular)
    (encoded : RowBufferEncoder.tryEncode buffer = .ok bytes) {column : IntegerColumn}
    {wide : List UInt16} {col : Native.ColumnMetadata} {row : List Cell} {r c : Nat}
    (typed : col.odbcType = column.odbcType) (columnAt : buffer.columns[c]? = some col)
    (rowAt : buffer.rows[r]? = some row) (cellAt : row[c]? = some (some (column.cell wide))) :
    (∃ result, parse library (.fromList bytes) = .ok result ∧
      (result.rows[r]?.bind fun row => row[c]?) = some (column.expected wide)) ↔
      (fitting column.width wide).isSome ∨
        ((utf8Bytes (textOf wide)).length < column.width ∧ ¬ StartsWithBom (textOf wide)) := by
  obtain ⟨encodable, rfl⟩ := RowBufferEncoder.tryEncode_eq_ok encoded
  have received : ((receivedBuffer buffer).rows[r]?.bind fun row => row[c]?) =
      some (convertData (column.cell wide) column.odbcType.discriminant) := by
    simp only [receivedBuffer, List.getElem?_map, rowAt, Option.map_some, Option.bind_some,
      receivedRow, List.getElem?_zipWith, columnAt, cellAt, receivedCell, typed]
  rw [Dart.parse_messageBytes rectangular encodable,
    ← IntegerColumn.convertData_eq_expected_iff column wide]
  constructor
  · rintro ⟨result, read, value⟩
    rw [Except.ok.injEq] at read
    rw [← read, received, Option.some.injEq] at value
    exact value
  · intro same
    exact ⟨_, rfl, by rw [received, same]⟩

/-- The UTF-16 units of an ASCII text. -/
def wideOf (text : String) : List UInt16 := text.toList.map fun c => UInt16.ofNat c.toNat

/-- One Integer column with one text. -/
def integerCell (text : String) : RowBuffer where
  columns := [⟨"n", .integer⟩]
  rows := [[some (readI32AsLeBytes (wideOf text))]]

theorem parse_integerText_negative :
    ∃ result, parse noLibrary (.fromList (messageBytes (integerCell " -42 "))) = .ok result ∧
      (result.rows[0]?.bind fun row => row[0]?) = some (.int (-42)) := by
  have rectangular : (integerCell " -42 ").Rectangular := by decide
  have encoded : RowBufferEncoder.tryEncode (integerCell " -42 ") =
      .ok (messageBytes (integerCell " -42 ")) := by decide
  have cellAt : [some (readI32AsLeBytes (wideOf " -42 "))][0]? =
      some (some (IntegerColumn.integer.cell (wideOf " -42 "))) := rfl
  exact (parse_integerText_iff noLibrary rectangular encoded (r := 0) (c := 0) rfl rfl rfl
    cellAt).mpr (by decide)

/-- A number just too large for its column arrives as a different number. -/
theorem parse_integerText_tooLarge :
    RowBufferEncoder.tryEncode (integerCell "3000000000") =
        .ok (messageBytes (integerCell "3000000000")) ∧
      IntegerColumn.integer.expected (wideOf "3000000000") = .text "3000000000" ∧
      parse noLibrary (.fromList (messageBytes (integerCell "3000000000"))) =
        .ok ⟨[⟨"n", 2⟩], [[.int 808464435]], 1, 1⟩ ∧
      ¬ ∃ result, parse noLibrary (.fromList (messageBytes (integerCell "3000000000"))) =
          .ok result ∧
        (result.rows[0]?.bind fun row => row[0]?) =
          some (IntegerColumn.integer.expected (wideOf "3000000000")) := by
  have read : parse noLibrary (.fromList (messageBytes (integerCell "3000000000"))) =
      .ok ⟨[⟨"n", 2⟩], [[.int 808464435]], 1, 1⟩ := by decide
  refine ⟨by decide, by decide, read, ?_⟩
  rintro ⟨result, read', value⟩
  rw [read, Except.ok.injEq] at read'
  rw [← read'] at value
  revert value
  decide

end OdbcFast.Verification
