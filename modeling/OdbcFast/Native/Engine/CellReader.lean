import OdbcFast.Native.Protocol.ParamValue
import OdbcFast.Native.Protocol.RowBuffer
import OdbcFast.Wire.Numeral

/-!
# Reading cells

Every cell that is not binary is fetched as UTF-16. A text cell is transcoded; a
cell of an integer column is trimmed and parsed, and where that fails the text
itself becomes the cell. The bytes of an integer cell are therefore either the
integer's own or a text of any length, and nothing marks which.
-/

namespace OdbcFast.Native

open Wire

namespace CellReader

def isHighSurrogate (u : UInt16) : Bool := 0xD800 ≤ u.toNat ∧ u.toNat ≤ 0xDBFF

def isLowSurrogate (u : UInt16) : Bool := 0xDC00 ≤ u.toNat ∧ u.toNat ≤ 0xDFFF

/-- A unit that is not part of a pair. -/
def loneUnit (u : UInt16) : Char :=
  if isHighSurrogate u || isLowSurrogate u then '\uFFFD' else Char.ofNat u.toNat

/-- `String::from_utf16_lossy`: unpaired surrogates become U+FFFD. -/
def fromUtf16Lossy : List UInt16 → List Char
  | [] => []
  | [u] => [loneUnit u]
  | u :: v :: rest =>
    if isHighSurrogate u && isLowSurrogate v then
      Char.ofNat (0x10000 + (u.toNat - 0xD800) * 0x400 + (v.toNat - 0xDC00)) ::
        fromUtf16Lossy rest
    else loneUnit u :: fromUtf16Lossy (v :: rest)

/-- `char::is_whitespace`: the `White_Space` property. -/
def isWhitespace (c : Char) : Bool :=
  let n := c.toNat
  (9 ≤ n ∧ n ≤ 13) ∨ n = 0x20 ∨ n = 0x85 ∨ n = 0xA0 ∨ n = 0x1680 ∨ (0x2000 ≤ n ∧ n ≤ 0x200A) ∨
    n = 0x2028 ∨ n = 0x2029 ∨ n = 0x202F ∨ n = 0x205F ∨ n = 0x3000

def trim (text : List Char) : List Char :=
  ((text.dropWhile isWhitespace).reverse.dropWhile isWhitespace).reverse

/-- The least and the greatest integer of a width in bytes. -/
def minOf (width : Nat) : Int := -2 ^ (8 * width - 1)
def maxOf (width : Nat) : Int := 2 ^ (8 * width - 1) - 1

/-- The common shape of the two integer readers: parse the trimmed text, or keep
the text as it came. -/
def readAsLeBytes (width : Nat) (toLe : Int → Bytes) (wide : List UInt16) : Bytes :=
  match Numeral.parseInt (minOf width) (maxOf width) (trim (fromUtf16Lossy wide)) with
  | some value => toLe value
  | none => utf8Bytes (String.ofList (fromUtf16Lossy wide))

/-- `read_i32_as_le_bytes`, on a text that is not NULL. -/
def readI32AsLeBytes (wide : List UInt16) : Bytes :=
  readAsLeBytes 4 (fun value => i32Bytes (Int32.ofInt value)) wide

/-- `read_i64_as_le_bytes`, on a text that is not NULL. -/
def readI64AsLeBytes (wide : List UInt16) : Bytes :=
  readAsLeBytes 8 (fun value => i64Bytes (Int64.ofInt value)) wide

/-- `wide_text_to_utf8_bytes`. -/
def wideTextToUtf8Bytes (wide : List UInt16) : Bytes :=
  utf8Bytes (String.ofList (fromUtf16Lossy wide))

/-- What the driver hands over for a cell: UTF-16 text or binary data. -/
structure RawCell where
  wide : List UInt16
  binary : Bytes
  deriving DecidableEq, Repr

/-- `read_cell_bytes` on the driver's cell; `none` is NULL. -/
def readCellBytes (odbcType : OdbcType) (cell : Option RawCell) : Cell :=
  cell.map fun raw =>
    match odbcType with
    | .binary => raw.binary
    | .integer => readI32AsLeBytes raw.wide
    | .bigInt => readI64AsLeBytes raw.wide
    | _ => wideTextToUtf8Bytes raw.wide

/-! ## What the integer readers return -/

/-- The text of a cell. -/
def textOf (wide : List UInt16) : String := String.ofList (fromUtf16Lossy wide)

/-- The integer that the cell's text denotes, surrounding white space aside. -/
def denotes (wide : List UInt16) : Option Int := Numeral.denoted? (trim (fromUtf16Lossy wide))

/-- The integer of the text if it fits in the width. -/
def fitting (width : Nat) (wide : List UInt16) : Option Int :=
  (denotes wide).filter (Numeral.inRange (minOf width) (maxOf width))

theorem readAsLeBytes_eq (width : Nat) (toLe : Int → Bytes) (wide : List UInt16) :
    readAsLeBytes width toLe wide =
      match fitting width wide with
      | some value => toLe value
      | none => utf8Bytes (textOf wide) := by
  have pos : (0 : Int) < 2 ^ (8 * width - 1) := Int.pow_pos (by decide)
  have low : minOf width ≤ 0 := by
    rw [minOf]
    omega
  have high : 0 ≤ maxOf width := by
    rw [maxOf]
    omega
  rw [readAsLeBytes, Numeral.parseInt_eq low high, fitting, denotes, textOf]

theorem inRange_of_fitting {width : Nat} {wide : List UInt16} {value : Int}
    (fits : fitting width wide = some value) : minOf width ≤ value ∧ value ≤ maxOf width := by
  obtain ⟨-, within⟩ := Option.filter_eq_some_iff.mp fits
  exact of_decide_eq_true within

end CellReader

end OdbcFast.Native
