import OdbcFast.Native.Engine.Connection
import OdbcFast.Wire.Hex
import OdbcFast.Wire.Numeral

/-!
# Identifiers of distributed branches

A branch is known by a format number and two byte strings of limited length, the global
transaction id and the branch qualifier. Each engine spells it in its own way: PostgreSQL
in one text, MySQL, MariaDB and DB2 in three arguments, Oracle in two raw literals and a
number. After a crash the prepared branches are listed by the server, and every row is
read back into an identifier; a row of another client is skipped.
-/

namespace OdbcFast.Native.Engine

open Wire

def xidMaxGtridLen : Nat := 64
def xidMaxBqualLen : Nat := 64

structure Xid where
  formatId : Int32
  gtrid : Bytes
  bqual : Bytes
  gtrid_ne_nil : gtrid ≠ []
  gtrid_le : gtrid.length ≤ xidMaxGtridLen
  bqual_le : bqual.length ≤ xidMaxBqualLen
  deriving DecidableEq

/-! ## Numbers in texts -/

/-- `str::parse::<i32>`. -/
def parseI32 (text : List Char) : Option Int32 :=
  (Numeral.parseInt (-2147483648) 2147483647 text).map Int32.ofInt

/-- `str::parse::<usize>`: an unsigned number has no minus sign. -/
def parseUsize (text : List Char) : Option Nat :=
  if text.head? = some '-' then none
  else (Numeral.parseInt 0 18446744073709551615 text).map Int.toNat

/-- `char::is_whitespace`. -/
def isWhitespace (char : Char) : Bool :=
  let code := char.toNat
  (9 ≤ code && code ≤ 13) || (0x2000 ≤ code && code ≤ 0x200A) ||
    code ∈ [0x20, 0x85, 0xA0, 0x1680, 0x2028, 0x2029, 0x202F, 0x205F, 0x3000]

/-- `str::trim`. -/
def trim (text : List Char) : List Char :=
  ((text.dropWhile isWhitespace).reverse.dropWhile isWhitespace).reverse

/-- `parse_ascii_int`, with the parser of the number's type. -/
def parseAsciiInt {α : Type} (parse : List Char → Option α) (bytes : Bytes) : Option α := do
  let text ← (decodeStrict bytes).toOption
  parse (trim text.toList)

/-! ## Construction and spelling -/

def hexEncode (bytes : Bytes) : String := Hex.encode Hex.lower bytes

def hexEncodeUpper (bytes : Bytes) : String := Hex.encode Hex.upper bytes

def hexDecode (s : String) : Option Bytes := Hex.decode s

/-- The text in front of the first separator, and the text behind it. -/
def splitOnce (separator : Char) : List Char → Option (List Char × List Char)
  | [] => none
  | c :: cs =>
    if c = separator then some ([], cs)
    else (splitOnce separator cs).map fun (front, back) => (c :: front, back)

namespace Xid

def new (formatId : Int32) (gtrid bqual : Bytes) : Except OdbcError Xid :=
  if empty : gtrid = [] then
    .error (.validationError "Xid: gtrid must be non-empty (1..=64 bytes)")
  else if long : gtrid.length > xidMaxGtridLen then
    .error (.validationError
      s!"Xid: gtrid is {gtrid.length} bytes; X/Open limit is {xidMaxGtridLen}")
  else if longBqual : bqual.length > xidMaxBqualLen then
    .error (.validationError
      s!"Xid: bqual is {bqual.length} bytes; X/Open limit is {xidMaxBqualLen}")
  else .ok ⟨formatId, gtrid, bqual, empty, Nat.not_lt.mp long, Nat.not_lt.mp longBqual⟩

def encodePostgres (xid : Xid) : String :=
  s!"{xid.formatId.toInt}_{hexEncode xid.gtrid}_{hexEncode xid.bqual}"

/-- `none` for a text of another shape. -/
def decodePostgres (s : String) : Option Xid := do
  let (formatIdStr, rest) ← splitOnce '_' s.toList
  let (gtridHex, bqualHex) ← splitOnce '_' rest
  let formatId ← parseI32 formatIdStr
  let gtrid ← hexDecode (String.ofList gtridHex)
  let bqual ← hexDecode (String.ofList bqualHex)
  (new formatId gtrid bqual).toOption

def encodeMysqlComponents (xid : Xid) : String × String × Int32 :=
  (hexEncode xid.gtrid, hexEncode xid.bqual, xid.formatId)

def decodeMysqlComponents (gtridHex bqualHex : String) (formatId : Int32) : Option Xid := do
  let gtrid ← hexDecode gtridHex
  let bqual ← hexDecode bqualHex
  (new formatId gtrid bqual).toOption

def encodeOracleComponents (xid : Xid) : Int32 × String × String :=
  (xid.formatId, hexEncodeUpper xid.gtrid, hexEncodeUpper xid.bqual)

def decodeOracleComponents (formatId : Int32) (gtridHex bqualHex : String) : Option Xid := do
  let gtrid ← hexDecode gtridHex
  let bqual ← hexDecode bqualHex
  (new formatId gtrid bqual).toOption

/-! ## Recovery -/

/-- A row of `XA RECOVER`, by its columns as text; `none` is NULL. -/
structure XaRecoverRow where
  formatId : Option Bytes
  gtridLength : Option Bytes
  bqualLength : Option Bytes
  data : Option Bytes
  deriving DecidableEq, Repr

/-- A row of `DBA_PENDING_TRANSACTIONS`, the two raw columns through `RAWTOHEX`. -/
structure PendingTransactionRow where
  formatId : Option Bytes
  globalId : Option Bytes
  branchId : Option Bytes
  deriving DecidableEq, Repr

/-- A `gid` of `pg_prepared_xacts`. -/
def decodePreparedXact (gid : Option Bytes) : Option Xid := do
  let bytes ← gid
  let s ← (decodeStrict bytes).toOption
  decodePostgres s

/-- The data column carries both components, the first of the reported length. -/
def decodeXaRecoverRow (row : XaRecoverRow) : Option Xid :=
  let formatId := (parseAsciiInt parseI32 (row.formatId.getD [])).getD 0
  let gtridLen := (parseAsciiInt parseUsize (row.gtridLength.getD [])).getD 0
  let bqualLen := (parseAsciiInt parseUsize (row.bqualLength.getD [])).getD 0
  let data := row.data.getD []
  if data.length < gtridLen + bqualLen then none
  else do
    let g ← (decodeStrict (data.take gtridLen)).toOption
    let b ← (decodeStrict ((data.drop gtridLen).take bqualLen)).toOption
    decodeMysqlComponents g b formatId

/-- `str::from_utf8(..).unwrap_or("")`. -/
def textOrEmpty (cell : Option Bytes) : String := (decodeStrict (cell.getD [])).toOption.getD ""

def decodePendingTransactionRow (row : PendingTransactionRow) : Option Xid :=
  let formatId := (parseAsciiInt parseI32 (row.formatId.getD [])).getD 0
  decodeOracleComponents formatId (textOrEmpty row.globalId) (textOrEmpty row.branchId)

/-- `apply_xa_recover`, behind the execution of the engine's query. -/
def recoverPostgres (rows : List (Option Bytes)) : List Xid := rows.filterMap decodePreparedXact

def recoverMysql (rows : List XaRecoverRow) : List Xid := rows.filterMap decodeXaRecoverRow

def recoverOracle (rows : List PendingTransactionRow) : List Xid :=
  rows.filterMap decodePendingTransactionRow

end Xid

/-! ## What was spelled reads back -/

theorem hexDecode_hexEncode (bytes : Bytes) : hexDecode (hexEncode bytes) = some bytes :=
  Hex.decode_encode bytes

theorem hexDecode_hexEncodeUpper (bytes : Bytes) : hexDecode (hexEncodeUpper bytes) = some bytes :=
  Hex.decode_encode bytes

theorem parseI32_toString (n : Int32) : parseI32 (toString n.toInt).toList = some n := by
  have within : -2147483648 ≤ n.toInt ∧ n.toInt ≤ 2147483647 :=
    ⟨n.le_toInt, Int.le_of_lt_add_one n.toInt_lt⟩
  rw [parseI32, Numeral.parseInt_toString (by decide) (by decide) within, Option.map_some,
    Int32.ofInt_toInt]

theorem parseUsize_toString {n : Nat} (small : n < 2 ^ 64) :
    parseUsize (toString (n : Int)).toList = some n := by
  have within : (0 : Int) ≤ n ∧ (n : Int) ≤ 18446744073709551615 := by omega
  have unsigned : (toString (n : Int)).toList.head? ≠ some '-' := by
    rw [Numeral.toList_toString, if_neg (by omega), List.nil_append]
    intro minus
    have digit : '-'.isDigit := Nat.isDigit_of_mem_toDigits (b := 10) (by decide) (by decide)
      (List.mem_of_mem_head? minus)
    cases digit
  rw [parseUsize, if_neg unsigned, Numeral.parseInt_toString (by decide) (by decide) within,
    Option.map_some, Int.toNat_natCast]

theorem trim_of_forall {text : List Char} (solid : ∀ c ∈ text, isWhitespace c = false) :
    trim text = text := by
  have all : ∀ cs : List Char, (∀ c ∈ cs, isWhitespace c = false) →
      cs.dropWhile isWhitespace = cs := by
    intro cs solid
    cases cs with
    | nil => rfl
    | cons c cs => rw [List.dropWhile_cons, solid c List.mem_cons_self, if_neg Bool.false_ne_true]
  rw [trim, all text solid, all text.reverse fun c member => solid c (List.mem_reverse.mp member),
    List.reverse_reverse]

theorem parseAsciiInt_toString {α : Type} (parse : List Char → Option α) (i : Int) :
    parseAsciiInt parse (utf8Bytes (toString i)) = parse (toString i).toList := by
  have solid : ∀ c ∈ (toString i).toList, isWhitespace c = false := by
    intro c written
    rcases Numeral.mem_toString written with rfl | digit
    · rfl
    · have : 48 ≤ c.toNat ∧ c.toNat ≤ 57 := Char.isDigit_iff_toNat.mp digit
      simp only [isWhitespace, List.mem_cons, List.not_mem_nil, or_false]
      simp
      omega
  rw [parseAsciiInt, decodeStrict_utf8Bytes]
  exact congrArg parse (trim_of_forall solid)

theorem splitOnce_append {separator : Char} {front : List Char} (absent : separator ∉ front)
    (back : List Char) : splitOnce separator (front ++ separator :: back) = some (front, back) := by
  induction front with
  | nil => exact if_pos rfl
  | cons c front ih =>
      rw [List.mem_cons, not_or] at absent
      rw [List.cons_append, splitOnce, if_neg (Ne.symm absent.1), ih absent.2]
      rfl

namespace Xid

theorem new_of_xid (xid : Xid) : new xid.formatId xid.gtrid xid.bqual = .ok xid := by
  rw [new, dif_neg xid.gtrid_ne_nil, dif_neg (Nat.not_lt.mpr xid.gtrid_le),
    dif_neg (Nat.not_lt.mpr xid.bqual_le)]

theorem underscore_not_in_hex {alphabet : Hex.Alphabet} (plain : '_' ∉ alphabet.digits)
    (bytes : Bytes) : '_' ∉ (Hex.encode alphabet bytes).toList :=
  fun written => plain (Hex.mem_encode written)

theorem decodePostgres_encodePostgres (xid : Xid) :
    decodePostgres xid.encodePostgres = some xid := by
  have noFormat : '_' ∉ (toString xid.formatId.toInt).toList := by
    intro written
    rcases Numeral.mem_toString written with minus | digit
    · cases minus
    · cases digit
  have noGtrid : '_' ∉ (hexEncode xid.gtrid).toList := underscore_not_in_hex (by decide) xid.gtrid
  have text : xid.encodePostgres.toList = (toString xid.formatId.toInt).toList ++
      '_' :: ((hexEncode xid.gtrid).toList ++ '_' :: (hexEncode xid.bqual).toList) := by
    have written : xid.encodePostgres = toString xid.formatId.toInt ++ "_" ++ hexEncode xid.gtrid ++
        "_" ++ hexEncode xid.bqual := rfl
    rw [written]
    simp
  rw [decodePostgres, text, splitOnce_append noFormat]
  simp only [Option.bind_eq_bind, Option.bind_some, splitOnce_append noGtrid, parseI32_toString,
    String.ofList_toList, hexDecode_hexEncode, new_of_xid, Except.toOption]

theorem decodeMysqlComponents_encode (xid : Xid) :
    decodeMysqlComponents xid.encodeMysqlComponents.1 xid.encodeMysqlComponents.2.1
      xid.encodeMysqlComponents.2.2 = some xid := by
  simp only [decodeMysqlComponents, encodeMysqlComponents, hexDecode_hexEncode, new_of_xid,
    Option.bind_eq_bind, Option.bind_some, Except.toOption]

theorem decodeOracleComponents_encode (xid : Xid) :
    decodeOracleComponents xid.encodeOracleComponents.1 xid.encodeOracleComponents.2.1
      xid.encodeOracleComponents.2.2 = some xid := by
  simp only [decodeOracleComponents, encodeOracleComponents, hexDecode_hexEncodeUpper, new_of_xid,
    Option.bind_eq_bind, Option.bind_some, Except.toOption]

end Xid

end OdbcFast.Native.Engine
