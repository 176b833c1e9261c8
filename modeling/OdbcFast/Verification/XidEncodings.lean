import OdbcFast.Native.Engine.Xid

/-!
# Branch identifiers through the engines

What a server lists for a prepared branch is what it was told when the branch was
started: PostgreSQL the whole text, MySQL, MariaDB and DB2 the two texts one behind the
other with their lengths, Oracle the two raw values in upper case, where an empty raw is
NULL. Each of these reads back as the identifier it came from, so two identifiers never
look the same, and no part of a spelling can end the quotes around it.

A spelling has two digits for each byte, which the limits on the bytes do not allow for.
-/

namespace OdbcFast.Verification

open Wire OdbcFast.Native.Engine OdbcFast.Native.Engine.Xid

/-! ## What the servers list -/

def decimal (n : Int) : Option Bytes := some (utf8Bytes (toString n))

def listedPreparedXact (xid : Xid) : Option Bytes := some (utf8Bytes xid.encodePostgres)

def listedXaRecoverRow (xid : Xid) : XaRecoverRow :=
  let (gtridHex, bqualHex, formatId) := xid.encodeMysqlComponents
  { formatId := decimal formatId.toInt
    gtridLength := decimal (utf8Bytes gtridHex).length
    bqualLength := decimal (utf8Bytes bqualHex).length
    data := some (utf8Bytes gtridHex ++ utf8Bytes bqualHex) }

/-- `RAWTOHEX` of the raw value that `HEXTORAW` makes of a literal. -/
def rawToHexToRaw (literal : String) : Option Bytes := do
  let raw ← hexDecode literal
  if raw = [] then none else some (utf8Bytes (hexEncodeUpper raw))

def listedPendingTransactionRow (xid : Xid) : PendingTransactionRow :=
  let (formatId, gtridHex, bqualHex) := xid.encodeOracleComponents
  { formatId := decimal formatId.toInt
    globalId := rawToHexToRaw gtridHex
    branchId := rawToHexToRaw bqualHex }

/-! ## Reading back -/

/-- Every identifier is read back from its spelling. -/
def ReadsBack {α : Type} (spell : Xid → α) (read : α → Option Xid) : Prop :=
  ∀ xid, read (spell xid) = some xid

theorem ReadsBack.injective {α : Type} {spell : Xid → α} {read : α → Option Xid}
    (back : ReadsBack spell read) : Function.Injective spell := by
  intro xid xid' same
  have both := back xid
  rw [same, back xid'] at both
  exact (Option.some.inj both).symm

/-- From a list of spellings nothing is lost and nothing is added. -/
theorem ReadsBack.filterMap_map {α : Type} {spell : Xid → α} {read : α → Option Xid}
    (back : ReadsBack spell read) (xids : List Xid) : (xids.map spell).filterMap read = xids := by
  rw [List.filterMap_map, show read ∘ spell = some from funext back, List.filterMap_some]

theorem readsBack_preparedXact : ReadsBack listedPreparedXact decodePreparedXact := by
  intro xid
  simp only [listedPreparedXact, decodePreparedXact, Option.bind_eq_bind, Option.bind_some,
    decodeStrict_utf8Bytes, Except.toOption, decodePostgres_encodePostgres]

theorem parse_decimal_i32 (n : Int32) :
    parseAsciiInt parseI32 ((decimal n.toInt).getD []) = some n := by
  rw [decimal, Option.getD_some, parseAsciiInt_toString, parseI32_toString]

theorem parse_decimal_length {bytes : Bytes} (short : bytes.length ≤ 128) :
    parseAsciiInt parseUsize ((decimal bytes.length).getD []) = some bytes.length := by
  rw [decimal, Option.getD_some, parseAsciiInt_toString, parseUsize_toString (by omega)]

theorem length_hexEncode_le {bytes : Bytes} (short : bytes.length ≤ 64) :
    (utf8Bytes (hexEncode bytes)).length ≤ 128 := by
  rw [hexEncode, Hex.length_utf8Bytes_encode]
  omega

theorem readsBack_xaRecoverRow : ReadsBack listedXaRecoverRow decodeXaRecoverRow := by
  intro xid
  have gtrid := parse_decimal_length (length_hexEncode_le xid.gtrid_le)
  have bqual := parse_decimal_length (length_hexEncode_le xid.bqual_le)
  simp only [decodeXaRecoverRow, listedXaRecoverRow, encodeMysqlComponents, parse_decimal_i32, gtrid,
    bqual, Option.getD_some, List.length_append, Nat.lt_irrefl, if_false, List.take_left',
    List.drop_left', List.take_length, decodeStrict_utf8Bytes, Except.toOption,
    Option.bind_eq_bind, Option.bind_some]
  exact decodeMysqlComponents_encode xid

/-- The text of a raw column; an empty one is NULL and is read as the empty text. -/
theorem textOrEmpty_rawToHexToRaw (raw : Bytes) :
    textOrEmpty (rawToHexToRaw (hexEncodeUpper raw)) = hexEncodeUpper raw := by
  rw [rawToHexToRaw, hexDecode_hexEncodeUpper]
  simp only [Option.bind_eq_bind, Option.bind_some]
  split_ifs with empty
  · rw [empty]
    rfl
  · simp only [textOrEmpty, Option.getD_some, decodeStrict_utf8Bytes, Except.toOption]

theorem readsBack_pendingTransactionRow :
    ReadsBack listedPendingTransactionRow decodePendingTransactionRow := by
  intro xid
  simp only [decodePendingTransactionRow, listedPendingTransactionRow, encodeOracleComponents,
    parse_decimal_i32, Option.getD_some, textOrEmpty_rawToHexToRaw]
  exact decodeOracleComponents_encode xid

/-! ## Quotes -/

/-- Nothing in the text ends a literal of either kind. -/
def Unquoted (text : String) : Prop := '\'' ∉ text.toList ∧ '"' ∉ text.toList

theorem unquoted_hex {alphabet : Hex.Alphabet}
    (plain : '\'' ∉ alphabet.digits ∧ '"' ∉ alphabet.digits) (bytes : Bytes) :
    Unquoted (Hex.encode alphabet bytes) :=
  ⟨fun written => plain.1 (Hex.mem_encode written),
    fun written => plain.2 (Hex.mem_encode written)⟩

theorem unquoted_toString (n : Int) : Unquoted (toString n) := by
  constructor
  · intro written
    rcases Numeral.mem_toString written with minus | digit
    · cases minus
    · cases digit
  · intro written
    rcases Numeral.mem_toString written with minus | digit
    · cases minus
    · cases digit

theorem Unquoted.append {front back : String} (first : Unquoted front) (second : Unquoted back) :
    Unquoted (front ++ back) := by
  simp only [Unquoted, String.toList_append, List.mem_append, not_or]
  exact ⟨⟨first.1, second.1⟩, ⟨first.2, second.2⟩⟩

theorem unquoted_encodePostgres (xid : Xid) : Unquoted xid.encodePostgres := by
  have underscore : Unquoted "_" := by
    constructor <;> decide
  have gtrid : Unquoted (hexEncode xid.gtrid) := unquoted_hex (by decide) xid.gtrid
  have bqual : Unquoted (hexEncode xid.bqual) := unquoted_hex (by decide) xid.bqual
  exact ((((unquoted_toString _).append underscore).append gtrid).append underscore).append bqual

/-- The identifiers are those that the constructor accepts. Every spelling reads back, is no
other identifier's and has no quote in it, and what the servers list for the prepared branches
are these branches. -/
theorem spellings_read_back :
    (∀ xid : Xid, Xid.new xid.formatId xid.gtrid xid.bqual = .ok xid) ∧
    (ReadsBack encodePostgres decodePostgres ∧
      ReadsBack encodeMysqlComponents (fun c => decodeMysqlComponents c.1 c.2.1 c.2.2) ∧
      ReadsBack listedXaRecoverRow decodeXaRecoverRow ∧
      ReadsBack encodeOracleComponents (fun c => decodeOracleComponents c.1 c.2.1 c.2.2) ∧
      ReadsBack listedPendingTransactionRow decodePendingTransactionRow) ∧
    (Function.Injective encodePostgres ∧ Function.Injective encodeMysqlComponents ∧
      Function.Injective listedXaRecoverRow ∧ Function.Injective encodeOracleComponents ∧
      Function.Injective listedPendingTransactionRow) ∧
    (∀ xid : Xid, Unquoted xid.encodePostgres ∧
      Unquoted xid.encodeMysqlComponents.1 ∧ Unquoted xid.encodeMysqlComponents.2.1 ∧
      Unquoted xid.encodeOracleComponents.2.1 ∧ Unquoted xid.encodeOracleComponents.2.2) ∧
    ∀ prepared : List Xid,
      recoverPostgres (prepared.map listedPreparedXact) = prepared ∧
      recoverMysql (prepared.map listedXaRecoverRow) = prepared ∧
      recoverOracle (prepared.map listedPendingTransactionRow) = prepared := by
  have postgres : ReadsBack encodePostgres decodePostgres := decodePostgres_encodePostgres
  have mysql : ReadsBack encodeMysqlComponents (fun c => decodeMysqlComponents c.1 c.2.1 c.2.2) :=
    decodeMysqlComponents_encode
  have oracle :
      ReadsBack encodeOracleComponents (fun c => decodeOracleComponents c.1 c.2.1 c.2.2) :=
    decodeOracleComponents_encode
  refine ⟨new_of_xid, ⟨postgres, mysql, readsBack_xaRecoverRow, oracle, readsBack_pendingTransactionRow⟩,
    ⟨postgres.injective, mysql.injective, readsBack_xaRecoverRow.injective, oracle.injective,
      readsBack_pendingTransactionRow.injective⟩, ?_, ?_⟩
  · intro xid
    exact ⟨unquoted_encodePostgres xid, unquoted_hex (by decide) _, unquoted_hex (by decide) _,
      unquoted_hex (by decide) _, unquoted_hex (by decide) _⟩
  · intro prepared
    exact ⟨readsBack_preparedXact.filterMap_map prepared,
      readsBack_xaRecoverRow.filterMap_map prepared,
      readsBack_pendingTransactionRow.filterMap_map prepared⟩

/-! ## Lengths -/

/-- PostgreSQL takes fewer than 200 bytes. -/
def GidFits (xid : Xid) : Prop := (utf8Bytes xid.encodePostgres).length < 200

/-- MySQL takes 64 bytes for each of the two texts. -/
def ArgumentsFit (xid : Xid) : Prop :=
  (utf8Bytes xid.encodeMysqlComponents.1).length ≤ 64 ∧
    (utf8Bytes xid.encodeMysqlComponents.2.1).length ≤ 64

theorem length_utf8Bytes_append (front back : String) :
    (utf8Bytes (front ++ back)).length = (utf8Bytes front).length + (utf8Bytes back).length := by
  rw [utf8Bytes_eq, utf8Bytes_eq, utf8Bytes_eq, String.toList_append, List.flatMap_append,
    List.length_append]

/-- The number of the format has at most ten digits and a sign. -/
theorem length_formatId_le (n : Int32) : (utf8Bytes (toString n.toInt)).length ≤ 11 := by
  have ascii : ∀ c ∈ (toString n.toInt).toList, (String.utf8EncodeChar c).length = 1 := by
    intro c written
    rcases Numeral.mem_toString written with rfl | digit
    · rfl
    · have small := (Char.isDigit_iff_toNat.mp digit).2
      rw [utf8EncodeChar_of_ascii (small.trans_lt (by decide))]
      rfl
  have digits : (Nat.toDigits 10 n.toInt.natAbs).length ≤ 10 := by
    rw [Nat.length_toDigits_le_iff (by decide) (by decide)]
    have low := n.le_toInt
    have high := n.toInt_lt
    omega
  have sign : (if n.toInt < 0 then ['-'] else []).length ≤ 1 := by
    split_ifs <;> simp
  rw [utf8Bytes_eq, List.length_flatMap, List.map_congr_left ascii, List.map_const',
    List.sum_replicate_nat, Numeral.toList_toString, List.length_append, Nat.mul_one]
  omega

theorem length_encodePostgres (xid : Xid) :
    (utf8Bytes xid.encodePostgres).length =
      (utf8Bytes (toString xid.formatId.toInt)).length + 2 + 2 * xid.gtrid.length +
        2 * xid.bqual.length := by
  have spelled : xid.encodePostgres = toString xid.formatId.toInt ++ "_" ++ hexEncode xid.gtrid ++
      "_" ++ hexEncode xid.bqual := rfl
  have underscore : (utf8Bytes "_").length = 1 := by decide +kernel
  rw [spelled]
  simp only [length_utf8Bytes_append, underscore, hexEncode, Hex.length_utf8Bytes_encode]
  omega

/-- The constructor counts bytes and the servers count digits: the texts fit exactly when
neither part has more than half of what the constructor allows. -/
theorem identifiers_fit_iff (xid : Xid) :
    GidFits xid ∧ ArgumentsFit xid ↔ xid.gtrid.length ≤ 32 ∧ xid.bqual.length ≤ 32 := by
  have format := length_formatId_le xid.formatId
  rw [GidFits, ArgumentsFit, length_encodePostgres, encodeMysqlComponents]
  simp only [hexEncode, Hex.length_utf8Bytes_encode]
  omega

/-- With 64 bytes in either part a gid has 259 bytes, and the two texts 128 each. -/
theorem longest_identifier_does_not_fit : ¬ ∀ xid, GidFits xid ∧ ArgumentsFit xid := by
  intro fit
  have long : ∀ bytes : Bytes, bytes = List.replicate 64 0 → bytes.length = 64 := by
    rintro _ rfl
    rfl
  obtain ⟨-, gtrid, -⟩ := fit ⟨1, List.replicate 64 0, List.replicate 64 0, by decide,
    (long _ rfl).le, (long _ rfl).le⟩
  rw [encodeMysqlComponents, hexEncode, Hex.length_utf8Bytes_encode, long _ rfl] at gtrid
  exact absurd gtrid (by decide)

end OdbcFast.Verification
