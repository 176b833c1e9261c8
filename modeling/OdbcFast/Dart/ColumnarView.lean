import OdbcFast.Dart.MessageView
import OdbcFast.Native.Protocol.Columnar

/-!
# Columnar messages read back

Every block is found behind its metadata, its raw cells are recovered from the
stored or the compressed payload, and the cells of each kind of column are read
back one after the other. What is assumed of decompression is exactly that it
returns, for the blocks at hand, what was compressed.
-/

namespace OdbcFast.Dart

open Wire Native BinaryProtocolParser ColumnarEncoder

/-! ## What arrives -/

/-- A cell with a length field, under its column's type. -/
def bytesCell (odbcType : Nat) : Option Bytes → Value
  | none => .null
  | some bytes => convertData bytes odbcType

/-- An integer cell. -/
def intCell {α : Type} (toInt : α → Int) : Option α → Value
  | none => .null
  | some value => .int (toInt value)

/-- The cells of a block as Dart values. -/
def ownCells (block : ColumnBlock) : List Value :=
  match block.data with
  | .varchar cells | .binary cells =>
      cells.map (bytesCell block.metadata.odbcType.discriminant)
  | .integer cells => cells.map (intCell Int32.toInt)
  | .bigInt cells => cells.map (intCell Int64.toInt)

/-- The kind of the data is the one the declared type calls for. -/
def KindMatches (block : ColumnBlock) : Prop :=
  match block.metadata.odbcType, block.data with
  | .integer, .integer _ => True
  | .bigInt, .bigInt _ => True
  | .integer, _ => False
  | .bigInt, _ => False
  | _, .varchar _ => True
  | _, .binary _ => True
  | _, _ => False

/-- Decompression as Dart calls it returns what was compressed from this data. Only
a payload that compression made smaller is ever sent compressed. -/
def Inverts (codecs : Codecs) (library : DecompressLibrary) (data : ColumnData) : Prop :=
  ∀ compressed, compress codecs (rawBytes data) .zstd = .ok compressed →
    compressed.length < (rawBytes data).length →
    columnarDecompressWithNative library compressed 1 = some (rawBytes data)

/-- The engine's own library, loaded by Dart. -/
def engineLibrary (codecs : Codecs) : DecompressLibrary := ⟨true, odbcColumnarDecompress codecs⟩

/-- Over codecs that round-trip, the engine's library inverts every column up to
its limit on decompressed data. -/
theorem inverts_engineLibrary {codecs : Codecs} {data : ColumnData}
    (roundTrip : ∀ compressed, codecs.encode .zstd (rawBytes data) = .ok compressed →
      codecs.decode .zstd compressed = .ok (rawBytes data))
    (small : (rawBytes data).length ≤ maxColumnarDecompressedLen) :
    Inverts codecs (engineLibrary codecs) data := by
  intro compressed made smaller
  have decoded := roundTrip compressed made
  have short : ¬ compressed.length > 0x7fffffff := by
    rw [maxColumnarDecompressedLen] at small
    omega
  rw [columnarDecompressWithNative, if_neg (by simp [engineLibrary]), if_neg short]
  simp only [engineLibrary, odbcColumnarDecompress, CompressionType.fromU8, if_true,
    decompressWithLimit, decoded, ok_bind]
  rw [if_neg (by omega)]
  rfl

/-- A result without columns arrives without rows. -/
def receivedBufferV2 (buffer : RowBufferV2) : ParsedRowBuffer :=
  if buffer.columns = [] then ⟨[], [], 0, 0⟩
  else
    { columns := buffer.columns.map fun block => receivedColumn block.metadata
      rows := (List.range buffer.rowCount).map fun r =>
        (buffer.columns.map ownCells).map fun cells => cells.getD r .null
      rowCount := buffer.rowCount
      columnCount := buffer.columns.length }

/-! ## Raw cells -/

section Raw

variable {odbcType p : Nat} {raw : Bytes}

/-- A loop of turns that each read one cell. -/
theorem readRawCells_of_steps {α : Type} {cells : List α} {bytesOf : α → Bytes}
    {valueOf : α → Value}
    (step : ∀ cell ∈ cells, ∀ p, OccursAt (bytesOf cell) p raw →
      readRawStep odbcType raw p = .ok (valueOf cell, p + (bytesOf cell).length))
    (there : OccursAt (cells.flatMap bytesOf) p raw) :
    readRawCells odbcType raw cells.length p =
      .ok (cells.map valueOf, p + (cells.flatMap bytesOf).length) := by
  induction cells generalizing p with
  | nil => rfl
  | cons cell cells ih =>
      obtain ⟨first, step⟩ := List.forall_mem_cons.mp step
      rw [List.flatMap_cons] at there
      obtain ⟨here, later⟩ := OccursAt.append_iff.mp there
      rw [List.length_cons, readRawCells, first p here, ok_bind]
      simp only [ih step later, ok_bind, List.map_cons, List.flatMap_cons, List.length_append,
        ← Nat.add_assoc]

/-- A column whose turns read its cells is read to its end. -/
theorem parseColumnarRaw_of_steps {α : Type} {cells : List α} {bytesOf : α → Bytes}
    {valueOf : α → Value}
    (step : ∀ cell ∈ cells, ∀ p, OccursAt (bytesOf cell) p (cells.flatMap bytesOf) →
      readRawStep odbcType (cells.flatMap bytesOf) p =
        .ok (valueOf cell, p + (bytesOf cell).length)) :
    parseColumnarRaw odbcType (cells.flatMap bytesOf) cells.length = .ok (cells.map valueOf) := by
  rw [parseColumnarRaw, readRawCells_of_steps step (OccursAt.refl _), ok_bind]
  simp only [Nat.zero_add, List.length_map, ne_eq, not_true_eq_false, if_false]

theorem readRawStep_null (there : OccursAt [1] p raw) :
    readRawStep odbcType raw p = .ok (.null, p + 1) := by
  have flag : raw[p]? = some 1 := there.getElem?
  simp only [readRawStep, flag]
  rfl

theorem readRawStep_value (flag : raw[p]? = some 0) :
    readRawStep odbcType raw p = readRawCell odbcType raw (p + 1) := by
  simp only [readRawStep, flag]
  rw [if_neg (by decide)]

theorem readRawStep_i32 {cell : Option Int32} (there : OccursAt (fixedCell i32Bytes cell) p raw) :
    readRawStep Native.OdbcType.integer.discriminant raw p =
      .ok (intCell Int32.toInt cell, p + (fixedCell i32Bytes cell).length) := by
  cases cell with
  | none => exact readRawStep_null there
  | some value =>
      obtain ⟨flag, word⟩ := OccursAt.cons_iff.mp there
      have room := word.le_length
      have value' : readLe 4 raw (p + 1) = value.toBitVec.toNat :=
        word.readLe value.toBitVec.isLt
      have int : signed 4 value.toBitVec.toNat = value.toInt :=
        signed_toNat 4 (by decide) value.toBitVec
      rw [length_i32Bytes] at room
      rw [readRawStep_value flag.getElem?, readRawCell]
      simp only [Native.OdbcType.discriminant, OdbcType.fromDiscriminant, value', int]
      rw [if_neg (by omega)]
      simp only [intCell, fixedCell, List.length_cons, length_i32Bytes, Nat.add_assoc,
        Nat.reduceAdd]

theorem readRawStep_i64 {cell : Option Int64} (there : OccursAt (fixedCell i64Bytes cell) p raw) :
    readRawStep Native.OdbcType.bigInt.discriminant raw p =
      .ok (intCell Int64.toInt cell, p + (fixedCell i64Bytes cell).length) := by
  cases cell with
  | none => exact readRawStep_null there
  | some value =>
      obtain ⟨flag, word⟩ := OccursAt.cons_iff.mp there
      have room := word.le_length
      have value' : readLe 8 raw (p + 1) = value.toBitVec.toNat :=
        word.readLe value.toBitVec.isLt
      have int : signed 8 value.toBitVec.toNat = value.toInt :=
        signed_toNat 8 (by decide) value.toBitVec
      rw [length_i64Bytes] at room
      rw [readRawStep_value flag.getElem?, readRawCell]
      simp only [Native.OdbcType.discriminant, OdbcType.fromDiscriminant, value', int]
      rw [if_neg (by omega)]
      simp only [intCell, fixedCell, List.length_cons, length_i64Bytes, Nat.add_assoc,
        Nat.reduceAdd]

/-- Every type but the two integer ones carries a length with each cell. -/
theorem readRawCell_of_not_int {t : Native.OdbcType} (notInt : t ≠ .integer)
    (notBigInt : t ≠ .bigInt) (raw : Bytes) (p : Nat) :
    readRawCell t.discriminant raw p =
      if p + 4 > raw.length then .error (.formatException "Columnar v2: varchar len truncated")
      else if p + 4 + readLe 4 raw p > raw.length then
        .error (.formatException "Columnar v2: varchar data truncated")
      else
        .ok (convertData ((raw.drop (p + 4)).take (readLe 4 raw p)) t.discriminant,
          p + 4 + readLe 4 raw p) := by
  cases t <;> first | rfl | contradiction

theorem readRawStep_bytes {t : Native.OdbcType} {cell : Option Bytes} (notInt : t ≠ .integer)
    (notBigInt : t ≠ .bigInt) (fits : ∀ bytes, cell = some bytes → bytes.length < 256 ^ 4)
    (there : OccursAt (cellBytes cell) p raw) :
    readRawStep t.discriminant raw p =
      .ok (bytesCell t.discriminant cell, p + (cellBytes cell).length) := by
  cases cell with
  | none => exact readRawStep_null there
  | some bytes =>
      have room := there.le_length
      obtain ⟨flag, measured, filled⟩ := cellBytes_fields there
      rw [length_cellBytes_some] at room
      have len : readLe 4 raw (p + 1) = bytes.length := measured.readLe (fits bytes rfl)
      have content : (raw.drop (p + 1 + 4)).take bytes.length = bytes := filled.take_drop
      rw [readRawStep_value flag, readRawCell_of_not_int notInt notBigInt]
      simp only [len, content]
      rw [if_neg (by omega), if_neg (by omega)]
      simp only [bytesCell, length_cellBytes_some, ← Nat.add_assoc]

end Raw

def cellCount : ColumnData → Nat
  | .varchar cells | .binary cells => cells.length
  | .integer cells => cells.length
  | .bigInt cells => cells.length

theorem length_ownCells (block : ColumnBlock) :
    (ownCells block).length = cellCount block.data := by
  unfold ownCells cellCount
  cases block.data <;> simp

theorem parseColumnarRaw_bytes {t : Native.OdbcType} {cells : List (Option Bytes)}
    (notInt : t ≠ .integer) (notBigInt : t ≠ .bigInt)
    (fits : ∀ bytes, some bytes ∈ cells → bytes.length < 256 ^ 4) :
    parseColumnarRaw t.discriminant (cells.flatMap cellBytes) cells.length =
      .ok (cells.map (bytesCell t.discriminant)) := by
  refine parseColumnarRaw_of_steps fun cell member p there => ?_
  exact readRawStep_bytes notInt notBigInt (fun bytes same => fits bytes (same ▸ member)) there

/-- The raw bytes of a block of the right kind are its own cells. -/
theorem parseColumnarRaw_rawBytes {block : ColumnBlock} (kind : KindMatches block)
    (fits : ∀ cells, block.data = .varchar cells ∨ block.data = .binary cells →
      ∀ bytes, some bytes ∈ cells → bytes.length < 256 ^ 4) :
    parseColumnarRaw block.metadata.odbcType.discriminant (rawBytes block.data)
      (cellCount block.data) = .ok (ownCells block) := by
  obtain ⟨⟨name, odbcType⟩, data⟩ := block
  cases data with
  | varchar cells =>
      refine parseColumnarRaw_bytes ?_ ?_ (fits cells (.inl rfl)) <;>
        · rintro rfl
          exact kind
  | binary cells =>
      refine parseColumnarRaw_bytes ?_ ?_ (fits cells (.inr rfl)) <;>
        · rintro rfl
          exact kind
  | integer cells =>
      obtain rfl : odbcType = .integer := by
        cases odbcType <;> first | rfl | exact absurd kind id
      exact parseColumnarRaw_of_steps fun cell _ p there => readRawStep_i32 there
  | bigInt cells =>
      obtain rfl : odbcType = .bigInt := by
        cases odbcType <;> first | rfl | exact absurd kind id
      exact parseColumnarRaw_of_steps fun cell _ p there => readRawStep_i64 there

/-! ## Blocks -/

section Blocks

variable {codecs : Codecs} {library : DecompressLibrary} {useCompression : Bool} {data : Bytes}
  {stop off : Nat}

theorem selectPayload_cases (codecs : Codecs) (raw : Bytes) (useCompression : Bool) :
    selectPayload codecs raw useCompression = (raw, .none) ∨
      ∃ compressed, compress codecs raw .zstd = .ok compressed ∧
        compressed.length < raw.length ∧
        selectPayload codecs raw useCompression = (compressed, .zstd) := by
  rw [selectPayload]
  split_ifs with wanted
  · cases compressed : compress codecs raw .zstd with
    | error e => exact .inl rfl
    | ok bytes =>
        simp only
        split_ifs with smaller
        · exact .inr ⟨bytes, rfl, smaller, rfl⟩
        · exact .inl rfl
  · exact .inl rfl

theorem readColumnBlock_stored {raw : Bytes} (there : OccursAt (storedBytes (raw, .none)) off data)
    (inside : off + (storedBytes (raw, .none)).length ≤ stop) (fits : raw.length < 256 ^ 4) :
    readColumnBlock library data stop off =
      .ok (raw, off + (storedBytes (raw, .none)).length) := by
  obtain ⟨flagged, there⟩ := OccursAt.append_iff.mp there
  obtain ⟨measured, filled⟩ := OccursAt.append_iff.mp there
  rw [length_toLeBytes] at filled
  simp only [storedBytes, List.length_append, List.length_singleton, length_toLeBytes] at inside
  have flag : data[off]? = some 0 := flagged.getElem?
  have len : readLe 4 data (off + 1) = raw.length := measured.readLe fits
  have content : (data.drop (off + 5)).take raw.length = raw := filled.take_drop
  simp only [readColumnBlock, flag, len, content]
  rw [if_neg (by decide), if_neg (by omega), if_neg (by omega)]
  simp only [storedBytes, List.length_append, List.length_singleton, length_toLeBytes,
    ← Nat.add_assoc]

theorem readColumnBlock_compressed {raw compressed : Bytes}
    (there : OccursAt (storedBytes (compressed, .zstd)) off data)
    (inside : off + (storedBytes (compressed, .zstd)).length ≤ stop)
    (fits : compressed.length < 256 ^ 4)
    (inverse : columnarDecompressWithNative library compressed (1 : UInt8).toNat = some raw) :
    readColumnBlock library data stop off =
      .ok (raw, off + (storedBytes (compressed, .zstd)).length) := by
  obtain ⟨flagged, there⟩ := OccursAt.append_iff.mp there
  obtain ⟨named, there⟩ := OccursAt.append_iff.mp there
  obtain ⟨measured, filled⟩ := OccursAt.append_iff.mp there
  rw [length_toLeBytes] at filled
  simp only [storedBytes, List.length_append, List.length_singleton, length_toLeBytes] at inside
  have flag : data[off]? = some 1 := flagged.getElem?
  have algorithm : data[off + 1]? = some 1 := named.getElem?
  have len : readLe 4 data (off + 2) = compressed.length := measured.readLe fits
  have content : (data.drop (off + 6)).take compressed.length = compressed := filled.take_drop
  simp only [readColumnBlock, flag, algorithm, Option.getD_some, len, content, inverse]
  rw [if_pos (by decide), if_neg (by omega), if_neg (by omega), if_neg (by omega)]
  simp only [storedBytes, List.length_append, List.length_singleton, length_toLeBytes,
    ← Nat.add_assoc, Nat.reduceAdd]

/-- Whichever form the encoder chose, the raw column comes back. -/
theorem readColumnBlock_of_occursAt {block : ColumnBlock}
    (there : OccursAt (storedBytes (selectPayload codecs (rawBytes block.data) useCompression))
      off data)
    (inside : off + (storedBytes (selectPayload codecs (rawBytes block.data)
      useCompression)).length ≤ stop)
    (fits : (selectPayload codecs (rawBytes block.data) useCompression).1.length < 256 ^ 4)
    (inverts : Inverts codecs library block.data) :
    readColumnBlock library data stop off =
      .ok (rawBytes block.data, off +
        (storedBytes (selectPayload codecs (rawBytes block.data) useCompression)).length) := by
  rcases selectPayload_cases codecs (rawBytes block.data) useCompression with
    chosen | ⟨compressed, made, smaller, chosen⟩
  · rw [chosen] at there inside fits ⊢
    exact readColumnBlock_stored there inside fits
  · rw [chosen] at there inside fits ⊢
    exact readColumnBlock_compressed there inside fits (inverts compressed made smaller)

theorem length_storedBytes_pos (chosen : Bytes × CompressionType) :
    0 < (storedBytes chosen).length := by
  obtain ⟨payload, _ | _ | _⟩ := chosen <;> simp [storedBytes]

theorem length_blockBytes (block : ColumnBlock) :
    (blockBytes codecs useCompression block).length =
      4 + (utf8Bytes block.metadata.name).length +
        (storedBytes (selectPayload codecs (rawBytes block.data) useCompression)).length := by
  rw [blockBytes, List.length_append, length_columnBytes]

theorem readColumnarColumns_of_occursAt {columns : List ColumnBlock} {rowCount : Nat}
    (there : OccursAt (columns.flatMap (blockBytes codecs useCompression)) off data)
    (inside : off + (columns.flatMap (blockBytes codecs useCompression)).length ≤ stop)
    (fits : ∀ block ∈ columns, BlockFits codecs useCompression block)
    (kinds : ∀ block ∈ columns, KindMatches block)
    (counts : ∀ block ∈ columns, cellCount block.data = rowCount)
    (inverts : ∀ block ∈ columns, Inverts codecs library block.data) :
    readColumnarColumns library data rowCount stop columns.length off =
      .ok (columns.map fun block => (receivedColumn block.metadata, ownCells block),
        off + (columns.flatMap (blockBytes codecs useCompression)).length) := by
  induction columns generalizing off with
  | nil => rfl
  | cons block columns ih =>
      obtain ⟨fit, fits⟩ := List.forall_mem_cons.mp fits
      obtain ⟨kind, kinds⟩ := List.forall_mem_cons.mp kinds
      obtain ⟨count, counts⟩ := List.forall_mem_cons.mp counts
      obtain ⟨invert, inverts⟩ := List.forall_mem_cons.mp inverts
      rw [List.flatMap_cons] at there inside
      rw [List.length_append] at inside
      obtain ⟨here, later⟩ := OccursAt.append_iff.mp there
      rw [length_blockBytes] at later inside
      rw [blockBytes] at here
      obtain ⟨metadata, stored⟩ := OccursAt.append_iff.mp here
      rw [length_columnBytes] at stored
      obtain ⟨typed, measured, spelled⟩ := columnBytes_fields metadata
      have code := typed.readLe block.metadata.odbcType.discriminant_lt
      have nameLen := measured.readLe fit.name
      have name := spelled.take_drop
      have pos := length_storedBytes_pos
        (selectPayload codecs (rawBytes block.data) useCompression)
      have raw := readColumnBlock_of_occursAt stored (show _ ≤ stop by omega) fit.payload invert
      have cells := parseColumnarRaw_rawBytes kind fit.cells
      rw [count] at cells
      simp only [← Nat.add_assoc, Nat.reduceAdd] at later raw
      have rest := ih later (by omega) fits kinds counts inverts
      rw [List.length_cons, readColumnarColumns, if_neg (by omega)]
      simp only [code, nameLen, name]
      rw [if_neg (by omega), if_neg (by omega), raw, ok_bind]
      simp only [cells, ok_bind, rest, List.map_cons, List.flatMap_cons, List.length_append,
        length_blockBytes, receivedColumn, ← Nat.add_assoc]

theorem pickRow_eq_ok {byCol : List (List Value)} {r rowCount : Nat} (inside : r < rowCount)
    (counts : ∀ cells ∈ byCol, cells.length = rowCount) :
    pickRow byCol r = .ok (byCol.map fun cells => cells.getD r .null) := by
  refine mapM_eq_ok fun cells member => ?_
  have long : r < cells.length := by rw [counts cells member]; exact inside
  rw [List.getD_eq_getElem?_getD, List.getElem?_eq_getElem long]
  rfl

/-! ## Messages -/

variable {buffer : RowBufferV2}

/-- The words of a columnar header. -/
theorem headerBytesV2_words {flags columnCount rowCount payloadSize : Nat}
    (there : OccursAt (headerBytesV2 flags columnCount rowCount useCompression payloadSize) 0 data)
    (columns : columnCount < 256 ^ 2) (rows : rowCount < 256 ^ 4)
    (payload : payloadSize < 256 ^ 4) :
    readLe 4 data 0 = BinaryProtocolParser.magic ∧
      readLe 2 data 4 = protocolVersionColumnarV2 ∧ readLe 2 data 8 = columnCount ∧
      readLe 4 data 10 = rowCount ∧ readLe 4 data 15 = payloadSize := by
  obtain ⟨marked, there⟩ := OccursAt.append_iff.mp there
  obtain ⟨versioned, there⟩ := OccursAt.append_iff.mp there
  obtain ⟨-, there⟩ := OccursAt.append_iff.mp there
  obtain ⟨columned, there⟩ := OccursAt.append_iff.mp there
  obtain ⟨rowed, there⟩ := OccursAt.append_iff.mp there
  obtain ⟨-, sized⟩ := OccursAt.append_iff.mp there
  simp only [length_toLeBytes, List.length_singleton, Nat.zero_add, Nat.reduceAdd]
    at versioned columned rowed sized
  exact ⟨marked.readLe (by decide), versioned.readLe (by decide), columned.readLe columns,
    rowed.readLe rows, sized.readLe payload⟩

/-- Everything the columnar results ask of a buffer. -/
structure WellFormedV2 (codecs : Codecs) (library : DecompressLibrary) (buffer : RowBufferV2) :
    Prop where
  counts : ∀ block ∈ buffer.columns, cellCount block.data = buffer.rowCount
  kinds : ∀ block ∈ buffer.columns, KindMatches block
  inverts : ∀ block ∈ buffer.columns, Inverts codecs library block.data

theorem readColumnarColumns_messageBytesV2 (wellFormed : WellFormedV2 codecs library buffer)
    (encodable : EncodableV2 codecs useCompression buffer) :
    readColumnarColumns library (messageBytesV2 codecs useCompression buffer) buffer.rowCount
        (messageBytesV2 codecs useCompression buffer).length buffer.columns.length 19 =
      .ok (buffer.columns.map fun block => (receivedColumn block.metadata, ownCells block),
        (messageBytesV2 codecs useCompression buffer).length) := by
  have whole := OccursAt.refl (messageBytesV2 codecs useCompression buffer)
  obtain ⟨-, body⟩ := OccursAt.append_iff.mp whole
  rw [length_headerBytesV2, Nat.zero_add] at body
  have length := length_messageBytesV2 codecs useCompression buffer
  have columns := readColumnarColumns_of_occursAt body (Nat.le_of_eq length.symm)
    encodable.blocks wellFormed.kinds wellFormed.counts wellFormed.inverts
  rw [columns, length, payloadBytesV2]

theorem parseColumnarV2_messageBytesV2 (wellFormed : WellFormedV2 codecs library buffer)
    (encodable : EncodableV2 codecs useCompression buffer) :
    parseColumnarV2 library (messageBytesV2 codecs useCompression buffer) =
      .ok (receivedBufferV2 buffer) := by
  have whole := OccursAt.refl (messageBytesV2 codecs useCompression buffer)
  obtain ⟨header, -⟩ := OccursAt.append_iff.mp whole
  obtain ⟨-, -, colCount, rowCount, paySize⟩ :=
    headerBytesV2_words header encodable.columns encodable.rows encodable.payload
  have length := length_messageBytesV2 codecs useCompression buffer
  have columns := readColumnarColumns_messageBytesV2 wellFormed encodable
  simp only [parseColumnarV2, colCount, rowCount, paySize, headerSizeColumnarV2, ← length]
  rw [if_neg (by omega), if_neg (by omega), receivedBufferV2]
  by_cases empty : buffer.columns = []
  · rw [if_pos (by rw [empty]; rfl), if_pos empty]
  · rw [if_neg (mt List.length_eq_zero_iff.mp empty), if_neg empty, columns, ok_bind]
    simp only [List.length_map, List.map_map]
    rw [if_neg (by simp), if_neg (by simp)]
    have counts : ∀ cells ∈ buffer.columns.map ownCells, cells.length = buffer.rowCount := by
      intro cells member
      obtain ⟨block, within, rfl⟩ := List.mem_map.mp member
      rw [length_ownCells, wellFormed.counts block within]
    have rows : (List.range buffer.rowCount).mapM (pickRow (buffer.columns.map ownCells)) =
        .ok ((List.range buffer.rowCount).map fun r =>
          (buffer.columns.map ownCells).map fun cells => cells.getD r .null) :=
      mapM_eq_ok fun r member => pickRow_eq_ok (List.mem_range.mp member) counts
    simp only [Function.comp_def] at rows ⊢
    rw [rows, ok_bind]
    simp only [List.map_map, Function.comp_def]

/-- A columnar message by itself, up to its end. -/
theorem parseMain_messageBytesV2 (wellFormed : WellFormedV2 codecs library buffer)
    (encodable : EncodableV2 codecs useCompression buffer) :
    parseMain library (.fromList (messageBytesV2 codecs useCompression buffer)) =
      .ok (receivedBufferV2 buffer, (messageBytesV2 codecs useCompression buffer).length) := by
  have whole := OccursAt.refl (messageBytesV2 codecs useCompression buffer)
  obtain ⟨header, -⟩ := OccursAt.append_iff.mp whole
  obtain ⟨-, versioned, -, -, paySize⟩ :=
    headerBytesV2_words header encodable.columns encodable.rows encodable.payload
  have length := length_messageBytesV2 codecs useCompression buffer
  refine parseMain_eq_ok_iff.mpr ⟨Nat.le_refl _, .inr ?_⟩
  simp only [Uint8List.bytes_fromList, Uint8List.length_fromList]
  refine ⟨versioned, by rw [headerSizeColumnarV2]; omega,
    by rw [paySize, headerSizeColumnarV2, length], ?_⟩
  rw [List.take_length, parseColumnarV2_messageBytesV2 wellFormed encodable]

theorem parse_messageBytesV2 (wellFormed : WellFormedV2 codecs library buffer)
    (encodable : EncodableV2 codecs useCompression buffer) :
    parse library (.fromList (messageBytesV2 codecs useCompression buffer)) =
      .ok (receivedBufferV2 buffer) := by
  have whole := OccursAt.refl (messageBytesV2 codecs useCompression buffer)
  obtain ⟨header, -⟩ := OccursAt.append_iff.mp whole
  obtain ⟨marked, -⟩ :=
    headerBytesV2_words header encodable.columns encodable.rows encodable.payload
  have length := length_messageBytesV2 codecs useCompression buffer
  have parsed := parseWithOutputs_of_parseMain
    (by rw [Uint8List.length_fromList]; omega)
    (by rwa [Uint8List.bytes_fromList])
    (parseMain_messageBytesV2 wellFormed encodable)
  rw [parse, parsed]
  rfl

end Blocks

end OdbcFast.Dart
