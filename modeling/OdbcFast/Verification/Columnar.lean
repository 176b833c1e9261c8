import OdbcFast.Dart.ColumnarView
import OdbcFast.Native.Engine.CellReader
import OdbcFast.Verification.RowMajor

/-!
# Columnar messages end to end

A columnar message decodes to the cells of its blocks whether or not blocks are
compressed; only column names that are not ASCII are lost. A row buffer sent in
columns decodes as it does in rows exactly when it has a column or no rows, and no
integer cell has fallen back to a text of another width.
-/

namespace OdbcFast.Verification

open Wire Native ColumnarEncoder
open OdbcFast.Dart BinaryProtocolParser

/-! ## Both encodings of a columnar buffer -/

/-- The message decodes to the buffer's own columns and cells, its header
declares the bytes behind it, and the decoder consumes all of them. -/
structure ShowsV2 (library : DecompressLibrary) (buffer : RowBufferV2) (bytes : Bytes)
    (result : ParsedRowBuffer) : Prop where
  parsed : parse library (.fromList bytes) = .ok result
  names : result.columns.map (·.name) = buffer.columns.map (·.metadata.name)
  types : result.columns.map (·.odbcType) =
    buffer.columns.map (·.metadata.odbcType.discriminant)
  cells : ∀ (index : Nat) block, buffer.columns[index]? = some block →
    result.rows.map (·[index]?) = (ownCells block).map some
  payloadSize : headerSizeColumnarV2 + readLe 4 bytes 15 = bytes.length
  consumed : ∃ columns, readColumnarColumns library bytes buffer.rowCount bytes.length
    buffer.columns.length headerSizeColumnarV2 = .ok (columns, bytes.length)

section

variable {codecs : Codecs} {library : DecompressLibrary} {buffer : RowBufferV2}
  {useCompression : Bool}

theorem receivedBufferV2_cells
    (counts : ∀ block ∈ buffer.columns, cellCount block.data = buffer.rowCount)
    {index : Nat} {block : ColumnBlock} (at' : buffer.columns[index]? = some block) :
    (receivedBufferV2 buffer).rows.map (·[index]?) = (ownCells block).map some := by
  have member := List.mem_of_getElem? at'
  rw [receivedBufferV2, if_neg (List.ne_nil_of_mem member)]
  have length : (ownCells block).length = buffer.rowCount := by
    rw [length_ownCells, counts block member]
  simp only [List.map_map, Function.comp_def, List.getElem?_map, at', Option.map_some]
  have cells := congrArg (List.map some) (map_range_getD (ownCells block) .null)
  rwa [List.map_map, length] at cells

theorem receivedBufferV2_columns :
    (receivedBufferV2 buffer).columns =
      buffer.columns.map fun block => receivedColumn block.metadata := by
  rw [receivedBufferV2]
  split_ifs with empty
  · rw [empty]
    rfl
  · rfl

theorem showsV2_iff (wellFormed : WellFormedV2 codecs library buffer)
    (encodable : EncodableV2 codecs useCompression buffer) {result : ParsedRowBuffer} :
    ShowsV2 library buffer (messageBytesV2 codecs useCompression buffer) result ↔
      result = receivedBufferV2 buffer ∧
        ∀ block ∈ buffer.columns, IsAscii block.metadata.name := by
  have parsed := parse_messageBytesV2 wellFormed encodable
  constructor
  · intro shows'
    have same := shows'.parsed
    rw [parsed, Except.ok.injEq] at same
    refine ⟨same.symm, fun block member => ?_⟩
    have names := shows'.names
    rw [← same, receivedBufferV2_columns, List.map_map] at names
    exact (decodeLatin1_utf8Bytes_iff _).mp (List.map_inj_left.mp names block member)
  · rintro ⟨rfl, ascii⟩
    have whole := OccursAt.refl (messageBytesV2 codecs useCompression buffer)
    obtain ⟨header, -⟩ := OccursAt.append_iff.mp whole
    obtain ⟨-, -, -, -, paySize⟩ :=
      headerBytesV2_words header encodable.columns encodable.rows encodable.payload
    refine ⟨parsed, ?_, ?_, fun index block => receivedBufferV2_cells wellFormed.counts, ?_,
      _, readColumnarColumns_messageBytesV2 wellFormed encodable⟩
    · rw [receivedBufferV2_columns, List.map_map]
      refine List.map_inj_left.mpr fun block member => ?_
      exact (decodeLatin1_utf8Bytes_iff _).mpr (ascii block member)
    · rw [receivedBufferV2_columns, List.map_map]
      rfl
    · rw [paySize, headerSizeColumnarV2, length_messageBytesV2]

end

/-- A zstd frame with one raw block, the form in which data that does not
compress is framed. -/
def rawFrame (data : Bytes) : Bytes :=
  [0x28, 0xB5, 0x2F, 0xFD, 0x00, 0x58] ++ (toLeBytes 3 (data.length * 8 + 1) ++ data)

def rawFrameCodecs : Codecs where
  encode _ data := .ok (rawFrame data)
  decode _ frame := .ok (frame.drop 9)

theorem inverts_rawFrameCodecs {blocks : List ColumnBlock}
    (small : ∀ block ∈ blocks, (rawBytes block.data).length ≤ maxColumnarDecompressedLen) :
    ∀ block ∈ blocks, Inverts rawFrameCodecs (engineLibrary rawFrameCodecs) block.data := by
  intro block member
  refine inverts_engineLibrary (fun compressed made => ?_) (small block member)
  cases made
  rfl

/-- A zstd frame of data that ends in a run of one byte: a raw block, and a block that has the byte
once. -/
def runFrame (data : Bytes) : Bytes :=
  let byte := data.getLastD 0
  let front := (data.reverse.dropWhile (· = byte)).reverse
  let run := data.length - front.length
  [0x28, 0xB5, 0x2F, 0xFD, 0x00, 0x58] ++ (toLeBytes 3 (front.length * 8) ++ (front ++
    (toLeBytes 3 (run * 8 + 3) ++ [byte])))

def runFrameCodecs : Codecs where
  encode _ data := .ok (runFrame data)
  decode _ frame :=
    let front := readLe 3 frame 6 / 8
    let run := readLe 3 frame (9 + front) / 8
    .ok ((frame.drop 9).take front ++ List.replicate run (frame.getD (12 + front) 0))

def sampleBlocks : RowBufferV2 where
  columns := [⟨⟨"id", .bigInt⟩, .bigInt [some (-1), none]⟩,
    ⟨⟨"blob", .binary⟩, .binary [some [1, 2], some (List.replicate 120 0)]⟩]
  rowCount := 2
  flags := 0

theorem wellFormedV2_sampleBlocks :
    WellFormedV2 runFrameCodecs (engineLibrary runFrameCodecs) sampleBlocks := by
  refine ⟨by decide, ?_, fun block member => ?_⟩
  · simp [sampleBlocks, KindMatches]
  · refine inverts_engineLibrary (fun compressed made => ?_) ?_
    · cases made
      revert block
      decide +kernel
    · revert block
      decide +kernel

def accentedBlock : RowBufferV2 where
  columns := [⟨⟨"café", .integer⟩, .integer [some 7]⟩]
  rowCount := 1
  flags := 0

/-- The fixed width of a columnar cell, for the two types that have one. -/
def columnarWidth? : Native.OdbcType → Option Nat
  | .integer => some 4
  | .bigInt => some 8
  | _ => none

/-- The bytes of a cell have the width its column's columnar form calls for. -/
def WidthKept (t : Native.OdbcType) (cell : Cell) : Prop :=
  ∀ width ∈ columnarWidth? t, ∀ bytes ∈ cell, bytes.length = width

instance (t : Native.OdbcType) (cell : Cell) : Decidable (WidthKept t cell) :=
  inferInstanceAs (Decidable (∀ width ∈ columnarWidth? t, ∀ bytes ∈ cell, bytes.length = width))

/-- A cell after the detour through its column. -/
def columnarCell (col : Native.ColumnMetadata) (cell : Option Cell) : Value :=
  match col.odbcType with
  | .integer => intCell Int32.toInt (i32OfCell cell)
  | .bigInt => intCell Int64.toInt (i64OfCell cell)
  | t => bytesCell t.discriminant cell.join

theorem ownCells_columnDataOf (col : Native.ColumnMetadata) (cells : List (Option Cell)) :
    ownCells ⟨col, columnDataOf col.odbcType cells⟩ = cells.map (columnarCell col) := by
  obtain ⟨name, odbcType⟩ := col
  cases odbcType <;> simp [ownCells, columnDataOf, columnarCell, Function.comp_def]

/-- Bytes of an integer's width are that integer. -/
theorem toInt_ofLeBytes (width : Nat) {bytes : Bytes} (pos : 0 < width)
    (length : bytes.length = width) :
    (BitVec.ofNat (8 * width) (ofLeBytes bytes)).toInt = signed width (ofLeBytes bytes) := by
  have small : ofLeBytes bytes < 2 ^ (8 * width) := by
    have bound := ofLeBytes_lt bytes
    rwa [length, show (256 : Nat) = 2 ^ 8 from rfl, ← Nat.pow_mul] at bound
  rw [← signed_toNat width pos, BitVec.toNat_ofNat, Nat.mod_eq_of_lt small]

theorem intCell_i32OfCell (bytes : Bytes) :
    intCell Int32.toInt (i32OfCell (some (some bytes))) =
      if bytes.length = 4 then .int (signed 4 (ofLeBytes bytes)) else .null := by
  simp only [i32OfCell, Option.join_some]
  split_ifs with length
  · exact congrArg _ (toInt_ofLeBytes 4 (by decide) length)
  · rfl

theorem intCell_i64OfCell (bytes : Bytes) :
    intCell Int64.toInt (i64OfCell (some (some bytes))) =
      if bytes.length = 8 then .int (signed 8 (ofLeBytes bytes)) else .null := by
  simp only [i64OfCell, Option.join_some]
  split_ifs with length
  · exact congrArg _ (toInt_ofLeBytes 8 (by decide) length)
  · rfl

theorem readLe_zero_of_length {width : Nat} {bytes : Bytes} (length : bytes.length = width) :
    readLe width bytes 0 = ofLeBytes bytes := by
  rw [readLe, List.drop_zero, ← length, List.take_length]

/-- The detour keeps a cell exactly when it keeps its width. -/
theorem columnarCell_eq_iff (col : Native.ColumnMetadata) (cell : Cell) :
    columnarCell col (some cell) = receivedCell col cell ↔ WidthKept col.odbcType cell := by
  obtain ⟨name, odbcType⟩ := col
  cases cell with
  | none => cases odbcType <;> simp [columnarCell, receivedCell, WidthKept, i32OfCell, i64OfCell,
      intCell, bytesCell]
  | some bytes =>
      cases odbcType with
      | integer =>
          have value := convertData_ne_null bytes Native.OdbcType.integer.discriminant
          simp only [columnarCell, receivedCell, WidthKept, columnarWidth?, intCell_i32OfCell]
          split_ifs with length
          · simp [length, convertData, Native.OdbcType.discriminant, OdbcType.fromDiscriminant,
              readLe_zero_of_length length]
          · simp [length, value.symm]
      | bigInt =>
          have value := convertData_ne_null bytes Native.OdbcType.bigInt.discriminant
          simp only [columnarCell, receivedCell, WidthKept, columnarWidth?, intCell_i64OfCell]
          split_ifs with length
          · simp [length, convertData, Native.OdbcType.discriminant, OdbcType.fromDiscriminant,
              readLe_zero_of_length length]
          · simp [length, value.symm]
      | _ => simp [columnarCell, receivedCell, WidthKept, columnarWidth?, bytesCell]

/-- Indexing a row by column position walks row and columns together. -/
theorem mapIdx_columnarCell {columns : List Native.ColumnMetadata} {row : List Cell}
    (width : row.length = columns.length) :
    columns.mapIdx (fun index col => columnarCell col row[index]?) =
      List.zipWith (fun col cell => columnarCell col (some cell)) columns row := by
  induction columns generalizing row with
  | nil => simp
  | cons col columns ih =>
      cases row with
      | nil => cases width
      | cons cell row =>
          rw [List.mapIdx_cons, List.zipWith_cons_cons]
          simp only [List.getElem?_cons_zero, List.getElem?_cons_succ, ih (Nat.succ.inj width)]

/-- One row of a buffer after the detour, found by its position. -/
theorem getD_columnOf {rows : List (List Cell)} {r : Nat} (inside : r < rows.length)
    (col : Native.ColumnMetadata) (index : Nat) :
    ((columnOf rows index).map (columnarCell col)).getD r .null =
      columnarCell col (rows.getD r [])[index]? := by
  simp [columnOf, List.getD_eq_getElem?_getD, inside]

/-- The rows of a buffer after the detour. -/
theorem receivedBufferV2_rowBufferToColumnar {buffer : RowBuffer}
    (rectangular : buffer.Rectangular) (nonempty : buffer.columns ≠ []) :
    receivedBufferV2 (rowBufferToColumnar buffer) =
      { receivedBuffer buffer with
        rows := buffer.rows.map fun row =>
          List.zipWith (fun col cell => columnarCell col (some cell)) buffer.columns row } := by
  have some' : (rowBufferToColumnar buffer).columns ≠ [] := by
    rw [rowBufferToColumnar]
    simpa using nonempty
  have rows : (List.range buffer.rows.length).map (fun r =>
      buffer.columns.mapIdx fun index col =>
        ((columnOf buffer.rows index).map (columnarCell col)).getD r .null) =
      buffer.rows.map fun row =>
        List.zipWith (fun col cell => columnarCell col (some cell)) buffer.columns row := by
    have walk := congrArg (List.map fun row =>
      buffer.columns.mapIdx fun index col => columnarCell col row[index]?)
      (map_range_getD buffer.rows [])
    rw [List.map_map] at walk
    refine Eq.trans (List.map_inj_left.mpr fun r member => ?_)
      (walk.trans (List.map_inj_left.mpr fun row member => ?_))
    · simp only [getD_columnOf (List.mem_range.mp member), Function.comp_apply]
    · exact mapIdx_columnarCell (rectangular row member)
  rw [receivedBufferV2, if_neg some', receivedBuffer]
  simp only [rowBufferToColumnar, map_mapIdx, List.length_mapIdx, RowBuffer.rowCount,
    RowBuffer.columnCount, ownCells_columnDataOf, rows, mapIdx_eq_map]

theorem kindMatches_columnDataOf (col : Native.ColumnMetadata) (cells : List (Option Cell)) :
    KindMatches ⟨col, columnDataOf col.odbcType cells⟩ := by
  obtain ⟨name, odbcType⟩ := col
  cases odbcType <;> exact trivial

theorem cellCount_columnDataOf (t : Native.OdbcType) (cells : List (Option Cell)) :
    cellCount (columnDataOf t cells) = cells.length := by
  cases t <;> exact List.length_map _

theorem wellFormedV2_rowBufferToColumnar {codecs : Codecs} {library : DecompressLibrary}
    {buffer : RowBuffer}
    (inverts : ∀ block ∈ (rowBufferToColumnar buffer).columns, Inverts codecs library block.data) :
    WellFormedV2 codecs library (rowBufferToColumnar buffer) := by
  refine ⟨?_, ?_, inverts⟩
  · intro block member
    obtain ⟨index, inside, rfl⟩ := List.mem_mapIdx.mp member
    rw [cellCount_columnDataOf, columnOf, List.length_map]
    rfl
  · intro block member
    obtain ⟨index, inside, rfl⟩ := List.mem_mapIdx.mp member
    exact kindMatches_columnDataOf _ _

/-- The detour keeps a buffer exactly when there is a column to carry the rows and every
integer cell has its integer's width. -/
theorem receivedBufferV2_eq_iff {buffer : RowBuffer} (rectangular : buffer.Rectangular) :
    receivedBufferV2 (rowBufferToColumnar buffer) = receivedBuffer buffer ↔
      (buffer.columns ≠ [] ∨ buffer.rows = []) ∧
        ∀ row ∈ buffer.rows, ∀ pair ∈ buffer.columns.zip row,
          WidthKept pair.1.odbcType pair.2 := by
  by_cases empty : buffer.columns = []
  · have collapsed : receivedBufferV2 (rowBufferToColumnar buffer) = ⟨[], [], 0, 0⟩ := by
      rw [receivedBufferV2, if_pos (by rw [rowBufferToColumnar, empty]; rfl)]
    rw [collapsed]
    constructor
    · intro same
      have count : 0 = buffer.rows.length := congrArg ParsedRowBuffer.rowCount same
      refine ⟨.inr (List.length_eq_zero_iff.mp count.symm), ?_⟩
      simp [empty]
    · rintro ⟨some' | none, -⟩
      · exact absurd empty some'
      · simp [receivedBuffer, RowBuffer.rowCount, RowBuffer.columnCount, empty, none]
  · rw [receivedBufferV2_rowBufferToColumnar rectangular empty]
    simp only [ne_eq, empty, not_false_eq_true, true_or, true_and]
    simp only [receivedBuffer, ParsedRowBuffer.mk.injEq, true_and, and_true, List.map_inj_left]
    refine forall₂_congr fun row member => ?_
    rw [receivedRow, zipWith_inj_left]
    refine forall₂_congr fun pair _ => ?_
    exact columnarCell_eq_iff pair.1 pair.2

/-- Columns and rows carry the same result exactly when there is a column to carry
the rows and every integer cell has its integer's width. -/
theorem parse_columnar_eq_rowMajor_iff {codecs : Codecs} {library : DecompressLibrary}
    {buffer : RowBuffer} {useCompression : Bool} {columnar rowMajor : Bytes}
    (rectangular : buffer.Rectangular)
    (inverts : ∀ block ∈ (rowBufferToColumnar buffer).columns, Inverts codecs library block.data)
    (encodedColumnar :
      encode codecs (rowBufferToColumnar buffer) useCompression = .ok columnar)
    (encodedRowMajor : RowBufferEncoder.tryEncode buffer = .ok rowMajor) :
    (∃ result, parse library (.fromList columnar) = .ok result ∧
      parse library (.fromList rowMajor) = .ok result) ↔
      (buffer.columns ≠ [] ∨ buffer.rows = []) ∧
        ∀ row ∈ buffer.rows, ∀ pair ∈ buffer.columns.zip row,
          WidthKept pair.1.odbcType pair.2 := by
  obtain ⟨rfl, encodableV2⟩ := encode_eq_ok encodedColumnar
  obtain ⟨encodable, rfl⟩ := RowBufferEncoder.tryEncode_eq_ok encodedRowMajor
  rw [parse_messageBytesV2 (wellFormedV2_rowBufferToColumnar inverts) encodableV2,
    Dart.parse_messageBytes rectangular encodable]
  rw [← receivedBufferV2_eq_iff rectangular]
  constructor
  · rintro ⟨result, columns, rows⟩
    exact Except.ok.inj (columns.trans rows.symm)
  · intro same
    exact ⟨_, rfl, by rw [same]⟩

theorem parse_columnar_eq_rowMajor_sampleRows :
    ∃ columnar rowMajor result,
      encode rawFrameCodecs (rowBufferToColumnar sampleRows) true = .ok columnar ∧
      RowBufferEncoder.tryEncode sampleRows = .ok rowMajor ∧
      parse (engineLibrary rawFrameCodecs) (.fromList columnar) = .ok result ∧
      parse (engineLibrary rawFrameCodecs) (.fromList rowMajor) = .ok result := by
  obtain ⟨columnar, encoded⟩ : ∃ columnar,
      encode rawFrameCodecs (rowBufferToColumnar sampleRows) true = .ok columnar := ⟨_, rfl⟩
  have inverts : ∀ block ∈ (rowBufferToColumnar sampleRows).columns,
      Inverts rawFrameCodecs (engineLibrary rawFrameCodecs) block.data :=
    inverts_rawFrameCodecs (by decide)
  have rowMajor : RowBufferEncoder.tryEncode sampleRows = .ok (messageBytes sampleRows) := by
    decide
  obtain ⟨result, read, read'⟩ :=
    (parse_columnar_eq_rowMajor_iff (by decide) inverts encoded rowMajor).mpr (by decide)
  exact ⟨columnar, _, result, encoded, rowMajor, read, read'⟩

/-- The driver's text "abc" in an Integer column, as the cell reader keeps it. -/
def textInIntegerColumn : RowBuffer where
  columns := [⟨"n", .integer⟩]
  rows := [[CellReader.readCellBytes .integer (some ⟨[0x61, 0x62, 0x63], []⟩)]]

/-- In rows the text arrives, in columns it is NULL. -/
theorem parse_textInIntegerColumn :
    textInIntegerColumn.Rectangular ∧
      (∀ block ∈ (rowBufferToColumnar textInIntegerColumn).columns,
        Inverts rawFrameCodecs (engineLibrary rawFrameCodecs) block.data) ∧
      ∃ columnar rowMajor,
        encode rawFrameCodecs (rowBufferToColumnar textInIntegerColumn) false = .ok columnar ∧
        RowBufferEncoder.tryEncode textInIntegerColumn = .ok rowMajor ∧
        parse (engineLibrary rawFrameCodecs) (.fromList columnar) =
          .ok ⟨[⟨"n", 2⟩], [[.null]], 1, 1⟩ ∧
        parse (engineLibrary rawFrameCodecs) (.fromList rowMajor) =
          .ok ⟨[⟨"n", 2⟩], [[.text "abc"]], 1, 1⟩ ∧
        ¬ ∃ result, parse (engineLibrary rawFrameCodecs) (.fromList columnar) = .ok result ∧
          parse (engineLibrary rawFrameCodecs) (.fromList rowMajor) = .ok result := by
  have inColumns : parse (engineLibrary rawFrameCodecs) (.fromList (messageBytesV2 rawFrameCodecs
      false (rowBufferToColumnar textInIntegerColumn))) =
      .ok ⟨[⟨"n", 2⟩], [[.null]], 1, 1⟩ := by decide
  have inRows : parse (engineLibrary rawFrameCodecs) (.fromList (messageBytes
      textInIntegerColumn)) = .ok ⟨[⟨"n", 2⟩], [[.text "abc"]], 1, 1⟩ := by decide
  refine ⟨by decide, inverts_rawFrameCodecs (by decide), _, messageBytes textInIntegerColumn, rfl,
    by decide, inColumns, inRows, ?_⟩
  rintro ⟨result, columns, rows⟩
  have same := inColumns.symm.trans (columns.trans (rows.symm.trans inRows))
  revert same
  decide

end OdbcFast.Verification
