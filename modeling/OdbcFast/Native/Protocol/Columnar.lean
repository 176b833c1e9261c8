import OdbcFast.Native.Protocol.Encoder

/-!
# The columnar layout

A `RowBufferV2` holds one block per column. Each block is written as column
metadata, a compression flag and its raw cells, either stored or compressed: a
block is compressed only on request, only above 100 bytes and only when that
makes it smaller. `row_buffer_to_columnar` turns rows into blocks; a cell of an
integer column whose bytes do not have the integer's width becomes NULL there.

The compression libraries are a parameter. `odbc_columnar_decompress` is the
engine's exported inverse, with its own limit on the decompressed length.
-/

namespace OdbcFast.Native

open Wire

inductive CompressionType where
  | none
  | zstd
  | lz4
  deriving DecidableEq, Repr

namespace CompressionType

/-- The value of `compression_type as u8`. -/
def discriminant : CompressionType → UInt8
  | none => 0
  | zstd => 1
  | lz4 => 2

def fromU8 (value : Nat) : CompressionType :=
  if value = 1 then zstd else if value = 2 then lz4 else none

end CompressionType

/-- `ColumnData`. -/
inductive ColumnData where
  | varchar (cells : List (Option Bytes))
  | integer (cells : List (Option Int32))
  | bigInt (cells : List (Option Int64))
  | binary (cells : List (Option Bytes))
  deriving DecidableEq, Repr

structure ColumnBlock where
  metadata : ColumnMetadata
  data : ColumnData
  deriving DecidableEq, Repr

structure RowBufferV2 where
  columns : List ColumnBlock
  rowCount : Nat
  flags : UInt16
  deriving DecidableEq, Repr

/-! ## From rows to columns -/

/-- `row.get(col_idx)` for every row. -/
def columnOf (rows : List (List Cell)) (index : Nat) : List (Option Cell) :=
  rows.map fun row => row[index]?

/-- Four bytes are an `i32`; anything else is dropped. -/
def i32OfCell (cell : Option Cell) : Option Int32 :=
  match cell.join with
  | some bytes =>
    if bytes.length = 4 then some (Int32.ofBitVec (BitVec.ofNat 32 (ofLeBytes bytes))) else none
  | none => none

def i64OfCell (cell : Option Cell) : Option Int64 :=
  match cell.join with
  | some bytes =>
    if bytes.length = 8 then some (Int64.ofBitVec (BitVec.ofNat 64 (ofLeBytes bytes))) else none
  | none => none

def columnDataOf (odbcType : OdbcType) (cells : List (Option Cell)) : ColumnData :=
  match odbcType with
  | .integer => .integer (cells.map i32OfCell)
  | .bigInt => .bigInt (cells.map i64OfCell)
  | _ => .varchar (cells.map Option.join)

def rowBufferToColumnar (buffer : RowBuffer) : RowBufferV2 where
  columns := buffer.columns.mapIdx fun index col =>
    ⟨⟨col.name, col.odbcType⟩, columnDataOf col.odbcType (columnOf buffer.rows index)⟩
  rowCount := buffer.rowCount
  flags := 0

/-! ## Compression -/

/-- The zstd and lz4 libraries: one-shot encoding, and a decoder read to its end. -/
structure Codecs where
  encode : CompressionType → Bytes → Except OdbcError Bytes
  decode : CompressionType → Bytes → Except OdbcError Bytes

def compress (codecs : Codecs) (data : Bytes) (compressionType : CompressionType) :
    Except OdbcError Bytes :=
  match compressionType with
  | .none => .ok data
  | t => codecs.encode t data

def decompressionLimitError (actual limit : Nat) : OdbcError :=
  .resourceLimitReached s!"Decompressed payload length {actual} exceeds limit {limit}"

/-- At most one byte more than the limit is read. -/
def decompressWithLimit (codecs : Codecs) (data : Bytes) (compressionType : CompressionType)
    (limit : Nat) : Except OdbcError Bytes :=
  match compressionType with
  | .none =>
    if data.length > limit then .error (decompressionLimitError data.length limit) else .ok data
  | t => do
    let decompressed ← codecs.decode t data
    if decompressed.length > limit then .error (decompressionLimitError (limit + 1) limit)
    else .ok decompressed

def maxColumnarDecompressedLen : Nat := 256 * 1024 * 1024

/-- The output of `odbc_columnar_decompress` when its status is zero. -/
def odbcColumnarDecompress (codecs : Codecs) (algorithm : Nat) (data : Bytes) : Option Bytes :=
  match CompressionType.fromU8 algorithm with
  | .none => none
  | t => (decompressWithLimit codecs data t maxColumnarDecompressedLen).toOption

/-! ## The encoder -/

namespace ColumnarEncoder

def versionV2 : Nat := 2

def checkedU16 (value : Nat) (field : String) : Except OdbcError Nat :=
  if value < 2 ^ 16 then .ok value
  else .error (.resourceLimitReached s!"{field} {value} exceeds u16 wire limit")

def checkedU32 (value : Nat) (field : String) : Except OdbcError Nat :=
  if value < 2 ^ 32 then .ok value
  else .error (.resourceLimitReached s!"{field} {value} exceeds u32 wire limit")

def checkedAdd (current added : Nat) (context : String) : Except OdbcError Nat :=
  if current + added < 2 ^ 64 then .ok (current + added)
  else .error (.resourceLimitReached
    s!"Columnar payload size overflow while adding {context}")

/-- Size of cells with a length field. -/
def estimateBytesCells : List (Option Bytes) → Nat → Except OdbcError Nat
  | [], size => .ok size
  | none :: cells, size => do
      let size ← checkedAdd size 1 "cell null flag"
      estimateBytesCells cells size
  | some bytes :: cells, size => do
      let size ← checkedAdd size 1 "cell null flag"
      let _ ← checkedU32 bytes.length "cell length"
      let size ← checkedAdd size 4 "cell length"
      let size ← checkedAdd size bytes.length "cell payload"
      estimateBytesCells cells size

/-- Size of cells with a fixed width. -/
def estimateFixedCells {α : Type} (width : Nat) (context : String) :
    List (Option α) → Nat → Except OdbcError Nat
  | [], size => .ok size
  | none :: cells, size => do
      let size ← checkedAdd size 1 "cell null flag"
      estimateFixedCells width context cells size
  | some _ :: cells, size => do
      let size ← checkedAdd size 1 "cell null flag"
      let size ← checkedAdd size width context
      estimateFixedCells width context cells size

def estimateColumnPayloadSize (block : ColumnBlock) : Except OdbcError Nat :=
  match block.data with
  | .varchar cells | .binary cells => estimateBytesCells cells 0
  | .integer cells => estimateFixedCells 4 "integer cell" cells 0
  | .bigInt cells => estimateFixedCells 8 "bigint cell" cells 0

def estimateEncodedSize : List ColumnBlock → Nat → Except OdbcError Nat
  | [], size => .ok size
  | block :: columns, size => do
      let size ← checkedAdd size 2 "column type"
      let size ← checkedAdd size 2 "column name length"
      let size ← checkedAdd size (utf8Bytes block.metadata.name).length "column name"
      let size ← checkedAdd size 1 "compression flag"
      let size ← checkedAdd size 1 "compression algorithm"
      let size ← checkedAdd size 4 "column payload length"
      let payload ← estimateColumnPayloadSize block
      let size ← checkedAdd size payload "column payload"
      estimateEncodedSize columns size

/-- Raw cells with a length field; the field names the kind of cell in errors. -/
def rawBytesCells (field : String) : List (Option Bytes) → Except OdbcError Bytes
  | [] => .ok []
  | none :: cells => do
      let rest ← rawBytesCells field cells
      .ok (1 :: rest)
  | some bytes :: cells => do
      let len ← checkedU32 bytes.length field
      let rest ← rawBytesCells field cells
      .ok (0 :: (toLeBytes 4 len ++ (bytes ++ rest)))

/-- Flag and fixed-width value of a cell. -/
def fixedCell {α : Type} (toBytes : α → Bytes) : Option α → Bytes
  | none => [1]
  | some value => 0 :: toBytes value

def rawData : ColumnData → Except OdbcError Bytes
  | .varchar cells => rawBytesCells "varchar cell length" cells
  | .integer cells => .ok (cells.flatMap (fixedCell i32Bytes))
  | .bigInt cells => .ok (cells.flatMap (fixedCell i64Bytes))
  | .binary cells => rawBytesCells "binary cell length" cells

/-- Compression pays only above 100 bytes and only when the result is smaller. -/
def selectPayload (codecs : Codecs) (raw : Bytes) (useCompression : Bool) :
    Bytes × CompressionType :=
  if useCompression ∧ raw.length > 100 then
    match compress codecs raw .zstd with
    | .ok compressed => if compressed.length < raw.length then (compressed, .zstd) else (raw, .none)
    | .error _ => (raw, .none)
  else (raw, .none)

def encodeColumnBlock (codecs : Codecs) (block : ColumnBlock) (useCompression : Bool) :
    Except OdbcError Bytes := do
  let nameLen ← checkedU16 (utf8Bytes block.metadata.name).length "column name length"
  let _ ← estimateColumnPayloadSize block
  let raw ← rawData block.data
  let (payload, compressionType) := selectPayload codecs raw useCompression
  let payloadLen ← checkedU32 payload.length "column payload length"
  .ok (toLeBytes 2 block.metadata.odbcType.discriminant ++
    (toLeBytes 2 nameLen ++ utf8Bytes block.metadata.name) ++
    (if compressionType ≠ .none then [1, compressionType.discriminant] else [0]) ++
    (toLeBytes 4 payloadLen ++ payload))

def encodeColumnBlocks (codecs : Codecs) (useCompression : Bool) :
    List ColumnBlock → Except OdbcError Bytes
  | [] => .ok []
  | block :: columns => do
      let bytes ← encodeColumnBlock codecs block useCompression
      let rest ← encodeColumnBlocks codecs useCompression columns
      .ok (bytes ++ rest)

/-- The payload size stands in front of the payload; the source reserves its four
bytes and fills them in after the blocks are written. -/
def encode (codecs : Codecs) (buffer : RowBufferV2) (useCompression : Bool) :
    Except OdbcError Bytes := do
  let _ ← estimateEncodedSize buffer.columns 19
  let columnCount ← checkedU16 buffer.columns.length "column count"
  let rowCount ← checkedU32 buffer.rowCount "row count"
  let payload ← encodeColumnBlocks codecs useCompression buffer.columns
  let payloadSize ← checkedU32 payload.length "payload size"
  .ok (toLeBytes 4 magic ++ (toLeBytes 2 versionV2 ++ (toLeBytes 2 buffer.flags.toNat ++
    (toLeBytes 2 columnCount ++ (toLeBytes 4 rowCount ++
      ([if useCompression then 1 else 0] ++ toLeBytes 4 payloadSize))))) ++ payload)

/-! ## The layout of a message -/

theorem checkedU16_eq_ok {value len : Nat} {field : String} :
    checkedU16 value field = .ok len ↔ value < 256 ^ 2 ∧ len = value := by
  rw [checkedU16, show (2 : Nat) ^ 16 = 256 ^ 2 by decide]
  exact ite_ok_eq_ok

theorem checkedU32_eq_ok {value len : Nat} {field : String} :
    checkedU32 value field = .ok len ↔ value < 256 ^ 4 ∧ len = value := by
  rw [checkedU32, show (2 : Nat) ^ 32 = 256 ^ 4 by decide]
  exact ite_ok_eq_ok

/-- The raw cells of a column. -/
def rawBytes : ColumnData → Bytes
  | .varchar cells => cells.flatMap cellBytes
  | .integer cells => cells.flatMap (fixedCell i32Bytes)
  | .bigInt cells => cells.flatMap (fixedCell i64Bytes)
  | .binary cells => cells.flatMap cellBytes

/-- Compression flag, algorithm if there is one, length and payload. -/
def storedBytes : Bytes × CompressionType → Bytes
  | (payload, .none) => [0] ++ (toLeBytes 4 payload.length ++ payload)
  | (payload, compressionType) =>
      [1] ++ ([compressionType.discriminant] ++ (toLeBytes 4 payload.length ++ payload))

def blockBytes (codecs : Codecs) (useCompression : Bool) (block : ColumnBlock) : Bytes :=
  columnBytes block.metadata ++
    storedBytes (selectPayload codecs (rawBytes block.data) useCompression)

/-- The nineteen bytes in front of a columnar payload. -/
def headerBytesV2 (flags columnCount rowCount : Nat) (useCompression : Bool)
    (payloadSize : Nat) : Bytes :=
  toLeBytes 4 magic ++ (toLeBytes 2 versionV2 ++ (toLeBytes 2 flags ++
    (toLeBytes 2 columnCount ++ (toLeBytes 4 rowCount ++
      ([if useCompression then 1 else 0] ++ toLeBytes 4 payloadSize)))))

def payloadBytesV2 (codecs : Codecs) (useCompression : Bool) (buffer : RowBufferV2) : Bytes :=
  buffer.columns.flatMap (blockBytes codecs useCompression)

def messageBytesV2 (codecs : Codecs) (useCompression : Bool) (buffer : RowBufferV2) : Bytes :=
  headerBytesV2 buffer.flags.toNat buffer.columns.length buffer.rowCount useCompression
      (payloadBytesV2 codecs useCompression buffer).length ++
    payloadBytesV2 codecs useCompression buffer

/-- The lengths of one block fit their fields. -/
structure BlockFits (codecs : Codecs) (useCompression : Bool) (block : ColumnBlock) : Prop where
  name : (utf8Bytes block.metadata.name).length < 256 ^ 2
  cells : ∀ cells, block.data = .varchar cells ∨ block.data = .binary cells →
    ∀ bytes, some bytes ∈ cells → bytes.length < 256 ^ 4
  payload : (selectPayload codecs (rawBytes block.data) useCompression).1.length < 256 ^ 4

/-- The lengths of a whole buffer fit their fields. -/
structure EncodableV2 (codecs : Codecs) (useCompression : Bool) (buffer : RowBufferV2) :
    Prop where
  columns : buffer.columns.length < 256 ^ 2
  rows : buffer.rowCount < 256 ^ 4
  blocks : ∀ block ∈ buffer.columns, BlockFits codecs useCompression block
  payload : (payloadBytesV2 codecs useCompression buffer).length < 256 ^ 4

@[simp] theorem length_headerBytesV2 (flags columnCount rowCount : Nat) (useCompression : Bool)
    (payloadSize : Nat) :
    (headerBytesV2 flags columnCount rowCount useCompression payloadSize).length = 19 := by
  simp [headerBytesV2]

theorem length_messageBytesV2 (codecs : Codecs) (useCompression : Bool) (buffer : RowBufferV2) :
    (messageBytesV2 codecs useCompression buffer).length =
      19 + (payloadBytesV2 codecs useCompression buffer).length := by
  rw [messageBytesV2, List.length_append, length_headerBytesV2]

theorem rawBytesCells_eq_ok {field : String} {cells : List (Option Bytes)} {raw : Bytes}
    (h : rawBytesCells field cells = .ok raw) :
    raw = cells.flatMap cellBytes ∧ ∀ bytes, some bytes ∈ cells → bytes.length < 256 ^ 4 := by
  induction cells generalizing raw with
  | nil =>
      cases h
      simp
  | cons cell cells ih =>
      cases cell with
      | none =>
          obtain ⟨rest, written, h⟩ := bind_eq_ok.mp h
          obtain ⟨rfl, fits⟩ := ih written
          cases h
          exact ⟨rfl, by simpa using fits⟩
      | some bytes =>
          obtain ⟨len, checked, h⟩ := bind_eq_ok.mp h
          obtain ⟨rest, written, h⟩ := bind_eq_ok.mp h
          obtain ⟨small, rfl⟩ := checkedU32_eq_ok.mp checked
          obtain ⟨rfl, fits⟩ := ih written
          cases h
          refine ⟨by simp [cellBytes], ?_⟩
          intro other member
          rcases List.mem_cons.mp member with same | later
          · rw [Option.some.inj same]
            exact small
          · exact fits other later

theorem rawData_eq_ok {data : ColumnData} {raw : Bytes} (h : rawData data = .ok raw) :
    raw = rawBytes data ∧ ∀ cells, data = .varchar cells ∨ data = .binary cells →
      ∀ bytes, some bytes ∈ cells → bytes.length < 256 ^ 4 := by
  cases data with
  | varchar cells | binary cells =>
      obtain ⟨written, fits⟩ := rawBytesCells_eq_ok h
      exact ⟨written, by simpa using fits⟩
  | integer cells | bigInt cells => exact ⟨(Except.ok.inj h).symm, by simp⟩

theorem encodeColumnBlock_eq_ok {codecs : Codecs} {block : ColumnBlock} {useCompression : Bool}
    {bytes : Bytes} (h : encodeColumnBlock codecs block useCompression = .ok bytes) :
    bytes = blockBytes codecs useCompression block ∧ BlockFits codecs useCompression block := by
  obtain ⟨nameLen, named, h⟩ := bind_eq_ok.mp h
  obtain ⟨_, _, h⟩ := bind_eq_ok.mp h
  obtain ⟨raw, written, h⟩ := bind_eq_ok.mp h
  obtain ⟨short, rfl⟩ := checkedU16_eq_ok.mp named
  obtain ⟨rfl, cells⟩ := rawData_eq_ok written
  rcases chosen : selectPayload codecs (rawBytes block.data) useCompression with
    ⟨payload, compressionType⟩
  simp only [chosen] at h
  obtain ⟨payloadLen, measured, h⟩ := bind_eq_ok.mp h
  obtain ⟨fits, rfl⟩ := checkedU32_eq_ok.mp measured
  refine ⟨?_, ⟨short, cells, by rwa [chosen]⟩⟩
  rw [Except.ok.injEq] at h
  rw [← h, blockBytes, columnBytes, chosen]
  cases compressionType <;> simp [storedBytes]

theorem encodeColumnBlocks_eq_ok {codecs : Codecs} {columns : List ColumnBlock}
    {useCompression : Bool} {bytes : Bytes}
    (h : encodeColumnBlocks codecs useCompression columns = .ok bytes) :
    bytes = columns.flatMap (blockBytes codecs useCompression) ∧
      ∀ block ∈ columns, BlockFits codecs useCompression block := by
  induction columns generalizing bytes with
  | nil =>
      cases h
      simp
  | cons block columns ih =>
      obtain ⟨head, first, h⟩ := bind_eq_ok.mp h
      obtain ⟨rest, later, h⟩ := bind_eq_ok.mp h
      obtain ⟨rfl, fit⟩ := encodeColumnBlock_eq_ok first
      obtain ⟨rfl, fits⟩ := ih later
      cases h
      exact ⟨by rw [List.flatMap_cons], List.forall_mem_cons.mpr ⟨fit, fits⟩⟩

/-- A successful encoding is the columnar layout, and every length fits. -/
theorem encode_eq_ok {codecs : Codecs} {buffer : RowBufferV2} {useCompression : Bool}
    {bytes : Bytes} (h : encode codecs buffer useCompression = .ok bytes) :
    bytes = messageBytesV2 codecs useCompression buffer ∧
      EncodableV2 codecs useCompression buffer := by
  obtain ⟨_, _, h⟩ := bind_eq_ok.mp h
  obtain ⟨columnCount, counted, h⟩ := bind_eq_ok.mp h
  obtain ⟨rowCount, rowed, h⟩ := bind_eq_ok.mp h
  obtain ⟨payload, written, h⟩ := bind_eq_ok.mp h
  obtain ⟨payloadSize, sized, h⟩ := bind_eq_ok.mp h
  obtain ⟨few, rfl⟩ := checkedU16_eq_ok.mp counted
  obtain ⟨fewRows, rfl⟩ := checkedU32_eq_ok.mp rowed
  obtain ⟨rfl, blocks⟩ := encodeColumnBlocks_eq_ok written
  obtain ⟨small, rfl⟩ := checkedU32_eq_ok.mp sized
  cases h
  exact ⟨rfl, ⟨few, fewRows, blocks, small⟩⟩

end ColumnarEncoder

end OdbcFast.Native
