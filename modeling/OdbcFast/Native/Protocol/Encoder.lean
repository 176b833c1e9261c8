import OdbcFast.Native.Protocol.ParamValue
import OdbcFast.Native.Protocol.RowBuffer

/-!
# The row-major encoder

`RowBufferEncoder` makes two passes over a buffer: one that checks every length
and adds up the payload size, and one that writes header, column metadata and
cells. The model keeps both passes and returns the sequence of `write_all`
pieces, since a writer other than a vector sees exactly that sequence.

The second half states the layout by itself: `messageBytes` is the header with
the payload's length followed by the payload. `tryEncode_eq_ok` says that a
successful encoding is that layout, so the size pass equals the bytes written.
-/

namespace OdbcFast.Native

open Wire

/-- `EncodeError`; the writer's own failure is not raised when writing to a vector. -/
inductive EncodeError where
  | lengthTooLarge (field : String) (value : Nat) (target : String)
  | payloadSizeOverflow (context : String)
  deriving DecidableEq, Repr

def magic : Nat := 0x4F444243
def version : Nat := 1

/-- `b"OUT1"`. -/
def outputFooterMagic : Bytes := [0x4F, 0x55, 0x54, 0x31]

/-- `b"RC1\0"`. -/
def refCursorFooterMagic : Bytes := [0x52, 0x43, 0x31, 0x00]

def checkedU16Len (value : Nat) (field : String) : Except EncodeError Nat :=
  if value < 2 ^ 16 then .ok value else .error (.lengthTooLarge field value "u16")

def checkedU32Len (value : Nat) (field : String) : Except EncodeError Nat :=
  if value < 2 ^ 32 then .ok value else .error (.lengthTooLarge field value "u32")

/-- `usize::checked_add` on a 64-bit target. -/
def checkedPayloadAdd (current added : Nat) (context : String) : Except EncodeError Nat :=
  if current + added < 2 ^ 64 then .ok (current + added)
  else .error (.payloadSizeOverflow context)

namespace RowBufferEncoder

/-- First pass over the column metadata. -/
def metadataSize : List ColumnMetadata → Nat → Except EncodeError Nat
  | [], size => .ok size
  | col :: columns, size => do
      let _ ← checkedU16Len (utf8Bytes col.name).length "column name length"
      let size ← checkedPayloadAdd size 2 "column type"
      let size ← checkedPayloadAdd size 2 "column name length"
      let size ← checkedPayloadAdd size (utf8Bytes col.name).length "column name"
      metadataSize columns size

/-- First pass over the cells of one row. -/
def rowSize : List Cell → Nat → Except EncodeError Nat
  | [], size => .ok size
  | none :: row, size => do
      let size ← checkedPayloadAdd size 1 "cell null flag"
      rowSize row size
  | some data :: row, size => do
      let size ← checkedPayloadAdd size 1 "cell null flag"
      let _ ← checkedU32Len data.length "cell data length"
      let size ← checkedPayloadAdd size 4 "cell data length"
      let size ← checkedPayloadAdd size data.length "cell data"
      rowSize row size

def rowsSize : List (List Cell) → Nat → Except EncodeError Nat
  | [], size => .ok size
  | row :: rows, size => do
      let size ← rowSize row size
      rowsSize rows size

/-- Second pass over the column metadata. -/
def columnWrites : List ColumnMetadata → Except EncodeError (List Bytes)
  | [] => .ok []
  | col :: columns => do
      let nameLen ← checkedU16Len (utf8Bytes col.name).length "column name length"
      let rest ← columnWrites columns
      .ok (toLeBytes 2 col.odbcType.discriminant :: toLeBytes 2 nameLen ::
        utf8Bytes col.name :: rest)

/-- Second pass over the cells of one row. -/
def rowWrites : List Cell → Except EncodeError (List Bytes)
  | [] => .ok []
  | some data :: row => do
      let dataLen ← checkedU32Len data.length "cell data length"
      let rest ← rowWrites row
      .ok ([0] :: toLeBytes 4 dataLen :: data :: rest)
  | none :: row => do
      let rest ← rowWrites row
      .ok ([1] :: rest)

def rowsWrites : List (List Cell) → Except EncodeError (List Bytes)
  | [] => .ok []
  | row :: rows => do
      let cells ← rowWrites row
      let rest ← rowsWrites rows
      .ok (cells ++ rest)

/-- The pieces `encode_to_writer` hands to `write_all`, in order. -/
def encodeToWriter (buffer : RowBuffer) : Except EncodeError (List Bytes) := do
  let columnCount ← checkedU16Len buffer.columnCount "column count"
  let rowCount ← checkedU32Len buffer.rowCount "row count"
  let size ← metadataSize buffer.columns 0
  let size ← rowsSize buffer.rows size
  let payloadSize ← checkedU32Len size "payload size"
  let columns ← columnWrites buffer.columns
  let cells ← rowsWrites buffer.rows
  .ok ([toLeBytes 4 magic, toLeBytes 2 version, toLeBytes 2 columnCount,
    toLeBytes 4 rowCount, toLeBytes 4 payloadSize] ++ columns ++ cells)

def tryEncode (buffer : RowBuffer) : Except EncodeError Bytes :=
  (encodeToWriter buffer).map List.flatten

/-- `RowBufferEncoder::encode` panics where `try_encode` refuses. -/
def encode {ε : Type} (buffer : RowBuffer) : Except (Fault ε) Bytes :=
  expect (tryEncode buffer) "row buffer exceeds binary protocol limits"

/-- The serialised outputs one after the other. -/
def outputsWrites : List ParamValue → Except (Fault EncodeError) Bytes
  | [] => .ok []
  | p :: outputs => do
      let bytes ← p.serialize
      let rest ← outputsWrites outputs
      .ok (bytes ++ rest)

def tryAppendOutputFooter (base : Bytes) (outputs : List ParamValue) :
    Except (Fault EncodeError) Bytes :=
  if outputs.isEmpty then .ok base
  else do
    let outputCount ← orFault (checkedU32Len outputs.length "output parameter count")
    let values ← outputsWrites outputs
    .ok (base ++ outputFooterMagic ++ toLeBytes 4 outputCount ++ values)

/-- `append_output_footer` panics where the checked form refuses. -/
def appendOutputFooter {ε : Type} (base : Bytes) (outputs : List ParamValue) :
    Except (Fault ε) Bytes :=
  match tryAppendOutputFooter base outputs with
  | .ok bytes => .ok bytes
  | .error (.panic message) => .error (.panic message)
  | .error (.err _) => .error (.panic "output footer exceeds binary protocol limits")

def blobsWrites : List Bytes → Except EncodeError Bytes
  | [] => .ok []
  | b :: blobs => do
      let blobLen ← checkedU32Len b.length "ref cursor payload length"
      let rest ← blobsWrites blobs
      .ok (toLeBytes 4 blobLen ++ b ++ rest)

def tryAppendRefCursorFooter (base : Bytes) (blobs : List Bytes) :
    Except EncodeError Bytes :=
  if blobs.isEmpty then .ok base
  else do
    let blobCount ← checkedU32Len blobs.length "ref cursor count"
    let messages ← blobsWrites blobs
    .ok (base ++ refCursorFooterMagic ++ toLeBytes 4 blobCount ++ messages)

def appendRefCursorFooter {ε : Type} (base : Bytes) (blobs : List Bytes) :
    Except (Fault ε) Bytes :=
  expect (tryAppendRefCursorFooter base blobs) "ref cursor footer exceeds binary protocol limits"

end RowBufferEncoder

/-! ## What the checks establish -/

theorem checkedU16Len_eq_ok {value len : Nat} {field : String} :
    checkedU16Len value field = .ok len ↔ value < 256 ^ 2 ∧ len = value := by
  rw [checkedU16Len, show (2 : Nat) ^ 16 = 256 ^ 2 by decide]
  exact ite_ok_eq_ok

theorem checkedU32Len_eq_ok {value len : Nat} {field : String} :
    checkedU32Len value field = .ok len ↔ value < 256 ^ 4 ∧ len = value := by
  rw [checkedU32Len, show (2 : Nat) ^ 32 = 256 ^ 4 by decide]
  exact ite_ok_eq_ok

theorem checkedPayloadAdd_eq_ok {current added size : Nat} {context : String} :
    checkedPayloadAdd current added context = .ok size →
      size = current + added := by
  rw [checkedPayloadAdd]
  split_ifs with small
  · intro h
    exact (Except.ok.inj h).symm
  · intro h
    cases h

/-! ## The layout of a message -/

/-- Type code, name length and name of one column. -/
def columnBytes (col : ColumnMetadata) : Bytes :=
  toLeBytes 2 col.odbcType.discriminant ++
    (toLeBytes 2 (utf8Bytes col.name).length ++ utf8Bytes col.name)

/-- NULL flag, then length and data of a cell that is not NULL. -/
def cellBytes : Cell → Bytes
  | none => [1]
  | some data => [0] ++ (toLeBytes 4 data.length ++ data)

def rowBytes (row : List Cell) : Bytes := row.flatMap cellBytes

def payloadBytes (buffer : RowBuffer) : Bytes :=
  buffer.columns.flatMap columnBytes ++ buffer.rows.flatMap rowBytes

/-- The sixteen bytes in front of a payload. -/
def headerBytes (columnCount rowCount payloadSize : Nat) : Bytes :=
  toLeBytes 4 magic ++ (toLeBytes 2 version ++ (toLeBytes 2 columnCount ++
    (toLeBytes 4 rowCount ++ toLeBytes 4 payloadSize)))

def messageBytes (buffer : RowBuffer) : Bytes :=
  headerBytes buffer.columnCount buffer.rowCount (payloadBytes buffer).length ++
    payloadBytes buffer

/-- The `OUT1` trailer; no values, no trailer. -/
def outputFooterBytes (outputs : List ParamValue) : Bytes :=
  if outputs = [] then []
  else outputFooterMagic ++ (toLeBytes 4 outputs.length ++ outputs.flatMap ParamValue.wire)

/-- One embedded message with its length. -/
def blobBytes (blob : Bytes) : Bytes := toLeBytes 4 blob.length ++ blob

/-- The `RC1` trailer; no cursors, no trailer. -/
def refCursorFooterBytes (blobs : List Bytes) : Bytes :=
  if blobs = [] then []
  else refCursorFooterMagic ++ (toLeBytes 4 blobs.length ++ blobs.flatMap blobBytes)

/-- Every length of the buffer fits the field that carries it. -/
structure Encodable (buffer : RowBuffer) : Prop where
  columns : buffer.columnCount < 256 ^ 2
  rows : buffer.rowCount < 256 ^ 4
  names : ∀ col ∈ buffer.columns, (utf8Bytes col.name).length < 256 ^ 2
  cells : ∀ row ∈ buffer.rows, ∀ data, some data ∈ row → data.length < 256 ^ 4
  payload : (payloadBytes buffer).length < 256 ^ 4

@[simp] theorem length_headerBytes (columnCount rowCount payloadSize : Nat) :
    (headerBytes columnCount rowCount payloadSize).length = 16 := by
  simp [headerBytes]

/-- The five words of a header, wherever it stands. -/
theorem headerBytes_words {columnCount rowCount payloadSize offset : Nat} {buffer : Bytes}
    (there : OccursAt (headerBytes columnCount rowCount payloadSize) offset buffer)
    (columns : columnCount < 256 ^ 2) (rows : rowCount < 256 ^ 4)
    (payload : payloadSize < 256 ^ 4) :
    readLe 4 buffer offset = magic ∧ readLe 2 buffer (offset + 4) = version ∧
      readLe 2 buffer (offset + 6) = columnCount ∧ readLe 4 buffer (offset + 8) = rowCount ∧
      readLe 4 buffer (offset + 12) = payloadSize := by
  obtain ⟨marked, there⟩ := OccursAt.append_iff.mp there
  obtain ⟨versioned, there⟩ := OccursAt.append_iff.mp there
  obtain ⟨columned, there⟩ := OccursAt.append_iff.mp there
  obtain ⟨rowed, sized⟩ := OccursAt.append_iff.mp there
  simp only [length_toLeBytes, Nat.add_assoc, Nat.reduceAdd] at versioned columned rowed sized
  exact ⟨marked.readLe (by decide), versioned.readLe (by decide), columned.readLe columns,
    rowed.readLe rows, sized.readLe payload⟩

theorem length_columnBytes (col : ColumnMetadata) :
    (columnBytes col).length = 2 + 2 + (utf8Bytes col.name).length := by
  simp only [columnBytes, List.length_append, length_toLeBytes]
  omega

/-- The three fields of a column, located. -/
theorem columnBytes_fields {col : ColumnMetadata} {offset : Nat} {buffer : Bytes}
    (there : OccursAt (columnBytes col) offset buffer) :
    OccursAt (toLeBytes 2 col.odbcType.discriminant) offset buffer ∧
      OccursAt (toLeBytes 2 (utf8Bytes col.name).length) (offset + 2) buffer ∧
      OccursAt (utf8Bytes col.name) (offset + 2 + 2) buffer := by
  obtain ⟨typed, there⟩ := OccursAt.append_iff.mp there
  obtain ⟨measured, spelled⟩ := OccursAt.append_iff.mp there
  rw [length_toLeBytes] at measured spelled
  rw [length_toLeBytes] at spelled
  exact ⟨typed, measured, spelled⟩

theorem length_cellBytes_some (data : Bytes) :
    (cellBytes (some data)).length = 1 + 4 + data.length := by
  simp only [cellBytes, List.length_append, List.length_singleton, length_toLeBytes,
    ← Nat.add_assoc]

/-- The flag, the length and the data of a cell that is not NULL, located. -/
theorem cellBytes_fields {data : Bytes} {offset : Nat} {buffer : Bytes}
    (there : OccursAt (cellBytes (some data)) offset buffer) :
    buffer[offset]? = some 0 ∧ OccursAt (toLeBytes 4 data.length) (offset + 1) buffer ∧
      OccursAt data (offset + 1 + 4) buffer := by
  obtain ⟨flagged, there⟩ := OccursAt.append_iff.mp there
  obtain ⟨measured, filled⟩ := OccursAt.append_iff.mp there
  rw [length_toLeBytes] at filled
  exact ⟨flagged.getElem?, measured, filled⟩

theorem length_messageBytes (buffer : RowBuffer) :
    (messageBytes buffer).length = 16 + (payloadBytes buffer).length := by
  rw [messageBytes, List.length_append, length_headerBytes]

namespace RowBufferEncoder

theorem metadataSize_eq_ok {columns : List ColumnMetadata} {size total : Nat}
    (h : metadataSize columns size = .ok total) :
    total = size + (columns.flatMap columnBytes).length ∧
      ∀ col ∈ columns, (utf8Bytes col.name).length < 256 ^ 2 := by
  induction columns generalizing size with
  | nil =>
      rw [metadataSize, Except.ok.injEq] at h
      simp [h]
  | cons col columns ih =>
      obtain ⟨_, named, h⟩ := bind_eq_ok.mp h
      obtain ⟨_, typed, h⟩ := bind_eq_ok.mp h
      obtain ⟨_, measured, h⟩ := bind_eq_ok.mp h
      obtain ⟨_, spelled, h⟩ := bind_eq_ok.mp h
      obtain ⟨sum, rest⟩ := ih h
      have short := (checkedU16Len_eq_ok.mp named).1
      refine ⟨?_, List.forall_mem_cons.mpr ⟨short, rest⟩⟩
      rw [sum, checkedPayloadAdd_eq_ok spelled, checkedPayloadAdd_eq_ok measured,
        checkedPayloadAdd_eq_ok typed, List.flatMap_cons, List.length_append,
        length_columnBytes]
      omega

theorem rowSize_eq_ok {row : List Cell} {size total : Nat} (h : rowSize row size = .ok total) :
    total = size + (rowBytes row).length ∧
      ∀ data, some data ∈ row → data.length < 256 ^ 4 := by
  induction row generalizing size with
  | nil =>
      rw [rowSize, Except.ok.injEq] at h
      simp [h, rowBytes]
  | cons cell row ih =>
      cases cell with
      | none =>
          obtain ⟨_, flagged, h⟩ := bind_eq_ok.mp h
          obtain ⟨sum, rest⟩ := ih h
          refine ⟨?_, by simpa using rest⟩
          rw [sum, checkedPayloadAdd_eq_ok flagged]
          simp only [rowBytes, List.flatMap_cons, List.length_append, cellBytes,
            List.length_singleton]
          omega
      | some data =>
          obtain ⟨_, flagged, h⟩ := bind_eq_ok.mp h
          obtain ⟨_, checked, h⟩ := bind_eq_ok.mp h
          obtain ⟨_, measured, h⟩ := bind_eq_ok.mp h
          obtain ⟨_, filled, h⟩ := bind_eq_ok.mp h
          obtain ⟨sum, rest⟩ := ih h
          have short := (checkedU32Len_eq_ok.mp checked).1
          refine ⟨?_, ?_⟩
          · rw [sum, checkedPayloadAdd_eq_ok filled, checkedPayloadAdd_eq_ok measured,
              checkedPayloadAdd_eq_ok flagged]
            simp only [rowBytes, List.flatMap_cons, List.length_append, cellBytes,
              List.length_singleton, length_toLeBytes]
            omega
          · intro other member
            rcases List.mem_cons.mp member with same | later
            · rw [Option.some.inj same]
              exact short
            · exact rest other later

theorem rowsSize_eq_ok {rows : List (List Cell)} {size total : Nat}
    (h : rowsSize rows size = .ok total) :
    total = size + (rows.flatMap rowBytes).length ∧
      ∀ row ∈ rows, ∀ data, some data ∈ row → data.length < 256 ^ 4 := by
  induction rows generalizing size with
  | nil =>
      rw [rowsSize, Except.ok.injEq] at h
      simp [h]
  | cons row rows ih =>
      obtain ⟨_, head, h⟩ := bind_eq_ok.mp h
      obtain ⟨first, short⟩ := rowSize_eq_ok head
      obtain ⟨sum, rest⟩ := ih h
      refine ⟨?_, List.forall_mem_cons.mpr ⟨short, rest⟩⟩
      rw [sum, first, List.flatMap_cons, List.length_append]
      omega

theorem columnWrites_eq_ok {columns : List ColumnMetadata} {pieces : List Bytes}
    (h : columnWrites columns = .ok pieces) : pieces.flatten = columns.flatMap columnBytes := by
  induction columns generalizing pieces with
  | nil =>
      rw [columnWrites, Except.ok.injEq] at h
      simp [← h]
  | cons col columns ih =>
      obtain ⟨nameLen, named, h⟩ := bind_eq_ok.mp h
      obtain ⟨rest, written, h⟩ := bind_eq_ok.mp h
      rw [Except.ok.injEq] at h
      rw [← h, List.flatMap_cons, ← ih written, (checkedU16Len_eq_ok.mp named).2]
      simp [columnBytes]

theorem rowWrites_eq_ok {row : List Cell} {pieces : List Bytes}
    (h : rowWrites row = .ok pieces) : pieces.flatten = rowBytes row := by
  induction row generalizing pieces with
  | nil =>
      rw [rowWrites, Except.ok.injEq] at h
      simp [← h, rowBytes]
  | cons cell row ih =>
      cases cell with
      | none =>
          obtain ⟨rest, written, h⟩ := bind_eq_ok.mp h
          rw [Except.ok.injEq] at h
          rw [← h, rowBytes, List.flatMap_cons, List.flatten_cons, ih written]
          rfl
      | some data =>
          obtain ⟨dataLen, checked, h⟩ := bind_eq_ok.mp h
          obtain ⟨rest, written, h⟩ := bind_eq_ok.mp h
          rw [Except.ok.injEq] at h
          rw [← h, rowBytes, List.flatMap_cons, (checkedU32Len_eq_ok.mp checked).2]
          simp [cellBytes, ih written, rowBytes]

theorem rowsWrites_eq_ok {rows : List (List Cell)} {pieces : List Bytes}
    (h : rowsWrites rows = .ok pieces) : pieces.flatten = rows.flatMap rowBytes := by
  induction rows generalizing pieces with
  | nil =>
      rw [rowsWrites, Except.ok.injEq] at h
      simp [← h]
  | cons row rows ih =>
      obtain ⟨cells, head, h⟩ := bind_eq_ok.mp h
      obtain ⟨rest, written, h⟩ := bind_eq_ok.mp h
      rw [Except.ok.injEq] at h
      rw [← h, List.flatten_append, rowWrites_eq_ok head, ih written, List.flatMap_cons]

/-- A successful encoding is the message layout, and every length fits. -/
theorem tryEncode_eq_ok {buffer : RowBuffer} {bytes : Bytes}
    (h : tryEncode buffer = .ok bytes) : Encodable buffer ∧ bytes = messageBytes buffer := by
  obtain ⟨pieces, written, rfl⟩ := map_eq_ok.mp h
  obtain ⟨columnCount, counted, written⟩ := bind_eq_ok.mp written
  obtain ⟨rowCount, rowed, written⟩ := bind_eq_ok.mp written
  obtain ⟨_, metadata, written⟩ := bind_eq_ok.mp written
  obtain ⟨size, sized, written⟩ := bind_eq_ok.mp written
  obtain ⟨payloadSize, checked, written⟩ := bind_eq_ok.mp written
  obtain ⟨columns, columned, written⟩ := bind_eq_ok.mp written
  obtain ⟨cells, celled, built⟩ := bind_eq_ok.mp written
  obtain ⟨fewColumns, rfl⟩ := checkedU16Len_eq_ok.mp counted
  obtain ⟨fewRows, rfl⟩ := checkedU32Len_eq_ok.mp rowed
  obtain ⟨fits, rfl⟩ := checkedU32Len_eq_ok.mp checked
  obtain ⟨rfl, names⟩ := metadataSize_eq_ok metadata
  obtain ⟨total, short⟩ := rowsSize_eq_ok sized
  have payload : payloadSize = (payloadBytes buffer).length := by
    rw [total, payloadBytes, List.length_append]
    omega
  rw [payload] at fits built
  refine ⟨⟨fewColumns, fewRows, names, short, fits⟩, ?_⟩
  rw [Except.ok.injEq] at built
  rw [← built, messageBytes, headerBytes, payloadBytes, ← columnWrites_eq_ok columned,
    ← rowsWrites_eq_ok celled]
  simp

theorem outputsWrites_eq_ok {outputs : List ParamValue} {bytes : Bytes}
    (h : outputsWrites outputs = .ok bytes) :
    bytes = outputs.flatMap ParamValue.wire ∧ ∀ p ∈ outputs, p.payload.length < 256 ^ 4 := by
  induction outputs generalizing bytes with
  | nil =>
      rw [outputsWrites, Except.ok.injEq] at h
      simp [← h]
  | cons p outputs ih =>
      obtain ⟨head, written, h⟩ := bind_eq_ok.mp h
      obtain ⟨rest, later, h⟩ := bind_eq_ok.mp h
      obtain ⟨rfl, small⟩ := ParamValue.serialize_eq_ok written
      obtain ⟨rfl, fits⟩ := ih later
      rw [Except.ok.injEq] at h
      exact ⟨by rw [← h, List.flatMap_cons], List.forall_mem_cons.mpr ⟨small, fits⟩⟩

theorem blobsWrites_eq_ok {blobs : List Bytes} {bytes : Bytes}
    (h : blobsWrites blobs = .ok bytes) :
    bytes = blobs.flatMap blobBytes ∧ ∀ blob ∈ blobs, blob.length < 256 ^ 4 := by
  induction blobs generalizing bytes with
  | nil =>
      rw [blobsWrites, Except.ok.injEq] at h
      simp [← h]
  | cons blob blobs ih =>
      obtain ⟨blobLen, checked, h⟩ := bind_eq_ok.mp h
      obtain ⟨rest, later, h⟩ := bind_eq_ok.mp h
      obtain ⟨small, rfl⟩ := checkedU32Len_eq_ok.mp checked
      obtain ⟨rfl, fits⟩ := ih later
      rw [Except.ok.injEq] at h
      exact ⟨by rw [← h, List.flatMap_cons, blobBytes], List.forall_mem_cons.mpr ⟨small, fits⟩⟩

/-- A successful append is the base followed by the trailer, with every length in range. -/
theorem appendOutputFooter_eq_ok {ε : Type} {base bytes : Bytes} {outputs : List ParamValue}
    (h : (appendOutputFooter base outputs : Except (Fault ε) Bytes) = .ok bytes) :
    bytes = base ++ outputFooterBytes outputs ∧ outputs.length < 256 ^ 4 ∧
      ∀ p ∈ outputs, p.payload.length < 256 ^ 4 := by
  have written : tryAppendOutputFooter base outputs = .ok bytes := by
    rw [appendOutputFooter] at h
    split at h
    · next value appended => rw [appended, Except.ok.inj h]
    · cases h
    · cases h
  rw [tryAppendOutputFooter] at written
  cases outputs with
  | nil =>
      cases written
      simp [outputFooterBytes]
  | cons p outputs =>
      obtain ⟨count, counted, written⟩ := bind_eq_ok.mp written
      obtain ⟨values, serialized, written⟩ := bind_eq_ok.mp written
      obtain ⟨few, rfl⟩ := checkedU32Len_eq_ok.mp (orFault_eq_ok.mp counted)
      obtain ⟨rfl, fits⟩ := outputsWrites_eq_ok serialized
      cases written
      exact ⟨by simp [outputFooterBytes], few, fits⟩

theorem appendRefCursorFooter_eq_ok {ε : Type} {base bytes : Bytes} {blobs : List Bytes}
    (h : (appendRefCursorFooter base blobs : Except (Fault ε) Bytes) = .ok bytes) :
    bytes = base ++ refCursorFooterBytes blobs ∧ blobs.length < 256 ^ 4 ∧
      ∀ blob ∈ blobs, blob.length < 256 ^ 4 := by
  have written := expect_eq_ok.mp h
  rw [tryAppendRefCursorFooter] at written
  cases blobs with
  | nil =>
      cases written
      simp [refCursorFooterBytes]
  | cons blob blobs =>
      obtain ⟨count, counted, written⟩ := bind_eq_ok.mp written
      obtain ⟨values, embedded, written⟩ := bind_eq_ok.mp written
      obtain ⟨few, rfl⟩ := checkedU32Len_eq_ok.mp counted
      obtain ⟨rfl, fits⟩ := blobsWrites_eq_ok embedded
      cases written
      exact ⟨by simp [refCursorFooterBytes], few, fits⟩

end RowBufferEncoder

end OdbcFast.Native
