import OdbcFast.Native.Protocol.Encoder

/-!
# The row-major decoder

`BinaryProtocolDecoder::parse` walks one offset through the buffer: header,
limits, column metadata, cells, and last the two length checks that make the
whole buffer belong to the message. Every indexed read is guarded by a range
check of its own, so the reads below never run past the end.

The lemmas follow the walk with `OccursAt`: where the layout of a field stands at
the current offset, the loop returns that field and moves past it.
-/

namespace OdbcFast.Native

open Wire

structure ColumnInfo where
  name : String
  odbcType : OdbcType
  deriving DecidableEq, Repr

structure DecodedResult where
  columns : List ColumnInfo
  rows : List (List Cell)
  rowCount : Nat
  columnCount : Nat
  deriving DecidableEq, Repr

namespace BinaryProtocolDecoder

def headerSize : Nat := 16
def maxDecodedColumns : Nat := 4096
def maxDecodedRows : Nat := 1000000
def maxDecodedCells : Nat := 5000000
def maxDecodedPayloadSize : Nat := 256 * 1024 * 1024
def maxDecodedCellSize : Nat := 64 * 1024 * 1024

/-- `{:08X}`. -/
def hex8 (n : Nat) : String :=
  let digits := (Nat.toDigits 16 n).map Char.toUpper
  String.ofList (List.replicate (8 - digits.length) '0' ++ digits)

/-- The display text of a `Utf8Error`. -/
def utf8Error (fault : Utf8.Fault) : String :=
  match fault with
  | ⟨index, some length⟩ => s!"invalid utf-8 sequence of {length} bytes from index {index}"
  | ⟨index, none⟩ => s!"incomplete utf-8 byte sequence from index {index}"

def validateShape (columnCount rowCount payloadSize : Nat) : Except OdbcError Unit :=
  if columnCount > maxDecodedColumns then
    .error (.validationError s!"Column count {columnCount} exceeds limit {maxDecodedColumns}")
  else if rowCount > maxDecodedRows then
    .error (.validationError s!"Row count {rowCount} exceeds limit {maxDecodedRows}")
  else if columnCount * rowCount ≥ 2 ^ 64 then
    .error (.validationError "Cell count overflow")
  else if columnCount * rowCount > maxDecodedCells then
    .error (.validationError
      s!"Cell count {columnCount * rowCount} exceeds limit {maxDecodedCells}")
  else if payloadSize > maxDecodedPayloadSize then
    .error (.validationError
      s!"Payload size {payloadSize} exceeds limit {maxDecodedPayloadSize}")
  else .ok ()

/-- The loop over the column metadata; returns the columns and the next offset. -/
def readColumns (buffer : Bytes) : Nat → Nat → Except OdbcError (List ColumnInfo × Nat)
  | 0, offset => .ok ([], offset)
  | count + 1, offset =>
    if offset + 4 > buffer.length then
      .error (.validationError "Buffer too small for column metadata")
    else
      let odbcType := OdbcType.fromProtocolDiscriminant (readLe 2 buffer offset)
      let nameLen := readLe 2 buffer (offset + 2)
      if offset + 4 + nameLen > buffer.length then
        .error (.validationError "Buffer too small for column name")
      else
        match decodeStrict ((buffer.drop (offset + 4)).take nameLen) with
        | .error fault =>
          .error (.validationError ("Invalid UTF-8 in column name: " ++ utf8Error fault))
        | .ok name => do
          let (columns, offset) ← readColumns buffer count (offset + 4 + nameLen)
          .ok (⟨name, odbcType⟩ :: columns, offset)

/-- One cell; any flag other than 1 announces data. -/
def readCell (buffer : Bytes) (offset : Nat) : Except OdbcError (Cell × Nat) :=
  match buffer[offset]? with
  | none => .error (.validationError "Buffer too small for row data")
  | some isNull =>
    if isNull = 1 then .ok (none, offset + 1)
    else if offset + 1 + 4 > buffer.length then
      .error (.validationError "Buffer too small for data length")
    else
      let dataLen := readLe 4 buffer (offset + 1)
      if dataLen > maxDecodedCellSize then
        .error (.validationError
          s!"Cell data length {dataLen} exceeds limit {maxDecodedCellSize}")
      else if offset + 5 + dataLen ≥ 2 ^ 64 then
        .error (.validationError "Cell data offset overflow")
      else if offset + 5 + dataLen > buffer.length then
        .error (.validationError "Buffer too small for cell data")
      else .ok (some ((buffer.drop (offset + 5)).take dataLen), offset + 5 + dataLen)

def readRow (buffer : Bytes) : Nat → Nat → Except OdbcError (List Cell × Nat)
  | 0, offset => .ok ([], offset)
  | count + 1, offset => do
      let (cell, offset) ← readCell buffer offset
      let (row, offset) ← readRow buffer count offset
      .ok (cell :: row, offset)

def readRows (buffer : Bytes) (columnCount : Nat) :
    Nat → Nat → Except OdbcError (List (List Cell) × Nat)
  | 0, offset => .ok ([], offset)
  | count + 1, offset => do
      let (row, offset) ← readRow buffer columnCount offset
      let (rows, offset) ← readRows buffer columnCount count offset
      .ok (row :: rows, offset)

/-- The two checks that close the walk: the declared length, then the offset. -/
def finish (buffer : Bytes) (payloadSize offset : Nat) (result : DecodedResult) :
    Except OdbcError DecodedResult :=
  if headerSize + payloadSize ≥ 2 ^ 64 then
    .error (.validationError "Payload size overflow")
  else if headerSize + payloadSize ≠ buffer.length then
    .error (.validationError
      (s!"Payload size mismatch: header declares {payloadSize}, " ++
        s!"buffer has {buffer.length - headerSize} payload bytes"))
  else if offset ≠ buffer.length then
    .error (.validationError "Buffer has trailing bytes")
  else .ok result

def parse (buffer : Bytes) : Except OdbcError DecodedResult :=
  if buffer.length < headerSize then
    .error (.validationError
      s!"Buffer too small: need at least {headerSize} bytes, got {buffer.length}")
  else if readLe 4 buffer 0 ≠ magic then
    .error (.validationError
      (s!"Invalid magic number: expected 0x{hex8 magic}, " ++
        s!"got 0x{hex8 (readLe 4 buffer 0)}"))
  else if readLe 2 buffer 4 ≠ version then
    .error (.validationError
      s!"Invalid version: expected {version}, got {readLe 2 buffer 4}")
  else do
    let columnCount := readLe 2 buffer 6
    let rowCount := readLe 4 buffer 8
    let payloadSize := readLe 4 buffer 12
    validateShape columnCount rowCount payloadSize
    let (columns, offset) ← readColumns buffer columnCount headerSize
    let (rows, offset) ← readRows buffer columnCount rowCount offset
    finish buffer payloadSize offset ⟨columns, rows, rowCount, columnCount⟩

/-! ## Following the walk -/

/-- What the decoder keeps of a column. -/
def info (col : ColumnMetadata) : ColumnInfo := ⟨col.name, col.odbcType⟩

theorem readColumns_of_occursAt {buffer : Bytes} {columns : List ColumnMetadata} {offset : Nat}
    (there : OccursAt (columns.flatMap columnBytes) offset buffer)
    (names : ∀ col ∈ columns, (utf8Bytes col.name).length < 256 ^ 2) :
    readColumns buffer columns.length offset =
      .ok (columns.map info, offset + (columns.flatMap columnBytes).length) := by
  induction columns generalizing offset with
  | nil => rfl
  | cons col columns ih =>
      obtain ⟨short, names⟩ := List.forall_mem_cons.mp names
      rw [List.flatMap_cons] at there
      obtain ⟨here, later⟩ := OccursAt.append_iff.mp there
      have room := here.le_length
      obtain ⟨typed, measured, spelled⟩ := columnBytes_fields here
      rw [length_columnBytes] at room later
      have code := typed.readLe col.odbcType.discriminant_lt
      have nameLen := measured.readLe short
      have name := spelled.take_drop
      have rest := ih later names
      rw [List.length_cons, readColumns, if_neg (by omega)]
      simp only [code, nameLen, OdbcType.fromProtocolDiscriminant_discriminant]
      rw [if_neg (by omega), name, decodeStrict_utf8Bytes]
      simp only [← Nat.add_assoc] at rest
      simp only [rest, ok_bind, List.map_cons, List.flatMap_cons, List.length_append,
        length_columnBytes, info, ← Nat.add_assoc]

theorem readCell_of_occursAt {buffer : Bytes} {cell : Cell} {offset : Nat}
    (there : OccursAt (cellBytes cell) offset buffer)
    (small : ∀ data, cell = some data → data.length ≤ maxDecodedCellSize)
    (addressable : buffer.length < 2 ^ 64) :
    readCell buffer offset = .ok (cell, offset + (cellBytes cell).length) := by
  cases cell with
  | none =>
      have flag : buffer[offset]? = some 1 := there.getElem?
      simp only [readCell, flag]
      rfl
  | some data =>
      have small := small data rfl
      have fits : data.length < 256 ^ 4 := Nat.lt_of_le_of_lt small (by decide)
      have room := there.le_length
      obtain ⟨flag, measured, filled⟩ := cellBytes_fields there
      rw [length_cellBytes_some] at room
      have dataLen : readLe 4 buffer (offset + 1) = data.length := measured.readLe fits
      have bytes : (buffer.drop (offset + 5)).take data.length = data := filled.take_drop
      simp only [readCell, flag, dataLen, bytes]
      rw [if_neg (by decide), if_neg (by omega), if_neg (by omega), if_neg (by omega),
        if_neg (by omega)]
      simp only [length_cellBytes_some, ← Nat.add_assoc]

theorem readRow_of_occursAt {buffer : Bytes} {row : List Cell} {offset : Nat}
    (there : OccursAt (rowBytes row) offset buffer)
    (small : ∀ data, some data ∈ row → data.length ≤ maxDecodedCellSize)
    (addressable : buffer.length < 2 ^ 64) :
    readRow buffer row.length offset = .ok (row, offset + (rowBytes row).length) := by
  induction row generalizing offset with
  | nil => rfl
  | cons cell row ih =>
      rw [rowBytes, List.flatMap_cons] at there
      obtain ⟨here, later⟩ := OccursAt.append_iff.mp there
      have head := readCell_of_occursAt here
        (fun data same => small data (same ▸ List.mem_cons_self)) addressable
      have tail := ih later fun data member => small data (List.mem_cons_of_mem _ member)
      rw [List.length_cons, readRow, head, ok_bind]
      simp only [rowBytes] at tail
      simp only [tail, ok_bind, rowBytes, List.flatMap_cons, List.length_append,
        ← Nat.add_assoc]

theorem readRows_of_occursAt {buffer : Bytes} {columnCount : Nat} {rows : List (List Cell)}
    {offset : Nat} (there : OccursAt (rows.flatMap rowBytes) offset buffer)
    (rectangular : ∀ row ∈ rows, row.length = columnCount)
    (small : ∀ row ∈ rows, ∀ data, some data ∈ row → data.length ≤ maxDecodedCellSize)
    (addressable : buffer.length < 2 ^ 64) :
    readRows buffer columnCount rows.length offset =
      .ok (rows, offset + (rows.flatMap rowBytes).length) := by
  induction rows generalizing offset with
  | nil => rfl
  | cons row rows ih =>
      obtain ⟨width, rectangular⟩ := List.forall_mem_cons.mp rectangular
      obtain ⟨smallRow, small⟩ := List.forall_mem_cons.mp small
      rw [List.flatMap_cons] at there
      obtain ⟨here, later⟩ := OccursAt.append_iff.mp there
      have head := readRow_of_occursAt here smallRow addressable
      have tail := ih later rectangular small
      rw [width] at head
      rw [List.length_cons, readRows, head, ok_bind]
      simp only [tail, ok_bind, List.flatMap_cons, List.length_append, ← Nat.add_assoc]

/-- What the decoder asks of a message beyond its fields being in range. -/
structure WithinLimits (buffer : RowBuffer) : Prop where
  columns : buffer.columnCount ≤ maxDecodedColumns
  rows : buffer.rowCount ≤ maxDecodedRows
  cells : buffer.columnCount * buffer.rowCount ≤ maxDecodedCells
  payload : (payloadBytes buffer).length ≤ maxDecodedPayloadSize
  cellSize : ∀ row ∈ buffer.rows, ∀ data, some data ∈ row → data.length ≤ maxDecodedCellSize

theorem WithinLimits.validateShape {buffer : RowBuffer} (limits : WithinLimits buffer) :
    validateShape buffer.columnCount buffer.rowCount (payloadBytes buffer).length = .ok () := by
  have columns := limits.columns
  have rows := limits.rows
  have cells := limits.cells
  have payload := limits.payload
  have overflow : ¬ buffer.columnCount * buffer.rowCount ≥ 2 ^ 64 := by
    simp only [maxDecodedCells] at cells
    omega
  rw [BinaryProtocolDecoder.validateShape, if_neg (by omega), if_neg (by omega),
    if_neg overflow, if_neg (by omega), if_neg (by omega)]

/-- A message within the limits is read back whole. -/
theorem parse_messageBytes {buffer : RowBuffer} (rectangular : buffer.Rectangular)
    (encodable : Encodable buffer) (limits : WithinLimits buffer) :
    parse (messageBytes buffer) =
      .ok ⟨buffer.columns.map info, buffer.rows, buffer.rowCount, buffer.columnCount⟩ := by
  have whole : OccursAt (messageBytes buffer) 0 (messageBytes buffer) := OccursAt.refl _
  have length := length_messageBytes buffer
  have payload := limits.payload
  have addressable : (messageBytes buffer).length < 2 ^ 64 := by
    simp only [maxDecodedPayloadSize] at payload
    omega
  obtain ⟨header, body⟩ := OccursAt.append_iff.mp whole
  obtain ⟨marked, versioned, columnCount, rowCount, payloadSize⟩ :=
    headerBytes_words header encodable.columns encodable.rows encodable.payload
  obtain ⟨metadata, cells⟩ := OccursAt.append_iff.mp body
  rw [length_headerBytes] at metadata cells
  have columns := readColumns_of_occursAt metadata encodable.names
  have rows := readRows_of_occursAt cells rectangular limits.cellSize addressable
  rw [parse, if_neg (by rw [length, headerSize]; omega), if_neg (not_not.mpr marked),
    if_neg (not_not.mpr versioned)]
  simp only [Nat.zero_add] at columnCount rowCount payloadSize columns rows
  simp only [columnCount, rowCount, payloadSize, limits.validateShape, ok_bind]
  rw [RowBuffer.columnCount, headerSize, columns, ok_bind]
  simp only [RowBuffer.rowCount, rows, ok_bind]
  have total : (payloadBytes buffer).length = (buffer.columns.flatMap columnBytes).length +
      (buffer.rows.flatMap rowBytes).length := by rw [payloadBytes, List.length_append]
  rw [finish, if_neg (by rw [headerSize]; omega), if_neg (by rw [headerSize]; omega),
    if_neg (by omega)]

/-- Only a buffer whose length is the one its header declares is accepted. -/
theorem length_of_parse_eq_ok {buffer : Bytes} {result : DecodedResult}
    (h : parse buffer = .ok result) : buffer.length = headerSize + readLe 4 buffer 12 := by
  rw [parse] at h
  split_ifs at h with short foreign other
  obtain ⟨_, _, h⟩ := bind_eq_ok.mp h
  obtain ⟨⟨columns, offset⟩, _, h⟩ := bind_eq_ok.mp h
  obtain ⟨⟨rows, offset⟩, _, h⟩ := bind_eq_ok.mp h
  simp only [finish] at h
  split_ifs at h with overflow mismatch trailing
  omega

/-- The declared length tells a message from everything it is a prefix of. -/
theorem eq_nil_of_parse_append {front more : Bytes} {result result' : DecodedResult}
    (accepted : parse front = .ok result) (longer : parse (front ++ more) = .ok result') :
    more = [] := by
  have length := length_of_parse_eq_ok accepted
  have length' := length_of_parse_eq_ok longer
  rw [headerSize] at length length'
  rw [readLe_append more (by omega), List.length_append] at length'
  exact List.length_eq_zero_iff.mp (by omega)

end BinaryProtocolDecoder

end OdbcFast.Native
