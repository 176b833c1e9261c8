import OdbcFast.Dart.BinaryProtocol
import OdbcFast.Native.Protocol.Encoder

/-!
# Engine messages read through a view

The row-major reader follows a message correctly as long as the words it takes
from the underlying buffer are the words of the message. `wordPositions` lists
the positions at which it takes them, and `WordsAgree whole buffer` says that a
buffer has the message's own words there. A message at the start of its buffer
agrees with itself; a message embedded further back agrees only by coincidence.
-/

namespace OdbcFast.Dart

open Wire Native BinaryProtocolParser

/-! ## What arrives -/

def receivedColumn (col : Native.ColumnMetadata) : ColumnMetadata :=
  ⟨decodeLatin1 (utf8Bytes col.name), col.odbcType.discriminant⟩

def receivedCell (col : Native.ColumnMetadata) : Cell → Value
  | none => .null
  | some data => convertData data col.odbcType.discriminant

def receivedRow (columns : List Native.ColumnMetadata) (row : List Cell) : List Value :=
  List.zipWith receivedCell columns row

def receivedBuffer (buffer : RowBuffer) : ParsedRowBuffer where
  columns := buffer.columns.map receivedColumn
  rows := buffer.rows.map (receivedRow buffer.columns)
  rowCount := buffer.rowCount
  columnCount := buffer.columnCount

/-! ## Word positions -/

/-- Widths and positions of the words in front of the column names. -/
def columnWords : List Native.ColumnMetadata → Nat → List (Nat × Nat)
  | [], _ => []
  | col :: columns, offset =>
      (2, offset) :: (2, offset + 2) ::
        columnWords columns (offset + (columnBytes col).length)

/-- Widths and positions of the cell lengths. -/
def cellWords : List Cell → Nat → List (Nat × Nat)
  | [], _ => []
  | none :: cells, offset => cellWords cells (offset + (cellBytes none).length)
  | some data :: cells, offset =>
      (4, offset + 1) :: cellWords cells (offset + (cellBytes (some data)).length)

/-- Every word the reader uses; the payload size at 12 is read and dropped. -/
def wordPositions (buffer : RowBuffer) : List (Nat × Nat) :=
  [(4, 0), (2, 4), (2, 6), (4, 8)] ++ columnWords buffer.columns 16 ++
    cellWords buffer.rows.flatten (16 + (buffer.columns.flatMap columnBytes).length)

/-- At these positions both buffers have the same words. -/
def AgreeAt (positions : List (Nat × Nat)) (whole own : Bytes) : Prop :=
  ∀ word ∈ positions, readLe word.1 whole word.2 = readLe word.1 own word.2

instance (positions : List (Nat × Nat)) (whole own : Bytes) :
    Decidable (AgreeAt positions whole own) :=
  inferInstanceAs (Decidable (∀ word ∈ positions, _))

/-- `whole` has the words of the message at the message's own positions. -/
def WordsAgree (whole : Bytes) (buffer : RowBuffer) : Prop :=
  AgreeAt (wordPositions buffer) whole (messageBytes buffer)

instance (whole : Bytes) (buffer : RowBuffer) : Decidable (WordsAgree whole buffer) :=
  inferInstanceAs (Decidable (AgreeAt _ _ _))

theorem AgreeAt.refl (positions : List (Nat × Nat)) (own : Bytes) : AgreeAt positions own own :=
  fun _ _ => rfl

theorem AgreeAt.cons_iff {word : Nat × Nat} {positions : List (Nat × Nat)} {whole own : Bytes} :
    AgreeAt (word :: positions) whole own ↔
      readLe word.1 whole word.2 = readLe word.1 own word.2 ∧ AgreeAt positions whole own :=
  List.forall_mem_cons

theorem AgreeAt.append_iff {left right : List (Nat × Nat)} {whole own : Bytes} :
    AgreeAt (left ++ right) whole own ↔ AgreeAt left whole own ∧ AgreeAt right whole own :=
  List.forall_mem_append

theorem cellWords_append (front back : List Cell) (offset : Nat) :
    cellWords (front ++ back) offset =
      cellWords front offset ++ cellWords back (offset + (front.flatMap cellBytes).length) := by
  induction front generalizing offset with
  | nil => rfl
  | cons cell front ih =>
      cases cell with
      | none | some data =>
          simp only [List.cons_append, cellWords, ih, List.flatMap_cons, List.length_append,
            Nat.add_assoc]

/-! ## Following the reader -/

section Reader

variable {data : Uint8List} {offset : Nat}

/-- A word of the window that agrees with the buffer is what the reader returns. -/
theorem bufferWord_of_occursAt {width n : Nat}
    (there : OccursAt (toLeBytes width n) offset data.bytes) (fits : n < 256 ^ width)
    (agree : readLe width data.buffer offset = readLe width data.bytes offset) :
    data.bufferWord width offset = .ok n := by
  have room := there.le_length
  have inBounds := data.inBounds
  rw [length_toLeBytes, Uint8List.length_bytes] at room
  rw [Uint8List.bufferWord, if_pos (by omega), agree, there.readLe fits]

theorem readColumns_of_words {columns : List Native.ColumnMetadata}
    (there : OccursAt (columns.flatMap columnBytes) offset data.bytes)
    (names : ∀ col ∈ columns, (utf8Bytes col.name).length < 256 ^ 2)
    (agree : AgreeAt (columnWords columns offset) data.buffer data.bytes) :
    readColumns data columns.length offset =
      .ok (columns.map receivedColumn, offset + (columns.flatMap columnBytes).length) := by
  induction columns generalizing offset with
  | nil => rfl
  | cons col columns ih =>
      obtain ⟨short, names⟩ := List.forall_mem_cons.mp names
      obtain ⟨agreeType, agree⟩ := AgreeAt.cons_iff.mp agree
      obtain ⟨agreeLen, agree⟩ := AgreeAt.cons_iff.mp agree
      rw [List.flatMap_cons] at there
      obtain ⟨here, later⟩ := OccursAt.append_iff.mp there
      obtain ⟨typed, measured, spelled⟩ := columnBytes_fields here
      have code := bufferWord_of_occursAt typed col.odbcType.discriminant_lt agreeType
      have nameLen := bufferWord_of_occursAt measured short agreeLen
      have name := Uint8List.sublist_of_occursAt spelled
      have rest := ih later names agree
      simp only [length_columnBytes, ← Nat.add_assoc] at rest
      rw [List.length_cons, readColumns]
      simp only [readUint16, code, nameLen, readString, name, ok_bind, rest]
      simp only [List.map_cons, List.flatMap_cons, List.length_append, length_columnBytes,
        receivedColumn, ← Nat.add_assoc]

theorem readCell_of_words (col : Native.ColumnMetadata) {cell : Cell}
    (there : OccursAt (cellBytes cell) offset data.bytes)
    (fits : ∀ bytes, cell = some bytes → bytes.length < 256 ^ 4)
    (agree : AgreeAt (cellWords [cell] offset) data.buffer data.bytes) :
    readCell data col.odbcType.discriminant offset =
      .ok (receivedCell col cell, offset + (cellBytes cell).length) := by
  cases cell with
  | none =>
      have flag : data.bytes[offset]? = some 1 := there.getElem?
      simp only [readCell, readUint8, flag, ok_bind]
      rfl
  | some bytes =>
      obtain ⟨agreeLen, -⟩ := AgreeAt.cons_iff.mp agree
      obtain ⟨flag, measured, filled⟩ := cellBytes_fields there
      have cellLen := bufferWord_of_occursAt measured (fits bytes rfl) agreeLen
      have content := Uint8List.sublist_of_occursAt filled
      simp only [readCell, readUint8, flag, ok_bind, readUint32, cellLen, readBytes, content]
      rw [if_neg (by decide)]
      simp only [receivedCell, length_cellBytes_some, ← Nat.add_assoc]

theorem readRow_of_words {columns : List Native.ColumnMetadata} {row : List Cell}
    (there : OccursAt (rowBytes row) offset data.bytes) (width : row.length = columns.length)
    (fits : ∀ bytes, some bytes ∈ row → bytes.length < 256 ^ 4)
    (agree : AgreeAt (cellWords row offset) data.buffer data.bytes) :
    readRow data (columns.map receivedColumn) offset =
      .ok (receivedRow columns row, offset + (rowBytes row).length) := by
  induction row generalizing columns offset with
  | nil =>
      obtain rfl : columns = [] := List.length_eq_zero_iff.mp width.symm
      rfl
  | cons cell row ih =>
      cases columns with
      | nil => cases width
      | cons col columns =>
          rw [rowBytes, List.flatMap_cons] at there
          obtain ⟨here, later⟩ := OccursAt.append_iff.mp there
          obtain ⟨agreeHead, agreeTail⟩ :=
            AgreeAt.append_iff.mp (cellWords_append [cell] row offset ▸ agree)
          rw [List.flatMap_singleton] at agreeTail
          have head := readCell_of_words col here
            (fun bytes same => fits bytes (same ▸ List.mem_cons_self)) agreeHead
          have tail := ih later (Nat.succ.inj width)
            (fun bytes member => fits bytes (List.mem_cons_of_mem _ member)) agreeTail
          rw [List.map_cons, readRow, receivedColumn, head, ok_bind]
          simp only [rowBytes] at tail
          simp only [tail, ok_bind, receivedRow, List.zipWith_cons_cons, rowBytes,
            List.flatMap_cons, List.length_append, ← Nat.add_assoc]

theorem readRows_of_words {columns : List Native.ColumnMetadata} {rows : List (List Cell)}
    (there : OccursAt (rows.flatMap rowBytes) offset data.bytes)
    (rectangular : ∀ row ∈ rows, row.length = columns.length)
    (fits : ∀ row ∈ rows, ∀ bytes, some bytes ∈ row → bytes.length < 256 ^ 4)
    (agree : AgreeAt (cellWords rows.flatten offset) data.buffer data.bytes) :
    readRows data (columns.map receivedColumn) rows.length offset =
      .ok (rows.map (receivedRow columns), offset + (rows.flatMap rowBytes).length) := by
  induction rows generalizing offset with
  | nil => rfl
  | cons row rows ih =>
      obtain ⟨width, rectangular⟩ := List.forall_mem_cons.mp rectangular
      obtain ⟨fitsRow, fits⟩ := List.forall_mem_cons.mp fits
      rw [List.flatMap_cons] at there
      obtain ⟨here, later⟩ := OccursAt.append_iff.mp there
      rw [List.flatten_cons, cellWords_append] at agree
      obtain ⟨agreeHead, agreeTail⟩ := AgreeAt.append_iff.mp agree
      have head := readRow_of_words here width fitsRow agreeHead
      have tail := ih later rectangular fits agreeTail
      rw [List.length_cons, readRows, head, ok_bind]
      simp only [tail, ok_bind, List.map_cons, List.flatMap_cons, List.length_append,
        ← Nat.add_assoc]

/-- A message in the window is read whole when the buffer has its words. -/
theorem parseRowMajorV1_of_words {buffer : RowBuffer} (rectangular : buffer.Rectangular)
    (encodable : Encodable buffer) (window : data.bytes = messageBytes buffer)
    (agree : WordsAgree data.buffer buffer) :
    parseRowMajorV1 data = .ok (receivedBuffer buffer) := by
  have whole : OccursAt (messageBytes buffer) 0 data.bytes := window ▸ OccursAt.refl _
  have size : data.length = 16 + (payloadBytes buffer).length := by
    rw [← Uint8List.length_bytes, window, length_messageBytes]
  have inBounds := data.inBounds
  rw [WordsAgree, ← window, wordPositions] at agree
  obtain ⟨agree, agreeCells⟩ := AgreeAt.append_iff.mp agree
  obtain ⟨agreeHeader, agreeColumns⟩ := AgreeAt.append_iff.mp agree
  obtain ⟨header, body⟩ := OccursAt.append_iff.mp whole
  obtain ⟨metadata, cells⟩ := OccursAt.append_iff.mp body
  obtain ⟨marked, versioned, columnCount, rowCount, -⟩ :=
    headerBytes_words header encodable.columns encodable.rows encodable.payload
  have word : ∀ width position n, (width, position) ∈ [(4, 0), (2, 4), (2, 6), (4, 8)] →
      position + width ≤ 16 → readLe width data.bytes (0 + position) = n →
      data.bufferWord width position = .ok n := by
    intro width position n member inside value
    rw [Uint8List.bufferWord, if_pos (by omega), agreeHeader _ member, ← value, Nat.zero_add]
  have readMagic := word 4 0 _ (by decide) (by decide) marked
  have readVersion := word 2 4 _ (by decide) (by decide) versioned
  have readColumnCount := word 2 6 _ (by decide) (by decide) columnCount
  have readRowCount := word 4 8 _ (by decide) (by decide) rowCount
  have readPayload : ∃ n, data.bufferWord 4 12 = .ok n := ⟨_, if_pos (by omega)⟩
  obtain ⟨_, readPayload⟩ := readPayload
  rw [length_headerBytes] at metadata cells
  simp only [Nat.zero_add] at metadata cells
  have columns := readColumns_of_words metadata encodable.names agreeColumns
  have rows := readRows_of_words cells rectangular encodable.cells agreeCells
  simp only [parseRowMajorV1, readUint32, readUint16, readMagic, ok_bind, readVersion,
    readColumnCount, readRowCount, readPayload, Nat.reduceAdd]
  rw [if_neg (by decide), if_neg (by decide), RowBuffer.columnCount, columns, ok_bind]
  simp only [RowBuffer.rowCount, rows, ok_bind]
  rfl

end Reader

/-! ## Longer buffers -/

/-- Two windows with the same bytes, the second onto a buffer that goes on. -/
structure Extends (short long : Uint8List) : Prop where
  bytes : long.bytes = short.bytes
  buffer : ∃ more, long.buffer = short.buffer ++ more

section Extends

variable {short long : Uint8List} {offset : Nat}

theorem Extends.length (extends' : Extends short long) : long.length = short.length := by
  rw [← Uint8List.length_bytes, extends'.bytes, Uint8List.length_bytes]

theorem Extends.sublist (extends' : Extends short long) (start stop : Nat) :
    long.sublist start stop = short.sublist start stop := by
  rw [Uint8List.sublist, Uint8List.sublist, extends'.bytes, extends'.length]

/-- A word that could be read is read again. -/
theorem Extends.bufferWord (extends' : Extends short long) (width : Nat) :
    Keeps (short.bufferWord width offset) (long.bufferWord width offset) := by
  intro n read
  obtain ⟨more, longer⟩ := extends'.buffer
  rw [Uint8List.bufferWord] at read ⊢
  split_ifs at read with inside
  rw [longer, if_pos (by rw [List.length_append]; omega), readLe_append more inside, read]

theorem Extends.readUint16 (extends' : Extends short long) :
    Keeps (readUint16 short offset) (readUint16 long offset) :=
  (extends'.bufferWord 2).bind fun _ => .refl _

theorem Extends.readUint32 (extends' : Extends short long) :
    Keeps (readUint32 short offset) (readUint32 long offset) :=
  (extends'.bufferWord 4).bind fun _ => .refl _

theorem Extends.readString (extends' : Extends short long) (length : Nat) :
    Keeps (readString short length offset) (readString long length offset) := by
  rw [BinaryProtocolParser.readString, BinaryProtocolParser.readString, extends'.sublist]
  exact .refl _

theorem Extends.readBytes (extends' : Extends short long) (length : Nat) :
    Keeps (readBytes short length offset) (readBytes long length offset) := by
  rw [BinaryProtocolParser.readBytes, BinaryProtocolParser.readBytes, extends'.sublist]
  exact .refl _

theorem Extends.readColumns (extends' : Extends short long) (count : Nat) :
    Keeps (readColumns short count offset) (readColumns long count offset) := by
  induction count generalizing offset with
  | zero => exact .refl _
  | succ count ih =>
      refine extends'.readUint16.bind fun _ => extends'.readUint16.bind fun _ => ?_
      exact (extends'.readString _).bind fun _ => ih.bind fun _ => .refl _

theorem Extends.readCell (extends' : Extends short long) (odbcType : Nat) :
    Keeps (readCell short odbcType offset) (readCell long odbcType offset) := by
  rw [BinaryProtocolParser.readCell, BinaryProtocolParser.readCell, readUint8, readUint8,
    extends'.bytes]
  refine (Keeps.refl _).bind fun _ => .ite (.refl _) (extends'.readUint32.bind fun _ => ?_)
  exact (extends'.readBytes _).bind fun _ => .refl _

theorem Extends.readRow (extends' : Extends short long) (columns : List ColumnMetadata) :
    Keeps (readRow short columns offset) (readRow long columns offset) := by
  induction columns generalizing offset with
  | nil => exact .refl _
  | cons column columns ih =>
      exact (extends'.readCell _).bind fun _ => ih.bind fun _ => .refl _

theorem Extends.readRows (extends' : Extends short long) (columns : List ColumnMetadata)
    (count : Nat) :
    Keeps (readRows short columns count offset) (readRows long columns count offset) := by
  induction count generalizing offset with
  | zero => exact .refl _
  | succ count ih =>
      exact (extends'.readRow columns).bind fun _ => ih.bind fun _ => .refl _

/-- Bytes behind the window do not change an accepted message. -/
theorem Extends.parseRowMajorV1 (extends' : Extends short long) :
    Keeps (parseRowMajorV1 short) (parseRowMajorV1 long) := by
  refine extends'.readUint32.bind fun _ => .ite (.refl _) ?_
  refine extends'.readUint16.bind fun _ => .ite (.refl _) ?_
  refine extends'.readUint16.bind fun _ => extends'.readUint32.bind fun _ => ?_
  refine extends'.readUint32.bind fun _ => (extends'.readColumns _).bind fun _ => ?_
  exact (extends'.readRows _ _).bind fun _ => .refl _

end Extends

/-! ## Whole messages -/

section Whole

variable {library : DecompressLibrary} {base more : Bytes}

/-- The two ways in which a list begins with a result. -/
theorem parseMain_eq_ok_iff {data : Uint8List} {result : ParsedRowBuffer} {mainEnd : Nat} :
    parseMain library data = .ok (result, mainEnd) ↔
      mainEnd ≤ data.length ∧
        ((readLe 2 data.bytes 4 = protocolVersionRowMajor ∧ headerSizeV1 ≤ data.length ∧
            mainEnd = headerSizeV1 + readLe 4 data.bytes 12 ∧
            (data.sublistView 0 mainEnd >>= parseRowMajorV1) = .ok result) ∨
          (readLe 2 data.bytes 4 = protocolVersionColumnarV2 ∧
            headerSizeColumnarV2 ≤ data.length ∧
            mainEnd = headerSizeColumnarV2 + readLe 4 data.bytes 15 ∧
            parseColumnarV2 library (data.bytes.take mainEnd) = .ok result)) := by
  have differ : protocolVersionRowMajor ≠ protocolVersionColumnarV2 := by decide
  constructor
  · intro read
    simp only [parseMain, messageLengthFromHeader] at read
    split_ifs at read with rowMajor short columnar short truncated
    · rw [Uint8List.bufferWord_offsetInBytes (by rw [headerSizeV1] at short; omega)] at read
      simp only [ok_bind] at read
      split_ifs at read with truncated
      obtain ⟨view, viewed, read⟩ := bind_eq_ok.mp read
      obtain ⟨_, parsed, read⟩ := bind_eq_ok.mp read
      cases read
      refine ⟨by omega, .inl ⟨rowMajor, by omega, rfl, ?_⟩⟩
      rw [viewed, ok_bind, parsed]
    · obtain ⟨view, viewed, viewBuffer, viewBytes⟩ :=
        Uint8List.sublistView_zero _ (Nat.not_lt.mp truncated)
      rw [viewed, ok_bind, viewBytes] at read
      obtain ⟨_, parsed, read⟩ := bind_eq_ok.mp read
      cases read
      exact ⟨by omega, .inr ⟨columnar, by omega, rfl, parsed⟩⟩
  · rintro ⟨inside, ⟨rowMajor, long, rfl, parsed⟩ | ⟨columnar, long, rfl, parsed⟩⟩
    · obtain ⟨view, viewed, parsed⟩ := bind_eq_ok.mp parsed
      simp only [parseMain, messageLengthFromHeader]
      rw [if_pos rowMajor, if_neg (by omega), if_neg (by omega),
        Uint8List.bufferWord_offsetInBytes (by rw [headerSizeV1] at long; omega), ok_bind, ok_bind,
        if_neg (by omega), viewed, ok_bind, parsed, ok_bind]
    · obtain ⟨view, viewed, viewBuffer, viewBytes⟩ := Uint8List.sublistView_zero data inside
      simp only [parseMain]
      rw [if_neg (by rw [columnar]; exact differ.symm), if_pos columnar, if_neg (by omega),
        if_neg (by omega), viewed, ok_bind, viewBytes, parsed, ok_bind]

theorem sublistView_front (more : Bytes) {stop : Nat} (inside : stop ≤ base.length) :
    ∃ short long, (Uint8List.fromList base).sublistView 0 stop = .ok short ∧
      (Uint8List.fromList (base ++ more)).sublistView 0 stop = .ok long ∧
      Extends short long := by
  obtain ⟨short, shortView, shortBuffer, shortBytes⟩ :=
    Uint8List.sublistView_zero (.fromList base) inside
  obtain ⟨long, longView, longBuffer, longBytes⟩ :=
    Uint8List.sublistView_zero (.fromList (base ++ more)) (show stop ≤ _ by
      rw [Uint8List.length_fromList, List.length_append]
      omega)
  rw [Uint8List.bytes_fromList] at shortBytes longBytes
  refine ⟨short, long, shortView, longView, ⟨?_, more, ?_⟩⟩
  · rw [longBytes, shortBytes, List.take_append_of_le_length inside]
  · rw [longBuffer, shortBuffer, Uint8List.buffer_fromList, Uint8List.buffer_fromList]

/-- A result that is accepted by itself is accepted in front of anything. -/
theorem parseMain_append :
    Keeps (parseMain library (.fromList base)) (parseMain library (.fromList (base ++ more))) := by
  rintro ⟨result, mainEnd⟩ read
  obtain ⟨inside, accepted⟩ := parseMain_eq_ok_iff.mp read
  simp only [Uint8List.bytes_fromList, Uint8List.length_fromList] at inside accepted
  have length : (base ++ more).length = base.length + more.length := List.length_append
  have word : ∀ {width offset}, offset + width ≤ base.length →
      readLe width (base ++ more) offset = readLe width base offset := readLe_append more
  refine parseMain_eq_ok_iff.mpr ?_
  simp only [Uint8List.bytes_fromList, Uint8List.length_fromList]
  refine ⟨by omega, ?_⟩
  rcases accepted with ⟨versioned, long, measured, parsed⟩ | ⟨versioned, long, measured, parsed⟩
  · rw [headerSizeV1] at long measured
    refine .inl ⟨by rw [word (by omega), versioned], by rw [headerSizeV1]; omega,
      by rw [word (by omega), headerSizeV1, measured], ?_⟩
    obtain ⟨short, long, shortView, longView, extends'⟩ :=
      sublistView_front more inside
    rw [shortView, ok_bind] at parsed
    rw [longView, ok_bind, extends'.parseRowMajorV1 _ parsed]
  · rw [headerSizeColumnarV2] at long measured
    refine .inr ⟨by rw [word (by omega), versioned], by rw [headerSizeColumnarV2]; omega,
      by rw [word (by omega), headerSizeColumnarV2, measured], ?_⟩
    rw [List.take_append_of_le_length inside, parsed]

/-- A row-major message by itself, up to its end. -/
theorem parseMain_messageBytes {buffer : RowBuffer} (rectangular : buffer.Rectangular)
    (encodable : Encodable buffer) :
    parseMain library (.fromList (messageBytes buffer)) =
      .ok (receivedBuffer buffer, (messageBytes buffer).length) := by
  have header : OccursAt (headerBytes buffer.columnCount buffer.rowCount
      (payloadBytes buffer).length) 0 (messageBytes buffer) := OccursAt.self_append _ _
  obtain ⟨-, versioned, -, -, sized⟩ :=
    headerBytes_words header encodable.columns encodable.rows encodable.payload
  have length := length_messageBytes buffer
  obtain ⟨view, viewed, viewBuffer, viewBytes⟩ := Uint8List.sublistView_zero
    (.fromList (messageBytes buffer)) (Nat.le_refl _)
  rw [Uint8List.bytes_fromList, Uint8List.length_fromList, List.take_length] at viewBytes
  rw [Uint8List.buffer_fromList] at viewBuffer
  refine parseMain_eq_ok_iff.mpr ⟨Nat.le_refl _, .inl ?_⟩
  simp only [Uint8List.bytes_fromList, Uint8List.length_fromList]
  refine ⟨versioned, by rw [headerSizeV1]; omega, by rw [sized, headerSizeV1, length], ?_⟩
  rw [Uint8List.length_fromList] at viewed
  rw [viewed, ok_bind]
  refine parseRowMajorV1_of_words rectangular encodable viewBytes ?_
  rw [viewBuffer]
  exact AgreeAt.refl _ _

/-- Without trailers the message is its result. -/
theorem parseWithOutputs_of_parseMain {data : Uint8List} {result : ParsedRowBuffer}
    (long : 6 ≤ data.length) (marked : readLe 4 data.bytes 0 = BinaryProtocolParser.magic)
    (main : parseMain library data = .ok (result, data.length)) :
    parseWithOutputs library data = .ok ⟨result, [], []⟩ := by
  rw [parseWithOutputs, if_neg (by omega), if_neg (not_not.mpr marked), main, ok_bind]
  simp only [parseOut1IfPresent, parseRc1IfPresent, checkTrailing]
  rw [if_pos (by omega), ok_bind]
  simp only
  rw [if_pos (by omega), ok_bind]
  simp only
  rw [if_neg (by omega), ok_bind]

theorem parse_messageBytes {buffer : RowBuffer} (rectangular : buffer.Rectangular)
    (encodable : Encodable buffer) :
    parse library (.fromList (messageBytes buffer)) = .ok (receivedBuffer buffer) := by
  have header : OccursAt (headerBytes buffer.columnCount buffer.rowCount
      (payloadBytes buffer).length) 0 (messageBytes buffer) := OccursAt.self_append _ _
  obtain ⟨marked, -⟩ :=
    headerBytes_words header encodable.columns encodable.rows encodable.payload
  have length := length_messageBytes buffer
  have whole : parseWithOutputs library (.fromList (messageBytes buffer)) = _ :=
    parseWithOutputs_of_parseMain (by rw [Uint8List.length_fromList]; omega)
      (by rw [Uint8List.bytes_fromList]; exact marked)
      (parseMain_messageBytes rectangular encodable)
  rw [parse, whole]
  rfl

end Whole

end OdbcFast.Dart
