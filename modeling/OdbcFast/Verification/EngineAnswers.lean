import OdbcFast.Verification.DirectedCalls

/-!
# What the engine answers and what has to be shown of it

An answer is known by what it holds: rows under their columns, row counts, output values and the
rows behind reference cursors. `EngineAnswer.WrittenAs` says which bytes the engine writes for
it, and `EngineAnswer.Shows` says of a result of the package whether that is what the answer
holds, without a word about how it was read. The decoders of the package make one result of the
bytes, and it shows the answer exactly when the answer is `Legible`.

The engine writes its answers in this way: `dispatchParamBuffer_written` for the calls with one
result, and `executeMultiResult_written` for those with several.
-/

namespace OdbcFast.Verification

open Wire Native OdbcFast.Dart

/-! ## Cells -/

/-- The number that the bytes are, in two's complement. -/
def IsNumber (width : Nat) (data : Bytes) (value : Value) : Prop :=
  ∃ n : BitVec (8 * width), n.toNat = ofLeBytes data ∧ value = .int n.toInt

/-- The text whose UTF-8 bytes these are. -/
def IsText (data : Bytes) (value : Value) : Prop :=
  ∃ text, utf8Bytes text = data ∧ value = .text text

/-- A cell of an integer column is its number; what the engine could not make a number of is a
text. -/
def SaysNumber (width : Nat) (data : Bytes) (value : Value) : Prop :=
  if data.length = width then IsNumber width data value else IsText data value

/-- The value is what a cell of such a column holds. -/
def SaysCell (odbcType : Native.OdbcType) : Cell → Value → Prop
  | none, value => value = .null
  | some data, value =>
    match odbcType with
    | .binary => value = .bytes data
    | .integer => SaysNumber 4 data value
    | .bigInt => SaysNumber 8 data value
    | _ => IsText data value

/-- A text that does not begin with the mark that is dropped. -/
def LegibleText (data : Bytes) : Prop := ∃ text, utf8Bytes text = data ∧ ¬ StartsWithBom text

/-- Texts in integer columns have to be shorter than a number. -/
def LegibleNumber (width : Nat) (data : Bytes) : Prop :=
  data.length = width ∨ data.length < width ∧ LegibleText data

def LegibleCell (odbcType : Native.OdbcType) : Cell → Prop
  | none => True
  | some data =>
    match odbcType with
    | .binary => True
    | .integer => LegibleNumber 4 data
    | .bigInt => LegibleNumber 8 data
    | _ => LegibleText data

theorem isText_decodeText_iff (data : Bytes) :
    IsText data (.text (BinaryProtocolParser.decodeText data)) ↔ LegibleText data := by
  constructor
  · rintro ⟨text, rfl, same⟩
    exact ⟨text, rfl, (decodeDroppingBom_utf8Bytes_iff text).mp (Value.text.inj same)⟩
  · rintro ⟨text, rfl, unmarked⟩
    exact ⟨text, rfl, congrArg Value.text ((decodeDroppingBom_utf8Bytes_iff text).mpr unmarked)⟩

theorem isNumber_signed {width : Nat} {data : Bytes} (pos : 0 < width)
    (number : data.length = width) :
    IsNumber width data (.int (signed width (readLe width data 0))) := by
  have word : readLe width data 0 = ofLeBytes data := by
    rw [readLe, List.drop_zero, List.take_of_length_le number.le]
  have bound : ofLeBytes data < 2 ^ (8 * width) := by
    have bytes := ofLeBytes_lt data
    rwa [number, show 256 = 2 ^ 8 from rfl, ← Nat.pow_mul] at bytes
  have same : (BitVec.ofNat (8 * width) (ofLeBytes data)).toNat = ofLeBytes data := by
    rw [BitVec.toNat_ofNat, Nat.mod_eq_of_lt bound]
  refine ⟨_, same, ?_⟩
  rw [← signed_toNat width pos, same, word]

/-- The number of bytes decides how the cell of an integer column is read. -/
theorem saysNumber_iff {width : Nat} (pos : 0 < width) (data : Bytes) :
    SaysNumber width data (if width ≤ data.length then .int (signed width (readLe width data 0))
      else .text (BinaryProtocolParser.decodeText data)) ↔ LegibleNumber width data := by
  rw [SaysNumber, LegibleNumber]
  split_ifs with number long long
  · exact iff_of_true (isNumber_signed pos number) (.inl number)
  · exact absurd number.ge long
  · refine iff_of_false ?_ (by omega)
    rintro ⟨text, -, same⟩
    cases same
  · rw [isText_decodeText_iff, or_iff_right number]
    exact (and_iff_right (by omega)).symm

theorem saysCell_receivedCell_iff (col : Native.ColumnMetadata) (cell : Cell) :
    SaysCell col.odbcType cell (receivedCell col cell) ↔ LegibleCell col.odbcType cell := by
  cases cell with
  | none => exact iff_of_true rfl trivial
  | some data =>
      obtain ⟨name, odbcType⟩ := col
      cases odbcType with
      | binary => exact iff_of_true rfl trivial
      | integer => exact saysNumber_iff (by decide) data
      | bigInt => exact saysNumber_iff (by decide) data
      | _ => exact isText_decodeText_iff data

/-! ## Rows -/

/-- The rows are shown under the names of their columns, cell by cell, and counted. -/
structure ShowsRows (buffer : RowBuffer) (shown : RowSet) : Prop where
  names : shown.columns = buffer.columns.map (·.name)
  cells : List.Forall₂ (fun row values =>
    List.Forall₂ (fun (cell : Native.ColumnMetadata × Cell) value =>
      SaysCell cell.1.odbcType cell.2 value) (buffer.columns.zip row) values) buffer.rows shown.rows
  count : shown.rowCount = buffer.rows.length

structure LegibleRows (buffer : RowBuffer) : Prop where
  names : ∀ col ∈ buffer.columns, IsAscii col.name
  cells : ∀ row ∈ buffer.rows, ∀ cell ∈ buffer.columns.zip row, LegibleCell cell.1.odbcType cell.2

theorem showsRows_received_iff (buffer : RowBuffer) :
    ShowsRows buffer (receivedBuffer buffer).rowSet ↔ LegibleRows buffer := by
  have names : (receivedBuffer buffer).rowSet.columns = buffer.columns.map (·.name) ↔
      ∀ col ∈ buffer.columns, IsAscii col.name := by
    simp only [ParsedRowBuffer.rowSet, receivedBuffer, List.map_map]
    rw [List.map_inj_left]
    exact forall₂_congr fun col _ => decodeLatin1_utf8Bytes_iff col.name
  have row (cells : List Cell) : List.Forall₂ (fun (cell : Native.ColumnMetadata × Cell) value =>
      SaysCell cell.1.odbcType cell.2 value) (buffer.columns.zip cells)
        (receivedRow buffer.columns cells) ↔
      ∀ cell ∈ buffer.columns.zip cells, LegibleCell cell.1.odbcType cell.2 := by
    rw [receivedRow, ← List.map_uncurry_zip_eq_zipWith, List.forall₂_map_right_iff,
      List.forall₂_same]
    exact forall₂_congr fun cell _ => saysCell_receivedCell_iff cell.1 cell.2
  constructor
  · intro shows'
    refine ⟨names.mp shows'.names, fun cells member => (row cells).mp ?_⟩
    have each := shows'.cells
    simp only [ParsedRowBuffer.rowSet, receivedBuffer] at each
    rw [List.forall₂_map_right_iff, List.forall₂_same] at each
    exact each cells member
  · intro legible
    refine ⟨names.mpr legible.names, ?_, rfl⟩
    simp only [ParsedRowBuffer.rowSet, receivedBuffer]
    rw [List.forall₂_map_right_iff, List.forall₂_same]
    exact fun cells member => (row cells).mpr (legible.cells cells member)

/-- The empty row set shows nothing but an empty result. -/
theorem showsRows_empty_iff (buffer : RowBuffer) :
    ShowsRows buffer ⟨[], [], 0⟩ ↔ buffer.columns = [] ∧ buffer.rows = [] := by
  constructor
  · intro shows'
    exact ⟨List.map_eq_nil_iff.mp shows'.names.symm, List.forall₂_nil_right_iff.mp shows'.cells⟩
  · rintro ⟨columns, rows⟩
    refine ⟨by rw [columns]; rfl, by rw [rows]; exact .nil, by rw [rows]; rfl⟩

/-! ## Results of a batch -/

/-- A result is shown as what it is: rows as a row set, and a row count as a number. -/
inductive ShowsContent {β : Type} (asRows : RowSet → β) (asCount : Int → β) :
    Content → β → Prop where
  | rows {buffer : RowBuffer} {shown : RowSet} (shows' : ShowsRows buffer shown) :
      ShowsContent asRows asCount (.rows buffer) (asRows shown)
  | count (n : Int64) : ShowsContent asRows asCount (.count n) (asCount n.toInt)

def LegibleContent : Content → Prop
  | .rows buffer => LegibleRows buffer
  | .count _ => True

/-- What the parser makes of a result, as an item of some kind. -/
def receivedContent {β : Type} (asRows : RowSet → β) (asCount : Int → β) : Content → β
  | .rows buffer => asRows (receivedBuffer buffer).rowSet
  | .count n => asCount n.toInt

theorem showsContent_received_iff {β : Type} {asRows : RowSet → β} {asCount : Int → β}
    (injective : Function.Injective asRows) (content : Content) :
    ShowsContent asRows asCount content (receivedContent asRows asCount content) ↔
      LegibleContent content := by
  cases content with
  | count n => exact iff_of_true (.count n) trivial
  | rows buffer =>
      rw [LegibleContent, ← showsRows_received_iff, receivedContent]
      refine ⟨fun shows' => ?_, .rows⟩
      generalize same : asRows (receivedBuffer buffer).rowSet = item at shows'
      cases shows' with
      | rows shows' =>
          rw [injective same]
          exact shows'

theorem showsContents_received_iff {β : Type} {asRows : RowSet → β} {asCount : Int → β}
    (injective : Function.Injective asRows) (contents : List Content) :
    List.Forall₂ (ShowsContent asRows asCount) contents
        (contents.map (receivedContent asRows asCount)) ↔
      ∀ content ∈ contents, LegibleContent content := by
  rw [List.forall₂_map_right_iff, List.forall₂_same]
  exact forall₂_congr fun content _ => showsContent_received_iff injective content

/-! ## What is written -/

/-- The encoder takes the buffer, and its rows have a cell for every column. -/
structure RowsWritable (buffer : RowBuffer) : Prop where
  rectangular : buffer.Rectangular
  encodable : Encodable buffer

def writtenItem : Content → Native.MultiResultItem
  | .rows buffer => .resultSet (messageBytes buffer)
  | .count n => .rowCount n

/-- The envelope of some results. -/
def envelopeBytes (contents : List Content) : Bytes :=
  MultiResult.encodeMulti (contents.map writtenItem)

def WritableContents (contents : List Content) : Prop :=
  ∀ buffer, .rows buffer ∈ contents → RowsWritable buffer

theorem WritableContents.deliver {contents : List Content} (writable : WritableContents contents)
    (library : DecompressLibrary) :
    (contents.map writtenItem).mapM (MultiResultParser.deliver library) =
      .ok (contents.map deliveredItem) := by
  rw [mapM_eq_ok_iff, List.forall₂_map_left_iff, List.forall₂_map_right_iff, List.forall₂_same]
  intro content member
  cases content with
  | count n => rfl
  | rows buffer =>
      obtain ⟨rectangular, encodable⟩ := writable buffer member
      rw [writtenItem, MultiResultParser.deliver, Dart.parse_messageBytes rectangular encodable]
      rfl

/-- An envelope that a call can hand out has a length of 32 bits, and so have its parts. -/
theorem itemsFit_of_short {items : List Native.MultiResultItem} {more : Bytes}
    (short : (MultiResult.encodeMulti items ++ more).length < 256 ^ 4) : ItemsFit items := by
  rw [List.length_append, MultiResult.length_encodeMulti] at short
  have part {item : Native.MultiResultItem} (member : item ∈ items) :=
    MultiResult.length_payload_le member
  obtain ⟨counted, -⟩ := MultiResult.length_encodeItems_le fun item => @part item
  rw [MultiResult.minItemLen] at counted
  refine ⟨by omega, fun item member => ?_⟩
  have := part member
  omega

/-! ## Answers with one result -/

/-- What the engine answers a call with one result. -/
structure EngineAnswer where
  /-- The rows of the result itself, when it has some. -/
  rows : Option RowBuffer := none
  outputs : List Native.ParamValue := []
  refCursors : List RowBuffer := []
  additional : List Content := []

namespace EngineAnswer

/-- The first result is the result itself when it has rows, and all others are additional. -/
def ofContents (contents : List Content) (outputs : List Native.ParamValue) : EngineAnswer :=
  match contents with
  | .rows buffer :: additional => { rows := some buffer, outputs, additional }
  | additional => { outputs, additional }

/-- A message or an envelope with output values behind it, or the cursors of a call that has no
other rows. -/
inductive WrittenAs : EngineAnswer → Bytes → Prop where
  | message {buffer : RowBuffer} {outputs : List Native.ParamValue} {bytes : Bytes}
      (writable : RowsWritable buffer)
      (footed : RowBufferEncoder.appendOutputFooter (messageBytes buffer) outputs =
        (.ok bytes : Except (Fault Native.OdbcError) Bytes)) :
      WrittenAs { rows := some buffer, outputs } bytes
  | cursors {refCursors : List RowBuffer} {outputs : List Native.ParamValue} {bytes : Bytes}
      (sent : trailed (messageBytes ⟨[], []⟩) outputs refCursors = .ok bytes) :
      WrittenAs { outputs, refCursors } bytes
  | envelope {contents : List Content} {outputs : List Native.ParamValue} {bytes : Bytes}
      (writable : WritableContents contents) (short : bytes.length < 256 ^ 4)
      (footed : RowBufferEncoder.appendOutputFooter (envelopeBytes contents) outputs =
        (.ok bytes : Except (Fault Native.OdbcError) Bytes)) :
      WrittenAs (ofContents contents outputs) bytes

/-- The result shows the answer: its rows or none, its output values, the rows of every cursor and
the results that are additional. -/
structure Shows (answer : EngineAnswer) (result : QueryResult) : Prop where
  rows : match answer.rows with
    | some buffer => ShowsRows buffer result.toRowSet
    | none => result.toRowSet = ⟨[], [], 0⟩
  outputs : result.outputParamValues = answer.outputs.map ofNative
  refCursors : List.Forall₂ ShowsRows answer.refCursors result.refCursorResults
  additional : List.Forall₂ (ShowsContent .result .rowCount) answer.additional
    result.additionalResults

/-- Nothing of the answer is of a kind that the package reads wrongly. -/
structure Legible (answer : EngineAnswer) : Prop where
  rows : ∀ buffer, answer.rows = some buffer → LegibleRows buffer
  outputs : ∀ p ∈ answer.outputs, ¬ Marked p
  refCursors : ∀ cursor ∈ answer.refCursors, cursor.columns = [] ∧ cursor.rows = []
  additional : ∀ content ∈ answer.additional, LegibleContent content

/-- What the package makes of the answer. -/
def received (answer : EngineAnswer) : QueryResult :=
  { (answer.rows.elim ⟨[], [], 0⟩ fun buffer => (receivedBuffer buffer).rowSet) with
    outputParamValues := answer.outputs.map Dart.received
    refCursorResults := answer.refCursors.map fun _ => ⟨[], [], 0⟩
    additionalResults := answer.additional.map (receivedContent .result .rowCount) }

theorem deliveredItem_directed (content : Content) :
    (deliveredItem content).directed = receivedContent .result .rowCount content := by
  cases content with
  | rows buffer => rfl
  | count n => rfl

theorem received_ofContents (contents : List Content) (outputs : List Native.ParamValue) :
    (ofContents contents outputs).received =
      envelopeResult contents (outputs.map Dart.received) := by
  cases contents with
  | nil => rfl
  | cons first later =>
      cases first with
      | rows buffer =>
          simp only [ofContents, received, envelopeResult, deliveredItem_directed]
          rfl
      | count n =>
          simp only [ofContents, received, envelopeResult, deliveredItem_directed]
          rfl

theorem decodeQueryResult_written {answer : EngineAnswer} {bytes : Bytes}
    (library : DecompressLibrary) (written : answer.WrittenAs bytes) :
    decodeQueryResult library bytes = .ok answer.received := by
  cases written with
  | message writable footed =>
      exact decodeQueryResult_plain writable.rectangular writable.encodable footed
  | cursors sent =>
      rw [decodeQueryResult_cursors library sent, ← List.map_const']
      rfl
  | envelope writable short footed =>
      rw [received_ofContents]
      refine decodeQueryResult_envelope ?_ (writable.deliver library) footed
      obtain ⟨rfl, -, -⟩ := RowBufferEncoder.appendOutputFooter_eq_ok footed
      exact itemsFit_of_short short

theorem shows_received_iff (answer : EngineAnswer) :
    answer.Shows answer.received ↔ answer.Legible := by
  obtain ⟨rows, outputs, refCursors, additional⟩ := answer
  have values : outputs.map Dart.received = outputs.map ofNative ↔ ∀ p ∈ outputs, ¬ Marked p := by
    rw [List.map_inj_left]
    exact forall₂_congr fun p _ => received_eq_iff p
  have cursors : List.Forall₂ ShowsRows refCursors (refCursors.map fun _ => ⟨[], [], 0⟩) ↔
      ∀ cursor ∈ refCursors, cursor.columns = [] ∧ cursor.rows = [] := by
    rw [List.forall₂_map_right_iff, List.forall₂_same]
    exact forall₂_congr fun cursor _ => showsRows_empty_iff cursor
  have items : List.Forall₂ (ShowsContent .result .rowCount) additional
      (additional.map (receivedContent DirectedMultiItem.result .rowCount)) ↔ _ :=
    showsContents_received_iff (fun _ _ => DirectedMultiItem.result.inj) additional
  constructor
  · intro shows'
    refine ⟨?_, values.mp shows'.outputs, cursors.mp shows'.refCursors, items.mp shows'.additional⟩
    rintro buffer ⟨⟩
    exact (showsRows_received_iff buffer).mp shows'.rows
  · intro legible
    refine ⟨?_, values.mpr legible.outputs, cursors.mpr legible.refCursors,
      items.mpr legible.additional⟩
    cases rows with
    | none => rfl
    | some buffer => exact (showsRows_received_iff buffer).mpr (legible.rows buffer rfl)

end EngineAnswer

/-! ## Answers with several results -/

/-- The envelope of a batch, behind which there is nothing. -/
structure BatchWrittenAs (contents : List Content) (bytes : Bytes) : Prop where
  writable : WritableContents contents
  short : bytes.length < 256 ^ 4
  envelope : bytes = envelopeBytes contents

/-- The rows of a result in a batch. -/
def asResultSet (shown : RowSet) : QueryResultMultiItem := .resultSet { shown with }

/-- Each result is shown in its place. -/
def ShowsBatch (contents : List Content) (result : QueryResultMulti) : Prop :=
  List.Forall₂ (ShowsContent asResultSet .rowCount) contents result.items

def LegibleBatch (contents : List Content) : Prop := ∀ content ∈ contents, LegibleContent content

def receivedBatch (contents : List Content) : QueryResultMulti :=
  ⟨contents.map (receivedContent asResultSet .rowCount)⟩

theorem toQueryResultMulti_delivered (contents : List Content) :
    toQueryResultMulti (contents.map deliveredItem) = receivedBatch contents := by
  rw [toQueryResultMulti, receivedBatch, List.map_map]
  refine congrArg QueryResultMulti.mk (List.map_congr_left fun content _ => ?_)
  cases content with
  | rows buffer => rfl
  | count n => rfl

theorem decodeQueryResultMulti_written {contents : List Content} {bytes : Bytes}
    (library : DecompressLibrary) (written : BatchWrittenAs contents bytes) :
    decodeQueryResultMulti library bytes = .ok (receivedBatch contents) := by
  obtain ⟨writable, short, rfl⟩ := written
  have plain : envelopeBytes contents ++ [] = envelopeBytes contents := List.append_nil _
  have fitting : ItemsFit (contents.map writtenItem) := itemsFit_of_short (plain.symm ▸ short)
  have parsed := parse_encodeMulti fitting [] (writable.deliver library)
  have some : envelopeBytes contents ≠ [] := by
    rw [envelopeBytes, ← List.length_pos_iff, MultiResult.length_encodeMulti,
      MultiResult.headerV2Len]
    omega
  rw [List.append_nil] at parsed
  rw [decodeQueryResultMulti, if_neg some, envelopeBytes, parsed]
  exact congrArg Except.ok (toQueryResultMulti_delivered contents)

theorem showsBatch_received_iff (contents : List Content) :
    ShowsBatch contents (receivedBatch contents) ↔ LegibleBatch contents := by
  refine showsContents_received_iff ?_ contents
  intro shown other same
  injection QueryResultMultiItem.resultSet.inj same

/-! ## The engine's calls -/

section Engine

open ExecutionEngine

variable {codecs : Codecs} {engine : ExecutionEngine} {contents : List Content}
  {outputs : List Native.ParamValue} {body bytes : Bytes}

theorem writtenItem_of_item (rowMajor : engine.useColumnar = false) {content : Content}
    {item : Native.MultiResultItem} (encoded : engine.item codecs content = .ok item) :
    item = writtenItem content ∧ ∀ buffer, content = .rows buffer → Encodable buffer := by
  cases content with
  | count n =>
      cases encoded
      exact ⟨rfl, by rintro _ ⟨⟩⟩
  | rows buffer =>
      obtain ⟨payload, written, rfl⟩ := map_eq_ok.mp encoded
      obtain ⟨encodable, rfl⟩ := encodeBuffer_eq_ok rowMajor written
      refine ⟨rfl, ?_⟩
      rintro _ ⟨⟩
      exact encodable

theorem writtenItems_of_items (rowMajor : engine.useColumnar = false)
    {items : List Native.MultiResultItem} (cells : ∀ content ∈ contents, HasCells content)
    (encoded : contents.mapM (engine.item codecs) = .ok items) :
    items = contents.map writtenItem ∧ WritableContents contents := by
  refine ⟨eq_map_of_mapM_eq_ok encoded fun _ _ one => (writtenItem_of_item rowMajor one).1, ?_⟩
  intro buffer member
  obtain ⟨item, one⟩ := exists_of_mapM_eq_ok encoded member
  exact ⟨cells _ member buffer rfl, (writtenItem_of_item rowMajor one).2 buffer rfl⟩

/-- What is told of the results of a call: of a lone row count nothing. -/
def EngineAnswer.ofResponse (contents : List Content) (outputs : List Native.ParamValue) :
    EngineAnswer :=
  match contents with
  | [.count _] => { rows := some ⟨[], []⟩, outputs }
  | contents => .ofContents contents outputs

/-- The message of the results of a call, with its output values. -/
theorem response_written (rowMajor : engine.useColumnar = false)
    (cells : ∀ content ∈ contents, HasCells content) (short : bytes.length < 256 ^ 4)
    (answered : response codecs engine contents = .ok body)
    (footed : RowBufferEncoder.appendOutputFooter body outputs =
      (.ok bytes : Except (Fault Native.OdbcError) Bytes)) :
    (EngineAnswer.ofResponse contents outputs).WrittenAs bytes := by
  by_cases several : (∀ buffer, contents ≠ [.rows buffer]) ∧ ∀ n, contents ≠ [.count n]
  · have plain : EngineAnswer.ofResponse contents outputs = .ofContents contents outputs := by
      rw [EngineAnswer.ofResponse]
      exact several.2
    rw [response_of_envelope several] at answered
    obtain ⟨items, encoded, rfl⟩ := map_eq_ok.mp answered
    obtain ⟨rfl, writable⟩ := writtenItems_of_items rowMajor cells encoded
    rw [plain]
    exact .envelope writable short footed
  · obtain ⟨content, rfl⟩ : ∃ content, contents = [content] := by
      by_contra other
      exact several ⟨fun buffer single => other ⟨_, single⟩, fun n single => other ⟨_, single⟩⟩
    cases content with
    | rows buffer =>
        obtain ⟨encodable, rfl⟩ := encodeBuffer_eq_ok rowMajor answered
        exact .message ⟨cells _ (List.mem_singleton_self _) buffer rfl, encodable⟩ footed
    | count n =>
        obtain ⟨encodable, rfl⟩ := encodeBuffer_eq_ok rowMajor answered
        exact .message ⟨rectangular_empty, encodable⟩ footed

/-- Without a trailer there is nothing behind a message. -/
theorem appendOutputFooter_nil (body : Bytes) :
    RowBufferEncoder.appendOutputFooter body [] =
      (.ok body : Except (Fault Native.OdbcError) Bytes) := rfl

theorem rectangular_of_fetchCursor {mapType : Int → Native.OdbcType} {result : DriverResult}
    {buffer : RowBuffer} (read : fetchCursor mapType result = .ok buffer) :
    (coalesceForJsonRows buffer).Rectangular := by
  apply rectangular_of_readCursor
  rw [readCursor_eq_map, read]
  rfl

/-- What a statement returned is written as a message. -/
theorem fetched_written {driver : Driver} {buffer : RowBuffer}
    (rowMajor : engine.useColumnar = false) (fetched : fetch engine.mapType driver = .ok buffer)
    (encoded : engine.encodeBuffer codecs (coalesceForJsonRows buffer) = .ok bytes) :
    EngineAnswer.WrittenAs { rows := some (coalesceForJsonRows buffer) } bytes := by
  obtain ⟨encodable, rfl⟩ := encodeBuffer_eq_ok rowMajor encoded
  refine .message ⟨?_, encodable⟩ (appendOutputFooter_nil _)
  obtain ⟨⟨hasCursor, stmt⟩, -, fetched⟩ := bind_eq_ok.mp fetched
  dsimp only at fetched
  split_ifs at fetched
  · exact rectangular_of_fetchCursor fetched
  · cases fetched
    exact rectangular_coalesceForJsonRows rectangular_empty

theorem executeQueryInner_written {database : Native.Database} {sql : List Char}
    (rowMajor : engine.useColumnar = false)
    (ran : engine.executeQueryInner codecs database sql = .ok bytes) :
    ∃ buffer, EngineAnswer.WrittenAs { rows := some buffer } bytes := by
  obtain ⟨_, -, ran⟩ := bind_eq_ok.mp ran
  obtain ⟨buffer, fetched, ran⟩ := bind_eq_ok.mp ran
  exact ⟨_, fetched_written rowMajor (orFault_eq_ok.mp fetched) ran⟩

theorem executeQueryWithParamsInner_written {database : BoundDatabase build} {sql : List Char}
    {params : List Native.ParamValue} (rowMajor : engine.useColumnar = false)
    (ran : engine.executeQueryWithParamsInner codecs database sql params = .ok bytes) :
    ∃ buffer, EngineAnswer.WrittenAs { rows := some buffer } bytes := by
  obtain ⟨_, -, ran⟩ := bind_eq_ok.mp ran
  obtain ⟨slots, -, ran⟩ := bind_eq_ok.mp ran
  obtain ⟨_, -, ran⟩ := bind_eq_ok.mp ran
  obtain ⟨buffer, fetched, ran⟩ := bind_eq_ok.mp ran
  exact ⟨_, fetched_written rowMajor (orFault_eq_ok.mp fetched) ran⟩

/-- A row-major engine writes an answer, whatever parameters a call has. -/
theorem dispatchParamBuffer_written {database : BoundDatabase build} {sql : List Char}
    {paramBytes : Bytes} (rowMajor : engine.useColumnar = false) (short : bytes.length < 256 ^ 4)
    (ran : engine.dispatchParamBuffer codecs database sql paramBytes = .ok bytes) :
    ∃ answer : EngineAnswer, answer.WrittenAs bytes := by
  obtain ⟨list, -, ran⟩ := bind_eq_ok.mp ran
  cases list with
  | legacy params =>
      obtain ⟨_, -, ran⟩ := bind_eq_ok.mp ran
      obtain ⟨buffer, written⟩ := executeQueryWithParamsInner_written rowMajor ran
      exact ⟨_, written⟩
  | directed bound =>
      obtain ⟨_, -, ran⟩ := bind_eq_ok.mp ran
      split_ifs at ran
      · obtain ⟨buffer, written⟩ := executeQueryWithParamsInner_written rowMajor ran
        exact ⟨_, written⟩
      · cases cursor : boundHasRefCursor bound with
        | true =>
            obtain ⟨-, _, _, cursors, main, -, -, -, -, empty, sent⟩ :=
              refCursor_call_sent cursor ran
            obtain ⟨-, rfl⟩ := encodeBuffer_eq_ok rowMajor empty
            exact ⟨_, .cursors sent⟩
        | false =>
            obtain ⟨slots, contents, body, -, read, answered, footed⟩ :=
              executeQueryWithBoundParams_eq_ok database cursor ran
            exact ⟨_, response_written rowMajor (hasCells_of_contents read).2 short answered footed⟩

/-- The first result was read when its item was made. -/
theorem exists_firstContent {stmt : Statement} {cols : Int} {item : Native.MultiResultItem}
    (counted : stmt.current.numResultCols = .ok cols)
    (initial : engine.initialItem codecs (decide (cols ≠ 0)) stmt = .ok item) :
    ∃ content, firstContent engine.mapType stmt.current = .ok content ∧
      engine.item codecs content = .ok item := by
  have read : ∃ content, firstContent engine.mapType stmt.current = .ok content := by
    rw [firstContent, counted, ok_bind]
    by_cases cursor : cols ≠ 0
    · rw [initialItem, if_pos (decide_eq_true cursor)] at initial
      obtain ⟨_, encoded, -⟩ := map_eq_ok.mp initial
      obtain ⟨buffer, readRows, -⟩ := bind_eq_ok.mp encoded
      exact ⟨.rows buffer, by rw [if_pos cursor, orFault_eq_ok.mp readRows]; rfl⟩
    · rw [initialItem, if_neg (by simpa using cursor)] at initial
      obtain ⟨rc, readCount, -⟩ := map_eq_ok.mp initial
      exact ⟨.count (rc.getD 0), by rw [if_neg cursor, orFault_eq_ok.mp readCount]; rfl⟩
  obtain ⟨content, read⟩ := read
  exact ⟨content, read, (initialItem_eq counted read).symm.trans initial⟩

/-- The results of a batch that was driven to its end were all read. -/
theorem contents_of_drive {driver : Driver} {hadInitialCursor : Bool} {stmt : Statement}
    {first : Native.MultiResultItem} {all : List Native.MultiResultItem}
    (executed : driver.execute = .ok (hadInitialCursor, stmt))
    (initial : engine.initialItem codecs hadInitialCursor stmt = .ok first)
    (drained : engine.driveMoreResults codecs stmt [first] = .ok all) :
    ∃ contents, driver.contents engine.mapType = .ok contents ∧
      contents.mapM (engine.item codecs) = .ok all := by
  obtain ⟨_, -, executed⟩ := bind_eq_ok.mp executed
  obtain ⟨cols, counted, executed⟩ := bind_eq_ok.mp executed
  cases executed
  obtain ⟨-, later, items, readLater, encodedLater, rfl⟩ := driveMoreResults_eq_ok drained
  obtain ⟨content, read, encoded⟩ := exists_firstContent counted initial
  refine ⟨content :: later, ?_, ?_⟩
  · rw [Driver.contents, read, ok_bind, readLater]
    rfl
  · rw [List.mapM_cons, encoded, ok_bind, encodedLater]
    rfl

theorem batchWrittenAs_of_drive {driver : Driver} {hadInitialCursor : Bool} {stmt : Statement}
    {first : Native.MultiResultItem} {all : List Native.MultiResultItem}
    (rowMajor : engine.useColumnar = false)
    (short : (MultiResult.encodeMulti all).length < 256 ^ 4)
    (executed : driver.execute = .ok (hadInitialCursor, stmt))
    (initial : engine.initialItem codecs hadInitialCursor stmt = .ok first)
    (drained : engine.driveMoreResults codecs stmt [first] = .ok all) :
    ∃ contents, driver.contents engine.mapType = .ok contents ∧
      BatchWrittenAs contents (MultiResult.encodeMulti all) := by
  obtain ⟨contents, read, encoded⟩ := contents_of_drive executed initial drained
  obtain ⟨rfl, writable⟩ := writtenItems_of_items rowMajor (hasCells_of_contents read).2 encoded
  exact ⟨contents, read, writable, short, rfl⟩

/-- A row-major engine writes the results of a batch, ... -/
theorem executeMultiResult_written {driver : Driver} (rowMajor : engine.useColumnar = false)
    (short : bytes.length < 256 ^ 4) (ran : engine.executeMultiResult codecs driver = .ok bytes) :
    ∃ contents, driver.contents engine.mapType = .ok contents ∧ BatchWrittenAs contents bytes := by
  obtain ⟨_, -, ran⟩ := bind_eq_ok.mp ran
  obtain ⟨⟨hadInitialCursor, stmt⟩, executed, ran⟩ := bind_eq_ok.mp ran
  obtain ⟨first, initial, ran⟩ := bind_eq_ok.mp ran
  obtain ⟨all, drained, ran⟩ := bind_eq_ok.mp ran
  cases ran
  exact batchWrittenAs_of_drive rowMajor short (orFault_eq_ok.mp executed) initial drained

/-- ... also of one with parameters. -/
theorem executeMultiResultWithParamsInner_written {database : BoundDatabase build}
    {sql : List Char} {params : List Native.ParamValue} (rowMajor : engine.useColumnar = false)
    (short : bytes.length < 256 ^ 4)
    (ran : engine.executeMultiResultWithParamsInner codecs database sql params = .ok bytes) :
    ∃ slots contents, (database.answer sql slots).driver.contents engine.mapType = .ok contents ∧
      BatchWrittenAs contents bytes := by
  obtain ⟨_, -, ran⟩ := bind_eq_ok.mp ran
  obtain ⟨_, -, ran⟩ := bind_eq_ok.mp ran
  obtain ⟨slots, -, ran⟩ := bind_eq_ok.mp ran
  obtain ⟨⟨hadInitialCursor, stmt⟩, executed, ran⟩ := bind_eq_ok.mp ran
  obtain ⟨first, initial, ran⟩ := bind_eq_ok.mp ran
  obtain ⟨all, drained, ran⟩ := bind_eq_ok.mp ran
  cases ran
  exact ⟨slots, batchWrittenAs_of_drive rowMajor short (orFault_eq_ok.mp executed) initial drained⟩

end Engine

end OdbcFast.Verification
