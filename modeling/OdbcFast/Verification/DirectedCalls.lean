import OdbcFast.Dart.QueryResult
import OdbcFast.Native.Engine.ParamQueries
import OdbcFast.Verification.Columnar
import OdbcFast.Verification.JsonRows
import OdbcFast.Verification.MultiResult
import OdbcFast.Verification.MultiResultDrivers
import OdbcFast.Verification.Params
import OdbcFast.Verification.RefCursors

/-!
# Directed calls end to end

A call with output parameters starts in Dart as a list of directed values and ends there as a
query result. In between the list travels as bytes, every parameter gets a slot, the statement
runs, and its results and the output values travel back. `directed_call_arrives` says what the
repository makes of all that. The validation in Dart refuses everything that has no slot but a
text that is too long for one, and on Oracle the text that is executed has a question mark for
every slot and a cursor for every mark that was taken out.
-/

namespace OdbcFast.Verification

open Wire Native OdbcFast.Dart ExecutionEngine

variable {build : TextBuild}

/-! ## What the results become -/

/-- What the parser makes of a result. -/
def deliveredItem : Content → Dart.MultiResultItem
  | .rows buffer => .resultSet (receivedBuffer buffer)
  | .count n => .rowCount n.toInt

/-- The first rows are the result and everything behind them is additional. A row count in front
is additional too, but when it is all there is, it is not told. -/
def directedResult (contents : List Content) (outputParamValues : List Dart.ParamValue) :
    QueryResult :=
  match contents with
  | .rows buffer :: later =>
    { (receivedBuffer buffer).rowSet with
      outputParamValues, additionalResults := later.map fun c => (deliveredItem c).directed }
  | [.count _] => { columns := [], rows := [], rowCount := 0, outputParamValues }
  | contents =>
    { columns := [], rows := [], rowCount := 0, outputParamValues
      additionalResults := contents.map fun c => (deliveredItem c).directed }

/-- The same without the exception: an envelope tells its row counts. -/
def envelopeResult (contents : List Content) (outputParamValues : List Dart.ParamValue) :
    QueryResult :=
  match contents with
  | .rows buffer :: later =>
    { (receivedBuffer buffer).rowSet with
      outputParamValues, additionalResults := later.map fun c => (deliveredItem c).directed }
  | contents =>
    { columns := [], rows := [], rowCount := 0, outputParamValues
      additionalResults := contents.map fun c => (deliveredItem c).directed }

theorem directedResult_of_several {contents : List Content} (several : ∀ n, contents ≠ [.count n])
    (outputParamValues : List Dart.ParamValue) :
    directedResult contents outputParamValues = envelopeResult contents outputParamValues := by
  cases contents with
  | nil => rfl
  | cons first later =>
      cases first with
      | rows buffer => rfl
      | count n =>
          cases later with
          | nil => exact absurd rfl (several n)
          | cons second later => rfl

theorem rectangular_empty : RowBuffer.Rectangular ⟨[], []⟩ := List.forall_mem_nil _

theorem encodable_empty : Encodable ⟨[], []⟩ :=
  ⟨by decide, by decide, List.forall_mem_nil _, List.forall_mem_nil _, by decide⟩

theorem rectangular_coalesceForJsonRows {buffer : RowBuffer} (rectangular : buffer.Rectangular) :
    (coalesceForJsonRows buffer).Rectangular := by
  by_cases pieces : JsonPieces buffer
  · obtain ⟨col, -, columns⟩ := columns_coalesceForJsonRows pieces
    intro row member
    rw [coalesceForJsonRows, if_neg (not_not.mpr pieces.1),
      if_neg fun none => pieces.2 (List.isEmpty_iff.mp none)] at member
    rw [columns, List.mem_singleton.mp member]
    rfl
  · rwa [coalesceForJsonRows_of_not pieces]

theorem rectangular_of_readCursor {mapType : Int → Native.OdbcType} {result : DriverResult}
    {buffer : RowBuffer} (read : readCursor mapType result = .ok buffer) : buffer.Rectangular := by
  obtain ⟨cols, -, read⟩ := bind_eq_ok.mp read
  split_ifs at read
  obtain ⟨columns, -, read⟩ := bind_eq_ok.mp read
  obtain ⟨rows, readRows, read⟩ := bind_eq_ok.mp read
  obtain ⟨_, -, read⟩ := bind_eq_ok.mp read
  cases read
  refine rectangular_coalesceForJsonRows fun row member => ?_
  obtain ⟨raw, -, one⟩ := exists_of_mem_mapM_eq_ok readRows member
  rw [← (mapM_eq_ok_iff.mp one).length_eq, List.length_zipIdx]

/-- The rows of a result that was read have a cell for every column. -/
def HasCells (content : Content) : Prop := ∀ buffer, content = .rows buffer → buffer.Rectangular

theorem hasCells_of_contents {mapType : Int → Native.OdbcType} {driver : Driver}
    {contents : List Content} (read : driver.contents mapType = .ok contents) :
    contents ≠ [] ∧ ∀ content ∈ contents, HasCells content := by
  obtain ⟨first, readFirst, read⟩ := bind_eq_ok.mp read
  obtain ⟨later, readLater, read⟩ := bind_eq_ok.mp read
  cases read
  refine ⟨List.cons_ne_nil _ _, List.forall_mem_cons.mpr ⟨?_, ?_⟩⟩
  · rintro buffer rfl
    obtain ⟨cols, -, readFirst⟩ := bind_eq_ok.mp readFirst
    split_ifs at readFirst
    · obtain ⟨_, one, same⟩ := map_eq_ok.mp readFirst
      cases same
      exact rectangular_of_readCursor one
    · obtain ⟨_, -, same⟩ := map_eq_ok.mp readFirst
      cases same
  · rintro content member buffer rfl
    obtain ⟨step, -, one⟩ := exists_of_mem_mapM_eq_ok readLater member
    obtain ⟨cols, -, one⟩ := bind_eq_ok.mp one
    split_ifs at one
    · obtain ⟨_, one, same⟩ := map_eq_ok.mp one
      cases same
      exact rectangular_of_readCursor one
    · obtain ⟨_, -, same⟩ := map_eq_ok.mp one
      cases same

section

variable {codecs : Codecs} {engine : ExecutionEngine} {library : DecompressLibrary}
  {contents : List Content} {body bytes : Bytes} {outputs : List Native.ParamValue}

theorem encodeBuffer_eq_ok (rowMajor : engine.useColumnar = false) {buffer : RowBuffer}
    (encoded : engine.encodeBuffer codecs buffer = .ok bytes) :
    Encodable buffer ∧ bytes = messageBytes buffer := by
  rw [encodeBuffer, rowMajor, if_neg Bool.false_ne_true] at encoded
  exact RowBufferEncoder.tryEncode_eq_ok (expect_eq_ok.mp encoded)

theorem deliver_item (rowMajor : engine.useColumnar = false) {content : Content}
    {item : Native.MultiResultItem} (cells : HasCells content)
    (encoded : engine.item codecs content = .ok item) :
    MultiResultParser.deliver library item = .ok (deliveredItem content) := by
  cases content with
  | count n =>
      cases encoded
      rfl
  | rows buffer =>
      obtain ⟨payload, written, rfl⟩ := map_eq_ok.mp encoded
      obtain ⟨encodable, rfl⟩ := encodeBuffer_eq_ok rowMajor written
      rw [MultiResultParser.deliver, Dart.parse_messageBytes (cells buffer rfl) encodable]
      rfl

theorem mapM_deliver_items (rowMajor : engine.useColumnar = false)
    {items : List Native.MultiResultItem} (cells : ∀ content ∈ contents, HasCells content)
    (encoded : contents.mapM (engine.item codecs) = .ok items) :
    items.mapM (MultiResultParser.deliver library) = .ok (contents.map deliveredItem) := by
  rw [mapM_eq_ok_iff] at encoded ⊢
  induction encoded with
  | nil => exact .nil
  | cons head _ ih =>
      obtain ⟨first, later⟩ := List.forall_mem_cons.mp cells
      exact .cons (deliver_item rowMajor first head) (ih later)

theorem isMessage_messageBytes {buffer : RowBuffer} (rectangular : buffer.Rectangular)
    (encodable : Encodable buffer) : IsMessage library (messageBytes buffer) := by
  refine ⟨⟨_, Dart.parse_messageBytes rectangular encodable⟩, ?_⟩
  have header : OccursAt (headerBytes buffer.columnCount buffer.rowCount
      (payloadBytes buffer).length) 0 (messageBytes buffer) := OccursAt.self_append _ _
  obtain ⟨-, versioned, -, -, sized⟩ :=
    headerBytes_words header encodable.columns encodable.rows encodable.payload
  rw [Nat.zero_add] at versioned sized
  rw [declaredLength, versioned, if_pos (by rfl), sized, length_messageBytes]
  rfl

/-- What is appended does not depend on the kind of error the caller has. -/
theorem appendOutputFooter_congr {ε ε' : Type}
    (footed : RowBufferEncoder.appendOutputFooter body outputs =
      (.ok bytes : Except (Fault ε) Bytes)) :
    RowBufferEncoder.appendOutputFooter body outputs = (.ok bytes : Except (Fault ε') Bytes) := by
  rw [RowBufferEncoder.appendOutputFooter] at footed ⊢
  split at footed
  · cases footed
    rfl
  · cases footed
  · cases footed

/-- A plain message and the output values behind it. -/
theorem decodeQueryResult_plain {buffer : RowBuffer} (rectangular : buffer.Rectangular)
    (encodable : Encodable buffer)
    (footed : RowBufferEncoder.appendOutputFooter (messageBytes buffer) outputs =
      (.ok bytes : Except (Fault Native.OdbcError) Bytes)) :
    decodeQueryResult library bytes =
      .ok { (receivedBuffer buffer).rowSet with outputParamValues := outputs.map received } := by
  have message : IsMessage library (messageBytes buffer) :=
    isMessage_messageBytes rectangular encodable
  have sent : trailed (messageBytes buffer) outputs [] = .ok bytes := by
    rw [trailed, List.mapM_nil]
    show (RowBufferEncoder.appendOutputFooter (messageBytes buffer) outputs >>= fun body =>
      RowBufferEncoder.appendRefCursorFooter body []) = _
    rw [appendOutputFooter_congr footed]
    rfl
  obtain ⟨result, start, accepted, -, ends, read⟩ := parseWithOutputs_of_trailed message sent
  rw [Dart.parse_messageBytes rectangular encodable, Except.ok.injEq] at accepted
  subst accepted
  obtain ⟨long, marked, -⟩ := message.parseMain
  obtain ⟨rfl, -, -⟩ := RowBufferEncoder.appendOutputFooter_eq_ok footed
  have word : readLe 4 (messageBytes buffer ++ outputFooterBytes outputs) 0 =
      BinaryProtocolParser.magic := by
    rw [readLe_append _ (by omega), marked]
  have some : messageBytes buffer ++ outputFooterBytes outputs ≠ [] := by
    intro none
    have := congrArg List.length none
    simp only [List.length_append, List.length_nil] at this
    omega
  have foreign : BinaryProtocolParser.magic ≠ MultiResultParser.multiResultMagic := by decide
  have last : start = (messageBytes buffer ++ outputFooterBytes outputs).length := ends
  rw [decodeQueryResult, if_neg some, if_neg fun envelope => foreign (word.symm.trans envelope.2),
    read, last]
  have trailing : BinaryProtocolParser.checkTrailing
      (.fromList (messageBytes buffer ++ outputFooterBytes outputs))
      (messageBytes buffer ++ outputFooterBytes outputs).length = .ok () :=
    if_neg fun inside => Nat.lt_irrefl _ inside.1
  simp only [List.length_nil, BinaryProtocolParser.readCursors, ok_bind, trailing]
  rfl

/-- An envelope and the output values behind it. -/
theorem decodeQueryResult_envelope {items : List Native.MultiResultItem} (fitting : ItemsFit items)
    (parsed : items.mapM (MultiResultParser.deliver library) = .ok (contents.map deliveredItem))
    (footed : RowBufferEncoder.appendOutputFooter (MultiResult.encodeMulti items) outputs =
      (.ok bytes : Except (Fault Native.OdbcError) Bytes)) :
    decodeQueryResult library bytes = .ok (envelopeResult contents (outputs.map received)) := by
  obtain ⟨rfl, few, fits⟩ := RowBufferEncoder.appendOutputFooter_eq_ok footed
  obtain ⟨marked, -, -, there⟩ :=
    MultiResult.encodeMulti_words (outputFooterBytes outputs) fitting.1
  have long := there.le_length
  rw [MultiResult.headerV2Len] at long
  have some : MultiResult.encodeMulti items ++ outputFooterBytes outputs ≠ [] := by
    intro none
    rw [none] at long
    simp at long
  rw [decodeQueryResult, if_neg some, if_pos ⟨by omega, marked⟩, parseMultiDirectedBuffer,
    parseMultiWithOutputs_outputs fitting parsed few fits, ok_bind]
  cases contents with
  | nil => rfl
  | cons first later =>
      cases first with
      | rows buffer =>
          simp only [List.map_cons, deliveredItem, envelopeResult, List.map_map]
          rfl
      | count n =>
          simp only [List.map_cons, deliveredItem, envelopeResult, List.map_map]
          rfl

theorem response_of_envelope (several : (∀ buffer, contents ≠ [.rows buffer]) ∧
    ∀ n, contents ≠ [.count n]) :
    response codecs engine contents =
      (contents.mapM (engine.item codecs)).map MultiResult.encodeMulti := by
  rw [response]
  · exact several.1
  · exact several.2

/-- What the engine's own decoder would accept. -/
structure Decodable (contents : List Content) (bytes : Bytes) : Prop where
  count : contents.length ≤ MultiResult.maxMultiResultItems
  size : bytes.length ≤ MultiResult.maxMultiResultPayload

theorem Decodable.withinLimits {items : List Native.MultiResultItem} {more : Bytes}
    (small : Decodable contents (MultiResult.encodeMulti items ++ more))
    (encoded : contents.mapM (engine.item codecs) = .ok items) :
    MultiResult.WithinLimits items := by
  refine ⟨?_, fun item member => ?_⟩
  · rw [← (mapM_eq_ok_iff.mp encoded).length_eq]
    exact small.count
  · have part := MultiResult.length_payload_le member
    have size := small.size
    rw [List.length_append, MultiResult.length_encodeMulti] at size
    omega

/-- The message of the results, with the output values behind it, is what is shown. -/
theorem decodeQueryResult_response (rowMajor : engine.useColumnar = false) (some : contents ≠ [])
    (cells : ∀ content ∈ contents, HasCells content) (small : Decodable contents bytes)
    (answered : response codecs engine contents = .ok body)
    (footed : RowBufferEncoder.appendOutputFooter body outputs =
      (.ok bytes : Except (Fault Native.OdbcError) Bytes)) :
    decodeQueryResult library bytes = .ok (directedResult contents (outputs.map received)) := by
  by_cases several : (∀ buffer, contents ≠ [.rows buffer]) ∧ ∀ n, contents ≠ [.count n]
  · rw [response_of_envelope several] at answered
    obtain ⟨items, encoded, rfl⟩ := map_eq_ok.mp answered
    obtain ⟨rfl, -, -⟩ := RowBufferEncoder.appendOutputFooter_eq_ok footed
    rw [directedResult_of_several several.2]
    exact decodeQueryResult_envelope (WithinLimits.fits (small.withinLimits encoded))
      (mapM_deliver_items rowMajor cells encoded) footed
  · obtain ⟨content, rfl⟩ : ∃ content, contents = [content] := by
      by_contra other
      exact several ⟨fun buffer single => other ⟨_, single⟩, fun n single => other ⟨_, single⟩⟩
    cases content with
    | rows buffer =>
        obtain ⟨encodable, rfl⟩ := encodeBuffer_eq_ok rowMajor answered
        exact decodeQueryResult_plain (cells _ (List.mem_singleton_self _) buffer rfl) encodable
          footed
    | count n =>
        obtain ⟨encodable, rfl⟩ := encodeBuffer_eq_ok rowMajor answered
        exact decodeQueryResult_plain rectangular_empty encodable footed

end

/-! ## From one query result to the next -/

section

variable {δ : Type} {toParamValue : δ → Except ArgumentError Dart.ParamValue}
  {params : List (DirectedParam δ)} {values : List (Dart.ParamDirection × Dart.ParamValue)}

/-- A list that the engine takes off the wire. -/
structure Sendable (values : List (Dart.ParamDirection × Dart.ParamValue)) : Prop where
  few : values.length ≤ maxParamCount
  small : ∀ one ∈ values, (toNative one.2).payload.length ≤ maxParamValuePayloadLen

theorem Sendable.deserialize (sendable : Sendable values) :
    deserializeParamBuffer (wireDirected (values.map boundParam)) =
      .ok (.directed (values.map boundParam)) := by
  refine deserializeParamBuffer_wireDirected ?_ ?_
  · rw [List.length_map]
    exact sendable.few
  · intro value member
    rw [List.map_map] at member
    obtain ⟨one, there, rfl⟩ := List.mem_map.mp member
    exact sendable.small one there

theorem boundHasRefCursor_eq_false (plain : ∀ one ∈ values, one.2 ≠ .refCursorOut) :
    boundHasRefCursor (values.map boundParam) = false := by
  rw [boundHasRefCursor, List.any_eq_false]
  intro bp member cursor
  obtain ⟨one, there, rfl⟩ := List.mem_map.mp member
  have native : toNative one.2 = .refCursorOut := of_decide_eq_true cursor
  obtain ⟨direction, value⟩ := one
  cases value with
  | refCursorOut => exact plain _ there rfl
  | string s => cases native
  | int32 n => cases native
  | int64 n => cases native
  | decimal s => cases native
  | binary b => cases native
  | null => cases native

/-- A directed call shows what the readers make of its results, and behind them what the driver has
left in the output buffers, less a byte order mark in front of a text. -/
theorem directed_call_arrives {codecs : Codecs} {engine : ExecutionEngine}
    {database : BoundDatabase build} {sql : List Char} {buffer bytes : Bytes}
    (library : DecompressLibrary) (rowMajor : engine.useColumnar = false)
    (each : params.mapM (convertDirected toParamValue) = .ok values) (sendable : Sendable values)
    (directed : ∃ one ∈ values, one.1 ≠ .input) (plain : ∀ one ∈ values, one.2 ≠ .refCursorOut)
    (sent : serializeDirectedParams toParamValue params = .ok buffer)
    (ran : engine.dispatchParamBuffer codecs database sql buffer = .ok bytes) :
    ∃ slots contents, boundToSlots build (values.map boundParam) = .ok slots ∧
      (database.answer sql slots).driver.contents engine.mapType = .ok contents ∧
      (Decodable contents bytes → decodeQueryResult library bytes =
        .ok (directedResult contents ((boundOutputs (database.answer sql slots).left
          (values.map boundParam)).map received))) := by
  have written := serializeDirectedParams_of_converted each
  obtain rfl := Except.ok.inj (sent.symm.trans written)
  have some : ((values.map boundParam).all fun x => x.direction = .input) = false := by
    obtain ⟨one, member, out⟩ := directed
    rw [List.all_eq_false]
    refine ⟨boundParam one, List.mem_map_of_mem member, fun input => out ?_⟩
    have native : one.1.toNative = .input := of_decide_eq_true input
    obtain ⟨direction, value⟩ := one
    cases direction with
    | input => rfl
    | output => cases native
    | inOut => cases native
  rw [dispatchParamBuffer, sendable.deserialize, orFault_ok, ok_bind] at ran
  obtain ⟨_, -, ran⟩ := bind_eq_ok.mp ran
  rw [some, if_neg Bool.false_ne_true] at ran
  obtain ⟨slots, contents, body, bind, read, answered, footed⟩ :=
    executeQueryWithBoundParams_eq_ok database (boundHasRefCursor_eq_false plain) ran
  obtain ⟨filled, cells⟩ := hasCells_of_contents read
  exact ⟨slots, contents, bind, read, fun small =>
    decodeQueryResult_response rowMajor filled cells small answered footed⟩

/-- A text and an output buffer. -/
def nextIdParams : List (DirectedParam Dart.ParamValue) :=
  [⟨.string "t", .input⟩, ⟨.null, .output⟩]

def nextIdValues : List (Dart.ParamDirection × Dart.ParamValue) :=
  [(.input, .string "t"), (.output, .null)]

/-- A row with seven comes back, and eight is left in the output buffers. -/
def nextId : BoundDatabase .narrow where
  prepared _ := .ok ()
  answer _ _ :=
    { driver := { prepared := .ok (), executed := .ok (), first := idResult, more := []
                  ending := .noData }
      left := fun _ => { i32 := some 8 } }

def nextIdMessage : Bytes :=
  messageBytes ⟨[⟨"id", .integer⟩], [[some [7, 0, 0, 0]]]⟩ ++ outputFooterBytes [.integer 8]

theorem dispatchParamBuffer_nextId :
    dispatchParamBuffer rawFrameCodecs {} nextId "{call next_id(?, ?)}".toList
      (wireDirected (nextIdValues.map boundParam)) = .ok nextIdMessage := by
  have taken : deserializeParamBuffer (wireDirected (nextIdValues.map boundParam)) =
    .ok (.directed (nextIdValues.map boundParam)) := rfl
  have parsed : parseSql "{call next_id(?, ?)}".toList = .ok () := by decide
  have drained : driveMoreResults rawFrameCodecs {} ⟨idResult, [], .noData⟩ [] = .ok [] :=
    driveMoreResults_nil rfl trivial
  have executed : executeQueryWithBoundParams rawFrameCodecs {} nextId
      "{call next_id(?, ?)}".toList (nextIdValues.map boundParam) = .ok nextIdMessage := by
    rw [executeQueryWithBoundParams, if_neg (by decide)]
    show (driveMoreResults rawFrameCodecs {} ⟨idResult, [], .noData⟩ [] >>= fun drain => _) = _
    rw [drained]
    rfl
  rw [dispatchParamBuffer, taken, orFault_ok, ok_bind]
  simp only [parsed, orFault_ok, ok_bind]
  exact executed

theorem directed_call_arrives_nextId :
    ∃ buffer bytes, serializeDirectedParams .ok nextIdParams = .ok buffer ∧
      dispatchParamBuffer rawFrameCodecs {} nextId "{call next_id(?, ?)}".toList buffer =
        .ok bytes ∧
      decodeQueryResult noLibrary bytes =
        .ok { columns := ["id"], rows := [[.int 7]], rowCount := 1
              outputParamValues := [.int32 8] } := by
  refine ⟨wireDirected (nextIdValues.map boundParam), nextIdMessage, rfl,
    dispatchParamBuffer_nextId, ?_⟩
  have each : nextIdParams.mapM (convertDirected .ok) = .ok nextIdValues := rfl
  obtain ⟨slots, contents, bind, read, shown⟩ := directed_call_arrives noLibrary rfl each
    ⟨by decide, by decide⟩ (by decide) (by decide) rfl dispatchParamBuffer_nextId
  cases bind
  obtain rfl : [Content.rows ⟨[⟨"id", .integer⟩], [[some [7, 0, 0, 0]]]⟩] = contents :=
    Except.ok.inj (Eq.trans (by decide) read)
  exact shown ⟨by decide, by decide⟩

/-! ## What is refused -/

/-- A text that an `INOUT` parameter's buffer takes. -/
def FitsBuild (build : TextBuild) (bp : BoundParam) : Prop :=
  match bp.direction, bp.value with
  | .inOut, .string text | .inOut, .decimal text =>
    (build.units text).length ≤ build.outTextMaxCodeUnits
  | _, _ => True

/-- The validation misses nothing but a text's length. -/
theorem bindable_iff (direction : Dart.ParamDirection) {pv : Dart.ParamValue}
    (noCursor : pv ≠ .refCursorOut) :
    (boundParam (direction, pv)).Bindable build ↔ validateDirectedOutInOut direction pv = .ok () ∧
      FitsBuild build (boundParam (direction, pv)) := by
  cases direction with
  | input =>
      cases pv with
      | refCursorOut => exact absurd rfl noCursor
      | _ => exact iff_of_true Native.ParamValue.noConfusion ⟨rfl, trivial⟩
  | output =>
      cases pv with
      | refCursorOut => exact absurd rfl noCursor
      | binary b => exact iff_of_false id fun accepted => by cases accepted.1
      | decimal d =>
          by_cases empty : d = ""
          · subst empty
            exact iff_of_false (fun some => some rfl) fun accepted => by cases accepted.1
          · exact iff_of_true empty ⟨if_neg empty, trivial⟩
      | _ => exact iff_of_true trivial ⟨rfl, trivial⟩
  | inOut =>
      cases pv with
      | refCursorOut => exact absurd rfl noCursor
      | binary b => exact iff_of_false id fun accepted => by cases accepted.1
      | null => exact iff_of_false id fun accepted => by cases accepted.1
      | int32 n => exact iff_of_true trivial ⟨rfl, trivial⟩
      | int64 n => exact iff_of_true trivial ⟨rfl, trivial⟩
      | string s => exact ⟨fun fits => ⟨rfl, fits⟩, fun accepted => accepted.2⟩
      | decimal d =>
          by_cases empty : d = ""
          · subst empty
            exact iff_of_false (fun some => some.1 rfl) fun accepted => by cases accepted.1
          · exact ⟨fun fits => ⟨if_neg empty, fits.2⟩, fun accepted => ⟨empty, accepted.2⟩⟩

theorem convertDirected_eq_ok_iff {d : DirectedParam δ} {pv : Dart.ParamValue}
    (converts : toParamValue d.value = .ok pv) :
    (∃ one, convertDirected toParamValue d = .ok one) ↔
      validateDirectedOutInOut d.direction pv = .ok () := by
  rw [convertDirected, converts, ok_bind]
  constructor
  · rintro ⟨one, validated⟩
    obtain ⟨_, validated, -⟩ := bind_eq_ok.mp validated
    exact validated
  · intro validated
    exact ⟨_, by rw [validated]; rfl⟩

/-- The conversion of one object, before its direction is looked at. -/
def convertValue (toParamValue : δ → Except ArgumentError Dart.ParamValue) (d : DirectedParam δ) :
    Except ArgumentError (Dart.ParamDirection × Dart.ParamValue) :=
  (toParamValue d.value).map fun pv => (d.direction, pv)

/-- A list is sent when every direction can be served. -/
theorem serializeDirectedParams_isOk_iff
    (converts : params.mapM (convertValue toParamValue) = .ok values) :
    (∃ buffer, serializeDirectedParams toParamValue params = .ok buffer) ↔
      ∀ one ∈ values, validateDirectedOutInOut one.1 one.2 = .ok () := by
  have converted : (∃ buffer, serializeDirectedParams toParamValue params = .ok buffer) ↔
      ∃ converted, params.mapM (convertDirected toParamValue) = .ok converted := by
    constructor
    · rintro ⟨buffer, sent⟩
      obtain ⟨converted, each, -⟩ := bind_eq_ok.mp sent
      exact ⟨converted, each⟩
    · rintro ⟨converted, each⟩
      exact ⟨_, by rw [serializeDirectedParams, each]; rfl⟩
  simp only [converted, mapM_eq_ok_iff]
  clear converted
  rw [mapM_eq_ok_iff] at converts
  induction converts with
  | nil => exact iff_of_true ⟨[], .nil⟩ (List.forall_mem_nil _)
  | @cons d one params values head _ ih =>
      obtain ⟨pv, value, rfl⟩ := map_eq_ok.mp head
      rw [List.forall_mem_cons, ← convertDirected_eq_ok_iff value]
      constructor
      · rintro ⟨_, _ | ⟨first, rest⟩⟩
        exact ⟨⟨_, first⟩, ih.mp ⟨_, rest⟩⟩
      · rintro ⟨⟨first, validated⟩, later⟩
        obtain ⟨rest, each⟩ := ih.mpr later
        exact ⟨first :: rest, .cons validated each⟩

/-- Of the lists without reference cursors, Dart sends those that the engine binds, and those
whose only fault is an `INOUT` text that is too long. -/
theorem boundToSlots_isOk_iff_sent
    (converts : params.mapM (convertValue toParamValue) = .ok values)
    (plain : ∀ one ∈ values, one.2 ≠ .refCursorOut) :
    (∃ slots, boundToSlots build (values.map boundParam) = .ok slots) ↔
      (∃ buffer, serializeDirectedParams toParamValue params = .ok buffer) ∧
        ∀ one ∈ values, FitsBuild build (boundParam one) := by
  rw [boundToSlots_isOk_iff, List.forall_mem_map, serializeDirectedParams_isOk_iff converts,
    ← forall₂_and]
  exact forall₂_congr fun one member => bindable_iff one.1 (plain one member)

/-- A text in both directions, an output and a number. -/
def mixedParams : List (DirectedParam Dart.ParamValue) :=
  [⟨.string "ok", .inOut⟩, ⟨.null, .output⟩, ⟨.int32 5, .input⟩]

/-- They are sent and bound, with the text in a buffer of its own. -/
theorem boundToSlots_isOk_iff_sent_text :
    (∃ buffer, serializeDirectedParams .ok mixedParams = .ok buffer) ∧
      ∃ slots, boundToSlots .narrow
        [⟨.inOut, .string "ok"⟩, ⟨.output, .null⟩, ⟨.input, .integer 5⟩] = .ok slots := by
  have converts : mixedParams.mapM (convertValue .ok) =
      .ok [(.inOut, .string "ok"), (.output, .null), (.input, .int32 5)] := rfl
  have sent : ∃ buffer, serializeDirectedParams .ok mixedParams = .ok buffer := ⟨_, rfl⟩
  refine ⟨sent, (boundToSlots_isOk_iff_sent converts (by decide)).mpr ⟨sent, ?_⟩⟩
  simp only [List.forall_mem_cons]
  refine ⟨?_, trivial, trivial, by simp⟩
  show (utf8Bytes "ok").length ≤ 8000
  decide

/-! ## A directed list without outputs -/

end

/-! ## The text of a call with reference cursors -/

theorem countPlaceholders_append (front rest : List Char) :
    countPlaceholders (front ++ rest) = countPlaceholders front + countPlaceholders rest := by
  rw [countPlaceholders, List.filter_append, List.length_append]
  rfl

theorem countPlaceholders_clean {text : List Char} (clean : '?' ∉ text) :
    countPlaceholders text = 0 := by
  rw [countPlaceholders, List.length_eq_zero_iff, List.filter_eq_nil_iff]
  intro c member mark
  rw [decide_eq_true_eq] at mark
  exact clean (mark ▸ member)

theorem countPlaceholders_mark (rest : List Char) :
    countPlaceholders ('?' :: rest) = countPlaceholders rest + 1 := rfl

/-- Every parameter takes a question mark, and all but the cursors put theirs back. -/
theorem countPlaceholders_stripLoop {i : Nat} {bound : List BoundParam}
    {rest out text : List Char} (ran : stripLoop i bound rest out = .ok text) :
    countPlaceholders text + bound.length = countPlaceholders out + countPlaceholders rest +
      (filterNonRefCursorParams bound).length := by
  induction bound generalizing i rest out with
  | nil =>
      cases ran
      exact countPlaceholders_append out rest
  | cons bp bound ih =>
      have directed : bp.value = .refCursorOut → bp.direction ≠ .input := by
        intro cursor input
        rw [stripLoop] at ran
        split at ran
        · cases ran
        · rw [if_pos ⟨input, cursor⟩] at ran
          cases ran
      have marked : '?' ∈ rest := by
        by_contra clean
        have none : rest.dropWhile (· ≠ '?') = [] :=
          List.dropWhile_eq_nil_iff.mpr fun c member => decide_eq_true fun mark =>
            clean (mark ▸ member)
        rw [stripLoop, none] at ran
        cases ran
      obtain ⟨front, behind, rfl, clean⟩ := List.eq_append_cons_of_mem marked
      rw [stripLoop_cons clean directed] at ran
      have counted := ih ran
      have front0 := countPlaceholders_clean clean
      have kept : countPlaceholders (if bp.value = .refCursorOut ∧ front.getLast? = some ','
          then front.dropLast else front) = 0 := by
        split_ifs
        · exact countPlaceholders_clean fun mark => clean (List.mem_of_mem_dropLast mark)
        · exact front0
      have left : countPlaceholders (if bp.value = .refCursorOut ∧ behind.head? = some ','
          then behind.tail else behind) = countPlaceholders behind := by
        split_ifs with comma
        · cases behind with
          | nil => rfl
          | cons c behind =>
              obtain rfl := Option.some.inj comma.2
              rfl
        · rfl
      rw [countPlaceholders_append, countPlaceholders_append, kept, left] at counted
      rw [countPlaceholders_append, countPlaceholders_mark, front0, List.length_cons]
      by_cases cursor : bp.value = .refCursorOut
      · rw [if_pos cursor] at counted
        have dropped : filterNonRefCursorParams (bp :: bound) = filterNonRefCursorParams bound :=
          List.filter_cons_of_neg (by simpa using cursor)
        rw [dropped]
        change _ = _ + 0 + _ + _ at counted
        omega
      · rw [if_neg cursor, countPlaceholders_mark] at counted
        have stays : filterNonRefCursorParams (bp :: bound) =
            bp :: filterNonRefCursorParams bound :=
          List.filter_cons_of_pos (by simpa using cursor)
        rw [stays, List.length_cons]
        change _ = _ + (0 + 0 + 1) + _ + _ at counted
        omega

theorem countPlaceholders_stripped {sql stripped : String} {bound : List BoundParam}
    {slots : List (ParamSlot build)}
    (strip : stripRefCursorPlaceholders sql bound = .ok stripped)
    (bind : boundToSlots build (filterNonRefCursorParams bound) = .ok slots) :
    countPlaceholders stripped.toList = slots.length := by
  rw [stripRefCursorPlaceholders] at strip
  split_ifs at strip with different
  obtain ⟨text, ran, rfl⟩ := map_eq_ok.mp strip
  have counted := countPlaceholders_stripLoop ran
  have slotted := (mapM_eq_ok_iff.mp bind).length_eq
  rw [String.toList_ofList]
  change _ = 0 + _ + _ at counted
  omega

/-! ## Calls with reference cursors -/

/-- The message of the parts of a call, whatever the kind of error its caller has. -/
theorem trailed_of_parts {main body bytes : Bytes} {blobs : List Bytes} {cursors : List RowBuffer}
    {outputs : List Native.ParamValue}
    (encoded : (cursors.mapM RowBufferEncoder.encode :
      Except (Fault Native.OdbcError) (List Bytes)) = .ok blobs)
    (footed : RowBufferEncoder.appendOutputFooter main outputs =
      (.ok body : Except (Fault Native.OdbcError) Bytes))
    (closed : RowBufferEncoder.appendRefCursorFooter body blobs =
      (.ok bytes : Except (Fault Native.OdbcError) Bytes)) :
    trailed main outputs cursors = .ok bytes := by
  have written : (cursors.mapM RowBufferEncoder.encode : Except (Fault EncodeError) (List Bytes)) =
      .ok blobs := by
    rw [mapM_eq_ok_iff] at encoded ⊢
    exact encoded.imp fun _ _ one => expect_eq_ok.mpr (expect_eq_ok.mp one)
  rw [trailed, written, ok_bind, appendOutputFooter_congr footed, ok_bind]
  exact expect_eq_ok.mpr (expect_eq_ok.mp closed)

section

variable {codecs : Codecs} {engine : ExecutionEngine} {database : BoundDatabase build}
  {sql : List Char} {bound : List BoundParam} {bytes : Bytes}

/-- What is executed and what is sent. -/
theorem refCursor_call_sent (cursor : boundHasRefCursor bound = true)
    (ran : engine.executeQueryWithBoundParams codecs database sql bound = .ok bytes) :
    engine.activePlugin = some .oracle ∧ ∃ stripped slots cursors main,
      stripRefCursorPlaceholders (String.ofList sql) bound = .ok stripped ∧
      boundToSlots build (filterNonRefCursorParams bound) = .ok slots ∧
      resultCursors engine.mapType (database.answer stripped.toList slots).driver = .ok cursors ∧
      cursors.length = (bound.filter fun b => b.value = .refCursorOut).length ∧
      engine.encodeBuffer codecs ⟨[], []⟩ = .ok main ∧
      trailed main (boundOutputs (database.answer stripped.toList slots).left
        (filterNonRefCursorParams bound)) cursors = .ok bytes := by
  rw [executeQueryWithBoundParams, cursor, if_pos rfl] at ran
  split_ifs at ran with oracle
  obtain ⟨stripped, slots, cursors, blobs, main, body, strip, bind, read, encoded, counted, empty,
    footed, closed⟩ := executeOracleRefCursorPath_eq_ok database ran
  exact ⟨of_decide_eq_true oracle, stripped, slots, cursors, main, strip, bind, read, counted,
    empty, trailed_of_parts encoded footed closed⟩

/-- A call with reference cursors runs on Oracle only, as a text with a question mark for every
slot, and a cursor is read for every parameter that is not bound. -/
theorem refCursor_call_runs (cursor : boundHasRefCursor bound = true)
    (ran : engine.executeQueryWithBoundParams codecs database sql bound = .ok bytes) :
    engine.activePlugin = some .oracle ∧ ∃ stripped slots cursors,
      stripRefCursorPlaceholders (String.ofList sql) bound = .ok stripped ∧
      boundToSlots build (filterNonRefCursorParams bound) = .ok slots ∧
      countPlaceholders stripped.toList = slots.length ∧
      resultCursors engine.mapType (database.answer stripped.toList slots).driver = .ok cursors ∧
      cursors.length + slots.length = bound.length := by
  obtain ⟨oracle, stripped, slots, cursors, _, strip, bind, read, counted, -, -⟩ :=
    refCursor_call_sent cursor ran
  refine ⟨oracle, stripped, slots, cursors, strip, bind, countPlaceholders_stripped strip bind,
    read, ?_⟩
  have slotted := (mapM_eq_ok_iff.mp bind).length_eq
  have parts := List.length_eq_length_filter_add (l := bound) fun b => b.value = .refCursorOut
  have others : (bound.filter fun b => !decide (b.value = .refCursorOut)) =
      filterNonRefCursorParams bound := by
    simp [filterNonRefCursorParams]
  rw [others] at parts
  omega

/-- In a message that starts with an empty result every view reads as an empty result. -/
theorem parseRowMajorV1_of_empty {data : Uint8List}
    (there : OccursAt (messageBytes ⟨[], []⟩) 0 data.buffer) :
    BinaryProtocolParser.parseRowMajorV1 data = .ok ⟨[], [], 0, 0⟩ := by
  have room := there.le_length
  obtain ⟨header, -⟩ := OccursAt.append_iff.mp there
  obtain ⟨marked, versioned, columned, rowed, -⟩ :=
    headerBytes_words header (by decide) (by decide) (by decide)
  have length : (messageBytes ⟨[], []⟩).length = 16 := rfl
  have word (width offset : Nat) (inside : offset + width ≤ 16) :
      data.bufferWord width offset = .ok (readLe width data.buffer offset) :=
    if_pos (by omega)
  simp only [BinaryProtocolParser.parseRowMajorV1, BinaryProtocolParser.readUint32,
    BinaryProtocolParser.readUint16, word 4 0 (by decide), word 2 4 (by decide),
    word 2 6 (by decide), word 4 8 (by decide), word 4 12 (by decide), ok_bind, Nat.reduceAdd]
  simp only [Nat.zero_add] at versioned columned rowed
  rw [marked, versioned, columned, rowed, if_neg (by decide), if_neg (by decide)]
  rfl

/-- Whatever the embedded messages are. -/
theorem readCursors_of_empty {data : Uint8List} {blobs : List Bytes} {offset : Nat}
    (front : OccursAt (messageBytes ⟨[], []⟩) 0 data.buffer)
    (there : OccursAt (blobs.flatMap blobBytes) offset data.bytes)
    (fits : ∀ blob ∈ blobs, blob.length < 256 ^ 4) :
    BinaryProtocolParser.readCursors data blobs.length offset =
      .ok (List.replicate blobs.length ⟨[], [], 0, 0⟩,
        offset + (blobs.flatMap blobBytes).length) := by
  induction blobs generalizing offset with
  | nil => rfl
  | cons blob blobs ih =>
      obtain ⟨fit, fits⟩ := List.forall_mem_cons.mp fits
      rw [List.flatMap_cons] at there
      obtain ⟨here, later⟩ := OccursAt.append_iff.mp there
      have room := here.le_length
      obtain ⟨measured, message⟩ := OccursAt.append_iff.mp here
      rw [length_toLeBytes] at message
      rw [blobBytes, List.length_append, length_toLeBytes, Uint8List.length_bytes] at room
      have bl := measured.readLe fit
      obtain ⟨view, viewed, viewBuffer, -⟩ := Uint8List.sublistView_of_occursAt message
      have parsed : BinaryProtocolParser.parseRowMajorV1 view = _ :=
        parseRowMajorV1_of_empty (by rwa [viewBuffer])
      have tail := ih later fits
      rw [blobBytes, List.length_append, length_toLeBytes, ← Nat.add_assoc] at tail
      rw [List.length_cons, BinaryProtocolParser.readCursors, if_neg (by omega)]
      simp only [bl]
      rw [if_neg (by omega), viewed, ok_bind, parsed, ok_bind, tail, ok_bind]
      simp only [List.replicate_succ, List.flatMap_cons, blobBytes, List.length_append,
        length_toLeBytes, ← Nat.add_assoc]

/-- The output values behind an empty message are read, and for every cursor, whatever rows it
has, an empty result without columns. -/
theorem decodeQueryResult_cursors {cursors : List RowBuffer} {outputs : List Native.ParamValue}
    (library : DecompressLibrary)
    (sent : trailed (messageBytes ⟨[], []⟩) outputs cursors = .ok bytes) :
    decodeQueryResult library bytes =
      .ok { columns := [], rows := [], rowCount := 0, outputParamValues := outputs.map received
            refCursorResults := List.replicate cursors.length ⟨[], [], 0⟩ } := by
  have message : IsMessage library (messageBytes ⟨[], []⟩) :=
    isMessage_messageBytes rectangular_empty encodable_empty
  obtain ⟨result, start, accepted, there, ends, read⟩ := parseWithOutputs_of_trailed message sent
  rw [Dart.parse_messageBytes rectangular_empty encodable_empty, Except.ok.injEq] at accepted
  subst accepted
  obtain ⟨rfl, -, -, fits⟩ := trailed_eq_ok sent
  set whole := messageBytes ⟨[], []⟩ ++ (outputFooterBytes outputs ++
    refCursorFooterBytes (cursors.map messageBytes)) with wholeEq
  have front : OccursAt (messageBytes ⟨[], []⟩) 0 (Uint8List.fromList whole).buffer :=
    OccursAt.self_append _ _
  have cursorsRead := readCursors_of_empty front (by rwa [Uint8List.bytes_fromList]) (by
    intro blob member
    obtain ⟨one, there, rfl⟩ := List.mem_map.mp member
    exact (fits one there).2.1)
  rw [List.length_map] at cursorsRead
  have trailing : BinaryProtocolParser.checkTrailing (.fromList whole) whole.length = .ok () :=
    if_neg fun inside => Nat.lt_irrefl _ inside.1
  have some : whole ≠ [] := by
    rw [wholeEq, ← List.length_pos_iff, List.length_append, length_messageBytes]
    omega
  have word : readLe 4 whole 0 = BinaryProtocolParser.magic := by
    rw [wholeEq, readLe_append _ (by decide)]
    rfl
  have foreign : BinaryProtocolParser.magic ≠ MultiResultParser.multiResultMagic := by decide
  rw [decodeQueryResult, if_neg some, if_neg fun envelope => foreign (word.symm.trans envelope.2),
    read, cursorsRead, ok_bind]
  simp only [ends, trailing, ok_bind, List.map_replicate]
  rfl

/-- The output values of a call arrive, and for every cursor, whatever rows it has, an empty
result without columns. -/
theorem refCursor_call_arrives (library : DecompressLibrary) (rowMajor : engine.useColumnar = false)
    (cursor : boundHasRefCursor bound = true)
    (ran : engine.executeQueryWithBoundParams codecs database sql bound = .ok bytes) :
    ∃ stripped slots, stripRefCursorPlaceholders (String.ofList sql) bound = .ok stripped ∧
      boundToSlots build (filterNonRefCursorParams bound) = .ok slots ∧
      decodeQueryResult library bytes =
        .ok { columns := [], rows := [], rowCount := 0
              outputParamValues := (boundOutputs (database.answer stripped.toList slots).left
                (filterNonRefCursorParams bound)).map received
              refCursorResults := List.replicate
                (bound.filter fun b => b.value = .refCursorOut).length ⟨[], [], 0⟩ } := by
  obtain ⟨-, stripped, slots, cursors, main, strip, bind, -, counted, empty, sent⟩ :=
    refCursor_call_sent cursor ran
  obtain ⟨-, rfl⟩ := encodeBuffer_eq_ok rowMajor empty
  refine ⟨stripped, slots, strip, bind, ?_⟩
  rw [← counted]
  exact decodeQueryResult_cursors library sent

end

/-- A cursor, an input and an output value. -/
def listIdsParams : List BoundParam :=
  [⟨.output, .refCursorOut⟩, ⟨.input, .integer 3⟩, ⟨.output, .null⟩]

theorem executeQueryWithBoundParams_listIds :
    ∃ bytes, executeQueryWithBoundParams rawFrameCodecs { activePlugin := some .oracle } nextId
      "{call p(?,?,?)}".toList listIdsParams = .ok bytes := by
  have drained : driveMoreRefCursorBlobs { activePlugin := some .oracle } ⟨idResult, [], .noData⟩
      [messageBytes ⟨[⟨"id", .integer⟩], [[some [7, 0, 0, 0]]]⟩] =
        .ok [messageBytes ⟨[⟨"id", .integer⟩], [[some [7, 0, 0, 0]]]⟩] :=
    driveMoreRefCursorBlobs_nil (show Ending.IsEnd .noData from trivial) _
  have stripped : stripRefCursorPlaceholders (String.ofList "{call p(?,?,?)}".toList)
      listIdsParams = .ok "{call p(?,?)}" := by
    decide +kernel
  refine ⟨messageBytes ⟨[], []⟩ ++ outputFooterBytes [.integer 8] ++
    refCursorFooterBytes [messageBytes ⟨[⟨"id", .integer⟩], [[some [7, 0, 0, 0]]]⟩], ?_⟩
  rw [executeQueryWithBoundParams, if_pos (by decide), if_neg (by decide),
    executeOracleRefCursorPath, stripped]
  show (driveMoreRefCursorBlobs { activePlugin := some .oracle } ⟨idResult, [], .noData⟩
    [messageBytes ⟨[⟨"id", .integer⟩], [[some [7, 0, 0, 0]]]⟩] >>= fun refBlobs => _) = _
  rw [drained]
  rfl

theorem refCursor_call_runs_listIds :
    ∃ stripped cursors, stripRefCursorPlaceholders (String.ofList "{call p(?,?,?)}".toList)
        listIdsParams = .ok stripped ∧ countPlaceholders stripped.toList = 2 ∧
      resultCursors Native.OdbcType.fromOdbcSqlType (nextId.answer stripped.toList []).driver =
        .ok cursors ∧ cursors.length = 1 := by
  obtain ⟨bytes, ran⟩ := executeQueryWithBoundParams_listIds
  obtain ⟨-, stripped, slots, cursors, strip, bind, marks, read, counted⟩ :=
    refCursor_call_runs rfl ran
  cases bind
  exact ⟨stripped, cursors, strip, marks, read, Nat.add_right_cancel counted⟩

theorem refCursor_call_arrives_listIds :
    ∃ bytes, executeQueryWithBoundParams rawFrameCodecs { activePlugin := some .oracle } nextId
        "{call p(?,?,?)}".toList listIdsParams = .ok bytes ∧
      decodeQueryResult noLibrary bytes =
        .ok { columns := [], rows := [], rowCount := 0, outputParamValues := [.int32 8]
              refCursorResults := [⟨[], [], 0⟩] } := by
  obtain ⟨bytes, ran⟩ := executeQueryWithBoundParams_listIds
  obtain ⟨_, _, -, -, shown⟩ := refCursor_call_arrives noLibrary rfl rfl ran
  exact ⟨bytes, ran, shown⟩

end OdbcFast.Verification
