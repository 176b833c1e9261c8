import OdbcFast.Native.Engine.ExecutionEngine
import OdbcFast.Native.Engine.Streaming
import OdbcFast.Verification.Columnar

/-!
# Batch executor and streaming driver

Both step through the same results and turn each into one item, so for one behaviour
of the driver the executor's envelope and the stream's frames hold the same items. The
two differ where a cursor exceeds the limits of the protocol: the executor then
returns nothing at all, the stream stops behind the items before it.
-/

namespace OdbcFast.Verification

open Wire Native
open ExecutionEngine (executeMultiResult)
open Streaming (driveMultiResultStream collect frame frameOf frameOf_eq_ok)
open MultiResult (encodeMulti itemBytes payload)

variable {codecs : Codecs} {engine : ExecutionEngine} {driver : Driver} {contents : List Content}
  {items : List MultiResultItem}

theorem readCursor_mapType (engine : ExecutionEngine) :
    readCursor engine.mapType = readCursor OdbcType.fromOdbcSqlType := by
  refine readCursor_congr fun dataType => ?_
  rw [ExecutionEngine.mapType]
  split
  · exact Plugin.mapType_sqlTypeCode _ dataType
  · rfl

/-- The active plugin does not change what the engine reads. -/
theorem contents_mapType (engine : ExecutionEngine) (driver : Driver) :
    driver.contents engine.mapType = driver.contents OdbcType.fromOdbcSqlType := by
  simp only [Driver.contents, firstContent, laterContent, readCursor_mapType]

/-- A row-major engine encodes a content as the stream does, or both refuse. -/
theorem item_eq_ok_iff (rowMajor : engine.useColumnar = false) (content : Content)
    (item : MultiResultItem) :
    engine.item codecs content = .ok item ↔ Streaming.item content = .ok item := by
  cases content with
  | count n => simp [ExecutionEngine.item, Streaming.item, Content.item]
  | rows buffer =>
      have encode : engine.encodeBuffer codecs buffer = RowBufferEncoder.encode buffer := by
        rw [ExecutionEngine.encodeBuffer, if_neg (by simp [rowMajor])]
      simp only [ExecutionEngine.item, Streaming.item, Content.item, encode, map_eq_ok,
        RowBufferEncoder.encode, expect_eq_ok, Streaming.encodeRowBuffer]
      cases RowBufferEncoder.tryEncode buffer <;> simp [Except.mapError]

/-- Contents whose items fit a frame are framed one by one. -/
theorem mapM_frame (encoded : contents.mapM Streaming.item = .ok items)
    (fits : ∀ item ∈ items, (payload item).length < 256 ^ 4) :
    contents.mapM frame = .ok (items.map itemBytes) := by
  rw [mapM_eq_ok_iff] at encoded ⊢
  induction encoded with
  | nil => exact .nil
  | cons head _ ih =>
      obtain ⟨fit, fits⟩ := List.forall_mem_cons.mp fits
      refine .cons ?_ (ih fits)
      rw [frame, head, ok_bind]
      exact frameOf_eq_ok.mpr ⟨fit, rfl⟩

theorem length_contents (read : driver.contents OdbcType.fromOdbcSqlType = .ok contents) :
    contents.length = driver.results.length := by
  obtain ⟨first, -, read⟩ := bind_eq_ok.mp read
  obtain ⟨later, readLater, read⟩ := bind_eq_ok.mp read
  cases read
  rw [mapM_eq_ok_iff] at readLater
  rw [Driver.results, List.length_cons, List.length_cons, List.length_map, readLater.length_eq]

/-- One content per result in the driver's order. The executor returns the envelope of
their items, the stream hands over their frames up to the first that cannot be encoded,
and never anything else. A row-major executor and the stream make the same items. -/
theorem executeMultiResult_drive_agree (completes : driver.Completes)
    (read : driver.contents OdbcType.fromOdbcSqlType = .ok contents) :
    contents.length = driver.results.length ∧
      (∀ codecs engine, executeMultiResult codecs engine driver =
        (contents.mapM (engine.item codecs)).map encodeMulti) ∧
      (∀ cancelled, (∀ turn, cancelled turn = false) →
        driveMultiResultStream cancelled collect driver [] = emit (contents.map frame)) ∧
      (∀ cancelled, (driveMultiResultStream cancelled collect driver []).2 <+:
        (emit (contents.map frame)).2) ∧
      ∀ codecs (engine : ExecutionEngine) cancelled items, engine.useColumnar = false →
        (∀ turn, cancelled turn = false) → contents.mapM Streaming.item = .ok items →
        (∀ item ∈ items, (payload item).length < 256 ^ 4) →
        executeMultiResult codecs engine driver = .ok (encodeMulti items) ∧
          driveMultiResultStream cancelled collect driver [] = (.ok (), items.map itemBytes) := by
  have batch (codecs : Codecs) (engine : ExecutionEngine) :
      executeMultiResult codecs engine driver =
        (contents.mapM (engine.item codecs)).map encodeMulti :=
    ExecutionEngine.executeMultiResult_eq completes (by rwa [contents_mapType])
  have stream (cancelled : Nat → Bool) (quiet : ∀ turn, cancelled turn = false) :
      driveMultiResultStream cancelled collect driver [] = emit (contents.map frame) :=
    Streaming.driveMultiResultStream_eq completes quiet read
  refine ⟨length_contents read, batch, stream,
    fun cancelled => Streaming.driveMultiResultStream_sent read, ?_⟩
  intro codecs engine cancelled items rowMajor quiet encoded fits
  have same : contents.mapM (engine.item codecs) = .ok items := by
    rw [mapM_eq_ok_iff] at encoded ⊢
    exact encoded.imp fun content item made => (item_eq_ok_iff rowMajor content item).mpr made
  constructor
  · rw [batch, same]
    rfl
  · rw [stream cancelled quiet, emit_of_mapM (mapM_frame encoded fits)]

/-- A result without columns. -/
def countResult (n : Int64) : DriverResult where
  numResultCols := .ok 0
  rowCount := .ok n
  colName _ := .error (.odbcApi "no column")
  colDataType _ := .error (.odbcApi "no column")
  rows := []
  fetched := .ok ()

/-- A cursor with one integer column and one row. -/
def idResult : DriverResult where
  numResultCols := .ok 1
  rowCount := .ok (-1)
  colName _ := .ok "id"
  colDataType _ := .ok .integer
  rows := [fun _ => .ok (some ⟨[0x37], []⟩)]
  fetched := .ok ()

/-- An update, a query and a statement without a count; the driver ends with SQLSTATE 02000. -/
def sampleBatch : Driver where
  prepared := .ok ()
  executed := .ok ()
  first := countResult 3
  more := [(false, idResult), (true, countResult (-1))]
  ending := .error (.structured [0x30, 0x32, 0x30, 0x30, 0x30] 0 "no data")

def sampleContents : List Content :=
  [.count 3, .rows ⟨[⟨"id", .integer⟩], [[some [7, 0, 0, 0]]]⟩, .count (-1)]

theorem executeMultiResult_drive_sampleBatch :
    sampleBatch.contents OdbcType.fromOdbcSqlType = .ok sampleContents ∧
      ∃ items, items.length = 3 ∧
        executeMultiResult rawFrameCodecs { activePlugin := some .sqlServer } sampleBatch =
          .ok (encodeMulti items) ∧
        driveMultiResultStream (fun _ => false) collect sampleBatch [] =
          (.ok (), items.map itemBytes) := by
  have read : sampleBatch.contents OdbcType.fromOdbcSqlType = .ok sampleContents := by decide
  have completes : sampleBatch.Completes := ⟨rfl, rfl, rfl⟩
  obtain ⟨-, -, -, -, agree⟩ := executeMultiResult_drive_agree completes read
  exact ⟨read, [.rowCount 3, .resultSet (messageBytes ⟨[⟨"id", .integer⟩], [[some [7, 0, 0, 0]]]⟩),
    .rowCount (-1)], rfl,
    agree rawFrameCodecs _ (fun _ => false) _ rfl (fun _ => rfl) (by decide) (by decide)⟩

end OdbcFast.Verification
