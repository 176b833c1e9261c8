import OdbcFast.Native.Engine.Driver
import OdbcFast.Native.Protocol.Columnar
import OdbcFast.Native.Protocol.MultiResult

/-!
# The batch executor

`execute_multi_result` runs a batch and collects one item per result: the first from
`execute`, the others by stepping with `SQLMoreResults` until the driver has no more.
A result with columns is a cursor that is read and encoded; one without is a row count.
-/

namespace OdbcFast.Native

open Wire

structure ExecutionEngine where
  useColumnar : Bool := false
  useCompression : Bool := false
  activePlugin : Option Plugin := none
  deriving DecidableEq, Repr

namespace ExecutionEngine

def mapType (engine : ExecutionEngine) (sqlTypeCode : Int) : OdbcType :=
  match engine.activePlugin with
  | some plugin => plugin.mapType sqlTypeCode
  | none => OdbcType.fromOdbcSqlType sqlTypeCode

/-- The encoding at the end of `encode_cursor`. -/
def encodeBuffer (codecs : Codecs) (engine : ExecutionEngine) (buffer : RowBuffer) :
    Except (Fault OdbcError) Bytes :=
  if engine.useColumnar then
    orFault (ColumnarEncoder.encode codecs (rowBufferToColumnar buffer) engine.useCompression)
  else RowBufferEncoder.encode buffer

def encodeCursor (codecs : Codecs) (engine : ExecutionEngine) (result : DriverResult) :
    Except (Fault OdbcError) Bytes := do
  let buffer ← orFault (readCursor engine.mapType result)
  engine.encodeBuffer codecs buffer

def onAdvance : SqlResult → Except OdbcError Bool :=
  onAdvanceWith "Unexpected SQLMoreResults state: NeedData"
    "Unexpected SQLMoreResults state: StillExecuting"

def driveMoreResults (codecs : Codecs) (engine : ExecutionEngine) (stmt : Statement)
    (allItems : List MultiResultItem) : Except (Fault OdbcError) (List MultiResultItem) :=
  match goOn : onAdvance stmt.moreResults.1 with
  | .error err => .error (.err err)
  | .ok false => .ok allItems
  | .ok true => do
      let cols ← orFault stmt.moreResults.2.current.numResultCols
      if cols > 0 then
        let encoded ← engine.encodeCursor codecs stmt.moreResults.2.current
        driveMoreResults codecs engine stmt.moreResults.2 (allItems ++ [.resultSet encoded])
      else
        let rc ← orFault stmt.moreResults.2.current.rowCount
        driveMoreResults codecs engine stmt.moreResults.2 (allItems ++ [.rowCount rc])
termination_by stmt.pending.length
decreasing_by all_goals exact Statement.pending_lt (moved_of_onAdvanceWith goOn)

/-- The item of the first result: the cursor of `execute`, or the count of the statement. -/
def initialItem (codecs : Codecs) (engine : ExecutionEngine) (hadInitialCursor : Bool)
    (stmt : Statement) : Except (Fault OdbcError) MultiResultItem :=
  if hadInitialCursor then
    (engine.encodeCursor codecs stmt.current).map .resultSet
  else
    (orFault stmt.current.availableRowCount).map fun rc => .rowCount (rc.getD 0)

def executeMultiResultInner (codecs : Codecs) (engine : ExecutionEngine) (driver : Driver) :
    Except (Fault OdbcError) Bytes := do
  orFault driver.prepare
  let (hadInitialCursor, stmt) ← orFault driver.execute
  let first ← engine.initialItem codecs hadInitialCursor stmt
  let allItems ← driveMoreResults codecs engine stmt [first]
  .ok (MultiResult.encodeMulti allItems)

/-- Around the inner function the source only logs and counts. -/
def executeMultiResult (codecs : Codecs) (engine : ExecutionEngine) (driver : Driver) :
    Except (Fault OdbcError) Bytes :=
  engine.executeMultiResultInner codecs driver

/-! ## One item per result -/

section

variable {codecs : Codecs} {engine : ExecutionEngine} {items : List MultiResultItem}

/-- The item of a content as this engine encodes it. -/
def item (codecs : Codecs) (engine : ExecutionEngine) :
    Content → Except (Fault OdbcError) MultiResultItem :=
  Content.item (engine.encodeBuffer codecs)

theorem driveMoreResults_nil {stmt : Statement} (last : stmt.pending = [])
    (ends : stmt.ending.IsEnd) : driveMoreResults codecs engine stmt items = .ok items := by
  have stop : onAdvance stmt.moreResults.1 = .ok false := by
    rw [Statement.moreResults, last]
    exact ends.onAdvanceWith
  rw [driveMoreResults]
  split
  · next failed => rw [stop] at failed; cases failed
  · rfl
  · next goOn => rw [stop] at goOn; cases goOn

theorem driveMoreResults_cons {current result : DriverResult} {withInfo : Bool}
    {pending : List (Bool × DriverResult)} {ending : Ending} :
    driveMoreResults codecs engine ⟨current, (withInfo, result) :: pending, ending⟩ items = (do
      let content ← orFault (laterContent engine.mapType result)
      let item ← engine.item codecs content
      driveMoreResults codecs engine ⟨result, pending, ending⟩ (items ++ [item])) := by
  have goOn : onAdvance (Statement.moreResults ⟨current, (withInfo, result) :: pending, ending⟩).1 =
      .ok true := onAdvanceWith_advanced withInfo
  rw [driveMoreResults]
  split
  · next failed => rw [goOn] at failed; cases failed
  · next stop => rw [goOn] at stop; cases stop
  · simp only [Statement.moreResults, laterContent, encodeCursor]
    cases result.numResultCols with
    | error err => rfl
    | ok cols =>
        simp only [orFault_ok, ok_bind]
        split_ifs with positive
        · cases readCursor engine.mapType result with
          | error err => rfl
          | ok buffer =>
              simp only [orFault_ok, ok_bind, Except.map, item, Content.item]
              cases engine.encodeBuffer codecs buffer <;> rfl
        · cases result.rowCount <;> rfl

/-- The loop appends the items of the pending results in order. -/
theorem driveMoreResults_eq {current : DriverResult} {pending : List (Bool × DriverResult)}
    {ending : Ending} {contents : List Content} (ends : ending.IsEnd)
    (read : (pending.mapM fun step => laterContent engine.mapType step.2) = .ok contents) :
    driveMoreResults codecs engine ⟨current, pending, ending⟩ items =
      (contents.mapM (engine.item codecs)).map (items ++ ·) := by
  rw [mapM_eq_ok_iff] at read
  induction read generalizing current items with
  | nil =>
      rw [driveMoreResults_nil rfl ends, List.mapM_nil]
      exact congrArg _ (List.append_nil items).symm
  | @cons step content pending contents head _ ih =>
      rw [driveMoreResults_cons, head, orFault_ok, ok_bind, List.mapM_cons]
      cases engine.item codecs content with
      | error fault => rfl
      | ok first =>
          simp only [ok_bind, ih]
          cases contents.mapM (engine.item codecs) with
          | error fault => rfl
          | ok later => exact congrArg _ (List.append_assoc items [first] later)

theorem initialItem_eq {stmt : Statement} {content : Content} {cols : Int}
    (counted : stmt.current.numResultCols = .ok cols)
    (read : firstContent engine.mapType stmt.current = .ok content) :
    engine.initialItem codecs (decide (cols ≠ 0)) stmt = engine.item codecs content := by
  rw [firstContent, counted, ok_bind] at read
  by_cases cursor : cols ≠ 0
  · rw [if_pos cursor] at read
    obtain ⟨buffer, readRows, rfl⟩ := map_eq_ok.mp read
    rw [initialItem, if_pos (decide_eq_true cursor), encodeCursor, readRows]
    rfl
  · rw [if_neg cursor] at read
    obtain ⟨rc, readCount, rfl⟩ := map_eq_ok.mp read
    rw [initialItem, if_neg (by simpa using cursor), readCount]
    rfl

/-- The executor returns the envelope of the contents' items. -/
theorem executeMultiResult_eq {driver : Driver} {contents : List Content}
    (completes : driver.Completes) (read : driver.contents engine.mapType = .ok contents) :
    engine.executeMultiResult codecs driver =
      (contents.mapM (engine.item codecs)).map MultiResult.encodeMulti := by
  obtain ⟨first, readFirst, read⟩ := bind_eq_ok.mp read
  obtain ⟨later, readLater, read⟩ := bind_eq_ok.mp read
  cases read
  rw [executeMultiResult, executeMultiResultInner, Driver.prepare, completes.prepared, orFault_ok,
    ok_bind, Driver.execute, completes.executed, ok_bind, List.mapM_cons]
  obtain ⟨cols, counted, -⟩ := bind_eq_ok.mp readFirst
  have start : engine.initialItem codecs (decide (cols ≠ 0))
      ⟨driver.first, driver.more, driver.ending⟩ = engine.item codecs first :=
    initialItem_eq counted readFirst
  rw [counted]
  simp only [ok_bind, orFault_ok, start]
  cases engine.item codecs first with
  | error fault => rfl
  | ok item =>
      simp only [ok_bind, driveMoreResults_eq completes.ends readLater]
      cases later.mapM (engine.item codecs) <;> rfl

end

end ExecutionEngine

end OdbcFast.Native
