import OdbcFast.Native.Engine.Driver
import OdbcFast.Native.Engine.Framing

/-!
# The streaming driver

`drive_multi_result_stream` steps through a batch as the batch executor does, but hands
every item over as soon as it is encoded and framed. The callback has a state of its
own and may fail, and a cancellation flag is looked at between the results.
-/

namespace OdbcFast.Native

open Wire

/-- The text `to_string` gives. -/
def EncodeError.display : EncodeError → String
  | .lengthTooLarge field value target => s!"{field} value {value} exceeds {target}"
  | .payloadSizeOverflow context => s!"payload size overflow while adding {context}"

namespace Streaming

def encodeRowBuffer (buffer : RowBuffer) : Except OdbcError Bytes :=
  (RowBufferEncoder.tryEncode buffer).mapError fun e =>
    .resourceLimitReached s!"result encoding failed: {e.display}"

def encodeCursorToBuffer (result : DriverResult) : Except OdbcError Bytes := do
  let buffer ← readCursor OdbcType.fromOdbcSqlType result
  encodeRowBuffer buffer

def onAdvance : SqlResult → Except OdbcError Bool :=
  onAdvanceWith "Unexpected SQLMoreResults state in streaming worker"
    "Unexpected SQLMoreResults state in streaming worker"

/-- A computation with the callback's state, which survives a failure. -/
abbrev Worker (σ : Type) := ExceptT OdbcError (StateM σ)

variable {σ : Type}

/-- A step that leaves the callback's state alone. -/
def lift {α : Type} (outcome : Except OdbcError α) : Worker σ α := ExceptT.mk (pure outcome)

/-- The frame of the result that a step of `SQLMoreResults` has exposed. -/
def nextFrame (result : DriverResult) : Except OdbcError Bytes := do
  let cols ← result.numResultCols
  if cols > 0 then
    let encoded ← encodeCursorToBuffer result
    frameItem multiStreamItemTagResultSet encoded
  else
    let rc ← result.rowCount
    frameItem multiStreamItemTagRowCount (i64Bytes rc)

/-- The loop over the further results; `cancelled turn` is the flag as the check in that
turn sees it. -/
def driveMoreResults (cancelled : Nat → Bool) (onItem : Bytes → Worker σ Unit) (stmt : Statement)
    (turn : Nat) : Worker σ Unit :=
  if cancelled turn then lift (.error .cancelled)
  else
    match goOn : onAdvance stmt.moreResults.1 with
    | .error err => lift (.error err)
    | .ok false => lift (.ok ())
    | .ok true => do
        let frame ← lift (nextFrame stmt.moreResults.2.current)
        onItem frame
        driveMoreResults cancelled onItem stmt.moreResults.2 (turn + 1)
termination_by stmt.pending.length
decreasing_by exact Statement.pending_lt (moved_of_onAdvanceWith goOn)

/-- The frame of the first result; with a cursor the flag is looked at before it is read. -/
def initialFrame (cancelled : Bool) (hadInitialCursor : Bool) (stmt : Statement) :
    Except OdbcError Bytes :=
  if hadInitialCursor then
    if cancelled then .error .cancelled
    else do
      let encoded ← encodeCursorToBuffer stmt.current
      frameItem multiStreamItemTagResultSet encoded
  else do
    let rc ← stmt.current.availableRowCount
    frameItem multiStreamItemTagRowCount (i64Bytes (rc.getD 0))

def driveMultiResultStream (cancelled : Nat → Bool) (onItem : Bytes → Worker σ Unit)
    (driver : Driver) : Worker σ Unit := do
  lift driver.prepare
  let (hadInitialCursor, stmt) ← lift driver.execute
  let frame ← lift (initialFrame (cancelled 0) hadInitialCursor stmt)
  onItem frame
  driveMoreResults cancelled onItem stmt 1

/-- A callback that keeps every frame, as the worker's channel does. -/
def collect (frame : Bytes) : Worker (List Bytes) Unit := fun frames => (.ok (), frames ++ [frame])

/-! ## One frame per result -/

/-- The item of a content as the stream encodes it. -/
def item : Content → Except OdbcError MultiResultItem := Content.item encodeRowBuffer

/-- The frame of a content. -/
def frame (content : Content) : Except OdbcError Bytes := item content >>= frameOf

theorem nextFrame_eq {result : DriverResult} {content : Content}
    (read : laterContent OdbcType.fromOdbcSqlType result = .ok content) :
    nextFrame result = frame content := by
  obtain ⟨cols, counted, read⟩ := bind_eq_ok.mp read
  rw [nextFrame, counted, ok_bind]
  by_cases cursor : cols > 0
  · rw [if_pos cursor] at read
    obtain ⟨buffer, readRows, rfl⟩ := map_eq_ok.mp read
    rw [if_pos cursor, encodeCursorToBuffer, readRows, ok_bind, frame, item, Content.item]
    cases encodeRowBuffer buffer <;> rfl
  · rw [if_neg cursor] at read
    obtain ⟨rc, readCount, rfl⟩ := map_eq_ok.mp read
    rw [if_neg cursor, readCount]
    rfl

theorem initialFrame_eq {stmt : Statement} {content : Content} {cols : Int}
    (counted : stmt.current.numResultCols = .ok cols)
    (read : firstContent OdbcType.fromOdbcSqlType stmt.current = .ok content) :
    initialFrame false (decide (cols ≠ 0)) stmt = frame content := by
  rw [firstContent, counted, ok_bind] at read
  by_cases cursor : cols ≠ 0
  · rw [if_pos cursor] at read
    obtain ⟨buffer, readRows, rfl⟩ := map_eq_ok.mp read
    rw [initialFrame, if_pos (decide_eq_true cursor), encodeCursorToBuffer, readRows, ok_bind,
      frame, item, Content.item]
    cases encodeRowBuffer buffer <;> rfl
  · rw [if_neg cursor] at read
    obtain ⟨rc, readCount, rfl⟩ := map_eq_ok.mp read
    rw [initialFrame, if_neg (by simpa using cursor), readCount]
    rfl

/-- A step that fails ends the worker with the callback's state as it was. -/
theorem lift_bind {α β : Type} (outcome : Except OdbcError α) (next : α → Worker σ β) (state : σ) :
    (lift outcome >>= next) state =
      match outcome with
      | .ok value => next value state
      | .error err => (.error err, state) := by
  cases outcome <;> rfl

section

variable {cancelled : Nat → Bool} {onItem : Bytes → Worker σ Unit} {turn : Nat}
  {frames : List Bytes}

theorem driveMoreResults_nil {stmt : Statement} (last : stmt.pending = [])
    (ends : stmt.ending.IsEnd) (quiet : cancelled turn = false) :
    driveMoreResults cancelled onItem stmt turn = lift (.ok ()) := by
  have stop : onAdvance stmt.moreResults.1 = .ok false := by
    rw [Statement.moreResults, last]
    exact ends.onAdvanceWith
  rw [driveMoreResults, if_neg (by simp [quiet])]
  split
  · next failed => rw [stop] at failed; cases failed
  · rfl
  · next goOn => rw [stop] at goOn; cases goOn

theorem driveMoreResults_cons {current result : DriverResult} {withInfo : Bool}
    {pending : List (Bool × DriverResult)} {ending : Ending} (quiet : cancelled turn = false) :
    driveMoreResults cancelled onItem ⟨current, (withInfo, result) :: pending, ending⟩ turn = (do
      let frame ← lift (nextFrame result)
      onItem frame
      driveMoreResults cancelled onItem ⟨result, pending, ending⟩ (turn + 1)) := by
  have goOn : onAdvance (Statement.moreResults ⟨current, (withInfo, result) :: pending, ending⟩).1 =
      .ok true := onAdvanceWith_advanced withInfo
  rw [driveMoreResults, if_neg (by simp [quiet])]
  split
  · next failed => rw [goOn] at failed; cases failed
  · next stop => rw [goOn] at stop; cases stop
  · rfl

/-- The loop hands over the frames of the pending results in order, up to the first that
cannot be encoded. -/
theorem driveMoreResults_eq {current : DriverResult} {pending : List (Bool × DriverResult)}
    {ending : Ending} {contents : List Content} (ends : ending.IsEnd)
    (quiet : ∀ turn, cancelled turn = false)
    (read : (pending.mapM fun step => laterContent OdbcType.fromOdbcSqlType step.2) =
      .ok contents) :
    driveMoreResults cancelled collect ⟨current, pending, ending⟩ turn frames =
      ((emit (contents.map frame)).1, frames ++ (emit (contents.map frame)).2) := by
  rw [mapM_eq_ok_iff] at read
  induction read generalizing current turn frames with
  | nil =>
      rw [driveMoreResults_nil rfl ends (quiet turn), List.map_nil, emit, List.append_nil]
      rfl
  | @cons step content pending contents head _ ih =>
      rw [driveMoreResults_cons (quiet turn), nextFrame_eq head, lift_bind, List.map_cons]
      cases frame content with
      | error err => rw [emit, List.append_nil]
      | ok first =>
          rw [emit, List.append_cons]
          exact ih

/-- Behind the last result nothing is handed over, whatever the ending. -/
theorem driveMoreResults_last {stmt : Statement} (last : stmt.pending = []) :
    ∃ outcome, driveMoreResults cancelled onItem stmt turn = lift outcome := by
  rw [driveMoreResults]
  split
  · exact ⟨_, rfl⟩
  · split
    · exact ⟨_, rfl⟩
    · exact ⟨_, rfl⟩
    · next goOn =>
        have fewer := Statement.pending_lt (moved_of_onAdvanceWith goOn)
        rw [last] at fewer
        exact absurd fewer (Nat.not_lt_zero _)

/-- Whatever the flag and the ending, nothing is skipped: the frames handed over are the
first ones. -/
theorem driveMoreResults_sent {current : DriverResult} {pending : List (Bool × DriverResult)}
    {ending : Ending} {contents : List Content}
    (read : (pending.mapM fun step => laterContent OdbcType.fromOdbcSqlType step.2) =
      .ok contents) :
    ∃ sent, (driveMoreResults cancelled collect ⟨current, pending, ending⟩ turn frames).2 =
      frames ++ sent ∧ sent <+: (emit (contents.map frame)).2 := by
  rw [mapM_eq_ok_iff] at read
  induction read generalizing current turn frames with
  | nil =>
      obtain ⟨outcome, last⟩ : ∃ outcome,
          driveMoreResults cancelled collect ⟨current, [], ending⟩ turn = lift outcome :=
        driveMoreResults_last rfl
      exact ⟨[], by rw [last, List.append_nil]; rfl, List.nil_prefix⟩
  | @cons step content pending contents head _ ih =>
      cases flag : cancelled turn with
      | true =>
          refine ⟨[], ?_, List.nil_prefix⟩
          rw [driveMoreResults, if_pos flag, List.append_nil]
          rfl
      | false =>
          rw [driveMoreResults_cons flag, nextFrame_eq head, lift_bind, List.map_cons]
          cases frame content with
          | error err => exact ⟨[], (List.append_nil frames).symm, List.nil_prefix⟩
          | ok first =>
              have rest : ∃ sent, (driveMoreResults cancelled collect ⟨step.2, pending, ending⟩
                  (turn + 1) (frames ++ [first])).2 = frames ++ [first] ++ sent ∧
                    sent <+: (emit (contents.map frame)).2 := ih
              obtain ⟨sent, handed, front⟩ := rest
              refine ⟨first :: sent, ?_, List.cons_prefix_cons.mpr ⟨rfl, front⟩⟩
              rw [List.append_cons, ← handed]
              rfl

theorem initialFrame_cancelled (flag hadInitialCursor : Bool) (stmt : Statement) :
    initialFrame flag hadInitialCursor stmt = .error .cancelled ∨
      initialFrame flag hadInitialCursor stmt = initialFrame false hadInitialCursor stmt := by
  cases flag with
  | false => exact .inr rfl
  | true =>
      cases hadInitialCursor with
      | false => exact .inr rfl
      | true => exact .inl rfl

/-- A statement that has run is streamed from its first result on. -/
theorem driveMultiResultStream_of_executed {driver : Driver} {cols : Int}
    (prepared : driver.prepared = .ok ()) (executed : driver.executed = .ok ())
    (counted : driver.first.numResultCols = .ok cols) :
    driveMultiResultStream cancelled onItem driver = (do
      let frame ← lift (initialFrame (cancelled 0) (decide (cols ≠ 0))
        ⟨driver.first, driver.more, driver.ending⟩)
      onItem frame
      driveMoreResults cancelled onItem ⟨driver.first, driver.more, driver.ending⟩ 1) := by
  rw [driveMultiResultStream, Driver.prepare, prepared, Driver.execute, executed, ok_bind,
    counted, ok_bind]
  rfl

/-- Every run of the stream, also one that is cancelled or fails, hands over the first
frames of the batch in order. -/
theorem driveMultiResultStream_sent {driver : Driver} {contents : List Content}
    (read : driver.contents OdbcType.fromOdbcSqlType = .ok contents) :
    (driveMultiResultStream cancelled collect driver []).2 <+:
      (emit (contents.map frame)).2 := by
  obtain ⟨first, readFirst, read⟩ := bind_eq_ok.mp read
  obtain ⟨later, readLater, read⟩ := bind_eq_ok.mp read
  cases read
  obtain ⟨cols, counted, -⟩ := bind_eq_ok.mp readFirst
  have start : initialFrame false (decide (cols ≠ 0))
      ⟨driver.first, driver.more, driver.ending⟩ = frame first := initialFrame_eq counted readFirst
  cases prepared : driver.prepared with
  | error err =>
      rw [driveMultiResultStream, lift_bind, Driver.prepare, prepared]
      exact List.nil_prefix
  | ok _ =>
      cases executed : driver.executed with
      | error err =>
          rw [driveMultiResultStream, lift_bind, Driver.prepare, prepared]
          simp only
          rw [lift_bind, Driver.execute, executed]
          exact List.nil_prefix
      | ok _ =>
          rw [driveMultiResultStream_of_executed prepared executed counted, lift_bind]
          rcases initialFrame_cancelled (cancelled 0) (decide (cols ≠ 0))
            ⟨driver.first, driver.more, driver.ending⟩ with stopped | same
          · rw [stopped]
            exact List.nil_prefix
          · rw [same, start, List.map_cons]
            cases frame first with
            | error err => exact List.nil_prefix
            | ok opening =>
                have rest : ∃ sent, (driveMoreResults cancelled collect
                    ⟨driver.first, driver.more, driver.ending⟩ 1 ([] ++ [opening])).2 =
                      [] ++ [opening] ++ sent ∧ sent <+: (emit (later.map frame)).2 :=
                  driveMoreResults_sent readLater
                obtain ⟨sent, handed, front⟩ := rest
                have ahead : [] ++ [opening] ++ sent <+: opening :: (emit (later.map frame)).2 :=
                  List.cons_prefix_cons.mpr ⟨rfl, front⟩
                rwa [← handed] at ahead

theorem driveMultiResultStream_eq {driver : Driver} {contents : List Content}
    (completes : driver.Completes) (quiet : ∀ turn, cancelled turn = false)
    (read : driver.contents OdbcType.fromOdbcSqlType = .ok contents) :
    driveMultiResultStream cancelled collect driver [] = emit (contents.map frame) := by
  obtain ⟨first, readFirst, read⟩ := bind_eq_ok.mp read
  obtain ⟨later, readLater, read⟩ := bind_eq_ok.mp read
  cases read
  obtain ⟨cols, counted, -⟩ := bind_eq_ok.mp readFirst
  have start : initialFrame false (decide (cols ≠ 0))
      ⟨driver.first, driver.more, driver.ending⟩ = frame first := initialFrame_eq counted readFirst
  rw [driveMultiResultStream_of_executed completes.prepared completes.executed counted, lift_bind,
    quiet 0, start, List.map_cons]
  cases frame first with
  | error err => rfl
  | ok opening =>
      rw [emit]
      exact driveMoreResults_eq completes.ends quiet readLater

end

end Streaming

end OdbcFast.Native
