import OdbcFast.Native.Engine.CachedConnection
import OdbcFast.Native.Engine.OutputAwareParams

/-!
# Queries with parameters

A plain list of values is bound as texts, five of them at most, and the first result is
returned. A directed list with an output in it is bound slot by slot and executed as a batch:
every result is read before the output buffers are, because some drivers fill them only then.
One result is returned as a plain message; several are put into an envelope. The output values
stand behind either. On Oracle the reference cursors are not bound at all; their rows are the
results of the statement and stand in a second trailer.
-/

namespace OdbcFast.Native

open Wire

variable {build : TextBuild}

/-- How a statement with bound parameters runs, and what is in each parameter's buffer behind
the last result. -/
structure BoundAnswer (build : TextBuild) where
  driver : Driver
  left : Nat → Leaving build

/-- What a connection does: `prepared` is the answer to what comes before the execution of a
text, allocating or preparing its statement and setting its time-out. -/
structure BoundDatabase (build : TextBuild) where
  prepared : List Char → Except OdbcError Unit
  answer : List Char → List (ParamSlot build) → BoundAnswer build

/-- The tuples of the source end at five. -/
def bindStrings (build : TextBuild) (tooMany : Nat → String)
    (optionalStrings : List (Option String)) : Except OdbcError (List (ParamSlot build)) :=
  if optionalStrings.length ≤ 5 then
    .ok (optionalStrings.map fun text => .inText (text.map build.units))
  else .error (.validationError (tooMany optionalStrings.length))

def boundHasRefCursor (bound : List BoundParam) : Bool :=
  bound.any fun b => b.value = .refCursorOut

def filterNonRefCursorParams (bound : List BoundParam) : List BoundParam :=
  bound.filter fun b => b.value ≠ .refCursorOut

namespace ExecutionEngine

variable (codecs : Codecs) (engine : ExecutionEngine) (database : BoundDatabase build)

def executeQueryWithParamsInner (sql : List Char) (params : List ParamValue) :
    Except (Fault OdbcError) Bytes := do
  let optionalStrings ← orFault (paramValuesToStrings params)
  let slots ← orFault (bindStrings build (fun n => s!"At most 5 parameters supported, got {n}. " ++
    "For more parameters or proper NULL handling, use bulk insert operations or direct " ++
    "prepared statements.") optionalStrings)
  orFault (database.prepared sql)
  let rowBuffer ← orFault (fetch engine.mapType (database.answer sql slots).driver)
  engine.encodeBuffer codecs (coalesceForJsonRows rowBuffer)

def executeMultiResultWithParamsInner (sql : List Char) (params : List ParamValue) :
    Except (Fault OdbcError) Bytes := do
  let optionalStrings ← orFault (paramValuesToStrings params)
  orFault (database.prepared sql)
  let slots ← orFault (bindStrings build (fun n =>
    s!"At most 5 parameters supported in execute_multi_result_with_params, got {n}")
    optionalStrings)
  let (hadInitialCursor, stmt) ← orFault (database.answer sql slots).driver.execute
  let first ← engine.initialItem codecs hadInitialCursor stmt
  let allItems ← engine.driveMoreResults codecs stmt [first]
  .ok (MultiResult.encodeMulti allItems)

/-! ## Reference cursors -/

/-- `encode_cursor_v1`: row-major whatever the engine's encoding is. -/
def encodeCursorV1 (result : DriverResult) : Except (Fault OdbcError) Bytes := do
  let rowBuffer ← orFault (readCursor engine.mapType result)
  RowBufferEncoder.encode rowBuffer

def onRefCursorAdvance : SqlResult → Except OdbcError Bool :=
  onAdvanceWith "Unexpected SQLMoreResults state: NeedData (ref cursor)"
    "Unexpected SQLMoreResults state: StillExecuting (ref cursor)"

/-- Only cursors are kept. -/
def driveMoreRefCursorBlobs (stmt : Statement) (out : List Bytes) :
    Except (Fault OdbcError) (List Bytes) :=
  match _ : onRefCursorAdvance stmt.moreResults.1 with
  | .error err => .error (.err err)
  | .ok false => .ok out
  | .ok true => do
      let cols ← orFault stmt.moreResults.2.current.numResultCols
      if cols > 0 then
        let encoded ← engine.encodeCursorV1 stmt.moreResults.2.current
        driveMoreRefCursorBlobs stmt.moreResults.2 (out ++ [encoded])
      else
        let _ ← orFault stmt.moreResults.2.current.rowCount
        driveMoreRefCursorBlobs stmt.moreResults.2 out
termination_by stmt.pending.length
decreasing_by
  all_goals
    exact Statement.pending_lt (moved_of_onAdvanceWith ‹onRefCursorAdvance _ = .ok true›)

def isOraclePluginActive : Bool := engine.activePlugin = some .oracle

def executeOracleRefCursorPath (sql : List Char) (bound : List BoundParam) :
    Except (Fault OdbcError) Bytes := do
  let refCount := (bound.filter fun b => b.value = .refCursorOut).length
  let stripped ← orFault (stripRefCursorPlaceholders (String.ofList sql) bound)
  let slots ← orFault (boundToSlots build (filterNonRefCursorParams bound))
  orFault (database.prepared stripped.toList)
  let answer := database.answer stripped.toList slots
  let (hasCursor, stmt) ← orFault answer.driver.execute
  let first ← (if hasCursor then (engine.encodeCursorV1 stmt.current).map fun blob => [blob]
    else .ok [])
  let refBlobs ← engine.driveMoreRefCursorBlobs stmt first
  if refBlobs.length ≠ refCount then
    .error (.err (.validationError ("DIRECTED_PARAM|ref_cursor_oracle_resultset_count: expected " ++
      s!"{refCount} SYS_REFCURSOR result set(s) from the Oracle driver, found {refBlobs.length}")))
  else
    let outVals := outputFooterValues (fillSlots answer.left slots)
    let mainBody ← engine.encodeBuffer codecs (coalesceForJsonRows ⟨[], []⟩)
    let body ← RowBufferEncoder.appendOutputFooter mainBody outVals
    RowBufferEncoder.appendRefCursorFooter body refBlobs

/-! ## Directed lists -/

/-- `execute_query_with_bound_params_and_timeout`, without its logs and counters. -/
def executeQueryWithBoundParams (sql : List Char) (bound : List BoundParam) :
    Except (Fault OdbcError) Bytes :=
  if boundHasRefCursor bound then
    if ¬ engine.isOraclePluginActive then
      .error (.err (.validationError ("DIRECTED_PARAM|ref_cursor_out_oracle_only: " ++
        "ParamValue::RefCursorOut is only supported with the Oracle ODBC driver; see " ++
        "doc/notes/REF_CURSOR_ORACLE_ROADMAP.md")))
    else engine.executeOracleRefCursorPath codecs database sql bound
  else do
    let slots ← orFault (boundToSlots build bound)
    orFault (database.prepared sql)
    let answer := database.answer sql slots
    let (hadInitialCursor, stmt) ← orFault answer.driver.execute
    let rowBuffer ← (if hadInitialCursor then orFault (fetchCursor engine.mapType stmt.current)
      else .ok ⟨[], []⟩)
    let initialRc ← (if hadInitialCursor then .ok none
      else (orFault stmt.current.availableRowCount).map fun rc => some (rc.getD 0))
    let drain ← engine.driveMoreResults codecs stmt []
    let rowBuffer := coalesceForJsonRows rowBuffer
    let outVals := outputFooterValues (fillSlots answer.left slots)
    if drain.isEmpty then
      let body ← engine.encodeBuffer codecs rowBuffer
      RowBufferEncoder.appendOutputFooter body outVals
    else
      let firstItem ← (match initialRc with
        | some rc => .ok (.rowCount rc)
        | none => (engine.encodeBuffer codecs rowBuffer).map .resultSet)
      RowBufferEncoder.appendOutputFooter (MultiResult.encodeMulti (firstItem :: drain)) outVals

/-- `parse_sql` of the pipeline. -/
def parseSql (sql : List Char) : Except OdbcError Unit :=
  if CellReader.trim sql = [] then .error (.validationError "SQL query cannot be empty") else .ok ()

/-- `dispatch_param_buffer`: a directed list without outputs is a plain list. -/
def dispatchParamBuffer (sql : List Char) (paramBytes : Bytes) :
    Except (Fault OdbcError) Bytes := do
  match ← orFault (deserializeParamBuffer paramBytes) with
  | .legacy p =>
    orFault (parseSql sql)
    engine.executeQueryWithParamsInner codecs database sql p
  | .directed b =>
    orFault (parseSql sql)
    if b.all fun x => x.direction = .input then
      engine.executeQueryWithParamsInner codecs database sql (b.map BoundParam.value)
    else engine.executeQueryWithBoundParams codecs database sql b

/-! ## What a directed call returns -/

section

variable {codecs engine} {sql : List Char} {bound : List BoundParam} {bytes : Bytes}
  {pending : List (Bool × DriverResult)} {current : DriverResult} {ending : Ending}

theorem isEnd_of_onAdvanceWith {needData stillExecuting : String}
    (stop : onAdvanceWith needData stillExecuting ending.toSqlResult = .ok false) :
    ending.IsEnd := by
  cases ending with
  | noData => trivial
  | error err =>
      by_contra other
      rw [Ending.toSqlResult, onAdvanceWith,
        if_neg (show ¬ isNoMoreResults err = true from other)] at stop
      cases stop
  | needData => cases stop
  | stillExecuting => cases stop

/-- When the loop has returned, the results came to an end and each has its item. -/
theorem driveMoreResults_eq_ok {items all : List MultiResultItem}
    (drained : driveMoreResults codecs engine ⟨current, pending, ending⟩ items = .ok all) :
    ending.IsEnd ∧ ∃ contents later,
      (pending.mapM fun step => laterContent engine.mapType step.2) = .ok contents ∧
        contents.mapM (engine.item codecs) = .ok later ∧ all = items ++ later := by
  induction pending generalizing current items with
  | nil =>
      rw [driveMoreResults] at drained
      split at drained
      · cases drained
      · next stop =>
          cases drained
          exact ⟨isEnd_of_onAdvanceWith stop, [], [], rfl, rfl, (List.append_nil _).symm⟩
      · next goOn =>
          have moved := moved_of_onAdvanceWith goOn
          cases ending <;> simp [Statement.moreResults, Ending.toSqlResult] at moved
  | cons step pending ih =>
      rw [driveMoreResults_cons] at drained
      obtain ⟨content, read, drained⟩ := bind_eq_ok.mp drained
      obtain ⟨item, encoded, drained⟩ := bind_eq_ok.mp drained
      obtain ⟨ends, contents, later, readLater, encodedLater, rfl⟩ := ih drained
      refine ⟨ends, content :: contents, item :: later, ?_, ?_, List.append_assoc _ _ _⟩
      · rw [List.mapM_cons, orFault_eq_ok.mp read, ok_bind, readLater]
        rfl
      · rw [List.mapM_cons, encoded, ok_bind, encodedLater]
        rfl

/-- The message of a batch: one result is plain, and a single row count is not told. -/
def response (codecs : Codecs) (engine : ExecutionEngine) :
    List Content → Except (Fault OdbcError) Bytes
  | [.rows rowBuffer] => engine.encodeBuffer codecs rowBuffer
  | [.count _] => engine.encodeBuffer codecs ⟨[], []⟩
  | contents => (contents.mapM (engine.item codecs)).map MultiResult.encodeMulti

theorem readCursor_eq_map (mapType : Int → OdbcType) (result : DriverResult) :
    readCursor mapType result = (fetchCursor mapType result).map coalesceForJsonRows := by
  rw [readCursor, fetchCursor]
  cases result.numResultCols with
  | error err => rfl
  | ok cols =>
      rw [ok_bind, ok_bind]
      split_ifs
      · rfl
      · cases readColumns mapType result cols.toNat with
        | error err => rfl
        | ok columns =>
            rw [ok_bind, ok_bind]
            cases result.rows.mapM (readRow columns) with
            | error err => rfl
            | ok rows => cases result.fetched <;> rfl

/-- What the first result holds, from the two ways of reading it. -/
theorem firstContent_of_read {result : DriverResult} {cols : Int} {rowBuffer : RowBuffer}
    {initialRc : Option Int64} (counted : result.numResultCols = .ok cols)
    (read : (if decide (cols ≠ 0) then orFault (fetchCursor engine.mapType result)
      else .ok ⟨[], []⟩) = .ok rowBuffer)
    (readCount : (if decide (cols ≠ 0) then .ok none
      else (orFault result.availableRowCount).map fun rc => some (rc.getD 0)) = .ok initialRc) :
    (initialRc = none ∧
      firstContent engine.mapType result = .ok (.rows (coalesceForJsonRows rowBuffer))) ∨
    ∃ rc, initialRc = some rc ∧ rowBuffer = ⟨[], []⟩ ∧
      firstContent engine.mapType result = .ok (.count rc) := by
  by_cases cursor : cols ≠ 0
  · rw [if_pos (decide_eq_true cursor)] at read readCount
    cases readCount
    refine .inl ⟨rfl, ?_⟩
    rw [firstContent, counted, ok_bind, if_pos cursor, readCursor_eq_map, orFault_eq_ok.mp read]
    rfl
  · have none : ¬ decide (cols ≠ 0) = true := by simpa using cursor
    rw [if_neg none] at read readCount
    obtain ⟨rc, readRc, rfl⟩ := map_eq_ok.mp readCount
    cases read
    refine .inr ⟨_, rfl, rfl, ?_⟩
    rw [firstContent, counted, ok_bind, if_neg cursor, orFault_eq_ok.mp readRc]
    rfl

theorem response_cons {first : Content} {item : MultiResultItem} {later : List Content}
    {drain : List MultiResultItem} (several : drain ≠ [])
    (encoded : engine.item codecs first = .ok item)
    (encodedLater : later.mapM (engine.item codecs) = .ok drain) :
    response codecs engine (first :: later) = .ok (MultiResult.encodeMulti (item :: drain)) := by
  have whole : (first :: later).mapM (engine.item codecs) = .ok (item :: drain) := by
    rw [List.mapM_cons, encoded, ok_bind, encodedLater]
    rfl
  cases later with
  | nil =>
      cases encodedLater
      exact absurd rfl several
  | cons second later =>
      rw [response, whole]
      · rfl
      · simp
      · simp

/-- How the call ends: by the plain message of a single result, or by an envelope. -/
theorem response_of_drain (first : Content) {later : List Content} {drain : List MultiResultItem}
    {outputs : List ParamValue} (encodedLater : later.mapM (engine.item codecs) = .ok drain)
    (ran : (if drain.isEmpty then do
        let body ← response codecs engine [first]
        RowBufferEncoder.appendOutputFooter body outputs
      else do
        let item ← engine.item codecs first
        RowBufferEncoder.appendOutputFooter (MultiResult.encodeMulti (item :: drain)) outputs) =
      .ok bytes) :
    ∃ body, response codecs engine (first :: later) = .ok body ∧
      (RowBufferEncoder.appendOutputFooter body outputs : Except (Fault OdbcError) Bytes) =
        .ok bytes := by
  split_ifs at ran with last
  · obtain ⟨body, encoded, ran⟩ := bind_eq_ok.mp ran
    rw [List.isEmpty_iff] at last
    subst last
    rw [mapM_eq_ok_iff] at encodedLater
    cases encodedLater
    exact ⟨body, encoded, ran⟩
  · obtain ⟨item, encoded, ran⟩ := bind_eq_ok.mp ran
    have several : drain ≠ [] := fun empty => last (List.isEmpty_iff.mpr empty)
    exact ⟨_, response_cons several encoded encodedLater, ran⟩

/-- A directed call without reference cursors returns the message of its results, with the
output values behind it. -/
theorem executeQueryWithBoundParams_eq_ok (plain : boundHasRefCursor bound = false)
    (ran : engine.executeQueryWithBoundParams codecs database sql bound = .ok bytes) :
    ∃ slots contents body, boundToSlots build bound = .ok slots ∧
      (database.answer sql slots).driver.contents engine.mapType = .ok contents ∧
      response codecs engine contents = .ok body ∧
      (RowBufferEncoder.appendOutputFooter body
        (boundOutputs (database.answer sql slots).left bound) :
          Except (Fault OdbcError) Bytes) = .ok bytes := by
  rw [executeQueryWithBoundParams, plain, if_neg Bool.false_ne_true] at ran
  obtain ⟨slots, bind, ran⟩ := bind_eq_ok.mp ran
  obtain ⟨_, -, ran⟩ := bind_eq_ok.mp ran
  obtain ⟨⟨hadInitialCursor, stmt⟩, executed, ran⟩ := bind_eq_ok.mp ran
  obtain ⟨_, -, executed⟩ := bind_eq_ok.mp (orFault_eq_ok.mp executed)
  obtain ⟨cols, counted, executed⟩ := bind_eq_ok.mp executed
  cases executed
  obtain ⟨rowBuffer, read, ran⟩ := bind_eq_ok.mp ran
  obtain ⟨initialRc, readCount, ran⟩ := bind_eq_ok.mp ran
  obtain ⟨drain, drained, ran⟩ := bind_eq_ok.mp ran
  have bind := orFault_eq_ok.mp bind
  obtain ⟨-, later, _, readLater, encodedLater, rfl⟩ := driveMoreResults_eq_ok drained
  simp only [outputFooterValues_fillSlots bind] at ran
  have contents (first : Content)
      (head : firstContent engine.mapType (database.answer sql slots).driver.first = .ok first) :
      (database.answer sql slots).driver.contents engine.mapType = .ok (first :: later) := by
    rw [Driver.contents, head, ok_bind, readLater]
    rfl
  rcases firstContent_of_read counted read readCount with ⟨rfl, head⟩ | ⟨rc, rfl, rfl, head⟩
  · obtain ⟨body, encoded, footed⟩ := response_of_drain (.rows _) encodedLater ran
    exact ⟨slots, _, body, bind, contents _ head, encoded, footed⟩
  · obtain ⟨body, encoded, footed⟩ := response_of_drain (.count rc) encodedLater ran
    exact ⟨slots, _, body, bind, contents _ head, encoded, footed⟩

/-! ## What a call with reference cursors returns -/

/-- The rows of a content, when it has rows. -/
def rowsOf : Content → Option RowBuffer
  | .rows rowBuffer => some rowBuffer
  | .count _ => none

/-- The first result's rows; its count is not asked for. -/
def firstCursor (mapType : Int → OdbcType) (result : DriverResult) :
    Except OdbcError (List RowBuffer) := do
  let cols ← result.numResultCols
  if cols ≠ 0 then (readCursor mapType result).map fun rowBuffer => [rowBuffer] else .ok []

/-- The cursors among the results, in the driver's order. -/
def resultCursors (mapType : Int → OdbcType) (driver : Driver) :
    Except OdbcError (List RowBuffer) := do
  let first ← firstCursor mapType driver.first
  let later ← driver.more.mapM fun step => laterContent mapType step.2
  .ok (first ++ later.filterMap rowsOf)

theorem encodeCursorV1_eq_ok {result : DriverResult} {blob : Bytes}
    (encoded : engine.encodeCursorV1 result = .ok blob) :
    ∃ rowBuffer, readCursor engine.mapType result = .ok rowBuffer ∧
      (RowBufferEncoder.encode rowBuffer : Except (Fault OdbcError) Bytes) = .ok blob := by
  obtain ⟨rowBuffer, read, encoded⟩ := bind_eq_ok.mp encoded
  exact ⟨rowBuffer, orFault_eq_ok.mp read, encoded⟩

theorem driveMoreRefCursorBlobs_nil (ends : ending.IsEnd) (out : List Bytes) :
    engine.driveMoreRefCursorBlobs ⟨current, [], ending⟩ out = .ok out := by
  have stop : onRefCursorAdvance (Statement.moreResults ⟨current, [], ending⟩).1 = .ok false :=
    ends.onAdvanceWith
  rw [driveMoreRefCursorBlobs]
  split
  · next failed => rw [stop] at failed; cases failed
  · rfl
  · next goOn => rw [stop] at goOn; cases goOn

theorem driveMoreRefCursorBlobs_cons {result : DriverResult} {withInfo : Bool} {out : List Bytes} :
    engine.driveMoreRefCursorBlobs ⟨current, (withInfo, result) :: pending, ending⟩ out = (do
      let cols ← orFault result.numResultCols
      if cols > 0 then
        let encoded ← engine.encodeCursorV1 result
        engine.driveMoreRefCursorBlobs ⟨result, pending, ending⟩ (out ++ [encoded])
      else
        let _ ← orFault result.rowCount
        engine.driveMoreRefCursorBlobs ⟨result, pending, ending⟩ out) := by
  have goOn : onRefCursorAdvance
      (Statement.moreResults ⟨current, (withInfo, result) :: pending, ending⟩).1 = .ok true :=
    onAdvanceWith_advanced withInfo
  rw [driveMoreRefCursorBlobs]
  split
  · next failed => rw [goOn] at failed; cases failed
  · next stop => rw [goOn] at stop; cases stop
  · rfl

/-- When the loop has returned, each cursor behind the first result has its blob. -/
theorem driveMoreRefCursorBlobs_eq_ok {out all : List Bytes}
    (drained : engine.driveMoreRefCursorBlobs ⟨current, pending, ending⟩ out = .ok all) :
    ∃ contents blobs, (pending.mapM fun step => laterContent engine.mapType step.2) = .ok contents ∧
      ((contents.filterMap rowsOf).mapM RowBufferEncoder.encode :
        Except (Fault OdbcError) (List Bytes)) = .ok blobs ∧ all = out ++ blobs := by
  induction pending generalizing current out with
  | nil =>
      rw [driveMoreRefCursorBlobs] at drained
      split at drained
      · cases drained
      · cases drained
        exact ⟨[], [], rfl, rfl, (List.append_nil _).symm⟩
      · next goOn =>
          have moved := moved_of_onAdvanceWith goOn
          cases ending <;> simp [Statement.moreResults, Ending.toSqlResult] at moved
  | cons step pending ih =>
      rw [driveMoreRefCursorBlobs_cons] at drained
      obtain ⟨cols, counted, drained⟩ := bind_eq_ok.mp drained
      have counted := orFault_eq_ok.mp counted
      split_ifs at drained with positive
      · obtain ⟨encoded, written, drained⟩ := bind_eq_ok.mp drained
        obtain ⟨rowBuffer, read, written⟩ := encodeCursorV1_eq_ok written
        obtain ⟨contents, blobs, readLater, writtenLater, rfl⟩ := ih drained
        have content : laterContent engine.mapType step.2 = .ok (.rows rowBuffer) := by
          rw [laterContent, counted, ok_bind, if_pos positive, read]
          rfl
        refine ⟨.rows rowBuffer :: contents, encoded :: blobs, ?_, ?_, List.append_assoc _ _ _⟩
        · rw [List.mapM_cons, content, ok_bind, readLater]
          rfl
        · rw [List.filterMap_cons, rowsOf, List.mapM_cons, written, ok_bind, writtenLater]
          rfl
      · obtain ⟨n, told, drained⟩ := bind_eq_ok.mp drained
        obtain ⟨contents, blobs, readLater, writtenLater, rfl⟩ := ih drained
        have content : laterContent engine.mapType step.2 = .ok (.count n) := by
          rw [laterContent, counted, ok_bind, if_neg positive, orFault_eq_ok.mp told]
          rfl
        refine ⟨.count n :: contents, blobs, ?_, writtenLater, rfl⟩
        rw [List.mapM_cons, content, ok_bind, readLater]
        rfl

/-- The parts of a successful call with reference cursors. -/
theorem executeOracleRefCursorPath_eq_ok
    (ran : engine.executeOracleRefCursorPath codecs database sql bound = .ok bytes) :
    ∃ stripped slots cursors blobs main body,
      stripRefCursorPlaceholders (String.ofList sql) bound = .ok stripped ∧
      boundToSlots build (filterNonRefCursorParams bound) = .ok slots ∧
      resultCursors engine.mapType (database.answer stripped.toList slots).driver = .ok cursors ∧
      (cursors.mapM RowBufferEncoder.encode : Except (Fault OdbcError) (List Bytes)) = .ok blobs ∧
      cursors.length = (bound.filter fun b => b.value = .refCursorOut).length ∧
      engine.encodeBuffer codecs ⟨[], []⟩ = .ok main ∧
      (RowBufferEncoder.appendOutputFooter main
        (boundOutputs (database.answer stripped.toList slots).left
          (filterNonRefCursorParams bound)) : Except (Fault OdbcError) Bytes) = .ok body ∧
      (RowBufferEncoder.appendRefCursorFooter body blobs : Except (Fault OdbcError) Bytes) =
        .ok bytes := by
  obtain ⟨stripped, strip, ran⟩ := bind_eq_ok.mp ran
  obtain ⟨slots, bind, ran⟩ := bind_eq_ok.mp ran
  obtain ⟨_, -, ran⟩ := bind_eq_ok.mp ran
  obtain ⟨⟨hasCursor, stmt⟩, executed, ran⟩ := bind_eq_ok.mp ran
  obtain ⟨_, -, executed⟩ := bind_eq_ok.mp (orFault_eq_ok.mp executed)
  obtain ⟨cols, counted, executed⟩ := bind_eq_ok.mp executed
  cases executed
  obtain ⟨first, readFirst, ran⟩ := bind_eq_ok.mp ran
  obtain ⟨refBlobs, drained, ran⟩ := bind_eq_ok.mp ran
  obtain ⟨later, blobs, readLater, encodedLater, rfl⟩ := driveMoreRefCursorBlobs_eq_ok drained
  split_ifs at ran with different
  obtain ⟨main, encoded, ran⟩ := bind_eq_ok.mp ran
  obtain ⟨body, footed, ran⟩ := bind_eq_ok.mp ran
  have bind := orFault_eq_ok.mp bind
  rw [outputFooterValues_fillSlots bind] at footed
  obtain ⟨head, firstCursors, encodedFirst⟩ : ∃ head,
      firstCursor engine.mapType (database.answer stripped.toList slots).driver.first = .ok head ∧
      (head.mapM RowBufferEncoder.encode : Except (Fault OdbcError) (List Bytes)) = .ok first := by
    by_cases cursor : cols ≠ 0
    · rw [if_pos (decide_eq_true cursor)] at readFirst
      obtain ⟨blob, written, rfl⟩ := map_eq_ok.mp readFirst
      obtain ⟨rowBuffer, read, written⟩ := encodeCursorV1_eq_ok written
      refine ⟨[rowBuffer], ?_, ?_⟩
      · rw [firstCursor, counted, ok_bind, if_pos cursor, read]
        rfl
      · rw [List.mapM_cons, written]
        rfl
    · rw [if_neg (by simpa using cursor)] at readFirst
      cases readFirst
      refine ⟨[], ?_, rfl⟩
      rw [firstCursor, counted, ok_bind, if_neg cursor]
  have cursors : resultCursors engine.mapType (database.answer stripped.toList slots).driver =
      .ok (head ++ later.filterMap rowsOf) := by
    rw [resultCursors, firstCursors, ok_bind, readLater]
    rfl
  have written : ((head ++ later.filterMap rowsOf).mapM RowBufferEncoder.encode :
      Except (Fault OdbcError) (List Bytes)) = .ok (first ++ blobs) := by
    rw [List.mapM_append, encodedFirst, ok_bind, encodedLater]
    rfl
  refine ⟨stripped, slots, _, _, main, body, orFault_eq_ok.mp strip, bind, cursors, written, ?_,
    encoded, footed, ran⟩
  rw [(mapM_eq_ok_iff.mp written).length_eq]
  exact not_not.mp different

end

end ExecutionEngine

end OdbcFast.Native
