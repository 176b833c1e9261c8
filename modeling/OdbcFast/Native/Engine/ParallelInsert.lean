import OdbcFast.Native.Engine.Identifier
import OdbcFast.Native.Pool
import OdbcFast.Native.Protocol.BulkInsert

/-!
# Bulk inserts

Rows are inserted in batches, each by one execution of a prepared statement. A parallel
insert cuts its rows into chunks first, and each chunk has a connection of the pool to itself
while its batches go out: in autocommit, or in a transaction of its own. Every chunk is tried,
and what the chunks answer is added up.
-/

namespace OdbcFast.Native

open Wire

/-- Where the pieces of some rows begin and end: `(0..total).step_by(size)`. -/
def stepRanges (total size : Nat) : List (Nat × Nat) :=
  (List.range ((total + size - 1) / size)).map fun i =>
    (i * size, min (i * size + size) total)

/-- The rows of a range. -/
def slice {α : Type} (range : Nat × Nat) (rows : List α) : List α :=
  (rows.drop range.1).take (range.2 - range.1)

theorem mem_stepRanges {total size : Nat} {range : Nat × Nat}
    (member : range ∈ stepRanges total size) : range.1 < range.2 ∧ range.2 ≤ total := by
  obtain ⟨i, early, rfl⟩ := List.mem_map.mp member
  have pieces : (i + 1) * size ≤ total + size - 1 :=
    (Nat.mul_le_mul_right size (List.mem_range.mp early)).trans (Nat.div_mul_le_self _ _)
  rw [Nat.succ_mul] at pieces
  rcases Nat.eq_zero_or_pos size with rfl | positive
  · simp at early
  · dsimp only
    omega

theorem sub_le_of_mem_stepRanges {total size : Nat} {range : Nat × Nat}
    (member : range ∈ stepRanges total size) : range.2 - range.1 ≤ size := by
  obtain ⟨i, -, rfl⟩ := List.mem_map.mp member
  dsimp only
  omega

theorem length_slice {α : Type} {range : Nat × Nat} {rows : List α}
    (inside : range.2 ≤ rows.length) : (slice range rows).length = range.2 - range.1 := by
  rw [slice, List.length_take, List.length_drop]
  omega

/-- The pieces up to one of them are the rows in front of the next. -/
theorem flatten_slices_upTo {α : Type} (rows : List α) (size count : Nat) :
    ((List.range count).map fun i =>
      slice (i * size, min (i * size + size) rows.length) rows).flatten =
        rows.take (count * size) := by
  induction count with
  | zero => simp
  | succ count ih =>
      have piece : (rows.drop (count * size)).take
          (min (count * size + size) rows.length - count * size) =
            (rows.drop (count * size)).take size := by
        rw [List.take_eq_take_iff, List.length_drop]
        omega
      rw [List.range_succ, List.map_append, List.flatten_append, ih, List.map_singleton,
        List.flatten_singleton, slice, piece, Nat.succ_mul, List.take_add]

/-- The pieces one behind the other are the rows. -/
theorem flatten_slices {α : Type} {rows : List α} {size : Nat} (positive : 0 < size) :
    ((stepRanges rows.length size).map (slice · rows)).flatten = rows := by
  have covered := Nat.div_add_mod (rows.length + size - 1) size
  have rest := Nat.mod_lt (rows.length + size - 1) positive
  rw [stepRanges, List.map_map]
  refine (flatten_slices_upTo rows size _).trans (List.take_of_length_le ?_)
  rw [Nat.mul_comm]
  omega

/-- The ranges cover everything. -/
theorem sum_stepRanges {total size : Nat} (positive : 0 < size) :
    ((stepRanges total size).map fun range => range.2 - range.1).sum = total := by
  have whole := congrArg List.length (@flatten_slices Unit (List.replicate total ()) size positive)
  rw [List.length_flatten, List.map_map, List.length_replicate] at whole
  refine Eq.trans (congrArg List.sum (List.map_congr_left fun range member => ?_)) whole
  rw [Function.comp_apply, length_slice]
  rw [List.length_replicate]
  exact (mem_stepRanges member).2

/-- The pieces hold as many rows as there are. -/
theorem length_flatten_slices {α : Type} {rows : List α} {size : Nat} (positive : 0 < size) :
    ((stepRanges rows.length size).map (slice · rows)).flatten.length = rows.length := by
  rw [flatten_slices positive]

/-! ## Batches -/

namespace ArrayBinding

variable {W : Type} (driver : SessionDriver W)

/-- Each batch is copied into the buffers and executed; the count is of the rows behind it. -/
def insertBatches (fill : Except OdbcError Unit) :
    List (List W) → Nat → Fallible (Session W) OdbcError Nat
  | [], total => pure total
  | batch :: batches, total => do
    Fallible.check fill
    Session.call driver (.statement batch)
    insertBatches fill batches (total + batch.length)

/-- What the bulk inserts have in common: the statement is prepared for batches of the size of
the parameter set, but no more than there are rows. -/
def insertRows (sql : Except OdbcError String) (fill : Except OdbcError Unit)
    (paramsetSize : Nat) (rows : List W) : Fallible (Session W) OdbcError Nat := do
  let sql ← Fallible.check sql
  let capacity := min (max paramsetSize 1) rows.length
  Session.call driver (.prepare sql)
  Session.call driver (.bind capacity)
  insertBatches driver fill ((stepRanges rows.length capacity).map (slice · rows)) 0

/-! ### In a transaction nothing is committed by the batches -/

/-- Work that is done with autocommit off stays open. -/
def StaysOpen (session next : Session W) : Prop :=
  session.autocommit = false →
    next.autocommit = false ∧ next.committed = session.committed

instance : IsPreorder (Session W) StaysOpen where
  refl _ := fun manual => ⟨manual, rfl⟩
  trans _ _ _ first second := fun manual => by
    obtain ⟨manual, same⟩ := first manual
    obtain ⟨manual, same'⟩ := second manual
    exact ⟨manual, same'.trans same⟩

variable {driver}

theorem staysOpen_work (done : List W) (session : Session W) :
    StaysOpen session (session.work done) := by
  intro manual
  rw [Session.work, if_neg (by simp [manual])]
  exact ⟨manual, rfl⟩

/-- A call of an insert. -/
def Inserting (call : SessionCall W) : Prop :=
  (∃ done, call = .statement done) ∨ (∃ sql, call = .prepare sql) ∨
    ∃ capacity, call = .bind capacity

/-- The calls of an insert do nothing but their work, unless the server drops it. -/
theorem after_inserting {call : SessionCall W} (inserting : Inserting call)
    (session : Session W) : ∃ done history,
      session.after driver call = { session.work done with history } ∨
        session.after driver call = { (session.work done).rollbackOpen with history } := by
  rcases answer : driver.refusal session.history call with _ | error
  · rw [(Session.after_accepted answer).2]
    rcases inserting with ⟨done, rfl⟩ | ⟨sql, rfl⟩ | ⟨capacity, rfl⟩
    · exact ⟨done, _, .inl rfl⟩
    · exact ⟨[], _, .inl (by rw [Session.work_nil]; rfl)⟩
    · exact ⟨[], _, .inl (by rw [Session.work_nil]; rfl)⟩
  · rw [(Session.after_refused answer).2]
    have refused : ∃ done, session.refuse driver call = session.work done ∨
        session.refuse driver call = (session.work done).rollbackOpen := by
      rcases inserting with ⟨done, rfl⟩ | ⟨sql, rfl⟩ | ⟨capacity, rfl⟩
      · refine ⟨done.filter (driver.partly session.history), ?_⟩
        dsimp only [Session.refuse]
        split_ifs
        · exact .inr rfl
        · exact .inl rfl
      all_goals
        refine ⟨[], ?_⟩
        rw [Session.work_nil]
        dsimp only [Session.refuse]
        split_ifs
      · exact .inr rfl
      · exact .inl rfl
      · exact .inr rfl
      · exact .inl rfl
    obtain ⟨done, same | same⟩ := refused
    · exact ⟨done, _, .inl (by rw [same])⟩
    · exact ⟨done, _, .inr (by rw [same])⟩

theorem staysOpen_call {call : SessionCall W} (inserting : Inserting call) :
    Fallible.Keeps StaysOpen (Session.call driver call) := by
  intro session
  change StaysOpen session (session.after driver call)
  intro manual
  obtain ⟨done, history, same | same⟩ := @after_inserting W driver call inserting session
  · rw [same]
    exact staysOpen_work done session manual
  · rw [same]
    exact staysOpen_work done session manual

theorem staysOpen_insertBatches (fill : Except OdbcError Unit) (batches : List (List W))
    (total : Nat) : Fallible.Keeps StaysOpen (insertBatches driver fill batches total) := by
  induction batches generalizing total with
  | nil => exact Fallible.Keeps.pure total
  | cons batch batches ih =>
      refine Fallible.Keeps.bind (Fallible.Keeps.check fill) fun _ => ?_
      exact Fallible.Keeps.bind (staysOpen_call (.inl ⟨batch, rfl⟩)) fun _ => ih _

theorem staysOpen_insertRows (sql : Except OdbcError String) (fill : Except OdbcError Unit)
    (paramsetSize : Nat) (rows : List W) :
    Fallible.Keeps StaysOpen (insertRows driver sql fill paramsetSize rows) := by
  refine Fallible.Keeps.bind (Fallible.Keeps.check sql) fun text => ?_
  refine Fallible.Keeps.bind (staysOpen_call (.inr (.inl ⟨text, rfl⟩))) fun _ => ?_
  refine Fallible.Keeps.bind (staysOpen_call (.inr (.inr ⟨_, rfl⟩))) fun _ => ?_
  exact staysOpen_insertBatches fill _ 0

end ArrayBinding

def placeholders (count : Nat) : String := ", ".intercalate (List.replicate count "?")

def insertStatement (table : String) (columns : List String) : Except OdbcError String := do
  let quoted ← columns.mapM quoteIdentifierDefault
  let colList := ", ".intercalate quoted
  let qtable ← quoteQualifiedDefault table
  let values := placeholders columns.length
  pure s!"INSERT INTO {qtable} ({colList}) VALUES ({values})"

/-- Columns of one length, one for each name. -/
def validateI32Columns (columns : List String) (data : List (List Int32)) :
    Except OdbcError Unit :=
  if data.length ≠ columns.length then
    .error (.validationError "data length must match columns length")
  else
    match data with
    | [] => .ok ()
    | first :: others =>
      if others.all fun column => column.length = first.length then .ok ()
      else .error (.validationError "all columns must have same row count")

/-- The rows of some columns. -/
def rowsOf (data : List (List Int32)) : List (List Int32) :=
  (List.range ((data.map List.length).headD 0)).map fun i => data.map fun column => column.getD i 0

/-- `ArrayBinding::bulk_insert_i32`. -/
def bulkInsertI32 (driver : SessionDriver (List Int32)) (paramsetSize : Nat) (table : String)
    (columns : List String) (data : List (List Int32)) :
    Fallible (Session (List Int32)) OdbcError Nat := do
  Fallible.check (validateI32Columns columns data)
  if (rowsOf data).isEmpty then pure 0
  else
    ArrayBinding.insertRows driver (insertStatement table columns) (.ok ()) paramsetSize
      (rowsOf data)

/-- Whether the cells of a column can be copied into the buffer that its specification asks
for. -/
def fillColumn (spec : BulkColumnSpec) (data : BulkColumnData) : Except OdbcError Unit :=
  let nullable (type : String) (bitmap : Option Bytes) : Except OdbcError Unit :=
    if bitmap.isSome = spec.nullable then .ok ()
    else if bitmap.isSome then .error (.internalError s!"{type} nullable column expected")
    else .error (.internalError s!"{type} column expected")
  match data, spec.colType with
  | .i32 _ bitmap, .i32 => nullable "I32" bitmap
  | .i64 _ bitmap, .i64 => nullable "I64" bitmap
  | .timestamp _ bitmap, .timestamp => nullable "Timestamp" bitmap
  | .text _ _ _, .text | .text _ _ _, .decimal => .ok ()
  | .binary _ _ _, .binary => .ok ()
  | _, _ => .error (.validationError "Column data does not match spec")

/-- `ArrayBinding::bulk_insert_generic`; a row is known by its number. -/
def bulkInsertGeneric (driver : SessionDriver Nat) (paramsetSize firstRow : Nat)
    (payload : BulkInsertPayload) : Fallible (Session Nat) OdbcError Nat :=
  if payload.rowCount = 0 then pure 0
  else if payload.columnData.length ≠ payload.columns.length then
    .check (.error (.validationError "column_data length must match columns length"))
  else
    ArrayBinding.insertRows driver
      (insertStatement payload.table (payload.columns.map BulkColumnSpec.name))
      ((payload.columns.zip payload.columnData).forM fun column => fillColumn column.1 column.2)
      paramsetSize ((List.range payload.rowCount.toNat).map fun row => firstRow + row)

/-! ## Chunks -/

inductive ParallelMode where
  | independent
  | perChunkTransactional
  deriving DecidableEq, Repr

/-- `chunk_ranges`. -/
def chunkRanges (rowCount parallelism : Nat) : List (Nat × Nat) :=
  if rowCount = 0 then []
  else
    let size := (rowCount + max parallelism 1 - 1) / max parallelism 1
    stepRanges rowCount (min (max size 1) rowCount)

/-- `row_chunk_ranges`. -/
def rowChunkRanges (rowCount parallelism : Nat) : List (Nat × Nat) :=
  if rowCount = 0 then []
  else
    let workers := min (max parallelism 1) rowCount
    stepRanges rowCount (max ((rowCount + workers - 1) / workers) 1)

section

variable {W : Type} (driver : SessionDriver W)

/-- What a chunk does with the connection it has got; `insert` are its batches. A chunk that
cannot commit leaves at once. -/
def insertChunk (mode : ParallelMode) (insert : Fallible (Session W) OdbcError Nat) :
    Fallible (Session W) OdbcError Nat :=
  match mode with
  | .independent => insert
  | .perChunkTransactional => do
    Session.call driver (.setAutocommit false)
    .of fun session =>
      match insert.perform session with
      | (.ok count, session) =>
        let finish : Fallible (Session W) OdbcError Nat := do
          Session.call driver .commit
          Fallible.ignore (Session.call driver (.setAutocommit true))
          pure count
        finish.perform session
      | (.error error, session) => (.error error, ((Pool.restore driver).perform session).2)

/-- A chunk with a connection, which goes back to the pool behind it. -/
def runChunk (mode : ParallelMode) (insert : Fallible (Session W) OdbcError Nat)
    (session : Session W) : Except OdbcError Nat × Pool.Entry W :=
  let (result, session) := (insertChunk driver mode insert).perform session
  (result, Pool.putBack driver session)

end

/-- What a chunk came to, with its connection when it is back; a chunk that the pool has no
connection for has none. -/
abbrev ChunkOutcome (ε W : Type) := Except ε Nat × Option (Pool.Entry W)

/-- The rows of the chunks that have succeeded. -/
def succeeded {ε : Type} (results : List (Except ε Nat)) : Nat :=
  (results.map fun result => match result with
    | .ok count => count
    | .error _ => 0).sum

/-- The failed chunks, numbered, as they are listed. -/
def failures {ε : Type} (display : ε → String) (results : List (Except ε Nat)) : List String :=
  results.zipIdx.filterMap fun entry => match entry with
    | (.ok _, _) => none
    | (.error error, chunk) =>
      let text := display error
      some s!"chunk[{chunk}]: {text}"

/-- `collect_partial_failure`, with the sums in front of it. -/
def collectPartialFailure (results : List (Except OdbcError Nat)) : Except OdbcError Nat :=
  let errors := failures OdbcError.display results
  if errors.isEmpty then .ok (succeeded results)
  else .error (.bulkPartialFailure (succeeded results) errors.length ("; ".intercalate errors))

section

variable {W : Type} (connections : Nat → Except OdbcError (SessionDriver W)) (mode : ParallelMode)
  (insert : SessionDriver W → Nat × Nat → Fallible (Session W) OdbcError Nat)

/-- A chunk on its own connection, or with the error of `pool.get()`. A connection of the pool
is as good as a new one; its driver knows what was before. -/
def chunkOutcome (range : Nat × Nat) (chunk : Nat) : ChunkOutcome OdbcError W :=
  match connections chunk with
  | .error error => (.error error, none)
  | .ok driver =>
    let (result, entry) := runChunk driver mode (insert driver range) {}
    (result, some entry)

def runChunks (ranges : List (Nat × Nat)) : List (ChunkOutcome OdbcError W) :=
  ranges.zipIdx.map fun entry => chunkOutcome connections mode insert entry.1 entry.2

end

/-- `ParallelBulkInsert::insert_i32_parallel`. -/
def insertI32Parallel (connections : Nat → Except OdbcError (SessionDriver (List Int32)))
    (mode : ParallelMode) (batchSize parallelism : Nat) (table : String) (columns : List String)
    (data : List (List Int32)) :
    Except OdbcError Nat × List (ChunkOutcome OdbcError (List Int32)) :=
  match validateI32Columns columns data with
  | .error error => (.error error, [])
  | .ok () =>
    let rowCount := (data.map List.length).headD 0
    if rowCount = 0 then (.ok 0, [])
    else
      let outcomes := runChunks connections mode
        (fun driver range => bulkInsertI32 driver batchSize table columns (data.map (slice range)))
        (chunkRanges rowCount parallelism)
      (collectPartialFailure (outcomes.map Prod.fst), outcomes)

/-! ## Payloads -/

/-- `slice_null_bitmap`. -/
def sliceNullBitmap (bitmap : Bytes) (start len : Nat) : Bytes :=
  (List.range len).foldl
    (fun out i => if isNull bitmap (start + i) then Bitmap.set out i else out)
    (List.replicate (nullBitmapSize len) 0)

/-- `rows[start..end]`. -/
def sliceOf {α : Type} (range : Nat × Nat) (rows : List α) : Except (Fault OdbcError) (List α) :=
  let stop := range.2
  let length := rows.length
  if stop ≤ length then .ok (slice range rows)
  else .error (.panic s!"range end index {stop} out of range for slice of length {length}")

def sliceColumn (range : Nat × Nat) : BulkColumnData → Except (Fault OdbcError) BulkColumnData
  | .i32 values bitmap => (sliceOf range values).map (.i32 · (bitmap.map cut))
  | .i64 values bitmap => (sliceOf range values).map (.i64 · (bitmap.map cut))
  | .text rows maxLen bitmap => (sliceOf range rows).map (.text · maxLen (bitmap.map cut))
  | .binary rows maxLen bitmap => (sliceOf range rows).map (.binary · maxLen (bitmap.map cut))
  | .timestamp values bitmap => (sliceOf range values).map (.timestamp · (bitmap.map cut))
where
  cut (bitmap : Bytes) : Bytes := sliceNullBitmap bitmap range.1 (range.2 - range.1)

def slicePayloadRows (payload : BulkInsertPayload) (range : Nat × Nat) :
    Except (Fault OdbcError) BulkInsertPayload :=
  if range.1 > range.2 ∨ range.2 > payload.rowCount.toNat then
    .error (.err (.validationError "Invalid bulk insert chunk range"))
  else
    (payload.columnData.mapM (sliceColumn range)).map fun columnData =>
      { payload with rowCount := UInt32.ofNat (range.2 - range.1), columnData }

/-- The parameter set of `ArrayBinding::default`. -/
def defaultParamsetSize : Nat := 1000

/-- A chunk of a payload, on its own connection and without a transaction. The connection goes
back to the pool, whatever happens. -/
def insertPayloadChunk (connections : Nat → Except OdbcError (SessionDriver Nat))
    (payload : BulkInsertPayload) (range : Nat × Nat) (chunk : Nat) :
    ChunkOutcome (Fault OdbcError) Nat :=
  match connections chunk with
  | .error error => (.error (.err error), none)
  | .ok driver =>
    let insert : Fallible (Session Nat) (Fault OdbcError) Nat := do
      let chunk ← Fallible.check (slicePayloadRows payload range)
      Fallible.adapt .err (bulkInsertGeneric driver defaultParamsetSize range.1 chunk)
    let (result, session) := insert.perform {}
    (result, some (Pool.putBack driver session))

/-- The panic of a worker. -/
def panicOf {ε α : Type} : Except (Fault ε) α → Option String
  | .error (.panic message) => some message
  | _ => none

/-- `bulk_insert_parallel_with_pool`. A panic of a worker is passed on when all of them are
done. -/
def bulkInsertParallelWithPool (connections : Nat → Except OdbcError (SessionDriver Nat))
    (payload : BulkInsertPayload) (parallelism : Nat) :
    Except (Fault OdbcError) Nat × List (ChunkOutcome (Fault OdbcError) Nat) :=
  if payload.rowCount = 0 then (.ok 0, [])
  else
    let outcomes := (rowChunkRanges payload.rowCount.toNat parallelism).zipIdx.map fun entry =>
      insertPayloadChunk connections payload entry.1 entry.2
    let results := outcomes.map Prod.fst
    match results.findSome? panicOf with
    | some message => (.error (.panic message), outcomes)
    | none =>
      let errors := failures (fun fault => match fault with
        | .err error => error.display
        | .panic message => message) results
      if errors.isEmpty then (.ok (succeeded results), outcomes)
      else
        let failed := errors.length
        let total := succeeded results
        let text := "; ".intercalate errors
        (.error (.err (.internalError (s!"Parallel bulk insert: {failed} failed chunk(s) " ++
          s!"({total} rows inserted before failure): {text}"))), outcomes)

end OdbcFast.Native
