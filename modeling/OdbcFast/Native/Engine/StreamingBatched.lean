import OdbcFast.Native.Engine.BatchedWorker
import OdbcFast.Wire.Portions

/-!
# All batches of a stream

`BatchedWorker` runs `execute_streaming_batched` turn by turn, so that a cancellation can
come between two batches. Here the call is one function, for a stream that nobody
cancels: it returns the batches that it hands over and how it ends. `turns_opening` says
that the turns of the thread send these batches and leave with that end.

A cursor without rows gives one batch without rows. Every other one is cut into portions of
`fetch_size` rows, and each portion is a message of its own.
-/

namespace OdbcFast.Native

open Wire

namespace BatchedJob

variable {job : BatchedJob} {columns : List ColumnMetadata} {rows rest : List RawRow}
  {cells : List (List Cell)} {firstBatch : Bool} {batch : Option Bytes}

/-! ## The loop -/

theorem length_readRows {count : Nat} (read : job.readRows columns count rows = .ok (cells, rest)) :
    cells.length + rest.length = rows.length := by
  fun_induction readRows job columns count rows generalizing cells rest with
  | case1 rows =>
      cases read
      exact Nat.zero_add _
  | case2 count =>
      obtain ⟨_, -, read⟩ := bind_eq_ok.mp read
      cases read
      rfl
  | case3 count row rows ih =>
      obtain ⟨first, -, read⟩ := bind_eq_ok.mp read
      obtain ⟨⟨more, rest'⟩, later, read⟩ := bind_eq_ok.mp read
      cases read
      rw [List.length_cons, List.length_cons, ← ih later]
      omega

/-- A loop that goes on has read a row. -/
theorem length_rest_lt (read : job.readBatch columns rows firstBatch = .ok (batch, some rest)) :
    rest.length < rows.length := by
  obtain ⟨⟨cells, rest'⟩, readRows, read⟩ := bind_eq_ok.mp read
  have total := length_readRows readRows
  simp only at read
  split_ifs at read with empty first
  · obtain ⟨_, -, read⟩ := bind_eq_ok.mp read
    cases read
  · cases read
  · obtain ⟨_, -, read⟩ := bind_eq_ok.mp read
    cases read
    have some := List.length_pos_of_ne_nil (mt List.isEmpty_iff.mpr empty)
    omega

variable (job) in
/-- The batches that the loop hands over from here on, and how it ends. -/
def readBatches (columns : List ColumnMetadata) (rows : List RawRow) (firstBatch : Bool) :
    List Bytes × Except OdbcError Unit :=
  match _read : job.readBatch columns rows firstBatch with
  | .error err => ([], .error err)
  | .ok (batch, none) => (batch.toList, .ok ())
  | .ok (batch, some rest) =>
    let (later, outcome) := readBatches columns rest false
    (batch.toList ++ later, outcome)
termination_by rows.length
decreasing_by exact length_rest_lt _read

variable (job) in
/-- `execute_streaming_batched` with a callback that takes every batch. -/
def executeStreamingBatched : List Bytes × Except OdbcError Unit :=
  match job.openCursor with
  | .error err => ([], .error err)
  | .ok none => ([], .ok ())
  | .ok (some columns) => job.readBatches columns job.driver.first.rows true

variable (job) in
/-- The stream that `start_batched_stream` or `start_async_stream` puts before its consumer. -/
def stream (mode : WorkerMode) (chunkSize : Nat) : LiveStream :=
  if job.poisoned then LiveStream.start mode [] WorkerExit.poisoned.closing chunkSize
  else LiveStream.start mode job.executeStreamingBatched.1
    (lastMessage job.executeStreamingBatched.2) chunkSize

/-! ## The thread -/

variable (job) in
/-- So many turns without a cancellation: the messages to send, and where the thread stands. -/
def turns : Nat → WorkerThread → List BatchedMessage × WorkerThread
  | 0, thread => ([], thread)
  | count + 1, thread =>
    let (messages, thread) := job.turn false thread
    let (later, thread) := turns count thread
    (messages ++ later, thread)

/-- The thread has sent the batches and has left with the end of the call. -/
def Sends (outcome : List Bytes × Except OdbcError Unit)
    (sent : List BatchedMessage × WorkerThread) : Prop :=
  sent.1 = outcome.1.map .batch ++ (lastMessage outcome.2).messages ∧
    ∃ exit, sent.2 = .returned exit false

theorem turns_reading (columns : List ColumnMetadata) (rows : List RawRow) (firstBatch : Bool) :
    ∃ count, Sends (job.readBatches columns rows firstBatch)
      (job.turns count (.reading columns rows firstBatch)) := by
  fun_induction readBatches job columns rows firstBatch with
  | case1 rows firstBatch err read =>
      refine ⟨1, ?_, .failed err, ?_⟩
      · simp [turns, turn, read, leave, WorkerExit.closing]
      · simp [turns, turn, read, leave]
  | case2 rows firstBatch batch read =>
      refine ⟨1, ?_, .finished, ?_⟩
      · simp [turns, turn, read, leave, WorkerExit.closing]
      · simp [turns, turn, read, leave]
  | case3 rows firstBatch batch rest read later outcome same ih =>
      obtain ⟨count, messages, left⟩ := ih
      refine ⟨count + 1, ?_, ?_⟩
      · simp only [turns, turn, read, Bool.false_eq_true, if_false, messages, same,
          List.map_append, List.append_assoc]
      · simpa only [turns, turn, read, Bool.false_eq_true, if_false] using left

/-- Without a cancellation the thread's turns are the call. -/
theorem turns_opening (mode : WorkerMode) (chunkSize : Nat) :
    ∃ count exit, (job.turns count .opening).2 = .returned exit false ∧
      (job.turns count .opening).1 = (job.stream mode chunkSize).worker := by
  rw [stream]
  cases poisoned : job.poisoned with
  | true =>
      refine ⟨1, .poisoned, ?_, ?_⟩
      · simp [turns, turn, poisoned, leave]
      · simp [turns, turn, poisoned, leave, LiveStream.start]
  | false =>
      rw [if_neg Bool.false_ne_true, LiveStream.start, executeStreamingBatched]
      cases opened : job.openCursor with
      | error err =>
          refine ⟨1, .failed err, ?_, ?_⟩
          · simp [turns, turn, poisoned, opened, leave]
          · simp [turns, turn, poisoned, opened, leave, WorkerExit.closing]
      | ok cursor =>
          cases cursor with
          | none =>
              refine ⟨1, .finished, ?_, ?_⟩
              · simp [turns, turn, poisoned, opened, leave]
              · simp [turns, turn, poisoned, opened, leave, WorkerExit.closing]
          | some columns =>
              obtain ⟨count, messages, exit, left⟩ :=
                @turns_reading job columns job.driver.first.rows true
              refine ⟨count + 1, exit, ?_, ?_⟩
              · simpa only [turns, turn, poisoned, opened, Bool.false_eq_true, if_false] using left
              · simpa only [turns, turn, poisoned, opened, Bool.false_eq_true, if_false,
                  List.nil_append] using messages

/-! ## A cursor that can be read -/

theorem readRows_eq {count : Nat} (read : rows.mapM (readRow columns) = .ok cells)
    (last : job.driver.first.fetched = .ok ()) :
    job.readRows columns count rows = .ok (cells.take count, rows.drop count) := by
  induction count generalizing rows cells with
  | zero => rfl
  | succ count ih =>
      rw [mapM_eq_ok_iff] at read
      cases read with
      | nil => rw [readRows, last]; rfl
      | @cons row first rows later head tail =>
          rw [readRows, head, ok_bind, ih (mapM_eq_ok_iff.mpr tail), ok_bind]
          rfl

/-- The portions of a cursor's rows; without rows there is one portion, and it is empty. -/
def rowBatches (fetchSize : Nat) (rows : List (List Cell)) : List (List (List Cell)) :=
  if rows = [] then [[]] else portions fetchSize rows

theorem rowBatches_ne_nil (fetchSize : Nat) (rows : List (List Cell)) :
    rowBatches fetchSize rows ≠ [] := by
  rw [rowBatches]
  split_ifs with empty
  · exact List.cons_ne_nil _ _
  · exact mt portions_eq_nil_iff.mp empty

theorem flatten_rowBatches (fetchSize : Nat) (rows : List (List Cell)) :
    (rowBatches fetchSize rows).flatten = rows := by
  rw [rowBatches]
  split_ifs with empty
  · exact empty.symm
  · exact flatten_portions fetchSize rows

theorem length_le_of_mem_rowBatches {fetchSize : Nat} {rows batch : List (List Cell)}
    (member : batch ∈ rowBatches fetchSize rows) : batch.length ≤ max fetchSize 1 := by
  rw [rowBatches] at member
  split_ifs at member with empty
  · rw [List.mem_singleton.mp member]
    exact Nat.zero_le _
  · exact length_le_of_mem_portions member

/-- What a batch is encoded as. -/
def batchBytes (columns : List ColumnMetadata) (rows : List (List Cell)) : Bytes :=
  messageBytes ⟨columns, rows⟩

/-- The messages of a cursor's rows. -/
def batchMessages (fetchSize : Nat) (buffer : RowBuffer) : List Bytes :=
  (rowBatches fetchSize buffer.rows).map (batchBytes buffer.columns)

/-- The encoder accepts the columns with these rows. -/
def EncoderAccepts (columns : List ColumnMetadata) (rows : List (List Cell)) : Prop :=
  ∃ bytes, RowBufferEncoder.tryEncode ⟨columns, rows⟩ = .ok bytes

theorem EncoderAccepts.encodeRowBuffer {rows : List (List Cell)}
    (accepted : EncoderAccepts columns rows) :
    Streaming.encodeRowBuffer ⟨columns, rows⟩ = .ok (batchBytes columns rows) := by
  obtain ⟨bytes, encoded⟩ := accepted
  obtain ⟨-, rfl⟩ := RowBufferEncoder.tryEncode_eq_ok encoded
  rw [Streaming.encodeRowBuffer, encoded]
  rfl

theorem readRows_nil (last : job.driver.first.fetched = .ok ()) :
    job.readRows columns job.batchSize [] = .ok ([], []) := by
  rw [readRows_eq (mapM_eq_ok_iff.mpr .nil) last, List.take_nil, List.drop_nil]

theorem readBatches_nil (last : job.driver.first.fetched = .ok ()) :
    job.readBatches columns [] false = ([], .ok ()) := by
  have read : job.readBatch columns [] false = .ok (none, none) := by
    rw [readBatch, readRows_nil last]
    rfl
  rw [readBatches]
  split
  · next failed => cases read.symm.trans failed
  · next ended => cases read.symm.trans ended; rfl
  · next goOn => cases read.symm.trans goOn

/-- Behind the first batch the loop hands over the portions of the rows that are left. -/
theorem readBatches_eq (read : rows.mapM (readRow columns) = .ok cells)
    (last : job.driver.first.fetched = .ok ()) (some' : firstBatch = true → cells ≠ [])
    (accepted : ∀ batch ∈ portions job.fetchSize cells, EncoderAccepts columns batch) :
    job.readBatches columns rows firstBatch =
      ((portions job.fetchSize cells).map (batchBytes columns), .ok ()) := by
  fun_induction portions job.fetchSize cells generalizing rows firstBatch with
  | case1 =>
      rw [mapM_eq_ok_iff] at read
      cases read
      cases firstBatch with
      | true => exact absurd rfl (some' rfl)
      | false => exact readBatches_nil last
  | case2 cells nonempty ih =>
      obtain ⟨now, later⟩ := List.forall_mem_cons.mp accepted
      have now : EncoderAccepts columns (cells.take job.batchSize) := now
      have rest : (rows.drop job.batchSize).mapM (readRow columns) =
          .ok (cells.drop job.batchSize) := by
        rw [mapM_eq_ok_iff] at read ⊢
        exact List.forall₂_drop _ read
      have batch : job.readBatch columns rows firstBatch =
          .ok (some (batchBytes columns (cells.take job.batchSize)),
            some (rows.drop job.batchSize)) := by
        have taken : (cells.take job.batchSize).isEmpty = false := by
          rw [List.isEmpty_eq_false_iff, ne_eq, List.take_eq_nil_iff, not_or]
          exact ⟨by rw [batchSize]; omega, nonempty⟩
        rw [readBatch, readRows_eq read last, ok_bind]
        simp only [taken, Bool.false_eq_true, if_false]
        rw [now.encodeRowBuffer]
        rfl
      rw [readBatches]
      split
      · next failed => cases batch.symm.trans failed
      · next ended => cases batch.symm.trans ended
      · next goOn =>
          cases batch.symm.trans goOn
          rw [ih rest (by rintro ⟨⟩) later]
          rfl

/-- The statement has a cursor with the buffer's columns and rows, and every batch of them can
be encoded. -/
structure ReadsAs (job : BatchedJob) (buffer : RowBuffer) : Prop where
  connected : job.poisoned = false
  opened : job.openCursor = .ok (some buffer.columns)
  rows : job.driver.first.rows.mapM (readRow buffer.columns) = .ok buffer.rows
  last : job.driver.first.fetched = .ok ()
  accepted : ∀ batch ∈ rowBatches job.fetchSize buffer.rows, EncoderAccepts buffer.columns batch

namespace ReadsAs

variable {buffer : RowBuffer}

/-- The call hands over the batches of the cursor, and nothing fails. -/
theorem executeStreamingBatched (reads : ReadsAs job buffer) :
    job.executeStreamingBatched = (batchMessages job.fetchSize buffer, .ok ()) := by
  have accepted := reads.accepted
  rw [BatchedJob.executeStreamingBatched, reads.opened, batchMessages]
  rw [rowBatches] at accepted ⊢
  split_ifs at accepted ⊢ with empty
  · have rows := mapM_eq_ok_iff.mp reads.rows
    rw [empty, List.forall₂_nil_right_iff] at rows
    have batch : job.readBatch buffer.columns [] true =
        .ok (some (batchBytes buffer.columns []), none) := by
      rw [readBatch, readRows_nil reads.last, ok_bind]
      simp only [List.isEmpty_nil, if_true]
      rw [(accepted [] List.mem_cons_self).encodeRowBuffer]
      rfl
    simp only [rows]
    rw [readBatches]
    split
    · next failed => cases batch.symm.trans failed
    · next ended => cases batch.symm.trans ended; rfl
    · next goOn => cases batch.symm.trans goOn
  · exact readBatches_eq reads.rows reads.last (fun _ => empty) accepted

theorem stream (reads : ReadsAs job buffer) (mode : WorkerMode) (chunkSize : Nat) :
    job.stream mode chunkSize =
      LiveStream.start mode (batchMessages job.fetchSize buffer) .done chunkSize := by
  rw [BatchedJob.stream, reads.connected, reads.executeStreamingBatched]
  rfl

/-- A row is read with one cell for every column. -/
theorem rectangular (reads : ReadsAs job buffer) : buffer.Rectangular := by
  intro row member
  obtain ⟨raw, -, read⟩ := exists_of_mem_mapM_eq_ok reads.rows member
  have cells := (mapM_eq_ok_iff.mp read).length_eq
  rw [← cells, List.length_zipIdx]

end ReadsAs

end BatchedJob

end OdbcFast.Native
