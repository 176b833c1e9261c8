import OdbcFast.Native.Engine.Streaming
import OdbcFast.Native.Ffi.StreamKind

/-!
# The worker of a batched stream

The worker prepares and executes the statement and then reads the cursor batch by
batch: it looks at the cancellation flag, reads up to `fetch_size` rows, and hands the
encoded batch to the channel, where it may have to wait. A thread between two sends is
one turn, so a cancellation can be requested between any two turns.

When the call returns, the thread sends one last message. It tells a cancellation from
a failure by the text of the error.
-/

namespace OdbcFast.Native

open Wire

/-- `str::contains`. -/
def strContains (text pattern : String) : Bool :=
  text.toList.tails.any fun rest => pattern.toList.isPrefixOf rest

/-- The last message of `start_batched_stream`'s and `start_async_stream`'s worker. -/
def lastMessage : Except OdbcError Unit → Closing
  | .ok () => .done
  | .error err =>
    let msg := err.display
    if strContains msg "cancelled" then .cancelled else .error msg

/-- How the thread ends: without the connection, which a poisoned lock keeps from it, behind
the last row, at the cancellation flag, or with an error that was raised on the way. -/
inductive WorkerExit where
  | poisoned
  | finished
  | cancelled
  | failed (err : OdbcError)
  deriving DecidableEq, Repr

def WorkerExit.closing : WorkerExit → Closing
  | .poisoned => .error "Failed to lock connection"
  | .finished => lastMessage (.ok ())
  | .cancelled => lastMessage (.error (.internalError "Stream cancelled"))
  | .failed err => lastMessage (.error err)

theorem WorkerExit.closing_failed {err : OdbcError} :
    (WorkerExit.failed err).closing =
      if strContains err.display "cancelled" then .cancelled else .error err.display := rfl

/-- Rows as a cursor returns them. -/
abbrev RawRow := Nat → Except OdbcError (Option CellReader.RawCell)

/-- Where the thread stands. -/
inductive WorkerThread where
  | opening
  | reading (columns : List ColumnMetadata) (rows : List RawRow) (firstBatch : Bool)
  | returned (exit : WorkerExit) (requested : Bool)

/-- What the worker was started on: whether the connection's lock is poisoned, the driver and
the number of rows in a batch. -/
structure BatchedJob where
  poisoned : Bool := false
  driver : Driver
  fetchSize : Nat

namespace BatchedJob

variable (job : BatchedJob)

def batchSize : Nat := max job.fetchSize 1

/-- The call up to the loop; `none` when the statement has no cursor. -/
def openCursor : Except OdbcError (Option (List ColumnMetadata)) := do
  job.driver.prepare
  let (hasCursor, stmt) ← job.driver.execute
  if hasCursor then
    let cols ← stmt.current.numResultCols
    if cols < 0 then .error (.internalError "Invalid column count")
    else
      let columns ← readColumns OdbcType.fromOdbcSqlType stmt.current cols.toNat
      .ok (some columns)
  else .ok none

/-- Up to `count` rows; `next_row` fails as the driver says behind the last row. -/
def readRows (columns : List ColumnMetadata) :
    Nat → List RawRow → Except OdbcError (List (List Cell) × List RawRow)
  | 0, rows => .ok ([], rows)
  | _ + 1, [] => do
      job.driver.first.fetched
      .ok ([], [])
  | count + 1, row :: rows => do
      let cells ← readRow columns row
      let (more, rest) ← readRows columns count rows
      .ok (cells :: more, rest)

/-- A turn of the loop behind the check of the flag: the batch to send, and the rows that are
left if the loop goes on. -/
def readBatch (columns : List ColumnMetadata) (rows : List RawRow) (firstBatch : Bool) :
    Except OdbcError (Option Bytes × Option (List RawRow)) := do
  let (cells, rest) ← job.readRows columns job.batchSize rows
  if cells.isEmpty then
    if firstBatch then
      let encoded ← Streaming.encodeRowBuffer ⟨columns, []⟩
      .ok (some encoded, none)
    else .ok (none, none)
  else
    let encoded ← Streaming.encodeRowBuffer ⟨columns, cells⟩
    .ok (some encoded, some rest)

/-- The thread ends: behind what it still sends comes its last message. -/
def leave (exit : WorkerExit) (requested : Bool) (batch : Option Bytes) :
    List BatchedMessage × WorkerThread :=
  (batch.toList.map .batch ++ exit.closing.messages, .returned exit requested)

/-- A turn of the thread, with the flag as it is now: the messages to send, and where the
thread stands behind them. -/
def turn (requested : Bool) : WorkerThread → List BatchedMessage × WorkerThread
  | .opening =>
    if job.poisoned then leave .poisoned requested none
    else
      match job.openCursor with
      | .error err => leave (.failed err) requested none
      | .ok none => leave .finished requested none
      | .ok (some columns) => ([], .reading columns job.driver.first.rows true)
  | .reading columns rows firstBatch =>
    if requested then leave .cancelled requested none
    else
      match job.readBatch columns rows firstBatch with
      | .error err => leave (.failed err) requested none
      | .ok (batch, some rest) => (batch.toList.map .batch, .reading columns rest false)
      | .ok (batch, none) => leave .finished requested batch
  | .returned exit requested => ([], .returned exit requested)

/-- A turn sends batches and goes on, or sends them and ends; it ends as cancelled only with
the flag set. -/
theorem turn_cases {thread : WorkerThread} (requested : Bool)
    (busy : ∀ exit asked, thread ≠ .returned exit asked) :
    (∃ batch : Option Bytes, (job.turn requested thread).1 = batch.toList.map .batch ∧
        ∀ exit asked, (job.turn requested thread).2 ≠ .returned exit asked) ∨
      ∃ exit batch, job.turn requested thread = leave exit requested batch ∧
        (exit = .cancelled → requested = true) := by
  cases thread with
  | returned exit asked => exact absurd rfl (busy exit asked)
  | opening =>
      rw [turn]
      split_ifs
      · exact .inr ⟨.poisoned, none, rfl, nofun⟩
      · split
        · exact .inr ⟨.failed _, none, rfl, nofun⟩
        · exact .inr ⟨.finished, none, rfl, nofun⟩
        · exact .inl ⟨none, rfl, nofun⟩
  | reading columns rows firstBatch =>
      rw [turn]
      split_ifs with asked
      · exact .inr ⟨.cancelled, none, rfl, fun _ => asked⟩
      · split
        · exact .inr ⟨.failed _, none, rfl, nofun⟩
        · exact .inl ⟨_, rfl, nofun⟩
        · exact .inr ⟨.finished, _, rfl, nofun⟩

end BatchedJob

/-! ## The thread, the channel and the consumer -/

namespace BatchedStream

open StreamSystem

structure System where
  thread : WorkerThread := .opening
  cancelRequested : Bool := false
  live : LiveStream

inductive Event where
  | turn
  | requestCancel
  | stream (event : StreamSystem.Event)
  deriving DecidableEq, Repr

/-- A thread takes its turn when its messages are sent, and drops its end of the channel
when it has returned. -/
def step (job : BatchedJob) : Event → System → Option (System × LiveStream.Output)
  | .turn, system =>
    match system.thread, system.live.worker with
    | .returned _ _, _ => none
    | _, _ :: _ => none
    | thread, [] =>
      let (messages, thread) := job.turn system.cancelRequested thread
      some ({ system with thread, live := { system.live with worker := messages } }, .worked)
  | .requestCancel, system => some ({ system with cancelRequested := true }, .worked)
  | .stream .hangUp, system =>
    match system.thread with
    | .returned _ _ =>
      (LiveStream.step 1 .hangUp system.live).map fun (live, output) =>
        ({ system with live }, output)
    | _ => none
  | .stream event, system =>
    (LiveStream.step 1 event system.live).map fun (live, output) => ({ system with live }, output)

/-- `start_batched_stream` and `start_async_stream`. -/
def start (mode : WorkerMode) (chunkSize : Nat) : System :=
  { live := ⟨[], mode.kind { chunkSize := max chunkSize 1 }⟩ }

end BatchedStream

end OdbcFast.Native
