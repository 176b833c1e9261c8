import OdbcFast.Verification.EngineAnswers
import OdbcFast.Verification.StreamedRows

/-!
# What the engine sends on a stream

A result set is sent as messages that have its columns and the next of its rows. A reader that
meets the answers of such a stream gets so many of the messages, and something breaks the stream
or nothing does: `StreamReader.report` says so from the answers alone. The two loops of the
package do as it says, and the messages of a stream that was not broken are put together to the
rows that were sent.
-/

namespace OdbcFast.Verification

open Wire Native OdbcFast.Dart

/-! ## What is sent -/

/-- A result set on a stream: its columns, and its rows in the batches they are sent in. -/
structure EngineStream where
  columns : List Native.ColumnMetadata
  batches : List (List (List Cell))

namespace EngineStream

variable (stream : EngineStream)

/-- All rows under the columns. -/
def whole : RowBuffer := ⟨stream.columns, stream.batches.flatten⟩

def frames : List Bytes := stream.batches.map fun rows => messageBytes ⟨stream.columns, rows⟩

/-- Every batch is a message, and columns are told by some batch. -/
structure WellFormed : Prop where
  writable : ∀ rows ∈ stream.batches, RowsWritable ⟨stream.columns, rows⟩
  told : stream.batches = [] → stream.columns = []

def receivedChunks : List ParsedRowBuffer :=
  stream.batches.map fun rows => receivedBuffer ⟨stream.columns, rows⟩

variable {stream}

theorem WellFormed.parsedAs (wellFormed : stream.WellFormed) (library : DecompressLibrary) :
    ParsedAs library stream.frames stream.receivedChunks := by
  rw [ParsedAs, frames, receivedChunks, List.forall₂_map_left_iff, List.forall₂_map_right_iff,
    List.forall₂_same]
  intro rows member
  obtain ⟨rectangular, encodable⟩ := wellFormed.writable rows member
  exact Dart.parse_messageBytes rectangular encodable

theorem WellFormed.drain (wellFormed : stream.WellFormed) :
    messageFraming.drain stream.frames.flatten = (stream.frames, []) := by
  have whole : ∀ frame ∈ stream.frames, messageFraming.IsFrame frame := by
    rw [frames, List.forall_mem_map]
    exact fun rows member => isFrame_messageBytes (wellFormed.writable rows member).encodable
  have drained := Framing.drain_frames_append whole messageFraming.unfinished_nil
  rwa [List.append_nil] at drained

/-- The chunks are put together to all rows. -/
theorem WellFormed.collectChunks (wellFormed : stream.WellFormed) :
    Dart.collectChunks stream.receivedChunks =
      EngineAnswer.received { rows := some stream.whole } := by
  obtain ⟨columns, batches⟩ := stream
  have rows : (receivedChunks ⟨columns, batches⟩).flatMap ParsedRowBuffer.rows =
      batches.flatten.map (receivedRow columns) := by
    rw [List.map_flatten, receivedChunks, List.flatMap_map]
    rfl
  have names : ((receivedChunks ⟨columns, batches⟩).find? fun chunk => chunk.columns ≠ []).elim []
      (fun chunk => chunk.columns.map Dart.ColumnMetadata.name) =
        columns.map fun col => (receivedColumn col).name := by
    cases batches with
    | nil =>
        obtain rfl : columns = [] := wellFormed.told rfl
        rfl
    | cons first later =>
        cases columns with
        | nil =>
            have none : ∀ chunk ∈ receivedChunks ⟨[], first :: later⟩, chunk.columns = [] := by
              rw [receivedChunks, List.forall_mem_map]
              exact fun _ _ => rfl
            rw [List.find?_eq_none.mpr fun chunk member => by simp [none chunk member]]
            rfl
        | cons col columns =>
            rw [receivedChunks, List.map_cons, List.find?_cons_of_pos (by simp [receivedBuffer])]
            simp [receivedBuffer, receivedColumn]
  have result : EngineAnswer.received { rows := some (whole ⟨columns, batches⟩) } =
      { columns := columns.map fun col => (receivedColumn col).name
        rows := batches.flatten.map (receivedRow columns)
        rowCount := batches.flatten.length } := by
    simp only [EngineAnswer.received, Option.elim_some, ParsedRowBuffer.rowSet, receivedBuffer,
      whole, RowBuffer.rowCount, List.map_map, List.map_nil]
    rfl
  rw [Dart.collectChunks, rows, names, result, List.length_map]

end EngineStream

/-- The batches of a cursor are such a stream. -/
theorem batches_written {job : BatchedJob} {buffer : RowBuffer} (reads : job.ReadsAs buffer) :
    ∃ stream : EngineStream, stream.WellFormed ∧ stream.whole = buffer ∧
      job.executeStreamingBatched = (stream.frames, .ok ()) := by
  refine ⟨⟨buffer.columns, BatchedJob.rowBatches job.fetchSize buffer.rows⟩, ⟨?_, ?_⟩, ?_, ?_⟩
  · intro rows member
    obtain ⟨encodable, rectangular⟩ := batch_parts reads member
    exact ⟨rectangular, encodable⟩
  · intro none
    exact absurd none (BatchedJob.rowBatches_ne_nil _ _)
  · rw [EngineStream.whole, BatchedJob.flatten_rowBatches]
  · exact reads.executeStreamingBatched

/-- A result that is encoded whole is a stream of one message. -/
theorem encoded_written {buffer : RowBuffer} {bytes : Bytes} (rectangular : buffer.Rectangular)
    (encoded : RowBufferEncoder.tryEncode buffer = .ok bytes) :
    ∃ stream : EngineStream, stream.WellFormed ∧ stream.whole = buffer ∧
      stream.batches.length = 1 ∧ bytes = stream.frames.flatten := by
  obtain ⟨encodable, rfl⟩ := RowBufferEncoder.tryEncode_eq_ok encoded
  refine ⟨⟨buffer.columns, [buffer.rows]⟩, ⟨?_, nofun⟩, ?_, rfl, ?_⟩
  · rintro rows member
    obtain rfl := List.mem_singleton.mp member
    exact ⟨rectangular, encodable⟩
  · rw [EngineStream.whole, List.flatten_singleton]
  · exact (List.append_nil _).symm

/-! ## How it is read -/

/-- The stream is sent on the native one: what was fetched is the beginning of its messages, and
all of them when every fetch was answered. -/
structure EngineStream.SentOn (stream : EngineStream) (script : FetchScript) : Prop where
  wellFormed : stream.WellFormed
  beginning : script.fetched <+: stream.frames.flatten
  whole : ∀ data, script.delivered = some data → data = stream.frames.flatten

/-- How a stream is read: what is thrown when its start or a fetch is refused, how much may be
held, and which messages are cut off from what is held. -/
structure StreamReader where
  start : Thrown
  refused : Option String → Thrown
  exceeds : Bytes → Bool
  cut : Bytes → List Bytes × Bytes

/-- The messages are cut off as soon as they are complete. -/
def batchedReader (backend : Backend) (maxBufferBytes : Option Int)
    (lastError : Completion String) : StreamReader where
  start := refusal backend "Failed to start batched stream" none lastError
  refused error := refusal backend (match backend with
    | .sync => "Stream fetch failed"
    | .async => "Batched stream fetch failed") error lastError
  exceeds := overLimit backend maxBufferBytes
  cut := messageFraming.drain

/-- Everything is held to the end. -/
def wholeReader (backend : Backend) (maxBufferBytes : Option Int) (lastError : Completion String) :
    StreamReader where
  start := refusal backend "Failed to start stream" none lastError
  refused error := refusal backend "Stream fetch failed" error lastError
  exceeds := overLimit backend maxBufferBytes
  cut held := ([], held)

@[simp] theorem batchedReader_exceeds (backend : Backend) (maxBufferBytes : Option Int)
    (lastError : Completion String) :
    (batchedReader backend maxBufferBytes lastError).exceeds = overLimit backend maxBufferBytes :=
  rfl

@[simp] theorem wholeReader_exceeds (backend : Backend) (maxBufferBytes : Option Int)
    (lastError : Completion String) :
    (wholeReader backend maxBufferBytes lastError).exceeds = overLimit backend maxBufferBytes :=
  rfl

namespace StreamReader

variable (reader : StreamReader)

/-- The messages that are cut off, and what breaks the stream: a fetch that is refused or throws,
or more bytes than may be held. -/
def reads : Bytes → FetchScript → List Bytes × Option Thrown
  | _, .refused error => ([], some (reader.refused error))
  | _, .thrown thrown => ([], some thrown)
  | held, .last data =>
    if data ≠ [] ∧ reader.exceeds (held ++ data) then ([], some bufferExceeded)
    else ((reader.cut (held ++ data)).1, none)
  | held, .more first data rest =>
    if reader.exceeds (held ++ first :: data) then ([], some bufferExceeded)
    else
      let (frames, held) := reader.cut (held ++ first :: data)
      let (later, fault) := reads held rest
      (frames ++ later, fault)

def report (answers : StreamAnswers) : List Bytes × Option Thrown :=
  match answers.start with
  | .error thrown => ([], some thrown)
  | .ok 0 => ([], some reader.start)
  | .ok _ => reader.reads [] answers.fetches

/-- What the reader of the stream is thrown; a stream that was opened is closed last. -/
def raised (answers : StreamAnswers) : Option Thrown :=
  match answers.start, answers.close with
  | .ok (_ + 1), .error thrown => some thrown
  | _, _ => (reader.report answers).2

/-- An exception comes before the first message. -/
def fallsBack (answers : StreamAnswers) : Bool :=
  match (reader.report answers).1, reader.raised answers with
  | [], some (.exception _) => true
  | _, _ => false

variable {reader}

/-- Without a fault every fetch was answered. -/
theorem delivered_of_reads {pending : Bytes} {script : FetchScript}
    (sound : (reader.reads pending script).2 = none) :
    script.delivered = some (script.fetched) := by
  induction script generalizing pending with
  | refused error => cases sound
  | thrown thrown => cases sound
  | last data => rfl
  | more first now rest ih =>
      rw [reads] at sound
      split_ifs at sound
      rw [FetchScript.delivered, ih sound]
      rfl

/-- A reader that is thrown nothing has met an opened stream whose fetches are all answered. -/
theorem delivered_of_raised {answers : StreamAnswers} (sound : reader.raised answers = none) :
    (reader.report answers).2 = none ∧ answers.produced = answers.fetches.delivered ∧
      answers.fetches.delivered = some answers.fetches.fetched := by
  obtain ⟨start, fetches, lastError, close⟩ := answers
  cases start with
  | error thrown => cases sound
  | ok streamId =>
      cases streamId with
      | zero => cases sound
      | succ streamId =>
          cases close with
          | error thrown => cases sound
          | ok closed => exact ⟨sound, rfl, delivered_of_reads sound⟩

end StreamReader

section

variable {backend : Backend} {library : DecompressLibrary} {maxBufferBytes : Option Int}
  {lastError : Completion String} {script : FetchScript} {pending : Bytes}
  {chunks : List ParsedRowBuffer}

/-- A loop over messages that are understood ends as it has to: with the fault, or with all of
them. -/
structure RunsAs (fault : Option Thrown) (chunks : List ParsedRowBuffer) (streamed : Streamed) :
    Prop where
  broken : ∀ thrown, fault = some thrown → streamed.ending = .broken thrown
  finished : fault = none → streamed = ⟨chunks, .finished⟩

theorem runsAs_broken (thrown : Thrown) (chunks : List ParsedRowBuffer) :
    RunsAs (some thrown) chunks { ending := .broken thrown } :=
  ⟨by rintro _ ⟨⟩; rfl, nofun⟩

theorem runsAs_finished (chunks : List ParsedRowBuffer) :
    RunsAs none chunks ⟨chunks, .finished⟩ := ⟨nofun, fun _ => rfl⟩

/-- More messages in front. -/
theorem RunsAs.behind {fault : Option Thrown} {later : List ParsedRowBuffer} {streamed : Streamed}
    (runs : RunsAs fault later streamed) (first : List ParsedRowBuffer) :
    RunsAs fault (first ++ later) (.behind first streamed) where
  broken thrown same := runs.broken thrown same
  finished sound := by
    rw [runs.finished sound]
    rfl

/-- The batched loop cuts off what the framing does. -/
theorem fetchBatches_runsAs
    (parsed : ParsedAs library (messageFraming.drain (pending ++ script.fetched)).1 chunks)
    (whole : ∀ data, script.delivered = some data →
      (messageFraming.drain (pending ++ data)).2 = []) :
    RunsAs ((batchedReader backend maxBufferBytes lastError).reads pending script).2 chunks
        (fetchBatches backend library maxBufferBytes lastError pending script) ∧
      ((fetchBatches backend library maxBufferBytes lastError pending script).chunks = [] ↔
        ((batchedReader backend maxBufferBytes lastError).reads pending script).1 = []) := by
  induction script generalizing pending chunks with
  | refused error => exact ⟨runsAs_broken _ _, iff_of_true rfl rfl⟩
  | thrown thrown => exact ⟨runsAs_broken _ _, iff_of_true rfl rfl⟩
  | last data =>
      have parsed : ParsedAs library (messageFraming.drain (pending ++ data)).1 chunks := parsed
      rw [fetchBatches, StreamReader.reads, batchedReader_exceeds]
      by_cases exceeded : data ≠ [] ∧ overLimit backend maxBufferBytes (pending ++ data) = true
      · rw [if_pos exceeded, if_pos exceeded]
        exact ⟨runsAs_broken _ _, iff_of_true rfl rfl⟩
      · rw [if_neg exceeded, if_neg exceeded, drainMessages_eq parsed, whole data rfl]
        exact ⟨runsAs_finished chunks, parsed.eq_nil_iff⟩
  | more first now rest ih =>
      rw [FetchScript.fetched, ← List.append_assoc, Framing.drain_append] at parsed
      obtain ⟨front, back, rfl, parsedNow, parsedLater⟩ := parsed.split
      obtain ⟨runs, silent_iff⟩ := ih parsedLater (by
        intro data delivered
        have nothing := whole (first :: now ++ data) (by
          rw [FetchScript.delivered, delivered]
          rfl)
        rwa [← List.append_assoc, Framing.drain_append] at nothing)
      rw [fetchBatches, StreamReader.reads, batchedReader_exceeds]
      by_cases exceeded : overLimit backend maxBufferBytes (pending ++ first :: now) = true
      · rw [if_pos exceeded, if_pos exceeded]
        exact ⟨runsAs_broken _ _, iff_of_true rfl rfl⟩
      · rw [if_neg exceeded, if_neg exceeded, drainMessages_eq parsedNow]
        refine ⟨runs.behind front, ?_⟩
        change front ++ _ = [] ↔ (messageFraming.drain (pending ++ first :: now)).1 ++ _ = []
        rw [List.append_eq_nil_iff, List.append_eq_nil_iff, parsedNow.eq_nil_iff]
        exact and_congr_right fun _ => silent_iff

/-- The other loop reads at most one message. -/
theorem fetchAll_runsAs (whole : ∀ data, script.delivered = some data →
      pending ++ data = [] ∧ chunks = [] ∨ pending ++ data ≠ [] ∧ ∃ chunk, chunks = [chunk] ∧
        BinaryProtocolParser.parse library (.fromList (pending ++ data)) = .ok chunk) :
    RunsAs ((wholeReader backend maxBufferBytes lastError).reads pending script).2 chunks
      (fetchAll backend library maxBufferBytes lastError pending script) := by
  induction script generalizing pending with
  | refused error => exact runsAs_broken _ _
  | thrown thrown => exact runsAs_broken _ _
  | last data =>
      rw [fetchAll, StreamReader.reads, wholeReader_exceeds]
      by_cases exceeded : data ≠ [] ∧ overLimit backend maxBufferBytes (pending ++ data) = true
      · rw [if_pos exceeded, if_pos exceeded]
        exact runsAs_broken _ _
      · rw [if_neg exceeded, if_neg exceeded]
        obtain ⟨empty, rfl⟩ | ⟨some, chunk, rfl, parsed⟩ := whole data rfl
        · rw [if_pos empty]
          exact runsAs_finished []
        · rw [if_neg some, parsed]
          exact runsAs_finished [chunk]
  | more first now rest ih =>
      have later := @ih (pending ++ first :: now) (by
        intro data delivered
        have whole := whole (first :: now ++ data) (by
          rw [FetchScript.delivered, delivered]
          rfl)
        rwa [← List.append_assoc] at whole)
      rw [fetchAll, StreamReader.reads, wholeReader_exceeds]
      by_cases exceeded : overLimit backend maxBufferBytes (pending ++ first :: now) = true
      · rw [if_pos exceeded, if_pos exceeded]
        exact runsAs_broken _ _
      · rw [if_neg exceeded, if_neg exceeded]
        exact later

end

/-! ## Whole streams -/

/-- What a reader of a stream is told in the end: what was thrown, or all messages. -/
structure EngineStream.ToldBy (stream : EngineStream) (raised : Option Thrown)
    (streamed : Streamed) : Prop where
  thrown : ∀ thrown, raised = some thrown → streamed.ending.completion = .error thrown
  finished : raised = none → streamed.ending = .finished ∧ streamed.chunks = stream.receivedChunks

section

variable {backend : Backend} {maxBufferBytes : Option Int} {answers : StreamAnswers}
  {stream : EngineStream}

theorem EngineStream.toldBy_broken (stream : EngineStream) (thrown : Thrown) :
    stream.ToldBy (some thrown) { ending := .broken thrown } :=
  ⟨by rintro _ ⟨⟩; rfl, nofun⟩

/-- The reader falls back as it has to when it sees its first message as it has to. -/
theorem EngineStream.ToldBy.fallsBack_eq {reader : StreamReader} {streamed : Streamed}
    (told : stream.ToldBy (reader.raised answers) streamed)
    (silent_iff : streamed.chunks = [] ↔ (reader.report answers).1 = []) :
    streamed.fallsBack = reader.fallsBack answers := by
  obtain ⟨chunks, ending⟩ := streamed
  rw [StreamReader.fallsBack, Streamed.fallsBack]
  cases raised : reader.raised answers with
  | none =>
      obtain ⟨rfl, -⟩ := told.finished raised
      cases chunks <;> cases (reader.report answers).1 <;> rfl
  | some thrown =>
      dsimp only
      rw [told.thrown thrown raised]
      cases chunks with
      | nil =>
          rw [silent_iff.mp rfl]
          cases thrown <;> rfl
      | cons chunk chunks =>
          have some : (reader.report answers).1 ≠ [] := fun none => nomatch silent_iff.mpr none
          cases reported : (reader.report answers).1 with
          | nil => cases some reported
          | cons frame frames => cases thrown <;> rfl

/-- Closing comes last. -/
theorem RunsAs.toldBy_closing {fault : Option Thrown} {chunks : List ParsedRowBuffer}
    {streamed : Streamed} (runs : RunsAs fault chunks streamed)
    (all : fault = none → chunks = stream.receivedChunks) (close : Completion Bool) :
    stream.ToldBy (match close with
      | .error thrown => some thrown
      | .ok _ => fault) (streamed.closing close) := by
  cases close with
  | error thrown =>
      refine ⟨?_, nofun⟩
      rintro _ ⟨⟩
      obtain ⟨chunks', ending⟩ := streamed
      cases ending <;> rfl
  | ok closed =>
      refine ⟨fun thrown same => ?_, fun sound => ?_⟩
      · change streamed.ending.completion = _
        rw [runs.broken thrown same]
        rfl
      · change streamed.ending = _ ∧ streamed.chunks = _
        rw [runs.finished sound]
        exact ⟨rfl, all sound⟩

theorem EngineStream.SentOn.parsed {script : FetchScript} (sent : stream.SentOn script)
    (library : DecompressLibrary) :
    ∃ chunks, ParsedAs library (messageFraming.drain ([] ++ script.fetched)).1 chunks ∧
      ∀ data, script.delivered = some data → chunks = stream.receivedChunks := by
  obtain ⟨more, whole⟩ := sent.beginning
  have drained := sent.wellFormed.drain
  have parsed := sent.wellFormed.parsedAs library
  rw [List.nil_append]
  rw [← whole, Framing.drain_append, Prod.mk.injEq] at drained
  rw [← drained.1] at parsed
  obtain ⟨front, back, split, parsedFront, -⟩ := parsed.split
  refine ⟨front, parsedFront, fun data delivered => ?_⟩
  have all := sent.whole data delivered
  rw [← FetchScript.fetched_of_delivered delivered] at all
  rw [all, sent.wellFormed.drain] at parsedFront
  exact parsedFront.unique (sent.wellFormed.parsedAs library)

/-- What was delivered tells the messages. -/
theorem EngineStream.SentOn.unique {other : EngineStream} {script : FetchScript} {data : Bytes}
    (sent : stream.SentOn script) (sent' : other.SentOn script)
    (delivered : script.delivered = some data) : stream.receivedChunks = other.receivedChunks := by
  have framed := sent.wellFormed.drain
  rw [← sent.whole data delivered, sent'.whole data delivered, sent'.wellFormed.drain,
    Prod.mk.injEq] at framed
  have parsed := sent.wellFormed.parsedAs noLibrary
  rw [← framed.1] at parsed
  exact parsed.unique (sent'.wellFormed.parsedAs noLibrary)

/-- The batched stream; whether a message comes before the end is told by the framing, too. -/
theorem EngineStream.SentOn.toldBy_batched (sent : stream.SentOn answers.fetches)
    (library : DecompressLibrary) (backend : Backend) (maxBufferBytes : Option Int) :
    stream.ToldBy ((batchedReader backend maxBufferBytes answers.lastError).raised answers)
        (streamQueryBatched backend library maxBufferBytes answers) ∧
      ((streamQueryBatched backend library maxBufferBytes answers).chunks = [] ↔
        ((batchedReader backend maxBufferBytes answers.lastError).report answers).1 = []) := by
  obtain ⟨start, fetches, lastError, close⟩ := answers
  cases start with
  | error thrown => exact ⟨stream.toldBy_broken thrown, iff_of_true rfl rfl⟩
  | ok streamId =>
      cases streamId with
      | zero => exact ⟨stream.toldBy_broken _, iff_of_true rfl rfl⟩
      | succ streamId =>
          obtain ⟨chunks, parsed, all⟩ := sent.parsed library
          obtain ⟨runs, silent_iff⟩ := @fetchBatches_runsAs backend library maxBufferBytes
            lastError fetches [] chunks parsed (by
              intro data delivered
              rw [sent.whole data delivered, List.nil_append, sent.wellFormed.drain])
          have told := runs.toldBy_closing
            (fun sound => all _ (StreamReader.delivered_of_reads sound)) close
          rw [← Streamed.chunks_closing close] at silent_iff
          cases close with
          | error thrown => exact ⟨told, silent_iff⟩
          | ok closed => exact ⟨told, silent_iff⟩

/-- One message at most is nothing or the message. -/
theorem EngineStream.WellFormed.single (wellFormed : stream.WellFormed)
    (library : DecompressLibrary) (single : stream.batches.length ≤ 1) :
    stream.frames.flatten = [] ∧ stream.receivedChunks = [] ∨
      stream.frames.flatten ≠ [] ∧ ∃ chunk, stream.receivedChunks = [chunk] ∧
        BinaryProtocolParser.parse library (.fromList stream.frames.flatten) = .ok chunk := by
  have parsed := wellFormed.parsedAs library
  obtain ⟨columns, batches⟩ := stream
  match batches, single with
  | [], _ => exact .inl ⟨rfl, rfl⟩
  | [rows], _ =>
      have frame : (EngineStream.frames ⟨columns, [rows]⟩).flatten =
          messageBytes ⟨columns, rows⟩ := List.append_nil _
      refine .inr ⟨?_, _, rfl, ?_⟩
      · intro empty
        have length := length_messageBytes ⟨columns, rows⟩
        rw [← frame, empty, List.length_nil] at length
        omega
      · rw [frame]
        exact (List.forall₂_cons.mp parsed).1

/-- The stream that is read whole, which carries one message at most. -/
theorem EngineStream.SentOn.toldBy_whole (sent : stream.SentOn answers.fetches)
    (single : stream.batches.length ≤ 1) (library : DecompressLibrary) (backend : Backend)
    (maxBufferBytes : Option Int) :
    stream.ToldBy ((wholeReader backend maxBufferBytes answers.lastError).raised answers)
      (streamQuery backend library maxBufferBytes answers) := by
  obtain ⟨start, fetches, lastError, close⟩ := answers
  cases start with
  | error thrown => exact stream.toldBy_broken thrown
  | ok streamId =>
      cases streamId with
      | zero => exact stream.toldBy_broken _
      | succ streamId =>
          have runs := @fetchAll_runsAs backend library maxBufferBytes lastError fetches []
            stream.receivedChunks (by
              intro data delivered
              rw [List.nil_append, sent.whole data delivered]
              exact sent.wellFormed.single library single)
          have told := runs.toldBy_closing (fun _ => rfl) close
          cases close with
          | error thrown => exact told
          | ok closed => exact told

end

end OdbcFast.Verification
