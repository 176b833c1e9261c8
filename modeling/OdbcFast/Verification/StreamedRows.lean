import Mathlib.Algebra.Order.Group.Multiset
import Mathlib.Tactic.Abel
import OdbcFast.Native.Engine.StreamingBatched
import OdbcFast.Verification.RowMajor
import OdbcFast.Verification.StreamChunks

/-!
# From a cursor to the rows in Dart

The worker cuts a cursor's rows into batches and encodes each of them, the stream cuts the
messages into chunks, and the Dart loops put the messages together again and parse them.
`yields_iff` says what arrives behind all of this: the rows in order, under the cursor's
columns, in buffers of at most `fetch_size` rows. It fails for column names that are not
ASCII, which the parser spells one character per byte, and for chunks that are larger than
the largest buffer of a fetch.

A `StreamingQuery` hands the buffers on. `streamingQuery_handsOn` says so for every order in which
several producers and the listener take turns.
-/

namespace OdbcFast.Verification

open Wire Native OdbcFast.Dart BatchedJob

variable {job : BatchedJob} {buffer : RowBuffer} {library : DecompressLibrary}
  {mode : WorkerMode} {chunkSize fetchSize : Nat} {maxBufferBytes : Option Int}

/-! ## What is claimed -/

/-- A column under its own name. -/
def shownColumn (col : Native.ColumnMetadata) : Dart.ColumnMetadata :=
  ⟨col.name, col.odbcType.discriminant⟩

/-- The stream has yielded the cursor's rows, and ended well. -/
structure Yields (buffer : RowBuffer) (fetchSize : Nat) (streamed : Streamed) : Prop where
  ending : streamed.ending = .finished
  rows : streamed.chunks.flatMap ParsedRowBuffer.rows = buffer.rows.map (receivedRow buffer.columns)
  columns : ∀ chunk ∈ streamed.chunks, chunk.columns = buffer.columns.map shownColumn ∧
    chunk.columnCount = buffer.columnCount
  short : ∀ chunk ∈ streamed.chunks, chunk.rowCount = chunk.rows.length ∧
    chunk.rows.length ≤ fetchSize
  empty : buffer.rows = [] → ∃ chunk, streamed.chunks = [chunk] ∧ chunk.rows = []

/-- However bytes that end inside a message are cut into chunks, the messages in front of it are
yielded, and then the stream throws a `FormatException`. -/
def StopsInside (library : DecompressLibrary) : Prop :=
  ∀ (frames : List Bytes) (chunks : List ParsedRowBuffer) (rest : Bytes),
    (∀ frame ∈ frames, messageFraming.IsFrame frame) → ParsedAs library frames chunks →
      rest ≠ [] → messageFraming.Unfinished rest →
        ∀ maxBufferBytes, WithinLimit maxBufferBytes (frames.flatten ++ rest) →
          (∀ (backend : Backend) (answers : StreamAnswers), answers.Opened →
            answers.fetches.delivered = some (frames.flatten ++ rest) →
              streamQueryBatched backend library maxBufferBytes answers =
                ⟨chunks, .stopped leftoverBytes⟩) ∧
          ∀ answers : PollAnswers, answers.Opened →
            answers.polls.delivered = some (frames.flatten ++ rest) →
              streamAsync library maxBufferBytes answers = ⟨chunks, .stopped leftoverBytes⟩

/-- No chunk of the cursor's batches is longer than the largest buffer of a fetch. -/
def ChunksFit (job : BatchedJob) (chunkSize : Nat) (buffer : RowBuffer) : Prop :=
  ∀ batch ∈ rowBatches job.fetchSize buffer.rows,
    ((min chunkSize (batchBytes buffer.columns batch).length : Nat) : Int) ≤ maxBufferSize

instance (job : BatchedJob) (chunkSize : Nat) (buffer : RowBuffer) :
    Decidable (ChunksFit job chunkSize buffer) :=
  inferInstanceAs (Decidable (∀ batch ∈ _, _))

/-! ## Messages as frames -/

theorem isFrame_messageBytes (encodable : Encodable buffer) :
    messageFraming.IsFrame (messageBytes buffer) := by
  have header : OccursAt (headerBytes buffer.columnCount buffer.rowCount
      (payloadBytes buffer).length) 0 (messageBytes buffer) := OccursAt.self_append _ _
  obtain ⟨-, -, -, -, sized⟩ :=
    headerBytes_words header encodable.columns encodable.rows encodable.payload
  have length := length_messageBytes buffer
  have long : ¬ (messageBytes buffer).length < BinaryProtocolParser.headerSizeV1 := by
    rw [BinaryProtocolParser.headerSizeV1]
    omega
  rw [Framing.IsFrame, messageFraming]
  simp only [if_neg long, sized]
  rw [length, BinaryProtocolParser.headerSizeV1]

/-- A batch of a cursor as a buffer of its own. -/
theorem batch_parts (reads : ReadsAs job buffer) {batch : List (List Cell)}
    (member : batch ∈ rowBatches job.fetchSize buffer.rows) :
    Encodable ⟨buffer.columns, batch⟩ ∧ RowBuffer.Rectangular ⟨buffer.columns, batch⟩ := by
  obtain ⟨bytes, encoded⟩ := reads.accepted batch member
  refine ⟨(RowBufferEncoder.tryEncode_eq_ok encoded).1, ?_⟩
  intro row inside
  refine reads.rectangular row ?_
  rw [← flatten_rowBatches job.fetchSize buffer.rows]
  exact List.mem_flatten_of_mem member inside

/-- The frames of a stream are the batches. -/
theorem drain_batches (reads : ReadsAs job buffer) :
    messageFraming.drain (batchMessages job.fetchSize buffer).flatten =
      (batchMessages job.fetchSize buffer, []) := by
  have whole : ∀ frame ∈ batchMessages job.fetchSize buffer, messageFraming.IsFrame frame := by
    rw [batchMessages, List.forall_mem_map]
    exact fun batch member => isFrame_messageBytes (batch_parts reads member).1
  have drained := Framing.drain_frames_append whole messageFraming.unfinished_nil
  rwa [List.append_nil] at drained

/-- What the parser makes of the batches. -/
def receivedBatches (fetchSize : Nat) (buffer : RowBuffer) : List ParsedRowBuffer :=
  (rowBatches fetchSize buffer.rows).map fun batch => receivedBuffer ⟨buffer.columns, batch⟩

theorem parsedAs_batches (reads : ReadsAs job buffer) :
    ParsedAs library (batchMessages job.fetchSize buffer)
      (receivedBatches job.fetchSize buffer) := by
  rw [ParsedAs, batchMessages, receivedBatches, List.forall₂_map_left_iff,
    List.forall₂_map_right_iff, List.forall₂_same]
  intro batch member
  obtain ⟨encodable, rectangular⟩ := batch_parts reads member
  exact Dart.parse_messageBytes rectangular encodable

/-! ## What is received -/

theorem received_columns_iff (columns : List Native.ColumnMetadata) :
    columns.map receivedColumn = columns.map shownColumn ↔ ∀ col ∈ columns, IsAscii col.name := by
  rw [List.map_inj_left]
  refine forall₂_congr fun col _ => ?_
  rw [← decodeLatin1_utf8Bytes_iff, receivedColumn, shownColumn]
  simp

theorem receivedBatches_yields_iff (pos : 0 < fetchSize) :
    Yields buffer fetchSize ⟨receivedBatches fetchSize buffer, .finished⟩ ↔
      ∀ col ∈ buffer.columns, IsAscii col.name := by
  rw [← received_columns_iff]
  constructor
  · intro yields
    obtain ⟨batch, member⟩ := List.exists_mem_of_ne_nil _ (rowBatches_ne_nil fetchSize buffer.rows)
    exact (yields.columns _ (List.mem_map_of_mem member)).1
  · intro same
    refine ⟨rfl, ?_, ?_, ?_, ?_⟩
    · have whole := congrArg (List.map (receivedRow buffer.columns))
        (flatten_rowBatches fetchSize buffer.rows)
      rw [List.map_flatten] at whole
      rw [← whole, receivedBatches, List.flatMap_map]
      rfl
    · rw [receivedBatches, List.forall_mem_map]
      exact fun batch _ => ⟨same, rfl⟩
    · rw [receivedBatches, List.forall_mem_map]
      intro batch member
      have short := length_le_of_mem_rowBatches member
      refine ⟨?_, ?_⟩
      · simp [receivedBuffer, RowBuffer.rowCount]
      · simp only [receivedBuffer, List.length_map]
        omega
    · intro none
      refine ⟨receivedBuffer ⟨buffer.columns, []⟩, ?_, rfl⟩
      rw [receivedBatches, none, rowBatches, if_pos rfl]
      rfl

/-! ## The chunks -/

theorem gives_stream (reads : ReadsAs job buffer) (mode : WorkerMode) (chunkSize : Nat) :
    Gives mode ((batchMessages job.fetchSize buffer).flatMap (portions (max chunkSize 1)))
      (job.stream mode chunkSize) := by
  rw [reads.stream]
  refine gives_start mode ?_ chunkSize
  rw [batchMessages, List.forall_mem_map]
  intro batch _
  apply List.ne_nil_of_length_pos
  rw [batchBytes, length_messageBytes]
  omega

/-- All chunks of a message fit when its first one does. -/
theorem forall_mem_portions_fitsBuffer_iff (chunkSize : Nat) (message : Bytes) :
    (∀ chunk ∈ portions (max chunkSize 1) message, FitsBuffer chunk) ↔
      ((min chunkSize message.length : Nat) : Int) ≤ maxBufferSize := by
  have limit : maxBufferSize = ((16 * 1024 * 1024 : Nat) : Int) := rfl
  simp only [FitsBuffer, limit, Nat.cast_le]
  rw [forall_mem_portions_length_le_iff]
  omega

/-- Everything is delivered exactly when the chunks fit. -/
theorem deliverable_messages (job : BatchedJob) (chunkSize : Nat) (buffer : RowBuffer) :
    deliverable ((batchMessages job.fetchSize buffer).flatMap (portions (max chunkSize 1))) =
      if ChunksFit job chunkSize buffer then some (batchMessages job.fetchSize buffer).flatten
      else none := by
  rw [deliverable, flatten_flatMap_portions]
  refine if_congr ?_ rfl rfl
  rw [batchMessages, List.forall_mem_flatMap, List.forall_mem_map]
  exact forall₂_congr fun batch _ => forall_mem_portions_fitsBuffer_iff chunkSize _

/-! ## The loops -/

/-- A stream whose chunks fit yields what the parser makes of the batches. -/
theorem yields_iff_of {streamed : Streamed} (pos : 0 < job.fetchSize)
    (arrived : ChunksFit job chunkSize buffer →
      streamed = ⟨receivedBatches job.fetchSize buffer, .finished⟩)
    (failed : ¬ ChunksFit job chunkSize buffer → streamed.ending ≠ .finished) :
    Yields buffer job.fetchSize streamed ↔
      (∀ col ∈ buffer.columns, IsAscii col.name) ∧ ChunksFit job chunkSize buffer := by
  by_cases fit : ChunksFit job chunkSize buffer
  · rw [arrived fit, and_iff_left fit]
    exact receivedBatches_yields_iff pos
  · exact iff_of_false (fun yields => failed fit yields.ending) (fun both => fit both.2)

theorem streamQueryBatched_yields_iff (reads : ReadsAs job buffer) (pos : 0 < job.fetchSize)
    (within : WithinLimit maxBufferBytes job.executeStreamingBatched.1.flatten)
    {backend : Backend} {answers : StreamAnswers}
    (answered : answers.From (job.stream .batched chunkSize)) :
    Yields buffer job.fetchSize (streamQueryBatched backend library maxBufferBytes answers) ↔
      (∀ col ∈ buffer.columns, IsAscii col.name) ∧ ChunksFit job chunkSize buffer := by
  obtain ⟨opened, answered⟩ := answered
  have delivered := (gives_stream reads .batched chunkSize).fetches_delivered answered
  rw [deliverable_messages] at delivered
  rw [reads.executeStreamingBatched] at within
  refine yields_iff_of pos ?_ ?_
  · intro fit
    rw [if_pos fit] at delivered
    exact streamQueryBatched_eq opened delivered within (drain_batches reads)
      (parsedAs_batches reads)
  · intro large finished
    rw [streamQueryBatched_of_opened opened] at finished
    obtain ⟨data, frames, some', -⟩ := fetchBatches_finished finished
    rw [delivered, if_neg large] at some'
    cases some'

theorem streamAsync_yields_iff (reads : ReadsAs job buffer) (pos : 0 < job.fetchSize)
    (within : WithinLimit maxBufferBytes job.executeStreamingBatched.1.flatten)
    {answers : PollAnswers} (answered : answers.From (job.stream .async chunkSize)) :
    Yields buffer job.fetchSize (streamAsync library maxBufferBytes answers) ↔
      (∀ col ∈ buffer.columns, IsAscii col.name) ∧ ChunksFit job chunkSize buffer := by
  obtain ⟨opened, answered⟩ := answered
  have delivered := (gives_stream reads .async chunkSize).polls_delivered answered
  rw [deliverable_messages] at delivered
  rw [reads.executeStreamingBatched] at within
  refine yields_iff_of pos ?_ ?_
  · intro fit
    rw [if_pos fit] at delivered
    exact streamAsync_eq opened delivered within (drain_batches reads) (parsedAs_batches reads)
  · intro large finished
    rw [streamAsync_of_opened opened] at finished
    obtain ⟨data, some'⟩ := pollBatches_finished finished
    rw [delivered, if_neg large] at some'
    cases some'

/-- Both loops frame by the header, so the cuts do not matter. -/
theorem stopsInside (library : DecompressLibrary) : StopsInside library := by
  intro frames chunks rest whole parsed nonempty waiting maxBufferBytes within
  have framed := Framing.drain_frames_append whole waiting
  have stopped : endingBehind rest = .stopped leftoverBytes := if_neg nonempty
  refine ⟨fun backend answers opened delivered => ?_, fun answers opened delivered => ?_⟩
  · rw [streamQueryBatched_eq opened delivered within framed parsed, stopped]
  · rw [streamAsync_eq opened delivered within framed parsed, stopped]

/-! ## The claim -/

/-- A statement with one text column and NULLs in all of its rows, read row by row. -/
def oneColumn (name : String) (rows : Nat) : BatchedJob where
  driver :=
    { prepared := .ok ()
      executed := .ok ()
      first :=
        { numResultCols := .ok 1
          rowCount := .ok (-1)
          colName := fun _ => .ok name
          colDataType := fun _ => .ok .other
          rows := List.replicate rows fun _ => .ok none
          fetched := .ok () }
      more := []
      ending := .noData }
  fetchSize := 1

section

open StreamingQuery (Event Output)

/-- The chunks that calls of `addChunk` have begun with. -/
def offeredChunk : Output → Option ParsedRowBuffer
  | .added false chunk | .dropped false chunk | .waits chunk => some chunk
  | _ => none

def addedChunk : Output → Option ParsedRowBuffer
  | .added _ chunk => some chunk
  | _ => none

def droppedChunk : Output → Option ParsedRowBuffer
  | .dropped _ chunk => some chunk
  | _ => none

def deliveredChunk : Output → Option ParsedRowBuffer
  | .delivered chunk => some chunk
  | _ => none

/-- A new call finds fewer calls than that which have not ended. -/
def AtMost (producers : Nat) : Event → StreamingQuery → Prop
  | .addChunk _, query => (query.woken ++ query.waiting).length < producers
  | _, _ => True

/-- What can be in a full stream: one chunk comes from each of the other producers. The count of
a stream is never more than `0x7FFFFFFF` behind a delivery. -/
def mostChunks (limit : Int) (producers : Nat) : Nat := limit.toNat + producers - 1

/-- Chunks are delivered once and in order. With a limit none is dropped while the stream is open,
the stream is bounded, and who waits waits for a delivery. -/
structure HandsOn (producers : Nat) (log : List Output) (query : StreamingQuery) : Prop where
  arrives : query.isCancelled = false →
    log.filterMap addedChunk = log.filterMap deliveredChunk ++ query.events
  each : (log.filterMap offeredChunk).Perm (log.filterMap addedChunk ++
    (log.filterMap droppedChunk ++ (query.woken ++ query.waiting)))
  spared : query.maxBufferSize ≠ none → query.isClosed = false → log.filterMap droppedChunk = []
  ordered : producers = 1 → log.filterMap droppedChunk = [] →
    log.filterMap offeredChunk = log.filterMap addedChunk ++ (query.woken ++ query.waiting)
  bounded : ∀ limit ∈ query.maxBufferSize, mostChunks limit producers ≤ 0x80000000 →
    .cleared ∉ log → query.events.length ≤ mostChunks limit producers
  awaited : ∀ limit ∈ query.maxBufferSize, query.isCancelled = false → query.waiting ≠ [] →
    limit ≤ query.events.length

/-- What a run keeps. -/
structure Keeping (producers : Nat) (log : List Output) (query : StreamingQuery) : Prop where
  arrives : query.isCancelled = false →
    log.filterMap addedChunk = log.filterMap deliveredChunk ++ query.events
  each : (log.filterMap offeredChunk : Multiset ParsedRowBuffer) =
    (log.filterMap addedChunk : Multiset ParsedRowBuffer) + log.filterMap droppedChunk +
      query.woken + query.waiting
  spared : query.maxBufferSize ≠ none → query.isClosed = false → log.filterMap droppedChunk = []
  ordered : producers = 1 → log.filterMap droppedChunk = [] →
    log.filterMap offeredChunk = log.filterMap addedChunk ++ (query.woken ++ query.waiting)
  few : (query.woken ++ query.waiting).length ≤ producers
  counted : query.isCancelled = false → query.pendingCount ≤ query.events.length
  awaited : query.waiting ≠ [] → query.IsFull
  bounded : ∀ limit ∈ query.maxBufferSize, mostChunks limit producers ≤ 0x80000000 →
    .cleared ∉ log → query.events.length ≤ query.pendingCount ∧
      query.pendingCount ≤ mostChunks limit producers ∧ (query.isClosed = false →
        query.pendingCount + query.woken.length ≤ mostChunks limit producers)

variable {producers : Nat} {log : List Output} {query next : StreamingQuery} {output : Output}
  {chunk : ParsedRowBuffer}

theorem isFull_iff {limit : Int} (found : query.maxBufferSize = some limit) :
    query.IsFull ↔ limit ≤ query.pendingCount := by
  rw [StreamingQuery.IsFull, found]
  simp

/-- A call that finds room. -/
theorem Keeping.added (kept : Keeping producers log query) (free : ¬ query.IsFull)
    (few : (query.woken ++ query.waiting).length < producers) :
    Keeping producers (log ++ [(query.put false chunk).2]) (query.put false chunk).1 := by
  rw [StreamingQuery.put]
  constructor
  · intro listening
    dsimp only at listening ⊢
    simp [listening, addedChunk, deliveredChunk, kept.arrives listening]
  · dsimp only
    simp only [List.filterMap_append, List.filterMap_cons, List.filterMap_nil, offeredChunk,
      addedChunk, droppedChunk, List.append_nil, ← Multiset.coe_add, Multiset.coe_singleton,
      kept.each]
    abel
  · intro limited opened
    simpa [droppedChunk] using kept.spared limited opened
  · intro single none
    have none : log.filterMap droppedChunk = [] := by simpa [droppedChunk] using none
    have idle : query.woken ++ query.waiting = [] := List.length_eq_zero_iff.mp (by omega)
    have ordered := kept.ordered single none
    dsimp only
    rw [idle, List.append_nil] at ordered ⊢
    simp [offeredChunk, addedChunk, ordered]
  · exact few.le
  · intro listening
    dsimp only at listening ⊢
    simpa [listening] using kept.counted listening
  · intro waits
    exact absurd (kept.awaited waits) free
  · intro limit found small uncleared
    have found : query.maxBufferSize = some limit := found
    have uncleared : .cleared ∉ log := by simpa using uncleared
    obtain ⟨short, -, -⟩ := kept.bounded limit found small uncleared
    have below : (query.pendingCount : Int) < limit :=
      not_le.mp fun full => free ((isFull_iff found).mpr full)
    rw [List.length_append] at few
    dsimp only
    refine ⟨?_, ?_, fun _ => ?_⟩
    · split_ifs
      · omega
      · rw [List.length_append, List.length_singleton]
        omega
    · rw [mostChunks]
      omega
    · rw [mostChunks]
      omega

/-- A call that finds the stream full. -/
theorem Keeping.waits (kept : Keeping producers log query) (full : query.IsFull)
    (few : (query.woken ++ query.waiting).length < producers) :
    Keeping producers (log ++ [.waits chunk])
      { query with waiting := query.waiting ++ [chunk] } := by
  constructor
  · intro listening
    simpa [List.filterMap_cons, addedChunk, deliveredChunk] using kept.arrives listening
  · simp only [List.filterMap_append, List.filterMap_cons, List.filterMap_nil, offeredChunk,
      addedChunk, droppedChunk, List.append_nil, ← Multiset.coe_add, Multiset.coe_singleton,
      kept.each]
    abel
  · intro limited opened
    simpa [droppedChunk] using kept.spared limited opened
  · intro single none
    have ordered := kept.ordered single (by simpa [droppedChunk] using none)
    simp [offeredChunk, addedChunk, ordered]
  · dsimp only
    rw [← List.append_assoc, List.length_append, List.length_singleton]
    exact few
  · exact kept.counted
  · exact fun _ => full
  · intro limit found small uncleared
    exact kept.bounded limit found small (by simpa using uncleared)

/-- A call on a stream that takes nothing. -/
theorem Keeping.dropped (kept : Keeping producers log query)
    (reason : query.isClosed = true ∨ query.maxBufferSize = none) :
    Keeping producers (log ++ [.dropped false chunk]) query := by
  constructor
  · intro listening
    simpa [List.filterMap_cons, addedChunk, deliveredChunk] using kept.arrives listening
  · simp only [List.filterMap_append, List.filterMap_cons, List.filterMap_nil, offeredChunk,
      addedChunk, droppedChunk, List.append_nil, ← Multiset.coe_add, Multiset.coe_singleton,
      kept.each]
    abel
  · intro limited opened
    obtain closed | unlimited := reason
    · rw [closed] at opened
      cases opened
    · exact absurd unlimited limited
  · intro single none
    simp [droppedChunk] at none
  · exact kept.few
  · exact kept.counted
  · exact kept.awaited
  · intro limit found small uncleared
    exact kept.bounded limit found small (by simpa using uncleared)

section

variable {rest : List ParsedRowBuffer}

/-- A call that has waited, on a stream that was closed meanwhile. -/
theorem Keeping.wokenDropped (kept : Keeping producers log query)
    (woken : query.woken = chunk :: rest) (closed : query.isClosed = true) :
    Keeping producers (log ++ [.dropped true chunk]) { query with woken := rest } := by
  have each := kept.each
  have few := kept.few
  rw [woken] at each few
  constructor
  · intro listening
    simpa [List.filterMap_cons, addedChunk, deliveredChunk] using kept.arrives listening
  · simp only [List.filterMap_append, List.filterMap_cons, List.filterMap_nil, offeredChunk,
      addedChunk, droppedChunk, List.append_nil, ← Multiset.coe_add, each, ← Multiset.cons_coe,
      ← Multiset.singleton_add]
    abel
  · intro limited opened
    cases closed.symm.trans opened
  · intro single none
    simp [droppedChunk] at none
  · exact (Nat.le_succ _).trans few
  · exact kept.counted
  · exact kept.awaited
  · intro limit found small uncleared
    obtain ⟨short, below, -⟩ := kept.bounded limit found small (by simpa using uncleared)
    exact ⟨short, below, fun opened => by cases closed.symm.trans opened⟩

/-- A call that has waited, on an open stream. -/
theorem Keeping.wokenAdded (kept : Keeping producers log query)
    (woken : query.woken = chunk :: rest) (opened : ¬ query.isClosed = true) :
    Keeping producers
      (log ++ [(({ query with woken := rest } : StreamingQuery).put true chunk).2])
      (({ query with woken := rest } : StreamingQuery).put true chunk).1 := by
  have each := kept.each
  have ordered := kept.ordered
  have few := kept.few
  have bounded := kept.bounded
  rw [woken] at each ordered few bounded
  rw [StreamingQuery.put]
  constructor
  · intro listening
    dsimp only at listening ⊢
    simp [listening, addedChunk, deliveredChunk, kept.arrives listening]
  · simp only [List.filterMap_append, List.filterMap_cons, List.filterMap_nil, offeredChunk,
      addedChunk, droppedChunk, List.append_nil, ← Multiset.coe_add, each, ← Multiset.cons_coe,
      ← Multiset.singleton_add]
    abel
  · intro limited opened
    simpa [droppedChunk] using kept.spared limited opened
  · intro single none
    have ordered := ordered single (by simpa [droppedChunk] using none)
    simp [List.filterMap_cons, offeredChunk, addedChunk, ordered]
  · exact (Nat.le_succ _).trans few
  · intro listening
    dsimp only at listening ⊢
    simpa [listening] using kept.counted listening
  · intro waits
    obtain ⟨limit, found, full⟩ := kept.awaited waits
    exact ⟨limit, found, full.trans (by simp)⟩
  · intro limit found small uncleared
    obtain ⟨short, below, room⟩ := bounded limit found small (by simpa using uncleared)
    have room := room (by simpa using opened)
    rw [List.length_cons] at room
    dsimp only
    refine ⟨?_, by omega, fun _ => by omega⟩
    split_ifs
    · omega
    · rw [List.length_append, List.length_singleton]
      omega

end

/-- A call that has waited. -/
theorem Keeping.goOn (kept : Keeping producers log query)
    (stepped : query.goOn = some (next, output)) : Keeping producers (log ++ [output]) next := by
  rw [StreamingQuery.goOn] at stepped
  cases woken : query.woken with
  | nil =>
      rw [woken] at stepped
      cases stepped
  | cons chunk rest =>
      rw [woken] at stepped
      dsimp only at stepped
      split_ifs at stepped with closed
      · cases stepped
        exact kept.wokenDropped woken closed
      · cases stepped
        exact kept.wokenAdded woken closed

/-- Whoever waits goes on. -/
theorem Keeping.completeResume (kept : Keeping producers log query)
    (free : ∀ limit ∈ query.maxBufferSize, mostChunks limit producers ≤ 0x80000000 →
      .cleared ∉ log → query.isClosed = false →
        query.pendingCount + producers ≤ mostChunks limit producers) :
    Keeping producers log query.completeResume := by
  rw [StreamingQuery.completeResume]
  constructor
  · exact kept.arrives
  · simp only [← Multiset.coe_add, Multiset.coe_nil, kept.each]
    abel
  · exact kept.spared
  · intro single none
    rw [List.append_nil]
    exact kept.ordered single none
  · rw [List.append_nil]
    exact kept.few
  · exact kept.counted
  · exact fun waits => absurd rfl waits
  · intro limit found small uncleared
    obtain ⟨short, below, -⟩ := kept.bounded limit found small uncleared
    refine ⟨short, below, fun opened => ?_⟩
    exact (Nat.add_le_add_left kept.few _).trans (free limit found small uncleared opened)

/-- A chunk is delivered, and some of those who wait go on. -/
theorem Keeping.delivered {events woken waiting : List ParsedRowBuffer}
    (kept : Keeping producers log query) (found : query.events = chunk :: events)
    (calls : woken ++ waiting = query.woken ++ query.waiting)
    (nextIs : next = { query with
      events, woken, waiting, pendingCount := min (query.pendingCount - 1) 0x7FFFFFFF })
    (awaited : waiting ≠ [] → next.IsFull)
    (free : ∀ limit ∈ query.maxBufferSize, mostChunks limit producers ≤ 0x80000000 →
      .cleared ∉ log → query.isClosed = false →
        next.pendingCount + woken.length ≤ mostChunks limit producers) :
    Keeping producers (log ++ [.delivered chunk]) next := by
  subst nextIs
  constructor
  · intro listening
    have arrives := kept.arrives listening
    rw [found] at arrives
    simp [List.filterMap_cons, addedChunk, deliveredChunk, arrives]
  · have same : (woken : Multiset ParsedRowBuffer) + waiting = query.woken + query.waiting := by
      rw [Multiset.coe_add, Multiset.coe_add, calls]
    simp only [List.filterMap_append, List.filterMap_cons, List.filterMap_nil, offeredChunk,
      addedChunk, droppedChunk, List.append_nil, kept.each, add_assoc, same]
  · intro limited opened
    simpa [List.filterMap_cons, droppedChunk] using kept.spared limited opened
  · intro single none
    have ordered := kept.ordered single (by simpa [List.filterMap_cons, droppedChunk] using none)
    simp [List.filterMap_cons, offeredChunk, addedChunk, ordered, calls]
  · rw [calls]
    exact kept.few
  · intro listening
    have counted := kept.counted listening
    rw [found, List.length_cons] at counted
    dsimp only
    omega
  · exact awaited
  · intro limit limited small uncleared
    have uncleared : .cleared ∉ log := by simpa using uncleared
    obtain ⟨short, below, -⟩ := kept.bounded limit limited small uncleared
    rw [found, List.length_cons] at short
    dsimp only at free ⊢
    refine ⟨?_, ?_, fun opened => free limit limited small uncleared opened⟩
    · omega
    · omega

theorem Keeping.deliver (kept : Keeping producers log query)
    (stepped : query.deliver = some (next, output)) : Keeping producers (log ++ [output]) next := by
  rw [StreamingQuery.deliver] at stepped
  cases found : query.events with
  | nil =>
      rw [found] at stepped
      cases stepped
  | cons chunk events =>
      rw [found] at stepped
      dsimp only at stepped
      split_ifs at stepped with paused free
      · cases stepped
        refine kept.delivered found (List.append_nil _) rfl (fun waits => absurd rfl waits) ?_
        intro limit limited small uncleared opened
        have below : ((min (query.pendingCount - 1) 0x7FFFFFFF : Nat) : Int) < limit :=
          not_le.mp fun full => free.2 ⟨limit, limited, full⟩
        have few := kept.few
        dsimp only [StreamingQuery.completeResume]
        rw [mostChunks]
        omega
      · cases stepped
        refine kept.delivered found rfl rfl ?_ ?_
        · intro waits
          obtain ⟨limit, limited, -⟩ := kept.awaited waits
          by_contra unfull
          exact free ⟨by simp [show query.maxBufferSize = some limit from limited], unfull⟩
        · intro limit limited small uncleared opened
          obtain ⟨-, -, rest⟩ := kept.bounded limit limited small uncleared
          have rest := rest opened
          dsimp only
          omega

/-- Nothing is said, and no call moves. -/
theorem Keeping.quiet (kept : Keeping producers log query)
    (limits : next.maxBufferSize = query.maxBufferSize)
    (count : next.pendingCount = query.pendingCount) (woken : next.woken = query.woken)
    (waiting : next.waiting = query.waiting)
    (closes : next.isClosed = false → query.isClosed = false)
    (listens : next.isCancelled = query.isCancelled ∧ next.events = query.events ∨
      next.isCancelled = true ∧ next.events = []) :
    Keeping producers (log ++ [.quiet]) next := by
  constructor
  · intro listening
    obtain ⟨same, events⟩ | ⟨ended, -⟩ := listens
    · rw [events]
      simpa [List.filterMap_cons, addedChunk, deliveredChunk] using
        kept.arrives (same.symm.trans listening)
    · rw [ended] at listening
      cases listening
  · simp only [List.filterMap_append, List.filterMap_cons, List.filterMap_nil, offeredChunk,
      addedChunk, droppedChunk, List.append_nil, kept.each, woken, waiting]
  · intro limited opened
    rw [limits] at limited
    simpa [List.filterMap_cons, droppedChunk] using kept.spared limited (closes opened)
  · intro single none
    rw [woken, waiting]
    simpa [List.filterMap_cons, offeredChunk, addedChunk] using
      kept.ordered single (by simpa [List.filterMap_cons, droppedChunk] using none)
  · rw [woken, waiting]
    exact kept.few
  · intro listening
    obtain ⟨same, events⟩ | ⟨ended, -⟩ := listens
    · rw [events, count]
      exact kept.counted (same.symm.trans listening)
    · rw [ended] at listening
      cases listening
  · rw [waiting, StreamingQuery.IsFull, limits, count]
    exact kept.awaited
  · rw [limits, count, woken]
    intro limit found small uncleared
    obtain ⟨short, below, rest⟩ := kept.bounded limit found small (by simpa using uncleared)
    refine ⟨?_, below, fun opened => rest (closes opened)⟩
    obtain ⟨-, events⟩ | ⟨-, events⟩ := listens
    · rw [events]
      exact short
    · rw [events]
      exact Nat.zero_le _

theorem Keeping.cleared (kept : Keeping producers log query) :
    Keeping producers (log ++ [.cleared]) { query with pendingCount := 0 }.completeResume := by
  rw [StreamingQuery.completeResume]
  constructor
  · intro listening
    simpa [List.filterMap_cons, addedChunk, deliveredChunk] using kept.arrives listening
  · simp only [List.filterMap_append, List.filterMap_cons, List.filterMap_nil, offeredChunk,
      addedChunk, droppedChunk, List.append_nil, ← Multiset.coe_add, Multiset.coe_nil, kept.each]
    abel
  · intro limited opened
    simpa [List.filterMap_cons, droppedChunk] using kept.spared limited opened
  · intro single none
    rw [List.append_nil]
    simpa [List.filterMap_cons, offeredChunk, addedChunk] using
      kept.ordered single (by simpa [List.filterMap_cons, droppedChunk] using none)
  · rw [List.append_nil]
    exact kept.few
  · exact fun _ => Nat.zero_le _
  · exact fun waits => absurd rfl waits
  · intro limit found small uncleared
    exact absurd (List.mem_append_right _ (List.mem_singleton_self _)) uncleared

theorem Keeping.step {event : Event} (kept : Keeping producers log query)
    (allowed : AtMost producers event query)
    (stepped : StreamingQuery.step event query = some (next, output)) :
    Keeping producers (log ++ [output]) next := by
  cases event with
  | addChunk chunk =>
      have same := Option.some.inj stepped
      rw [StreamingQuery.addChunk] at same
      split_ifs at same with closed paused full
      · cases same
        exact kept.dropped (.inl closed)
      · cases same
        exact kept.dropped (.inr paused.2)
      · cases same
        exact kept.waits full allowed
      · cases same
        exact kept.added full allowed
  | goOn => exact kept.goOn stepped
  | deliver => exact kept.deliver stepped
  | pause | resume =>
      cases stepped
      exact kept.quiet rfl rfl rfl rfl id (.inl ⟨rfl, rfl⟩)
  | clearBuffer =>
      cases stepped
      exact kept.cleared
  | close =>
      cases stepped
      have closed : Keeping producers (log ++ [.quiet]) { query with isClosed := true } :=
        kept.quiet rfl rfl rfl rfl (fun opened => by cases opened) (.inl ⟨rfl, rfl⟩)
      exact closed.completeResume fun _ _ _ _ opened => by cases opened
  | cancel =>
      cases stepped
      exact kept.quiet rfl rfl rfl rfl (fun opened => by cases opened) (.inl ⟨rfl, rfl⟩)
  | unlisten =>
      cases stepped
      exact kept.quiet rfl rfl rfl rfl id (.inr ⟨rfl, rfl⟩)

theorem keeping_start (producers : Nat) (maxBufferSize : Option Int) :
    Keeping producers [] ⟨maxBufferSize, false, false, false, 0, [], [], []⟩ := by
  constructor
  · exact fun _ => rfl
  · rfl
  · exact fun _ _ => rfl
  · exact fun _ _ => rfl
  · exact Nat.zero_le _
  · exact fun _ => Nat.zero_le _
  · exact fun waits => absurd rfl waits
  · exact fun _ _ _ _ => ⟨Nat.zero_le _, Nat.zero_le _, fun _ => Nat.zero_le _⟩

/-- In every order of calls, deliveries, pauses and closings, with so many calls at a time: the
chunks are handed on as they should be. -/
theorem streamingQuery_handsOn (producers : Nat) (maxBufferSize : Option Int)
    {events : List Event} {log : List Output} {final : StreamingQuery}
    (along : Along StreamingQuery.step (AtMost producers) events { maxBufferSize })
    (ran : run StreamingQuery.step events { maxBufferSize } = some (final, log)) :
    HandsOn producers log final := by
  have kept := run_invariant_along (Keeping producers)
    (fun kept allowed stepped => kept.step allowed stepped) []
    (keeping_start producers maxBufferSize) along ran
  rw [List.nil_append] at kept
  refine ⟨kept.arrives, ?_, kept.spared, kept.ordered, ?_, ?_⟩
  · have each := kept.each
    rw [Multiset.coe_add, Multiset.coe_add, Multiset.coe_add] at each
    simpa only [List.append_assoc] using Multiset.coe_eq_coe.mp each
  · intro limit found small uncleared
    obtain ⟨short, below, -⟩ := kept.bounded limit found small uncleared
    exact short.trans below
  · intro limit found listening waits
    have full := (isFull_iff found).mp (kept.awaited waits)
    exact full.trans (Int.ofNat_le.mpr (kept.counted listening))

/-- A chunk that is told from others by its count. -/
def countedChunk (count : Nat) : ParsedRowBuffer := ⟨[], [], count, 0⟩

def crowdedEvents : List Event :=
  [.addChunk (countedChunk 1), .addChunk (countedChunk 2), .addChunk (countedChunk 3), .deliver,
    .goOn, .goOn]

/-- Two producers wait for the only place, a delivery lets both go on, and there are two chunks. -/
theorem streamingQuery_handsOn_crowded :
    run StreamingQuery.step crowdedEvents { maxBufferSize := some 1 } =
        some ({ maxBufferSize := some 1, pendingCount := 2
                events := [countedChunk 2, countedChunk 3] },
          [.added false (countedChunk 1), .waits (countedChunk 2), .waits (countedChunk 3),
            .delivered (countedChunk 1), .added true (countedChunk 2),
            .added true (countedChunk 3)]) ∧
      HandsOn 2 [.added false (countedChunk 1), .waits (countedChunk 2), .waits (countedChunk 3),
          .delivered (countedChunk 1), .added true (countedChunk 2), .added true (countedChunk 3)]
        { maxBufferSize := some 1, pendingCount := 2
          events := [countedChunk 2, countedChunk 3] } := by
  refine ⟨rfl, @streamingQuery_handsOn 2 (some 1) crowdedEvents _ _ ?_ rfl⟩
  refine (along_cons_iff rfl).mpr ⟨Nat.two_pos, ?_⟩
  refine (along_cons_iff rfl).mpr ⟨Nat.two_pos, ?_⟩
  refine (along_cons_iff rfl).mpr ⟨Nat.one_lt_two, ?_⟩
  refine (along_cons_iff rfl).mpr ⟨trivial, (along_cons_iff rfl).mpr ⟨trivial, ?_⟩⟩
  exact (along_cons_iff rfl).mpr ⟨trivial, trivial⟩

end

end OdbcFast.Verification
