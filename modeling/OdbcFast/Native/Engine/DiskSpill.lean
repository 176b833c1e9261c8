import OdbcFast.Native.Engine.Streaming
import OdbcFast.Native.Ffi.StreamKind
import OdbcFast.Wire.Files

/-!
# Results that are spilled to disk

`DiskSpillStream` keeps what is written to it in memory until a chunk would exceed the
threshold; then it creates a file, moves the memory there and goes on writing to the file.
The file is named after the millisecond in which it is created, so a path is known by its
milliseconds, and creating it empties a file of that name.

`Holds` says what a stream has been given, wherever it keeps it.
-/

namespace OdbcFast.Native

open Wire

/-- The directory for temporary files. The path `odbc_spill_{millis}.bin` is `millis`. -/
abbrev TempDir := Files Nat

def writeChunkSize : Nat := 64 * 1024

/-- What the system says of a path that leads nowhere. -/
def noSuchFile : String := "No such file or directory (os error 2)"

structure DiskSpillStream where
  thresholdBytes : Nat
  tempPath : Option Nat := none
  file : Option BufWriter := none
  memoryBuffer : Bytes := []
  deriving DecidableEq, Repr

inductive SpillReadSource where
  | file (path : Nat)
  | memory (data : Bytes)
  deriving DecidableEq, Repr

namespace DiskSpillStream

/-- The product wraps around in a release build. -/
def new (thresholdMb : Nat) : DiskSpillStream where
  thresholdBytes := max thresholdMb 1 * 1024 * 1024 % 2 ^ 64

/-- `millis` is the time of the call. -/
def spillToDisk (millis : Nat) (stream : DiskSpillStream) (dir : TempDir) :
    DiskSpillStream × TempDir :=
  let (file, dir) := dir.create millis
  let (writer, dir) := BufWriter.writeAll stream.memoryBuffer { file } dir
  ({ stream with memoryBuffer := [], file := some writer, tempPath := some millis }, dir)

/-- The chunk would exceed the threshold, and there is something to move. -/
def mustSpill (chunk : Bytes) (stream : DiskSpillStream) : Bool :=
  let wouldExceed :=
    min (stream.memoryBuffer.length + chunk.length) (2 ^ 64 - 1) > stream.thresholdBytes
  stream.file.isNone && wouldExceed && !stream.memoryBuffer.isEmpty

/-- Where the chunk goes once that is settled. -/
def append (chunk : Bytes) (stream : DiskSpillStream) (dir : TempDir) :
    DiskSpillStream × TempDir :=
  match stream.file with
  | some writer =>
    let (writer, dir) := writer.writeAll chunk dir
    ({ stream with file := some writer }, dir)
  | none => ({ stream with memoryBuffer := stream.memoryBuffer ++ chunk }, dir)

def writeChunk (millis : Nat) (chunk : Bytes) (stream : DiskSpillStream) (dir : TempDir) :
    DiskSpillStream × TempDir :=
  if stream.mustSpill chunk then
    let (stream, dir) := stream.spillToDisk millis dir
    stream.append chunk dir
  else stream.append chunk dir

/-- The writer is flushed and closed. -/
def close (stream : DiskSpillStream) (dir : TempDir) : TempDir :=
  match stream.file with
  | some writer => (writer.flush dir).2
  | none => dir

def readBack (stream : DiskSpillStream) (dir : TempDir) :
    Except OdbcError Bytes × DiskSpillStream × TempDir :=
  let dir := stream.close dir
  match stream.tempPath with
  | some path =>
    match dir.read? path with
    | some data =>
      (.ok data, { stream with file := none, tempPath := none }, dir.remove path)
    | none =>
      (.error (.internalError s!"spill read: {noSuchFile}"),
        { stream with file := none, tempPath := none }, dir)
  | none =>
    (.ok stream.memoryBuffer,
      { stream with file := none, tempPath := none, memoryBuffer := [] }, dir)

def finishForStreamingRead (stream : DiskSpillStream) (dir : TempDir) :
    SpillReadSource × DiskSpillStream × TempDir :=
  let dir := stream.close dir
  match stream.tempPath with
  | some path => (.file path, { stream with file := none, tempPath := none }, dir)
  | none =>
    (.memory stream.memoryBuffer,
      { stream with file := none, tempPath := none, memoryBuffer := [] }, dir)

/-- The destructor: the writer is dropped first, and a file that was not read is removed. -/
def drop (stream : DiskSpillStream) (dir : TempDir) : TempDir :=
  let dir := stream.close dir
  match stream.tempPath with
  | some path => dir.remove path
  | none => dir

/-! ## What a stream has been given -/

/-- The stream holds the bytes, in memory or in the file behind its path. -/
inductive Holds (stream : DiskSpillStream) (dir : TempDir) (written : Bytes) : Prop
  | memory (path : stream.tempPath = none) (file : stream.file = none)
      (held : stream.memoryBuffer = written)
  | spilled (path : Nat) (writer : BufWriter) (named : stream.tempPath = some path)
      (opened : stream.file = some writer) (empty : stream.memoryBuffer = [])
      (found : dir.names.lookup path = some writer.file) (appends : writer.Appends dir written)

variable {stream : DiskSpillStream} {dir : TempDir} {written : Bytes}

theorem holds_new (thresholdMb : Nat) (dir : TempDir) : Holds (new thresholdMb) dir [] :=
  .memory rfl rfl rfl

/-- The file that is created leads on where the memory stopped. -/
theorem holds_spillToDisk (millis : Nat) (holds : Holds stream dir written)
    (unspilled : stream.file = none) :
    Holds (stream.spillToDisk millis dir).1 (stream.spillToDisk millis dir).2 written := by
  cases holds with
  | spilled path writer _ opened => cases unspilled.symm.trans opened
  | memory path file held =>
      obtain ⟨found, empty⟩ := Files.create_found millis dir
      have fresh : BufWriter.Appends { file := (dir.create millis).1 } (dir.create millis).2 [] :=
        ⟨(congrArg List.length empty).symm, congrArg (· ++ []) empty⟩
      obtain ⟨appends, stays⟩ := BufWriter.writeAll_spec stream.memoryBuffer fresh
      rw [List.nil_append] at appends
      rw [← held]
      exact .spilled millis _ rfl rfl rfl (stays.lookup found) appends

theorem holds_append (chunk : Bytes) (holds : Holds stream dir written) :
    Holds (stream.append chunk dir).1 (stream.append chunk dir).2 (written ++ chunk) := by
  rw [append]
  cases holds with
  | memory path file held =>
      rw [file]
      exact .memory path rfl (congrArg (· ++ chunk) held)
  | spilled path writer named opened empty found appends =>
      rw [opened]
      obtain ⟨appended, stays⟩ := BufWriter.writeAll_spec chunk appends
      exact .spilled path _ named rfl empty (stays.lookup found) appended

theorem tempPath_append (chunk : Bytes) (stream : DiskSpillStream) (dir : TempDir) :
    (stream.append chunk dir).1.tempPath = stream.tempPath := by
  rw [append]
  cases stream.file <;> rfl

theorem unspilled_of_mustSpill {chunk : Bytes} (spills : stream.mustSpill chunk = true) :
    stream.file = none := by
  rw [mustSpill, Bool.and_eq_true, Bool.and_eq_true] at spills
  exact Option.isNone_iff_eq_none.mp spills.1.1

theorem holds_writeChunk (millis : Nat) (chunk : Bytes) (holds : Holds stream dir written) :
    Holds (stream.writeChunk millis chunk dir).1 (stream.writeChunk millis chunk dir).2
      (written ++ chunk) := by
  rw [writeChunk]
  split_ifs with spills
  · exact holds_append chunk (holds_spillToDisk millis holds (unspilled_of_mustSpill spills))
  · exact holds_append chunk holds

/-- Once it is flushed and closed, the file alone holds what was written. -/
theorem read?_close {path : Nat} (holds : Holds stream dir written)
    (named : stream.tempPath = some path) : (stream.close dir).read? path = some written := by
  cases holds with
  | memory path' => cases named.symm.trans path'
  | spilled path' writer named' opened empty found appends =>
      cases named.symm.trans named'
      rw [close, opened]
      dsimp only
      rw [Files.read?_of_lookup ((BufWriter.flush_stays writer dir).lookup found)]
      exact congrArg some (BufWriter.flush_appends appends).2

/-! ## What an operation leaves alone -/

theorem holds_spares {path : Nat} {next : TempDir} (holds : Holds stream dir written)
    (spares : Files.Spares path dir next) (apart : stream.tempPath ≠ some path) :
    Holds stream next written := by
  cases holds with
  | memory path' file held => exact .memory path' file held
  | spilled path' writer named opened empty found appends =>
      have other : path' ≠ path := by
        rintro rfl
        exact apart named
      obtain ⟨found', same⟩ := spares.others path' writer.file other found
      refine .spilled path' writer named opened empty found' ⟨?_, ?_⟩
      · rw [same]
        exact appends.position
      · rw [same]
        exact appends.written

theorem spares_spillToDisk (millis : Nat) (stream : DiskSpillStream) (sound : dir.Sound) :
    Files.Spares millis dir (stream.spillToDisk millis dir).2 := by
  have created := Files.spares_create millis sound
  obtain ⟨found, empty⟩ := Files.create_found millis dir
  have fresh : BufWriter.Appends { file := (dir.create millis).1 } (dir.create millis).2 [] :=
    ⟨(congrArg List.length empty).symm, congrArg (· ++ []) empty⟩
  obtain ⟨-, stays⟩ := BufWriter.writeAll_spec stream.memoryBuffer fresh
  exact created.trans (stays.only.spares created.sound found)

/-- Writing and closing change nothing but the stream's own file, if it has one. -/
theorem spares_append (chunk : Bytes) (holds : Holds stream dir written) (sound : dir.Sound) :
    (stream.append chunk dir).2 = dir ∨ ∃ path, stream.tempPath = some path ∧
      Files.Spares path dir (stream.append chunk dir).2 := by
  rw [append]
  cases holds with
  | memory path file held =>
      rw [file]
      exact .inl rfl
  | spilled path writer named opened empty found appends =>
      rw [opened]
      obtain ⟨-, stays⟩ := BufWriter.writeAll_spec chunk appends
      exact .inr ⟨path, named, stays.only.spares sound found⟩

theorem close_of_memory (file : stream.file = none) : stream.close dir = dir := by
  rw [close, file]

theorem spares_close {path : Nat} (holds : Holds stream dir written) (sound : dir.Sound)
    (named : stream.tempPath = some path) : Files.Spares path dir (stream.close dir) := by
  cases holds with
  | memory path' => cases named.symm.trans path'
  | spilled path' writer named' opened empty found appends =>
      cases named.symm.trans named'
      rw [close, opened]
      exact (BufWriter.flush_stays writer dir).only.spares sound found

/-- Everything is read back, the file is removed, and the stream can be used anew. -/
theorem readBack_spec (holds : Holds stream dir written) (sound : dir.Sound) :
    ∃ stream' next, stream.readBack dir = (.ok written, stream', next) ∧
      Holds stream' next [] ∧ stream'.tempPath = none ∧
      (next = dir ∨ ∃ path, stream.tempPath = some path ∧ Files.Spares path dir next) := by
  cases named : stream.tempPath with
  | none =>
      cases holds with
      | spilled path writer named' => cases named.symm.trans named'
      | memory path file held =>
          rw [readBack, named, close_of_memory file, held]
          exact ⟨_, _, rfl, .memory rfl rfl rfl, rfl, .inl rfl⟩
  | some path =>
      have spares := spares_close holds sound named
      have read := read?_close holds named
      rw [readBack, named]
      dsimp only
      rw [read]
      refine ⟨_, _, rfl, .memory rfl rfl ?_, rfl,
        .inr ⟨path, rfl, spares.trans (Files.spares_remove path spares.sound)⟩⟩
      cases holds with
      | memory path' => cases named.symm.trans path'
      | spilled path' writer named' opened empty => exact empty

theorem spares_drop (holds : Holds stream dir written) (sound : dir.Sound) :
    stream.drop dir = dir ∨ ∃ path, stream.tempPath = some path ∧
      Files.Spares path dir (stream.drop dir) := by
  cases named : stream.tempPath with
  | none =>
      cases holds with
      | spilled path writer named' => cases named.symm.trans named'
      | memory path file =>
          rw [drop, named, close_of_memory file]
          exact .inl rfl
  | some path =>
      have spares := spares_close holds sound named
      rw [drop, named]
      exact .inr ⟨path, rfl, spares.trans (Files.spares_remove path spares.sound)⟩

end DiskSpillStream

/-! ## Encoding into a stream -/

structure DiskSpillWriter where
  spill : DiskSpillStream
  buffer : Bytes := []
  deriving DecidableEq, Repr

namespace DiskSpillWriter

/-- The loop of `write`: as long as the buffer has a whole chunk, it goes to the stream. A
stream spills once at most, so `millis` is the time at which it does. -/
def drain (millis : Nat) (writer : DiskSpillWriter) (dir : TempDir) :
    DiskSpillWriter × TempDir :=
  if writeChunkSize ≤ writer.buffer.length then
    let chunk := writer.buffer.take writeChunkSize
    let (spill, dir) := writer.spill.writeChunk millis chunk dir
    drain millis { spill, buffer := writer.buffer.drop writeChunkSize } dir
  else (writer, dir)
termination_by writer.buffer.length
decreasing_by
  have positive : 0 < writeChunkSize := by decide
  rw [List.length_drop]
  omega

/-- `write_all`, which makes no call for an empty piece. -/
def writeAll (millis : Nat) (piece : Bytes) (writer : DiskSpillWriter) (dir : TempDir) :
    DiskSpillWriter × TempDir :=
  if piece.isEmpty then (writer, dir)
  else drain millis { writer with buffer := writer.buffer ++ piece } dir

def writePieces (millis : Nat) : List Bytes → DiskSpillWriter → TempDir →
    DiskSpillWriter × TempDir
  | [], writer, dir => (writer, dir)
  | piece :: pieces, writer, dir =>
    let (writer, dir) := writer.writeAll millis piece dir
    writePieces millis pieces writer dir

def flush (millis : Nat) (writer : DiskSpillWriter) (dir : TempDir) :
    DiskSpillWriter × TempDir :=
  if writer.buffer.isEmpty then (writer, dir)
  else
    let (spill, dir) := writer.spill.writeChunk millis writer.buffer dir
    ({ spill }, dir)

/-- The stream and the buffer together have what was written. -/
def Has (writer : DiskSpillWriter) (dir : TempDir) (written : Bytes) : Prop :=
  ∃ front, writer.spill.Holds dir front ∧ front ++ writer.buffer = written

variable {writer : DiskSpillWriter} {dir : TempDir} {written : Bytes}

theorem has_drain (millis : Nat) (has : writer.Has dir written) :
    (writer.drain millis dir).1.Has (writer.drain millis dir).2 written := by
  fun_induction drain millis writer dir with
  | case1 writer dir full chunk spill dir' wrote ih =>
      obtain ⟨front, holds, all⟩ := has
      have holds' := DiskSpillStream.holds_writeChunk millis chunk holds
      rw [wrote] at holds'
      refine ih ⟨front ++ chunk, holds', ?_⟩
      rw [List.append_assoc, List.take_append_drop]
      exact all
  | case2 => exact has

theorem has_writeAll (millis : Nat) (piece : Bytes) (has : writer.Has dir written) :
    (writer.writeAll millis piece dir).1.Has (writer.writeAll millis piece dir).2
      (written ++ piece) := by
  rw [writeAll]
  split_ifs with empty
  · rw [List.isEmpty_iff.mp empty, List.append_nil]
    exact has
  · obtain ⟨front, holds, all⟩ := has
    refine has_drain millis ⟨front, holds, ?_⟩
    rw [← all, List.append_assoc]

theorem has_writePieces (millis : Nat) (pieces : List Bytes) (has : writer.Has dir written) :
    (writePieces millis pieces writer dir).1.Has (writePieces millis pieces writer dir).2
      (written ++ pieces.flatten) := by
  induction pieces generalizing writer dir written with
  | nil =>
      rw [List.flatten_nil, List.append_nil]
      exact has
  | cons piece pieces ih =>
      rw [List.flatten_cons, ← List.append_assoc]
      exact ih (has_writeAll millis piece has)

theorem holds_flush (millis : Nat) (has : writer.Has dir written) :
    (writer.flush millis dir).1.spill.Holds (writer.flush millis dir).2 written := by
  obtain ⟨front, holds, rfl⟩ := has
  rw [flush]
  split_ifs with empty
  · rw [List.isEmpty_iff.mp empty, List.append_nil]
    exact holds
  · exact DiskSpillStream.holds_writeChunk millis writer.buffer holds

end DiskSpillWriter

namespace Streaming

/-- The end of `execute_streaming_with_spill`, once the cursor has been read into a buffer. -/
def executeStreamingWithSpill (chunkSize : Nat) (spillThresholdMb : Option Nat) (millis : Nat)
    (buffer : RowBuffer) (dir : TempDir) : Except OdbcError StreamState × TempDir :=
  match spillThresholdMb.filter (· > 0) with
  | some thresholdMb =>
    match RowBufferEncoder.encodeToWriter buffer with
    | .error e => (.error (.internalError s!"encode to spill: {e.display}"), dir)
    | .ok pieces =>
      let spill := DiskSpillStream.new thresholdMb
      let (writer, dir) := DiskSpillWriter.writePieces millis pieces { spill } dir
      let (writer, dir) := writer.flush millis dir
      match writer.spill.finishForStreamingRead dir with
      | (.file path, _, dir) =>
        let file := dir.read? path
        let totalLen := (file.map List.length).getD 0
        (.ok (.fileBacked { file := file.getD [], chunkSize, totalLen }), dir)
      | (.memory data, _, dir) => (.ok (.inMemory { data, chunkSize }), dir)
  | none =>
    match encodeRowBuffer buffer with
    | .error e => (.error e, dir)
    | .ok data => (.ok (.inMemory { data, chunkSize }), dir)

/-- A complete result that is about to be read from its start, wherever it lies. -/
inductive Fresh (chunkSize : Nat) (bytes : Bytes) : StreamState → Prop
  | inMemory : Fresh chunkSize bytes (.inMemory { data := bytes, chunkSize })
  | fileBacked :
      Fresh chunkSize bytes (.fileBacked { file := bytes, chunkSize, totalLen := bytes.length })

/-- Whether or not it spills, the stream begins at the start of the encoding. -/
theorem executeStreamingWithSpill_eq_ok (chunkSize : Nat) (spillThresholdMb : Option Nat)
    (millis : Nat) {buffer : RowBuffer} {bytes : Bytes} (dir : TempDir)
    (encoded : RowBufferEncoder.tryEncode buffer = .ok bytes) :
    ∃ state, (executeStreamingWithSpill chunkSize spillThresholdMb millis buffer dir).1 =
      .ok state ∧ Fresh chunkSize bytes state := by
  obtain ⟨pieces, written, rfl⟩ := map_eq_ok.mp encoded
  rw [executeStreamingWithSpill]
  cases spillThresholdMb.filter (· > 0) with
  | none =>
      rw [encodeRowBuffer, encoded]
      exact ⟨_, rfl, .inMemory⟩
  | some thresholdMb =>
      rw [written]
      have start : DiskSpillWriter.Has { spill := DiskSpillStream.new thresholdMb } dir [] :=
        ⟨[], DiskSpillStream.holds_new thresholdMb dir, rfl⟩
      have holds := DiskSpillWriter.holds_flush millis
        (DiskSpillWriter.has_writePieces millis pieces start)
      rw [List.nil_append] at holds
      dsimp only
      generalize DiskSpillWriter.writePieces millis pieces
        { spill := DiskSpillStream.new thresholdMb } dir = result at holds ⊢
      obtain ⟨writer, dir⟩ := result
      dsimp only at holds ⊢
      generalize writer.flush millis dir = result at holds ⊢
      obtain ⟨⟨spill, _⟩, dir⟩ := result
      dsimp only at holds ⊢
      cases named : spill.tempPath with
      | none =>
          cases holds with
          | spilled path writer named' => cases named.symm.trans named'
          | memory path file held =>
              rw [DiskSpillStream.finishForStreamingRead, named, held]
              exact ⟨_, rfl, .inMemory⟩
      | some path =>
          have read := DiskSpillStream.read?_close holds named
          rw [DiskSpillStream.finishForStreamingRead, named]
          dsimp only
          rw [read]
          exact ⟨_, rfl, .fileBacked⟩

theorem executeStreamingWithSpill_eq_error (chunkSize : Nat) (spillThresholdMb : Option Nat)
    (millis : Nat) {buffer : RowBuffer} {error : EncodeError} (dir : TempDir)
    (refused : RowBufferEncoder.tryEncode buffer = .error error) :
    ∃ e, executeStreamingWithSpill chunkSize spillThresholdMb millis buffer dir =
      (.error e, dir) := by
  rw [executeStreamingWithSpill]
  cases spillThresholdMb.filter (· > 0) with
  | none =>
      rw [encodeRowBuffer, refused]
      exact ⟨_, rfl⟩
  | some thresholdMb =>
      cases written : RowBufferEncoder.encodeToWriter buffer with
      | error e => exact ⟨_, rfl⟩
      | ok pieces =>
          rw [RowBufferEncoder.tryEncode, written] at refused
          cases refused

end Streaming

end OdbcFast.Native
