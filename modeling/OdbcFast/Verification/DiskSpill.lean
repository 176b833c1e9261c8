import OdbcFast.Native.Engine.DiskSpill

/-!
# Reading a spilled result

A result that was spilled and one that stayed in memory are read by two pieces of code, each
with an offset of its own. They cut the same chunks, so a reader cannot tell where the bytes
were kept.
-/

namespace OdbcFast.Verification

open Wire Native Streaming

/-! ## Reading to the end -/

/-- Fetching until there is nothing left gives the chunks in order; `has_more` says so before
each fetch, and the end stays the end. -/
inductive Fetches : StreamState → List Bytes → Prop
  | done {state : StreamState} (more : state.hasMore = false)
      (fetched : state.fetchNextChunk = (.ok none, state)) : Fetches state []
  | chunk {state next : StreamState} {chunk : Bytes} {chunks : List Bytes}
      (more : state.hasMore = true) (fetched : state.fetchNextChunk = (.ok (some chunk), next))
      (rest : Fetches next chunks) : Fetches state (chunk :: chunks)

/-- A complete result that has been read up to an offset. -/
inductive ReadTo (chunkSize : Nat) (bytes : Bytes) (offset : Nat) : StreamState → Prop
  | inMemory : ReadTo chunkSize bytes offset (.inMemory { data := bytes, offset, chunkSize })
  | fileBacked : ReadTo chunkSize bytes offset
      (.fileBacked { file := bytes, offset, chunkSize, totalLen := bytes.length })

theorem readTo_of_fresh {chunkSize : Nat} {bytes : Bytes} {state : StreamState}
    (fresh : Fresh chunkSize bytes state) : ReadTo chunkSize bytes 0 state := by
  cases fresh with
  | inMemory => exact .inMemory
  | fileBacked => exact .fileBacked

variable {chunkSize offset : Nat} {bytes : Bytes} {state : StreamState}

theorem ReadTo.fetch_end (at' : ReadTo chunkSize bytes offset state)
    (ended : bytes.length ≤ offset) :
    state.hasMore = false ∧ state.fetchNextChunk = (.ok none, state) := by
  cases at' with
  | inMemory =>
      refine ⟨decide_eq_false (Nat.not_lt.mpr ended), ?_⟩
      rw [StreamState.fetchNextChunk, InMemoryStreamingState.fetchNextChunk, if_pos ended]
  | fileBacked =>
      refine ⟨decide_eq_false (Nat.not_lt.mpr ended), ?_⟩
      rw [StreamState.fetchNextChunk, StreamingStateFileBacked.fetchNextChunk, if_pos ended]

/-- Both kinds cut off as much as the chunk size allows and is left. -/
theorem ReadTo.fetch_chunk (at' : ReadTo chunkSize bytes offset state) (positive : 1 ≤ chunkSize)
    (inside : offset < bytes.length) :
    ∃ next, ReadTo chunkSize bytes (offset + min chunkSize (bytes.length - offset)) next ∧
      state.hasMore = true ∧ state.fetchNextChunk =
        (.ok (some ((bytes.drop offset).take (min chunkSize (bytes.length - offset)))), next) := by
  have before : ¬ bytes.length ≤ offset := Nat.not_le.mpr inside
  cases at' with
  | inMemory =>
      have stop : min (offset + chunkSize) bytes.length =
          offset + min chunkSize (bytes.length - offset) := by omega
      refine ⟨_, .inMemory, decide_eq_true inside, ?_⟩
      rw [StreamState.fetchNextChunk, InMemoryStreamingState.fetchNextChunk, if_neg before]
      dsimp only
      rw [stop, Nat.add_sub_cancel_left]
  | fileBacked =>
      have whole : ¬ ((bytes.drop offset).take (min chunkSize (bytes.length - offset))).length <
          min chunkSize (bytes.length - offset) := by
        rw [List.length_take, List.length_drop]
        omega
      have some' : ¬ min chunkSize (bytes.length - offset) = 0 := by omega
      refine ⟨_, .fileBacked, decide_eq_true inside, ?_⟩
      rw [StreamState.fetchNextChunk, StreamingStateFileBacked.fetchNextChunk, if_neg before]
      dsimp only [List.head?_nil, Option.join_none]
      rw [if_neg whole]
      dsimp only
      rw [if_neg some']
      rfl

/-- From one offset on, all results with the same bytes are read as the same chunks. -/
theorem exists_chunks (positive : 1 ≤ chunkSize) (bytes : Bytes) (offset : Nat) :
    ∃ chunks, chunks.flatten = bytes.drop offset ∧
      ∀ state, ReadTo chunkSize bytes offset state → Fetches state chunks := by
  -- each chunk brings the offset closer to the end
  induction left : bytes.length - offset using Nat.strong_induction_on generalizing offset with
  | _ left' ih =>
      by_cases inside : offset < bytes.length
      · obtain ⟨chunks, all, fetches⟩ := ih
          (bytes.length - (offset + min chunkSize (bytes.length - offset))) (by omega) _ rfl
        refine ⟨(bytes.drop offset).take (min chunkSize (bytes.length - offset)) :: chunks, ?_, ?_⟩
        · rw [List.flatten_cons, all, ← List.drop_drop, List.take_append_drop]
        · intro state at'
          obtain ⟨next, onward, more, fetched⟩ := at'.fetch_chunk positive inside
          exact .chunk more fetched (fetches next onward)
      · have ended := Nat.not_lt.mp inside
        refine ⟨[], (List.drop_eq_nil_of_le ended).symm, ?_⟩
        intro state at'
        obtain ⟨more, fetched⟩ := at'.fetch_end ended
        exact .done more fetched

/-! ## Spilled or not -/

/-- Whatever the threshold, the chunk size, the time and the files that are there, a stream that
may spill is read as the same chunks as one that may not: together they are the encoding. A
buffer that cannot be encoded is refused by both. -/
theorem spilled_fetches_as_in_memory (buffer : RowBuffer) (thresholdMb chunkSize : Nat)
    (positive : 1 ≤ chunkSize) (millis millis' : Nat) (dir dir' : TempDir) :
    (∀ bytes, RowBufferEncoder.tryEncode buffer = .ok bytes →
      ∃ spilled memory chunks,
        (executeStreamingWithSpill chunkSize (some thresholdMb) millis buffer dir).1 =
          .ok spilled ∧
        (executeStreamingWithSpill chunkSize none millis' buffer dir').1 = .ok memory ∧
        Fetches spilled chunks ∧ Fetches memory chunks ∧ chunks.flatten = bytes) ∧
    (∀ error, RowBufferEncoder.tryEncode buffer = .error error →
      ∃ spilledError memoryError,
        (executeStreamingWithSpill chunkSize (some thresholdMb) millis buffer dir).1 =
          .error spilledError ∧
        (executeStreamingWithSpill chunkSize none millis' buffer dir').1 =
          .error memoryError) := by
  constructor
  · intro bytes encoded
    obtain ⟨spilled, built, fresh⟩ :=
      executeStreamingWithSpill_eq_ok chunkSize (some thresholdMb) millis dir encoded
    obtain ⟨memory, built', fresh'⟩ :=
      executeStreamingWithSpill_eq_ok chunkSize none millis' dir' encoded
    obtain ⟨chunks, all, fetches⟩ := exists_chunks positive bytes 0
    exact ⟨spilled, memory, chunks, built, built', fetches spilled (readTo_of_fresh fresh),
      fetches memory (readTo_of_fresh fresh'), all⟩
  · intro error refused
    obtain ⟨spilledError, failed⟩ :=
      executeStreamingWithSpill_eq_error chunkSize (some thresholdMb) millis dir refused
    obtain ⟨memoryError, failed'⟩ :=
      executeStreamingWithSpill_eq_error chunkSize none millis' dir' refused
    exact ⟨spilledError, memoryError, congrArg Prod.fst failed, congrArg Prod.fst failed'⟩

/-! ## Large results -/

/-- Nothing longer than the threshold is kept in memory. -/
structure Within (threshold : Nat) (stream : DiskSpillStream) : Prop where
  bounds : stream.thresholdBytes = threshold
  kept : stream.tempPath = none → stream.file = none ∧ stream.memoryBuffer.length ≤ threshold

section

variable {threshold : Nat} {stream : DiskSpillStream} {writer : DiskSpillWriter}

theorem Within.writeChunk (within : Within threshold stream) (small : threshold < 2 ^ 64 - 1)
    {chunk : Bytes} (fits : chunk.length ≤ threshold) (millis : Nat) (dir : TempDir) :
    Within threshold (stream.writeChunk millis chunk dir).1 := by
  rw [DiskSpillStream.writeChunk]
  split_ifs with spills
  · exact ⟨within.bounds, fun memory => by cases memory⟩
  · rw [DiskSpillStream.append]
    cases opened : stream.file with
    | some writer =>
        refine ⟨within.bounds, fun memory => ?_⟩
        cases opened.symm.trans (within.kept memory).1
    | none =>
        refine ⟨within.bounds, fun memory => ⟨rfl, ?_⟩⟩
        have bounds := within.bounds
        rw [DiskSpillStream.mustSpill, opened] at spills
        cases held : stream.memoryBuffer with
        | nil => exact fits
        | cons first rest =>
            rw [held] at spills
            simp only [Option.isNone_none, Bool.true_and, List.isEmpty_cons, Bool.not_false,
              Bool.and_true, decide_eq_true_eq] at spills
            rw [List.length_append]
            omega

/-- What has not yet been handed on is less than a chunk. -/
structure Drained (threshold : Nat) (writer : DiskSpillWriter) : Prop where
  within : Within threshold writer.spill
  short : writer.buffer.length < writeChunkSize

variable (small : threshold < 2 ^ 64 - 1) (chunks : writeChunkSize ≤ threshold)

include small chunks

theorem drained_drain (millis : Nat) (dir : TempDir)
    (within : Within threshold writer.spill) :
    Drained threshold (writer.drain millis dir).1 := by
  fun_induction DiskSpillWriter.drain millis writer dir with
  | case1 writer dir full chunk spill dir' wrote ih =>
      have next := within.writeChunk small
        ((List.length_take_le _ writer.buffer).trans chunks) millis dir
      rw [wrote] at next
      exact ih next
  | case2 writer dir part => exact ⟨within, Nat.lt_of_not_le part⟩

theorem drained_writePieces (millis : Nat) (pieces : List Bytes) (dir : TempDir)
    (drained : Drained threshold writer) :
    Drained threshold (DiskSpillWriter.writePieces millis pieces writer dir).1 := by
  induction pieces generalizing writer dir with
  | nil => exact drained
  | cons piece pieces ih =>
      have next : Drained threshold (writer.writeAll millis piece dir).1 := by
        rw [DiskSpillWriter.writeAll]
        split_ifs
        · exact drained
        · exact drained_drain small chunks millis dir drained.within
      exact ih _ next

theorem within_flush (millis : Nat) (dir : TempDir) (drained : Drained threshold writer) :
    Within threshold (writer.flush millis dir).1.spill := by
  rw [DiskSpillWriter.flush]
  split_ifs
  · exact drained.within
  · exact drained.within.writeChunk small (drained.short.le.trans chunks) millis dir

end

/-- A result that is larger than the threshold is read from a file. -/
theorem executeStreamingWithSpill_large (chunkSize thresholdMb millis : Nat) {buffer : RowBuffer}
    {bytes : Bytes} (dir : TempDir) (some' : 1 ≤ thresholdMb) (few : thresholdMb < 2 ^ 44)
    (encoded : RowBufferEncoder.tryEncode buffer = .ok bytes)
    (large : thresholdMb * 2 ^ 20 < bytes.length) :
    (executeStreamingWithSpill chunkSize (some thresholdMb) millis buffer dir).1 =
      .ok (.fileBacked { file := bytes, chunkSize, totalLen := bytes.length }) := by
  obtain ⟨pieces, written, rfl⟩ := map_eq_ok.mp encoded
  have threshold : (DiskSpillStream.new thresholdMb).thresholdBytes = thresholdMb * 2 ^ 20 := by
    rw [DiskSpillStream.new, Nat.max_eq_left some', Nat.mul_assoc]
    exact Nat.mod_eq_of_lt (by omega)
  have start : Drained (thresholdMb * 2 ^ 20) { spill := DiskSpillStream.new thresholdMb } :=
    ⟨⟨threshold, fun _ => ⟨rfl, Nat.zero_le _⟩⟩, Nat.zero_lt_succ _⟩
  have chunks : writeChunkSize ≤ thresholdMb * 2 ^ 20 := by
    rw [writeChunkSize]
    omega
  have filtered : (some thresholdMb).filter (· > 0) = some thresholdMb :=
    Option.filter_some_pos (decide_eq_true some')
  rw [executeStreamingWithSpill, filtered]
  dsimp only
  rw [written]
  dsimp only
  have drained := drained_writePieces (by omega) chunks millis pieces dir start
  have has := DiskSpillWriter.has_writePieces millis pieces
    (⟨[], DiskSpillStream.holds_new thresholdMb dir, rfl⟩ :
      DiskSpillWriter.Has { spill := DiskSpillStream.new thresholdMb } dir [])
  generalize DiskSpillWriter.writePieces millis pieces
    { spill := DiskSpillStream.new thresholdMb } dir = ran at drained has ⊢
  obtain ⟨writer, dir⟩ := ran
  have within := within_flush (by omega) chunks millis dir drained
  have holds := DiskSpillWriter.holds_flush millis has
  dsimp only at within holds ⊢
  generalize writer.flush millis dir = ran at within holds ⊢
  obtain ⟨⟨spill, _⟩, dir⟩ := ran
  dsimp only at within holds ⊢
  cases named : spill.tempPath with
  | none =>
      obtain ⟨-, kept⟩ := within.kept named
      cases holds with
      | spilled path writer named' => cases named.symm.trans named'
      | memory path file held =>
          rw [held, List.nil_append] at kept
          omega
  | some path =>
      have read := DiskSpillStream.read?_close holds named
      rw [DiskSpillStream.finishForStreamingRead, named]
      dsimp only
      rw [read]
      rfl

def oneCell (data : Bytes) : RowBuffer where
  columns := [⟨"blob", .binary⟩]
  rows := [[some data]]

theorem tryEncode_oneCell {data : Bytes} (short : data.length < 2 ^ 31) :
    ∃ bytes, RowBufferEncoder.tryEncode (oneCell data) = .ok bytes ∧
      data.length < bytes.length := by
  have name : (utf8Bytes "blob").length = 4 := by decide
  have fits : data.length < 2 ^ 32 := by omega
  have size : 13 + data.length < 18446744073709551616 := by omega
  have payload : 13 + data.length < 4294967296 := by omega
  obtain ⟨bytes, encoded⟩ : ∃ bytes, RowBufferEncoder.tryEncode (oneCell data) = .ok bytes := by
    rw [RowBufferEncoder.tryEncode, RowBufferEncoder.encodeToWriter]
    simp only [oneCell, RowBuffer.columnCount, RowBuffer.rowCount, checkedU16Len, checkedU32Len,
      RowBufferEncoder.metadataSize, RowBufferEncoder.rowsSize, RowBufferEncoder.rowSize,
      checkedPayloadAdd, RowBufferEncoder.columnWrites, RowBufferEncoder.rowsWrites,
      RowBufferEncoder.rowWrites, name, List.length_singleton, if_pos fits, ok_bind]
    simp only [Nat.reduceAdd, Nat.reducePow, Nat.reduceLT, if_true, size, payload, ok_bind]
    exact ⟨_, rfl⟩
  refine ⟨bytes, encoded, ?_⟩
  obtain ⟨-, rfl⟩ := RowBufferEncoder.tryEncode_eq_ok encoded
  have cell : data.length ≤ (payloadBytes (oneCell data)).length := by
    simp only [payloadBytes, oneCell, List.flatMap_singleton, rowBytes, cellBytes,
      List.length_append]
    omega
  rw [length_messageBytes]
  omega

/-- A mebibyte. -/
def largeCell : RowBuffer := oneCell (List.replicate (2 ^ 20) 7)

/-- It is read from a file as from memory. -/
theorem spilled_fetches_as_in_memory_large :
    ∃ bytes spilled memory chunks, RowBufferEncoder.tryEncode largeCell = .ok bytes ∧
      (executeStreamingWithSpill 1024 (some 1) 7 largeCell {}).1 = .ok spilled ∧
      (executeStreamingWithSpill 1024 none 8 largeCell {}).1 = .ok memory ∧
      Fetches spilled chunks ∧ Fetches memory chunks ∧ chunks.flatten = bytes ∧
      spilled = .fileBacked { file := bytes, chunkSize := 1024, totalLen := bytes.length } := by
  have length : (List.replicate (2 ^ 20) (7 : UInt8)).length = 2 ^ 20 := List.length_replicate
  obtain ⟨bytes, encoded, large⟩ := tryEncode_oneCell (length.trans_lt (by decide))
  rw [length] at large
  obtain ⟨spilled, memory, chunks, built, built', fetches, fetches', all⟩ :=
    (spilled_fetches_as_in_memory largeCell 1 1024 (by decide) 7 8 {} {}).1 bytes encoded
  have backed := executeStreamingWithSpill_large 1024 1 7 {} (by decide) (by decide) encoded large
  exact ⟨bytes, spilled, memory, chunks, encoded, built, built', fetches, fetches', all,
    Except.ok.inj (built.symm.trans backed)⟩

end OdbcFast.Verification
