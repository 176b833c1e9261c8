import OdbcFast.Verification.ArrayBinding
import OdbcFast.Verification.BulkInsert

/-!
# The chunks of a parallel insert

Rows are cut into chunks of one size, of which there are no more than may be inserted at a time. A
chunk begins anywhere, so its null bits are packed anew. Row by row, each chunk is what stood in
its range, and the chunks one behind the other are the rows.
-/

namespace OdbcFast.Verification

open Wire OdbcFast.Native
open OdbcFast.Native.ArrayBinding (isNullAt)

/-! ## Ranges -/

/-- No more pieces than the size was chosen for. -/
theorem length_stepRanges_le {total size count : Nat} (positive : 0 < size)
    (enough : total ≤ count * size) : (stepRanges total size).length ≤ count := by
  rw [stepRanges, List.length_map, List.length_range]
  apply Nat.le_of_lt_succ
  rw [Nat.div_lt_iff_lt_mul positive, Nat.succ_mul]
  omega

theorem le_mul_ceil (total : Nat) {count : Nat} (positive : 0 < count) :
    total ≤ count * ((total + count - 1) / count) := by
  have whole := Nat.div_add_mod (total + count - 1) count
  have rest := Nat.mod_lt (total + count - 1) positive
  omega

theorem length_rowChunkRanges_le (rowCount : Nat) {parallelism : Nat} (positive : 0 < parallelism) :
    (rowChunkRanges rowCount parallelism).length ≤ parallelism := by
  rw [rowChunkRanges]
  split_ifs with none
  · exact Nat.zero_le _
  · dsimp only
    have workers : 0 < min (max parallelism 1) rowCount := by omega
    have few : min (max parallelism 1) rowCount ≤ parallelism := by omega
    generalize min (max parallelism 1) rowCount = count at workers few ⊢
    apply le_trans _ few
    apply length_stepRanges_le (by omega)
    exact (le_mul_ceil rowCount workers).trans (Nat.mul_le_mul_left count (Nat.le_max_left _ _))

theorem length_chunkRanges_le (rowCount : Nat) {parallelism : Nat} (positive : 0 < parallelism) :
    (chunkRanges rowCount parallelism).length ≤ parallelism := by
  rw [chunkRanges]
  split_ifs with none
  · exact Nat.zero_le _
  · dsimp only
    rw [Nat.max_eq_left positive]
    have enough := le_mul_ceil rowCount positive
    generalize (rowCount + parallelism - 1) / parallelism = size at enough ⊢
    apply length_stepRanges_le (by omega)
    by_cases small : max size 1 ≤ rowCount
    · rw [Nat.min_eq_left small]
      exact enough.trans (Nat.mul_le_mul_left parallelism (Nat.le_max_left _ _))
    · rw [Nat.min_eq_right (Nat.le_of_not_le small)]
      exact Nat.le_mul_of_pos_left rowCount positive

theorem flatten_rowChunks {α : Type} (rows : List α) (parallelism : Nat) :
    ((rowChunkRanges rows.length parallelism).map (slice · rows)).flatten = rows := by
  rw [rowChunkRanges]
  split_ifs with none
  · exact (List.length_eq_zero_iff.mp none).symm
  · exact flatten_slices (by omega)

theorem flatten_chunks {α : Type} (rows : List α) (parallelism : Nat) :
    ((chunkRanges rows.length parallelism).map (slice · rows)).flatten = rows := by
  rw [chunkRanges]
  split_ifs with none
  · exact (List.length_eq_zero_iff.mp none).symm
  · exact flatten_slices (by omega)

theorem mem_rowChunkRanges {rowCount parallelism : Nat} {range : Nat × Nat}
    (member : range ∈ rowChunkRanges rowCount parallelism) :
    range.1 < range.2 ∧ range.2 ≤ rowCount := by
  rw [rowChunkRanges] at member
  split_ifs at member
  · cases member
  · exact mem_stepRanges member

/-! ## Null bits -/

theorem length_packNulls (bitmap : Bytes) (start : Nat) (rows : List Nat) (out : Bytes) :
    (rows.foldl (fun out i => if isNull bitmap (start + i) then Bitmap.set out i else out)
      out).length = out.length := by
  induction rows generalizing out with
  | nil => rfl
  | cons i rows ih =>
      rw [List.foldl_cons, ih]
      split_ifs
      · exact Bitmap.length_set out i
      · rfl

theorem length_sliceNullBitmap (bitmap : Bytes) (start len : Nat) :
    (sliceNullBitmap bitmap start len).length = nullBitmapSize len := by
  rw [sliceNullBitmap, length_packNulls, List.length_replicate]

/-- A bit is set if it was or if its row is null. -/
theorem test_packNulls (bitmap : Bytes) (start : Nat) {rows : List Nat} {out : Bytes}
    (inside : ∀ i ∈ rows, i / 8 < out.length) (row : Nat) :
    Bitmap.test (rows.foldl (fun out i =>
        if isNull bitmap (start + i) then Bitmap.set out i else out) out) row =
      (Bitmap.test out row || decide (row ∈ rows) && isNull bitmap (start + row)) := by
  induction rows generalizing out with
  | nil => simp
  | cons i rows ih =>
      rw [List.forall_mem_cons] at inside
      rw [List.foldl_cons, ih]
      · by_cases null : isNull bitmap (start + i) = true
        · rw [if_pos null, Bitmap.test_set inside.1]
          by_cases same : row = i
          · simp [same, null]
          · simp [same]
        · rw [if_neg null]
          by_cases same : row = i
          · simp [same, Bool.eq_false_of_not_eq_true null]
          · simp [same]
      · intro j later
        split_ifs
        · rw [Bitmap.length_set]
          exact inside.2 j later
        · exact inside.2 j later

/-- The bits of a chunk are those of its rows, wherever it begins. -/
theorem isNull_sliceNullBitmap (bitmap : Bytes) (start : Nat) {len row : Nat} (early : row < len) :
    isNull (sliceNullBitmap bitmap start len) row = isNull bitmap (start + row) := by
  rw [isNull, sliceNullBitmap, test_packNulls]
  · rw [Bitmap.test_replicate_zero, Bool.false_or, decide_eq_true (List.mem_range.mpr early),
      Bool.true_and]
  · intro i member
    rw [List.length_replicate, nullBitmapSize, Bitmap.size]
    have := List.mem_range.mp member
    omega

/-! ## Columns and payloads -/

section

variable {range : Nat × Nat} {row : Nat}

theorem getD_slice {α : Type} (rows : List α) (default : α) (early : row < range.2 - range.1) :
    (slice range rows).getD row default = rows.getD (range.1 + row) default := by
  rw [List.getD_eq_getElem?_getD, List.getD_eq_getElem?_getD, slice, List.getElem?_take,
    if_pos early, List.getElem?_drop]

/-- The rows of a range of a column, where it has them. -/
def cutColumn (range : Nat × Nat) : BulkColumnData → BulkColumnData
  | .i32 values bitmap => .i32 (slice range values) (bitmap.map (sliceColumn.cut range))
  | .i64 values bitmap => .i64 (slice range values) (bitmap.map (sliceColumn.cut range))
  | .text rows maxLen bitmap => .text (slice range rows) maxLen (bitmap.map (sliceColumn.cut range))
  | .binary rows maxLen bitmap =>
    .binary (slice range rows) maxLen (bitmap.map (sliceColumn.cut range))
  | .timestamp values bitmap =>
    .timestamp (slice range values) (bitmap.map (sliceColumn.cut range))

theorem sliceOf_eq_ok {α : Type} {rows : List α} (inside : range.2 ≤ rows.length) :
    sliceOf range rows = .ok (slice range rows) :=
  if_pos inside

/-- A column that fits is long enough for every range of the rows. -/
theorem sliceColumn_eq_ok {rowCount : Nat} {spec : BulkColumnSpec} {data : BulkColumnData}
    (fits : ColumnFits rowCount spec data) (inside : range.2 ≤ rowCount) :
    sliceColumn range data = .ok (cutColumn range data) := by
  cases data with
  | i32 values bitmap | i64 values bitmap | timestamp values bitmap =>
      obtain ⟨rfl, -⟩ := fits
      exact map_eq_ok.mpr ⟨_, sliceOf_eq_ok inside, rfl⟩
  | text rows _ bitmap | binary rows _ bitmap =>
      obtain ⟨rfl, -⟩ := fits
      exact map_eq_ok.mpr ⟨_, sliceOf_eq_ok inside, rfl⟩

theorem valueAt_cutColumn (data : BulkColumnData) (early : row < range.2 - range.1) :
    valueAt row (cutColumn range data) = valueAt (range.1 + row) data := by
  cases data with
  | i32 values _ | i64 values _ | timestamp values _ =>
      rw [cutColumn, valueAt, valueAt, getD_slice values _ early]
  | text rows _ _ | binary rows _ _ =>
      rw [cutColumn, valueAt, valueAt, getD_slice rows _ early]

theorem columnBitmap_cutColumn (range : Nat × Nat) (data : BulkColumnData) :
    columnBitmap (cutColumn range data) =
      (columnBitmap data).map (sliceNullBitmap · range.1 (range.2 - range.1)) := by
  cases data <;> rfl

theorem isNullAt_cutColumn (data : BulkColumnData) (early : row < range.2 - range.1) :
    isNullAt (columnBitmap (cutColumn range data)) row =
      isNullAt (columnBitmap data) (range.1 + row) := by
  rw [columnBitmap_cutColumn, isNullAt, isNullAt]
  cases columnBitmap data with
  | none => rfl
  | some bitmap => exact isNull_sliceNullBitmap bitmap range.1 early

end

/-- A row as it is stored: each cell with what its null bit says. -/
def storedRow (payload : BulkInsertPayload) (row : Nat) : List (BoundCell × Bool) :=
  payload.columnData.map fun data => (valueAt row data, isNullAt (columnBitmap data) row)

def storedRows (payload : BulkInsertPayload) : List (List (BoundCell × Bool)) :=
  (List.range payload.rowCount.toNat).map (storedRow payload)

theorem length_storedRows (payload : BulkInsertPayload) :
    (storedRows payload).length = payload.rowCount.toNat := by
  rw [storedRows, List.length_map, List.length_range]

/-- The chunk that is made of a range. -/
def chunkOf (payload : BulkInsertPayload) (range : Nat × Nat) : BulkInsertPayload :=
  { payload with
    rowCount := UInt32.ofNat (range.2 - range.1)
    columnData := payload.columnData.map (cutColumn range) }

section

variable {payload : BulkInsertPayload} {range : Nat × Nat}

theorem slicePayloadRows_eq_ok (fits : PayloadFits payload) (forward : range.1 ≤ range.2)
    (inside : range.2 ≤ payload.rowCount.toNat) :
    slicePayloadRows payload range = .ok (chunkOf payload range) := by
  rw [slicePayloadRows, if_neg (by omega)]
  have each : List.Forall₂ (fun data spec => sliceColumn range data = .ok (cutColumn range data) ∧
      ColumnFits payload.rowCount.toNat spec data) payload.columnData payload.columns :=
    fits.flip.imp fun _ _ column => ⟨sliceColumn_eq_ok column inside, column⟩
  exact map_eq_ok.mpr ⟨_, mapM_eq_ok ((List.forall₂_and_left _ _).mp each).1, rfl⟩

theorem toNat_rowCount_chunkOf (inside : range.2 ≤ payload.rowCount.toNat) :
    (chunkOf payload range).rowCount.toNat = range.2 - range.1 := by
  have bounded := payload.rowCount.toNat_lt
  rw [chunkOf, UInt32.toNat_ofNat_of_lt']
  rw [UInt32.size]
  omega

/-- The rows of a chunk are those of its range. -/
theorem storedRows_chunkOf (inside : range.2 ≤ payload.rowCount.toNat) :
    storedRows (chunkOf payload range) = slice range (storedRows payload) := by
  have length : (slice range (storedRows payload)).length = range.2 - range.1 :=
    length_slice (by rwa [length_storedRows])
  apply List.ext_getElem
  · rw [length, length_storedRows, toNat_rowCount_chunkOf inside]
  · intro row early late
    rw [length] at late
    have same : storedRow (chunkOf payload range) row = storedRow payload (range.1 + row) := by
      rw [storedRow, storedRow, chunkOf, List.map_map]
      apply List.map_congr_left
      intro data _
      rw [Function.comp_apply, valueAt_cutColumn data late, isNullAt_cutColumn data late]
    simpa [storedRows, slice] using same

theorem bitmapFits_slice {nullable : Bool} {rowCount : Nat} {bitmap : Option Bytes}
    (fits : BulkInsert.BitmapFits nullable rowCount bitmap) (start len : Nat) :
    BulkInsert.BitmapFits nullable len (bitmap.map (sliceNullBitmap · start len)) := by
  cases bitmap with
  | none => exact fits
  | some bytes => exact ⟨fits.1, length_sliceNullBitmap bytes start len⟩

theorem columnFits_cutColumn {rowCount : Nat} {spec : BulkColumnSpec} {data : BulkColumnData}
    (fits : ColumnFits rowCount spec data) (inside : range.2 ≤ rowCount) :
    ColumnFits (range.2 - range.1) spec (cutColumn range data) := by
  cases data with
  | i32 values bitmap | i64 values bitmap | timestamp values bitmap =>
      obtain ⟨rfl, nulls⟩ := fits
      exact ⟨length_slice inside, bitmapFits_slice nulls _ _⟩
  | text rows _ bitmap | binary rows _ bitmap =>
      obtain ⟨rfl, nulls, narrow⟩ := fits
      refine ⟨length_slice inside, bitmapFits_slice nulls _ _, ?_⟩
      exact fun row member => narrow row (List.mem_of_mem_drop (List.mem_of_mem_take member))

theorem payloadFits_chunkOf (fits : PayloadFits payload)
    (inside : range.2 ≤ payload.rowCount.toNat) : PayloadFits (chunkOf payload range) := by
  rw [PayloadFits, toNat_rowCount_chunkOf inside]
  apply List.forall₂_map_right_iff.mpr
  exact fits.imp fun _ _ column => columnFits_cutColumn column inside

end

/-! ## Chunks -/

/-- Up to `parallelism` chunks, none of them empty, that hold the rows one behind the other. -/
structure CutsRows {C R : Type} (parallelism : Nat) (rows : C → List R) (whole : C)
    (chunks : List C) : Prop where
  few : chunks.length ≤ parallelism
  nonempty : ∀ chunk ∈ chunks, rows chunk ≠ []
  all : chunks.flatMap rows = rows whole

/-- The chunk goes into the same columns of the same table. -/
structure ChunkFits (payload chunk : BulkInsertPayload) : Prop where
  table : chunk.table = payload.table
  columns : chunk.columns = payload.columns
  fits : PayloadFits chunk

theorem cutsRows_slices {C R : Type} {parallelism : Nat} {rows : C → List R} {whole : C}
    {chunk : Nat × Nat → C} {ranges : List (Nat × Nat)} (few : ranges.length ≤ parallelism)
    (covers : (ranges.map (slice · (rows whole))).flatten = rows whole)
    (inside : ∀ range ∈ ranges, range.1 < range.2 ∧ range.2 ≤ (rows whole).length)
    (each : ∀ range ∈ ranges, rows (chunk range) = slice range (rows whole)) :
    CutsRows parallelism rows whole (ranges.map chunk) where
  few := by rwa [List.length_map]
  nonempty := by
    rw [List.forall_mem_map]
    intro range member none
    obtain ⟨forward, within⟩ := inside range member
    have length := @length_slice R range (rows whole) within
    rw [← each range member, none, List.length_nil] at length
    omega
  all := by
    rw [List.flatMap_map, List.flatMap_def, List.map_congr_left each, covers]

theorem slicePayloadRows_cuts {payload : BulkInsertPayload} (fits : PayloadFits payload)
    {parallelism : Nat} (positive : 0 < parallelism) : ∃ chunks,
      (rowChunkRanges payload.rowCount.toNat parallelism).mapM (slicePayloadRows payload) =
        .ok chunks ∧
      CutsRows parallelism storedRows payload chunks ∧
      ∀ chunk ∈ chunks, ChunkFits payload chunk := by
  have inside : ∀ range ∈ rowChunkRanges payload.rowCount.toNat parallelism,
      range.1 < range.2 ∧ range.2 ≤ payload.rowCount.toNat :=
    fun range member => mem_rowChunkRanges member
  have covers := flatten_rowChunks (storedRows payload) parallelism
  have length := length_storedRows payload
  rw [length] at covers
  refine ⟨(rowChunkRanges payload.rowCount.toNat parallelism).map (chunkOf payload),
    mapM_eq_ok fun range member => ?_, ?_, ?_⟩
  · obtain ⟨forward, within⟩ := inside range member
    exact slicePayloadRows_eq_ok fits (Nat.le_of_lt forward) within
  · apply cutsRows_slices (length_rowChunkRanges_le _ positive) covers
    · rwa [length]
    · exact fun range member => storedRows_chunkOf (inside range member).2
  · rw [List.forall_mem_map]
    exact fun range member => ⟨rfl, rfl, payloadFits_chunkOf fits (inside range member).2⟩

theorem rowsOf_slice {columns : List String} {data : List (List Int32)} {range : Nat × Nat}
    (valid : validateI32Columns columns data = .ok ())
    (inside : range.2 ≤ (data.map List.length).headD 0) (some : data ≠ []) :
    rowsOf (data.map (slice range)) = slice range (rowsOf data) := by
  have counted := (length_rowsOf _).trans (headD_slice valid inside some)
  have length : (slice range (rowsOf data)).length = range.2 - range.1 :=
    length_slice (by rwa [length_rowsOf])
  apply List.ext_getElem (counted.trans length.symm)
  intro row _ late
  rw [length] at late
  have same : (data.map (slice range)).map (fun column => column.getD row 0) =
      data.map fun column => column.getD (range.1 + row) 0 := by
    rw [List.map_map]
    apply List.map_congr_left
    exact fun column _ => getD_slice column 0 late
  simpa [rowsOf, slice] using same

theorem sliceColumns_cut {columns : List String} {data : List (List Int32)}
    (valid : validateI32Columns columns data = .ok ()) {parallelism : Nat}
    (positive : 0 < parallelism) :
    CutsRows parallelism rowsOf data
      ((chunkRanges ((data.map List.length).headD 0) parallelism).map fun range =>
        data.map (slice range)) := by
  have covers := flatten_chunks (rowsOf data) parallelism
  rw [length_rowsOf] at covers
  apply cutsRows_slices (length_chunkRanges_le _ positive) covers
  · rw [length_rowsOf]
    exact fun range member => mem_chunkRanges member
  · intro range member
    obtain ⟨forward, within⟩ := mem_chunkRanges member
    apply rowsOf_slice valid within
    rintro rfl
    rw [List.map_nil, List.headD_nil] at within
    omega

/-- Of the rows of a payload, and of the columns of a parallel insert, every row is in one chunk,
with its cells and their null bits, and the chunks hold them in order. -/
theorem chunks_cut_rows {parallelism : Nat} (positive : 0 < parallelism) :
    (∀ payload, PayloadFits payload → ∃ chunks,
      (rowChunkRanges payload.rowCount.toNat parallelism).mapM (slicePayloadRows payload) =
        .ok chunks ∧
      CutsRows parallelism storedRows payload chunks ∧
      ∀ chunk ∈ chunks, ChunkFits payload chunk) ∧
    ∀ columns data, validateI32Columns columns data = .ok () →
      CutsRows parallelism rowsOf data
        ((chunkRanges ((data.map List.length).headD 0) parallelism).map fun range =>
          data.map (slice range)) ∧
      ∀ range ∈ chunkRanges ((data.map List.length).headD 0) parallelism,
        validateI32Columns columns (data.map (slice range)) = .ok () := by
  refine ⟨fun payload fits => slicePayloadRows_cuts fits positive, fun columns data valid => ?_⟩
  refine ⟨sliceColumns_cut valid positive, fun range member => ?_⟩
  exact valid_slice valid (mem_chunkRanges member).2

theorem three_rows_in_two_chunks :
    ∃ chunks, (rowChunkRanges 3 2).mapM (slicePayloadRows threeRows) = .ok chunks ∧
      CutsRows 2 storedRows threeRows chunks ∧ ∀ chunk ∈ chunks, ChunkFits threeRows chunk :=
  (chunks_cut_rows (by decide)).1 threeRows (.cons ⟨rfl, rfl, rfl⟩ .nil)

end OdbcFast.Verification
