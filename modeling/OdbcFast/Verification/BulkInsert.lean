import Mathlib.Data.List.TakeWhile
import OdbcFast.Native.Protocol.BulkInsert

/-!
# Bulk-insert payloads read back

The writer fills a text or binary cell up with zeros and the reader takes the first zero for
the end of the cell. A payload is read back as it was written exactly when no such cell has a
zero of its own and the width it is written with is the one its declaration gives.
-/

namespace OdbcFast.Verification

open Wire Native BulkInsert

/-! ## What is written and what is read -/

/-- A cell for each row, a bitmap of the right length, and no cell wider than its column. -/
def ColumnFits (rowCount : Nat) (spec : BulkColumnSpec) : BulkColumnData → Prop
  | .i32 values bitmap => values.length = rowCount ∧ BitmapFits spec.nullable rowCount bitmap
  | .i64 values bitmap => values.length = rowCount ∧ BitmapFits spec.nullable rowCount bitmap
  | .timestamp values bitmap =>
    values.length = rowCount ∧ BitmapFits spec.nullable rowCount bitmap
  | .text rows _ bitmap | .binary rows _ bitmap =>
    rows.length = rowCount ∧ BitmapFits spec.nullable rowCount bitmap ∧
      ∀ row ∈ rows, row.length ≤ cellWidth spec

def PayloadFits (payload : BulkInsertPayload) : Prop :=
  List.Forall₂ (ColumnFits payload.rowCount.toNat) payload.columns payload.columnData

/-- The cells of a text or binary column are written with its width and have no zeros. -/
def ColumnCarried (spec : BulkColumnSpec) : BulkColumnData → Prop
  | .text rows maxLen _ | .binary rows maxLen _ =>
    maxLen = cellWidth spec ∧ ∀ row ∈ rows, (0 : UInt8) ∉ row
  | .i32 _ _ | .i64 _ _ | .timestamp _ _ => True

def PayloadCarried (payload : BulkInsertPayload) : Prop :=
  List.Forall₂ ColumnCarried payload.columns payload.columnData

/-- What becomes of a column. -/
def receivedCells : BulkColumnData → BulkColumnData
  | .text rows maxLen bitmap =>
    .text (rows.map fun row => trimmed (paddedCell maxLen row)) maxLen bitmap
  | .binary rows maxLen bitmap =>
    .binary (rows.map fun row => trimmed (paddedCell maxLen row)) maxLen bitmap
  | column => column

/-! ## One cell -/

theorem paddedCell_of_le {maxLen : Nat} {row : Bytes} (short : row.length ≤ maxLen) :
    paddedCell maxLen row = row ++ List.replicate (maxLen - row.length) 0 := by
  rw [paddedCell, Nat.min_eq_left short, List.take_length]

theorem trimmed_replicate_zero (n : Nat) : trimmed (List.replicate n 0) = [] := by
  cases n <;> rfl

theorem trimmed_append {row : Bytes} (more : Bytes) (plain : (0 : UInt8) ∉ row) :
    trimmed (row ++ more) = row ++ trimmed more := by
  refine List.takeWhile_append_of_pos fun byte member => decide_eq_true ?_
  rintro rfl
  exact plain member

theorem zero_notMem_trimmed (raw : Bytes) : (0 : UInt8) ∉ trimmed raw := by
  intro member
  have differs := List.mem_takeWhile_imp member
  simp at differs

/-- A cell that fits comes back exactly when it has no zero. -/
theorem trimmed_paddedCell_eq_iff {maxLen : Nat} {row : Bytes} (short : row.length ≤ maxLen) :
    trimmed (paddedCell maxLen row) = row ↔ (0 : UInt8) ∉ row := by
  constructor
  · intro same
    rw [← same]
    exact zero_notMem_trimmed _
  · intro plain
    rw [paddedCell_of_le short, trimmed_append _ plain, trimmed_replicate_zero, List.append_nil]

theorem map_trimmed_eq_iff {maxLen : Nat} {rows : List Bytes}
    (short : ∀ row ∈ rows, row.length ≤ maxLen) :
    rows.map (fun row => trimmed (paddedCell maxLen row)) = rows ↔
      ∀ row ∈ rows, (0 : UInt8) ∉ row := by
  have each : rows.map (fun row => trimmed (paddedCell maxLen row)) = rows.map id ↔
      ∀ row ∈ rows, trimmed (paddedCell maxLen row) = row := List.map_inj_left
  rw [List.map_id] at each
  exact each.trans (forall₂_congr fun row member => trimmed_paddedCell_eq_iff (short row member))

/-! ## One column -/

section

variable {rowCount : Nat} {spec : BulkColumnSpec} {column : BulkColumnData} {block : Bytes}

/-- Written with the width of its declaration, a column is received. -/
theorem reads_serialized (fits : ColumnFits rowCount spec column) (width : HasWidth spec column)
    (written : serializeColumnData spec column = .ok block) :
    Reads rowCount spec block (receivedCells column) := by
  rcases serializeColumnData_cases written with ⟨values, bitmap, rfl, typed, rfl⟩ |
    ⟨values, bitmap, rfl, typed, rfl⟩ | ⟨values, bitmap, rfl, typed, rfl⟩ |
    ⟨rows, maxLen, bitmap, rfl, typed, rfl⟩ | ⟨rows, maxLen, bitmap, rfl, typed, rfl⟩
  · exact reads_i32 typed fits.1 fits.2
  · exact reads_i64 typed fits.1 fits.2
  · exact reads_timestamp typed fits.1 fits.2
  · cases width
    rcases typed with typed | typed
    · have reads := reads_trimmed (by simp [typed]) fits.1 fits.2.1
      rw [trimmedColumn, typed] at reads
      exact reads
    · have reads := reads_trimmed (by simp [typed]) fits.1 fits.2.1
      rw [trimmedColumn, typed] at reads
      exact reads
  · cases width
    have reads := reads_trimmed (by simp [typed]) fits.1 fits.2.1
    rw [trimmedColumn, typed] at reads
    exact reads

theorem receivedCells_eq_iff (fits : ColumnFits rowCount spec column)
    (width : HasWidth spec column) :
    receivedCells column = column ↔ ColumnCarried spec column := by
  cases column with
  | i32 | i64 | timestamp => exact iff_of_true rfl trivial
  | text rows maxLen bitmap =>
      cases width
      rw [receivedCells, ColumnCarried, BulkColumnData.text.injEq, map_trimmed_eq_iff fits.2.2]
      simp
  | binary rows maxLen bitmap =>
      cases width
      rw [receivedCells, ColumnCarried, BulkColumnData.binary.injEq, map_trimmed_eq_iff fits.2.2]
      simp

theorem ColumnCarried.hasWidth (carried : ColumnCarried spec column) : HasWidth spec column := by
  cases column with
  | i32 | i64 | timestamp => trivial
  | text | binary => exact carried.1

end

/-! ## The whole payload -/

section

variable {payload : BulkInsertPayload} {bytes : Bytes}

theorem forall₂_reads {rowCount : Nat} {columns : List BulkColumnSpec}
    {columnData : List BulkColumnData} {blocks : List Bytes}
    (fits : List.Forall₂ (ColumnFits rowCount) columns columnData)
    (widths : List.Forall₂ HasWidth columns columnData)
    (each : List.Forall₂ (fun column block => serializeColumnData column.1 column.2 = .ok block)
      (columns.zip columnData) blocks) :
    List.Forall₂ (fun spec block => Reads rowCount spec block.1 block.2) columns
      (blocks.zip (columnData.map receivedCells)) := by
  induction fits generalizing blocks with
  | nil =>
      cases each
      exact .nil
  | cons fit _ ih =>
      cases widths with
      | cons width widths =>
      cases each with
      | cons written each => exact .cons (reads_serialized fit width written) (ih widths each)

/-- Written with the widths of its declarations, a payload is received column by column. -/
theorem parse_serialized (fits : PayloadFits payload)
    (widths : List.Forall₂ HasWidth payload.columns payload.columnData)
    (written : serializeBulkInsertPayload payload = .ok bytes) :
    parseBulkInsertPayload bytes =
      .ok { payload with columnData := payload.columnData.map receivedCells } := by
  obtain ⟨caps, blocks, rfl, each⟩ := serialize_eq_ok written
  have parsed := parse_layout caps (forall₂_reads fits widths each)
  have many : blocks.length = (payload.columnData.map receivedCells).length := by
    rw [← each.length_eq, List.length_zip, fits.length_eq, Nat.min_self, List.length_map]
  rw [List.map_fst_zip many.le, List.map_snd_zip many.ge, UInt32.ofNat_toNat] at parsed
  exact parsed

theorem forall₂_carried_iff {rowCount : Nat} {columns : List BulkColumnSpec}
    {columnData : List BulkColumnData}
    (fits : List.Forall₂ (ColumnFits rowCount) columns columnData)
    (widths : List.Forall₂ HasWidth columns columnData) :
    columnData.map receivedCells = columnData ↔ List.Forall₂ ColumnCarried columns columnData := by
  induction fits with
  | nil => exact iff_of_true rfl .nil
  | cons fit _ ih =>
      cases widths with
      | cons width widths =>
          rw [List.map_cons, List.cons.injEq, List.forall₂_cons, receivedCells_eq_iff fit width,
            ih widths]

/-- A payload within its declarations is read back as it was written exactly when its texts and
binaries have no zeros and are written with the declared width. -/
theorem parse_serialize_iff (fits : PayloadFits payload)
    (written : serializeBulkInsertPayload payload = .ok bytes) :
    parseBulkInsertPayload bytes = .ok payload ↔ PayloadCarried payload := by
  have received : List.Forall₂ HasWidth payload.columns payload.columnData →
      (parseBulkInsertPayload bytes = .ok payload ↔ PayloadCarried payload) := by
    intro widths
    rw [parse_serialized fits widths written, PayloadCarried, ← forall₂_carried_iff fits widths,
      Except.ok.injEq]
    constructor
    · exact congrArg BulkInsertPayload.columnData
    · intro same
      rw [same]
  constructor
  · intro parsed
    exact (received (hasWidth_of_parse parsed)).mp parsed
  · intro carried
    exact (received (carried.imp fun _ _ carried => carried.hasWidth)).mpr carried

end

/-- A payload with one column of each kind of cell. -/
def mixedPayload : BulkInsertPayload where
  table := "t"
  columns := [⟨"n", .i32, true, 0⟩, ⟨"x", .text, false, 4⟩]
  rowCount := 2
  columnData := [.i32 [7, 0] (some [2]), .text [[104, 105], []] 4 none]

theorem parse_serialize_iff_mixedPayload :
    ∃ bytes, PayloadFits mixedPayload ∧ serializeBulkInsertPayload mixedPayload = .ok bytes ∧
      PayloadCarried mixedPayload ∧ parseBulkInsertPayload bytes = .ok mixedPayload := by
  have fits : PayloadFits mixedPayload :=
    .cons ⟨rfl, rfl, rfl⟩ (.cons ⟨rfl, rfl, by decide⟩ .nil)
  have carried : PayloadCarried mixedPayload := .cons trivial (.cons ⟨rfl, by decide⟩ .nil)
  exact ⟨_, fits, rfl, carried, (parse_serialize_iff fits rfl).mpr carried⟩

/-- A binary cell with a zero in it. -/
def zeroPayload : BulkInsertPayload where
  table := "t"
  columns := [⟨"b", .binary, false, 3⟩]
  rowCount := 1
  columnData := [.binary [[1, 0, 2]] 3 none]

theorem zero_cuts_binary_cell :
    ¬ ∀ payload bytes, PayloadFits payload → serializeBulkInsertPayload payload = .ok bytes →
      parseBulkInsertPayload bytes = .ok payload := by
  intro parses
  have fits : PayloadFits zeroPayload := .cons ⟨rfl, rfl, by decide⟩ .nil
  have parsed := parses zeroPayload _ fits rfl
  have cut : parseBulkInsertPayload [1, 0, 0, 0, 116, 1, 0, 0, 0, 1, 0, 0, 0, 98, 4, 0, 3, 0, 0, 0,
      1, 0, 0, 0, 1, 0, 2] =
      .ok { zeroPayload with columnData := [.binary [[1]] 3 none] } := rfl
  cases parsed.symm.trans cut

end OdbcFast.Verification
