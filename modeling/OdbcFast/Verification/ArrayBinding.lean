import OdbcFast.Native.Engine.ArrayBinding
import OdbcFast.Verification.ParallelInsert

/-!
# The rows that a bulk insert sends

A chunk that has been filled holds the cells of its rows, whatever the chunk before it has left in
the buffers. So the executions send the rows of the payload piece by piece, up to the first call
that the driver refuses.

A bulk copy sends the same cells, row by row, on handles of its own. Where it fails for a reason
that lies not in the payload, the executions take its place.
-/

namespace OdbcFast.Verification

open Wire OdbcFast.Native
open OdbcFast.Native.ArrayBinding hiding fillColumn bulkInsertGeneric

/-! ## The rows of a payload -/

def columnBitmap : BulkColumnData → Option Bytes
  | .i32 _ bitmap | .i64 _ bitmap | .text _ _ bitmap | .binary _ _ bitmap
  | .timestamp _ bitmap => bitmap

/-- The value of a cell, its null bit aside. -/
def valueAt (row : Nat) : BulkColumnData → BoundCell
  | .i32 values _ => .i32 (values.getD row 0)
  | .i64 values _ => .i64 (values.getD row 0)
  | .text rows _ _ => .text (rows.getD row [])
  | .binary rows _ _ => .binary (rows.getD row [])
  | .timestamp values _ => .timestamp (values.getD row ⟨0, 0, 0, 0, 0, 0, 0⟩)

def cellAt (row : Nat) (data : BulkColumnData) : BoundCell :=
  if isNullAt (columnBitmap data) row then .null else valueAt row data

def payloadRow (payload : BulkInsertPayload) (row : Nat) : List BoundCell :=
  payload.columnData.map (cellAt row)

def payloadRows (payload : BulkInsertPayload) : List (List BoundCell) :=
  (List.range payload.rowCount.toNat).map (payloadRow payload)

def workOf : SessionCall (List BoundCell) → List (List BoundCell)
  | .statement rows => rows
  | _ => []

/-- The rows of the executions that were called. -/
def rowsSent (records : List (SessionRecord (List BoundCell))) : List (List BoundCell) :=
  records.flatMap fun record => workOf record.call

/-- What a part of an insert has added to the calls of a session when it ends: the rows up to the
call that was refused, or all. A `sound` insert ends early for no other reason. -/
structure Sends (rows : List (List BoundCell)) (total : Nat) (sound : Prop)
    (session : Session (List BoundCell))
    (ran : Except (Fault OdbcError) Nat × Session (List BoundCell))
    (added : List (SessionRecord (List BoundCell))) : Prop where
  history : ran.2.history = session.history ++ added
  upTo : rowsSent added <+: rows
  all : ∀ count, ran.1 = .ok count → rowsSent added = rows ∧ count = total + rows.length
  refused : sound → (∀ record ∈ added, record.refusal = none) → ∃ count, ran.1 = .ok count

/-! ## One column -/

section

variable {B : Type} {inserter : BulkInserter B}

/-- The buffers after a column has been filled. -/
structure Filled (inserter : BulkInserter B) (before after : B) (bufIdx chunkLen : Nat)
    (cells : Nat → BoundCell) : Prop where
  capacity : inserter.capacity after = inserter.capacity before
  descs : inserter.descs after = inserter.descs before
  written : ∀ i < chunkLen, inserter.cell after bufIdx i = cells i
  others : ∀ column row, column ≠ bufIdx →
    inserter.cell after column row = inserter.cell before column row

theorem putCell_eq_ok {desc : BufferDesc} {column row : Nat} {cell : BoundCell} {buffers after : B}
    (put : putCell inserter desc column row cell buffers = .ok after) :
    after = inserter.setCell column row cell buffers := by
  rw [putCell] at put
  split_ifs at put
  exact (Except.ok.inj put).symm

theorem fillRows_filled {desc : BufferDesc} {column chunkLen : Nat}
    {readCell : Nat → Except (Fault OdbcError) BoundCell} {cells : Nat → BoundCell}
    {buffers after : B}
    (reads : ∀ i cell, readCell i = .ok cell → cell = cells i)
    (filled : fillRows inserter desc column readCell chunkLen buffers = .ok after) :
    Filled inserter buffers after column chunkLen cells := by
  induction chunkLen generalizing after with
  | zero =>
      cases filled
      exact ⟨rfl, rfl, by rintro i ⟨⟩, fun _ _ _ => rfl⟩
  | succ chunkLen ih =>
      obtain ⟨middle, first, filled⟩ := bind_eq_ok.mp filled
      obtain ⟨cell, read, put⟩ := bind_eq_ok.mp filled
      have before := ih first
      rw [putCell_eq_ok put]
      refine ⟨?_, ?_, fun i early => ?_, fun column' row other => ?_⟩
      · rw [inserter.capacity_setCell, before.capacity]
      · rw [inserter.descs_setCell, before.descs]
      · rw [inserter.cell_setCell]
        split_ifs with last
        · rw [last.2, reads _ _ read]
        · refine before.written i ?_
          have other : i ≠ chunkLen := fun same => last ⟨rfl, same⟩
          omega
      · rw [inserter.cell_setCell, if_neg fun same => other same.1]
        exact before.others column' row other

theorem valueCell_eq_ok {α : Type} {wrap : α → BoundCell} {values : List α} {bitmap : Option Bytes}
    {row : Nat} {cell : BoundCell} (read : valueCell wrap values bitmap row = .ok cell)
    (default : α) :
    cell = if isNullAt bitmap row then .null else wrap (values.getD row default) := by
  rw [valueCell] at read
  rcases there : values[row]? with _ | value
  · rw [there] at read
    cases read
  · rw [there] at read
    rw [List.getD_eq_getElem?_getD, there]
    exact (Except.ok.inj read).symm

theorem bytesCell_eq_ok {wrap : Bytes → BoundCell} {rows : List Bytes} {bitmap : Option Bytes}
    {row : Nat} {cell : BoundCell} (read : bytesCell wrap rows bitmap row = .ok cell) :
    cell = if isNullAt bitmap row then .null else wrap (rows.getD row []) := by
  rw [bytesCell] at read
  split_ifs at read ⊢
  · exact (Except.ok.inj read).symm
  · rcases there : rows[row]? with _ | bytes
    · rw [there] at read
      cases read
    · rw [there] at read
      rw [List.getD_eq_getElem?_getD, there]
      exact (Except.ok.inj read).symm

theorem fillExpected_filled {bufIdx chunkStart chunkLen : Nat} {expected : BufferDesc → Bool}
    {message : String} {readCell : Nat → Except (Fault OdbcError) BoundCell} {data : BulkColumnData}
    {buffers after : B} (reads : ∀ row cell, readCell row = .ok cell → cell = cellAt row data)
    (filled : fillExpected inserter bufIdx expected message readCell chunkStart chunkLen buffers =
      .ok after) :
    Filled inserter buffers after bufIdx chunkLen fun i => cellAt (chunkStart + i) data := by
  rw [fillExpected] at filled
  rcases there : (inserter.descs buffers)[bufIdx]? with _ | desc
  · rw [there] at filled
    cases filled
  · rw [there] at filled
    dsimp only at filled
    split_ifs at filled
    exact fillRows_filled (fun i cell read => reads _ cell read) filled

/-- A column that has been filled holds its cells of the chunk. -/
theorem fillColumn_filled {bufIdx chunkStart chunkLen : Nat} {spec : BulkColumnSpec}
    {data : BulkColumnData} {buffers after : B}
    (filled : ArrayBinding.fillColumn inserter bufIdx spec data chunkStart chunkLen buffers =
      .ok after) :
    Filled inserter buffers after bufIdx chunkLen fun i => cellAt (chunkStart + i) data := by
  rw [ArrayBinding.fillColumn.eq_def] at filled
  split at filled
  · exact fillExpected_filled (fun row cell read => valueCell_eq_ok read _) filled
  · exact fillExpected_filled (fun row cell read => valueCell_eq_ok read _) filled
  · exact fillExpected_filled (fun row cell read => bytesCell_eq_ok read) filled
  · exact fillExpected_filled (fun row cell read => bytesCell_eq_ok read) filled
  · exact fillExpected_filled (fun row cell read => bytesCell_eq_ok read) filled
  · exact fillExpected_filled (fun row cell read => valueCell_eq_ok read _) filled
  · cases filled

/-! ## One chunk -/

theorem fillColumns_filled {chunkStart chunkLen bufIdx : Nat}
    {columns : List (BulkColumnSpec × BulkColumnData)} {buffers after : B}
    (filled : fillColumns inserter chunkStart chunkLen bufIdx columns buffers = .ok after) :
    inserter.capacity after = inserter.capacity buffers ∧
      inserter.descs after = inserter.descs buffers ∧
      (∀ column row, column < bufIdx →
        inserter.cell after column row = inserter.cell buffers column row) ∧
      ∀ j column, columns[j]? = some column → ∀ i < chunkLen,
        inserter.cell after (bufIdx + j) i = cellAt (chunkStart + i) column.2 := by
  induction columns generalizing bufIdx buffers with
  | nil =>
      cases filled
      exact ⟨rfl, rfl, fun _ _ _ => rfl, by rintro j column ⟨⟩⟩
  | cons column columns ih =>
      obtain ⟨middle, first, filled⟩ := bind_eq_ok.mp filled
      have here := fillColumn_filled first
      obtain ⟨capacity, descs, earlier, cells⟩ := ih filled
      refine ⟨capacity.trans here.capacity, descs.trans here.descs, fun column' row early => ?_, ?_⟩
      · rw [earlier column' row (Nat.lt_succ_of_lt early),
          here.others column' row (Nat.ne_of_lt early)]
      · intro j column' there i early
        cases j with
        | zero =>
            cases there
            rw [Nat.add_zero, earlier _ _ (Nat.lt_succ_self bufIdx)]
            exact here.written i early
        | succ j =>
            rw [← Nat.succ_add_eq_add_succ]
            exact cells j column' there i early

/-- What an execution sends behind a chunk that was filled. -/
theorem boundRows_of_fillChunk {chunkStart chunkLen : Nat}
    {columns : List (BulkColumnSpec × BulkColumnData)} {buffers after : B}
    (counted : (inserter.descs buffers).length = columns.length)
    (filled : fillChunk inserter columns chunkStart chunkLen buffers = .ok after) :
    boundRows inserter chunkLen after =
        (List.range chunkLen).map (fun i => columns.map fun column =>
          cellAt (chunkStart + i) column.2) ∧
      inserter.capacity after = inserter.capacity buffers ∧
      inserter.descs after = inserter.descs buffers := by
  rw [fillChunk] at filled
  split_ifs at filled
  obtain ⟨capacity, descs, -, cells⟩ := fillColumns_filled filled
  refine ⟨?_, capacity, descs⟩
  rw [boundRows, descs, counted]
  refine List.map_congr_left fun i early => ?_
  refine List.ext_getElem (by simp) fun j inside _ => ?_
  rw [List.length_map, List.length_range] at inside
  have cell := cells j columns[j] (List.getElem?_eq_getElem inside) i (List.mem_range.mp early)
  rw [Nat.zero_add] at cell
  rw [List.getElem_map, List.getElem_map, List.getElem_range, cell]

/-- The rows of a payload that are in a range. -/
theorem slice_payloadRows {payload : BulkInsertPayload} {range : Nat × Nat}
    (inside : range.2 ≤ payload.rowCount.toNat) :
    slice range (payloadRows payload) =
      (List.range (range.2 - range.1)).map fun i => payloadRow payload (range.1 + i) := by
  refine List.ext_getElem ?_ fun i early _ => ?_
  · rw [length_slice (by simpa [payloadRows] using inside), List.length_map, List.length_range]
  · simp [slice, payloadRows]

/-! ## Payloads that are read -/

/-- The data of a column is what its specification says. -/
def FitsSpec (rowCount : Nat) (spec : BulkColumnSpec) : BulkColumnData → Prop
  | .i32 values bitmap =>
    spec.colType = .i32 ∧ values.length = rowCount ∧ bitmap.isSome = spec.nullable
  | .i64 values bitmap =>
    spec.colType = .i64 ∧ values.length = rowCount ∧ bitmap.isSome = spec.nullable
  | .text rows _ _ =>
    (spec.colType = .text ∨ spec.colType = .decimal) ∧ rows.length = rowCount ∧
      ∀ bytes ∈ rows, bytes.length ≤ BulkInsert.cellWidth spec
  | .binary rows _ _ =>
    spec.colType = .binary ∧ rows.length = rowCount ∧
      ∀ bytes ∈ rows, bytes.length ≤ BulkInsert.cellWidth spec
  | .timestamp values bitmap =>
    spec.colType = .timestamp ∧ values.length = rowCount ∧ bitmap.isSome = spec.nullable

theorem fillRows_succeeds {desc : BufferDesc} {column chunkLen : Nat}
    {readCell : Nat → Except (Fault OdbcError) BoundCell} {buffers : B}
    (reads : ∀ i < chunkLen, ∃ cell, readCell i = .ok cell ∧ desc.holds cell = true)
    (room : chunkLen ≤ inserter.capacity buffers) :
    ∃ after, fillRows inserter desc column readCell chunkLen buffers = .ok after ∧
      inserter.capacity after = inserter.capacity buffers := by
  induction chunkLen with
  | zero => exact ⟨buffers, rfl, rfl⟩
  | succ chunkLen ih =>
      obtain ⟨middle, first, capacity⟩ :=
        ih (fun i early => reads i (Nat.lt_succ_of_lt early)) (Nat.le_of_succ_le room)
      obtain ⟨cell, read, holds⟩ := reads chunkLen (Nat.lt_succ_self chunkLen)
      have inside : ¬ inserter.capacity middle ≤ chunkLen := by omega
      refine ⟨inserter.setCell column chunkLen cell middle, ?_, ?_⟩
      · rw [fillRows, first, ok_bind, read, ok_bind, putCell, if_neg inside, if_pos holds]
      · rw [inserter.capacity_setCell, capacity]

theorem fillExpected_succeeds {bufIdx chunkStart chunkLen : Nat} {desc : BufferDesc}
    {expected : BufferDesc → Bool} {message : String}
    {readCell : Nat → Except (Fault OdbcError) BoundCell} {buffers : B}
    (there : (inserter.descs buffers)[bufIdx]? = some desc) (asExpected : expected desc = true)
    (reads : ∀ row < chunkStart + chunkLen, ∃ cell, readCell row = .ok cell ∧
      desc.holds cell = true)
    (room : chunkLen ≤ inserter.capacity buffers) :
    ∃ after, fillExpected inserter bufIdx expected message readCell chunkStart chunkLen buffers =
      .ok after := by
  rw [fillExpected, there]
  dsimp only
  rw [if_pos asExpected]
  obtain ⟨after, filled, -⟩ := @fillRows_succeeds _ inserter desc bufIdx chunkLen _ buffers
    (fun i early => reads (chunkStart + i) (Nat.add_lt_add_left early chunkStart)) room
  exact ⟨after, filled⟩

theorem valueCell_succeeds {α : Type} {wrap : α → BoundCell} {values : List α}
    {bitmap : Option Bytes}
    {row : Nat} (inside : row < values.length) {desc : BufferDesc}
    (holds : ∀ cell, desc.holds cell = true) :
    ∃ cell, valueCell wrap values bitmap row = .ok cell ∧ desc.holds cell = true := by
  rw [valueCell, List.getElem?_eq_getElem inside]
  exact ⟨_, rfl, holds _⟩

theorem bytesCell_succeeds {wrap : Bytes → BoundCell} {rows : List Bytes} {bitmap : Option Bytes}
    {row : Nat} (inside : row < rows.length) {desc : BufferDesc} (null : desc.holds .null = true)
    (holds : ∀ bytes ∈ rows, desc.holds (wrap bytes) = true) :
    ∃ cell, bytesCell wrap rows bitmap row = .ok cell ∧ desc.holds cell = true := by
  rw [bytesCell]
  split_ifs
  · exact ⟨_, rfl, null⟩
  · rw [List.getElem?_eq_getElem inside]
    exact ⟨_, rfl, holds _ (List.getElem_mem inside)⟩

theorem fillColumn_succeeds {bufIdx chunkStart chunkLen rowCount : Nat} {spec : BulkColumnSpec}
    {data : BulkColumnData} {buffers : B} (fits : FitsSpec rowCount spec data)
    (there : (inserter.descs buffers)[bufIdx]? = some (specToBufferDesc spec))
    (inside : chunkStart + chunkLen ≤ rowCount) (room : chunkLen ≤ inserter.capacity buffers) :
    ∃ after,
      ArrayBinding.fillColumn inserter bufIdx spec data chunkStart chunkLen buffers =
        .ok after := by
  rw [specToBufferDesc] at there
  rw [ArrayBinding.fillColumn.eq_def]
  cases data with
  | i32 values bitmap | i64 values bitmap | timestamp values bitmap =>
      obtain ⟨typed, rfl, nullable⟩ := fits
      rw [typed] at there ⊢
      exact fillExpected_succeeds there (decide_eq_true (by rw [nullable]))
        (fun row early => valueCell_succeeds (early.trans_le inside) fun _ => rfl) room
  | text rows maxLen bitmap =>
      obtain ⟨typed | typed, rfl, short⟩ := fits
      all_goals
        rw [typed] at there ⊢
        exact fillExpected_succeeds there rfl (fun row early =>
          bytesCell_succeeds (early.trans_le inside) rfl fun bytes member =>
            decide_eq_true (short bytes member)) room
  | binary rows maxLen bitmap =>
      obtain ⟨typed, rfl, short⟩ := fits
      rw [typed] at there ⊢
      exact fillExpected_succeeds there rfl (fun row early =>
        bytesCell_succeeds (early.trans_le inside) rfl fun bytes member =>
          decide_eq_true (short bytes member)) room

theorem fillColumns_succeeds {chunkStart chunkLen rowCount bufIdx : Nat}
    {columns : List (BulkColumnSpec × BulkColumnData)} {buffers : B}
    (fits : ∀ column ∈ columns, FitsSpec rowCount column.1 column.2)
    (there : ∀ j column, columns[j]? = some column →
      (inserter.descs buffers)[bufIdx + j]? = some (specToBufferDesc column.1))
    (inside : chunkStart + chunkLen ≤ rowCount) (room : chunkLen ≤ inserter.capacity buffers) :
    ∃ after, fillColumns inserter chunkStart chunkLen bufIdx columns buffers = .ok after := by
  induction columns generalizing bufIdx buffers with
  | nil => exact ⟨buffers, rfl⟩
  | cons column columns ih =>
      rw [List.forall_mem_cons] at fits
      have here := there 0 column rfl
      rw [Nat.add_zero] at here
      obtain ⟨middle, first⟩ := fillColumn_succeeds fits.1 here inside room
      have filled := fillColumn_filled first
      obtain ⟨after, rest⟩ := @ih (bufIdx + 1) middle fits.2 (by
        intro j column' member
        rw [filled.descs, Nat.succ_add_eq_add_succ]
        exact there (j + 1) column' member) (by rwa [filled.capacity])
      exact ⟨after, by rw [fillColumns, first, ok_bind, rest]⟩

end

/-- What the reader accepts fits. -/
theorem readTimes_spec {α : Type} {read : Bytes → Nat → Except OdbcError (α × Nat)}
    {allowed : α → Prop} {data : Bytes} {count o : Nat} {result : List α × Nat}
    (each : ∀ o value, read data o = .ok value → allowed value.1)
    (ran : BulkInsert.readTimes read count data o = .ok result) :
    result.1.length = count ∧ ∀ value ∈ result.1, allowed value := by
  induction count generalizing o result with
  | zero =>
      cases ran
      exact ⟨rfl, by rintro _ ⟨⟩⟩
  | succ count ih =>
      obtain ⟨first, here, ran⟩ := bind_eq_ok.mp ran
      obtain ⟨rest, later, ran⟩ := bind_eq_ok.mp ran
      cases ran
      obtain ⟨counted, all⟩ := ih later
      exact ⟨congrArg (· + 1) counted, List.forall_mem_cons.mpr ⟨each _ _ here, all⟩⟩

theorem readColumn_spec {α : Type} {read : Bytes → Nat → Except OdbcError (α × Nat)}
    (allowed : α → Prop) {data : Bytes} {nullable : Bool} {rowCount o : Nat}
    {result : (List α × Option Bytes) × Nat}
    (each : ∀ o value, read data o = .ok value → allowed value.1)
    (ran : BulkInsert.readColumn read nullable rowCount data o = .ok result) :
    result.1.1.length = rowCount ∧ (∀ value ∈ result.1.1, allowed value) ∧
      result.1.2.isSome = nullable := by
  obtain ⟨⟨bitmap, o'⟩, first, ran⟩ := bind_eq_ok.mp ran
  obtain ⟨values, later, ran⟩ := bind_eq_ok.mp ran
  cases ran
  obtain ⟨counted, all⟩ := readTimes_spec each later
  refine ⟨counted, all, ?_⟩
  rw [BulkInsert.readNullBitmap] at first
  cases nullable with
  | false =>
      cases first
      rfl
  | true =>
      obtain ⟨bytes, -, first⟩ := bind_eq_ok.mp first
      dsimp only at first
      split_ifs at first
      cases first
      rfl

theorem length_readTrimmed {maxLen o : Nat} {data : Bytes} {result : Bytes × Nat}
    (ran : BulkInsert.readTrimmed maxLen data o = .ok result) : result.1.length ≤ maxLen := by
  obtain ⟨⟨raw, o'⟩, first, ran⟩ := bind_eq_ok.mp ran
  cases ran
  rw [BulkInsert.readBytes] at first
  split_ifs at first
  cases first
  exact ((List.takeWhile_sublist _).length_le).trans (List.length_take_le _ _)

theorem fits_of_parseColumnData {data : Bytes} {o rowCount consumed : Nat} {spec : BulkColumnSpec}
    {column : BulkColumnData}
    (parsed : BulkInsert.parseColumnData data o spec rowCount = .ok (column, consumed)) :
    FitsSpec rowCount spec column := by
  rw [BulkInsert.parseColumnData] at parsed
  cases typed : spec.colType with
  | i32 | i64 | timestamp =>
      rw [typed] at parsed
      obtain ⟨⟨⟨values, bitmap⟩, o'⟩, read, built⟩ := bind_eq_ok.mp parsed
      cases built
      obtain ⟨counted, -, nullable⟩ := readColumn_spec (fun _ => True) (fun _ _ _ => trivial) read
      exact ⟨typed, counted, nullable⟩
  | text | decimal =>
      rw [typed] at parsed
      obtain ⟨⟨⟨rows, bitmap⟩, o'⟩, read, built⟩ := bind_eq_ok.mp parsed
      cases built
      obtain ⟨counted, short, -⟩ := readColumn_spec
        (fun bytes => bytes.length ≤ BulkInsert.cellWidth spec)
        (fun _ _ read => length_readTrimmed read) read
      exact ⟨by simp [typed], counted, short⟩
  | binary =>
      rw [typed] at parsed
      obtain ⟨⟨⟨rows, bitmap⟩, o'⟩, read, built⟩ := bind_eq_ok.mp parsed
      cases built
      obtain ⟨counted, short, -⟩ := readColumn_spec
        (fun bytes => bytes.length ≤ BulkInsert.cellWidth spec)
        (fun _ _ read => length_readTrimmed read) read
      exact ⟨typed, counted, short⟩

/-- What is said of every column that is read. -/
theorem forall₂_of_parseColumns {relation : BulkColumnSpec → BulkColumnData → Prop} {data : Bytes}
    {o rowCount : Nat} {columns : List BulkColumnSpec} {result : List BulkColumnData × Nat}
    (each : ∀ o spec column consumed,
      BulkInsert.parseColumnData data o spec rowCount = .ok (column, consumed) →
        relation spec column)
    (parsed : BulkInsert.parseColumns data rowCount columns o = .ok result) :
    List.Forall₂ relation columns result.1 := by
  induction columns generalizing o result with
  | nil =>
      cases parsed
      exact .nil
  | cons spec columns ih =>
      obtain ⟨⟨column, consumed⟩, first, parsed⟩ := bind_eq_ok.mp parsed
      obtain ⟨rest, later, built⟩ := bind_eq_ok.mp parsed
      cases built
      exact .cons (each _ _ _ _ first) (ih later)

theorem forall₂_of_parse {relation : Nat → BulkColumnSpec → BulkColumnData → Prop} {data : Bytes}
    {payload : BulkInsertPayload}
    (each : ∀ rowCount o spec column consumed,
      BulkInsert.parseColumnData data o spec rowCount = .ok (column, consumed) →
        relation rowCount spec column)
    (parsed : parseBulkInsertPayload data = .ok payload) :
    List.Forall₂ (relation payload.rowCount.toNat) payload.columns payload.columnData := by
  obtain ⟨_, _, parsed⟩ := bind_eq_ok.mp parsed
  obtain ⟨_, _, parsed⟩ := bind_eq_ok.mp parsed
  obtain ⟨_, _, parsed⟩ := bind_eq_ok.mp parsed
  obtain ⟨_, _, parsed⟩ := bind_eq_ok.mp parsed
  dsimp only at parsed
  split_ifs at parsed
  obtain ⟨_, _, parsed⟩ := bind_eq_ok.mp parsed
  obtain ⟨⟨rowCount, _⟩, _, parsed⟩ := bind_eq_ok.mp parsed
  split_ifs at parsed with many
  obtain ⟨_, columns, parsed⟩ := bind_eq_ok.mp parsed
  split_ifs at parsed
  cases parsed
  have related := forall₂_of_parseColumns (each rowCount) columns
  have few : rowCount ≤ 10000000 := Nat.not_lt.mp many
  have counted : (UInt32.ofNat rowCount).toNat = rowCount :=
    UInt32.toNat_ofNat_of_lt' (few.trans_lt (by decide))
  dsimp only
  rwa [counted]

theorem fits_of_parse {data : Bytes} {payload : BulkInsertPayload}
    (parsed : parseBulkInsertPayload data = .ok payload) :
    List.Forall₂ (FitsSpec payload.rowCount.toNat) payload.columns payload.columnData :=
  forall₂_of_parse (fun _ _ _ _ _ => fits_of_parseColumnData) parsed

/-- The bitmap of a column, if it has one, has a bit for every row. -/
def HasBits (rowCount : Nat) (column : BulkColumnData) : Prop :=
  ∀ bitmap, columnBitmap column = some bitmap → bitmap.length = (rowCount + 7) / 8

theorem hasBits_of_readColumn {α : Type} {read : Bytes → Nat → Except OdbcError (α × Nat)}
    {data : Bytes} {nullable : Bool} {rowCount o : Nat} {result : (List α × Option Bytes) × Nat}
    (ran : BulkInsert.readColumn read nullable rowCount data o = .ok result) :
    ∀ bitmap, result.1.2 = some bitmap → bitmap.length = (rowCount + 7) / 8 := by
  obtain ⟨⟨bitmap, o'⟩, first, ran⟩ := bind_eq_ok.mp ran
  obtain ⟨values, -, ran⟩ := bind_eq_ok.mp ran
  cases ran
  rintro bytes rfl
  rw [BulkInsert.readNullBitmap] at first
  cases nullable with
  | false => cases first
  | true =>
      obtain ⟨⟨raw, o''⟩, -, first⟩ := bind_eq_ok.mp first
      dsimp only at first
      split_ifs at first with length
      cases first
      exact not_not.mp length

theorem hasBits_of_parseColumnData {data : Bytes} {o rowCount consumed : Nat}
    {spec : BulkColumnSpec} {column : BulkColumnData}
    (parsed : BulkInsert.parseColumnData data o spec rowCount = .ok (column, consumed)) :
    HasBits rowCount column := by
  rw [BulkInsert.parseColumnData] at parsed
  cases typed : spec.colType with
  | i32 | i64 | timestamp | text | decimal | binary =>
      rw [typed] at parsed
      obtain ⟨⟨⟨values, bitmap⟩, o'⟩, read, built⟩ := bind_eq_ok.mp parsed
      cases built
      exact hasBits_of_readColumn read

/-! ## The calls of an insert -/

section

variable {driver : SessionDriver (List BoundCell)} {rows : List (List BoundCell)} {total : Nat}
  {sound : Prop} {session : Session (List BoundCell)}

theorem Sends.mono {sound' : Prop} {ran : Except (Fault OdbcError) Nat × Session (List BoundCell)}
    {added : List (SessionRecord (List BoundCell))}
    (sends : Sends rows total sound session ran added)
    (weaker : sound' → sound) : Sends rows total sound' session ran added :=
  ⟨sends.history, sends.upTo, sends.all, fun holds => sends.refused (weaker holds)⟩

theorem history_after (call : SessionCall (List BoundCell)) (session : Session (List BoundCell)) :
    (session.after driver call).history =
      session.history ++ [⟨call, driver.refusal session.history call⟩] := by
  rcases answer : driver.refusal session.history call with _ | error
  · rw [(Session.after_accepted answer).2]
  · rw [(Session.after_refused answer).2]

theorem sends_check {α : Type} {result : Except (Fault OdbcError) α}
    {next : α → Fallible (Session (List BoundCell)) (Fault OdbcError) Nat}
    (answers : sound → ∃ value, result = .ok value)
    (rest : ∀ value, result = .ok value →
      ∃ added, Sends rows total sound session ((next value).perform session) added) :
    ∃ added, Sends rows total sound session
      ((Fallible.check result >>= next).perform session) added := by
  cases result with
  | error error =>
      refine ⟨[], (List.append_nil _).symm, List.nil_prefix, fun count answered => ?_,
        fun holds => ?_⟩
      · cases answered
      · obtain ⟨value, ok⟩ := answers holds
        cases ok
  | ok value => exact rest value rfl

theorem sends_call {call : SessionCall (List BoundCell)}
    {next : Unit → Fallible (Session (List BoundCell)) (Fault OdbcError) Nat}
    (rest : ∀ session, ∃ added,
      Sends rows (total + (workOf call).length) sound session ((next ()).perform session) added) :
    ∃ added, Sends (workOf call ++ rows) total sound session
      ((Fallible.adapt .err (Session.call driver call) >>= next).perform session) added := by
  have grown := @history_after driver call session
  rcases answer : driver.refusal session.history call with _ | error
  · have called : (Fallible.adapt Fault.err (Session.call driver call)).perform session =
        (.ok (), session.after driver call) := by
      rw [Fallible.perform_adapt, (Session.after_accepted answer).1]
      rfl
    obtain ⟨added, sends⟩ := rest (session.after driver call)
    rw [Fallible.perform_bind_ok called]
    rw [answer] at grown
    refine ⟨⟨call, none⟩ :: added, ?_, ?_, fun count answered => ?_, fun holds accepted => ?_⟩
    · rw [sends.history, grown, List.append_assoc, List.singleton_append]
    · exact (List.prefix_append_right_inj _).mpr sends.upTo
    · obtain ⟨whole, counted⟩ := sends.all count answered
      refine ⟨congrArg (workOf call ++ ·) whole, ?_⟩
      rw [counted, List.length_append, Nat.add_assoc]
    · exact sends.refused holds (List.forall_mem_cons.mp accepted).2
  · have called : (Fallible.adapt Fault.err (Session.call driver call)).perform session =
        (.error (.err error), session.after driver call) := by
      rw [Fallible.perform_adapt, (Session.after_refused answer).1]
      rfl
    rw [Fallible.perform_bind_error called]
    rw [answer] at grown
    refine ⟨[⟨call, some error⟩], grown, ?_, fun count answered => ?_, fun _ accepted => ?_⟩
    · show workOf call ++ [] <+: _
      rw [List.append_nil]
      exact List.prefix_append _ _
    · cases answered
    · cases accepted _ List.mem_cons_self

variable {B : Type} {inserter : BulkInserter B} {payload : BulkInsertPayload}

theorem fillChunk_succeeds {chunkStart chunkLen : Nat} {buffers : B}
    (fits : List.Forall₂ (FitsSpec payload.rowCount.toNat) payload.columns payload.columnData)
    (descs : inserter.descs buffers = payload.columns.map specToBufferDesc)
    (inside : chunkStart + chunkLen ≤ payload.rowCount.toNat)
    (room : chunkLen ≤ inserter.capacity buffers) :
    ∃ after, fillChunk inserter (payload.columns.zip payload.columnData) chunkStart chunkLen
      buffers = .ok after := by
  rw [fillChunk, if_neg (Nat.not_lt.mpr room)]
  refine fillColumns_succeeds (fun column member => ?_) (fun j column there => ?_) inside room
  · exact (List.forall₂_iff_zip.mp fits).2 member
  · obtain ⟨spec, -⟩ := List.getElem?_zip_eq_some.mp there
    rw [descs, Nat.zero_add, List.getElem?_map, spec]
    rfl

/-- The rows of the chunks are sent one chunk behind the other. -/
theorem insertChunks_sends (paired : payload.columnData.length = payload.columns.length)
    {ranges : List (Nat × Nat)} {capacity : Nat}
    (inside : ∀ range ∈ ranges, range.1 ≤ range.2 ∧ range.2 ≤ payload.rowCount.toNat ∧
      range.2 - range.1 ≤ capacity) {buffers : B}
    (room : inserter.capacity buffers = capacity)
    (descs : inserter.descs buffers = payload.columns.map specToBufferDesc) :
    ∃ added, Sends (ranges.map (slice · (payloadRows payload))).flatten total
      (List.Forall₂ (FitsSpec payload.rowCount.toNat) payload.columns payload.columnData) session
      ((insertChunks inserter driver (payload.columns.zip payload.columnData) ranges buffers
        total).perform session) added := by
  induction ranges generalizing buffers total session with
  | nil =>
      refine ⟨[], (List.append_nil _).symm, List.nil_prefix, fun count answered => ?_,
        fun _ _ => ⟨total, rfl⟩⟩
      cases answered
      exact ⟨rfl, rfl⟩
  | cons range ranges ih =>
      obtain ⟨chunkStart, stop⟩ := range
      rw [List.forall_mem_cons] at inside
      obtain ⟨⟨ordered, early, short⟩, inside⟩ := inside
      dsimp only at ordered early short
      refine sends_check (fun fits => ?_) fun after filled => ?_
      · exact fillChunk_succeeds fits descs (by omega) (by omega)
      · have counted : (inserter.descs buffers).length =
            (payload.columns.zip payload.columnData).length := by
          rw [descs, List.length_map, List.length_zip, paired, Nat.min_self]
        obtain ⟨bound, room', descs'⟩ := boundRows_of_fillChunk counted filled
        have sent : boundRows inserter (stop - chunkStart) after =
            slice (chunkStart, stop) (payloadRows payload) := by
          rw [bound, slice_payloadRows early]
          refine List.map_congr_left fun i _ => ?_
          have data := List.map_snd_zip (Nat.le_of_eq paired)
          rw [payloadRow, ← data, List.map_map, data]
          rfl
        have work : (workOf (.statement (boundRows inserter (stop - chunkStart) after))).length =
            stop - chunkStart := by
          simp [workOf, boundRows]
        rw [List.map_cons, List.flatten_cons, ← sent]
        refine @sends_call driver _ total _ session
          (.statement (boundRows inserter (stop - chunkStart) after)) _ fun session => ?_
        rw [work]
        exact ih inside (room'.trans room) (descs'.trans descs)

theorem bulkInsertGeneric_sends (inserter : BulkInserter B)
    (driver : SessionDriver (List BoundCell)) (payload : BulkInsertPayload) (paramsetSize : Nat)
    (session : Session (List BoundCell)) :
    ∃ added, Sends (payloadRows payload) 0
      ((∃ data, parseBulkInsertPayload data = .ok payload) ∧
        ∃ sql, insertStatement payload.table (payload.columns.map BulkColumnSpec.name) = .ok sql)
      session
      ((ArrayBinding.bulkInsertGeneric inserter driver paramsetSize payload).perform session)
      added := by
  rw [ArrayBinding.bulkInsertGeneric]
  have counted : (payloadRows payload).length = payload.rowCount.toNat := by
    rw [payloadRows, List.length_map, List.length_range]
  dsimp only
  split_ifs with none unpaired
  · have nothing : payloadRows payload = [] := by rw [← List.length_eq_zero_iff, counted, none]
    rw [nothing]
    refine ⟨[], (List.append_nil _).symm, List.nil_prefix, fun count answered => ?_,
      fun _ _ => ⟨0, rfl⟩⟩
    cases answered
    exact ⟨rfl, rfl⟩
  · refine ⟨[], (List.append_nil _).symm, List.nil_prefix, fun count answered => ?_,
      fun sound _ => ?_⟩
    · cases answered
    · obtain ⟨⟨data, parsed⟩, -⟩ := sound
      exact absurd (fits_of_parse parsed).length_eq.symm unpaired
  · refine sends_check (fun sound => ?_) fun sql _ => ?_
    · obtain ⟨-, sql, named⟩ := sound
      exact ⟨sql, by rw [named]; rfl⟩
    · refine @sends_call driver _ 0 _ session (.prepare sql) _ fun session => ?_
      refine @sends_call driver _ 0 _ session (.bind _) _ fun session => ?_
      have positive : 0 < min (max paramsetSize 1) payload.rowCount.toNat := by omega
      generalize min (max paramsetSize 1) payload.rowCount.toNat = capacity at positive ⊢
      have chunks := @flatten_slices _ (payloadRows payload) capacity positive
      rw [counted] at chunks
      obtain ⟨added, sends⟩ := @insertChunks_sends driver 0 session B inserter payload
        (not_not.mp unpaired) (stepRanges payload.rowCount.toNat capacity) capacity
        (fun range member => by
          obtain ⟨ordered, early⟩ := mem_stepRanges member
          exact ⟨Nat.le_of_lt ordered, early, sub_le_of_mem_stepRanges member⟩)
        (inserter.create capacity (payload.columns.map specToBufferDesc))
        (inserter.capacity_create _ _) (inserter.descs_create _ _)
      rw [chunks] at sends
      exact ⟨added, sends.mono fun sound => fits_of_parse sound.1.choose_spec⟩

/-- Every insert sends the rows of its payload, each once and in order, up to the first call that
is refused; which rows these are the parameter set has no part in. A payload that the reader has
accepted is sent as a whole unless the driver refuses a call, and a cell is null where its bit is
set. -/
theorem bulk_rows_sent (inserter : BulkInserter B) (driver : SessionDriver (List BoundCell))
    (payload : BulkInsertPayload) (paramsetSize : Nat) (session : Session (List BoundCell)) :
    (∃ added, Sends (payloadRows payload) 0
      ((∃ data, parseBulkInsertPayload data = .ok payload) ∧
        ∃ sql, insertStatement payload.table (payload.columns.map BulkColumnSpec.name) = .ok sql)
      session
      ((ArrayBinding.bulkInsertGeneric inserter driver paramsetSize payload).perform session)
      added) ∧
    ∀ row < payload.rowCount.toNat, ∀ (column : Nat) data, payload.columnData[column]? = some data →
      ∃ cells, (payloadRows payload)[row]? = some cells ∧
        (cells[column]? = some BoundCell.null ↔ isNullAt (columnBitmap data) row = true) := by
  constructor
  · exact bulkInsertGeneric_sends inserter driver payload paramsetSize session
  · intro row early column data there
    refine ⟨payloadRow payload row, ?_, ?_⟩
    · rw [payloadRows, List.getElem?_map, List.getElem?_range early]
      rfl
    · rw [payloadRow, List.getElem?_map, there, Option.map_some, Option.some_inj, cellAt]
      split_ifs with null
      · exact iff_of_true rfl null
      · refine iff_of_false ?_ null
        cases data <;> exact fun same => by cases same

end

/-- Buffers of nothing but a capacity, their descriptions and the cells. -/
def plainInserter : BulkInserter (Nat × List BufferDesc × (Nat → Nat → BoundCell)) where
  create capacity descs := (capacity, descs, fun _ _ => .null)
  capacity buffers := buffers.1
  descs buffers := buffers.2.1
  setCell column row cell buffers :=
    (buffers.1, buffers.2.1, fun column' row' =>
      if column' = column ∧ row' = row then cell else buffers.2.2 column' row')
  cell buffers := buffers.2.2
  capacity_create _ _ := rfl
  descs_create _ _ := rfl
  capacity_setCell _ _ _ _ := rfl
  descs_setCell _ _ _ _ := rfl
  cell_setCell _ _ _ _ _ _ := rfl

def refusesNothing : SessionDriver (List BoundCell) where
  refusal _ _ := none
  partly _ _ := false
  loses _ _ := false

/-- Three rows, the middle one null. -/
def threeRows : BulkInsertPayload where
  table := "t"
  columns := [⟨"a", .i32, true, 0⟩]
  rowCount := 3
  columnData := [.i32 [1, 2, 3] (some [2])]

theorem bulk_rows_sent_in_two_batches :
    ∃ added, Sends [[.i32 1], [.null], [.i32 3]] 0
      ((∃ data, parseBulkInsertPayload data = .ok threeRows) ∧
        ∃ sql, insertStatement "t" ["a"] = .ok sql) {}
      ((ArrayBinding.bulkInsertGeneric plainInserter refusesNothing 2 threeRows).perform {})
      added :=
  (bulk_rows_sent plainInserter refusesNothing threeRows 2 {}).1

/-! ## Bulk copy -/

section

open SqlserverBcp BulkCopyExecutor

/-- What a library holds of a copy. -/
structure BcpView where
  env : Bool := false
  dbc : Bool := false
  /-- The bound columns, and the lengths of their variables. -/
  bound : List Nat := []
  lengths : Nat → Int := fun _ => 0
  /-- The rows that were sent and are not saved. -/
  sent : List (List BoundCell) := []
  /-- The rows that the server has saved, with the cells of the first columns of the table. -/
  saved : List (List BoundCell) := []

namespace BcpView

/-- What the server takes from a variable. -/
def taken (length : Int) (cell : BoundCell) : BoundCell :=
  if length = sqlNullData then .null else cell

/-- The row that is sent. A length stays until another is told. -/
def row (view : BcpView) (cells : Nat → BoundCell) : List BoundCell :=
  view.bound.map fun column => taken (view.lengths column) (cells column)

/-- Nothing is in use. -/
structure Idle (view : BcpView) : Prop where
  env : view.env = false
  dbc : view.dbc = false
  bound : view.bound = []
  sent : view.sent = []
  saved : view.saved = []

/-- The first of the rows that were sent may have been saved. -/
def MaySave (before after : BcpView) : Prop :=
  ∃ kept, after =
    { before with
      sent := before.sent.drop kept, saved := before.saved ++ before.sent.take kept }

theorem Idle.of_maySave {before after : BcpView} (idle : before.Idle)
    (changed : before.MaySave after) : after.Idle := by
  obtain ⟨kept, rfl⟩ := changed
  refine ⟨idle.env, idle.dbc, idle.bound, ?_, ?_⟩
  · dsimp only
    rw [idle.sent, List.drop_nil]
  · dsimp only
    rw [idle.saved, idle.sent, List.take_nil, List.append_nil]

/-- What a call has done that has done its work. -/
def Follows (cells : Nat → BoundCell) (code : Int) (before after : BcpView) : BcpCall → Prop
  | .allocEnv => after = { before with env := true }
  | .allocDbc => after = { before with dbc := true }
  | .setVersion | .setBcp | .connect _ => after = before
  | .initW _ => after = { before with bound := [] }
  | .bind cbData _ column =>
    after =
      { before with
        bound := before.bound ++ [column]
        lengths := Function.update before.lengths column cbData }
  | .collen length column =>
    after = { before with lengths := Function.update before.lengths column length }
  | .sendRow => after = { before with sent := before.sent ++ [before.row cells] }
  | .done =>
    code = before.sent.length ∧
      after = { before with sent := [], saved := before.saved ++ before.sent }
  | .disconnect => ∃ between, before.MaySave between ∧ after = { between with sent := [] }
  | .freeDbc =>
    ∃ between, before.MaySave between ∧ after = { between with dbc := false, sent := [] }
  | .freeEnv => after = { before with env := false }

end BcpView

/-- A library that does what its documentation says. A call that fails has changed nothing, but
that the server may have saved some of the rows it was sent. -/
structure Documented {L : Type} (library : BcpLibrary L) (view : L → BcpView) : Prop where
  succeeds : ∀ {call : BcpCall} {cells : Nat → BoundCell} {state after : L} {code : Int},
    library call cells state = (code, after) → call.succeeded code = true →
      BcpView.Follows cells code (view state) (view after) call
  fails : ∀ {call : BcpCall} {cells : Nat → BoundCell} {state after : L} {code : Int},
    library call cells state = (code, after) → call.succeeded code = false →
      (view state).MaySave (view after)

/-- Nothing is saved but by the end of a copy. -/
def Undoes {L : Type} (library : BcpLibrary L) (view : L → BcpView) : Prop :=
  ∀ {call : BcpCall} {cells : Nat → BoundCell} {state after : L} {code : Int},
    library call cells state = (code, after) → ¬ (call = .done ∧ call.succeeded code = true) →
      (view after).saved = (view state).saved

section

variable {L : Type} {library : BcpLibrary L} {view : L → BcpView} {session : BcpSession L}

/-- What the server is shown of a column. -/
def shown (view : L → BcpView) (session : BcpSession L) (column : Nat) : BoundCell :=
  BcpView.taken ((view session.state).lengths column) (session.cells column)

def shownCell (row : Nat) (column : BoundColumn) : BoundCell :=
  BcpView.taken (column.rowCollenForBcp row) (column.writeRow row)

theorem validateNullBitmap_eq_ok {bitmap result : Option Bytes} {rowCount : Nat} {name : String}
    (valid : validateNullBitmap bitmap rowCount name = .ok result) : result = bitmap := by
  cases bitmap with
  | none => exact (Except.ok.inj valid).symm
  | some bytes =>
      rw [validateNullBitmap] at valid
      split_ifs at valid
      exact (Except.ok.inj valid).symm

theorem shownCell_eq (row : Nat) (column : BoundColumn) :
    shownCell row column =
      if isNullAt column.nullBitmap row then .null else column.writeRow row := by
  rw [shownCell, BoundColumn.rowCollenForBcp, BcpView.taken]
  by_cases null : isNullAt column.nullBitmap row = true
  · rw [if_pos null, if_pos rfl, if_pos null]
  · have size : column.bindArgs.1 ≠ sqlNullData := by
      cases column with
      | i32 values bitmap => exact (by decide : (4 : Int) ≠ sqlNullData)
      | i64 values bitmap => exact (by decide : (8 : Int) ≠ sqlNullData)
    rw [if_neg null, if_neg size, if_neg null]

/-- A bound column shows the cells that array binding sends. -/
theorem shownCell_of_build {spec : BulkColumnSpec} {data : BulkColumnData} {column : BoundColumn}
    (built : buildBoundColumn spec data = .ok column) (row : Nat) :
    shownCell row column = cellAt row data := by
  obtain ⟨name, colType, nullable, maxLen⟩ := spec
  cases colType with
  | i32 =>
      cases data with
      | i32 values bitmap =>
          obtain ⟨same, valid, rfl⟩ := map_eq_ok.mp built
          obtain rfl := validateNullBitmap_eq_ok valid
          rw [shownCell_eq]
          by_cases null : isNullAt same row = true
          · exact (if_pos null).trans (if_pos null).symm
          · refine (if_neg null).trans (Eq.trans ?_ (if_neg null).symm)
            rw [BoundColumn.writeRow, if_neg null]
            rfl
      | i64 | text | binary | timestamp => cases built
  | i64 =>
      cases data with
      | i64 values bitmap =>
          obtain ⟨same, valid, rfl⟩ := map_eq_ok.mp built
          obtain rfl := validateNullBitmap_eq_ok valid
          rw [shownCell_eq]
          by_cases null : isNullAt same row = true
          · exact (if_pos null).trans (if_pos null).symm
          · refine (if_neg null).trans (Eq.trans ?_ (if_neg null).symm)
            rw [BoundColumn.writeRow, if_neg null]
            rfl
      | i32 | text | binary | timestamp => cases built
  | text | decimal | binary | timestamp => cases built

theorem shownCells_of_build {payload : BulkInsertPayload} {columns : List BoundColumn}
    (built : buildBoundColumns payload = .ok columns) (row : Nat) :
    columns.map (shownCell row) = payloadRow payload row := by
  rw [buildBoundColumns] at built
  split_ifs at built with unpaired
  have paired := List.map_snd_zip (Nat.le_of_eq (not_not.mp unpaired))
  rw [payloadRow, ← paired, List.map_map]
  generalize payload.columns.zip payload.columnData = pairs at built
  have each := mapM_eq_ok_iff.mp built
  clear built
  induction each with
  | nil => rfl
  | cons first rest ih =>
      rw [List.map_cons, List.map_cons, shownCell_of_build first row, ih]
      rfl

/-- An error behind which the insert is tried without a copy. -/
def FallsBack (error : OdbcError) : Prop := shouldFallbackToArrayBinding error = true

theorem fallsBack_internalError (message : String) : FallsBack (.internalError message) := rfl

/-- A column as the reader leaves it. -/
def Whole (rowCount : Nat) (spec : BulkColumnSpec) (data : BulkColumnData) : Prop :=
  FitsSpec rowCount spec data ∧ HasBits rowCount data

theorem validateNullBitmap_of_length {bitmap : Option Bytes} {rowCount : Nat} {name : String}
    (bits : ∀ bytes, bitmap = some bytes → bytes.length = (rowCount + 7) / 8) :
    validateNullBitmap bitmap rowCount name = .ok bitmap := by
  cases bitmap with
  | none => rfl
  | some bytes => exact if_neg (not_not.mpr (bits bytes rfl))

/-- A whole column is bound with all its rows, or is of a type that is not copied. -/
theorem buildBoundColumn_of_whole {rowCount : Nat} {spec : BulkColumnSpec} {data : BulkColumnData}
    (whole : Whole rowCount spec data) :
    (∃ column, buildBoundColumn spec data = .ok column ∧ column.len = rowCount) ∨
      ∃ error, buildBoundColumn spec data = .error error ∧ FallsBack error := by
  obtain ⟨fits, bits⟩ := whole
  obtain ⟨name, colType, nullable, maxLen⟩ := spec
  cases data with
  | i32 values bitmap =>
      obtain ⟨typed, counted, -⟩ := fits
      cases typed
      refine .inl ⟨.i32 values bitmap, ?_, counted⟩
      rw [← counted] at bits
      exact map_eq_ok.mpr ⟨bitmap, validateNullBitmap_of_length bits, rfl⟩
  | i64 values bitmap =>
      obtain ⟨typed, counted, -⟩ := fits
      cases typed
      refine .inl ⟨.i64 values bitmap, ?_, counted⟩
      rw [← counted] at bits
      exact map_eq_ok.mpr ⟨bitmap, validateNullBitmap_of_length bits, rfl⟩
  | text rows width bitmap =>
      obtain ⟨typed | typed, -⟩ := fits
      · cases typed
        exact .inr ⟨_, rfl, rfl⟩
      · cases typed
        exact .inr ⟨_, rfl, rfl⟩
  | binary rows width bitmap | timestamp values bitmap =>
      obtain ⟨typed, -⟩ := fits
      cases typed
      exact .inr ⟨_, rfl, rfl⟩

theorem buildBoundColumns_of_whole {payload : BulkInsertPayload} {rowCount : Nat}
    (whole : List.Forall₂ (Whole rowCount) payload.columns payload.columnData) :
    (∃ columns, buildBoundColumns payload = .ok columns ∧
      ∀ column ∈ columns, column.len = rowCount) ∨
      ∃ error, buildBoundColumns payload = .error error ∧ FallsBack error := by
  rw [buildBoundColumns, if_neg (not_not.mpr whole.length_eq.symm)]
  generalize payload.columns = columns at whole ⊢
  generalize payload.columnData = data at whole ⊢
  induction whole with
  | nil => exact .inl ⟨[], rfl, by rintro _ ⟨⟩⟩
  | cons head _ ih =>
      rw [List.zip_cons_cons, List.mapM_cons]
      rcases buildBoundColumn_of_whole head with ⟨column, built, len⟩ | ⟨error, failed, falls⟩
      · rw [built, ok_bind]
        rcases ih with ⟨columns, rest, lens⟩ | ⟨error, failed, falls⟩
        · rw [rest]
          exact .inl ⟨column :: columns, rfl, List.forall_mem_cons.mpr ⟨len, lens⟩⟩
        · rw [failed]
          exact .inr ⟨error, rfl, falls⟩
      · rw [failed]
        exact .inr ⟨error, rfl, falls⟩

theorem checkLengths_of_len {rowCount idx : Nat} {columns : List BoundColumn}
    (lens : ∀ column ∈ columns, column.len = rowCount) :
    checkLengths rowCount idx columns = .ok () := by
  induction columns generalizing idx with
  | nil => rfl
  | cons column columns ih =>
      obtain ⟨len, lens⟩ := List.forall_mem_cons.mp lens
      rw [checkLengths, if_neg (not_not.mpr len)]
      exact ih lens

theorem fallsBack_of_getSymbols {symbols names : List String} {error : OdbcError}
    (failed : forM names (getSymbol symbols) = .error error) : FallsBack error := by
  induction names with
  | nil => cases failed
  | cons name names ih =>
      by_cases there : name ∈ symbols
      · have found : getSymbol symbols name = .ok () := if_pos there
        rw [List.forM_cons, found] at failed
        exact ih failed
      · have missing : getSymbol symbols name = .error _ := if_neg there
        rw [List.forM_cons, missing] at failed
        cases failed
        rfl

theorem fallsBack_of_loadSymbols {libraries : Libraries} {error : OdbcError}
    (failed : loadSymbols libraries = .error error) : FallsBack error := by
  rw [loadSymbols, loadBcpLibrary] at failed
  cases loaded : candidateLibraries.filterMap fun name => (libraries name).toOption with
  | nil =>
      rw [loaded] at failed
      cases failed
      rfl
  | cons symbols others =>
      rw [loaded] at failed
      exact fallsBack_of_getSymbols failed

theorem fallsBack_of_probe {libraries : Libraries} {error : OdbcError}
    (failed : probeNativeBcpSupport libraries = .error error) : FallsBack error := by
  rw [probeNativeBcpSupport] at failed
  split_ifs at failed
  cases failed
  rfl

/-- A call has failed, and what is left of it. -/
def Refused (library : BcpLibrary L) (view : L → BcpView) (before after : L) : Prop :=
  (view before).MaySave (view after) ∧
    (Undoes library view → (view after).saved = (view before).saved)

theorem meets_ask (documented : Documented library view) {pre : BcpSession L → Prop}
    {post : Int → BcpSession L → Prop} {failed : OdbcError → BcpSession L → Prop}
    {call : BcpCall} {error : Int → OdbcError}
    (fails : ∀ session after code, pre session → Refused library view session.state after.state →
      failed (error code) after)
    (goesOn : ∀ session after code, pre session → after.cells = session.cells →
      BcpView.Follows session.cells code (view session.state) (view after.state) call →
        post code after) :
    Fallible.Meets pre post failed (BcpSession.ask library call error) := by
  intro session here
  rw [BcpSession.ask, Fallible.perform_of]
  have after : (session.made library call).state =
      (library call session.cells session.state).2 := rfl
  rcases answer : library call session.cells session.state with ⟨code, state⟩
  rw [answer] at after
  dsimp only at after ⊢
  cases worked : call.succeeded code with
  | true =>
      refine goesOn session _ code here rfl ?_
      rw [after]
      exact documented.succeeds answer worked
  | false =>
      refine fails session _ code here ?_
      rw [after]
      refine ⟨documented.fails answer worked, fun undoes => undoes answer fun done => ?_⟩
      exact Bool.false_ne_true (worked.symm.trans done.2)

theorem meets_call (documented : Documented library view) {pre : BcpSession L → Prop}
    {post : Unit → BcpSession L → Prop} {failed : OdbcError → BcpSession L → Prop}
    {call : BcpCall} {error : Int → OdbcError}
    (fails : ∀ session after code, pre session → Refused library view session.state after.state →
      failed (error code) after)
    (goesOn : ∀ session after code, pre session → after.cells = session.cells →
      BcpView.Follows session.cells code (view session.state) (view after.state) call →
        post () after) :
    Fallible.Meets pre post failed (BcpSession.call library call error) :=
  Fallible.Meets.bind (fun _ => post ()) (meets_ask documented fails goesOn) fun _ =>
    Fallible.Meets.pure fun _ here => here

/-- The handles of a copy, and how far it is. -/
structure Copying (view : L → BcpView) (dbc : Bool) (columns : Nat) (rows : List (List BoundCell))
    (session : BcpSession L) : Prop where
  env : (view session.state).env = true
  dbc_eq : (view session.state).dbc = dbc
  bound : (view session.state).bound = List.range' 1 columns
  sent : (view session.state).sent = rows
  saved : (view session.state).saved = []

theorem Copying.of_eq {dbc : Bool} {columns : Nat} {rows : List (List BoundCell)} {now : BcpView}
    (same : view session.state = now) (env : now.env = true) (dbc_eq : now.dbc = dbc)
    (bound : now.bound = List.range' 1 columns) (sent : now.sent = rows) (saved : now.saved = []) :
    Copying view dbc columns rows session := by
  subst same
  exact ⟨env, dbc_eq, bound, sent, saved⟩

/-- What a copy has left that has failed. -/
structure LeftOf (library : BcpLibrary L) (view : L → BcpView) (rows : List (List BoundCell))
    (session : BcpSession L) : Prop where
  early : (view session.state).saved ++ (view session.state).sent <+: rows
  undone : Undoes library view → (view session.state).saved = []

/-- A copy that has failed, and is to be cleaned up. -/
def FailedIn (library : BcpLibrary L) (view : L → BcpView) (rows : List (List BoundCell))
    (error : OdbcError) (session : BcpSession L) : Prop :=
  FallsBack error ∧ LeftOf library view rows session

theorem LeftOf.of_refused {dbc : Bool} {columns : Nat} {rows part : List (List BoundCell)}
    {after : BcpSession L} (early : part <+: rows) (copying : Copying view dbc columns part session)
    (refused : Refused library view session.state after.state) :
    LeftOf library view rows after := by
  obtain ⟨⟨kept, changed⟩, undone⟩ := refused
  constructor
  · rw [changed]
    dsimp only
    rw [copying.saved, copying.sent, List.nil_append, List.take_append_drop]
    exact early
  · intro undoes
    rw [undone undoes, copying.saved]

/-- The columns up to one are left alone, and the others show the cells of the row. -/
theorem writeRow_meets (documented : Documented library view) {row columns : Nat}
    {rows all : List (List BoundCell)} (early : rows <+: all) (old : Nat → BoundCell) (idx : Nat)
    (bound : List BoundColumn) :
    Fallible.Meets (fun session => Copying view true columns rows session ∧
        ∀ column ≤ idx, shown view session column = old column)
      (fun _ session => Copying view true columns rows session ∧
        (∀ column ≤ idx, shown view session column = old column) ∧
          (List.range' (idx + 1) bound.length).map (shown view session) =
            bound.map (shownCell row))
      (FailedIn library view all) (writeRow library row idx bound) := by
  induction bound generalizing idx old with
  | nil => exact Fallible.Meets.pure fun session here => ⟨here.1, here.2, rfl⟩
  | cons column bound ih =>
      rw [writeRow]
      refine Fallible.Meets.bind (fun _ session => (Copying view true columns rows session ∧
        ∀ column ≤ idx, shown view session column = old column) ∧
          session.cells (idx + 1) = column.writeRow row) ?_ fun _ => ?_
      · rintro session ⟨copying, same⟩
        refine ⟨⟨⟨copying.env, copying.dbc_eq, copying.bound, copying.sent, copying.saved⟩, ?_⟩,
          Function.update_self _ _ _⟩
        intro number below
        have other : number ≠ idx + 1 := by omega
        rw [← same number below]
        exact congrArg (BcpView.taken _) (Function.update_of_ne other _ _)
      · refine Fallible.Meets.bind (fun _ session => Copying view true columns rows session ∧
          ∀ number ≤ idx + 1, shown view session number =
            Function.update old (idx + 1) (shownCell row column) number)
          (meets_call documented ?_ ?_) fun _ => ?_
        · rintro session after code ⟨⟨copying, -⟩, -⟩ refused
          exact ⟨fallsBack_internalError _, .of_refused early copying refused⟩
        · rintro session after code ⟨⟨copying, same⟩, written⟩ cells follows
          have lengths : (view after.state).lengths = Function.update
              (view session.state).lengths (idx + 1) (column.rowCollenForBcp row) := by
            rw [follows]
          refine ⟨?_, fun number below => ?_⟩
          · exact .of_eq follows copying.env copying.dbc_eq copying.bound copying.sent copying.saved
          · rw [shown, lengths, cells]
            by_cases own : number = idx + 1
            · subst own
              rw [Function.update_self, Function.update_self, written, shownCell]
            · rw [Function.update_of_ne own, Function.update_of_ne own, ← same number (by omega),
                shown]
        · refine (ih (Function.update old (idx + 1) (shownCell row column)) (idx + 1)).of_imp ?_
          rintro - session ⟨copying, same, rest⟩
          refine ⟨copying, fun number below => ?_, ?_⟩
          · rw [same number (by omega), Function.update_of_ne (by omega)]
          · rw [List.length_cons, List.range'_succ, List.map_cons, List.map_cons, rest,
              same (idx + 1) (Nat.le_refl _), Function.update_self]

theorem bindColumns_meets (documented : Documented library view) (all : List (List BoundCell))
    (idx : Nat) (bound : List BoundColumn) :
    Fallible.Meets (Copying view true idx []) (fun _ => Copying view true (idx + bound.length) [])
      (FailedIn library view all) (bindColumns library idx bound) := by
  induction bound generalizing idx with
  | nil => exact Fallible.Meets.pure fun session copying => copying
  | cons column bound ih =>
      rw [bindColumns]
      refine Fallible.Meets.bind (fun _ => Copying view true (idx + 1) [])
        (meets_call documented ?_ ?_) fun _ => ?_
      · intro session after code copying refused
        exact ⟨fallsBack_internalError _, .of_refused List.nil_prefix copying refused⟩
      · intro session after code copying cells follows
        refine .of_eq follows copying.env copying.dbc_eq ?_ copying.sent copying.saved
        rw [List.range'_concat, ← copying.bound, Nat.one_mul, Nat.add_comm 1 idx]
      · have rest := ih (idx + 1)
        rw [Nat.add_right_comm, Nat.add_assoc idx] at rest
        exact rest

theorem sendRows_meets (documented : Documented library view) {all : List (List BoundCell)}
    (bound : List BoundColumn) (done : List (List BoundCell)) (rows : List Nat)
    (shows : (done ++ rows.map fun row => bound.map (shownCell row)) = all) :
    Fallible.Meets (Copying view true bound.length done)
      (fun _ => Copying view true bound.length all) (FailedIn library view all)
      (sendRows library bound rows) := by
  induction rows generalizing done with
  | nil =>
      rw [List.map_nil, List.append_nil] at shows
      rw [← shows]
      exact Fallible.Meets.pure fun session copying => copying
  | cons row rows ih =>
      have early : done <+: all := ⟨_, shows⟩
      rw [sendRows]
      refine Fallible.Meets.bind (fun _ session => Copying view true bound.length done session ∧
        (view session.state).row session.cells = bound.map (shownCell row)) ?_ fun _ => ?_
      · intro session copying
        have written := (@writeRow_meets L library view documented row bound.length done all early
          (shown view session) 0 bound).of_imp (fun _ session here => (⟨here.1, ?_⟩ :
            Copying view true bound.length done session ∧
              (view session.state).row session.cells = bound.map (shownCell row)))
        · exact written session ⟨copying, fun _ _ => rfl⟩
        · rw [BcpView.row, here.1.bound]
          exact here.2.2
      · refine Fallible.Meets.bind
          (fun _ => Copying view true bound.length (done ++ [bound.map (shownCell row)]))
          (meets_call documented ?_ ?_) fun _ => ?_
        · rintro session after code ⟨copying, -⟩ refused
          exact ⟨fallsBack_internalError _, .of_refused early copying refused⟩
        · rintro session after code ⟨copying, shows⟩ cells follows
          refine .of_eq follows copying.env copying.dbc_eq copying.bound ?_ copying.saved
          rw [shows, copying.sent]
        · refine ih (done ++ [bound.map (shownCell row)]) ?_
          rw [List.append_assoc, List.singleton_append]
          exact shows

/-- A copy that has come to its end. -/
structure Copied (view : L → BcpView) (rows : List (List BoundCell)) (session : BcpSession L) :
    Prop where
  sent : (view session.state).sent = []
  saved : (view session.state).saved = rows

theorem finish_meets (documented : Documented library view) (columns : Nat)
    (rows : List (List BoundCell)) :
    Fallible.Meets (Copying view true columns rows)
      (fun count session => count = rows.length ∧ Copied view rows session)
      (FailedIn library view rows) (finish library) := by
  rw [finish]
  refine Fallible.Meets.bind (fun code session => code = rows.length ∧ Copied view rows session)
    (meets_ask documented ?_ ?_) fun code => Fallible.Meets.pure ?_
  · intro session after code copying refused
    exact ⟨fallsBack_internalError _, .of_refused List.prefix_rfl copying refused⟩
  · rintro session after code copying - ⟨counted, changed⟩
    refine ⟨?_, ?_, ?_⟩
    · rw [counted, copying.sent]
    · rw [changed]
    · rw [changed]
      dsimp only
      rw [copying.saved, copying.sent, List.nil_append]
  · rintro session ⟨rfl, copied⟩
    exact ⟨Int.toNat_natCast _, copied⟩

/-- A call that moves no rows. -/
theorem meets_plain (documented : Documented library view) (all : List (List BoundCell))
    {call : BcpCall} {error : Int → OdbcError} (retried : ∀ code, FallsBack (error code))
    (plain : ∀ cells code before after, before.bound = [] →
      BcpView.Follows cells code before after call → after = before) :
    Fallible.Meets (Copying view true 0 []) (fun _ => Copying view true 0 [])
      (FailedIn library view all) (BcpSession.call library call error) := by
  refine meets_call documented ?_ ?_
  · intro session after code copying refused
    exact ⟨retried code, .of_refused List.nil_prefix copying refused⟩
  · intro session after code copying cells follows
    exact .of_eq (plain _ _ _ _ copying.bound follows) copying.env copying.dbc_eq copying.bound
      copying.sent copying.saved

theorem copyRows_meets (documented : Documented library view) (connStr : String)
    (payload : BulkInsertPayload) (bound : List BoundColumn) (rows : List (List BoundCell))
    (shows : (List.range payload.rowCount.toNat).map (fun row => bound.map (shownCell row)) =
      rows) :
    Fallible.Meets (Copying view true 0 [])
      (fun count session => count = rows.length ∧ Copied view rows session)
      (FailedIn library view rows) (copyRows library connStr payload bound) := by
  have unbound : ∀ before after : BcpView, before.bound = [] →
      after = { before with bound := [] } → after = before := by
    rintro before _ none rfl
    rw [← none]
  rw [copyRows]
  refine Fallible.Meets.bind _ (meets_plain documented rows (fun _ => rfl) ?_) fun _ => ?_
  · exact fun _ _ _ _ _ same => same
  refine Fallible.Meets.bind _ (meets_plain documented rows (fun _ => rfl) ?_) fun _ => ?_
  · exact fun _ _ _ _ _ same => same
  refine Fallible.Meets.bind _ (meets_plain documented rows (fun _ => rfl) ?_) fun _ => ?_
  · exact fun _ _ before after => unbound before after
  refine Fallible.Meets.bind _ (bindColumns_meets documented rows 0 bound) fun _ => ?_
  rw [Nat.zero_add]
  refine Fallible.Meets.bind _ (sendRows_meets documented bound [] _ shows) fun _ => ?_
  exact finish_meets documented bound.length rows

/-! ### Cleaning up -/

/-- What follows on an error follows where the body has failed. -/
theorem meets_onError {α : Type} {pre : BcpSession L → Prop} {post : α → BcpSession L → Prop}
    {failed failed' : OdbcError → BcpSession L → Prop} {calls : List BcpCall}
    {body : Fallible (BcpSession L) OdbcError α} (meets : Fallible.Meets pre post failed body)
    (cleans : ∀ error session, failed error session →
      failed' error (session.silently library calls)) :
    Fallible.Meets pre post failed' (BcpSession.onError library calls body) := by
  intro session here
  have behind := meets session here
  rw [BcpSession.onError, Fallible.perform_of]
  rcases ran : body.perform session with ⟨answer, after⟩
  rw [ran] at behind
  cases answer with
  | ok value => exact behind
  | error error => exact cleans error after behind

/-- Whether a call of the cleaning up does its work or not, no row is sent or saved but of those
that were sent. -/
theorem cleaned (documented : Documented library view) (session : BcpSession L) {call : BcpCall}
    (cleaning : call ∈ disconnectAndFreeSilent) :
    ∃ kept, (view (session.made library call).state).saved =
        (view session.state).saved ++ (view session.state).sent.take kept ∧
      ((view (session.made library call).state).sent = (view session.state).sent.drop kept ∨
        (view (session.made library call).state).sent = []) := by
  have after : (session.made library call).state =
      (library call session.cells session.state).2 := rfl
  rcases answer : library call session.cells session.state with ⟨code, state⟩
  rw [answer] at after
  rw [after]
  dsimp only
  cases worked : call.succeeded code with
  | false =>
      obtain ⟨kept, changed⟩ := documented.fails answer worked
      rw [changed]
      exact ⟨kept, rfl, .inl rfl⟩
  | true =>
      have follows := documented.succeeds answer worked
      rw [disconnectAndFreeSilent, List.mem_cons, List.mem_cons, List.mem_singleton] at cleaning
      obtain rfl | rfl | rfl := cleaning
      · obtain ⟨between, ⟨kept, rfl⟩, changed⟩ := follows
        rw [changed]
        exact ⟨kept, rfl, .inr rfl⟩
      · obtain ⟨between, ⟨kept, rfl⟩, changed⟩ := follows
        rw [changed]
        exact ⟨kept, rfl, .inr rfl⟩
      · rw [follows]
        exact ⟨0, (List.append_nil _).symm, .inl rfl⟩

theorem LeftOf.made (documented : Documented library view) {rows : List (List BoundCell)}
    (left : LeftOf library view rows session) {call : BcpCall}
    (cleaning : call ∈ disconnectAndFreeSilent) :
    LeftOf library view rows (session.made library call) := by
  obtain ⟨kept, saved, sent⟩ := cleaned documented session cleaning
  constructor
  · refine List.IsPrefix.trans ?_ left.early
    rw [saved, List.append_assoc]
    refine (List.prefix_append_right_inj _).mpr ?_
    rcases sent with rest | none
    · rw [rest, List.take_append_drop]
    · rw [none, List.append_nil]
      exact List.take_prefix _ _
  · intro undoes
    rw [← left.undone undoes]
    refine undoes rfl fun done => ?_
    rw [done.1] at cleaning
    exact absurd cleaning (by decide)

theorem Copied.made (documented : Documented library view) {rows : List (List BoundCell)}
    (copied : Copied view rows session) {call : BcpCall}
    (cleaning : call ∈ disconnectAndFreeSilent) :
    Copied view rows (session.made library call) := by
  obtain ⟨kept, saved, sent⟩ := cleaned documented session cleaning
  rw [copied.sent, List.drop_nil, or_self] at sent
  rw [copied.sent, List.take_nil, List.append_nil, copied.saved] at saved
  exact ⟨sent, saved⟩

/-- What each call of the cleaning up keeps is there behind all of them. -/
theorem silently_keeps {invariant : BcpSession L → Prop} {calls : List BcpCall}
    (keeps : ∀ session, ∀ call ∈ calls, invariant session → invariant (session.made library call))
    (here : invariant session) : invariant (session.silently library calls) := by
  induction calls generalizing session with
  | nil => exact here
  | cons call calls ih =>
      obtain ⟨first, rest⟩ := forall_and.mp fun session =>
        List.forall_mem_cons.mp (keeps session)
      exact ih rest (first session here)

/-- The handles of a copy are free again, unless a call that frees one has failed. -/
def Released (view : L → BcpView) (session : BcpSession L) : Prop :=
  (∀ record ∈ session.history, record.1 = .freeDbc ∨ record.1 = .freeEnv →
    record.1.succeeded record.2 = true) →
  (view session.state).env = false ∧ (view session.state).dbc = false

theorem Released.of_idle (idle : (view session.state).Idle) : Released view session :=
  fun _ => ⟨idle.env, idle.dbc⟩

theorem released_made_freeEnv (documented : Documented library view)
    (closed : (∀ record ∈ session.history, record.1 = .freeDbc ∨ record.1 = .freeEnv →
      record.1.succeeded record.2 = true) → (view session.state).dbc = false) :
    Released view (session.made library .freeEnv) := by
  intro freed
  obtain ⟨before, own⟩ := List.forall_mem_append.mp freed
  have worked := own _ (List.mem_singleton_self _) (.inr rfl)
  have follows := documented.succeeds rfl worked
  have changed : view (session.made library .freeEnv).state =
    { view session.state with env := false } := follows
  rw [changed]
  exact ⟨rfl, closed before⟩

theorem released_silently (documented : Documented library view) (session : BcpSession L) :
    Released view (session.silently library disconnectAndFreeSilent) := by
  refine released_made_freeEnv documented fun freed => ?_
  obtain ⟨-, own⟩ := List.forall_mem_append.mp freed
  have worked := own _ (List.mem_singleton_self _) (.inl rfl)
  obtain ⟨between, -, changed⟩ := documented.succeeds rfl worked
  exact congrArg BcpView.dbc changed

/-- All rows are saved. -/
structure SavesAll (view : L → BcpView) (rows : List (List BoundCell)) (count : Nat)
    (session : BcpSession L) : Prop where
  released : Released view session
  counted : count = rows.length
  saved : (view session.state).saved = rows

/-- A copy has failed, of which the server may have saved some rows. Of a `sound` payload the
insert is tried without. -/
structure SavesSome (library : BcpLibrary L) (view : L → BcpView) (sound : Prop)
    (rows : List (List BoundCell)) (error : OdbcError) (session : BcpSession L) : Prop where
  released : Released view session
  falls : sound → FallsBack error
  early : (view session.state).saved <+: rows
  undone : Undoes library view ∨ ¬ FallsBack error → (view session.state).saved = []

theorem savesSome_of_unsent {sound : Prop} {rows : List (List BoundCell)} {error : OdbcError}
    (idle : (view session.state).Idle) (falls : sound → FallsBack error) :
    SavesSome library view sound rows error session where
  released := .of_idle idle
  falls := falls
  early := by
    rw [idle.saved]
    exact List.nil_prefix
  undone _ := idle.saved

theorem savesSome_of_left {sound : Prop} {rows : List (List BoundCell)} {error : OdbcError}
    (released : Released view session) (falls : FallsBack error)
    (left : LeftOf library view rows session) :
    SavesSome library view sound rows error session where
  released := released
  falls _ := falls
  early := (List.prefix_append _ _).trans left.early
  undone
    | .inl undoes => left.undone undoes
    | .inr other => absurd falls other

theorem handles_meet (documented : Documented library view) (sound : Prop)
    (rows : List (List BoundCell)) :
    Fallible.Meets (Copying view false 0 []) (fun _ => Copying view true 0 [])
      (SavesSome library view sound rows)
      (BcpSession.onError library [.freeEnv] do
        BcpSession.call library .setVersion (ensureSuccess "SQLSetEnvAttr(SQL_ATTR_ODBC_VERSION)")
        BcpSession.call library .allocDbc (ensureSuccess "SQLAllocHandle(SQL_HANDLE_DBC)")) := by
  refine @meets_onError L library _ _ _
    (fun error session => FailedIn library view rows error session ∧
      (view session.state).dbc = false) _ _ _ ?_ ?_
  · have fails : ∀ (session after : BcpSession L) (step : String) (code : Int),
        Copying view false 0 [] session → Refused library view session.state after.state →
          FailedIn library view rows (ensureSuccess step code) after ∧
            (view after.state).dbc = false := by
      intro session after step code copying refused
      refine ⟨⟨fallsBack_internalError _, .of_refused List.nil_prefix copying refused⟩, ?_⟩
      obtain ⟨⟨kept, changed⟩, -⟩ := refused
      rw [changed]
      exact copying.dbc_eq
    refine Fallible.Meets.bind (fun _ => Copying view false 0 [])
      (meets_call documented (fun _ _ _ => fails _ _ _ _) ?_) fun _ =>
        meets_call documented (fun _ _ _ => fails _ _ _ _) ?_
    · intro session after code copying cells follows
      exact .of_eq follows copying.env copying.dbc_eq copying.bound copying.sent copying.saved
    · intro session after code copying cells follows
      exact .of_eq follows copying.env rfl copying.bound copying.sent copying.saved
  · rintro error session ⟨⟨falls, left⟩, closed⟩
    exact savesSome_of_left (released_made_freeEnv documented fun _ => closed) falls
      (left.made documented (by decide))

/-- A server may have saved a part of what was sent. -/
theorem savesSome_of_failedIn (documented : Documented library view) {sound : Prop}
    {rows : List (List BoundCell)} {error : OdbcError}
    (failed : FailedIn library view rows error session) :
    SavesSome library view sound rows error
      (session.silently library disconnectAndFreeSilent) :=
  savesSome_of_left (released_silently documented session) failed.1
    (silently_keeps (fun _ _ cleaning left => left.made documented cleaning) failed.2)

theorem executeNativeBcp_meets (documented : Documented library view) (libraries : Libraries)
    (connStr : String) {payload : BulkInsertPayload} (columned : payload.columns ≠ [])
    {sound : Prop} (whole : sound →
      List.Forall₂ (Whole payload.rowCount.toNat) payload.columns payload.columnData) :
    Fallible.Meets (fun session => (view session.state).Idle) (SavesAll view (payloadRows payload))
      (SavesSome library view sound (payloadRows payload))
      (executeNativeBcp library libraries connStr payload) := by
  rw [executeNativeBcp, if_neg columned]
  refine Fallible.Meets.bind (fun columns session =>
    buildBoundColumns payload = .ok columns ∧ (view session.state).Idle)
    (.check (fun columns built session idle => ⟨built, idle⟩) fun error failed session idle =>
      savesSome_of_unsent idle fun holds => ?_)
    fun columns => .assuming fun built => ?_
  · obtain ⟨columns, built, -⟩ | ⟨_, same, falls⟩ := buildBoundColumns_of_whole (whole holds)
    · cases built.symm.trans failed
    · cases same.symm.trans failed
      exact falls
  refine Fallible.Meets.bind (fun _ session => (view session.state).Idle)
    (.check (fun _ _ session idle => idle) fun error failed session idle =>
      savesSome_of_unsent idle fun holds => ?_) fun _ => ?_
  · obtain ⟨_, same, lens⟩ | ⟨_, failed, -⟩ := buildBoundColumns_of_whole (whole holds)
    · cases same.symm.trans built
      rw [checkLengths_of_len lens] at failed
      cases failed
    · cases built.symm.trans failed
  refine Fallible.Meets.bind (fun _ session => (view session.state).Idle)
    (.check (fun _ _ session idle => idle) fun error failed session idle =>
      savesSome_of_unsent idle fun _ => fallsBack_of_loadSymbols failed) fun _ => ?_
  refine Fallible.Meets.bind (fun _ => Copying view false 0 [])
    (meets_call documented ?_ ?_) fun _ => ?_
  · rintro session after code idle ⟨changed, -⟩
    exact savesSome_of_unsent (idle.of_maySave changed) fun _ => fallsBack_internalError _
  · intro session after code idle cells follows
    exact .of_eq follows rfl idle.dbc idle.bound idle.sent idle.saved
  refine Fallible.Meets.bind (fun _ => Copying view true 0 [])
    (handles_meet documented _ _) fun _ => ?_
  have rows : (List.range payload.rowCount.toNat).map (fun row => columns.map (shownCell row)) =
      payloadRows payload :=
    List.map_congr_left fun row _ => shownCells_of_build built row
  refine Fallible.Meets.bind (fun count session => count = (payloadRows payload).length ∧
    Copied view (payloadRows payload) session)
    (meets_onError (copyRows_meets documented connStr payload columns _ rows)
      fun error session failed => savesSome_of_failedIn documented failed) fun count => ?_
  rintro session ⟨counted, copied⟩
  have behind : Copied view (payloadRows payload)
      (session.silently library disconnectAndFreeSilent) :=
    silently_keeps (fun _ _ cleaning copied => copied.made documented cleaning) copied
  exact ⟨released_silently documented session, counted, behind.saved⟩

theorem columns_of_validatePayload {payload : BulkInsertPayload}
    (valid : validatePayload payload = .ok ()) : payload.columns ≠ [] := by
  rw [validatePayload] at valid
  split_ifs at valid with unnamed none unpaired
  exact none

/-- A payload that the reader accepts and that is no less than a copy asks for, with names that can
be quoted. -/
structure Insertable (payload : BulkInsertPayload) : Prop where
  parsed : ∃ data, parseBulkInsertPayload data = .ok payload
  valid : validatePayload payload = .ok ()
  named : ∃ sql, insertStatement payload.table (payload.columns.map BulkColumnSpec.name) = .ok sql

theorem Insertable.whole {payload : BulkInsertPayload} (insertable : Insertable payload) :
    List.Forall₂ (Whole payload.rowCount.toNat) payload.columns payload.columnData := by
  obtain ⟨data, parsed⟩ := insertable.parsed
  refine forall₂_of_parse (fun rowCount o spec column consumed read => ?_) parsed
  exact ⟨fits_of_parseColumnData read, hasBits_of_parseColumnData read⟩

theorem bulkCopyNative_meets (documented : Documented library view) (runtime : BcpRuntime)
    (payload : BulkInsertPayload) (connStr : Option String) :
    Fallible.Meets (fun session => (view session.state).Idle) (SavesAll view (payloadRows payload))
      (SavesSome library view (Insertable payload) (payloadRows payload))
      (bulkCopyNative runtime library payload connStr) := by
  have unsupported : ∀ message, Fallible.Meets (fun session => (view session.state).Idle)
      (SavesAll view (payloadRows payload))
      (SavesSome library view (Insertable payload) (payloadRows payload))
      (Fallible.check (.error (.unsupportedFeature message))) :=
    fun message session idle => savesSome_of_unsent idle fun _ => rfl
  rw [bulkCopyNative]
  refine Fallible.Meets.bind (fun _ session => payload.columns ≠ [] ∧ (view session.state).Idle)
    (.check (fun _ valid session idle => ⟨columns_of_validatePayload valid, idle⟩)
      fun error failed session idle => savesSome_of_unsent idle fun insertable => ?_)
    fun _ => .assuming fun columned => ?_
  · rw [insertable.valid] at failed
    cases failed
  rw [tryNativeSqlserverBcp.eq_def]
  split_ifs with windows enabled
  · refine Fallible.Meets.bind (fun _ session => (view session.state).Idle)
      (.check (fun _ _ session idle => idle) fun error failed session idle =>
        savesSome_of_unsent idle fun _ => fallsBack_of_probe failed) fun _ => ?_
    cases connStr with
    | none => exact unsupported _
    | some connStr =>
        dsimp only
        split_ifs with sqlServer
        · exact executeNativeBcp_meets documented runtime.libraries connStr columned
            Insertable.whole
        · exact unsupported _
  · exact unsupported _
  · exact unsupported _

/-- The rows of a payload are inserted once, by a copy or by the statements of a session. Of a copy
that failed a server may have saved the first rows, which are there besides. A `sound` payload
fails only where a call of the session is refused. -/
structure InsertedOnce (view : L → BcpView) (rows : List (List BoundCell)) (undone sound : Prop)
    (session : Session (List BoundCell))
    (ran : (Except (Fault OdbcError) Nat × Session (List BoundCell)) × BcpSession L)
    (added : List (SessionRecord (List BoundCell))) : Prop where
  released : Released view ran.2
  history : ran.1.2.history = session.history ++ added
  upTo : rowsSent added <+: rows
  kept : (view ran.2.state).saved <+: rows
  all : ∀ count, ran.1.1 = .ok count → count = rows.length ∧
    (added = [] ∧ (view ran.2.state).saved = rows ∨ rowsSent added = rows)
  once : undone → (view ran.2.state).saved = [] ∨
    ran.1.1 = .ok rows.length ∧ added = [] ∧ (view ran.2.state).saved = rows
  refused : sound → (∀ record ∈ added, record.refusal = none) → ∃ count, ran.1.1 = .ok count

section

variable {rows : List (List BoundCell)} {undone sound : Prop} {session : Session (List BoundCell)}
  {result : Except (Fault OdbcError) Nat} {copy : BcpSession L}

/-- The rows are left to the session. -/
theorem insertedOnce_of_sends {sound' : Prop}
    {ran : Except (Fault OdbcError) Nat × Session (List BoundCell)}
    {added : List (SessionRecord (List BoundCell))} (sends : Sends rows 0 sound' session ran added)
    (weaker : sound → sound') (answered : ∀ count, result = .ok count ↔ ran.1 = .ok count)
    (released : Released view copy) (kept : (view copy.state).saved <+: rows)
    (unsaved : undone → (view copy.state).saved = []) :
    InsertedOnce view rows undone sound session ((result, ran.2), copy) added := by
  refine ⟨released, sends.history, sends.upTo, kept, ?_, fun holds => .inl (unsaved holds), ?_⟩
  · intro count ok
    obtain ⟨whole, counted⟩ := sends.all count ((answered count).mp ok)
    exact ⟨counted.trans (Nat.zero_add _), .inr whole⟩
  · intro holds accepted
    obtain ⟨count, ok⟩ := sends.refused (weaker holds) accepted
    exact ⟨count, (answered count).mpr ok⟩

/-- The session is left alone. -/
theorem insertedOnce_of_unsent (released : Released view copy)
    (kept : (view copy.state).saved <+: rows)
    (all : ∀ count, result = .ok count → count = rows.length ∧ (view copy.state).saved = rows)
    (once : undone → (view copy.state).saved = [] ∨
      result = .ok rows.length ∧ (view copy.state).saved = rows)
    (answers : sound → ∃ count, result = .ok count) :
    InsertedOnce view rows undone sound session ((result, session), copy) [] where
  released := released
  history := (List.append_nil _).symm
  upTo := List.nil_prefix
  kept := kept
  all count ok := ⟨(all count ok).1, .inl ⟨rfl, (all count ok).2⟩⟩
  once holds := (once holds).imp_right fun here => ⟨here.1, rfl, here.2⟩
  refused holds _ := answers holds

end

/-- A copy with the insert behind it. -/
theorem bulkCopyFromPayload_once {B : Type} (runtime : BcpRuntime)
    (documented : Documented library view) (inserter : BulkInserter B)
    (driver : SessionDriver (List BoundCell)) (batchSize : Nat) (payload : BulkInsertPayload)
    (connStr : Option String) (session : Session (List BoundCell)) {state : L}
    (idle : (view state).Idle) :
    ∃ added, InsertedOnce view (payloadRows payload) (Undoes library view) (Insertable payload)
      session
      (bulkCopyFromPayload runtime library inserter driver batchSize payload connStr session state)
      added := by
  rw [bulkCopyFromPayload]
  by_cases empty : payload.rowCount = 0
  · have nothing : payloadRows payload = [] := by rw [payloadRows, empty]; rfl
    have start : ({ state } : BcpSession L).state = state := rfl
    rw [if_pos empty, nothing]
    refine ⟨[], insertedOnce_of_unsent (.of_idle idle) ?_ ?_ (fun _ => .inl idle.saved)
      fun _ => ⟨0, rfl⟩⟩
    · rw [start, idle.saved]
    · intro count ok
      exact ⟨(Except.ok.inj ok).symm, idle.saved⟩
  · rw [if_neg empty]
    have behind := bulkCopyNative_meets documented runtime payload connStr { state } idle
    rcases ran : (bulkCopyNative runtime library payload connStr).perform { state } with
      ⟨answer, copy⟩
    rw [ran] at behind
    cases answer with
    | ok inserted =>
        obtain ⟨released, rfl, saved⟩ := behind
        refine ⟨[], insertedOnce_of_unsent released ?_ ?_ (fun _ => .inr ⟨rfl, saved⟩)
          fun _ => ⟨_, rfl⟩⟩
        · rw [saved]
        · intro count ok
          exact ⟨(Except.ok.inj ok).symm, saved⟩
    | error nativeError =>
        obtain ⟨released, falls, early, undone⟩ := behind
        dsimp only
        by_cases again : shouldFallbackToArrayBinding nativeError = true
        · obtain ⟨added, sends⟩ :=
            bulkInsertGeneric_sends inserter driver payload (max batchSize 1) session
          rw [if_pos again]
          exact ⟨added, insertedOnce_of_sends sends (fun insertable => ⟨insertable.parsed,
            insertable.named⟩) mapError_eq_ok_iff released early fun undoes =>
              undone (.inl undoes)⟩
        · rw [if_neg again]
          exact ⟨[], insertedOnce_of_unsent released early (fun _ ok => by cases ok)
            (fun _ => .inl (undone (.inr again))) fun insertable =>
              absurd (falls insertable) again⟩

theorem checkRows_eq_error {rowCount idx : Nat} {columns : List (BulkColumnSpec × BulkColumnData)}
    {error : OdbcError} (refused : checkRows rowCount idx columns = .error error) :
    ∃ message, error = .validationError message := by
  induction columns generalizing idx with
  | nil => cases refused
  | cons column columns ih =>
      rw [checkRows] at refused
      split_ifs at refused
      · exact ⟨_, (Except.error.inj refused).symm⟩
      · exact ih refused

theorem not_fallsBack_of_validatePayload {payload : BulkInsertPayload} {error : OdbcError}
    (refused : validatePayload payload = .error error) : ¬ FallsBack error := by
  have told : ∃ message, error = .validationError message := by
    rw [validatePayload] at refused
    split_ifs at refused
    · exact ⟨_, (Except.error.inj refused).symm⟩
    · exact ⟨_, (Except.error.inj refused).symm⟩
    · exact ⟨_, (Except.error.inj refused).symm⟩
    · exact checkRows_eq_error refused
  obtain ⟨message, rfl⟩ := told
  exact Bool.false_ne_true

/-- A payload that is refused before the copy is not inserted at all. -/
theorem bulkCopyFromPayload_refused {B : Type} (runtime : BcpRuntime) (library : BcpLibrary L)
    (inserter : BulkInserter B) (driver : SessionDriver (List BoundCell)) (batchSize : Nat)
    {payload : BulkInsertPayload} (connStr : Option String) (session : Session (List BoundCell))
    (state : L) (rows : payload.rowCount ≠ 0) {error : OdbcError}
    (refused : validatePayload payload = .error error) :
    bulkCopyFromPayload runtime library inserter driver batchSize payload connStr session state =
      ((.error (.err error), session), { state }) := by
  have stopped : (bulkCopyNative runtime library payload connStr).perform { state } =
      (.error error, { state }) := by
    rw [bulkCopyNative, refused]
    exact Fallible.perform_bind_error rfl
  rw [bulkCopyFromPayload, if_neg rows, stopped]
  exact if_neg (not_fallsBack_of_validatePayload refused)

/-- A bulk insert uses the rows of its payload once. Either all are copied, and the session of the
caller is left alone, or they are sent on that session, up to the first call that is refused; a
copy that fails is no reason to leave a row out. Behind it the handles of the copy are free, unless
freeing one has failed, and an answer that is not an error counts the rows. Rows of a copy that
failed are there besides, unless its server undoes a copy that is not brought to its end. Where
there is a copy to try, a payload that is refused for it is not inserted at all. -/
theorem bulkInsertPayload_once {B : Type} (feature : Option BcpRuntime)
    (documented : Documented library view) (inserter : BulkInserter B)
    (driver : SessionDriver (List BoundCell)) (payload : BulkInsertPayload)
    (connStr : Option String) (session : Session (List BoundCell)) {state : L}
    (idle : (view state).Idle) :
    (∃ added, InsertedOnce view (payloadRows payload) (Undoes library view) (Insertable payload)
      session (bulkInsertPayload feature library inserter driver payload connStr session state)
      added) ∧
    ∀ error, feature.isSome = true → payload.rowCount ≠ 0 → validatePayload payload = .error error →
      bulkInsertPayload feature library inserter driver payload connStr session state =
        ((.error (.err error), session), { state }) := by
  cases feature with
  | none =>
      refine ⟨?_, nofun⟩
      obtain ⟨added, sends⟩ :=
        bulkInsertGeneric_sends inserter driver payload defaultParamsetSize session
      refine ⟨added, insertedOnce_of_sends sends (fun insertable => ⟨insertable.parsed,
        insertable.named⟩) (fun _ => Iff.rfl) (.of_idle idle) ?_ fun _ => idle.saved⟩
      have start : ({ state } : BcpSession L).state = state := rfl
      rw [start, idle.saved]
      exact List.nil_prefix
  | some runtime =>
      exact ⟨bulkCopyFromPayload_once runtime documented inserter driver 1000 payload connStr
        session idle, fun _ _ rows refused => bulkCopyFromPayload_refused runtime library inserter
          driver 1000 connStr session state rows refused⟩

end

/-- A library that does its work, and a server that refuses the end of a copy with one row of it
saved. -/
def stoppedLibrary : BcpLibrary BcpView := fun call cells view =>
  match call with
  | .allocEnv => (0, { view with env := true })
  | .allocDbc => (0, { view with dbc := true })
  | .setVersion | .setBcp | .connect _ => (0, view)
  | .initW _ => (1, { view with bound := [] })
  | .bind cbData _ column =>
    (1, { view with
      bound := view.bound ++ [column], lengths := Function.update view.lengths column cbData })
  | .collen length column =>
    (1, { view with lengths := Function.update view.lengths column length })
  | .sendRow => (1, { view with sent := view.sent ++ [view.row cells] })
  | .done => (-1, { view with sent := view.sent.drop 1, saved := view.saved ++ view.sent.take 1 })
  | .disconnect => (0, { view with sent := [] })
  | .freeDbc => (0, { view with dbc := false, sent := [] })
  | .freeEnv => (0, { view with env := false })

theorem BcpView.maySave_self (view : BcpView) : view.MaySave view :=
  ⟨0, by rw [List.drop_zero, List.take_zero, List.append_nil]⟩

theorem documented_stoppedLibrary : Documented stoppedLibrary id where
  succeeds {call cells state after code} answer worked := by
    cases call with
    | done =>
        cases answer
        cases worked
    | disconnect =>
        cases answer
        exact ⟨state, state.maySave_self, rfl⟩
    | freeDbc =>
        cases answer
        exact ⟨state, state.maySave_self, rfl⟩
    | _ =>
        cases answer
        rfl
  fails {call cells state after code} answer refused := by
    cases call with
    | done =>
        cases answer
        exact ⟨1, rfl⟩
    | _ =>
        cases answer
        cases refused

def copyRuntime : BcpRuntime where
  windows := true
  unstable := some "1"
  libraries _ := .ok ["bcp_initW", "bcp_bind", "bcp_collen", "bcp_sendrow", "bcp_done"]

/-- The server has saved a row of the copy, which is sent again. -/
theorem bulkInsertPayload_once_stopped :
    (bulkInsertPayload (some copyRuntime) stoppedLibrary plainInserter refusesNothing threeRows
      (some "Driver=\x7bSQL Server\x7d") {} {}).2.state.saved = [[.i32 1]] ∧
    (∃ added, InsertedOnce id [[.i32 1], [.null], [.i32 3]] (Undoes stoppedLibrary id)
      (Insertable threeRows) {}
      (bulkInsertPayload (some copyRuntime) stoppedLibrary plainInserter refusesNothing threeRows
        (some "Driver=\x7bSQL Server\x7d") {} {}) added) :=
  ⟨by rfl, (bulkInsertPayload_once (some copyRuntime) documented_stoppedLibrary plainInserter
    refusesNothing threeRows (some "Driver=\x7bSQL Server\x7d") {}
    ⟨rfl, rfl, rfl, rfl, rfl⟩).1⟩

end

end OdbcFast.Verification
