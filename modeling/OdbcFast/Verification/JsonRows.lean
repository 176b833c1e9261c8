import OdbcFast.Native.Engine.Driver

/-!
# Rows of a JSON document

SQL Server sends a JSON document as rows with pieces of it. They are put together into one
cell: nothing is added, lost or moved. What has another shape stays as it is, and so does a
document without rows.
-/

namespace OdbcFast.Verification

open Wire OdbcFast.Native

variable {buffer : RowBuffer}

/-- The rows hold the pieces of a JSON document. -/
def JsonPieces (buffer : RowBuffer) : Prop := isForJsonResult buffer = true ∧ buffer.rows ≠ []

theorem coalesceForJsonRows_of_not (whole : ¬ JsonPieces buffer) :
    coalesceForJsonRows buffer = buffer := by
  rw [coalesceForJsonRows]
  by_cases json : isForJsonResult buffer = true
  · rw [if_neg (not_not.mpr json), if_pos]
    by_contra some
    exact whole ⟨json, fun none => some (List.isEmpty_iff.mpr none)⟩
  · rw [if_pos json]

theorem columns_coalesceForJsonRows (pieces : JsonPieces buffer) :
    ∃ col, buffer.columns = [col] ∧
      (coalesceForJsonRows buffer).columns = [{ col with odbcType := .json }] := by
  have single : buffer.columns.length = 1 := (decide_eq_true_iff.mp pieces.1).1
  obtain ⟨col, alone⟩ := List.length_eq_one_iff.mp single
  refine ⟨col, alone, ?_⟩
  rw [coalesceForJsonRows, if_neg (not_not.mpr pieces.1), if_neg]
  · rw [alone]
    rfl
  · rw [List.isEmpty_iff]
    exact pieces.2

/-- The cells that are not NULL, row after row. -/
def contents (rows : List (List Cell)) : List Bytes := rows.flatMap fun row => row.filterMap id

/-- One row with one cell, which holds the first cells of all rows in order, and is NULL if all
of them are. Where no row has more cells than there are columns, nothing else is there. -/
structure PutTogether (buffer result : RowBuffer) : Prop where
  columns : ∃ col, buffer.columns = [col] ∧ result.columns = [{ col with odbcType := .json }]
  row : ∃ cell : Cell, result.rows = [[cell]] ∧
    (cell = none ↔ jsonChunks buffer.rows = []) ∧
    cell.getD [] = (jsonChunks buffer.rows).flatten
  whole : buffer.Rectangular → jsonChunks buffer.rows = contents buffer.rows

theorem jsonChunks_of_single {rows : List (List Cell)} (single : ∀ row ∈ rows, row.length = 1) :
    jsonChunks rows = contents rows := by
  induction rows with
  | nil => rfl
  | cons row rows ih =>
      obtain ⟨first, others⟩ := List.forall_mem_cons.mp single
      obtain ⟨cell, rfl⟩ := List.length_eq_one_iff.mp first
      have rest := ih others
      rw [jsonChunks, contents] at rest ⊢
      rw [List.flatMap_cons, ← rest]
      cases cell with
      | none => rfl
      | some bytes => rfl

theorem rows_coalesceForJsonRows (pieces : JsonPieces buffer) :
    (coalesceForJsonRows buffer).rows = [[if (jsonChunks buffer.rows).isEmpty then none
      else some (jsonChunks buffer.rows).flatten]] := by
  rw [coalesceForJsonRows, if_neg (not_not.mpr pieces.1), if_neg]
  rw [List.isEmpty_iff]
  exact pieces.2

theorem putTogether (pieces : JsonPieces buffer) :
    PutTogether buffer (coalesceForJsonRows buffer) where
  columns := columns_coalesceForJsonRows pieces
  row := by
    refine ⟨_, rows_coalesceForJsonRows pieces, ?_⟩
    cases chunks : jsonChunks buffer.rows with
    | nil => exact ⟨iff_of_true rfl rfl, rfl⟩
    | cons first rest => exact ⟨iff_of_false (Option.some_ne_none _) (List.cons_ne_nil _ _), rfl⟩
  whole := by
    intro rectangular
    have single : buffer.columns.length = 1 := (decide_eq_true_iff.mp pieces.1).1
    exact jsonChunks_of_single fun row mem => (rectangular row mem).trans single

theorem jsonChunks_cell (cell : Cell) : jsonChunks [[cell]] = cell.toList := by
  cases cell with
  | none => rfl
  | some bytes => rfl

/-- Putting the pieces together once more changes nothing: one piece is left, the whole. -/
theorem coalesceForJsonRows_idempotent (pieces : JsonPieces buffer) :
    coalesceForJsonRows (coalesceForJsonRows buffer) = coalesceForJsonRows buffer := by
  have together := putTogether pieces
  obtain ⟨col, before, columns⟩ := together.columns
  obtain ⟨cell, row, -⟩ := together.row
  have still : JsonPieces (coalesceForJsonRows buffer) := by
    refine ⟨?_, row ▸ List.cons_ne_nil _ _⟩
    have named := (decide_eq_true_iff.mp pieces.1).2
    rw [before] at named
    rw [isForJsonResult, columns]
    exact decide_eq_true ⟨congrArg List.length columns, named⟩
  have again := putTogether still
  obtain ⟨col', before', columns'⟩ := again.columns
  have sameColumns : (coalesceForJsonRows (coalesceForJsonRows buffer)).columns
      = (coalesceForJsonRows buffer).columns := by
    rw [columns']
    rw [columns] at before' ⊢
    obtain rfl : { col with odbcType := .json } = col' := List.head_eq_of_cons_eq before'
    rfl
  have sameRows : (coalesceForJsonRows (coalesceForJsonRows buffer)).rows
      = (coalesceForJsonRows buffer).rows := by
    rw [rows_coalesceForJsonRows still, row, jsonChunks_cell]
    cases cell with
    | none => rfl
    | some bytes => simp
  calc coalesceForJsonRows (coalesceForJsonRows buffer)
      = ⟨(coalesceForJsonRows (coalesceForJsonRows buffer)).columns,
          (coalesceForJsonRows (coalesceForJsonRows buffer)).rows⟩ := rfl
    _ = coalesceForJsonRows buffer := by rw [sameColumns, sameRows]

/-- What does not hold pieces of a document is left alone. The rows with the pieces become one row
with their contents in order. A second time, nothing is left to do. -/
theorem json_rows_put_together (buffer : RowBuffer) :
    (¬ JsonPieces buffer → coalesceForJsonRows buffer = buffer) ∧
    (JsonPieces buffer → PutTogether buffer (coalesceForJsonRows buffer)) ∧
    coalesceForJsonRows (coalesceForJsonRows buffer) = coalesceForJsonRows buffer := by
  refine ⟨coalesceForJsonRows_of_not, putTogether, ?_⟩
  by_cases pieces : JsonPieces buffer
  · exact coalesceForJsonRows_idempotent pieces
  · rw [coalesceForJsonRows_of_not pieces, coalesceForJsonRows_of_not pieces]

/-- The column of a document, for which the server sent no row. -/
def documentWithoutRows : RowBuffer :=
  { columns := [{ name := sqlServerForJsonColumnName, odbcType := .nVarchar }], rows := [] }

/-- No row is made where none was. -/
theorem no_rows_stay_no_rows : isForJsonResult documentWithoutRows = true ∧
    (coalesceForJsonRows documentWithoutRows).rows.length = 0 := by
  decide +kernel

end OdbcFast.Verification
