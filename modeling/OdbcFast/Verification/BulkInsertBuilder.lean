import OdbcFast.Dart.BulkInsertBuilder
import OdbcFast.Verification.BulkInsert

/-!
# What the engine receives from a builder

The builder and the engine agree on the layout: as long as a builder keeps to the engine's
limits, which it does not check itself, the engine reads its payload with the same table,
columns and rows, finds a null exactly where there is one, and recovers every integer.

Texts, decimals and binaries do not always arrive: the builder cuts what is longer than the
column's width and the engine cuts at the first zero. `arrives_iff` says which values do.
Of the points in time, those without microseconds arrive, as far as the year fits.
-/

namespace OdbcFast.Verification

open Wire Dart

/-! ## Builders -/

/-- A builder that was made by calls of its methods. -/
inductive Made : BulkInsertBuilder → Prop
  | new : Made {}
  | table {builder : BulkInsertBuilder} (made : Made builder) (name : String) :
      Made (builder.table name)
  | addColumn {builder : BulkInsertBuilder} (made : Made builder) (spec : Dart.BulkColumnSpec) :
      Made (builder.addColumn spec)
  | addRow {builder next : BulkInsertBuilder} (made : Made builder) (values : List BulkValue)
      (added : builder.addRow values = .ok next) : Made next

/-- What the engine takes at all. -/
structure BuilderLimits (builder : BulkInsertBuilder) : Prop where
  tableFits : (utf8Bytes builder.tableName).length < 2 ^ 32
  fewColumns : builder.columns.length ≤ Native.maxBulkColumns
  namesFit : ∀ spec ∈ builder.columns, (utf8Bytes spec.name).length < 2 ^ 32
  widths : ∀ spec ∈ builder.columns, 0 ≤ spec.maxLen ∧ spec.maxLen ≤ Native.maxBulkCellLen
  fewRows : builder.rows.length ≤ Native.maxBulkRows

/-- `addRow` lets the value pass. -/
def Admitted (spec : Dart.BulkColumnSpec) (value : BulkValue) : Prop :=
  ∃ rowNumber, validateValueForColumn value spec rowNumber = .ok ()

/-- Every row was checked against the columns there were. -/
def Checked (builder : BulkInsertBuilder) : Prop :=
  ∀ row ∈ builder.rows, row.length ≤ builder.columns.length ∧
    ∀ (c : Nat) value spec, row[c]? = some value → builder.columns[c]? = some spec →
      Admitted spec value

theorem Checked.addColumn {builder : BulkInsertBuilder} (checked : Checked builder)
    (spec : Dart.BulkColumnSpec) : Checked (builder.addColumn spec) := by
  intro row member
  obtain ⟨short, admitted⟩ := checked row member
  refine ⟨?_, ?_⟩
  · exact short.trans (by simp [BulkInsertBuilder.addColumn])
  · intro c value other found declared
    have inside : c < builder.columns.length :=
      (List.getElem?_eq_some_iff.mp found).1.trans_le short
    rw [BulkInsertBuilder.addColumn, List.getElem?_append_left inside] at declared
    exact admitted c value other found declared

theorem Checked.addRow {builder next : BulkInsertBuilder} {values : List BulkValue}
    (checked : Checked builder) (added : builder.addRow values = .ok next) : Checked next := by
  rw [BulkInsertBuilder.addRow] at added
  split_ifs at added with _ counted
  obtain ⟨results, validated, built⟩ := bind_eq_ok.mp added
  cases built
  intro row member
  rcases List.mem_append.mp member with earlier | last
  · exact checked row earlier
  · obtain rfl := List.mem_singleton.mp last
    refine ⟨(not_not.mp counted).le, ?_⟩
    intro c value spec found declared
    have paired : (row.zip builder.columns)[c]? = some (value, spec) :=
      List.getElem?_zip_eq_some.mpr ⟨found, declared⟩
    obtain ⟨_, passed⟩ := exists_of_mapM_eq_ok validated (List.mem_of_getElem? paired)
    exact ⟨_, passed⟩

theorem checked_of_made {builder : BulkInsertBuilder} (made : Made builder) : Checked builder := by
  induction made with
  | new => rintro _ ⟨⟩
  | table _ _ ih => exact ih
  | addColumn _ spec ih => exact ih.addColumn spec
  | addRow _ _ added ih => exact ih.addRow added

theorem Admitted.not_null {spec : Dart.BulkColumnSpec} {value : BulkValue}
    (admitted : Admitted spec value) (strict : spec.nullable = false) : value ≠ .null := by
  rintro rfl
  obtain ⟨rowNumber, passed⟩ := admitted
  rw [validateValueForColumn, strict] at passed
  cases passed

theorem Admitted.i32 {spec : Dart.BulkColumnSpec} {value : BulkValue}
    (admitted : Admitted spec value) (typed : spec.colType = .i32) (some' : value ≠ .null) :
    ∃ n : Int64, value = .int n ∧ -2 ^ 31 ≤ n.toInt ∧ n.toInt < 2 ^ 31 := by
  obtain ⟨rowNumber, passed⟩ := admitted
  rw [validateValueForColumn.eq_def, typed] at passed
  cases value with
  | int n =>
      dsimp only at passed
      split_ifs at passed with beyond
      exact ⟨n, rfl, by omega, by omega⟩
  | null => exact absurd rfl some'
  | double | string | bytes | dateTime | timestamp | other => cases passed

theorem Admitted.i64 {spec : Dart.BulkColumnSpec} {value : BulkValue}
    (admitted : Admitted spec value) (typed : spec.colType = .i64) (some' : value ≠ .null) :
    ∃ n : Int64, value = .int n := by
  obtain ⟨rowNumber, passed⟩ := admitted
  rw [validateValueForColumn.eq_def, typed] at passed
  cases value with
  | int n => exact ⟨n, rfl⟩
  | null => exact absurd rfl some'
  | double | string | bytes | dateTime | timestamp | other => cases passed

/-! ## The payload that arrives -/

/-- The values of a column. -/
def valuesAt (c : Nat) (builder : BulkInsertBuilder) : List BulkValue :=
  builder.rows.map fun row => row.getD c .null

def receivedPayload (builder : BulkInsertBuilder) : Native.BulkInsertPayload where
  table := builder.tableName
  columns := builder.columns.map Dart.BulkColumnSpec.toNative
  rowCount := .ofNat builder.rows.length
  columnData := builder.columns.zipIdx.map fun column =>
    bulkColumnDataOf column.1 (valuesAt column.2 builder)

theorem columnValues_eq_ok {c : Nat} {builder : BulkInsertBuilder} {values : List BulkValue}
    (read : builder.columnValues c = .ok values) :
    values = valuesAt c builder ∧ ∀ row ∈ builder.rows, c < row.length := by
  rw [BulkInsertBuilder.columnValues] at read
  refine ⟨eq_map_of_mapM_eq_ok read ?_, ?_⟩
  · intro row value found
    rw [List.getD_eq_getElem?_getD]
    cases there : row[c]? with
    | none =>
        rw [there] at found
        cases found
    | some other =>
        rw [there] at found
        cases found
        rfl
  · intro row member
    obtain ⟨value, found⟩ := exists_of_mapM_eq_ok read member
    by_contra short
    rw [List.getElem?_eq_none (Nat.not_lt.mp short)] at found
    cases found

/-- The columns that `build` writes, and that every row reaches to the last of them. -/
theorem build_eq_ok {builder : BulkInsertBuilder} {bytes : Bytes}
    (built : builder.build = .ok bytes) :
    (∀ c < builder.columns.length, ∀ row ∈ builder.rows, c < row.length) ∧
      bytes = u32Le (utf8Bytes builder.tableName).length ++ utf8Bytes builder.tableName ++
        u32Le builder.columns.length ++ builder.columns.flatMap columnSpecBytes ++
        u32Le builder.rows.length ++ (builder.columns.zipIdx.map fun column =>
          serializeColumn column.1 (valuesAt column.2 builder)).flatten := by
  rw [BulkInsertBuilder.build] at built
  split_ifs at built
  obtain ⟨_, _, built⟩ := bind_eq_ok.mp built
  obtain ⟨blocks, written, built⟩ := bind_eq_ok.mp built
  refine ⟨?_, ?_⟩
  · intro c inside
    have member : (builder.columns[c], c) ∈ builder.columns.zipIdx :=
      List.mem_zipIdx_iff_getElem?.mpr (List.getElem?_eq_getElem inside)
    obtain ⟨_, turn⟩ := exists_of_mapM_eq_ok written member
    obtain ⟨values, read, _⟩ := bind_eq_ok.mp turn
    exact (columnValues_eq_ok read).2
  · have blocks_eq : blocks = builder.columns.zipIdx.map fun column =>
        serializeColumn column.1 (valuesAt column.2 builder) := by
      refine eq_map_of_mapM_eq_ok written ?_
      rintro ⟨spec, c⟩ block turn
      obtain ⟨values, read, turn⟩ := bind_eq_ok.mp turn
      cases turn
      rw [(columnValues_eq_ok read).1]
    rw [← blocks_eq]
    exact (Except.ok.inj built).symm

theorem BuilderLimits.withinCaps {builder : BulkInsertBuilder} (limits : BuilderLimits builder) :
    Native.BulkInsert.WithinCaps builder.tableName
      (builder.columns.map Dart.BulkColumnSpec.toNative) builder.rows.length where
  tableFits := limits.tableFits
  fewColumns := by
    rw [List.length_map]
    exact limits.fewColumns
  namesFit := by
    intro native member
    obtain ⟨spec, declared, rfl⟩ := List.mem_map.mp member
    exact limits.namesFit spec declared
  narrow := by
    intro native member
    obtain ⟨spec, declared, rfl⟩ := List.mem_map.mp member
    exact Int.toNat_le.mpr (limits.widths spec declared).2
  fewRows := limits.fewRows

theorem BuilderLimits.specBytes {builder : BulkInsertBuilder} (limits : BuilderLimits builder) :
    builder.columns.flatMap columnSpecBytes =
      (builder.columns.map Dart.BulkColumnSpec.toNative).flatMap Native.BulkInsert.specBytes := by
  rw [List.flatMap_map]
  refine List.flatMap_congr ?_
  intro spec declared
  obtain ⟨positive, narrow⟩ := limits.widths spec declared
  have small : (Native.maxBulkCellLen : Int) < 2 ^ 32 := by decide
  exact columnSpecBytes_eq positive (narrow.trans_lt small)

/-- Each column is read as it was written. -/
theorem forall₂_reads_columns (builder : BulkInsertBuilder) :
    List.Forall₂ (fun spec block =>
        Native.BulkInsert.Reads builder.rows.length spec block.1 block.2)
      (builder.columns.map Dart.BulkColumnSpec.toNative)
      (builder.columns.zipIdx.map fun column =>
        (serializeColumn column.1 (valuesAt column.2 builder),
          bulkColumnDataOf column.1 (valuesAt column.2 builder))) := by
  have columns : builder.columns.map Dart.BulkColumnSpec.toNative =
      builder.columns.zipIdx.map fun column => column.1.toNative := by
    nth_rewrite 1 [← List.zipIdx_map_fst 0 builder.columns]
    exact List.map_map ..
  rw [columns, List.forall₂_map_left_iff, List.forall₂_map_right_iff, List.forall₂_same]
  intro column _
  have reads := reads_serializeColumn column.1 (valuesAt column.2 builder)
  rw [valuesAt, List.length_map] at reads
  exact reads

/-- Within its limits the engine receives what was built. -/
theorem parse_build {builder : BulkInsertBuilder} {bytes : Bytes} (limits : BuilderLimits builder)
    (built : builder.build = .ok bytes) :
    Native.parseBulkInsertPayload bytes = .ok (receivedPayload builder) := by
  obtain ⟨-, rfl⟩ := build_eq_ok built
  have parsed := Native.BulkInsert.parse_layout limits.withinCaps (forall₂_reads_columns builder)
  rw [List.map_map, List.map_map, Native.BulkInsert.layout, List.length_map,
    ← limits.specBytes] at parsed
  exact parsed

/-- The column of the payload that a declaration becomes. -/
theorem columnData_receivedPayload {builder : BulkInsertBuilder} {c : Nat}
    {spec : Dart.BulkColumnSpec} (declared : builder.columns[c]? = some spec) :
    (receivedPayload builder).columnData[c]? = some (bulkColumnDataOf spec (valuesAt c builder)) := by
  rw [receivedPayload, List.getElem?_map, List.getElem?_zipIdx, declared]
  simp

/-- A value of a row that `build` has written. -/
theorem value_of_built {builder : BulkInsertBuilder} {bytes : Bytes} (made : Made builder)
    (built : builder.build = .ok bytes) {c r : Nat} {spec : Dart.BulkColumnSpec}
    {row : List BulkValue} (declared : builder.columns[c]? = some spec)
    (there : builder.rows[r]? = some row) :
    ∃ value, row[c]? = some value ∧ (valuesAt c builder)[r]? = some value ∧
      Admitted spec value := by
  have inside := (List.getElem?_eq_some_iff.mp declared).1
  have member := List.mem_of_getElem? there
  have reaches := (build_eq_ok built).1 c inside row member
  have found : row[c]? = some row[c] := List.getElem?_eq_getElem reaches
  refine ⟨row[c], found, ?_, (checked_of_made made row member).2 c _ spec found declared⟩
  rw [valuesAt, List.getElem?_map, there, Option.map_some, List.getD_eq_getElem?_getD, found]
  rfl

/-! ## Nulls and integers -/

def nullBitmapIn : Native.BulkColumnData → Option Bytes
  | .i32 _ bitmap | .i64 _ bitmap | .text _ _ bitmap | .binary _ _ bitmap
  | .timestamp _ bitmap => bitmap

/-- The integer in a row, if it is a column of integers. -/
def intIn (column : Native.BulkColumnData) (r : Nat) : Option Int :=
  match column with
  | .i32 values _ => values[r]?.map Int32.toInt
  | .i64 values _ => values[r]?.map Int64.toInt
  | .text _ _ _ | .binary _ _ _ | .timestamp _ _ => none

/-- A bitmap is there when the column is nullable, and says which rows are null. -/
def NullsArrive (spec : Dart.BulkColumnSpec) (column : Native.BulkColumnData) (r : Nat)
    (value : BulkValue) : Prop :=
  match nullBitmapIn column with
  | some bitmap => spec.nullable = true ∧ (Native.isNull bitmap r = true ↔ value = .null)
  | none => spec.nullable = false ∧ value ≠ .null

/-- An integer column has nothing but nulls and integers, which are recovered. -/
def IntegersArrive (spec : Dart.BulkColumnSpec) (column : Native.BulkColumnData) (r : Nat)
    (value : BulkValue) : Prop :=
  spec.colType = .i32 ∨ spec.colType = .i64 → value ≠ .null →
    ∃ n : Int64, value = .int n ∧ intIn column r = some n.toInt

section

variable {spec : Dart.BulkColumnSpec} {values : List BulkValue} {r : Nat} {value : BulkValue}

theorem nullBitmapIn_columnDataOf (spec : Dart.BulkColumnSpec) (values : List BulkValue) :
    nullBitmapIn (bulkColumnDataOf spec values) =
      if spec.nullable then some (nullBitmapOf values) else none := by
  rw [bulkColumnDataOf]
  cases spec.colType with
  | i32 | i64 | timestamp => rfl
  | text | decimal | binary =>
      dsimp only
      rw [Native.BulkInsert.trimmedColumn]
      split_ifs <;> rfl

theorem nullsArrive_columnDataOf (there : values[r]? = some value)
    (admitted : Admitted spec value) : NullsArrive spec (bulkColumnDataOf spec values) r value := by
  rw [NullsArrive, nullBitmapIn_columnDataOf]
  cases strict : spec.nullable with
  | false => exact ⟨rfl, admitted.not_null strict⟩
  | true =>
      refine ⟨rfl, ?_⟩
      rw [isNull_nullBitmapOf, there, Option.some.injEq]

theorem integersArrive_columnDataOf (there : values[r]? = some value)
    (admitted : Admitted spec value) : IntegersArrive spec (bulkColumnDataOf spec values) r value := by
  rintro (typed | typed) some'
  · obtain ⟨n, rfl, low, high⟩ := admitted.i32 typed some'
    refine ⟨n, rfl, ?_⟩
    rw [bulkColumnDataOf, typed, intIn, List.getElem?_map, there]
    exact congrArg some (Int32.toInt_ofInt_of_le low high)
  · obtain ⟨n, rfl⟩ := admitted.i64 typed some'
    refine ⟨n, rfl, ?_⟩
    rw [bulkColumnDataOf, typed, intIn, List.getElem?_map, there]
    exact congrArg some (congrArg Int64.toInt (Int64.ofInt_toInt n))

end

/-- Within the engine's limits, every payload that is built is accepted with its table, columns
and rows, with a null exactly where there is one and with every integer. -/
theorem built_payload_arrives {builder : BulkInsertBuilder} {bytes : Bytes} (made : Made builder)
    (limits : BuilderLimits builder) (built : builder.build = .ok bytes) :
    ∃ payload, Native.parseBulkInsertPayload bytes = .ok payload ∧
      payload.table = builder.tableName ∧
      payload.columns = builder.columns.map Dart.BulkColumnSpec.toNative ∧
      payload.rowCount.toNat = builder.rows.length ∧
      ∀ (c : Nat) spec, builder.columns[c]? = some spec → ∃ column,
        payload.columnData[c]? = some column ∧
        ∀ (r : Nat) row, builder.rows[r]? = some row → ∃ value, row[c]? = some value ∧
          NullsArrive spec column r value ∧ IntegersArrive spec column r value := by
  have few : builder.rows.length < 2 ^ 32 := limits.fewRows.trans_lt (by decide)
  refine ⟨receivedPayload builder, parse_build limits built, rfl, rfl,
    UInt32.toNat_ofNat_of_lt' few, ?_⟩
  intro c spec declared
  refine ⟨_, columnData_receivedPayload declared, ?_⟩
  intro r row there
  obtain ⟨value, found, placed, admitted⟩ := value_of_built made built declared there
  exact ⟨value, found, nullsArrive_columnDataOf placed admitted,
    integersArrive_columnDataOf placed admitted⟩

/-- Two rows, with a null in the first column. -/
def twoRows : BulkInsertBuilder where
  tableName := "t"
  columns := [{ name := "n", colType := .i32, nullable := true },
    { name := "x", colType := .text, maxLen := 4 }]
  rows := [[.int 7, .string "hi"], [.null, .string ""]]

theorem made_twoRows : Made twoRows :=
  ((((Made.new.table "t").addColumn { name := "n", colType := .i32, nullable := true }).addColumn
    { name := "x", colType := .text, maxLen := 4 }).addRow [.int 7, .string "hi"] rfl).addRow
    [.null, .string ""] rfl

theorem limits_twoRows : BuilderLimits twoRows where
  tableFits := by decide
  fewColumns := by decide
  namesFit := by decide
  widths := by decide
  fewRows := by decide

theorem built_payload_arrives_twoRows :
    ∃ bytes payload, twoRows.build = .ok bytes ∧
      Native.parseBulkInsertPayload bytes = .ok payload ∧ payload.table = "t" ∧
      payload.rowCount.toNat = 2 := by
  obtain ⟨payload, parsed, table, -, rows, -⟩ :=
    built_payload_arrives made_twoRows limits_twoRows rfl
  exact ⟨_, payload, rfl, parsed, table, rows⟩

/-- A column whose width, which its type does not use, is above the engine's limit. -/
def wideColumn : BulkInsertBuilder where
  tableName := "t"
  columns := [{ name := "n", colType := .i32, maxLen := 16777217 }]
  rows := [[.int 1]]

theorem wide_column_refused :
    ¬ ∀ builder bytes, Made builder → builder.build = .ok bytes →
      ∃ payload, Native.parseBulkInsertPayload bytes = .ok payload := by
  intro accepts
  have made : Made wideColumn :=
    ((Made.new.table "t").addColumn { name := "n", colType := .i32, maxLen := 16777217 }).addRow
      [.int 1] rfl
  obtain ⟨payload, parsed⟩ := accepts wideColumn _ made rfl
  have refused : Native.parseBulkInsertPayload [1, 0, 0, 0, 116, 1, 0, 0, 0, 1, 0, 0, 0, 110, 0, 0,
      1, 0, 0, 1, 1, 0, 0, 0, 1, 0, 0, 0] = .error (.resourceLimitReached
        "max_len 16777217 exceeds MAX_BULK_CELL_LEN=16777216") := rfl
  cases parsed.symm.trans refused

/-! ## Texts, decimals and binaries -/

def ints (bytes : Bytes) : List Int := bytes.map fun byte => (byte.toNat : Int)

/-- What a value has to arrive as: the UTF-8 bytes of its text, or its elements. -/
def ownBytes (colType : Dart.BulkColumnType) (value : BulkValue) : Option (List Int) :=
  match colType, value with
  | .text, .string text => some (ints (utf8Bytes text))
  | .decimal, .string _ | .decimal, .int _ | .decimal, .double _ =>
    some (ints (utf8Bytes value.display))
  | .binary, .bytes elements _ => some elements
  | _, _ => none

/-- The cell in a row, if it is a column of texts or bytes. -/
def cellIn (column : Native.BulkColumnData) (r : Nat) : Option Bytes :=
  match column with
  | .text rows _ _ | .binary rows _ _ => rows[r]?
  | .i32 _ _ | .i64 _ _ | .timestamp _ _ => none

/-- The engine accepts the payload, with these bytes in the cell. -/
def DeliversCell (bytes : Bytes) (c r : Nat) (own : List Int) : Prop :=
  ∃ payload column cell, Native.parseBulkInsertPayload bytes = .ok payload ∧
    payload.columnData[c]? = some column ∧ cellIn column r = some cell ∧ ints cell = own

/-- No longer than the column's width, which is one where none is declared, and without a
zero; the elements of a binary are bytes. -/
def Intact (spec : Dart.BulkColumnSpec) (own : List Int) : Prop :=
  (own.length : Int) ≤ max spec.maxLen 1 ∧ ∀ element ∈ own, 1 ≤ element ∧ element ≤ 255

theorem toNat_byteOf {element : Int} (low : 1 ≤ element) (high : element ≤ 255) :
    ((byteOf element).toNat : Int) = element := by
  rw [byteOf, UInt8.toNat_ofNat']
  omega

theorem byteOf_toNat (byte : UInt8) : byteOf (byte.toNat : Int) = byte := by
  have small := byte.toNat_lt
  rw [byteOf, ← UInt8.toNat_inj, UInt8.toNat_ofNat']
  omega

theorem map_byteOf_ints (bytes : Bytes) : (ints bytes).map byteOf = bytes := by
  rw [ints, List.map_map]
  conv_rhs => rw [← List.map_id bytes]
  exact List.map_congr_left fun byte _ => byteOf_toNat byte

/-- What padding and trimming make of a value is the value exactly when it fits. -/
theorem ints_trimmed_eq_iff (width : Nat) (own : List Int) :
    ints (Native.BulkInsert.trimmed (Native.BulkInsert.paddedCell width (own.map byteOf))) = own ↔
      own.length ≤ width ∧ ∀ element ∈ own, 1 ≤ element ∧ element ≤ 255 := by
  constructor
  · intro same
    refine ⟨?_, ?_⟩
    · have shorter := (List.takeWhile_prefix (· ≠ (0 : UInt8))
        (l := Native.BulkInsert.paddedCell width (own.map byteOf))).length_le
      rw [Native.BulkInsert.length_paddedCell] at shorter
      calc own.length = (ints (Native.BulkInsert.trimmed _)).length := congrArg _ same.symm
        _ = (Native.BulkInsert.trimmed _).length := List.length_map _
        _ ≤ width := shorter
    · intro element member
      rw [← same] at member
      obtain ⟨byte, kept, rfl⟩ := List.mem_map.mp member
      have nonzero : byte.toNat ≠ 0 := by
        intro zero
        have : byte = 0 := UInt8.toNat_inj.mp zero
        exact zero_notMem_trimmed _ (this ▸ kept)
      have small := byte.toNat_lt
      omega
  · rintro ⟨short, proper⟩
    have plain : (0 : UInt8) ∉ own.map byteOf := by
      intro member
      obtain ⟨element, inside, zero⟩ := List.mem_map.mp member
      have value := toNat_byteOf (proper element inside).1 (proper element inside).2
      rw [zero] at value
      have positive := (proper element inside).1
      rw [← value] at positive
      exact absurd positive (by decide)
    rw [(trimmed_paddedCell_eq_iff (by rwa [List.length_map])).mpr plain, ints, List.map_map]
    conv_rhs => rw [← List.map_id own]
    exact List.map_congr_left fun element inside =>
      toNat_byteOf (proper element inside).1 (proper element inside).2

section

variable {spec : Dart.BulkColumnSpec} {values : List BulkValue} {r : Nat} {value : BulkValue}

/-- Every text, decimal or binary that `addRow` lets pass has bytes of its own. -/
theorem Admitted.ownBytes (admitted : Admitted spec value)
    (typed : spec.colType = .text ∨ spec.colType = .decimal ∨ spec.colType = .binary)
    (some' : value ≠ .null) : ∃ own, ownBytes spec.colType value = some own := by
  obtain ⟨rowNumber, passed⟩ := admitted
  rw [validateValueForColumn.eq_def] at passed
  rcases typed with typed | typed | typed
  · rw [typed] at passed ⊢
    cases value with
    | string => exact ⟨_, rfl⟩
    | null => exact absurd rfl some'
    | int | double | bytes | dateTime | timestamp | other => cases passed
  · rw [typed] at passed ⊢
    cases value with
    | string | int | double => exact ⟨_, rfl⟩
    | null => exact absurd rfl some'
    | bytes | dateTime | timestamp | other => cases passed
  · rw [typed] at passed ⊢
    cases value with
    | bytes => exact ⟨_, rfl⟩
    | null => exact absurd rfl some'
    | int | double | string | dateTime | timestamp | other => cases passed

theorem cellIn_trimmedColumn (native : Native.BulkColumnSpec) (rows : List Bytes)
    (bitmap : Option Bytes) (r : Nat) :
    cellIn (Native.BulkInsert.trimmedColumn native rows bitmap) r =
      rows[r]?.map fun row => Native.BulkInsert.trimmed
        (Native.BulkInsert.paddedCell (Native.BulkInsert.cellWidth native) row) := by
  rw [Native.BulkInsert.trimmedColumn]
  split_ifs
  · exact List.getElem?_map
  · exact List.getElem?_map

/-- The cell that becomes of a value with bytes of its own. -/
theorem cellIn_columnDataOf {own : List Int} (there : values[r]? = some value)
    (has : Verification.ownBytes spec.colType value = some own) :
    cellIn (bulkColumnDataOf spec values) r = some (Native.BulkInsert.trimmed
      (Native.BulkInsert.paddedCell (Native.BulkInsert.cellWidth spec.toNative)
        (own.map byteOf))) := by
  rw [bulkColumnDataOf]
  cases typed : spec.colType with
  | i32 | i64 | timestamp =>
      rw [typed] at has
      cases has
  | text =>
      rw [typed] at has
      cases value with
      | string text =>
          cases has
          rw [cellIn_trimmedColumn, List.getElem?_map, there, map_byteOf_ints]
          rfl
      | null | int | double | bytes | dateTime | timestamp | other => cases has
  | decimal =>
      rw [typed] at has
      cases value with
      | string | int | double =>
          cases has
          rw [cellIn_trimmedColumn, List.getElem?_map, there, map_byteOf_ints]
          rfl
      | null | bytes | dateTime | timestamp | other => cases has
  | binary =>
      rw [typed] at has
      cases value with
      | bytes elements =>
          cases has
          rw [cellIn_trimmedColumn, List.getElem?_map, there]
          rfl
      | null | int | double | string | dateTime | timestamp | other => cases has

end

/-- Within the engine's limits, a text, decimal or binary that `addRow` and `build` accept
arrives as its own bytes exactly when they fit the column and have no zero. -/
theorem arrives_iff {builder : BulkInsertBuilder} {bytes : Bytes} (made : Made builder)
    (limits : BuilderLimits builder) (built : builder.build = .ok bytes) {c r : Nat}
    {spec : Dart.BulkColumnSpec} {row : List BulkValue} {value : BulkValue}
    (declared : builder.columns[c]? = some spec) (there : builder.rows[r]? = some row)
    (found : row[c]? = some value)
    (typed : spec.colType = .text ∨ spec.colType = .decimal ∨ spec.colType = .binary)
    (some' : value ≠ .null) :
    ∃ own, ownBytes spec.colType value = some own ∧
      (DeliversCell bytes c r own ↔ Intact spec own) := by
  obtain ⟨value', found', placed, admitted⟩ := value_of_built made built declared there
  cases found.symm.trans found'
  obtain ⟨own, has⟩ := admitted.ownBytes typed some'
  have cell := cellIn_columnDataOf placed has
  have width : own.length ≤ Native.BulkInsert.cellWidth spec.toNative ↔
      (own.length : Int) ≤ max spec.maxLen 1 := by
    rw [Native.BulkInsert.cellWidth]
    show own.length ≤ max spec.maxLen.toNat 1 ↔ _
    omega
  refine ⟨own, has, ?_⟩
  rw [Intact, ← width, ← ints_trimmed_eq_iff]
  constructor
  · rintro ⟨payload, column, cell', parsed, placed', got, same⟩
    cases (parse_build limits built).symm.trans parsed
    cases (columnData_receivedPayload declared).symm.trans placed'
    cases cell.symm.trans got
    exact same
  · intro same
    exact ⟨receivedPayload builder, _, _, parse_build limits built,
      columnData_receivedPayload declared, cell, same⟩

/-- The second column of the first row has a text of two bytes in four. -/
theorem arrives_iff_twoRows :
    ∃ bytes, twoRows.build = .ok bytes ∧ DeliversCell bytes 1 0 [104, 105] := by
  obtain ⟨own, has, arrives⟩ := arrives_iff made_twoRows limits_twoRows rfl
    (c := 1) (r := 0) rfl rfl rfl (.inl rfl) (by rintro ⟨⟩)
  cases has
  exact ⟨_, rfl, arrives.mpr ⟨by decide, by decide⟩⟩

/-- A text in a column without a declared width, which is to mean that there is none. -/
def unlimitedText : BulkInsertBuilder where
  tableName := "t"
  columns := [{ name := "x", colType := .text }]
  rows := [[.string "ab"]]

/-- The text is shortened to its first byte. -/
theorem unlimited_text_is_cut :
    ¬ ∀ builder bytes, Made builder → builder.build = .ok bytes →
      ∀ (c r : Nat) spec row value own, builder.columns[c]? = some spec →
        builder.rows[r]? = some row → row[c]? = some value →
        ownBytes spec.colType value = some own → DeliversCell bytes c r own := by
  intro delivers
  have made : Made unlimitedText :=
    ((Made.new.table "t").addColumn { name := "x", colType := .text }).addRow [.string "ab"] rfl
  obtain ⟨payload, column, cell, parsed, placed, got, same⟩ :=
    delivers unlimitedText _ made rfl 0 0 _ _ _ _ rfl rfl rfl rfl
  have cut : Native.parseBulkInsertPayload [1, 0, 0, 0, 116, 1, 0, 0, 0, 1, 0, 0, 0, 120, 2, 0,
      0, 0, 0, 0, 1, 0, 0, 0, 97] = .ok ⟨"t", [⟨"x", .text, false, 0⟩], 1, [.text [[97]] 1 none]⟩ :=
    rfl
  cases cut.symm.trans parsed
  cases placed
  cases got
  cases same

/-! ## Timestamps -/

/-- What the getters of a `DateTime` give. -/
structure ValidDateTime (dt : DateTime) : Prop where
  month : 1 ≤ dt.month ∧ dt.month ≤ 12
  day : 1 ≤ dt.day ∧ dt.day ≤ 31
  hour : 0 ≤ dt.hour ∧ dt.hour ≤ 23
  minute : 0 ≤ dt.minute ∧ dt.minute ≤ 59
  second : 0 ≤ dt.second ∧ dt.second ≤ 59
  millisecond : 0 ≤ dt.millisecond ∧ dt.millisecond ≤ 999
  microsecond : 0 ≤ dt.microsecond ∧ dt.microsecond ≤ 999

/-- The milliseconds and microseconds, in nanoseconds. -/
def subSecondNanos (dt : DateTime) : Int := dt.millisecond * 1000000 + dt.microsecond * 1000

/-- The timestamp is the point in time that the `DateTime` names. -/
structure SameTime (t : Native.BulkTimestamp) (dt : DateTime) : Prop where
  year : t.year.toInt = dt.year
  month : (t.month.toNat : Int) = dt.month
  day : (t.day.toNat : Int) = dt.day
  hour : (t.hour.toNat : Int) = dt.hour
  minute : (t.minute.toNat : Int) = dt.minute
  second : (t.second.toNat : Int) = dt.second
  fraction : (t.fraction.toNat : Int) = subSecondNanos dt

/-- The timestamp in a row, if it is a column of timestamps. -/
def timestampIn (column : Native.BulkColumnData) (r : Nat) : Option Native.BulkTimestamp :=
  match column with
  | .timestamp values _ => values[r]?
  | .i32 _ _ | .i64 _ _ | .text _ _ _ | .binary _ _ _ => none

/-- The engine accepts the payload, with this time in the cell. -/
def DeliversTime (bytes : Bytes) (c r : Nat) (dt : DateTime) : Prop :=
  ∃ payload column t, Native.parseBulkInsertPayload bytes = .ok payload ∧
    payload.columnData[c]? = some column ∧ timestampIn column r = some t ∧ SameTime t dt

theorem toInt_ofInt_int16_eq_iff (v : Int) :
    (Int16.ofInt v).toInt = v ↔ -2 ^ 15 ≤ v ∧ v < 2 ^ 15 := by
  constructor
  · intro same
    rw [← same]
    exact ⟨Int16.le_toInt _, Int16.toInt_lt _⟩
  · rintro ⟨low, high⟩
    exact Int16.toInt_ofInt_of_le low high

theorem toNat_ofInt_u16_of_le {v : Int} (low : 0 ≤ v) (high : v < 2 ^ 16) :
    ((UInt16.ofInt v).toNat : Int) = v := by
  rw [toNat_ofInt_u16, Int.emod_eq_of_lt low high]
  exact Int.toNat_of_nonneg low

theorem toNat_ofInt_u32_of_le {v : Int} (low : 0 ≤ v) (high : v < 2 ^ 32) :
    ((UInt32.ofInt v).toNat : Int) = v := by
  rw [toNat_ofInt_u32, Int.emod_eq_of_lt low high]
  exact Int.toNat_of_nonneg low

/-- The microseconds are counted as if they were nanoseconds, and the year has 16 bits. -/
theorem sameTime_fromDateTime_iff {dt : DateTime} (valid : ValidDateTime dt) :
    SameTime (Dart.BulkTimestamp.fromDateTime dt).toNative dt ↔
      dt.microsecond = 0 ∧ -2 ^ 15 ≤ dt.year ∧ dt.year < 2 ^ 15 := by
  obtain ⟨month, day, hour, minute, second, millisecond, microsecond⟩ := valid
  have written : (((Dart.BulkTimestamp.fromDateTime dt).toNative.fraction.toNat : Nat) : Int) =
      dt.millisecond * 1000000 + dt.microsecond :=
    toNat_ofInt_u32_of_le (v := dt.millisecond * 1000000 + dt.microsecond) (by omega) (by omega)
  constructor
  · intro same
    have fraction := written.symm.trans same.fraction
    rw [subSecondNanos] at fraction
    exact ⟨by omega, (toInt_ofInt_int16_eq_iff dt.year).mp same.year⟩
  · rintro ⟨whole, year⟩
    exact {
      year := (toInt_ofInt_int16_eq_iff dt.year).mpr year
      month := toNat_ofInt_u16_of_le (v := dt.month) (by omega) (by omega)
      day := toNat_ofInt_u16_of_le (v := dt.day) (by omega) (by omega)
      hour := toNat_ofInt_u16_of_le (v := dt.hour) (by omega) (by omega)
      minute := toNat_ofInt_u16_of_le (v := dt.minute) (by omega) (by omega)
      second := toNat_ofInt_u16_of_le (v := dt.second) (by omega) (by omega)
      fraction := by
        rw [written, subSecondNanos]
        omega }

/-- Within the engine's limits, a `DateTime` that `addRow` and `build` accept arrives as the
same time exactly when it has no microseconds and its year fits; no year is refused. -/
theorem time_arrives_iff {builder : BulkInsertBuilder} {bytes : Bytes} (made : Made builder)
    (limits : BuilderLimits builder) (built : builder.build = .ok bytes) {c r : Nat}
    {spec : Dart.BulkColumnSpec} {row : List BulkValue} {dt : DateTime}
    (declared : builder.columns[c]? = some spec) (there : builder.rows[r]? = some row)
    (found : row[c]? = some (.dateTime dt)) (typed : spec.colType = .timestamp)
    (valid : ValidDateTime dt) :
    DeliversTime bytes c r dt ↔ dt.microsecond = 0 ∧ -2 ^ 15 ≤ dt.year ∧ dt.year < 2 ^ 15 := by
  obtain ⟨value, found', placed, -⟩ := value_of_built made built declared there
  cases found.symm.trans found'
  have cell : timestampIn (bulkColumnDataOf spec (valuesAt c builder)) r =
      some (Dart.BulkTimestamp.fromDateTime dt).toNative := by
    rw [bulkColumnDataOf, typed]
    show ((valuesAt c builder).map _)[r]? = _
    rw [List.getElem?_map, placed]
    rfl
  rw [← sameTime_fromDateTime_iff valid]
  constructor
  · rintro ⟨payload, column, t, parsed, placed', got, same⟩
    cases (parse_build limits built).symm.trans parsed
    cases (columnData_receivedPayload declared).symm.trans placed'
    cases cell.symm.trans got
    exact same
  · intro same
    exact ⟨receivedPayload builder, _, _, parse_build limits built,
      columnData_receivedPayload declared, cell, same⟩

/-- One timestamp. -/
def oneTimestamp (dt : DateTime) : BulkInsertBuilder where
  tableName := "t"
  columns := [{ name := "x", colType := .timestamp }]
  rows := [[.dateTime dt]]

theorem made_oneTimestamp (dt : DateTime) : Made (oneTimestamp dt) :=
  ((Made.new.table "t").addColumn { name := "x", colType := .timestamp }).addRow
    [.dateTime dt] rfl

theorem limits_oneTimestamp (dt : DateTime) : BuilderLimits (oneTimestamp dt) where
  tableFits := by
    show (utf8Bytes "t").length < 2 ^ 32
    decide
  fewColumns := by
    show 1 ≤ Native.maxBulkColumns
    decide
  namesFit := by
    show ∀ spec ∈ [Dart.BulkColumnSpec.mk "x" .timestamp false 0], _
    decide
  widths := by
    show ∀ spec ∈ [Dart.BulkColumnSpec.mk "x" .timestamp false 0], _
    decide
  fewRows := by
    show 1 ≤ Native.maxBulkRows
    decide

/-- A time with milliseconds only. -/
def wholeMilliseconds : DateTime := ⟨2024, 1, 15, 10, 30, 45, 123, 0, "2024-01-15 10:30:45.123"⟩

theorem time_arrives_iff_wholeMilliseconds :
    ∃ bytes, (oneTimestamp wholeMilliseconds).build = .ok bytes ∧
      DeliversTime bytes 0 0 wholeMilliseconds := by
  refine ⟨_, rfl, (time_arrives_iff (made_oneTimestamp wholeMilliseconds)
    (limits_oneTimestamp wholeMilliseconds) rfl rfl rfl rfl rfl ?_).mpr ?_⟩
  · constructor <;> decide
  · decide

/-- The same time and 456 microseconds more. -/
def withMicroseconds : DateTime :=
  ⟨2024, 1, 15, 10, 30, 45, 123, 456, "2024-01-15 10:30:45.123456"⟩

/-- They arrive as 456 nanoseconds. -/
theorem microseconds_arrive_as_nanoseconds :
    ¬ ∀ builder bytes, Made builder → BuilderLimits builder → builder.build = .ok bytes →
      ∀ (c r : Nat) spec row dt, builder.columns[c]? = some spec → builder.rows[r]? = some row →
        row[c]? = some (.dateTime dt) → spec.colType = .timestamp → ValidDateTime dt →
          DeliversTime bytes c r dt := by
  intro delivers
  have valid : ValidDateTime withMicroseconds := by
    constructor <;> decide
  obtain ⟨payload, column, t, parsed, placed, got, same⟩ :=
    delivers (oneTimestamp withMicroseconds) _ (made_oneTimestamp _) (limits_oneTimestamp _) rfl
      0 0 _ _ withMicroseconds rfl rfl rfl rfl valid
  have read : Native.parseBulkInsertPayload [1, 0, 0, 0, 116, 1, 0, 0, 0, 1, 0, 0, 0, 120, 5, 0, 0,
      0, 0, 0, 1, 0, 0, 0, 232, 7, 1, 0, 15, 0, 10, 0, 30, 0, 45, 0, 136, 214, 84, 7] =
      .ok ⟨"t", [⟨"x", .timestamp, false, 0⟩], 1,
        [.timestamp [⟨2024, 1, 15, 10, 30, 45, 123000456⟩] none]⟩ := rfl
  cases read.symm.trans parsed
  cases placed
  cases got
  exact absurd same.fraction (by decide)

end OdbcFast.Verification
