import OdbcFast.Native.Protocol.ParamValue
import OdbcFast.Wire.Bitmap

/-!
# Bulk-insert payloads

A payload is the table's name, the column declarations, the row count and then one block for
each column: the null bitmap of a nullable column and the cells, which all have the same
width. Texts and bytes are filled up with zeros, and the reader cuts a cell at its first zero.

`Reads` says that a block is read as some column wherever it stands, and `parse_layout` puts
the blocks together, so that every writer of the format is judged block by block.
-/

namespace OdbcFast.Native

open Wire

def maxBulkColumns : Nat := 4096

def maxBulkRows : Nat := 10000000

def maxBulkCellLen : Nat := 16 * 1024 * 1024

inductive BulkColumnType where
  | i32
  | i64
  | text
  | decimal
  | binary
  | timestamp
  deriving DecidableEq, Repr

namespace BulkColumnType

def fromTag (tag : UInt8) : Except OdbcError BulkColumnType :=
  if tag = 0 then .ok .i32
  else if tag = 1 then .ok .i64
  else if tag = 2 then .ok .text
  else if tag = 3 then .ok .decimal
  else if tag = 4 then .ok .binary
  else if tag = 5 then .ok .timestamp
  else .error (.validationError s!"Unknown bulk column type tag: {tag.toNat}")

def toTag : BulkColumnType → UInt8
  | i32 => 0
  | i64 => 1
  | text => 2
  | decimal => 3
  | binary => 4
  | timestamp => 5

theorem fromTag_toTag (colType : BulkColumnType) : fromTag colType.toTag = .ok colType := by
  cases colType <;> rfl

end BulkColumnType

structure BulkColumnSpec where
  name : String
  colType : BulkColumnType
  nullable : Bool
  maxLen : Nat
  deriving DecidableEq, Repr

structure BulkTimestamp where
  year : Int16
  month : UInt16
  day : UInt16
  hour : UInt16
  minute : UInt16
  second : UInt16
  fraction : UInt32
  deriving DecidableEq, Repr

inductive BulkColumnData where
  | i32 (values : List Int32) (nullBitmap : Option Bytes)
  | i64 (values : List Int64) (nullBitmap : Option Bytes)
  | text (rows : List Bytes) (maxLen : Nat) (nullBitmap : Option Bytes)
  | binary (rows : List Bytes) (maxLen : Nat) (nullBitmap : Option Bytes)
  | timestamp (values : List BulkTimestamp) (nullBitmap : Option Bytes)
  deriving DecidableEq, Repr

structure BulkInsertPayload where
  table : String
  columns : List BulkColumnSpec
  rowCount : UInt32
  columnData : List BulkColumnData
  deriving DecidableEq, Repr

def nullBitmapSize (n : Nat) : Nat := Bitmap.size n

/-- A row behind the bitmap is not null. -/
def isNull (bitmap : Bytes) (row : Nat) : Bool := Bitmap.test bitmap row

namespace BulkInsert

/-! ## Reading

The readers answer with what they read and the offset behind it. -/

def readU32Le (data : Bytes) (o : Nat) : Except OdbcError (Nat × Nat) :=
  if data.length - o < 4 then .error (.validationError "Bulk insert payload truncated (u32)")
  else .ok (readLe 4 data o, o + 4)

def readBytes (len : Nat) (data : Bytes) (o : Nat) : Except OdbcError (Bytes × Nat) :=
  if data.length - o < len then .error (.validationError "Bulk insert payload truncated (bytes)")
  else .ok ((data.drop o).take len, o + len)

/-- `str::from_utf8`, with what cannot be read. -/
def fromUtf8 (what : String) (bytes : Bytes) : Except OdbcError String :=
  match decodeStrict bytes with
  | .ok s => .ok s
  | .error _ => .error (.validationError s!"Bulk insert {what} name invalid UTF-8")

def readNullBitmap (nullable : Bool) (rowCount : Nat) (data : Bytes) (o : Nat) :
    Except OdbcError (Option Bytes × Nat) :=
  if !nullable then .ok (none, o)
  else do
    let expected := nullBitmapSize rowCount
    let (bytes, o) ← readBytes expected data o
    if bytes.length ≠ expected then
      .error (.malformedPayload
        s!"null bitmap length mismatch: expected {expected}, got {bytes.length}")
    else .ok (some bytes, o)

def readI32 (data : Bytes) (o : Nat) : Except OdbcError (Int32 × Nat) := do
  let (v, o) ← readU32Le data o
  .ok (.ofBitVec (.ofNat 32 v), o)

def readI64 (data : Bytes) (o : Nat) : Except OdbcError (Int64 × Nat) :=
  if data.length - o < 8 then .error (.validationError "Bulk insert payload truncated (i64)")
  else .ok (.ofBitVec (.ofNat 64 (readLe 8 data o)), o + 8)

/-- Up to the first zero. -/
def trimmed (raw : Bytes) : Bytes := raw.takeWhile (· ≠ 0)

def readTrimmed (maxLen : Nat) (data : Bytes) (o : Nat) : Except OdbcError (Bytes × Nat) := do
  let (raw, o) ← readBytes maxLen data o
  .ok (trimmed raw, o)

def readTimestamp (data : Bytes) (o : Nat) : Except OdbcError (BulkTimestamp × Nat) :=
  if data.length - o < 16 then
    .error (.validationError "Bulk insert payload truncated (timestamp)")
  else
    .ok ({ year := .ofBitVec (.ofNat 16 (readLe 2 data o))
           month := .ofNat (readLe 2 data (o + 2))
           day := .ofNat (readLe 2 data (o + 4))
           hour := .ofNat (readLe 2 data (o + 6))
           minute := .ofNat (readLe 2 data (o + 8))
           second := .ofNat (readLe 2 data (o + 10))
           fraction := .ofNat (readLe 4 data (o + 12)) }, o + 16)

/-- A loop that reads one thing after the other. -/
def readTimes {α : Type} (read : Bytes → Nat → Except OdbcError (α × Nat)) :
    Nat → Bytes → Nat → Except OdbcError (List α × Nat)
  | 0, _, o => .ok ([], o)
  | n + 1, data, o => do
    let (value, o) ← read data o
    let (values, o) ← readTimes read n data o
    .ok (value :: values, o)

/-- A bitmap and the cells. -/
def readColumn {α : Type} (read : Bytes → Nat → Except OdbcError (α × Nat)) (nullable : Bool)
    (rowCount : Nat) (data : Bytes) (o : Nat) :
    Except OdbcError ((List α × Option Bytes) × Nat) := do
  let (nullBitmap, o) ← readNullBitmap nullable rowCount data o
  let (values, o) ← readTimes read rowCount data o
  .ok ((values, nullBitmap), o)

/-- The width of a text or binary cell. -/
def cellWidth (spec : BulkColumnSpec) : Nat := max spec.maxLen 1

/-- The column and how many bytes it takes. -/
def parseColumnData (data : Bytes) (start : Nat) (spec : BulkColumnSpec) (rowCount : Nat) :
    Except OdbcError (BulkColumnData × Nat) :=
  match spec.colType with
  | .i32 => do
    let ((values, nullBitmap), o) ← readColumn readI32 spec.nullable rowCount data start
    .ok (.i32 values nullBitmap, o - start)
  | .i64 => do
    let ((values, nullBitmap), o) ← readColumn readI64 spec.nullable rowCount data start
    .ok (.i64 values nullBitmap, o - start)
  | .text | .decimal => do
    let ((rows, nullBitmap), o) ←
      readColumn (readTrimmed (cellWidth spec)) spec.nullable rowCount data start
    .ok (.text rows (cellWidth spec) nullBitmap, o - start)
  | .binary => do
    let ((rows, nullBitmap), o) ←
      readColumn (readTrimmed (cellWidth spec)) spec.nullable rowCount data start
    .ok (.binary rows (cellWidth spec) nullBitmap, o - start)
  | .timestamp => do
    let ((values, nullBitmap), o) ← readColumn readTimestamp spec.nullable rowCount data start
    .ok (.timestamp values nullBitmap, o - start)

def parseColumnSpec (data : Bytes) (o : Nat) : Except OdbcError (BulkColumnSpec × Nat) := do
  let (nameLen, o) ← readU32Le data o
  let (nameBytes, o) ← readBytes nameLen data o
  let name ← fromUtf8 "column" nameBytes
  if data.length ≤ o then
    .error (.validationError "Bulk insert payload truncated (column spec)")
  else if data.length ≤ o + 1 then
    .error (.validationError "Bulk insert payload truncated (nullable)")
  else
    let typeTag := data.getD o 0
    let nullable : Bool := data.getD (o + 1) 0 ≠ 0
    let (maxLen, o) ← readU32Le data (o + 2)
    if maxLen > maxBulkCellLen then
      .error (.resourceLimitReached
        s!"max_len {maxLen} exceeds MAX_BULK_CELL_LEN={maxBulkCellLen}")
    else
      let colType ← BulkColumnType.fromTag typeTag
      .ok ({ name, colType, nullable, maxLen }, o)

/-- The loop over the columns. -/
def parseColumns (data : Bytes) (rowCount : Nat) :
    List BulkColumnSpec → Nat → Except OdbcError (List BulkColumnData × Nat)
  | [], o => .ok ([], o)
  | spec :: columns, o => do
    let (column, consumed) ← parseColumnData data o spec rowCount
    let (rest, o) ← parseColumns data rowCount columns (o + consumed)
    .ok (column :: rest, o)

end BulkInsert

open BulkInsert in
def parseBulkInsertPayload (data : Bytes) : Except OdbcError BulkInsertPayload := do
  let (tableLen, o) ← readU32Le data 0
  let (tableBytes, o) ← readBytes tableLen data o
  let table ← fromUtf8 "table" tableBytes
  let (colCount, o) ← readU32Le data o
  if colCount > maxBulkColumns then
    .error (.resourceLimitReached
      s!"column count {colCount} exceeds MAX_BULK_COLUMNS={maxBulkColumns}")
  else
    let (columns, o) ← readTimes parseColumnSpec colCount data o
    let (rowCount, o) ← readU32Le data o
    if rowCount > maxBulkRows then
      .error (.resourceLimitReached
        s!"row count {rowCount} exceeds MAX_BULK_ROWS={maxBulkRows}")
    else
      let (columnData, o) ← parseColumns data rowCount columns o
      if o ≠ data.length then .error (.validationError "Bulk insert payload length mismatch")
      else .ok { table, columns, rowCount := .ofNat rowCount, columnData }

/-! ## Writing -/

namespace BulkInsert

def lenToU32 (n : Nat) (what : String) : Except OdbcError Nat :=
  if n < 2 ^ 32 then .ok n
  else .error (.malformedPayload s!"{what} length {n} does not fit in u32 (max 4294967295)")

def timestampBytes (t : BulkTimestamp) : Bytes :=
  toLeBytes 2 t.year.toBitVec.toNat ++ toLeBytes 2 t.month.toNat ++ toLeBytes 2 t.day.toNat ++
    toLeBytes 2 t.hour.toNat ++ toLeBytes 2 t.minute.toNat ++ toLeBytes 2 t.second.toNat ++
    toLeBytes 4 t.fraction.toNat

/-- A cell is cut to its width or filled up with zeros. -/
def paddedCell (maxLen : Nat) (row : Bytes) : Bytes :=
  let len := min row.length maxLen
  row.take len ++ List.replicate (maxLen - len) 0

def serializeColumnData (spec : BulkColumnSpec) (data : BulkColumnData) : Except OdbcError Bytes :=
  match data, spec.colType with
  | .i32 values nullBitmap, .i32 => .ok (nullBitmap.getD [] ++ values.flatMap i32Bytes)
  | .i64 values nullBitmap, .i64 => .ok (nullBitmap.getD [] ++ values.flatMap i64Bytes)
  | .text rows maxLen nullBitmap, .text | .text rows maxLen nullBitmap, .decimal
  | .binary rows maxLen nullBitmap, .binary =>
    .ok (nullBitmap.getD [] ++ rows.flatMap (paddedCell maxLen))
  | .timestamp values nullBitmap, .timestamp =>
    .ok (nullBitmap.getD [] ++ values.flatMap timestampBytes)
  | _, _ => .error (.validationError "Bulk column data does not match spec")

def serializeColumnSpec (spec : BulkColumnSpec) : Except OdbcError Bytes := do
  let nameLen ← lenToU32 (utf8Bytes spec.name).length "column name"
  if spec.maxLen > maxBulkCellLen then
    .error (.resourceLimitReached
      s!"max_len {spec.maxLen} exceeds MAX_BULK_CELL_LEN={maxBulkCellLen}")
  else
    let maxLen ← lenToU32 spec.maxLen "max_len"
    .ok (toLeBytes 4 nameLen ++ utf8Bytes spec.name ++ [spec.colType.toTag] ++
      [if spec.nullable then 1 else 0] ++ toLeBytes 4 maxLen)

end BulkInsert

open BulkInsert in
def serializeBulkInsertPayload (payload : BulkInsertPayload) : Except OdbcError Bytes :=
  if payload.columns.length > maxBulkColumns then
    .error (.resourceLimitReached
      s!"column count {payload.columns.length} exceeds MAX_BULK_COLUMNS={maxBulkColumns}")
  else if payload.rowCount.toNat > maxBulkRows then
    .error (.resourceLimitReached
      s!"row count {payload.rowCount.toNat} exceeds MAX_BULK_ROWS={maxBulkRows}")
  else do
    let tableLen ← lenToU32 (utf8Bytes payload.table).length "table name"
    let colCount ← lenToU32 payload.columns.length "column count"
    let specs ← payload.columns.mapM serializeColumnSpec
    -- columns without data and data without a column are passed over
    let blocks ← (payload.columns.zip payload.columnData).mapM fun (spec, data) =>
      serializeColumnData spec data
    .ok (toLeBytes 4 tableLen ++ utf8Bytes payload.table ++ toLeBytes 4 colCount ++
      specs.flatten ++ toLeBytes 4 payload.rowCount.toNat ++ blocks.flatten)

/-! ## The layout -/

namespace BulkInsert

def specBytes (spec : BulkColumnSpec) : Bytes :=
  toLeBytes 4 (utf8Bytes spec.name).length ++ utf8Bytes spec.name ++ [spec.colType.toTag] ++
    [if spec.nullable then 1 else 0] ++ toLeBytes 4 spec.maxLen

def layout (table : String) (columns : List BulkColumnSpec) (rowCount : Nat)
    (blocks : List Bytes) : Bytes :=
  toLeBytes 4 (utf8Bytes table).length ++ utf8Bytes table ++ toLeBytes 4 columns.length ++
    columns.flatMap specBytes ++ toLeBytes 4 rowCount ++ blocks.flatten

variable {data : Bytes} {o : Nat}

theorem readU32Le_of_occursAt {n : Nat} (there : OccursAt (toLeBytes 4 n) o data)
    (fits : n < 256 ^ 4) : readU32Le data o = .ok (n, o + 4) := by
  have inside := there.le_length
  rw [length_toLeBytes] at inside
  rw [readU32Le, if_neg (by omega), there.readLe fits]

theorem readBytes_of_occursAt {piece : Bytes} (there : OccursAt piece o data) :
    readBytes piece.length data o = .ok (piece, o + piece.length) := by
  have inside := there.le_length
  rw [readBytes, if_neg (by omega), there.take_drop]

theorem fromUtf8_utf8Bytes (what text : String) : fromUtf8 what (utf8Bytes text) = .ok text := by
  rw [fromUtf8, decodeStrict_utf8Bytes]

/-- A loop reads the pieces it finds one after the other. -/
theorem readTimes_of_occursAt {α β : Type} {read : Bytes → Nat → Except OdbcError (β × Nat)}
    {wire : α → Bytes} {value : α → β} {items : List α}
    (each : ∀ a ∈ items, ∀ o, OccursAt (wire a) o data →
      read data o = .ok (value a, o + (wire a).length))
    (there : OccursAt (items.flatMap wire) o data) :
    readTimes read items.length data o =
      .ok (items.map value, o + (items.flatMap wire).length) := by
  induction items generalizing o with
  | nil => rfl
  | cons a items ih =>
      obtain ⟨first, rest⟩ := OccursAt.append_iff.mp there
      have tail := ih (fun b later => each b (List.mem_cons_of_mem a later)) rest
      rw [List.length_cons, readTimes, each a List.mem_cons_self o first, ok_bind]
      dsimp only
      rw [tail, ok_bind, List.flatMap_cons, List.length_append, ← Nat.add_assoc]
      rfl

theorem parseColumnSpec_of_occursAt {spec : BulkColumnSpec}
    (named : (utf8Bytes spec.name).length < 256 ^ 4) (narrow : spec.maxLen ≤ maxBulkCellLen)
    (there : OccursAt (specBytes spec) o data) :
    parseColumnSpec data o = .ok (spec, o + (specBytes spec).length) := by
  have inside := there.le_length
  have length : (specBytes spec).length = (utf8Bytes spec.name).length + 10 := by
    simp only [specBytes, List.length_append, length_toLeBytes, List.length_singleton]
    omega
  rw [length] at inside
  rw [specBytes, OccursAt.append_iff, OccursAt.append_iff, OccursAt.append_iff,
    OccursAt.append_iff] at there
  simp only [List.length_append, length_toLeBytes, List.length_singleton] at there
  obtain ⟨⟨⟨⟨measured, spelled⟩, tagged⟩, flagged⟩, wide⟩ := there
  rw [← Nat.add_assoc] at tagged
  rw [← Nat.add_assoc, ← Nat.add_assoc] at flagged
  rw [← Nat.add_assoc, ← Nat.add_assoc, ← Nat.add_assoc] at wide
  have fits : spec.maxLen < 256 ^ 4 := by
    rw [maxBulkCellLen] at narrow
    omega
  have flag : decide ((if spec.nullable then (1 : UInt8) else 0) ≠ 0) = spec.nullable := by
    cases spec.nullable <;> rfl
  have behind : o + 4 + (utf8Bytes spec.name).length + 1 + 1 + 4 =
      o + ((utf8Bytes spec.name).length + 10) := by
    omega
  rw [parseColumnSpec, readU32Le_of_occursAt measured named, ok_bind]
  dsimp only
  rw [readBytes_of_occursAt spelled, ok_bind]
  dsimp only
  rw [fromUtf8_utf8Bytes, ok_bind, if_neg (by omega), if_neg (by omega),
    readU32Le_of_occursAt wide fits, ok_bind]
  dsimp only
  rw [if_neg (Nat.not_lt.mpr narrow), List.getD_eq_getElem?_getD, tagged.getElem?,
    List.getD_eq_getElem?_getD, flagged.getElem?, Option.getD_some, Option.getD_some,
    BulkColumnType.fromTag_toTag, ok_bind, length, flag, behind]

/-- A bitmap is there exactly when the column is nullable, with a bit for each row. -/
def BitmapFits (nullable : Bool) (rowCount : Nat) : Option Bytes → Prop
  | none => nullable = false
  | some bitmap => nullable = true ∧ bitmap.length = nullBitmapSize rowCount

theorem readNullBitmap_of_occursAt {nullable : Bool} {rowCount : Nat} {bitmap : Option Bytes}
    (fits : BitmapFits nullable rowCount bitmap) (there : OccursAt (bitmap.getD []) o data) :
    readNullBitmap nullable rowCount data o = .ok (bitmap, o + (bitmap.getD []).length) := by
  cases bitmap with
  | none =>
      cases fits
      rfl
  | some bitmap =>
      obtain ⟨rfl, length⟩ := fits
      rw [Option.getD_some] at there
      rw [readNullBitmap, ← length, if_neg (by decide)]
      dsimp only
      rw [readBytes_of_occursAt there, ok_bind]
      dsimp only
      rw [if_neg (not_not.mpr rfl)]
      rfl

/-- Bitmap and cells of a column that stands somewhere. -/
theorem readColumn_of_occursAt {α β : Type} {read : Bytes → Nat → Except OdbcError (β × Nat)}
    {wire : α → Bytes} {value : α → β} {items : List α} {nullable : Bool} {bitmap : Option Bytes}
    (each : ∀ a o, OccursAt (wire a) o data → read data o = .ok (value a, o + (wire a).length))
    (fits : BitmapFits nullable items.length bitmap)
    (there : OccursAt (bitmap.getD [] ++ items.flatMap wire) o data) :
    readColumn read nullable items.length data o = .ok ((items.map value, bitmap),
      o + (bitmap.getD [] ++ items.flatMap wire).length) := by
  obtain ⟨marked, filled⟩ := OccursAt.append_iff.mp there
  rw [readColumn, readNullBitmap_of_occursAt fits marked, ok_bind]
  dsimp only
  rw [readTimes_of_occursAt (fun a _ => each a) filled, ok_bind, List.length_append,
    ← Nat.add_assoc]

theorem readI32_of_occursAt {v : Int32} (there : OccursAt (i32Bytes v) o data) :
    readI32 data o = .ok (v, o + (i32Bytes v).length) := by
  rw [readI32, readU32Le_of_occursAt there v.toBitVec.isLt, ok_bind, length_i32Bytes]
  simp

theorem readI64_of_occursAt {v : Int64} (there : OccursAt (i64Bytes v) o data) :
    readI64 data o = .ok (v, o + (i64Bytes v).length) := by
  have inside := there.le_length
  rw [length_i64Bytes] at inside
  have word : readLe 8 data o = v.toBitVec.toNat := there.readLe v.toBitVec.isLt
  rw [readI64, if_neg (by omega), word, length_i64Bytes]
  simp

theorem length_paddedCell (maxLen : Nat) (row : Bytes) :
    (paddedCell maxLen row).length = maxLen := by
  simp only [paddedCell, List.length_append, List.length_take, List.length_replicate]
  omega

theorem readTrimmed_of_occursAt {maxLen : Nat} {row : Bytes}
    (there : OccursAt (paddedCell maxLen row) o data) :
    readTrimmed maxLen data o =
      .ok (trimmed (paddedCell maxLen row), o + (paddedCell maxLen row).length) := by
  have read := readBytes_of_occursAt there
  rw [length_paddedCell] at read ⊢
  rw [readTrimmed, read, ok_bind]

theorem length_timestampBytes (t : BulkTimestamp) : (timestampBytes t).length = 16 := by
  simp [timestampBytes]

theorem readTimestamp_of_occursAt {t : BulkTimestamp} (there : OccursAt (timestampBytes t) o data) :
    readTimestamp data o = .ok (t, o + (timestampBytes t).length) := by
  have inside := there.le_length
  rw [length_timestampBytes] at inside
  simp only [timestampBytes, OccursAt.append_iff, List.length_append, length_toLeBytes,
    Nat.reduceAdd] at there
  obtain ⟨⟨⟨⟨⟨⟨year, month⟩, day⟩, hour⟩, minute⟩, second⟩, fraction⟩ := there
  rw [readTimestamp, if_neg (by omega), year.readLe t.year.toBitVec.isLt,
    month.readLe t.month.toNat_lt, day.readLe t.day.toNat_lt, hour.readLe t.hour.toNat_lt,
    minute.readLe t.minute.toNat_lt, second.readLe t.second.toNat_lt,
    fraction.readLe t.fraction.toNat_lt, length_timestampBytes]
  simp

/-! ## Blocks -/

/-- The data goes with the type of its column, and the block is its bitmap and its cells. -/
theorem serializeColumnData_cases {spec : BulkColumnSpec} {column : BulkColumnData} {block : Bytes}
    (written : serializeColumnData spec column = .ok block) :
    (∃ values bitmap, column = .i32 values bitmap ∧ spec.colType = .i32 ∧
        block = bitmap.getD [] ++ values.flatMap i32Bytes) ∨
      (∃ values bitmap, column = .i64 values bitmap ∧ spec.colType = .i64 ∧
        block = bitmap.getD [] ++ values.flatMap i64Bytes) ∨
      (∃ values bitmap, column = .timestamp values bitmap ∧ spec.colType = .timestamp ∧
        block = bitmap.getD [] ++ values.flatMap timestampBytes) ∨
      (∃ rows maxLen bitmap, column = .text rows maxLen bitmap ∧
        (spec.colType = .text ∨ spec.colType = .decimal) ∧
        block = bitmap.getD [] ++ rows.flatMap (paddedCell maxLen)) ∨
      ∃ rows maxLen bitmap, column = .binary rows maxLen bitmap ∧ spec.colType = .binary ∧
        block = bitmap.getD [] ++ rows.flatMap (paddedCell maxLen) := by
  rw [serializeColumnData.eq_def] at written
  split at written
  · rename_i values bitmap typed
    cases written
    exact .inl ⟨values, bitmap, rfl, typed, rfl⟩
  · rename_i values bitmap typed
    cases written
    exact .inr (.inl ⟨values, bitmap, rfl, typed, rfl⟩)
  · rename_i rows maxLen bitmap typed
    cases written
    exact .inr (.inr (.inr (.inl ⟨rows, maxLen, bitmap, rfl, .inl typed, rfl⟩)))
  · rename_i rows maxLen bitmap typed
    cases written
    exact .inr (.inr (.inr (.inl ⟨rows, maxLen, bitmap, rfl, .inr typed, rfl⟩)))
  · rename_i rows maxLen bitmap typed
    cases written
    exact .inr (.inr (.inr (.inr ⟨rows, maxLen, bitmap, rfl, typed, rfl⟩)))
  · rename_i values bitmap typed
    cases written
    exact .inr (.inr (.inl ⟨values, bitmap, rfl, typed, rfl⟩))
  · cases written

/-- A block is read as the column wherever it stands. -/
def Reads (rowCount : Nat) (spec : BulkColumnSpec) (block : Bytes) (column : BulkColumnData) :
    Prop :=
  ∀ data o, OccursAt block o data →
    parseColumnData data o spec rowCount = .ok (column, block.length)

section

variable {spec : BulkColumnSpec} {bitmap : Option Bytes} {rowCount : Nat}

theorem reads_i32 {values : List Int32} (typed : spec.colType = .i32)
    (counted : values.length = rowCount) (fits : BitmapFits spec.nullable rowCount bitmap) :
    Reads rowCount spec (bitmap.getD [] ++ values.flatMap i32Bytes) (.i32 values bitmap) := by
  subst counted
  intro data o there
  have read := readColumn_of_occursAt (fun _ _ => readI32_of_occursAt) fits there
  rw [parseColumnData, typed]
  dsimp only
  rw [read, ok_bind]
  dsimp only
  rw [Nat.add_sub_cancel_left, List.map_id']

theorem reads_i64 {values : List Int64} (typed : spec.colType = .i64)
    (counted : values.length = rowCount) (fits : BitmapFits spec.nullable rowCount bitmap) :
    Reads rowCount spec (bitmap.getD [] ++ values.flatMap i64Bytes) (.i64 values bitmap) := by
  subst counted
  intro data o there
  have read := readColumn_of_occursAt (fun _ _ => readI64_of_occursAt) fits there
  rw [parseColumnData, typed]
  dsimp only
  rw [read, ok_bind]
  dsimp only
  rw [Nat.add_sub_cancel_left, List.map_id']

theorem reads_timestamp {values : List BulkTimestamp} (typed : spec.colType = .timestamp)
    (counted : values.length = rowCount) (fits : BitmapFits spec.nullable rowCount bitmap) :
    Reads rowCount spec (bitmap.getD [] ++ values.flatMap timestampBytes)
      (.timestamp values bitmap) := by
  subst counted
  intro data o there
  have read := readColumn_of_occursAt (fun _ _ => readTimestamp_of_occursAt) fits there
  rw [parseColumnData, typed]
  dsimp only
  rw [read, ok_bind]
  dsimp only
  rw [Nat.add_sub_cancel_left, List.map_id']

/-- The column of trimmed cells, by its declared type. -/
def trimmedColumn (spec : BulkColumnSpec) (rows : List Bytes) (bitmap : Option Bytes) :
    BulkColumnData :=
  let rows := rows.map fun row => trimmed (paddedCell (cellWidth spec) row)
  if spec.colType = .binary then .binary rows (cellWidth spec) bitmap
  else .text rows (cellWidth spec) bitmap

/-- Texts, decimals and binaries are cut at their first zero. -/
theorem reads_trimmed {rows : List Bytes}
    (typed : spec.colType = .text ∨ spec.colType = .decimal ∨ spec.colType = .binary)
    (counted : rows.length = rowCount) (fits : BitmapFits spec.nullable rowCount bitmap) :
    Reads rowCount spec (bitmap.getD [] ++ rows.flatMap (paddedCell (cellWidth spec)))
      (trimmedColumn spec rows bitmap) := by
  subst counted
  intro data o there
  have read := readColumn_of_occursAt (fun _ _ => readTrimmed_of_occursAt) fits there
  rw [parseColumnData, trimmedColumn]
  rcases typed with typed | typed | typed
  all_goals
    rw [typed]
    dsimp only
    rw [read, ok_bind]
    dsimp only
    rw [Nat.add_sub_cancel_left]
    rfl

end

/-- One block behind the other, each with the column it is read as. -/
theorem parseColumns_of_occursAt {rowCount : Nat} {columns : List BulkColumnSpec}
    {blocks : List (Bytes × BulkColumnData)}
    (each : List.Forall₂ (fun spec block => Reads rowCount spec block.1 block.2) columns blocks)
    (there : OccursAt (blocks.map Prod.fst).flatten o data) :
    parseColumns data rowCount columns o =
      .ok (blocks.map Prod.snd, o + (blocks.map Prod.fst).flatten.length) := by
  induction each generalizing o with
  | nil => rfl
  | cons reads _ ih =>
      obtain ⟨first, rest⟩ := OccursAt.append_iff.mp there
      rw [parseColumns, reads data o first, ok_bind]
      dsimp only
      rw [ih rest, ok_bind, List.map_cons, List.map_cons, List.flatten_cons, List.length_append,
        ← Nat.add_assoc]

/-- What the reader allows. -/
structure WithinCaps (table : String) (columns : List BulkColumnSpec) (rowCount : Nat) : Prop where
  tableFits : (utf8Bytes table).length < 256 ^ 4
  fewColumns : columns.length ≤ maxBulkColumns
  namesFit : ∀ spec ∈ columns, (utf8Bytes spec.name).length < 256 ^ 4
  narrow : ∀ spec ∈ columns, spec.maxLen ≤ maxBulkCellLen
  fewRows : rowCount ≤ maxBulkRows

/-- A layout whose blocks are read is read as a whole. -/
theorem parse_layout {table : String} {columns : List BulkColumnSpec} {rowCount : Nat}
    {blocks : List (Bytes × BulkColumnData)} (caps : WithinCaps table columns rowCount)
    (each : List.Forall₂ (fun spec block => Reads rowCount spec block.1 block.2) columns blocks) :
    parseBulkInsertPayload (layout table columns rowCount (blocks.map Prod.fst)) =
      .ok { table, columns, rowCount := .ofNat rowCount, columnData := blocks.map Prod.snd } := by
  have few : columns.length < 256 ^ 4 := caps.fewColumns.trans_lt (by decide)
  have fewRows : rowCount < 256 ^ 4 := caps.fewRows.trans_lt (by decide)
  have there := OccursAt.refl (layout table columns rowCount (blocks.map Prod.fst))
  have whole : (layout table columns rowCount (blocks.map Prod.fst)).length =
      0 + 4 + (utf8Bytes table).length + 4 + (columns.flatMap specBytes).length + 4 +
        (blocks.map Prod.fst).flatten.length := by
    simp only [layout, List.length_append, length_toLeBytes, Nat.zero_add]
  rw [layout, OccursAt.append_iff, OccursAt.append_iff, OccursAt.append_iff,
    OccursAt.append_iff, OccursAt.append_iff, ← layout] at there
  simp only [List.length_append, length_toLeBytes, ← Nat.add_assoc] at there
  obtain ⟨⟨⟨⟨⟨measured, spelled⟩, counted⟩, declared⟩, rowed⟩, filled⟩ := there
  have specs := readTimes_of_occursAt (fun spec member _ => parseColumnSpec_of_occursAt
    (caps.namesFit spec member) (caps.narrow spec member)) declared
  rw [parseBulkInsertPayload, readU32Le_of_occursAt measured caps.tableFits, ok_bind]
  dsimp only
  rw [readBytes_of_occursAt spelled, ok_bind]
  dsimp only
  rw [fromUtf8_utf8Bytes, ok_bind, readU32Le_of_occursAt counted few, ok_bind]
  dsimp only
  rw [if_neg (Nat.not_lt.mpr caps.fewColumns), specs, ok_bind]
  dsimp only
  rw [readU32Le_of_occursAt rowed fewRows, ok_bind]
  dsimp only
  rw [if_neg (Nat.not_lt.mpr caps.fewRows), List.map_id', parseColumns_of_occursAt each filled,
    ok_bind]
  dsimp only
  rw [← whole, if_neg (not_not.mpr rfl)]

/-! ## What is accepted -/

/-- The reader's width of a text or binary column. -/
def HasWidth (spec : BulkColumnSpec) : BulkColumnData → Prop
  | .text _ maxLen _ | .binary _ maxLen _ => maxLen = cellWidth spec
  | .i32 _ _ | .i64 _ _ | .timestamp _ _ => True

theorem hasWidth_of_parseColumnData {spec : BulkColumnSpec} {rowCount consumed : Nat}
    {column : BulkColumnData}
    (parsed : parseColumnData data o spec rowCount = .ok (column, consumed)) :
    HasWidth spec column := by
  rw [parseColumnData] at parsed
  cases typed : spec.colType with
  | i32 | i64 | timestamp =>
      rw [typed] at parsed
      obtain ⟨_, _, built⟩ := bind_eq_ok.mp parsed
      cases built
      trivial
  | text | decimal | binary =>
      rw [typed] at parsed
      obtain ⟨_, _, built⟩ := bind_eq_ok.mp parsed
      cases built
      rfl

theorem hasWidth_of_parseColumns {rowCount : Nat} {columns : List BulkColumnSpec}
    {result : List BulkColumnData × Nat}
    (parsed : parseColumns data rowCount columns o = .ok result) :
    List.Forall₂ HasWidth columns result.1 := by
  induction columns generalizing o result with
  | nil =>
      cases parsed
      exact .nil
  | cons spec columns ih =>
      obtain ⟨⟨column, consumed⟩, first, parsed⟩ := bind_eq_ok.mp parsed
      obtain ⟨rest, later, built⟩ := bind_eq_ok.mp parsed
      cases built
      exact .cons (hasWidth_of_parseColumnData first) (ih later)

theorem hasWidth_of_parse {payload : BulkInsertPayload}
    (parsed : parseBulkInsertPayload data = .ok payload) :
    List.Forall₂ HasWidth payload.columns payload.columnData := by
  obtain ⟨_, _, parsed⟩ := bind_eq_ok.mp parsed
  obtain ⟨_, _, parsed⟩ := bind_eq_ok.mp parsed
  obtain ⟨_, _, parsed⟩ := bind_eq_ok.mp parsed
  obtain ⟨_, _, parsed⟩ := bind_eq_ok.mp parsed
  dsimp only at parsed
  split_ifs at parsed
  obtain ⟨_, _, parsed⟩ := bind_eq_ok.mp parsed
  obtain ⟨_, _, parsed⟩ := bind_eq_ok.mp parsed
  split_ifs at parsed
  obtain ⟨_, columns, parsed⟩ := bind_eq_ok.mp parsed
  split_ifs at parsed
  cases parsed
  exact hasWidth_of_parseColumns columns

theorem serializeColumnSpec_eq_ok {spec : BulkColumnSpec} {bytes : Bytes}
    (written : serializeColumnSpec spec = .ok bytes) :
    bytes = specBytes spec ∧ (utf8Bytes spec.name).length < 256 ^ 4 ∧
      spec.maxLen ≤ maxBulkCellLen := by
  obtain ⟨nameLen, named, written⟩ := bind_eq_ok.mp written
  by_cases wide : spec.maxLen > maxBulkCellLen
  · rw [if_pos wide] at written
    cases written
  · rw [if_neg wide] at written
    obtain ⟨maxLen, measured, written⟩ := bind_eq_ok.mp written
    obtain ⟨short, rfl⟩ := ite_ok_eq_ok.mp named
    obtain ⟨_, rfl⟩ := ite_ok_eq_ok.mp measured
    exact ⟨(Except.ok.inj written).symm, short, Nat.not_lt.mp wide⟩

theorem serializeColumnSpecs_eq_ok {columns : List BulkColumnSpec} {specs : List Bytes}
    (written : columns.mapM serializeColumnSpec = .ok specs) :
    specs.flatten = columns.flatMap specBytes ∧ ∀ spec ∈ columns,
      (utf8Bytes spec.name).length < 256 ^ 4 ∧ spec.maxLen ≤ maxBulkCellLen := by
  rw [mapM_eq_ok_iff] at written
  induction written with
  | nil => exact ⟨rfl, by rintro _ ⟨⟩⟩
  | cons first _ ih =>
      obtain ⟨rfl, small⟩ := serializeColumnSpec_eq_ok first
      exact ⟨congrArg (_ ++ ·) ih.1, List.forall_mem_cons.mpr ⟨small, ih.2⟩⟩

/-- A payload that is written has the layout, within what the reader allows. -/
theorem serialize_eq_ok {payload : BulkInsertPayload} {bytes : Bytes}
    (written : serializeBulkInsertPayload payload = .ok bytes) :
    WithinCaps payload.table payload.columns payload.rowCount.toNat ∧
      ∃ blocks, bytes = layout payload.table payload.columns payload.rowCount.toNat blocks ∧
        List.Forall₂ (fun column block => serializeColumnData column.1 column.2 = .ok block)
          (payload.columns.zip payload.columnData) blocks := by
  rw [serializeBulkInsertPayload] at written
  split_ifs at written with many manyRows
  obtain ⟨tableLen, named, written⟩ := bind_eq_ok.mp written
  obtain ⟨colCount, counted, written⟩ := bind_eq_ok.mp written
  obtain ⟨specs, declared, written⟩ := bind_eq_ok.mp written
  obtain ⟨blocks, filled, written⟩ := bind_eq_ok.mp written
  obtain ⟨short, rfl⟩ := ite_ok_eq_ok.mp named
  obtain ⟨_, rfl⟩ := ite_ok_eq_ok.mp counted
  obtain ⟨spelled, small⟩ := serializeColumnSpecs_eq_ok declared
  refine ⟨⟨short, Nat.not_lt.mp many, fun spec member => (small spec member).1,
    fun spec member => (small spec member).2, Nat.not_lt.mp manyRows⟩, blocks, ?_,
    mapM_eq_ok_iff.mp filled⟩
  rw [layout, ← spelled]
  exact (Except.ok.inj written).symm

end BulkInsert

end OdbcFast.Native
