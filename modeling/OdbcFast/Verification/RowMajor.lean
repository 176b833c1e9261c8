import OdbcFast.Dart.MessageView
import OdbcFast.Native.Protocol.Decoder

/-!
# Row-major messages end to end

The engine's own decoder inverts its encoder and accepts neither more nor less
than one message. The Dart parser recovers counts, type codes, NULL positions and
cells of every message, but spells column names one character per byte, so the
names survive exactly when they are ASCII.
-/

namespace OdbcFast.Verification

open Wire Native

section Decoder

open BinaryProtocolDecoder

/-- Decoding inverts encoding within the decoder's limits, and the decoder
accepts no proper prefix and no proper extension of the encoding. -/
theorem parse_tryEncode {buffer : RowBuffer} {bytes : Bytes} (rectangular : buffer.Rectangular)
    (limits : WithinLimits buffer) (encoded : RowBufferEncoder.tryEncode buffer = .ok bytes) :
    parse bytes =
        .ok ⟨buffer.columns.map info, buffer.rows, buffer.rowCount, buffer.columnCount⟩ ∧
      (∀ front, front <+: bytes → front ≠ bytes → ∃ error, parse front = .error error) ∧
      ∀ suffix, suffix ≠ [] → ∃ error, parse (bytes ++ suffix) = .error error := by
  obtain ⟨encodable, rfl⟩ := RowBufferEncoder.tryEncode_eq_ok encoded
  have accepted := parse_messageBytes rectangular encodable limits
  refine ⟨accepted, ?_, ?_⟩
  · rintro front ⟨rest, whole⟩ proper
    cases outcome : parse front with
    | error error => exact ⟨error, rfl⟩
    | ok result =>
        rw [← whole] at accepted
        have none := eq_nil_of_parse_append outcome accepted
        rw [none, List.append_nil] at whole
        exact absurd whole proper
  · intro suffix nonempty
    cases outcome : parse (messageBytes buffer ++ suffix) with
    | error error => exact ⟨error, rfl⟩
    | ok result => exact absurd (eq_nil_of_parse_append accepted outcome) nonempty

end Decoder

/-- Two columns and two rows with a NULL, an empty cell and a short one. -/
def sampleRows : RowBuffer where
  columns := [⟨"id", .integer⟩, ⟨"note", .varchar⟩]
  rows := [[some [7, 0, 0, 0], some []], [none, some [0x41]]]

theorem parse_tryEncode_sampleRows :
    ∃ bytes, RowBufferEncoder.tryEncode sampleRows = .ok bytes ∧
      BinaryProtocolDecoder.parse bytes =
        .ok ⟨[⟨"id", .integer⟩, ⟨"note", .varchar⟩], sampleRows.rows, 2, 2⟩ ∧
      (∃ error, BinaryProtocolDecoder.parse (bytes.take 30) = .error error) ∧
      ∃ error, BinaryProtocolDecoder.parse (bytes ++ [0]) = .error error := by
  have small : BinaryProtocolDecoder.WithinLimits sampleRows := by
    refine ⟨by decide, by decide, by decide, by decide, ?_⟩
    simp [sampleRows, BinaryProtocolDecoder.maxDecodedCellSize]
  have encoded : RowBufferEncoder.tryEncode sampleRows = .ok (messageBytes sampleRows) := by decide
  obtain ⟨accepted, truncated, extended⟩ := parse_tryEncode (by decide) small encoded
  exact ⟨_, encoded, accepted, truncated _ (List.take_prefix _ _) (by decide),
    extended _ (by decide)⟩

section Dart

open OdbcFast.Dart BinaryProtocolParser

/-- The parsed buffer shows what the engine's buffer holds. -/
structure Shows (result : ParsedRowBuffer) (buffer : RowBuffer) : Prop where
  columnCount : result.columnCount = buffer.columnCount
  rowCount : result.rowCount = buffer.rowCount
  names : result.columns.map (·.name) = buffer.columns.map (·.name)
  types : result.columns.map (·.odbcType) = buffer.columns.map (·.odbcType.discriminant)
  nulls : result.rows.map (·.map fun cell => decide (cell = .null)) =
    buffer.rows.map (·.map Option.isNone)
  cells : result.rows = buffer.rows.map (receivedRow buffer.columns)

/-- A converted cell is a number, a text or bytes. -/
theorem convertData_ne_null (data : Bytes) (odbcType : Nat) :
    convertData data odbcType ≠ .null := by
  unfold convertData
  split
  · simp
  · split_ifs <;> simp
  · split_ifs <;> simp
  · simp

theorem receivedRow_nulls {columns : List Native.ColumnMetadata} {row : List Cell}
    (width : row.length = columns.length) :
    (receivedRow columns row).map (fun cell => decide (cell = .null)) =
      row.map Option.isNone := by
  induction row generalizing columns with
  | nil =>
      obtain rfl : columns = [] := List.length_eq_zero_iff.mp width.symm
      rfl
  | cons cell row ih =>
      cases columns with
      | nil => cases width
      | cons col columns =>
          have rest := ih (Nat.succ.inj width)
          rw [receivedRow] at rest ⊢
          rw [List.zipWith_cons_cons, List.map_cons, rest, List.map_cons]
          cases cell with
          | none => rfl
          | some data =>
              have value : receivedCell col (some data) ≠ .null := convertData_ne_null _ _
              simp [value]

theorem receivedBuffer_shows_iff {buffer : RowBuffer} (rectangular : buffer.Rectangular) :
    Shows (receivedBuffer buffer) buffer ↔ ∀ col ∈ buffer.columns, IsAscii col.name := by
  constructor
  · intro shows'
    have names := shows'.names
    simp only [receivedBuffer, List.map_map] at names
    intro col member
    exact (decodeLatin1_utf8Bytes_iff col.name).mp (List.map_inj_left.mp names col member)
  · intro ascii
    refine ⟨rfl, rfl, ?_, ?_, ?_, rfl⟩
    · simp only [receivedBuffer, List.map_map]
      refine List.map_inj_left.mpr fun col member => ?_
      exact (decodeLatin1_utf8Bytes_iff col.name).mpr (ascii col member)
    · simp only [receivedBuffer, List.map_map]
      rfl
    · simp only [receivedBuffer, List.map_map]
      exact List.map_inj_left.mpr fun row member => receivedRow_nulls (rectangular row member)

/-- The Dart parser shows an encoded buffer exactly when its column names are ASCII. -/
theorem parse_shows_iff {buffer : RowBuffer} {bytes : Bytes} (library : DecompressLibrary)
    (rectangular : buffer.Rectangular)
    (encoded : RowBufferEncoder.tryEncode buffer = .ok bytes) :
    (∃ result, parse library (.fromList bytes) = .ok result ∧ Shows result buffer) ↔
      ∀ col ∈ buffer.columns, IsAscii col.name := by
  obtain ⟨encodable, rfl⟩ := RowBufferEncoder.tryEncode_eq_ok encoded
  rw [Dart.parse_messageBytes rectangular encodable, ← receivedBuffer_shows_iff rectangular]
  constructor
  · rintro ⟨result, read, shows'⟩
    rw [Except.ok.injEq] at read
    rwa [read]
  · intro shows'
    exact ⟨_, rfl, shows'⟩

/-- No decompression symbols were found. -/
def noLibrary : DecompressLibrary := ⟨false, fun _ _ => none⟩

theorem parse_shows_sampleRows :
    ∃ result, parse noLibrary (.fromList (messageBytes sampleRows)) = .ok result ∧
      Shows result sampleRows := by
  have rectangular : sampleRows.Rectangular := by decide
  have encoded : RowBufferEncoder.tryEncode sampleRows = .ok (messageBytes sampleRows) := by decide
  have ascii : ∀ col ∈ sampleRows.columns, IsAscii col.name := by
    simp [sampleRows, IsAscii]
  exact (parse_shows_iff noLibrary rectangular encoded).mpr ascii

def accentedColumn : RowBuffer where
  columns := [⟨"café", .varchar⟩]
  rows := []

/-- The name arrives as the Latin-1 reading of its UTF-8 bytes. -/
theorem parse_accentedColumn :
    accentedColumn.Rectangular ∧
      RowBufferEncoder.tryEncode accentedColumn = .ok (messageBytes accentedColumn) ∧
      parse noLibrary (.fromList (messageBytes accentedColumn)) =
        .ok ⟨[⟨"cafÃ©", 1⟩], [], 0, 1⟩ ∧
      ¬ ∃ result, parse noLibrary (.fromList (messageBytes accentedColumn)) = .ok result ∧
        Shows result accentedColumn := by
  have read : parse noLibrary (.fromList (messageBytes accentedColumn)) =
      .ok ⟨[⟨"cafÃ©", 1⟩], [], 0, 1⟩ := by decide
  refine ⟨by decide, by decide, read, ?_⟩
  rintro ⟨result, read', shows'⟩
  rw [read, Except.ok.injEq] at read'
  have names := shows'.names
  rw [← read'] at names
  revert names
  decide

end Dart

end OdbcFast.Verification
