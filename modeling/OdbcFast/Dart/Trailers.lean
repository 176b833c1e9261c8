import OdbcFast.Dart.MessageView

/-!
# Trailers behind a result

The trailers are located from the end of the result, so their own fields are read
where they were written. An embedded message is handed to the row-major reader as
a view that does not start its buffer: the reader follows it exactly when the
whole buffer happens to have the message's words at the message's positions.
-/

namespace OdbcFast.Dart

open Wire Native BinaryProtocolParser

section Outputs

variable {data : Uint8List} {outputs : List Native.ParamValue} {offset : Nat}

theorem readOutputs_of_occursAt (whole : data.bytes = data.buffer)
    (there : OccursAt (outputs.flatMap Native.ParamValue.wire) offset data.bytes)
    (fits : ∀ p ∈ outputs, p.payload.length < 256 ^ 4) :
    readOutputs data outputs.length offset =
      .ok (outputs.map received,
        offset + (outputs.flatMap Native.ParamValue.wire).length) := by
  induction outputs generalizing offset with
  | nil => rfl
  | cons p outputs ih =>
      obtain ⟨small, fits⟩ := List.forall_mem_cons.mp fits
      rw [List.flatMap_cons] at there
      obtain ⟨here, later⟩ := OccursAt.append_iff.mp there
      have head := deserializeParamValue_of_occursAt whole here small
      have tail := ih later fits
      rw [List.length_cons, readOutputs, head, ok_bind]
      simp only [tail, ok_bind, List.map_cons, List.flatMap_cons, List.length_append,
        ← Nat.add_assoc]

/-- A trailer that stands at the offset announces itself by its magic word. -/
theorem readLe_outputFooterMagic {buffer : Bytes}
    (there : OccursAt outputFooterMagic offset buffer) :
    readLe 4 buffer offset = BinaryProtocolParser.outputFooterMagic :=
  OccursAt.readLe (n := BinaryProtocolParser.outputFooterMagic) there (by decide)

theorem readLe_refCursorFooterMagic {buffer : Bytes}
    (there : OccursAt refCursorFooterMagic offset buffer) :
    readLe 4 buffer offset = BinaryProtocolParser.refCursorFooterMagic :=
  OccursAt.readLe (n := BinaryProtocolParser.refCursorFooterMagic) there (by decide)

/-- The output trailer is read, or passed over when the cursor trailer or the end
of the list comes first. -/
theorem parseOut1IfPresent_of_occursAt {blobs : List Bytes} (whole : data.bytes = data.buffer)
    (there : OccursAt (outputFooterBytes outputs) offset data.bytes)
    (next : OccursAt (refCursorFooterBytes blobs) (offset + (outputFooterBytes outputs).length)
      data.bytes)
    (ends : offset + (outputFooterBytes outputs).length + (refCursorFooterBytes blobs).length =
      data.length)
    (few : outputs.length < 256 ^ 4) (fits : ∀ p ∈ outputs, p.payload.length < 256 ^ 4) :
    parseOut1IfPresent data offset =
      .ok (outputs.map received, offset + (outputFooterBytes outputs).length) := by
  by_cases empty : outputs = []
  · subst empty
    simp only [outputFooterBytes, if_true, List.length_nil, Nat.add_zero] at next ends ⊢
    by_cases none : blobs = []
    · simp only [none, refCursorFooterBytes, if_true, List.length_nil, Nat.add_zero] at ends
      rw [parseOut1IfPresent, if_pos (by omega)]
      rfl
    · rw [refCursorFooterBytes, if_neg none] at next
      obtain ⟨marked, -⟩ := OccursAt.append_iff.mp next
      rw [parseOut1IfPresent, readLe_refCursorFooterMagic marked]
      by_cases short : data.length < offset + 8
      · rw [if_pos short]
        rfl
      · rw [if_neg short, if_pos (by decide)]
        rfl
  · rw [outputFooterBytes, if_neg empty] at there ⊢
    have room := there.le_length
    obtain ⟨marked, there⟩ := OccursAt.append_iff.mp there
    obtain ⟨counted, values⟩ := OccursAt.append_iff.mp there
    have marker : outputFooterMagic.length = 4 := rfl
    rw [length_toLeBytes] at values
    rw [marker] at counted values
    simp only [List.length_append, length_toLeBytes, marker, Uint8List.length_bytes] at room
    have count := counted.readLe few
    rw [parseOut1IfPresent, if_neg (by omega), readLe_outputFooterMagic marked,
      if_neg (by simp), count]
    rw [show offset + 8 = offset + 4 + 4 by omega, readOutputs_of_occursAt whole values fits]
    simp only [List.length_append, length_toLeBytes, marker, ← Nat.add_assoc]

end Outputs

section Cursors

variable {data : Uint8List} {offset : Nat}

/-- Where the buffer has the words of every embedded message, all are read. -/
theorem readCursors_of_words {cursors : List RowBuffer}
    (there : OccursAt ((cursors.map messageBytes).flatMap blobBytes) offset data.bytes)
    (rectangular : ∀ cursor ∈ cursors, cursor.Rectangular)
    (encodable : ∀ cursor ∈ cursors, Encodable cursor)
    (fits : ∀ cursor ∈ cursors, (messageBytes cursor).length < 256 ^ 4)
    (agree : ∀ cursor ∈ cursors, WordsAgree data.buffer cursor) :
    readCursors data cursors.length offset =
      .ok (cursors.map receivedBuffer,
        offset + ((cursors.map messageBytes).flatMap blobBytes).length) := by
  induction cursors generalizing offset with
  | nil => rfl
  | cons cursor cursors ih =>
      obtain ⟨rect, rectangular⟩ := List.forall_mem_cons.mp rectangular
      obtain ⟨enc, encodable⟩ := List.forall_mem_cons.mp encodable
      obtain ⟨fit, fits⟩ := List.forall_mem_cons.mp fits
      obtain ⟨same, agree⟩ := List.forall_mem_cons.mp agree
      rw [List.map_cons, List.flatMap_cons] at there
      obtain ⟨here, later⟩ := OccursAt.append_iff.mp there
      have room := here.le_length
      obtain ⟨measured, message⟩ := OccursAt.append_iff.mp here
      rw [length_toLeBytes] at message
      rw [blobBytes, List.length_append, length_toLeBytes, Uint8List.length_bytes] at room
      have bl := measured.readLe fit
      obtain ⟨view, viewed, viewBuffer, viewBytes⟩ := Uint8List.sublistView_of_occursAt message
      have parsed := parseRowMajorV1_of_words rect enc viewBytes (viewBuffer ▸ same)
      have tail := ih later rectangular encodable fits agree
      rw [blobBytes, List.length_append, length_toLeBytes, ← Nat.add_assoc] at tail
      rw [List.length_cons, readCursors, if_neg (by omega)]
      simp only [bl]
      rw [if_neg (by omega), viewed, ok_bind, parsed, ok_bind, tail, ok_bind]
      simp only [List.map_cons, List.flatMap_cons, blobBytes, List.length_append,
        length_toLeBytes, ← Nat.add_assoc]

/-- The words in front of the rows: header and column metadata. -/
def metadataWords (buffer : RowBuffer) : List (Nat × Nat) :=
  [(4, 0), (2, 4), (2, 6), (4, 8)] ++ columnWords buffer.columns 16

theorem length_decodeLatin1 (bytes : Bytes) :
    (decodeLatin1 bytes).toList.length = bytes.length := by
  rw [decodeLatin1, String.toList_ofList, List.length_map]

theorem bufferWord_eq_ok {width n : Nat} (read : data.bufferWord width offset = .ok n) :
    readLe width data.buffer offset = n := by
  rw [Uint8List.bufferWord] at read
  split_ifs at read with inside
  exact Except.ok.inj read

theorem readUint16_eq_ok {n next : Nat} (read : readUint16 data offset = .ok (n, next)) :
    readLe 2 data.buffer offset = n ∧ next = offset + 2 := by
  obtain ⟨_, word, built⟩ := bind_eq_ok.mp read
  cases built
  exact ⟨bufferWord_eq_ok word, rfl⟩

theorem readUint32_eq_ok {n next : Nat} (read : readUint32 data offset = .ok (n, next)) :
    readLe 4 data.buffer offset = n ∧ next = offset + 4 := by
  obtain ⟨_, word, built⟩ := bind_eq_ok.mp read
  cases built
  exact ⟨bufferWord_eq_ok word, rfl⟩

theorem readString_eq_ok {length : Nat} {text : String} {next : Nat}
    (read : readString data length offset = .ok (text, next)) :
    text.toList.length = length ∧ next = offset + length := by
  obtain ⟨bytes, copied, read⟩ := bind_eq_ok.mp read
  cases read
  rw [Uint8List.sublist] at copied
  split_ifs at copied with inside
  cases copied
  refine ⟨?_, rfl⟩
  rw [length_decodeLatin1, List.length_take, List.length_drop, Uint8List.length_bytes]
  omega

/-- Columns that arrive as they were sent were read at the right words: the type
codes are the words themselves, and a name shows how long it was taken to be. -/
theorem agreeAt_of_readColumns {columns : List Native.ColumnMetadata} {next : Nat}
    (there : OccursAt (columns.flatMap columnBytes) offset data.bytes)
    (names : ∀ col ∈ columns, (utf8Bytes col.name).length < 256 ^ 2)
    (read : readColumns data columns.length offset = .ok (columns.map receivedColumn, next)) :
    AgreeAt (columnWords columns offset) data.buffer data.bytes := by
  induction columns generalizing offset with
  | nil => exact List.forall_mem_nil _
  | cons col columns ih =>
      obtain ⟨short, names⟩ := List.forall_mem_cons.mp names
      rw [List.flatMap_cons] at there
      obtain ⟨here, later⟩ := OccursAt.append_iff.mp there
      obtain ⟨typed, measured, -⟩ := columnBytes_fields here
      obtain ⟨⟨code, _⟩, readType, read⟩ := bind_eq_ok.mp read
      obtain ⟨typeWord, rfl⟩ := readUint16_eq_ok readType
      obtain ⟨⟨nameLen, _⟩, readLen, read⟩ := bind_eq_ok.mp read
      obtain ⟨lenWord, rfl⟩ := readUint16_eq_ok readLen
      obtain ⟨⟨name, _⟩, readName, read⟩ := bind_eq_ok.mp read
      obtain ⟨⟨rest, _⟩, readRest, built⟩ := bind_eq_ok.mp read
      simp only [List.map_cons, receivedColumn, Except.ok.injEq, Prod.mk.injEq, List.cons.injEq,
        ColumnMetadata.mk.injEq] at built
      obtain ⟨⟨⟨rfl, rfl⟩, rfl⟩, rfl⟩ := built
      obtain ⟨spelled, rfl⟩ := readString_eq_ok readName
      obtain rfl : (utf8Bytes col.name).length = nameLen := by
        rw [← spelled, length_decodeLatin1]
      have tail := ih later names (by
        rw [length_columnBytes]
        simpa only [Nat.add_assoc] using readRest)
      refine AgreeAt.cons_iff.mpr ⟨?_, AgreeAt.cons_iff.mpr ⟨?_, tail⟩⟩
      · exact typeWord.trans (typed.readLe col.odbcType.discriminant_lt).symm
      · exact lenWord.trans (measured.readLe short).symm

/-- The words an accepted message was read from. -/
theorem parseRowMajorV1_eq_ok {result : ParsedRowBuffer}
    (read : parseRowMajorV1 data = .ok result) :
    readLe 4 data.buffer 0 = BinaryProtocolParser.magic ∧
      readLe 2 data.buffer 4 = protocolVersionRowMajor ∧
      readLe 2 data.buffer 6 = result.columnCount ∧
      readLe 4 data.buffer 8 = result.rowCount ∧
      ∃ next, readColumns data result.columnCount 16 = .ok (result.columns, next) := by
  rw [parseRowMajorV1] at read
  obtain ⟨⟨readMagic, _⟩, first, read⟩ := bind_eq_ok.mp read
  obtain ⟨magicWord, rfl⟩ := readUint32_eq_ok first
  simp only at read
  split_ifs at read with foreign
  obtain ⟨⟨version, _⟩, first, read⟩ := bind_eq_ok.mp read
  obtain ⟨versionWord, rfl⟩ := readUint16_eq_ok first
  simp only at read
  split_ifs at read with other
  obtain ⟨⟨columnCount, _⟩, first, read⟩ := bind_eq_ok.mp read
  obtain ⟨columnWord, rfl⟩ := readUint16_eq_ok first
  obtain ⟨⟨rowCount, _⟩, first, read⟩ := bind_eq_ok.mp read
  obtain ⟨rowWord, rfl⟩ := readUint32_eq_ok first
  obtain ⟨⟨_, _⟩, first, read⟩ := bind_eq_ok.mp read
  obtain ⟨-, rfl⟩ := readUint32_eq_ok first
  obtain ⟨⟨columns, next⟩, columnsRead, read⟩ := bind_eq_ok.mp read
  obtain ⟨⟨rows, _⟩, -, built⟩ := bind_eq_ok.mp read
  cases built
  exact ⟨magicWord.trans (not_not.mp foreign), versionWord.trans (not_not.mp other), columnWord,
    rowWord, next, columnsRead⟩

/-- A message that arrives unchanged was read with its own header and metadata. -/
theorem metadataWords_of_parseRowMajorV1 {buffer : RowBuffer} (encodable : Encodable buffer)
    (window : data.bytes = messageBytes buffer)
    (read : parseRowMajorV1 data = .ok (receivedBuffer buffer)) :
    AgreeAt (metadataWords buffer) data.buffer (messageBytes buffer) := by
  have whole : OccursAt (messageBytes buffer) 0 data.bytes := window ▸ OccursAt.refl _
  obtain ⟨header, body⟩ := OccursAt.append_iff.mp whole
  obtain ⟨metadata, -⟩ := OccursAt.append_iff.mp body
  obtain ⟨marked, versioned, columnCount, rowCount, -⟩ :=
    headerBytes_words header encodable.columns encodable.rows encodable.payload
  rw [length_headerBytes] at metadata
  simp only [Nat.zero_add] at marked versioned columnCount rowCount metadata
  obtain ⟨magicWord, versionWord, columnWord, rowWord, next, columnsRead⟩ :=
    parseRowMajorV1_eq_ok read
  have columnsAgree := agreeAt_of_readColumns metadata encodable.names columnsRead
  rw [← window]
  refine AgreeAt.append_iff.mpr ⟨?_, columnsAgree⟩
  refine AgreeAt.cons_iff.mpr ⟨?_, AgreeAt.cons_iff.mpr ⟨?_, AgreeAt.cons_iff.mpr ⟨?_,
    AgreeAt.cons_iff.mpr ⟨?_, List.forall_mem_nil _⟩⟩⟩⟩
  · exact magicWord.trans marked.symm
  · exact versionWord.trans versioned.symm
  · exact columnWord.trans columnCount.symm
  · exact rowWord.trans rowCount.symm

theorem metadataWords_of_readCursors {cursors : List RowBuffer} {next : Nat}
    (there : OccursAt ((cursors.map messageBytes).flatMap blobBytes) offset data.bytes)
    (encodable : ∀ cursor ∈ cursors, Encodable cursor)
    (fits : ∀ cursor ∈ cursors, (messageBytes cursor).length < 256 ^ 4)
    (read : readCursors data cursors.length offset = .ok (cursors.map receivedBuffer, next)) :
    ∀ cursor ∈ cursors, AgreeAt (metadataWords cursor) data.buffer (messageBytes cursor) := by
  induction cursors generalizing offset with
  | nil => exact List.forall_mem_nil _
  | cons cursor cursors ih =>
      obtain ⟨enc, encodable⟩ := List.forall_mem_cons.mp encodable
      obtain ⟨fit, fits⟩ := List.forall_mem_cons.mp fits
      rw [List.map_cons, List.flatMap_cons] at there
      obtain ⟨here, later⟩ := OccursAt.append_iff.mp there
      obtain ⟨measured, message⟩ := OccursAt.append_iff.mp here
      rw [length_toLeBytes] at message
      have bl := measured.readLe fit
      obtain ⟨view, viewed, viewBuffer, viewBytes⟩ := Uint8List.sublistView_of_occursAt message
      rw [List.length_cons, readCursors] at read
      simp only [bl] at read
      split_ifs at read with short truncated
      rw [viewed, ok_bind] at read
      obtain ⟨head, parsed, read⟩ := bind_eq_ok.mp read
      obtain ⟨⟨tail, _⟩, rest, read⟩ := bind_eq_ok.mp read
      simp only [List.map_cons, Except.ok.injEq, Prod.mk.injEq, List.cons.injEq] at read
      obtain ⟨⟨rfl, rfl⟩, rfl⟩ := read
      refine List.forall_mem_cons.mpr ⟨?_, ?_⟩
      · have agree := metadataWords_of_parseRowMajorV1 enc viewBytes parsed
        rwa [viewBuffer] at agree
      · refine ih later encodable fits ?_
        rw [blobBytes, List.length_append, length_toLeBytes, ← Nat.add_assoc]
        exact rest

/-- The cursor trailer, located. Without cursors the messages start, and end, at
the end of the list. -/
theorem parseRc1IfPresent_of_occursAt {blobs : List Bytes}
    (there : OccursAt (refCursorFooterBytes blobs) offset data.bytes)
    (ends : offset + (refCursorFooterBytes blobs).length = data.length)
    (few : blobs.length < 256 ^ 4) :
    ∃ start, OccursAt (blobs.flatMap blobBytes) start data.bytes ∧
      start + (blobs.flatMap blobBytes).length = data.length ∧
      parseRc1IfPresent data offset = readCursors data blobs.length start := by
  by_cases none : blobs = []
  · subst none
    rw [refCursorFooterBytes, if_pos rfl, List.length_nil, Nat.add_zero] at ends
    refine ⟨offset, ⟨data.bytes, [], by simp, by rw [Uint8List.length_bytes, ends]⟩, ends, ?_⟩
    rw [parseRc1IfPresent, if_pos (by omega)]
    rfl
  · rw [refCursorFooterBytes, if_neg none] at there ends
    obtain ⟨marked, there⟩ := OccursAt.append_iff.mp there
    obtain ⟨counted, messages⟩ := OccursAt.append_iff.mp there
    have marker : refCursorFooterMagic.length = 4 := rfl
    rw [length_toLeBytes] at messages
    rw [marker] at counted messages
    simp only [List.length_append, length_toLeBytes, marker] at ends
    refine ⟨offset + 4 + 4, messages, by omega, ?_⟩
    rw [parseRc1IfPresent, if_neg (by omega), readLe_refCursorFooterMagic marked,
      if_neg (by simp), counted.readLe few]

end Cursors

end OdbcFast.Dart
