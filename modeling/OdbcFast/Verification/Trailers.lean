import OdbcFast.Dart.Trailers
import OdbcFast.Verification.RowMajor

/-!
# Output values and cursors behind a result

The engine appends output values and materialised cursors to a result; the Dart
parser takes them off again. The result itself is always recovered, output values
are recovered unless a text starts with a byte order mark, and a cursor is
recovered when the words of the whole message agree with its own.
-/

namespace OdbcFast.Verification

open Wire Native
open OdbcFast.Dart BinaryProtocolParser

/-- The message the engine sends: base, output trailer, cursor trailer. -/
def trailed (base : Bytes) (outputs : List Native.ParamValue) (cursors : List RowBuffer) :
    Except (Fault EncodeError) Bytes := do
  let blobs ← cursors.mapM RowBufferEncoder.encode
  let body ← RowBufferEncoder.appendOutputFooter base outputs
  RowBufferEncoder.appendRefCursorFooter body blobs

/-- The length that a header of either layout declares. -/
def declaredLength (bytes : Bytes) : Nat :=
  if readLe 2 bytes 4 = protocolVersionRowMajor then headerSizeV1 + readLe 4 bytes 12
  else headerSizeColumnarV2 + readLe 4 bytes 15

/-- One message, nothing behind it, that the parser accepts by itself. -/
structure IsMessage (library : DecompressLibrary) (base : Bytes) : Prop where
  accepted : ∃ result, parse library (.fromList base) = .ok result
  exact : declaredLength base = base.length

/-- The parsed message has the base's rows, the outputs, and for each cursor what
the parser makes of that cursor's own encoding. -/
structure Recovers (library : DecompressLibrary) (base : Bytes)
    (outputs : List Native.ParamValue) (cursors : List RowBuffer)
    (message : ParsedQueryMessage) : Prop where
  rowBuffer : parse library (.fromList base) = .ok message.rowBuffer
  outputs : message.outputParamValues = outputs.map ofNative
  cursors : List.Forall₂ (fun cursor parsed => ∃ blob,
    RowBufferEncoder.tryEncode cursor = .ok blob ∧ parse library (.fromList blob) = .ok parsed)
    cursors message.refCursorRowBuffers

section

variable {library : DecompressLibrary} {base whole : Bytes} {outputs : List Native.ParamValue}
  {cursors : List RowBuffer}

theorem mapM_encode_eq_ok {ε : Type} {blobs : List Bytes}
    (h : cursors.mapM RowBufferEncoder.encode = (.ok blobs : Except (Fault ε) _)) :
    blobs = cursors.map messageBytes ∧ ∀ cursor ∈ cursors, Encodable cursor ∧
      RowBufferEncoder.tryEncode cursor = .ok (messageBytes cursor) := by
  induction cursors generalizing blobs with
  | nil =>
      cases h
      simp
  | cons cursor cursors ih =>
      rw [List.mapM_cons] at h
      obtain ⟨blob, head, h⟩ := bind_eq_ok.mp h
      obtain ⟨rest, tail, h⟩ := bind_eq_ok.mp h
      cases h
      have written := expect_eq_ok.mp head
      obtain ⟨encodable, rfl⟩ := RowBufferEncoder.tryEncode_eq_ok written
      obtain ⟨rfl, encodables⟩ := ih tail
      exact ⟨rfl, List.forall_mem_cons.mpr ⟨⟨encodable, written⟩, encodables⟩⟩

/-- The layout of what is sent. -/
theorem trailed_eq_ok (sent : trailed base outputs cursors = .ok whole) :
    whole = base ++ (outputFooterBytes outputs ++
      refCursorFooterBytes (cursors.map messageBytes)) ∧
    (outputs.length < 256 ^ 4 ∧ ∀ p ∈ outputs, p.payload.length < 256 ^ 4) ∧
    cursors.length < 256 ^ 4 ∧
    ∀ cursor ∈ cursors, Encodable cursor ∧ (messageBytes cursor).length < 256 ^ 4 ∧
      RowBufferEncoder.tryEncode cursor = .ok (messageBytes cursor) := by
  obtain ⟨blobs, encoded, sent⟩ := bind_eq_ok.mp sent
  obtain ⟨body, footed, sent⟩ := bind_eq_ok.mp sent
  obtain ⟨rfl, encodable⟩ := mapM_encode_eq_ok encoded
  obtain ⟨rfl, few, fits⟩ := RowBufferEncoder.appendOutputFooter_eq_ok footed
  obtain ⟨rfl, fewBlobs, fitBlobs⟩ := RowBufferEncoder.appendRefCursorFooter_eq_ok sent
  rw [List.length_map] at fewBlobs
  refine ⟨by simp only [List.append_assoc], ⟨few, fits⟩, fewBlobs, fun cursor member => ?_⟩
  exact ⟨(encodable cursor member).1, fitBlobs _ (List.mem_map_of_mem member),
    (encodable cursor member).2⟩

theorem IsMessage.parseMain (message : IsMessage library base) :
    6 ≤ base.length ∧ readLe 4 base 0 = BinaryProtocolParser.magic ∧
      ∃ result, parse library (.fromList base) = .ok result ∧
        BinaryProtocolParser.parseMain library (.fromList base) = .ok (result, base.length) := by
  obtain ⟨result, accepted⟩ := message.accepted
  obtain ⟨parsed, read, rfl⟩ := map_eq_ok.mp accepted
  rw [parseWithOutputs] at read
  split_ifs at read with short foreign
  obtain ⟨⟨buffer, mainEnd⟩, main, read⟩ := bind_eq_ok.mp read
  obtain ⟨_, _, read⟩ := bind_eq_ok.mp read
  obtain ⟨_, _, read⟩ := bind_eq_ok.mp read
  obtain ⟨_, _, read⟩ := bind_eq_ok.mp read
  cases read
  rw [Uint8List.length_fromList] at short
  rw [Uint8List.bytes_fromList] at foreign
  have ends : mainEnd = base.length := by
    obtain ⟨_, cases'⟩ := parseMain_eq_ok_iff.mp main
    rw [← message.exact, declaredLength]
    simp only [Uint8List.bytes_fromList] at cases'
    rcases cases' with ⟨rowMajor, -, rfl, -⟩ | ⟨columnar, -, rfl, -⟩
    · rw [if_pos rowMajor]
    · rw [if_neg (by rw [columnar]; decide)]
  exact ⟨by omega, not_not.mp foreign, buffer, accepted, ends ▸ main⟩

/-- What the parser does with a sent message, up to the cursors. -/
theorem parseWithOutputs_of_trailed (message : IsMessage library base)
    (sent : trailed base outputs cursors = .ok whole) :
    ∃ result start, parse library (.fromList base) = .ok result ∧
      OccursAt ((cursors.map messageBytes).flatMap blobBytes) start whole ∧
      start + ((cursors.map messageBytes).flatMap blobBytes).length = whole.length ∧
      parseWithOutputs library (.fromList whole) = (do
        let (refCursors, off) ← readCursors (.fromList whole) cursors.length start
        checkTrailing (.fromList whole) off
        .ok ⟨result, outputs.map received, refCursors⟩) := by
  obtain ⟨rfl, ⟨few, fits⟩, fewCursors, -⟩ := trailed_eq_ok sent
  obtain ⟨long, marked, result, accepted, main⟩ := message.parseMain
  set tail := outputFooterBytes outputs ++ refCursorFooterBytes (cursors.map messageBytes)
    with tailEq
  have behind : OccursAt tail base.length (Uint8List.fromList (base ++ tail)).bytes := by
    rw [Uint8List.bytes_fromList]
    exact ⟨base, [], by simp, rfl⟩
  obtain ⟨outThere, rcThere⟩ := OccursAt.append_iff.mp behind
  have total : base.length + (outputFooterBytes outputs).length +
      (refCursorFooterBytes (cursors.map messageBytes)).length = (base ++ tail).length := by
    rw [List.length_append, tailEq, List.length_append]
    omega
  have out1 := parseOut1IfPresent_of_occursAt (Uint8List.bytes_fromList _) outThere rcThere total
    few fits
  obtain ⟨start, messages, ends, rc1⟩ := parseRc1IfPresent_of_occursAt rcThere total
    (by rwa [List.length_map])
  rw [Uint8List.bytes_fromList] at messages
  rw [List.length_map] at rc1
  refine ⟨result, start, accepted, messages, ends, ?_⟩
  have magic' : readLe 4 (base ++ tail) 0 = BinaryProtocolParser.magic := by
    rw [readLe_append tail (by omega), marked]
  rw [parseWithOutputs, if_neg (by rw [Uint8List.length_fromList, List.length_append]; omega),
    if_neg (by rw [Uint8List.bytes_fromList]; exact not_not.mpr magic'),
    parseMain_append _ main, ok_bind]
  simp only [out1, ok_bind, rc1]

theorem forall₂_parse_iff {parsed : List ParsedRowBuffer}
    (rectangular : ∀ cursor ∈ cursors, cursor.Rectangular)
    (encoded : ∀ cursor ∈ cursors, Encodable cursor ∧ (messageBytes cursor).length < 256 ^ 4 ∧
      RowBufferEncoder.tryEncode cursor = .ok (messageBytes cursor)) :
    List.Forall₂ (fun cursor parsed => ∃ blob, RowBufferEncoder.tryEncode cursor = .ok blob ∧
        parse library (.fromList blob) = .ok parsed) cursors parsed ↔
      parsed = cursors.map receivedBuffer := by
  constructor
  · intro related
    induction related with
    | nil => rfl
    | cons head _ ih =>
        obtain ⟨rect, rectangular⟩ := List.forall_mem_cons.mp rectangular
        obtain ⟨⟨encodable, -, written⟩, encoded⟩ := List.forall_mem_cons.mp encoded
        obtain ⟨blob, written', own⟩ := head
        rw [written, Except.ok.injEq] at written'
        rw [← written', Dart.parse_messageBytes rect encodable, Except.ok.injEq] at own
        rw [List.map_cons, ih rectangular encoded, own]
  · rintro rfl
    rw [List.forall₂_map_right_iff, List.forall₂_same]
    intro cursor member
    obtain ⟨encodable, -, written⟩ := encoded cursor member
    exact ⟨_, written, Dart.parse_messageBytes (rectangular cursor member) encodable⟩

/-- Output values survive exactly without a leading byte order mark. Cursors
survive when the whole message has their words where the reader looks, and only
if it has those of their headers and column metadata. -/
theorem parseWithOutputs_recovers (message : IsMessage library base)
    (rectangular : ∀ cursor ∈ cursors, cursor.Rectangular)
    (sent : trailed base outputs cursors = .ok whole) :
    (((∀ p ∈ outputs, ¬ Marked p) ∧ ∀ cursor ∈ cursors, WordsAgree whole cursor) →
      ∃ parsed, parseWithOutputs library (.fromList whole) = .ok parsed ∧
        Recovers library base outputs cursors parsed) ∧
    ((∃ parsed, parseWithOutputs library (.fromList whole) = .ok parsed ∧
        Recovers library base outputs cursors parsed) →
      (∀ p ∈ outputs, ¬ Marked p) ∧
        ∀ cursor ∈ cursors, AgreeAt (metadataWords cursor) whole (messageBytes cursor)) := by
  obtain ⟨result, start, accepted, messages, ends, read⟩ :=
    parseWithOutputs_of_trailed message sent
  obtain ⟨-, -, -, encoded⟩ := trailed_eq_ok sent
  have there : OccursAt ((cursors.map messageBytes).flatMap blobBytes) start
      (Uint8List.fromList whole).bytes := by rwa [Uint8List.bytes_fromList]
  have encodable := fun cursor member => (encoded cursor member).1
  have fits := fun cursor member => (encoded cursor member).2.1
  constructor
  · rintro ⟨unmarked, agree⟩
    have cursors' := readCursors_of_words there rectangular encodable fits agree
    have trailing : checkTrailing (.fromList whole) whole.length = .ok () := by
      rw [checkTrailing, if_neg]
      rintro ⟨inside, -⟩
      exact Nat.lt_irrefl _ inside
    rw [cursors', ok_bind] at read
    simp only [ends, trailing, ok_bind] at read
    refine ⟨_, read, accepted, ?_, (forall₂_parse_iff rectangular encoded).mpr rfl⟩
    exact List.map_inj_left.mpr fun p member => (received_eq_iff p).mpr (unmarked p member)
  · rintro ⟨parsed, read', recovers⟩
    rw [read] at read'
    obtain ⟨⟨refCursors, off⟩, cursors', read'⟩ := bind_eq_ok.mp read'
    obtain ⟨_, -, read'⟩ := bind_eq_ok.mp read'
    cases read'
    have same : refCursors = cursors.map receivedBuffer :=
      (forall₂_parse_iff rectangular encoded).mp recovers.cursors
    refine ⟨?_, ?_⟩
    · intro p member
      exact (received_eq_iff p).mp (List.map_inj_left.mp recovers.outputs p member)
    · rw [same] at cursors'
      exact metadataWords_of_readCursors there encodable fits cursors'

end

/-- One row; the cursor of the example below has its shape. -/
def oneRow : RowBuffer where
  columns := [⟨"id", .integer⟩]
  rows := [[some [7, 0, 0, 0]]]

def otherRow : RowBuffer where
  columns := [⟨"no", .integer⟩]
  rows := [[some [9, 0, 0, 0]]]

/-- A cursor of the base's own shape, behind an output value, is recovered. -/
theorem parseWithOutputs_recovers_otherRow :
    ∃ whole parsed, trailed (messageBytes oneRow) [.string "ok"] [otherRow] = .ok whole ∧
      parseWithOutputs noLibrary (.fromList whole) = .ok parsed ∧
      Recovers noLibrary (messageBytes oneRow) [.string "ok"] [otherRow] parsed := by
  have message : IsMessage noLibrary (messageBytes oneRow) :=
    ⟨⟨receivedBuffer oneRow, by decide⟩, by decide⟩
  obtain ⟨whole, sent⟩ : ∃ whole,
      trailed (messageBytes oneRow) [.string "ok"] [otherRow] = .ok whole := ⟨_, rfl⟩
  obtain ⟨parsed, read, recovers⟩ := (parseWithOutputs_recovers message (by decide) sent).1 (by
    cases sent
    decide)
  exact ⟨whole, parsed, sent, read, recovers⟩

/-- The reader takes the base's column count for the cursor's and runs past it. -/
theorem parseWithOutputs_wideBase :
    IsMessage noLibrary (messageBytes sampleRows) ∧ oneRow.Rectangular ∧
      ∃ whole, trailed (messageBytes sampleRows) [] [oneRow] = .ok whole ∧
        parseWithOutputs noLibrary (.fromList whole) = .error .rangeError ∧
        ¬ ∃ parsed, parseWithOutputs noLibrary (.fromList whole) = .ok parsed ∧
          Recovers noLibrary (messageBytes sampleRows) [] [oneRow] parsed := by
  refine ⟨⟨⟨receivedBuffer sampleRows, by decide⟩, by decide⟩, by decide, _, rfl, ?_⟩
  have thrown : parseWithOutputs noLibrary (.fromList (messageBytes sampleRows ++
      refCursorFooterBytes [messageBytes oneRow])) = .error .rangeError := by decide
  refine ⟨thrown, ?_⟩
  rintro ⟨parsed, read, -⟩
  exact nomatch thrown.symm.trans read

end OdbcFast.Verification
