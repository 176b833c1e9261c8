import OdbcFast.Dart.MultiResultParser
import OdbcFast.Verification.Trailers

/-!
# Multi-result envelopes end to end

Both framings round-trip through the engine's decoder, also with a footer behind
the items, and the Dart parsers deliver the same sequence. What can go wrong is an
output value of the footer: a text that starts with a byte order mark loses it.
-/

namespace OdbcFast.Verification

open Wire Native
open MultiResult (encodeMulti encodeMultiV1 encodeItems decodeMulti isKnownFooter WithinLimits)
open OdbcFast.Dart
open MultiResultParser (deliver parseMultiWithOutputs)

/-- Every result set of the batch is a message the Dart parser accepts. -/
def Parseable (library : DecompressLibrary) (items : List Native.MultiResultItem) : Prop :=
  ∀ payload, .resultSet payload ∈ items →
    ∃ result, BinaryProtocolParser.parse library (.fromList payload) = .ok result

/-- The engine's decoder returns the items from every framing, and the Dart parsers
deliver them with the footer's values. -/
structure Agrees (library : DecompressLibrary) (items : List Native.MultiResultItem)
    (outputs : List Native.ParamValue) (withOutputs withCursors : Bytes) : Prop where
  current : decodeMulti (encodeMulti items) = .ok items
  legacy : decodeMulti (encodeMultiV1 items) = .ok items
  footers : decodeMulti withOutputs = .ok items ∧ decodeMulti withCursors = .ok items
  dart : Parseable library items → ∃ delivered, items.mapM (deliver library) = .ok delivered ∧
    (∀ bytes ∈ [encodeMulti items, withOutputs, withCursors],
      MultiResultParser.parse library (.fromList bytes) = .ok delivered) ∧
    parseMultiWithOutputs library (.fromList (encodeMulti items)) = .ok (delivered, []) ∧
    parseMultiWithOutputs library (.fromList withOutputs) =
      .ok (delivered, outputs.map ofNative) ∧
    parseMultiWithOutputs library (.fromList withCursors) = .ok (delivered, [])

section

variable {library : DecompressLibrary} {items : List Native.MultiResultItem}
  {delivered : List Dart.MultiResultItem}

theorem Parseable.mapM_deliver (parseable : Parseable library items) :
    ∃ delivered, items.mapM (deliver library) = .ok delivered := by
  induction items with
  | nil => exact ⟨[], rfl⟩
  | cons item items ih =>
      obtain ⟨rest, tail⟩ := ih fun payload member =>
        parseable payload (List.mem_cons_of_mem _ member)
      obtain ⟨first, head⟩ : ∃ first, deliver library item = .ok first := by
        cases item with
        | resultSet payload =>
            obtain ⟨result, read⟩ := parseable payload List.mem_cons_self
            exact ⟨.resultSet result, by rw [deliver, read]; rfl⟩
        | rowCount n => exact ⟨_, rfl⟩
      exact ⟨first :: rest, by rw [List.mapM_cons, head, ok_bind, tail, ok_bind]; rfl⟩

/-- The number of items and their lengths fit the fields that carry them. -/
def ItemsFit (items : List Native.MultiResultItem) : Prop :=
  items.length < 256 ^ 4 ∧ ∀ item ∈ items, (MultiResult.payload item).length < 256 ^ 4

theorem WithinLimits.fits (limits : WithinLimits items) : ItemsFit items :=
  ⟨Nat.lt_of_le_of_lt limits.count (by decide), fun item member =>
    Nat.lt_of_le_of_lt (limits.payloads item member) (by decide)⟩

/-- The item loop over an envelope, whatever stands behind it. -/
theorem readItems_encodeMulti (fits : ItemsFit items) (more : Bytes)
    (parsed : items.mapM (deliver library) = .ok delivered) :
    MultiResultParser.readItems library (.fromList (encodeMulti items ++ more)) items.length
        MultiResultParser.headerV2Len =
      .ok (delivered, (encodeMulti items).length) := by
  obtain ⟨few, fits⟩ := fits
  obtain ⟨-, -, -, there⟩ := MultiResult.encodeMulti_words more few
  rw [MultiResult.length_encodeMulti]
  exact MultiResultParser.readItems_of_occursAt
    (by rw [Uint8List.bytes_fromList]; exact there) fits parsed

theorem parse_encodeMulti (fits : ItemsFit items) (more : Bytes)
    (parsed : items.mapM (deliver library) = .ok delivered) :
    MultiResultParser.parse library (.fromList (encodeMulti items ++ more)) = .ok delivered := by
  obtain ⟨marked, versioned, counted, there⟩ := MultiResult.encodeMulti_words more fits.1
  have read := readItems_encodeMulti fits more parsed
  have long := there.le_length
  rw [MultiResult.headerV2Len] at long
  have bytes := Uint8List.bytes_fromList (encodeMulti items ++ more)
  have length := Uint8List.length_fromList (encodeMulti items ++ more)
  rw [MultiResultParser.parse, if_pos ⟨by omega, by rw [bytes]; exact marked⟩,
    MultiResultParser.parseV2, if_neg (by rw [MultiResultParser.headerV2Len]; omega),
    if_neg (by rw [bytes]; exact not_not.mpr versioned), MultiResultParser.parseItems, bytes,
    counted, read]
  rfl

/-- Behind the items the second parser looks for an output footer. -/
theorem parseMultiWithOutputs_encodeMulti (fits : ItemsFit items) (more : Bytes)
    (parsed : items.mapM (deliver library) = .ok delivered) :
    parseMultiWithOutputs library (.fromList (encodeMulti items ++ more)) =
      if (encodeMulti items).length + 8 ≤ (encodeMulti items ++ more).length ∧
          readLe 4 (encodeMulti items ++ more) (encodeMulti items).length =
            BinaryProtocolParser.outputFooterMagic then do
        let (outputs, _) ← BinaryProtocolParser.readOutputs (.fromList (encodeMulti items ++ more))
          (readLe 4 (encodeMulti items ++ more) ((encodeMulti items).length + 4))
          ((encodeMulti items).length + 8)
        .ok (delivered, outputs)
      else .ok (delivered, []) := by
  obtain ⟨marked, versioned, counted, there⟩ := MultiResult.encodeMulti_words more fits.1
  have read := readItems_encodeMulti fits more parsed
  have long := there.le_length
  rw [MultiResult.headerV2Len] at long
  have bytes := Uint8List.bytes_fromList (encodeMulti items ++ more)
  have length := Uint8List.length_fromList (encodeMulti items ++ more)
  rw [parseMultiWithOutputs, if_neg (by rw [MultiResultParser.headerV2Len]; omega),
    if_neg (by rw [bytes]; exact not_not.mpr marked),
    if_neg (by rw [bytes]; exact not_not.mpr versioned), bytes, counted, read, ok_bind]
  rfl

theorem occursAt_behind (front more : Bytes) :
    OccursAt more front.length (front ++ more) := ⟨front, [], by simp, rfl⟩

theorem parseMultiWithOutputs_outputs {outputs : List Native.ParamValue}
    (fitting : ItemsFit items) (parsed : items.mapM (deliver library) = .ok delivered)
    (few : outputs.length < 256 ^ 4) (fits : ∀ p ∈ outputs, p.payload.length < 256 ^ 4) :
    parseMultiWithOutputs library (.fromList (encodeMulti items ++ outputFooterBytes outputs)) =
      .ok (delivered, outputs.map received) := by
  rw [parseMultiWithOutputs_encodeMulti fitting _ parsed]
  by_cases empty : outputs = []
  · rw [if_neg, empty]
    · rfl
    · rw [empty, outputFooterBytes, if_pos rfl, List.append_nil]
      omega
  · have there := occursAt_behind (encodeMulti items) (outputFooterBytes outputs)
    have room := there.le_length
    nth_rewrite 1 [outputFooterBytes, if_neg empty] at there
    obtain ⟨marked, there⟩ := OccursAt.append_iff.mp there
    obtain ⟨counted, values⟩ := OccursAt.append_iff.mp there
    have marker : outputFooterMagic.length = 4 := rfl
    rw [length_toLeBytes] at values
    rw [marker] at counted values
    have magic := readLe_outputFooterMagic marked
    have long : 8 ≤ (outputFooterBytes outputs).length := by
      rw [outputFooterBytes, if_neg empty]
      simp only [List.length_append, length_toLeBytes, marker]
      omega
    have whole : (Uint8List.fromList (encodeMulti items ++ outputFooterBytes outputs)).bytes =
        (Uint8List.fromList (encodeMulti items ++ outputFooterBytes outputs)).buffer :=
      Uint8List.bytes_fromList _
    have read := readOutputs_of_occursAt whole (by rw [Uint8List.bytes_fromList]; exact values) fits
    rw [if_pos ⟨by omega, magic⟩, counted.readLe few]
    rw [Nat.add_assoc] at read
    rw [read, ok_bind]

theorem parseMultiWithOutputs_cursors (blobs : List Bytes) (fits : ItemsFit items)
    (parsed : items.mapM (deliver library) = .ok delivered) :
    parseMultiWithOutputs library (.fromList (encodeMulti items ++ refCursorFooterBytes blobs)) =
      .ok (delivered, []) := by
  rw [parseMultiWithOutputs_encodeMulti fits _ parsed]
  refine if_neg ?_
  rintro ⟨long, magic⟩
  by_cases empty : blobs = []
  · rw [empty, refCursorFooterBytes, if_pos rfl, List.append_nil] at long
    omega
  · have there := occursAt_behind (encodeMulti items) (refCursorFooterBytes blobs)
    nth_rewrite 1 [refCursorFooterBytes, if_neg empty] at there
    obtain ⟨marked, -⟩ := OccursAt.append_iff.mp there
    rw [readLe_refCursorFooterMagic marked] at magic
    revert magic
    decide

theorem isKnownFooter_outputFooterBytes (outputs : List Native.ParamValue) :
    outputFooterBytes outputs = [] ∨ isKnownFooter (outputFooterBytes outputs) := by
  rw [outputFooterBytes]
  split_ifs with empty
  · exact .inl rfl
  · exact .inr rfl

theorem isKnownFooter_refCursorFooterBytes (blobs : List Bytes) :
    refCursorFooterBytes blobs = [] ∨ isKnownFooter (refCursorFooterBytes blobs) := by
  rw [refCursorFooterBytes]
  split_ifs with empty
  · exact .inl rfl
  · exact .inr rfl

/-- Everything agrees exactly when the Dart side has nothing to parse wrongly: a
batch it cannot parse at all, or a footer whose texts start with no byte order mark. -/
theorem multiResult_agrees_iff {ε : Type} {outputs : List Native.ParamValue}
    {blobs : List Bytes} {withOutputs withCursors : Bytes} (limits : WithinLimits items)
    (outputsFooted : RowBufferEncoder.appendOutputFooter (encodeMulti items) outputs =
      (.ok withOutputs : Except (Fault ε) Bytes))
    (cursorsFooted : RowBufferEncoder.appendRefCursorFooter (encodeMulti items) blobs =
      (.ok withCursors : Except (Fault ε) Bytes)) :
    Agrees library items outputs withOutputs withCursors ↔
      (Parseable library items → ∀ p ∈ outputs, ¬ Marked p) := by
  obtain ⟨rfl, few, fits⟩ := RowBufferEncoder.appendOutputFooter_eq_ok outputsFooted
  obtain ⟨rfl, -, -⟩ := RowBufferEncoder.appendRefCursorFooter_eq_ok cursorsFooted
  have fitting := WithinLimits.fits limits
  constructor
  · rintro agrees parseable p member
    obtain ⟨delivered, parsed, -, -, values, -⟩ := agrees.dart parseable
    rw [parseMultiWithOutputs_outputs fitting parsed few fits, Except.ok.injEq, Prod.mk.injEq]
      at values
    exact (received_eq_iff p).mp (List.map_inj_left.mp values.2 p member)
  · intro unmarked
    have plain := MultiResult.decodeMulti_encodeMulti_append limits (Or.inl (Eq.refl []))
    rw [List.append_nil] at plain
    refine ⟨plain, MultiResult.decodeMulti_encodeMultiV1 limits,
      ⟨MultiResult.decodeMulti_encodeMulti_append limits (isKnownFooter_outputFooterBytes _),
        MultiResult.decodeMulti_encodeMulti_append limits
          (isKnownFooter_refCursorFooterBytes _)⟩, fun parseable => ?_⟩
    obtain ⟨delivered, parsed⟩ := parseable.mapM_deliver
    have values : outputs.map received = outputs.map ofNative :=
      List.map_inj_left.mpr fun p member => (received_eq_iff p).mpr (unmarked parseable p member)
    have bare := parse_encodeMulti fitting [] parsed
    have bareOutputs := parseMultiWithOutputs_cursors [] fitting parsed
    rw [List.append_nil] at bare
    rw [refCursorFooterBytes, if_pos rfl, List.append_nil] at bareOutputs
    refine ⟨delivered, parsed, ?_, bareOutputs, ?_,
      parseMultiWithOutputs_cursors blobs fitting parsed⟩
    · simp only [List.mem_cons, List.not_mem_nil, or_false, forall_eq_or_imp, forall_eq]
      exact ⟨bare, parse_encodeMulti fitting _ parsed, parse_encodeMulti fitting _ parsed⟩
    · rw [parseMultiWithOutputs_outputs fitting parsed few fits, values]

end

/-- A result set and a driver's "no count". -/
def sampleItems : List Native.MultiResultItem :=
  [.resultSet (messageBytes oneRow), .rowCount (-1)]

theorem withinLimits_sampleItems : WithinLimits sampleItems := ⟨by decide, by decide⟩

theorem parseable_sampleItems : Parseable noLibrary sampleItems := by
  intro payload member
  simp only [sampleItems, List.mem_cons, Native.MultiResultItem.resultSet.injEq, reduceCtorEq,
    List.not_mem_nil, or_self, or_false] at member
  subst member
  exact ⟨receivedBuffer oneRow, by decide⟩

theorem multiResult_agrees_sampleItems :
    ∃ withOutputs withCursors,
      RowBufferEncoder.appendOutputFooter (encodeMulti sampleItems) [.string "ok", .integer 7] =
        (.ok withOutputs : Except (Fault EncodeError) Bytes) ∧
      RowBufferEncoder.appendRefCursorFooter (encodeMulti sampleItems) [messageBytes oneRow] =
        (.ok withCursors : Except (Fault EncodeError) Bytes) ∧
      Parseable noLibrary sampleItems ∧
      Agrees noLibrary sampleItems [.string "ok", .integer 7] withOutputs withCursors := by
  obtain ⟨withOutputs, outputsFooted⟩ : ∃ bytes,
      RowBufferEncoder.appendOutputFooter (encodeMulti sampleItems) [.string "ok", .integer 7] =
        (.ok bytes : Except (Fault EncodeError) Bytes) := ⟨_, rfl⟩
  obtain ⟨withCursors, cursorsFooted⟩ : ∃ bytes,
      RowBufferEncoder.appendRefCursorFooter (encodeMulti sampleItems) [messageBytes oneRow] =
        (.ok bytes : Except (Fault EncodeError) Bytes) := ⟨_, rfl⟩
  refine ⟨withOutputs, withCursors, outputsFooted, cursorsFooted, parseable_sampleItems, ?_⟩
  exact (multiResult_agrees_iff withinLimits_sampleItems outputsFooted cursorsFooted).mpr
    fun _ => by decide

/-- An output text that starts with U+FEFF comes back without it. -/
theorem multiResult_markedOutput :
    WithinLimits sampleItems ∧ Parseable noLibrary sampleItems ∧
      ∃ withOutputs withCursors,
        RowBufferEncoder.appendOutputFooter (encodeMulti sampleItems) [.string "\uFEFFid"] =
          (.ok withOutputs : Except (Fault EncodeError) Bytes) ∧
        RowBufferEncoder.appendRefCursorFooter (encodeMulti sampleItems) [] =
          (.ok withCursors : Except (Fault EncodeError) Bytes) ∧
        parseMultiWithOutputs noLibrary (.fromList withOutputs) =
          .ok ([.resultSet (receivedBuffer oneRow), .rowCount (-1)], [.string "id"]) ∧
        ¬ Agrees noLibrary sampleItems [.string "\uFEFFid"] withOutputs withCursors := by
  have read : parseMultiWithOutputs noLibrary (.fromList (encodeMulti sampleItems ++
      outputFooterBytes [.string "\uFEFFid"])) =
      .ok ([.resultSet (receivedBuffer oneRow), .rowCount (-1)], [.string "id"]) := by decide
  refine ⟨withinLimits_sampleItems, parseable_sampleItems, _, _, rfl, rfl, read, ?_⟩
  intro agrees
  obtain ⟨delivered, -, -, -, values, -⟩ := agrees.dart parseable_sampleItems
  have same := read.symm.trans values
  rw [Except.ok.injEq, Prod.mk.injEq] at same
  have texts := same.2
  revert texts
  decide

end OdbcFast.Verification
