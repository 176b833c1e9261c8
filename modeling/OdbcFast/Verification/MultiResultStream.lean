import OdbcFast.Dart.MultiResultStreamDecoder
import OdbcFast.Verification.MultiResult

/-!
# Streamed batches end to end

The frames of a batch reach the Dart side in chunks cut anywhere. Whatever the cuts,
the incremental decoder delivers the batch's items in order, each once, and holds
nothing back; a stream that stops inside a frame delivers the frames before it and
is reported.
-/

namespace OdbcFast.Verification

open Wire Native Streaming
open OdbcFast.Dart MultiResultStreamDecoder
open MultiResultParser (deliver)

section

variable {library : DecompressLibrary} {items : List Native.MultiResultItem}
  {frames : List Bytes} {delivered : List Dart.MultiResultItem} {chunks : List Uint8List}

/-- Result sets that the engine encoded from a cursor's rows can be parsed. -/
theorem parseable_of_tryEncode (encoded : ∀ payload, .resultSet payload ∈ items →
      ∃ buffer : RowBuffer, buffer.Rectangular ∧
        RowBufferEncoder.tryEncode buffer = .ok payload) :
    Parseable library items := by
  intro payload member
  obtain ⟨buffer, rectangular, written⟩ := encoded payload member
  obtain ⟨encodable, rfl⟩ := RowBufferEncoder.tryEncode_eq_ok written
  exact ⟨_, parse_messageBytes rectangular encodable⟩

/-- Each frame is one frame and holds the item it was made from. -/
theorem forall₂_itemOfFrame (framed : items.mapM frameOf = .ok frames)
    (parsed : items.mapM (deliver library) = .ok delivered) :
    List.Forall₂ (fun frame item => itemFraming.IsFrame frame ∧
      itemOfFrame library frame = .ok item) frames delivered := by
  rw [mapM_eq_ok_iff] at framed parsed
  induction framed generalizing delivered with
  | nil =>
      cases parsed
      exact .nil
  | cons made framed ih =>
      cases parsed with
      | cons read parsed =>
          exact .cons ⟨isFrame_frameOf made, itemOfFrame_of_frameOf made read⟩ (ih parsed)

/-- Whatever the cuts: whole frames in front of an unfinished rest are delivered, the
rest is held back. -/
theorem feedAll_frames_append {rest : Bytes}
    (read : List.Forall₂ (fun frame item => itemFraming.IsFrame frame ∧
      itemOfFrame library frame = .ok item) frames delivered)
    (waiting : itemFraming.Unfinished rest)
    (sent : chunks.flatMap Uint8List.bytes = frames.flatten ++ rest) :
    feedAll library {} chunks = (.ok delivered, ⟨rest, delivered.length⟩) := by
  obtain ⟨whole, read⟩ := (List.forall₂_and_left _ _).mp read
  have cut : itemFraming.feedAll [] (chunks.map Uint8List.bytes) = (frames, rest) := by
    rw [Framing.feedAll_eq_drain itemFraming.unfinished_nil, List.nil_append, ← List.flatMap_def,
      sent, Framing.drain_frames_append whole waiting]
  have fed : feedAll library {} chunks = (.ok delivered, ⟨_, 0 + delivered.length⟩) :=
    feedAll_eq itemFraming.unfinished_nil (by rw [cut]; exact mapM_eq_ok_iff.mpr read)
  rw [fed, cut, Nat.zero_add]

/-- Every way of cutting the frames into chunks delivers the items in order, each once,
with nothing pending; a stream that ends inside a frame delivers the frames before it
and fails the final check. -/
theorem feedAll_frames (framed : items.mapM frameOf = .ok frames)
    (parseable : Parseable library items) :
    ∃ delivered, items.mapM (deliver library) = .ok delivered ∧
      (∀ chunks : List Uint8List, chunks.flatMap Uint8List.bytes = frames.flatten →
        ∃ decoder, feedAll library {} chunks = (.ok delivered, decoder) ∧
          decoder.pendingBytes = 0 ∧ decoder.assertExhausted = .ok ()) ∧
      ∀ (chunks : List Uint8List) (k : Nat) (part rest : Bytes),
        frames[k]? = some (part ++ rest) → part ≠ [] → rest ≠ [] →
        chunks.flatMap Uint8List.bytes = (frames.take k).flatten ++ part →
        ∃ decoder, feedAll library {} chunks = (.ok (delivered.take k), decoder) ∧
          decoder.pendingBytes = part.length ∧
          ∃ message, decoder.assertExhausted = .error (.formatException message) := by
  obtain ⟨delivered, parsed⟩ := parseable.mapM_deliver
  have read := forall₂_itemOfFrame framed parsed
  refine ⟨delivered, parsed, ?_, ?_⟩
  · intro chunks sent
    rw [← List.append_nil frames.flatten] at sent
    exact ⟨_, feedAll_frames_append read itemFraming.unfinished_nil sent, rfl, rfl⟩
  · intro chunks k part rest inside begun open' sent
    obtain ⟨whole, -⟩ := (List.forall₂_and_left _ _).mp read
    have waiting := Framing.unfinished_of_isFrame_append
      (whole _ (List.mem_of_getElem? inside)) open'
    refine ⟨_, feedAll_frames_append (List.forall₂_take k read) waiting sent, rfl, _, if_pos ?_⟩
    exact Nat.pos_iff_ne_zero.mp (List.length_pos_of_ne_nil begun)

end

def sampleFrames : List Bytes := sampleItems.map MultiResult.itemBytes

/-- The sample batch with a cut inside the first header and an empty chunk; the same
stream without its last byte. -/
theorem feedAll_frames_sampleItems :
    sampleItems.mapM frameOf = .ok sampleFrames ∧ Parseable noLibrary sampleItems ∧
      (∃ decoder, feedAll noLibrary {} [.fromList (sampleFrames.flatten.take 3), .fromList [],
          .fromList (sampleFrames.flatten.drop 3)] =
            (.ok [.resultSet (receivedBuffer oneRow), .rowCount (-1)], decoder) ∧
        decoder.pendingBytes = 0 ∧ decoder.assertExhausted = .ok ()) ∧
      ∃ decoder, feedAll noLibrary {} [.fromList sampleFrames.flatten.dropLast] =
            (.ok [.resultSet (receivedBuffer oneRow)], decoder) ∧
        decoder.pendingBytes = 12 ∧
        ∃ message, decoder.assertExhausted = .error (.formatException message) := by
  have framed : sampleItems.mapM frameOf = .ok sampleFrames := rfl
  have items : sampleItems.mapM (deliver noLibrary) =
      .ok [.resultSet (receivedBuffer oneRow), .rowCount (-1)] := by decide
  obtain ⟨delivered, parsed, full, cutShort⟩ :=
    feedAll_frames framed parseable_sampleItems
  obtain rfl := Except.ok.inj (items.symm.trans parsed)
  refine ⟨framed, parseable_sampleItems, full _ ?_, ?_⟩
  · simp
  · exact cutShort [.fromList sampleFrames.flatten.dropLast] 1
      ([1, 8, 0, 0, 0] ++ List.replicate 7 255) [255] (by decide) (by decide) (by decide)
      (by decide)

end OdbcFast.Verification
