import OdbcFast.Dart.MultiResultParser
import OdbcFast.Native.Engine.Framing

/-!
# The incremental decoder of a streamed batch

`MultiResultStreamDecoder` keeps the bytes of an unfinished frame between two calls
of `feed`. One call walks an offset over a snapshot of the buffer, and only when the
walk is over the buffer is rebuilt from what is left; a frame that throws leaves
everything in the buffer.
-/

namespace OdbcFast.Dart

open Wire

structure MultiResultStreamDecoder where
  buffer : Bytes := []
  itemsDecoded : Nat := 0
  deriving DecidableEq, Repr

namespace MultiResultStreamDecoder

open MultiResultParser (tagResultSet tagRowCount deliver)

/-- Tag and length. -/
def frameHeaderSize : Nat := 5

def pendingBytes (decoder : MultiResultStreamDecoder) : Nat := decoder.buffer.length

def assertExhausted (decoder : MultiResultStreamDecoder) : Except DartError Unit :=
  if decoder.buffer.length ≠ 0 then
    .error (.formatException (s!"MultiResultStreamDecoder: {decoder.buffer.length} " ++
      "trailing bytes after end-of-stream"))
  else .ok ()

/-- The switch over the tag of a complete frame. -/
def itemOfTag (library : DecompressLibrary) (tag : UInt8) (payload : Bytes) (offset : Nat) :
    Except DartError MultiResultItem :=
  if tag = tagResultSet then
    (BinaryProtocolParser.parse library (.fromList payload)).map .resultSet
  else if tag = tagRowCount then
    if payload.length ≠ 8 then
      .error (.formatException ("Streaming multi-result: RowCount frame expected 8-byte " ++
        s!"payload, got {payload.length}"))
    else .ok (.rowCount (signed 8 (readLe 8 payload 0)))
  else
    .error (.formatException
      s!"Streaming multi-result: unknown frame tag {tag.toNat} at offset {offset}")

/-- The loop over complete frames; returns the items with the offset it stopped at. -/
def drainFrom (library : DecompressLibrary) (bytes : Uint8List) (offset : Nat) :
    Except DartError (List MultiResultItem × Nat) :=
  if bytes.length - offset < frameHeaderSize then .ok ([], offset)
  else
    let len := readLe 4 bytes.bytes (offset + 1)
    let frameEnd := offset + frameHeaderSize + len
    if frameEnd > bytes.length then .ok ([], offset)
    else do
      let payload ← bytes.sublistView (offset + frameHeaderSize) frameEnd
      let item ← itemOfTag library (bytes.bytes[offset]?.getD 0) payload.bytes offset
      let (items, stopped) ← drainFrom library bytes frameEnd
      .ok (item :: items, stopped)
termination_by bytes.length - offset
decreasing_by
  simp only [frameHeaderSize] at *
  omega

/-- `_drainCompleteFrames`. -/
def drainCompleteFrames (library : DecompressLibrary) (decoder : MultiResultStreamDecoder) :
    Except DartError (List MultiResultItem) × MultiResultStreamDecoder :=
  match drainFrom library (.fromList decoder.buffer) 0 with
  | .error error => (.error error, decoder)
  | .ok (items, offset) =>
    (.ok items,
      { buffer := if offset < decoder.buffer.length then decoder.buffer.drop offset else []
        itemsDecoded := decoder.itemsDecoded + items.length })

def feed (library : DecompressLibrary) (decoder : MultiResultStreamDecoder) (chunk : Uint8List) :
    Except DartError (List MultiResultItem) × MultiResultStreamDecoder :=
  if chunk.length = 0 then (.ok [], decoder)
  else drainCompleteFrames library { decoder with buffer := decoder.buffer ++ chunk.bytes }

/-- Feeding chunks in order until one throws. -/
def feedAll (library : DecompressLibrary) (decoder : MultiResultStreamDecoder) :
    List Uint8List → Except DartError (List MultiResultItem) × MultiResultStreamDecoder
  | [] => (.ok [], decoder)
  | chunk :: chunks =>
    match feed library decoder chunk with
    | (.error error, decoder) => (.error error, decoder)
    | (.ok items, decoder) =>
      let (later, decoder) := feedAll library decoder chunks
      (later.map (items ++ ·), decoder)

/-! ## The decoder as a reader of frames -/

section

open Native.Streaming (itemFraming itemFraming_size?_eq_some frameOf frameOf_eq_ok)
open Native.MultiResult (itemBytes payload)

variable {library : DecompressLibrary} {bytes : Uint8List} {offset : Nat}
  {items : List MultiResultItem}

/-- The item of a frame that stands by itself. -/
def itemOfFrame (library : DecompressLibrary) (frame : Bytes) : Except DartError MultiResultItem :=
  itemOfTag library (frame[0]?.getD 0) (frame.drop frameHeaderSize) 0

/-- Only the text of an error depends on where the frame stands. -/
theorem itemOfTag_eq_ok {tag : UInt8} {payload : Bytes} {item : MultiResultItem}
    (read : itemOfTag library tag payload 0 = .ok item) (offset : Nat) :
    itemOfTag library tag payload offset = .ok item := by
  rw [itemOfTag] at read ⊢
  split_ifs at read ⊢ <;> assumption

theorem itemOfFrame_of_frameOf {item : Native.MultiResultItem} {delivered : MultiResultItem}
    {frame : Bytes} (framed : frameOf item = .ok frame)
    (parsed : deliver library item = .ok delivered) :
    itemOfFrame library frame = .ok delivered := by
  obtain ⟨-, rfl⟩ := frameOf_eq_ok.mp framed
  have content : (itemBytes item).drop frameHeaderSize = payload item := by
    rw [itemBytes, ← List.append_assoc]
    exact List.drop_left' (by simp [frameHeaderSize])
  rw [itemOfFrame, content]
  cases item with
  | resultSet buf => exact parsed
  | rowCount n =>
      cases parsed
      have value : readLe 8 (Native.i64Bytes n) 0 = n.toBitVec.toNat :=
        OccursAt.readLe (OccursAt.refl _) n.toBitVec.isLt
      have int : signed 8 n.toBitVec.toNat = n.toInt :=
        signed_toNat 8 (by decide) n.toBitVec
      have isCount : (itemBytes (.rowCount n))[0]?.getD 0 = tagRowCount := rfl
      rw [isCount, itemOfTag, if_neg (by decide), if_pos rfl]
      simp only [payload, Native.length_i64Bytes]
      rw [if_neg (by simp), value, int]

/-- The frame cut from a snapshot is read from the snapshot's own tag and payload. -/
theorem itemOfFrame_take (len : Nat) :
    itemOfFrame library ((bytes.bytes.drop offset).take (5 + len)) =
      itemOfTag library (bytes.bytes[offset]?.getD 0)
        ((bytes.bytes.drop (offset + 5)).take len) 0 := by
  rw [itemOfFrame, frameHeaderSize, List.getElem?_take_of_lt (by omega), List.getElem?_drop,
    Nat.add_zero, List.drop_take, List.drop_drop, Nat.add_sub_cancel_left]

theorem readLe_drop_one (bytes : Bytes) (offset : Nat) :
    readLe 4 (bytes.drop offset) 1 = readLe 4 bytes (offset + 1) := by
  rw [readLe, readLe, List.drop_drop]

/-- The walk stops where no frame is complete. -/
theorem drainFrom_of_unfinished (waiting : itemFraming.Unfinished (bytes.bytes.drop offset)) :
    drainFrom library bytes offset = .ok ([], offset) := by
  have length : (bytes.bytes.drop offset).length = bytes.length - offset := by simp
  rw [drainFrom]
  by_cases short : bytes.length - offset < frameHeaderSize
  · rw [if_pos short]
  · rw [if_neg short]
    rw [frameHeaderSize] at short
    have size := waiting _ (itemFraming_size?_eq_some.mpr ⟨by omega, rfl⟩)
    rw [length, readLe_drop_one] at size
    simp only
    rw [if_pos (by rw [frameHeaderSize]; omega)]

/-- One turn of the walk takes the frame at the offset. -/
theorem drainFrom_of_size {n stopped : Nat} {item : MultiResultItem}
    (found : itemFraming.size? (bytes.bytes.drop offset) = some n)
    (there : n ≤ (bytes.bytes.drop offset).length)
    (head : itemOfFrame library ((bytes.bytes.drop offset).take n) = .ok item)
    (tail : drainFrom library bytes (offset + n) = .ok (items, stopped)) :
    drainFrom library bytes offset = .ok (item :: items, stopped) := by
  obtain ⟨long, rfl⟩ := itemFraming_size?_eq_some.mp found
  have length : (bytes.bytes.drop offset).length = bytes.length - offset := by simp
  rw [readLe_drop_one] at there head tail
  rw [length] at long there
  have inside : offset + 5 + readLe 4 bytes.bytes (offset + 1) ≤ bytes.bytes.length := by
    rw [Uint8List.length_bytes]
    omega
  have here := itemOfTag_eq_ok (itemOfFrame_take _ ▸ head) offset
  obtain ⟨view, cut, -, content⟩ :=
    Uint8List.sublistView_of_occursAt (OccursAt.of_take_drop inside)
  rw [List.length_take, List.length_drop, Nat.min_eq_left (by omega)] at cut
  rw [← Nat.add_assoc] at tail
  rw [← frameHeaderSize] at cut tail
  rw [drainFrom, if_neg (by rw [frameHeaderSize]; omega)]
  simp only
  rw [if_neg (by rw [frameHeaderSize]; omega), cut, ok_bind, content, here, ok_bind, tail,
    ok_bind]

/-- The walk over a snapshot delivers the frames that draining cuts, and stops behind
the last of them. -/
theorem drainFrom_eq_ok (bytes : Uint8List) (offset : Nat)
    (read : (itemFraming.drain (bytes.bytes.drop offset)).1.mapM (itemOfFrame library) =
      .ok items) :
    drainFrom library bytes offset =
      .ok (items, offset + (itemFraming.drain (bytes.bytes.drop offset)).1.flatten.length) := by
  induction snapshot : bytes.bytes.drop offset using itemFraming.drain_induction
      generalizing offset items with
  | unfinished stream waiting =>
      subst snapshot
      rw [Framing.drain_of_unfinished waiting] at read ⊢
      cases read
      exact drainFrom_of_unfinished waiting
  | frame stream n found there ih =>
      subst snapshot
      rw [Framing.drain_of_size found there, List.mapM_cons] at read
      obtain ⟨item, head, read⟩ := bind_eq_ok.mp read
      obtain ⟨later, tail, read⟩ := bind_eq_ok.mp read
      cases read
      rw [List.drop_drop] at ih tail
      have rest := drainFrom_of_size found there head (ih (offset + n) tail rfl)
      rw [rest, Framing.drain_of_size found there, List.drop_drop, List.flatten_cons,
        List.length_append, List.length_take, Nat.min_eq_left there, Nat.add_assoc]

variable {decoder : MultiResultStreamDecoder}

theorem drainCompleteFrames_eq
    (read : (itemFraming.drain decoder.buffer).1.mapM (itemOfFrame library) = .ok items) :
    drainCompleteFrames library decoder =
      (.ok items, ⟨(itemFraming.drain decoder.buffer).2,
        decoder.itemsDecoded + items.length⟩) := by
  have walked := drainFrom_eq_ok (.fromList decoder.buffer) 0
    (by rwa [Uint8List.bytes_fromList, List.drop_zero])
  rw [Uint8List.bytes_fromList, List.drop_zero, Nat.zero_add] at walked
  have whole := itemFraming.flatten_drain decoder.buffer
  have left : decoder.buffer.drop (itemFraming.drain decoder.buffer).1.flatten.length =
      (itemFraming.drain decoder.buffer).2 :=
    calc decoder.buffer.drop (itemFraming.drain decoder.buffer).1.flatten.length
        = ((itemFraming.drain decoder.buffer).1.flatten ++
            (itemFraming.drain decoder.buffer).2).drop
              (itemFraming.drain decoder.buffer).1.flatten.length := by rw [whole]
      _ = (itemFraming.drain decoder.buffer).2 := List.drop_left
  rw [drainCompleteFrames, walked]
  simp only [left]
  split_ifs with more
  · rfl
  · rw [List.drop_eq_nil_of_le (Nat.le_of_not_lt more)] at left
    rw [← left]

/-- A call of `feed` drains the pending bytes with the chunk; the shortcut for an empty
chunk changes nothing, since what is pending holds no finished frame. -/
theorem feed_eq {chunk : Uint8List} (waiting : itemFraming.Unfinished decoder.buffer)
    (read : (itemFraming.drain (decoder.buffer ++ chunk.bytes)).1.mapM (itemOfFrame library) =
      .ok items) :
    feed library decoder chunk =
      (.ok items, ⟨(itemFraming.drain (decoder.buffer ++ chunk.bytes)).2,
        decoder.itemsDecoded + items.length⟩) := by
  rw [feed]
  split_ifs with empty
  · have none : chunk.bytes = [] := List.eq_nil_of_length_eq_zero (by simpa using empty)
    rw [none, List.append_nil, Framing.drain_of_unfinished waiting] at read ⊢
    cases read
    rfl
  · exact drainCompleteFrames_eq read

theorem feedAll_eq {chunks : List Uint8List} (waiting : itemFraming.Unfinished decoder.buffer)
    (read : (itemFraming.feedAll decoder.buffer (chunks.map Uint8List.bytes)).1.mapM
      (itemOfFrame library) = .ok items) :
    feedAll library decoder chunks =
      (.ok items, ⟨(itemFraming.feedAll decoder.buffer (chunks.map Uint8List.bytes)).2,
        decoder.itemsDecoded + items.length⟩) := by
  induction chunks generalizing decoder items with
  | nil =>
      cases read
      rfl
  | cons chunk chunks ih =>
      simp only [List.map_cons, Framing.feedAll, List.mapM_append] at read
      obtain ⟨now, readNow, read⟩ := bind_eq_ok.mp read
      obtain ⟨later, readLater, read⟩ := bind_eq_ok.mp read
      cases read
      have rest : feedAll library ⟨(itemFraming.drain (decoder.buffer ++ chunk.bytes)).2,
          decoder.itemsDecoded + now.length⟩ chunks = _ :=
        ih (itemFraming.unfinished_drain _) readLater
      rw [feedAll, feed_eq waiting readNow]
      simp only [rest, List.map_cons, Framing.feedAll, List.length_append, Nat.add_assoc]
      rfl

end

end MultiResultStreamDecoder

end OdbcFast.Dart
