import OdbcFast.Wire.Utf8

/-!
# Typed byte lists

A `Uint8List` is a window onto a byte buffer. `sublistView` moves the window and
keeps the buffer; `sublist` and `fromList` copy. Indexing and
`ByteData.sublistView` are relative to the window, while `data.buffer` is the
whole buffer whatever the window is. Keeping the two apart matters: a reader that
takes words from `data.buffer` and bytes from `data` sees two different strings
as soon as the window does not start at zero.
-/

namespace OdbcFast.Dart

open Wire

/-- What the parsers throw. -/
inductive DartError where
  | formatException (message : String)
  | rangeError
  deriving DecidableEq, Repr

structure Uint8List where
  buffer : Bytes
  offsetInBytes : Nat
  length : Nat
  inBounds : offsetInBytes + length ≤ buffer.length
  deriving DecidableEq, Repr

namespace Uint8List

/-- The bytes inside the window. -/
def bytes (data : Uint8List) : Bytes := (data.buffer.drop data.offsetInBytes).take data.length

/-- A fresh list owns its whole buffer. -/
def fromList (bytes : Bytes) : Uint8List := ⟨bytes, 0, bytes.length, Nat.le_of_eq (Nat.zero_add _)⟩

def sublistView (data : Uint8List) (start stop : Nat) : Except DartError Uint8List :=
  if inside : start ≤ stop ∧ stop ≤ data.length then
    .ok ⟨data.buffer, data.offsetInBytes + start, stop - start, by
      have := data.inBounds
      omega⟩
  else .error .rangeError

/-- The bytes of a copied range. -/
def sublist (data : Uint8List) (start stop : Nat) : Except DartError Bytes :=
  if start ≤ stop ∧ stop ≤ data.length then .ok ((data.bytes.drop start).take (stop - start))
  else .error .rangeError

/-- `data.buffer.asByteData().getUint…`: the window does not enter. -/
def bufferWord (width : Nat) (data : Uint8List) (offset : Nat) : Except DartError Nat :=
  if offset + width ≤ data.buffer.length then .ok (readLe width data.buffer offset)
  else .error .rangeError

@[simp] theorem length_bytes (data : Uint8List) : data.bytes.length = data.length := by
  have := data.inBounds
  rw [bytes, List.length_take, List.length_drop]
  omega

@[simp] theorem bytes_fromList (bytes : Bytes) : (fromList bytes).bytes = bytes := by
  simp [fromList, Uint8List.bytes]

@[simp] theorem length_fromList (bytes : Bytes) : (fromList bytes).length = bytes.length := rfl

@[simp] theorem buffer_fromList (bytes : Bytes) : (fromList bytes).buffer = bytes := rfl

/-- A window at the front of a list sees a prefix of it. -/
theorem sublistView_zero (data : Uint8List) {stop : Nat} (inside : stop ≤ data.length) :
    ∃ view, data.sublistView 0 stop = .ok view ∧ view.buffer = data.buffer ∧
      view.bytes = data.bytes.take stop := by
  refine ⟨_, dif_pos ⟨Nat.zero_le _, inside⟩, rfl, ?_⟩
  simp only [Uint8List.bytes, Nat.add_zero, Nat.sub_zero, List.take_take,
    Nat.min_eq_left inside]

/-- Adding the window's own offset reads the window's word. -/
theorem bufferWord_offsetInBytes {data : Uint8List} {width offset : Nat}
    (inside : offset + width ≤ data.length) :
    data.bufferWord width (data.offsetInBytes + offset) = .ok (readLe width data.bytes offset) := by
  have inBounds := data.inBounds
  rw [bufferWord, if_pos (by omega), readLe, readLe, bytes, List.drop_take, List.take_take,
    List.drop_drop, Nat.min_eq_left (by omega)]

theorem sublistView_of_occursAt {data : Uint8List} {piece : Bytes} {start : Nat}
    (there : OccursAt piece start data.bytes) :
    ∃ view, data.sublistView start (start + piece.length) = .ok view ∧
      view.buffer = data.buffer ∧ view.bytes = piece := by
  have room := there.le_length
  rw [length_bytes] at room
  refine ⟨_, dif_pos ⟨Nat.le_add_right _ _, room⟩, rfl, ?_⟩
  have found := there.take_drop
  rw [Uint8List.bytes, List.drop_take, List.take_take, List.drop_drop] at found
  simp only [Uint8List.bytes, Nat.add_sub_cancel_left]
  rwa [Nat.min_eq_left (by omega)] at found

theorem sublist_of_occursAt {data : Uint8List} {piece : Bytes} {start : Nat}
    (there : OccursAt piece start data.bytes) :
    data.sublist start (start + piece.length) = .ok piece := by
  have room := there.le_length
  rw [length_bytes] at room
  rw [sublist, if_pos ⟨Nat.le_add_right _ _, room⟩, Nat.add_sub_cancel_left, there.take_drop]

end Uint8List

/-- `getInt32` and `getInt64`: the signed reading of a little-endian word. -/
def signed (width : Nat) (n : Nat) : Int :=
  if n < 2 ^ (8 * width - 1) then n else (n : Int) - 2 ^ (8 * width)

end OdbcFast.Dart
