import OdbcFast.Native.Protocol.MultiResult
import OdbcFast.Wire.Framing

/-!
# Item frames of a streamed batch

A streamed batch sends every item by itself as tag, length and payload. The length
is checked, so unlike the item of an envelope a frame always declares what it holds.
-/

namespace OdbcFast.Native

open Wire

namespace Streaming

def multiStreamItemTagResultSet : UInt8 := 0
def multiStreamItemTagRowCount : UInt8 := 1

def frameItem (tag : UInt8) (payload : Bytes) : Except OdbcError Bytes :=
  if payload.length ≥ 2 ^ 32 then
    .error (.resourceLimitReached
      s!"multi-result stream item payload exceeds u32: {payload.length}")
  else if payload.length + 5 ≥ 2 ^ 64 then
    .error (.resourceLimitReached "stream item size overflow")
  else .ok ([tag] ++ (toLeBytes 4 payload.length ++ payload))

/-- The frame of an item: the tag says whether a result set or a count follows. -/
def frameOf : MultiResultItem → Except OdbcError Bytes
  | .resultSet payload => frameItem multiStreamItemTagResultSet payload
  | .rowCount n => frameItem multiStreamItemTagRowCount (i64Bytes n)

theorem frameItem_eq_ok {tag : UInt8} {payload frame : Bytes} :
    frameItem tag payload = .ok frame ↔
      payload.length < 256 ^ 4 ∧ frame = [tag] ++ (toLeBytes 4 payload.length ++ payload) := by
  rw [frameItem, show (256 : Nat) ^ 4 = 2 ^ 32 by decide]
  split_ifs with large huge
  · constructor
    · intro framed
      cases framed
    · rintro ⟨fits, -⟩
      exact absurd fits (Nat.not_lt.mpr large)
  · omega
  · rw [Except.ok.injEq, eq_comm, and_iff_right (Nat.lt_of_not_le large)]

open MultiResult (itemBytes payload)

/-- A frame has the layout of an item in an envelope, with a length that fits. -/
theorem frameOf_eq_ok {item : MultiResultItem} {frame : Bytes} :
    frameOf item = .ok frame ↔ (payload item).length < 256 ^ 4 ∧ frame = itemBytes item := by
  cases item <;> exact frameItem_eq_ok

/-- The framing of the stream: five bytes tell the length. -/
def itemFraming : Framing UInt8 where
  size? stream := if 5 ≤ stream.length then some (5 + readLe 4 stream 1) else none
  size_pos := by
    intro stream n found
    obtain ⟨-, size⟩ := Option.ite_none_right_eq_some.mp found
    rw [Option.some.injEq] at size
    omega
  size_append := by
    intro stream n more found
    obtain ⟨long, size⟩ := Option.ite_none_right_eq_some.mp found
    rw [List.length_append, if_pos (by omega), readLe_append more (by omega), size]

theorem itemFraming_size?_eq_some {stream : Bytes} {n : Nat} :
    itemFraming.size? stream = some n ↔ 5 ≤ stream.length ∧ 5 + readLe 4 stream 1 = n :=
  Option.ite_none_right_eq_some.trans (and_congr_right' Option.some_inj)

theorem isFrame_frameOf {item : MultiResultItem} {frame : Bytes}
    (framed : frameOf item = .ok frame) : itemFraming.IsFrame frame := by
  obtain ⟨fits, rfl⟩ := frameOf_eq_ok.mp framed
  obtain ⟨-, there⟩ := OccursAt.append_iff.mp (OccursAt.refl (itemBytes item))
  obtain ⟨measured, -⟩ := OccursAt.append_iff.mp there
  have length : readLe 4 (itemBytes item) 1 = (payload item).length := measured.readLe fits
  rw [Framing.IsFrame, itemFraming_size?_eq_some, length, MultiResult.length_itemBytes]
  omega

end Streaming

end OdbcFast.Native
