import OdbcFast.Dart.Trailers
import OdbcFast.Native.Protocol.MultiResult

/-!
# Multi-result envelopes in Dart

`MultiResultParser` walks the items of an envelope. Each result set is copied into
a list of its own before it is parsed, so the row-major reader sees it at the start
of its buffer. `parse` stops behind the last item; `parseMultiWithOutputs` goes on
to an `OUT1` footer if one follows.
-/

namespace OdbcFast.Dart

open Wire

inductive MultiResultItem where
  | resultSet (value : ParsedRowBuffer)
  | rowCount (value : Int)
  deriving DecidableEq, Repr

namespace MultiResultParser

open BinaryProtocolParser (radix16 outputFooterMagic)

def multiResultMagic : Nat := 0x544C554D
def multiResultVersionV2 : Nat := 2
def headerV2Len : Nat := 12
def tagResultSet : UInt8 := 0
def tagRowCount : UInt8 := 1
def headerSize : Nat := 4
def itemHeaderSize : Nat := 5

def readItem (library : DecompressLibrary) (data : Uint8List) (offset : Nat) :
    Except DartError (MultiResultItem × Nat) :=
  if offset + itemHeaderSize > data.length then
    .error (.formatException "Multi-result buffer truncated at item header")
  else
    let tag := data.bytes[offset]?.getD 0
    if tag ≠ tagResultSet ∧ tag ≠ tagRowCount then
      .error (.formatException s!"Unknown multi-result item tag: {tag.toNat}")
    else
      let length := readLe 4 data.bytes (offset + 1)
      if offset + 5 + length > data.length then
        .error (.formatException "Multi-result buffer truncated at item payload")
      else do
        let payload ← data.sublist (offset + 5) (offset + 5 + length)
        if tag = tagResultSet then
          let resultSet ← BinaryProtocolParser.parse library (.fromList payload)
          .ok (.resultSet resultSet, offset + 5 + length)
        else if length ≠ 8 then
          .error (.formatException "RowCount item expected 8-byte payload")
        else .ok (.rowCount (signed 8 (readLe 8 data.bytes (offset + 5))), offset + 5 + length)

/-- The item loop, which the source has once in `_parseItems` and once inline. -/
def readItems (library : DecompressLibrary) (data : Uint8List) :
    Nat → Nat → Except DartError (List MultiResultItem × Nat)
  | 0, offset => .ok ([], offset)
  | count + 1, offset => do
      let (item, offset) ← readItem library data offset
      let (items, offset) ← readItems library data count offset
      .ok (item :: items, offset)

/-- `_parseItems`. -/
def parseItems (library : DecompressLibrary) (data : Uint8List) (initialOffset itemCount : Nat) :
    Except DartError (List MultiResultItem) := do
  let (items, _) ← readItems library data itemCount initialOffset
  .ok items

def unsupportedVersion (version : Nat) : DartError :=
  .formatException (s!"Unsupported multi-result version: {version} " ++
    s!"(expected {multiResultVersionV2})")

/-- `_parseV1`. -/
def parseV1 (library : DecompressLibrary) (data : Uint8List) :
    Except DartError (List MultiResultItem) :=
  if data.length < headerSize then
    .error (.formatException "Buffer too small for multi-result header")
  else parseItems library data headerSize (readLe 4 data.bytes 0)

/-- `_parseV2`. -/
def parseV2 (library : DecompressLibrary) (data : Uint8List) :
    Except DartError (List MultiResultItem) :=
  if data.length < headerV2Len then
    .error (.formatException "Buffer too small for multi-result v2 header")
  else if readLe 2 data.bytes 4 ≠ multiResultVersionV2 then
    .error (unsupportedVersion (readLe 2 data.bytes 4))
  else parseItems library data headerV2Len (readLe 4 data.bytes 8)

def parse (library : DecompressLibrary) (data : Uint8List) :
    Except DartError (List MultiResultItem) :=
  if data.length ≥ 4 ∧ readLe 4 data.bytes 0 = multiResultMagic then parseV2 library data
  else parseV1 library data

def parseMultiWithOutputs (library : DecompressLibrary) (data : Uint8List) :
    Except DartError (List MultiResultItem × List ParamValue) :=
  if data.length < headerV2Len then
    .error (.formatException "Buffer too small for MULT + OUT1 header")
  else if readLe 4 data.bytes 0 ≠ multiResultMagic then
    .error (.formatException (s!"Expected MULT magic 0x{radix16 multiResultMagic}, " ++
      s!"got 0x{radix16 (readLe 4 data.bytes 0)}"))
  else if readLe 2 data.bytes 4 ≠ multiResultVersionV2 then
    .error (unsupportedVersion (readLe 2 data.bytes 4))
  else do
    let (items, offset) ← readItems library data (readLe 4 data.bytes 8) headerV2Len
    if offset + 8 ≤ data.length ∧ readLe 4 data.bytes offset = outputFooterMagic then
      let (outputs, _) ← BinaryProtocolParser.readOutputs data (readLe 4 data.bytes (offset + 4))
        (offset + 8)
      .ok (items, outputs)
    else .ok (items, [])

/-! ## Items written by the engine -/

/-- What becomes of an item: the parsed result set, or the count. -/
def deliver (library : DecompressLibrary) :
    Native.MultiResultItem → Except DartError MultiResultItem
  | .resultSet payload =>
      (BinaryProtocolParser.parse library (.fromList payload)).map .resultSet
  | .rowCount n => .ok (.rowCount n.toInt)

section

open Native.MultiResult (itemBytes encodeItems encodeMulti payload length_itemBytes)

variable {library : DecompressLibrary} {data : Uint8List} {offset : Nat}

theorem readItem_of_occursAt {item : Native.MultiResultItem} {delivered : MultiResultItem}
    (there : OccursAt (itemBytes item) offset data.bytes)
    (fits : (payload item).length < 256 ^ 4)
    (parsed : deliver library item = .ok delivered) :
    readItem library data offset = .ok (delivered, offset + (itemBytes item).length) := by
  have room := there.le_length
  rw [length_itemBytes, Uint8List.length_bytes] at room
  obtain ⟨tagged, there⟩ := OccursAt.append_iff.mp there
  obtain ⟨measured, filled⟩ := OccursAt.append_iff.mp there
  rw [length_toLeBytes] at filled
  have tag : data.bytes[offset]? = some (Native.MultiResult.tag item) := tagged.getElem?
  have length : readLe 4 data.bytes (offset + 1) = (payload item).length := measured.readLe fits
  have content : data.sublist (offset + 5) (offset + 5 + (payload item).length) =
      .ok (payload item) := Uint8List.sublist_of_occursAt filled
  rw [readItem, if_neg (by rw [itemHeaderSize]; omega)]
  simp only [tag, Option.getD_some, length]
  rw [length_itemBytes]
  cases item with
  | resultSet buf =>
      obtain ⟨result, read, rfl⟩ := map_eq_ok.mp parsed
      have isSet : Native.MultiResult.tag (.resultSet buf) = tagResultSet := rfl
      rw [if_neg (fun both => both.1 isSet), if_neg (by omega), content, ok_bind, if_pos isSet]
      simp only [Native.MultiResult.payload]
      rw [read, ok_bind, Nat.add_assoc]
  | rowCount n =>
      cases parsed
      have word : OccursAt (toLeBytes 8 n.toBitVec.toNat) (offset + 5) data.bytes := filled
      have value := word.readLe n.toBitVec.isLt
      have int : signed 8 n.toBitVec.toNat = n.toInt :=
        signed_toNat 8 (by decide) n.toBitVec
      have isCount : Native.MultiResult.tag (.rowCount n) = tagRowCount := rfl
      rw [if_neg (fun both => both.2 isCount), if_neg (by omega), content, ok_bind,
        if_neg (by rw [isCount]; decide)]
      simp only [Native.MultiResult.payload, Native.length_i64Bytes]
      rw [if_neg (by simp), value, int]

theorem readItems_of_occursAt {items : List Native.MultiResultItem}
    {delivered : List MultiResultItem}
    (there : OccursAt (encodeItems items) offset data.bytes)
    (fits : ∀ item ∈ items, (payload item).length < 256 ^ 4)
    (parsed : items.mapM (deliver library) = .ok delivered) :
    readItems library data items.length offset =
      .ok (delivered, offset + (encodeItems items).length) := by
  induction items generalizing offset delivered with
  | nil =>
      cases parsed
      rfl
  | cons item items ih =>
      obtain ⟨fit, fits⟩ := List.forall_mem_cons.mp fits
      rw [List.mapM_cons] at parsed
      obtain ⟨first, parsedHead, parsed⟩ := bind_eq_ok.mp parsed
      obtain ⟨rest, parsedTail, parsed⟩ := bind_eq_ok.mp parsed
      cases parsed
      rw [encodeItems, List.flatMap_cons] at there
      obtain ⟨here, later⟩ := OccursAt.append_iff.mp there
      have head := readItem_of_occursAt here fit parsedHead
      have tail := ih later fits parsedTail
      rw [List.length_cons, readItems, head, ok_bind]
      simp only [tail, ok_bind, encodeItems, List.flatMap_cons, List.length_append,
        ← Nat.add_assoc]

end

end MultiResultParser

end OdbcFast.Dart
