import OdbcFast.Native.Protocol.Encoder

/-!
# Multi-result envelopes

A batch is sent as a list of items, each a tag, a length and a payload: a result
set in the row-major layout, or a row count. The current framing has a magic word,
a version and the count in front; the legacy one only the count. The decoder tells
them apart by the first word, which a count within the limit never equals.
-/

namespace OdbcFast.Native

open Wire

inductive MultiResultItem where
  | resultSet (payload : Bytes)
  | rowCount (count : Int64)
  deriving DecidableEq, Repr

namespace MultiResult

def multiResultMagic : Nat := 0x544C554D
def multiResultVersion : Nat := 2
def headerV2Len : Nat := 12
def minItemLen : Nat := 5
def maxMultiResultItems : Nat := 16384
def maxMultiResultPayload : Nat := 256 * 1024 * 1024

def tag : MultiResultItem → UInt8
  | .resultSet _ => 0
  | .rowCount _ => 1

/-- The bytes behind tag and length. -/
def payload : MultiResultItem → Bytes
  | .resultSet buf => buf
  | .rowCount n => i64Bytes n

/-- One item; the length is `as u32`, a conversion that wraps. -/
def itemBytes (item : MultiResultItem) : Bytes :=
  [tag item] ++ (toLeBytes 4 (payload item).length ++ payload item)

def encodeItems (items : List MultiResultItem) : Bytes := items.flatMap itemBytes

def encodeMulti (items : List MultiResultItem) : Bytes :=
  toLeBytes 4 multiResultMagic ++ (toLeBytes 2 multiResultVersion ++
    (toLeBytes 2 0 ++ (toLeBytes 4 items.length ++ encodeItems items)))

def encodeMultiV1 (items : List MultiResultItem) : Bytes :=
  toLeBytes 4 items.length ++ encodeItems items

def validateItemCount (data : Bytes) (offset count : Nat) : Except OdbcError Unit :=
  if count > maxMultiResultItems then
    .error (.validationError
      s!"Multi-result item count {count} exceeds limit {maxMultiResultItems}")
  else if count * minItemLen ≥ 2 ^ 64 then
    .error (.validationError "Multi-result count overflow")
  else if count * minItemLen > data.length - offset then
    .error (.validationError "Multi-result count exceeds available payload")
  else .ok ()

/-- The item of a tag with its payload. -/
def itemOf (tag : UInt8) (payload : Bytes) : Except OdbcError MultiResultItem :=
  if tag = 0 then .ok (.resultSet payload)
  else if tag = 1 then
    if payload.length ≠ 8 then
      .error (.validationError "RowCount item expected 8-byte payload")
    else .ok (.rowCount (Int64.ofBitVec (BitVec.ofNat 64 (ofLeBytes payload))))
  else .error (.validationError s!"Unknown multi-result item tag: {tag.toNat}")

def decodeItem (data : Bytes) (offset : Nat) : Except OdbcError (MultiResultItem × Nat) :=
  match data[offset]? with
  | none => .error (.validationError "Multi-result buffer truncated at item")
  | some tag =>
    if offset + 1 + 4 > data.length then
      .error (.validationError "Multi-result buffer truncated at item length")
    else
      let len := readLe 4 data (offset + 1)
      if len > maxMultiResultPayload then
        .error (.validationError
          s!"Multi-result item payload {len} exceeds limit {maxMultiResultPayload}")
      else if offset + 5 + len ≥ 2 ^ 64 then
        .error (.validationError "Multi-result payload offset overflow")
      else if offset + 5 + len > data.length then
        .error (.validationError "Multi-result buffer truncated at item payload")
      else do
        let item ← itemOf tag ((data.drop (offset + 5)).take len)
        .ok (item, offset + 5 + len)

/-- The loop over the items; returns them with the next offset. -/
def readItems (data : Bytes) : Nat → Nat → Except OdbcError (List MultiResultItem × Nat)
  | 0, offset => .ok ([], offset)
  | count + 1, offset => do
      let (item, offset) ← decodeItem data offset
      let (items, offset) ← readItems data count offset
      .ok (item :: items, offset)

def isKnownFooter (data : Bytes) : Bool :=
  outputFooterMagic.isPrefixOf data || refCursorFooterMagic.isPrefixOf data

def decodeItems (data : Bytes) (offset count : Nat) (rejectTrailing : Bool) :
    Except OdbcError (List MultiResultItem) := do
  validateItemCount data offset count
  let (items, offset) ← readItems data count offset
  if rejectTrailing ∧ offset ≠ data.length ∧ ¬ isKnownFooter (data.drop offset) then
    .error (.validationError "Multi-result v2 buffer has trailing bytes")
  else .ok items

def decodeMultiV2 (data : Bytes) : Except OdbcError (List MultiResultItem) :=
  if data.length < headerV2Len then
    .error (.validationError "Multi-result v2 buffer too short for header")
  else if readLe 2 data 4 ≠ multiResultVersion then
    .error (.validationError
      (s!"Unsupported multi-result version: {readLe 2 data 4} " ++
        s!"(expected {multiResultVersion})"))
  else decodeItems data headerV2Len (readLe 4 data 8) true

def decodeMultiV1 (data : Bytes) : Except OdbcError (List MultiResultItem) :=
  if data.length < 4 then
    .error (.validationError "Multi-result buffer too short for count")
  else decodeItems data 4 (readLe 4 data 0) false

def decodeMulti (data : Bytes) : Except OdbcError (List MultiResultItem) :=
  if data.length ≥ 4 ∧ readLe 4 data 0 = multiResultMagic then decodeMultiV2 data
  else decodeMultiV1 data

/-! ## Reading items back -/

/-- What the decoder asks of a list of items. -/
structure WithinLimits (items : List MultiResultItem) : Prop where
  count : items.length ≤ maxMultiResultItems
  payloads : ∀ item ∈ items, (payload item).length ≤ maxMultiResultPayload

theorem length_itemBytes (item : MultiResultItem) :
    (itemBytes item).length = 5 + (payload item).length := by
  simp only [itemBytes, List.length_append, List.length_singleton, length_toLeBytes]
  omega

theorem itemOf_payload (item : MultiResultItem) :
    itemOf (tag item) (payload item) = .ok item := by
  cases item with
  | resultSet buf => rfl
  | rowCount n =>
      simp [itemOf, tag, payload, ofLeBytes_i64Bytes]

theorem decodeItem_of_occursAt {data : Bytes} {item : MultiResultItem} {offset : Nat}
    (there : OccursAt (itemBytes item) offset data)
    (small : (payload item).length ≤ maxMultiResultPayload)
    (addressable : offset + (itemBytes item).length < 2 ^ 64) :
    decodeItem data offset = .ok (item, offset + (itemBytes item).length) := by
  have room := there.le_length
  rw [length_itemBytes] at room addressable
  obtain ⟨tagged, there⟩ := OccursAt.append_iff.mp there
  obtain ⟨measured, filled⟩ := OccursAt.append_iff.mp there
  rw [length_toLeBytes] at filled
  have fits : (payload item).length < 256 ^ 4 := Nat.lt_of_le_of_lt small (by decide)
  have flag : data[offset]? = some (tag item) := tagged.getElem?
  have len : readLe 4 data (offset + 1) = (payload item).length := measured.readLe fits
  have content : (data.drop (offset + 5)).take (payload item).length = payload item :=
    filled.take_drop
  simp only [decodeItem, flag, len, content]
  rw [if_neg (by omega), if_neg (by omega), if_neg (by omega), if_neg (by omega),
    itemOf_payload, ok_bind, length_itemBytes, Nat.add_assoc]

theorem readItems_of_occursAt {data : Bytes} {items : List MultiResultItem} {offset : Nat}
    (there : OccursAt (encodeItems items) offset data)
    (small : ∀ item ∈ items, (payload item).length ≤ maxMultiResultPayload)
    (addressable : offset + (encodeItems items).length < 2 ^ 64) :
    readItems data items.length offset = .ok (items, offset + (encodeItems items).length) := by
  induction items generalizing offset with
  | nil => rfl
  | cons item items ih =>
      obtain ⟨smallItem, small⟩ := List.forall_mem_cons.mp small
      rw [encodeItems, List.flatMap_cons] at there addressable
      rw [List.length_append] at addressable
      obtain ⟨here, later⟩ := OccursAt.append_iff.mp there
      have head := decodeItem_of_occursAt here smallItem (by omega)
      have tail := ih later small (by rw [encodeItems]; omega)
      rw [List.length_cons, readItems, head, ok_bind]
      simp only [tail, ok_bind, encodeItems, List.flatMap_cons, List.length_append,
        ← Nat.add_assoc]

theorem length_payload_le {items : List MultiResultItem} {item : MultiResultItem}
    (member : item ∈ items) : (payload item).length ≤ (encodeItems items).length := by
  obtain ⟨front, rest, rfl⟩ := List.append_of_mem member
  simp only [encodeItems, List.flatMap_append, List.flatMap_cons, List.length_append,
    length_itemBytes]
  omega

theorem length_encodeItems_le {items : List MultiResultItem} {bound : Nat}
    (small : ∀ item ∈ items, (payload item).length ≤ bound) :
    items.length * minItemLen ≤ (encodeItems items).length ∧
      (encodeItems items).length ≤ items.length * (5 + bound) := by
  induction items with
  | nil => simp [encodeItems]
  | cons item items ih =>
      obtain ⟨smallItem, small⟩ := List.forall_mem_cons.mp small
      have rest := ih small
      rw [encodeItems, List.flatMap_cons, List.length_append, length_itemBytes, List.length_cons,
        Nat.succ_mul, Nat.succ_mul]
      rw [encodeItems, minItemLen] at rest
      rw [minItemLen]
      omega

/-- Items at an offset are decoded; what follows them is nothing, a known footer,
or not looked at. -/
theorem decodeItems_of_occursAt {data : Bytes} {items : List MultiResultItem} {offset : Nat}
    {rejectTrailing : Bool} (limits : WithinLimits items)
    (there : OccursAt (encodeItems items) offset data) (near : offset ≤ headerV2Len)
    (ends : rejectTrailing = true → offset + (encodeItems items).length = data.length ∨
      isKnownFooter (data.drop (offset + (encodeItems items).length))) :
    decodeItems data offset items.length rejectTrailing = .ok items := by
  have room := there.le_length
  have count := limits.count
  obtain ⟨least, most⟩ := length_encodeItems_le limits.payloads
  have bound : items.length * (5 + maxMultiResultPayload) ≤
      maxMultiResultItems * (5 + maxMultiResultPayload) := Nat.mul_le_mul_right _ count
  have few : ¬ items.length * minItemLen ≥ 2 ^ 64 := by
    rw [maxMultiResultItems] at count
    rw [minItemLen]
    omega
  have addressable : offset + (encodeItems items).length < 2 ^ 64 := by
    rw [headerV2Len] at near
    simp only [maxMultiResultItems, maxMultiResultPayload] at bound most
    omega
  rw [decodeItems, validateItemCount, if_neg (by omega), if_neg few, if_neg (by omega), ok_bind,
    readItems_of_occursAt there limits.payloads addressable, ok_bind]
  refine if_neg ?_
  rintro ⟨reject, open', unknown⟩
  rcases ends reject with done | known
  · exact open' done
  · exact unknown known

theorem encodeMulti_words {items : List MultiResultItem} (more : Bytes)
    (count : items.length < 256 ^ 4) :
    readLe 4 (encodeMulti items ++ more) 0 = multiResultMagic ∧
      readLe 2 (encodeMulti items ++ more) 4 = multiResultVersion ∧
      readLe 4 (encodeMulti items ++ more) 8 = items.length ∧
      OccursAt (encodeItems items) headerV2Len (encodeMulti items ++ more) := by
  have whole := OccursAt.self_append (encodeMulti items) more
  obtain ⟨marked, whole⟩ := OccursAt.append_iff.mp whole
  obtain ⟨versioned, whole⟩ := OccursAt.append_iff.mp whole
  obtain ⟨-, whole⟩ := OccursAt.append_iff.mp whole
  obtain ⟨counted, there⟩ := OccursAt.append_iff.mp whole
  simp only [length_toLeBytes, Nat.zero_add, Nat.reduceAdd] at versioned counted there
  exact ⟨marked.readLe (by decide), versioned.readLe (by decide), counted.readLe count, there⟩

theorem length_encodeMulti (items : List MultiResultItem) :
    (encodeMulti items).length = headerV2Len + (encodeItems items).length := by
  simp only [encodeMulti, List.length_append, length_toLeBytes, headerV2Len]
  omega

/-- The current framing, alone or in front of a known footer. -/
theorem decodeMulti_encodeMulti_append {items : List MultiResultItem} {footer : Bytes}
    (limits : WithinLimits items) (known : footer = [] ∨ isKnownFooter footer) :
    decodeMulti (encodeMulti items ++ footer) = .ok items := by
  have count : items.length < 256 ^ 4 := Nat.lt_of_le_of_lt limits.count (by decide)
  obtain ⟨marked, versioned, counted, there⟩ := encodeMulti_words footer count
  have length : (encodeMulti items ++ footer).length =
      headerV2Len + (encodeItems items).length + footer.length := by
    rw [List.length_append, length_encodeMulti]
  have long : 12 ≤ (encodeMulti items ++ footer).length := by
    rw [length, headerV2Len]
    omega
  rw [decodeMulti, if_pos ⟨by omega, marked⟩, decodeMultiV2,
    if_neg (by rw [headerV2Len]; omega), if_neg (not_not.mpr versioned), counted]
  refine decodeItems_of_occursAt limits there (Nat.le_refl _) fun _ => ?_
  rcases known with rfl | known
  · exact .inl (by rw [length]; rfl)
  · refine .inr ?_
    rw [← length_encodeMulti, List.drop_left]
    exact known

/-- The legacy framing: its first word is a count, never the magic word. -/
theorem decodeMulti_encodeMultiV1 {items : List MultiResultItem} (limits : WithinLimits items) :
    decodeMulti (encodeMultiV1 items) = .ok items := by
  have bound := limits.count
  have count : items.length < 256 ^ 4 := Nat.lt_of_le_of_lt bound (by decide)
  have whole := OccursAt.refl (encodeMultiV1 items)
  obtain ⟨counted, there⟩ := OccursAt.append_iff.mp whole
  rw [length_toLeBytes, Nat.zero_add] at there
  have first := counted.readLe count
  have differ : ¬ readLe 4 (encodeMultiV1 items) 0 = multiResultMagic := by
    rw [first]
    simp only [maxMultiResultItems] at bound
    simp only [multiResultMagic]
    omega
  have long := there.le_length
  rw [decodeMulti, if_neg (fun both => differ both.2), decodeMultiV1, if_neg (by omega), first]
  exact decodeItems_of_occursAt limits there (by decide) fun impossible => nomatch impossible

end MultiResult

end OdbcFast.Native
