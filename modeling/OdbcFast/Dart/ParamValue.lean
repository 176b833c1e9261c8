import OdbcFast.Dart.Uint8List
import OdbcFast.Native.Protocol.ParamValue

/-!
# Parameter values in Dart

`serialize` writes a tagged value without looking at its size: a number is cut down to
the width of its tag, a length to 32 bits.

`deserializeParamValue` reads one tagged value. The length word comes from
`data.buffer`, everything else from the window. String payloads go through
`utf8.decode`, which drops a leading byte order mark.
-/

namespace OdbcFast.Dart

open Wire

inductive ParamValue where
  | null
  | string (value : String)
  | int32 (value : Int)
  | int64 (value : Int)
  | decimal (value : String)
  | binary (value : Bytes)
  | refCursorOut
  deriving DecidableEq, Repr

/-- `setUint32`, which stores the low 32 bits. -/
def u32Le (v : Nat) : Bytes := toLeBytes 4 v

/-- `setInt32`. -/
def i32Le (v : Int) : Bytes := toLeBytes 4 (v % 2 ^ 32).toNat

/-- `setInt64`. -/
def i64Le (v : Int) : Bytes := toLeBytes 8 (v % 2 ^ 64).toNat

def ParamValue.serialize : ParamValue → Bytes
  | .null => 0 :: u32Le 0
  | .string value => 1 :: u32Le (utf8Bytes value).length ++ utf8Bytes value
  | .int32 value => 2 :: u32Le 4 ++ i32Le value
  | .int64 value => 3 :: u32Le 8 ++ i64Le value
  | .decimal value => 4 :: u32Le (utf8Bytes value).length ++ utf8Bytes value
  | .binary value => 5 :: u32Le value.length ++ value
  | .refCursorOut => 6 :: u32Le 0

def serializeParams (params : List ParamValue) : Bytes :=
  (params.map ParamValue.serialize).flatten

/-- The value of a tag with its payload of `len` bytes. -/
def paramValueOfTag (tag : UInt8) (len : Nat) (payload : Bytes) : Except DartError ParamValue :=
  if tag = 0 then .ok .null
  else if tag = 1 then .ok (.string (decodeDroppingBom payload))
  else if tag = 2 then
    if len ≠ 4 then .error (.formatException "ParamValue::Integer expected 4 bytes")
    else .ok (.int32 (signed 4 (ofLeBytes payload)))
  else if tag = 3 then
    if len ≠ 8 then .error (.formatException "ParamValue::BigInt expected 8 bytes")
    else .ok (.int64 (signed 8 (ofLeBytes payload)))
  else if tag = 4 then .ok (.decimal (decodeDroppingBom payload))
  else if tag = 5 then .ok (.binary payload)
  else if tag = 6 then
    if len ≠ 0 then .error (.formatException "ParamValue::RefCursorOut expected 0 length")
    else .ok .refCursorOut
  else .error (.formatException s!"Unknown ParamValue tag: {tag.toNat}")

/-- Returns the value and the number of bytes consumed. -/
def deserializeParamValue (data : Uint8List) (offset : Nat) :
    Except DartError (ParamValue × Nat) := do
  if data.length < offset + 5 then
    .error (.formatException "ParamValue buffer too short")
  else
    let tag := data.bytes[offset]?.getD 0
    let len ← data.bufferWord 4 (offset + 1)
    if data.length < offset + (5 + len) then
      .error (.formatException "ParamValue buffer truncated")
    else
      let payload ← data.sublist (offset + 5) (offset + 5 + len)
      let value ← paramValueOfTag tag len payload
      .ok (value, 5 + len)

/-! ## Values of the engine -/

/-- The Dart object that stands for an engine value. -/
def ofNative : Native.ParamValue → ParamValue
  | .string s => .string s
  | .integer n => .int32 n.toInt
  | .bigInt n => .int64 n.toInt
  | .decimal s => .decimal s
  | .binary b => .binary b
  | .null => .null
  | .refCursorOut => .refCursorOut

/-- The engine value that a Dart object stands for, a number cut down to its width. -/
def toNative : ParamValue → Native.ParamValue
  | .string s => .string s
  | .int32 n => .integer (.ofInt n)
  | .int64 n => .bigInt (.ofInt n)
  | .decimal s => .decimal s
  | .binary b => .binary b
  | .null => .null
  | .refCursorOut => .refCursorOut

/-- A number fits its tag. -/
def ParamValue.InRange : ParamValue → Prop
  | .int32 n => -2 ^ 31 ≤ n ∧ n < 2 ^ 31
  | .int64 n => -2 ^ 63 ≤ n ∧ n < 2 ^ 63
  | _ => True

instance : (p : ParamValue) → Decidable p.InRange
  | .int32 n => inferInstanceAs (Decidable (-2 ^ 31 ≤ n ∧ n < 2 ^ 31))
  | .int64 n => inferInstanceAs (Decidable (-2 ^ 63 ≤ n ∧ n < 2 ^ 63))
  | .null | .string _ | .decimal _ | .binary _ | .refCursorOut => inferInstanceAs (Decidable True)

theorem ofNative_toNative {p : ParamValue} (inRange : p.InRange) : ofNative (toNative p) = p := by
  cases p with
  | int32 n => simp [ofNative, toNative, Int32.toInt_ofInt_of_le inRange.1 inRange.2]
  | int64 n => simp [ofNative, toNative, Int64.toInt_ofInt_of_le inRange.1 inRange.2]
  | string s | decimal s | binary b | null | refCursorOut => rfl

theorem toNative_ofNative (p : Native.ParamValue) : toNative (ofNative p) = p := by
  cases p with
  | integer n => simp [ofNative, toNative]
  | bigInt n => simp [ofNative, toNative]
  | string s | decimal s | binary b | null | refCursorOut => rfl

theorem i32Le_eq (n : Int) : i32Le n = Native.i32Bytes (.ofInt n) := by
  rw [i32Le, Native.i32Bytes, Int32.toBitVec_ofInt]
  rfl

theorem i64Le_eq (n : Int) : i64Le n = Native.i64Bytes (.ofInt n) := by
  rw [i64Le, Native.i64Bytes, Int64.toBitVec_ofInt]
  rfl

/-- What Dart writes is what the engine would write. -/
theorem serialize_eq_wire (p : ParamValue) : p.serialize = (toNative p).wire := by
  cases p with
  | int32 n =>
      simp [ParamValue.serialize, toNative, Native.ParamValue.wire, Native.ParamValue.tag,
        Native.ParamValue.payload, u32Le, i32Le_eq]
  | int64 n =>
      simp [ParamValue.serialize, toNative, Native.ParamValue.wire, Native.ParamValue.tag,
        Native.ParamValue.payload, u32Le, i64Le_eq]
  | string s | decimal s | binary b | null | refCursorOut => rfl

theorem serializeParams_eq_wireParams (params : List ParamValue) :
    serializeParams params = Native.wireParams (params.map toNative) := by
  rw [serializeParams, Native.wireParams, List.map_map]
  exact congrArg List.flatten (List.map_congr_left fun p _ => serialize_eq_wire p)

/-- What arrives: text passes through `utf8.decode`. -/
def received : Native.ParamValue → ParamValue
  | .string s => .string (decodeDroppingBom (utf8Bytes s))
  | .decimal s => .decimal (decodeDroppingBom (utf8Bytes s))
  | p => ofNative p

/-- The value is text that begins with U+FEFF. -/
def Marked : Native.ParamValue → Prop
  | .string s => StartsWithBom s
  | .decimal s => StartsWithBom s
  | _ => False

instance : (p : Native.ParamValue) → Decidable (Marked p)
  | .string s => inferInstanceAs (Decidable (StartsWithBom s))
  | .decimal s => inferInstanceAs (Decidable (StartsWithBom s))
  | .integer _ | .bigInt _ | .binary _ | .null | .refCursorOut =>
      inferInstanceAs (Decidable False)

theorem received_eq_iff (p : Native.ParamValue) : received p = ofNative p ↔ ¬ Marked p := by
  cases p with
  | string s | decimal s => simp [received, ofNative, Marked, decodeDroppingBom_utf8Bytes_iff]
  | integer n | bigInt n | binary b | null | refCursorOut => simp [received, Marked]

theorem signed_toNat (width : Nat) (pos : 0 < width) (n : BitVec (8 * width)) :
    signed width n.toNat = n.toInt := by
  rw [signed, BitVec.toInt]
  have double : 2 * 2 ^ (8 * width - 1) = 2 ^ (8 * width) := by
    rw [← Nat.pow_succ']
    congr 1
    omega
  split_ifs with h₁ h₂ h₂
  · rfl
  · omega
  · omega
  · push_cast
    rfl

theorem signed_i32Bytes (n : Int32) : signed 4 (ofLeBytes (Native.i32Bytes n)) = n.toInt := by
  rw [Native.ofLeBytes_i32Bytes]
  exact signed_toNat 4 (by decide) n.toBitVec

theorem signed_i64Bytes (n : Int64) : signed 8 (ofLeBytes (Native.i64Bytes n)) = n.toInt := by
  rw [Native.ofLeBytes_i64Bytes]
  exact signed_toNat 8 (by decide) n.toBitVec

theorem paramValueOfTag_payload (p : Native.ParamValue) :
    paramValueOfTag p.tag p.payload.length p.payload = .ok (received p) := by
  cases p with
  | integer n =>
      have value := signed_i32Bytes n
      simp [paramValueOfTag, Native.ParamValue.tag, Native.ParamValue.payload, received,
        ofNative, value]
  | bigInt n =>
      have value := signed_i64Bytes n
      simp [paramValueOfTag, Native.ParamValue.tag, Native.ParamValue.payload, received,
        ofNative, value]
  | string s | decimal s | binary b | null | refCursorOut =>
      simp [paramValueOfTag, Native.ParamValue.tag, Native.ParamValue.payload, received, ofNative]

/-- A value written at an offset of a list that starts its buffer is read back. -/
theorem deserializeParamValue_of_occursAt {data : Uint8List} {p : Native.ParamValue}
    {offset : Nat} (whole : data.bytes = data.buffer) (there : OccursAt p.wire offset data.bytes)
    (fits : p.payload.length < 256 ^ 4) :
    deserializeParamValue data offset = .ok (received p, p.wire.length) := by
  have length : p.wire.length = 5 + p.payload.length := by
    simp only [Native.ParamValue.wire, List.length_append, List.length_singleton,
      length_toLeBytes]
  have room := there.le_length
  rw [length, Uint8List.length_bytes] at room
  rw [Native.ParamValue.wire, List.append_assoc] at there
  obtain ⟨tagged, there⟩ := OccursAt.append_iff.mp there
  obtain ⟨measured, filled⟩ := OccursAt.append_iff.mp there
  rw [length_toLeBytes] at filled
  have tag : data.bytes[offset]? = some p.tag := tagged.getElem?
  have word : data.bufferWord 4 (offset + 1) = .ok p.payload.length := by
    have size : data.buffer.length = data.length := by rw [← whole, Uint8List.length_bytes]
    rw [Uint8List.bufferWord, if_pos (by omega), ← whole]
    exact congrArg _ (measured.readLe fits)
  have payload := Uint8List.sublist_of_occursAt filled
  rw [deserializeParamValue, if_neg (by omega), word, ok_bind, if_neg (by omega)]
  simp only [List.length_singleton, Nat.add_assoc, Nat.reduceAdd] at payload
  simp only [Nat.add_assoc]
  rw [payload, tag]
  simp only [Option.getD_some, ok_bind, paramValueOfTag_payload, length]

end OdbcFast.Dart
