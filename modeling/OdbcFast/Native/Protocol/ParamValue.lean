import OdbcFast.Native.Error
import OdbcFast.Wire.Utf8

/-!
# Parameter values on the wire

A parameter value is a tag byte, a 32-bit payload length and the payload. The
same encoding carries request parameters and the values of output parameters
behind a result. Serialisation refuses payloads above 16 MiB; `serialize` turns
that refusal into a panic.
-/

namespace OdbcFast.Native

open Wire

def maxParamValuePayloadLen : Nat := 16 * 1024 * 1024

/-- `ParamValue` of `protocol/param_value.rs`. -/
inductive ParamValue where
  | string (value : String)
  | integer (value : Int32)
  | bigInt (value : Int64)
  | decimal (value : String)
  | binary (value : Bytes)
  | null
  | refCursorOut
  deriving DecidableEq, Repr

/-- The bytes `i32::to_le_bytes` gives. -/
def i32Bytes (n : Int32) : Bytes := toLeBytes 4 n.toBitVec.toNat

/-- The bytes `i64::to_le_bytes` gives. -/
def i64Bytes (n : Int64) : Bytes := toLeBytes 8 n.toBitVec.toNat

@[simp] theorem length_i32Bytes (n : Int32) : (i32Bytes n).length = 4 := length_toLeBytes _ _

@[simp] theorem length_i64Bytes (n : Int64) : (i64Bytes n).length = 8 := length_toLeBytes _ _

theorem ofLeBytes_i32Bytes (n : Int32) : ofLeBytes (i32Bytes n) = n.toBitVec.toNat :=
  ofLeBytes_toLeBytes_of_lt n.toBitVec.isLt

theorem ofLeBytes_i64Bytes (n : Int64) : ofLeBytes (i64Bytes n) = n.toBitVec.toNat :=
  ofLeBytes_toLeBytes_of_lt n.toBitVec.isLt

def checkedPayloadLen (value : Nat) (field : String) : Except OdbcError Nat :=
  if value > maxParamValuePayloadLen then
    .error (.validationError
      s!"{field} length {value} exceeds limit {maxParamValuePayloadLen}")
  else if value < 2 ^ 32 then .ok value
  else .error (.validationError s!"{field} length {value} exceeds u32")

theorem checkedPayloadLen_eq_ok {value len : Nat} {field : String} :
    checkedPayloadLen value field = .ok len ↔
      value ≤ maxParamValuePayloadLen ∧ len = value := by
  rw [checkedPayloadLen]
  by_cases large : value > maxParamValuePayloadLen
  · rw [if_pos large]
    simp only [reduceCtorEq, false_iff, not_and]
    omega
  · have small : value < 2 ^ 32 := by
      simp only [maxParamValuePayloadLen] at large
      omega
    rw [if_neg large, if_pos small, Except.ok.injEq]
    omega

namespace ParamValue

def tag : ParamValue → UInt8
  | null => 0
  | string _ => 1
  | integer _ => 2
  | bigInt _ => 3
  | decimal _ => 4
  | binary _ => 5
  | refCursorOut => 6

def trySerialize : ParamValue → Except OdbcError Bytes
  | null => .ok (0 :: toLeBytes 4 0)
  | string s => do
      let len ← checkedPayloadLen (utf8Bytes s).length "ParamValue::String"
      .ok (1 :: toLeBytes 4 len ++ utf8Bytes s)
  | integer n => .ok (2 :: toLeBytes 4 4 ++ i32Bytes n)
  | bigInt n => .ok (3 :: toLeBytes 4 8 ++ i64Bytes n)
  | decimal s => do
      let len ← checkedPayloadLen (utf8Bytes s).length "ParamValue::Decimal"
      .ok (4 :: toLeBytes 4 len ++ utf8Bytes s)
  | binary b => do
      let len ← checkedPayloadLen b.length "ParamValue::Binary"
      .ok (5 :: toLeBytes 4 len ++ b)
  | refCursorOut => .ok (6 :: toLeBytes 4 0)

def serialize {ε : Type} (p : ParamValue) : Except (Fault ε) Bytes :=
  expect p.trySerialize "ParamValue exceeds binary protocol limits"

/-! ## The layout of one value -/

def payload : ParamValue → Bytes
  | string s => utf8Bytes s
  | integer n => i32Bytes n
  | bigInt n => i64Bytes n
  | decimal s => utf8Bytes s
  | binary b => b
  | null => []
  | refCursorOut => []

/-- Tag, length and payload of a value. -/
def wire (p : ParamValue) : Bytes :=
  [p.tag] ++ toLeBytes 4 p.payload.length ++ p.payload

theorem trySerialize_eq_ok {p : ParamValue} {bytes : Bytes} (h : p.trySerialize = .ok bytes) :
    bytes = p.wire ∧ p.payload.length ≤ maxParamValuePayloadLen := by
  cases p with
  | string s | decimal s | binary s =>
      obtain ⟨len, checked, built⟩ := bind_eq_ok.mp h
      obtain ⟨small, rfl⟩ := checkedPayloadLen_eq_ok.mp checked
      exact ⟨(Except.ok.inj built).symm, small⟩
  | integer n | bigInt n =>
      refine ⟨(Except.ok.inj h).symm.trans (by simp [wire, tag, payload]), ?_⟩
      simp [payload, maxParamValuePayloadLen]
  | null | refCursorOut => exact ⟨(Except.ok.inj h).symm, by simp [payload]⟩

theorem serialize_eq_ok {ε : Type} {p : ParamValue} {bytes : Bytes}
    (h : (p.serialize : Except (Fault ε) Bytes) = .ok bytes) :
    bytes = p.wire ∧ p.payload.length < 256 ^ 4 := by
  obtain ⟨wired, small⟩ := trySerialize_eq_ok (expect_eq_ok.mp h)
  refine ⟨wired, ?_⟩
  simp only [maxParamValuePayloadLen] at small
  omega

theorem trySerialize_of_le {p : ParamValue} (small : p.payload.length ≤ maxParamValuePayloadLen) :
    p.trySerialize = .ok p.wire := by
  have checked : ∀ field, checkedPayloadLen p.payload.length field = .ok p.payload.length :=
    fun _ => checkedPayloadLen_eq_ok.mpr ⟨small, rfl⟩
  cases p with
  | string s | decimal s | binary s =>
      simp only [payload] at checked
      rw [trySerialize, checked]
      rfl
  | integer n | bigInt n => simp [trySerialize, wire, tag, payload]
  | null | refCursorOut => rfl

theorem length_wire (p : ParamValue) : p.wire.length = 5 + p.payload.length := by
  simp only [wire, List.length_append, List.length_singleton, length_toLeBytes]

/-! ## Reading -/

/-- The value of a tag with its payload. -/
def ofTag (tag : UInt8) (payload : Bytes) : Except OdbcError ParamValue :=
  if tag = 0 then .ok .null
  else if tag = 1 then
    match decodeStrict payload with
    | .ok s => .ok (.string s)
    | .error _ => .error (.validationError "Invalid UTF-8 in ParamValue::String")
  else if tag = 2 then
    if payload.length ≠ 4 then .error (.validationError "ParamValue::Integer expected 4 bytes")
    else .ok (.integer (.ofBitVec (.ofNat 32 (ofLeBytes payload))))
  else if tag = 3 then
    if payload.length ≠ 8 then .error (.validationError "ParamValue::BigInt expected 8 bytes")
    else .ok (.bigInt (.ofBitVec (.ofNat 64 (ofLeBytes payload))))
  else if tag = 4 then
    match decodeStrict payload with
    | .ok s => .ok (.decimal s)
    | .error _ => .error (.validationError "Invalid UTF-8 in ParamValue::Decimal")
  else if tag = 5 then .ok (.binary payload)
  else if tag = 6 then
    if payload.length ≠ 0 then
      .error (.validationError "ParamValue::RefCursorOut expected 0-byte payload")
    else .ok .refCursorOut
  else .error (.validationError s!"Unknown ParamValue tag: {tag.toNat}")

/-- The first value of the data and the number of bytes it takes. -/
def deserialize (data : Bytes) : Except OdbcError (ParamValue × Nat) :=
  if data.length < 5 then .error (.validationError "ParamValue buffer too short")
  else
    let len := readLe 4 data 1
    if len > maxParamValuePayloadLen then
      .error (.validationError
        s!"ParamValue payload length {len} exceeds limit {maxParamValuePayloadLen}")
    -- below the limit the sum cannot overflow
    else if data.length < 5 + len then .error (.validationError "ParamValue buffer truncated")
    else (ofTag (data[0]?.getD 0) ((data.drop 5).take len)).map (·, 5 + len)

theorem ofTag_payload (p : ParamValue) : ofTag p.tag p.payload = .ok p := by
  cases p with
  | string s | decimal s => simp [ofTag, tag, payload, decodeStrict_utf8Bytes]
  | integer n => simp [ofTag, tag, payload, ofLeBytes_i32Bytes]
  | bigInt n => simp [ofTag, tag, payload, ofLeBytes_i64Bytes]
  | binary b | null | refCursorOut => simp [ofTag, tag, payload]

/-- Length and payload of a value that is followed by anything. -/
theorem readLe_wire_append {p : ParamValue} (rest : Bytes) (fits : p.payload.length < 256 ^ 4) :
    readLe 4 (p.wire ++ rest) 1 = p.payload.length := by
  have there : OccursAt p.wire 0 (p.wire ++ rest) := .self_append p.wire rest
  rw [wire, List.append_assoc] at there
  obtain ⟨-, there⟩ := OccursAt.append_iff.mp there
  obtain ⟨measured, -⟩ := OccursAt.append_iff.mp there
  rw [← List.append_assoc, ← wire] at measured
  exact measured.readLe fits

/-- A value is read back, whatever follows it. -/
theorem deserialize_wire_append {p : ParamValue} (rest : Bytes)
    (small : p.payload.length ≤ maxParamValuePayloadLen) :
    deserialize (p.wire ++ rest) = .ok (p, p.wire.length) := by
  have fits : p.payload.length < 256 ^ 4 := by
    simp only [maxParamValuePayloadLen] at small
    omega
  have long : (p.wire ++ rest).length = 5 + p.payload.length + rest.length := by
    rw [List.length_append, length_wire]
  have payload : ((p.wire ++ rest).drop 5).take p.payload.length = p.payload := by
    rw [wire, List.append_assoc, List.drop_left' (by simp)]
    exact List.take_left
  have first : (p.wire ++ rest)[0]? = some p.tag := rfl
  rw [deserialize, if_neg (by omega), readLe_wire_append rest fits]
  dsimp only
  rw [if_neg (by omega), if_neg (by omega), first, payload, length_wire, Option.getD_some,
    ofTag_payload]
  rfl

/-- A value above the limit is refused. -/
theorem deserialize_wire_of_large {p : ParamValue} (rest : Bytes)
    (large : maxParamValuePayloadLen < p.payload.length) (fits : p.payload.length < 256 ^ 4) :
    deserialize (p.wire ++ rest) = .error (.validationError
      s!"ParamValue payload length {p.payload.length} exceeds limit {maxParamValuePayloadLen}") := by
  have long : (p.wire ++ rest).length = 5 + p.payload.length + rest.length := by
    rw [List.length_append, length_wire]
  rw [deserialize, if_neg (by omega), readLe_wire_append rest fits]
  dsimp only
  rw [if_pos large]

/-- What is read starts with a known tag. -/
theorem tag_le_of_deserialize {data : Bytes} {result : ParamValue × Nat}
    (read : deserialize data = .ok result) : ∃ tag rest, data = tag :: rest ∧ tag.toNat ≤ 6 := by
  rw [deserialize] at read
  dsimp only at read
  split_ifs at read with short
  cases data with
  | nil => simp at short
  | cons tag rest =>
      refine ⟨tag, rest, rfl, ?_⟩
      obtain ⟨p, tagged, -⟩ := map_eq_ok.mp read
      simp only [List.getElem?_cons_zero, Option.getD_some] at tagged
      by_contra unknown
      have differs : ∀ n : UInt8, n.toNat ≤ 6 → tag ≠ n := by
        rintro n small rfl
        exact unknown small
      simp [ofTag, differs] at tagged

end ParamValue

/-! ## Lists -/

def maxParamCount : Nat := 4096

/-- The loop of `deserialize_params`; `room` is how many more values are allowed. -/
def deserializeParamsFrom : Nat → Bytes → Except OdbcError (List ParamValue)
  | _, [] => .ok []
  | 0, _ :: _ =>
    .error (.validationError s!"Parameter count exceeds limit {maxParamCount}")
  | room + 1, byte :: data => do
    let (p, n) ← ParamValue.deserialize (byte :: data)
    let out ← deserializeParamsFrom room ((byte :: data).drop n)
    .ok (p :: out)

def deserializeParams (data : Bytes) : Except OdbcError (List ParamValue) :=
  deserializeParamsFrom maxParamCount data

def trySerializeParams (params : List ParamValue) : Except OdbcError Bytes := do
  if params.length > maxParamCount then
    .error (.validationError s!"Parameter count {params.length} exceeds limit {maxParamCount}")
  else
    let pieces ← params.mapM ParamValue.trySerialize
    .ok pieces.flatten

/-- The values of a list, one behind the other. -/
def wireParams (params : List ParamValue) : Bytes := (params.map ParamValue.wire).flatten

/-- Every payload is within the limit of the protocol. -/
def WithinLimits (params : List ParamValue) : Prop :=
  ∀ p ∈ params, p.payload.length ≤ maxParamValuePayloadLen

instance (params : List ParamValue) : Decidable (WithinLimits params) :=
  inferInstanceAs (Decidable (∀ p ∈ params, p.payload.length ≤ maxParamValuePayloadLen))

theorem deserializeParamsFrom_wireParams {params : List ParamValue} {room : Nat}
    (few : params.length ≤ room) (small : WithinLimits params) :
    deserializeParamsFrom room (wireParams params) = .ok params := by
  induction params generalizing room with
  | nil => rw [wireParams, List.map_nil, List.flatten_nil, deserializeParamsFrom]
  | cons p params ih =>
      obtain ⟨room, rfl⟩ : ∃ n, room = n + 1 := Nat.exists_eq_add_one_of_ne_zero (by
        rintro rfl
        exact Nat.not_succ_le_zero _ few)
      have rest := ih (Nat.le_of_succ_le_succ few) fun q later =>
        small q (List.mem_cons_of_mem p later)
      have first := ParamValue.deserialize_wire_append (wireParams params) (small p List.mem_cons_self)
      have split : wireParams (p :: params) = p.wire ++ wireParams params := rfl
      have spelled : ∃ byte data, p.wire ++ wireParams params = byte :: data := ⟨_, _, rfl⟩
      obtain ⟨byte, data, spelled⟩ := spelled
      rw [split, spelled, deserializeParamsFrom, ← spelled, first]
      simp only [ok_bind, List.drop_left, rest]

theorem deserializeParams_wireParams {params : List ParamValue}
    (few : params.length ≤ maxParamCount) (small : WithinLimits params) :
    deserializeParams (wireParams params) = .ok params :=
  deserializeParamsFrom_wireParams few small

theorem trySerializeParams_eq_wireParams {params : List ParamValue}
    (few : params.length ≤ maxParamCount) (small : WithinLimits params) :
    trySerializeParams params = .ok (wireParams params) := by
  have pieces : params.mapM ParamValue.trySerialize = .ok (params.map ParamValue.wire) :=
    mapM_eq_ok fun p member => ParamValue.trySerialize_of_le (small p member)
  rw [trySerializeParams, if_neg (Nat.not_lt.mpr few), pieces]
  rfl

end OdbcFast.Native
