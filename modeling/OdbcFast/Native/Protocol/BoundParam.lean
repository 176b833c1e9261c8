import OdbcFast.Native.Protocol.ParamValue

/-!
# Directed parameters

A request buffer is either a plain list of values, all of them input, or a directed
list: the magic `DRT1`, a 32-bit count, and for each parameter a direction byte and its
value. Which one it is, is told from the first bytes alone.
-/

namespace OdbcFast.Native

open Wire

def drt1 : Bytes := [0x44, 0x52, 0x54, 0x31]

inductive ParamDirection where
  | input
  | output
  | inOut
  deriving DecidableEq, Repr

namespace ParamDirection

def toU8 : ParamDirection → UInt8
  | input => 0
  | output => 1
  | inOut => 2

def fromU8 (b : UInt8) : Option ParamDirection :=
  if b = 0 then some input
  else if b = 1 then some output
  else if b = 2 then some inOut
  else none

theorem fromU8_toU8 (direction : ParamDirection) : fromU8 direction.toU8 = some direction := by
  cases direction <;> rfl

end ParamDirection

structure BoundParam where
  direction : ParamDirection
  value : ParamValue
  deriving DecidableEq, Repr

/-- A parsed request buffer. -/
inductive ParamList where
  | legacy (params : List ParamValue)
  | directed (params : List BoundParam)
  deriving DecidableEq, Repr

def isDirectedParamBuffer (data : Bytes) : Bool :=
  data.length ≥ 8 && data.take 4 = drt1

/-- The loop over the parameters of a directed list, with the bytes that are left behind it. -/
def deserializeBound : Nat → Bytes → Except OdbcError (List BoundParam × Bytes)
  | 0, data => .ok ([], data)
  | _ + 1, [] => .error (.validationError "DRT1 buffer truncated (direction)")
  | count + 1, byte :: data =>
    match ParamDirection.fromU8 byte with
    | none => .error (.validationError s!"DRT1 invalid direction {byte.toNat}")
    | some direction => do
      if data.isEmpty then .error (.validationError "DRT1 buffer truncated (value)")
      else
        let (value, n) ← ParamValue.deserialize data
        let (out, rest) ← deserializeBound count (data.drop n)
        .ok (⟨direction, value⟩ :: out, rest)

def deserializeParamBuffer (data : Bytes) : Except OdbcError ParamList := do
  if data.isEmpty then .ok (.legacy [])
  else if isDirectedParamBuffer data then
    let count := readLe 4 data 4
    if count > maxParamCount then
      .error (.validationError s!"DRT1 parameter count {count} exceeds limit {maxParamCount}")
    else if count > data.length - 8 then
      .error (.validationError "DRT1 parameter count exceeds available payload")
    else
      let (out, rest) ← deserializeBound count (data.drop 8)
      if ¬ rest.isEmpty then .error (.validationError "DRT1 buffer has trailing bytes")
      else .ok (.directed out)
  else
    let params ← deserializeParams data
    .ok (.legacy params)

/-! ## Lists on the wire -/

namespace BoundParam

/-- Direction and value of a parameter. -/
def wire (b : BoundParam) : Bytes := b.direction.toU8 :: b.value.wire

theorem wire_pos (b : BoundParam) : 0 < b.wire.length := Nat.zero_lt_succ _

end BoundParam

/-- The parameters of a list, one behind the other. -/
def wireBound (params : List BoundParam) : Bytes := (params.map BoundParam.wire).flatten

/-- A directed list with its magic and its count. -/
def wireDirected (params : List BoundParam) : Bytes :=
  drt1 ++ toLeBytes 4 params.length ++ wireBound params

theorem deserializeBound_wireBound {params : List BoundParam}
    (small : WithinLimits (params.map BoundParam.value)) :
    deserializeBound params.length (wireBound params) = .ok (params, []) := by
  induction params with
  | nil => rfl
  | cons b params ih =>
      have rest := ih fun p later => small p (List.mem_cons_of_mem b.value later)
      have first := ParamValue.deserialize_wire_append (wireBound params)
        (small b.value List.mem_cons_self)
      have split : wireBound (b :: params) =
          b.direction.toU8 :: (b.value.wire ++ wireBound params) := rfl
      have filled : (b.value.wire ++ wireBound params).isEmpty = false := rfl
      rw [split, List.length_cons, deserializeBound, ParamDirection.fromU8_toU8]
      dsimp only
      rw [filled, if_neg Bool.false_ne_true, first, ok_bind, List.drop_left, rest]
      rfl

theorem length_le_length_wireBound (params : List BoundParam) :
    params.length ≤ (wireBound params).length := by
  induction params with
  | nil => exact Nat.le_refl 0
  | cons b params ih =>
      have split : wireBound (b :: params) = b.wire ++ wireBound params := rfl
      have pos := b.wire_pos
      rw [split, List.length_append, List.length_cons]
      omega

theorem length_wireDirected (params : List BoundParam) :
    (wireDirected params).length = 8 + (wireBound params).length := by
  rw [wireDirected, List.length_append, List.length_append, length_toLeBytes]
  rfl

theorem isDirectedParamBuffer_wireDirected (params : List BoundParam) :
    isDirectedParamBuffer (wireDirected params) = true := by
  have long := length_wireDirected params
  rw [isDirectedParamBuffer, Bool.and_eq_true, decide_eq_true_iff, decide_eq_true_iff]
  exact ⟨by omega, rfl⟩

/-- Of a directed list only the low 32 bits of the count reach the reader. -/
theorem readLe_wireDirected (params : List BoundParam) :
    readLe 4 (wireDirected params) 4 = params.length % 2 ^ 32 := by
  have there : ((wireDirected params).drop 4).take 4 = toLeBytes 4 params.length := by
    rw [wireDirected, List.append_assoc, show (4 : Nat) = drt1.length from rfl, List.drop_left]
    exact List.take_left' (length_toLeBytes 4 _)
  rw [readLe, there, ofLeBytes_toLeBytes]
  rfl

theorem deserializeParamBuffer_wireDirected {params : List BoundParam}
    (few : params.length ≤ maxParamCount) (small : WithinLimits (params.map BoundParam.value)) :
    deserializeParamBuffer (wireDirected params) = .ok (.directed params) := by
  have long := length_wireDirected params
  have some := length_le_length_wireBound params
  have filled : (wireDirected params).isEmpty = false := rfl
  have count : readLe 4 (wireDirected params) 4 = params.length := by
    rw [readLe_wireDirected, Nat.mod_eq_of_lt]
    simp only [maxParamCount] at few
    omega
  have body : (wireDirected params).drop 8 = wireBound params := rfl
  rw [deserializeParamBuffer, filled, if_neg Bool.false_ne_true,
    isDirectedParamBuffer_wireDirected, if_pos rfl, count]
  dsimp only
  rw [if_neg (by omega), if_neg (by omega), body, deserializeBound_wireBound small]
  rfl

/-- A list above the limit is refused. -/
theorem deserializeParamBuffer_of_many {params : List BoundParam}
    (many : maxParamCount < params.length) (fits : params.length < 2 ^ 32) :
    deserializeParamBuffer (wireDirected params) = .error (.validationError
      s!"DRT1 parameter count {params.length} exceeds limit {maxParamCount}") := by
  have filled : (wireDirected params).isEmpty = false := rfl
  have count : readLe 4 (wireDirected params) 4 = params.length := by
    rw [readLe_wireDirected, Nat.mod_eq_of_lt fits]
  rw [deserializeParamBuffer, filled, if_neg Bool.false_ne_true,
    isDirectedParamBuffer_wireDirected, if_pos rfl, count]
  dsimp only
  rw [if_pos many]

/-- A list with one value that is above the limit is refused. -/
theorem deserializeParamBuffer_of_large {b : BoundParam}
    (large : maxParamValuePayloadLen < b.value.payload.length)
    (fits : b.value.payload.length < 256 ^ 4) :
    deserializeParamBuffer (wireDirected [b]) = .error (.validationError
      s!"ParamValue payload length {b.value.payload.length} exceeds limit {maxParamValuePayloadLen}") := by
  have long := length_wireDirected [b]
  have some := length_le_length_wireBound [b]
  have filled : (wireDirected [b]).isEmpty = false := rfl
  have count : readLe 4 (wireDirected [b]) 4 = 1 := readLe_wireDirected [b]
  have body : (wireDirected [b]).drop 8 = b.direction.toU8 :: (b.value.wire ++ []) := rfl
  have nonempty : (b.value.wire ++ []).isEmpty = false := rfl
  rw [List.length_singleton] at some
  rw [deserializeParamBuffer, filled, if_neg Bool.false_ne_true,
    isDirectedParamBuffer_wireDirected, if_pos rfl, count]
  dsimp only
  rw [if_neg (by decide), if_neg (by omega), body, deserializeBound, ParamDirection.fromU8_toU8]
  dsimp only
  rw [nonempty, if_neg Bool.false_ne_true, ParamValue.deserialize_wire_of_large [] large fits]
  rfl

/-! ## Telling the two apart -/

/-- What starts with the magic is no list of values. -/
theorem deserializeParams_ne_ok_of_magic {data : Bytes} (magic : data.take 4 = drt1)
    (params : List ParamValue) : deserializeParams data ≠ .ok params := by
  intro read
  cases data with
  | nil => cases magic
  | cons byte data =>
      obtain rfl : byte = 0x44 := (List.cons.inj magic).1
      rw [deserializeParams, show maxParamCount = 4095 + 1 from rfl, deserializeParamsFrom,
        bind_eq_ok] at read
      obtain ⟨result, first, -⟩ := read
      obtain ⟨tag, rest, spelled, known⟩ := ParamValue.tag_le_of_deserialize first
      obtain rfl := (List.cons.inj spelled).1
      exact absurd known (by decide)

theorem isDirectedParamBuffer_eq_false_of_deserializeParams {data : Bytes}
    {params : List ParamValue} (read : deserializeParams data = .ok params) :
    isDirectedParamBuffer data = false := by
  by_contra directed
  rw [Bool.not_eq_false, isDirectedParamBuffer, Bool.and_eq_true, decide_eq_true_iff,
    decide_eq_true_iff] at directed
  exact deserializeParams_ne_ok_of_magic directed.2 params read

theorem deserializeParamBuffer_of_deserializeParams {data : Bytes} {params : List ParamValue}
    (read : deserializeParams data = .ok params) :
    deserializeParamBuffer data = .ok (.legacy params) := by
  have plain := isDirectedParamBuffer_eq_false_of_deserializeParams read
  cases data with
  | nil =>
      have none : params = [] := by
        rw [deserializeParams, deserializeParamsFrom] at read
        exact (Except.ok.inj read).symm
      rw [none]
      rfl
  | cons byte data =>
      rw [deserializeParamBuffer, plain, read]
      rfl

/-- A directed buffer is read as a directed list or not at all. -/
theorem deserializeParamBuffer_ne_legacy {data : Bytes} (directed : isDirectedParamBuffer data)
    (params : List ParamValue) : deserializeParamBuffer data ≠ .ok (.legacy params) := by
  intro read
  cases data with
  | nil => cases directed
  | cons byte data =>
      rw [deserializeParamBuffer, directed] at read
      simp only [List.isEmpty_cons, Bool.false_eq_true, if_false, if_true] at read
      split_ifs at read
      obtain ⟨result, -, read⟩ := bind_eq_ok.mp read
      split_ifs at read
      cases read

end OdbcFast.Native
