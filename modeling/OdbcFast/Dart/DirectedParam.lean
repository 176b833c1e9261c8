import OdbcFast.Dart.ParamValue
import OdbcFast.Native.Protocol.BoundParam

/-!
# Directed parameters in Dart

`serializeDirectedParams` converts each value, checks that its direction can be served
and writes the directed list. Neither the number of parameters nor the size of a value
is checked on this side.

The conversion of an arbitrary object with its optional SQL type is `toParamValue`. The
buffer depends only on the parameter value it returns, so it stays a parameter here; an
object that already is a parameter value is returned as it is.
-/

namespace OdbcFast.Dart

open Wire

structure ArgumentError where
  message : String
  deriving DecidableEq, Repr

inductive ParamDirection where
  | input
  | output
  | inOut
  deriving DecidableEq, Repr

def ParamDirection.index : ParamDirection → Nat
  | input => 0
  | output => 1
  | inOut => 2

/-- A value, with its optional SQL type, and its direction. -/
structure DirectedParam (δ : Type) where
  value : δ
  direction : ParamDirection := .input

def drt1MagicBytes : Bytes := [0x44, 0x52, 0x54, 0x31]

def kDirectedParamErrorPrefix : String := "DIRECTED_PARAM|"

def validateDirectedOutInOut (direction : ParamDirection) (pv : ParamValue) :
    Except ArgumentError Unit :=
  if direction = .input then .ok ()
  else match pv with
  | .refCursorOut =>
    if direction ≠ .output then
      .error ⟨kDirectedParamErrorPrefix ++ "ref_cursor_out_invalid_direction: " ++
        "ParamValueRefCursorOut is only valid for ParamDirection.output"⟩
    else .ok ()
  | .binary _ =>
    .error ⟨kDirectedParamErrorPrefix ++ "binary_out_inout_not_implemented: " ++
      "OUT/INOUT for binary columns is not implemented; use Integer, " ++
      "BigInt, String, or Decimal (see TYPE_MAPPING §3.1)"⟩
  | .null =>
    if direction = .inOut then
      .error ⟨kDirectedParamErrorPrefix ++ "inout_null: INOUT with ParamValueNull " ++
        "is not supported; pass Integer, BigInt, String, or non-empty Decimal"⟩
    else .ok ()
  | .decimal value =>
    if value = "" then
      .error ⟨kDirectedParamErrorPrefix ++ "decimal_inout_out_requires_non_empty: " ++
        "use a non-empty ParamValue::Decimal for OUT/INOUT or use String"⟩
    else .ok ()
  | _ => .ok ()

section

variable {δ : Type} (toParamValue : δ → Except ArgumentError ParamValue)

/-- The direction and the converted value of one parameter. -/
def convertDirected (d : DirectedParam δ) : Except ArgumentError (ParamDirection × ParamValue) := do
  let pv ← toParamValue d.value
  validateDirectedOutInOut d.direction pv
  .ok (d.direction, pv)

def serializeDirectedParams (params : List (DirectedParam δ)) : Except ArgumentError Bytes := do
  let converted ← params.mapM (convertDirected toParamValue)
  .ok (drt1MagicBytes ++ u32Le params.length ++
    (converted.map fun (direction, pv) => UInt8.ofNat direction.index :: pv.serialize).flatten)

end

/-! ## What the engine makes of it -/

def ParamDirection.toNative : ParamDirection → Native.ParamDirection
  | input => .input
  | output => .output
  | inOut => .inOut

/-- The parameter the engine is meant to see. -/
def boundParam (converted : ParamDirection × ParamValue) : Native.BoundParam :=
  ⟨converted.1.toNative, toNative converted.2⟩

theorem toU8_toNative (direction : ParamDirection) :
    direction.toNative.toU8 = UInt8.ofNat direction.index := by
  cases direction <;> rfl

theorem wire_boundParam (converted : ParamDirection × ParamValue) :
    (boundParam converted).wire =
      UInt8.ofNat converted.1.index :: converted.2.serialize := by
  rw [Native.BoundParam.wire, boundParam, toU8_toNative, serialize_eq_wire]

theorem serializeDirectedParams_eq_ok {δ : Type}
    {toParamValue : δ → Except ArgumentError ParamValue} {params : List (DirectedParam δ)}
    {bytes : Bytes} (written : serializeDirectedParams toParamValue params = .ok bytes) :
    ∃ converted, params.mapM (convertDirected toParamValue) = .ok converted ∧
      converted.length = params.length ∧
      bytes = Native.wireDirected (converted.map boundParam) := by
  obtain ⟨converted, each, built⟩ := bind_eq_ok.mp written
  have length : converted.length = params.length := (mapM_eq_ok_iff.mp each).length_eq.symm
  refine ⟨converted, each, length, (Except.ok.inj built).symm.trans ?_⟩
  have pieces : (converted.map boundParam).map Native.BoundParam.wire =
      converted.map fun one => UInt8.ofNat one.1.index :: one.2.serialize := by
    rw [List.map_map]
    exact List.map_congr_left fun one _ => wire_boundParam one
  rw [Native.wireDirected, Native.wireBound, pieces, List.length_map, length]
  rfl

end OdbcFast.Dart
