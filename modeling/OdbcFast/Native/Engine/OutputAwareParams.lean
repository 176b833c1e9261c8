import Mathlib.Data.List.ReduceOption
import OdbcFast.Native.Engine.CellReader
import OdbcFast.Native.Engine.RefCursorOracle
import OdbcFast.Wire.Hex

/-!
# Parameters that are bound

Every question mark of a statement has a slot. An input value is bound as text; an output value
has a buffer of its own kind, which the driver fills by the time the last result is behind it.
The values of these buffers, in the order of the question marks, are the footer of the response.

Text is bound as UTF-16 on Windows and as bytes elsewhere. The two builds differ in the code
unit and in the longest text that an `INOUT` parameter takes.
-/

namespace OdbcFast.Native

open Wire

/-! ## Input values -/

/-- `param_values_to_strings` on one value. -/
def ParamValue.asString : ParamValue → Except OdbcError (Option String)
  | .null => .ok none
  | .string s => .ok (some s)
  | .integer n => .ok (some (toString n.toInt))
  | .bigInt n => .ok (some (toString n.toInt))
  | .decimal s => .ok (some s)
  | .binary b => .ok (some (Hex.encode Hex.lower b))
  | .refCursorOut => .error (.validationError
      "ParamValue::RefCursorOut is not convertible to string parameters")

def paramValuesToStrings (params : List ParamValue) : Except OdbcError (List (Option String)) :=
  params.mapM ParamValue.asString

/-! ## How text is bound -/

/-- A build's text buffer: its code units, and how many of them an output text may have. -/
structure TextBuild where
  CodeUnit : Type
  units : String → List CodeUnit
  /-- What is read from a buffer; a text that is not well formed is repaired. -/
  text : List CodeUnit → String
  outTextMaxCodeUnits : Nat
  unitName : String
  text_units : ∀ s, text (units s) = s

/-- `VarCharBox`. -/
def TextBuild.narrow : TextBuild where
  CodeUnit := UInt8
  units := utf8Bytes
  text := decodeLossy
  outTextMaxCodeUnits := 8000
  unitName := "bytes"
  text_units := decodeLossy_utf8Bytes

/-- The UTF-16 units of a character. -/
def utf16EncodeChar (c : Char) : List UInt16 :=
  if c.toNat < 0x10000 then [UInt16.ofNat c.toNat]
  else [UInt16.ofNat (0xD800 + (c.toNat - 0x10000) / 0x400),
    UInt16.ofNat (0xDC00 + (c.toNat - 0x10000) % 0x400)]

/-- `str::encode_utf16`. -/
def encodeUtf16 (s : String) : List UInt16 := s.toList.flatMap utf16EncodeChar

open CellReader in
theorem fromUtf16Lossy_char (c : Char) (rest : List UInt16) :
    fromUtf16Lossy (utf16EncodeChar c ++ rest) = c :: fromUtf16Lossy rest := by
  have scalar : c.toNat < 0xD800 ∨ 0xDFFF < c.toNat ∧ c.toNat < 0x110000 := c.valid
  rw [utf16EncodeChar]
  split_ifs with short
  · have value : (UInt16.ofNat c.toNat).toNat = c.toNat := UInt16.toNat_ofNat_of_lt' short
    have high : isHighSurrogate (UInt16.ofNat c.toNat) = false := by
      simp only [isHighSurrogate, value, decide_eq_false_iff_not]
      omega
    have low : isLowSurrogate (UInt16.ofNat c.toNat) = false := by
      simp only [isLowSurrogate, value, decide_eq_false_iff_not]
      omega
    have lone : loneUnit (UInt16.ofNat c.toNat) = c := by
      rw [loneUnit, high, low, if_neg (by decide), value, Char.ofNat_toNat]
    cases rest with
    | nil =>
        show [loneUnit (UInt16.ofNat c.toNat)] = [c]
        rw [lone]
    | cons unit rest =>
        rw [List.cons_append, List.nil_append, fromUtf16Lossy, high, Bool.false_and,
          if_neg Bool.false_ne_true, lone]
  · have highValue : (UInt16.ofNat (0xD800 + (c.toNat - 0x10000) / 0x400)).toNat =
        0xD800 + (c.toNat - 0x10000) / 0x400 :=
      UInt16.toNat_ofNat_of_lt' (by simp only [UInt16.size]; omega)
    have lowValue : (UInt16.ofNat (0xDC00 + (c.toNat - 0x10000) % 0x400)).toNat =
        0xDC00 + (c.toNat - 0x10000) % 0x400 :=
      UInt16.toNat_ofNat_of_lt' (by simp only [UInt16.size]; omega)
    have high : isHighSurrogate (UInt16.ofNat (0xD800 + (c.toNat - 0x10000) / 0x400)) = true := by
      simp only [isHighSurrogate, highValue, decide_eq_true_eq]
      omega
    have low : isLowSurrogate (UInt16.ofNat (0xDC00 + (c.toNat - 0x10000) % 0x400)) = true := by
      simp only [isLowSurrogate, lowValue, decide_eq_true_eq]
      omega
    have whole : 0x10000 + (0xD800 + (c.toNat - 0x10000) / 0x400 - 0xD800) * 0x400 +
        (0xDC00 + (c.toNat - 0x10000) % 0x400 - 0xDC00) = c.toNat := by
      omega
    rw [List.cons_append, List.cons_append, List.nil_append, fromUtf16Lossy, high, low,
      Bool.and_self, if_pos rfl, highValue, lowValue, whole, Char.ofNat_toNat]

theorem textOf_encodeUtf16 (s : String) : CellReader.textOf (encodeUtf16 s) = s := by
  have each (cs : List Char) :
      CellReader.fromUtf16Lossy (cs.flatMap utf16EncodeChar) = cs := by
    induction cs with
    | nil => rfl
    | cons c cs ih => rw [List.flatMap_cons, fromUtf16Lossy_char, ih]
  rw [CellReader.textOf, encodeUtf16, each, String.ofList_toList]

/-- `VarWCharBox`, on Windows. -/
def TextBuild.wide : TextBuild where
  CodeUnit := UInt16
  units := encodeUtf16
  text := CellReader.textOf
  outTextMaxCodeUnits := 4000
  unitName := "UTF-16 code units"
  text_units := textOf_encodeUtf16

/-! ## Slots -/

/-- A bound parameter. A text is what the buffer holds up to its length, NULL without one. -/
inductive ParamSlot (build : TextBuild) where
  | inText (text : Option (List build.CodeUnit))
  | outI32 (n : Option Int32)
  | outI64 (n : Option Int64)
  | inOutI32 (n : Option Int32)
  | inOutI64 (n : Option Int64)
  | outText (text : Option (List build.CodeUnit))
  | inOutText (text : Option (List build.CodeUnit))

section

variable (build : TextBuild)

def inTextFromParamValue (v : ParamValue) : Except OdbcError (Option (List build.CodeUnit)) :=
  v.asString.map fun text => text.map build.units

def inoutTextFromStr (s : String) : Except OdbcError (List build.CodeUnit) :=
  if (build.units s).length > build.outTextMaxCodeUnits then
    .error (validationDirected
      s!"inout_string_too_long: INOUT exceeds {build.outTextMaxCodeUnits} {build.unitName}")
  else .ok (build.units s)

def decimalPayload (d : String) : Except OdbcError String :=
  if d = "" then
    .error (validationDirected ("decimal_inout_out_requires_non_empty: use a non-empty " ++
      "ParamValue::Decimal for OUT/INOUT or use String"))
  else .ok d

/-- The slot of one parameter. A receiving buffer holds nothing before the call. -/
def boundToSlot (bp : BoundParam) : Except OdbcError (ParamSlot build) :=
  match bp.direction, bp.value with
  | .input, .refCursorOut =>
    .error (validationDirected ("ref_cursor_out_invalid_direction: ParamValue::RefCursorOut is " ++
      "only valid for ParamDirection::output"))
  | .input, v => (inTextFromParamValue build v).map .inText
  | .output, .refCursorOut | .inOut, .refCursorOut =>
    .error (validationDirected ("ref_cursor_out_bind_not_enabled: ParamValue::RefCursorOut in " ++
      "bound_to_slots; use the Oracle ref-cursor path (strip + more_results) or filter markers " ++
      "first (TYPE_MAPPING §3.1.1)."))
  | .output, .null | .output, .integer _ => .ok (.outI32 none)
  | .output, .bigInt _ => .ok (.outI64 none)
  | .output, .string _ => .ok (.outText none)
  | .output, .decimal d => (decimalPayload d).map fun _ => .outText none
  | .inOut, .integer n => .ok (.inOutI32 (some n))
  | .inOut, .bigInt n => .ok (.inOutI64 (some n))
  | .inOut, .string s => (inoutTextFromStr build s).map fun text => .inOutText (some text)
  | .inOut, .decimal d => do
    let text ← inoutTextFromStr build (← decimalPayload d)
    .ok (.inOutText (some text))
  | .inOut, .null =>
    .error (validationDirected ("inout_null: INOUT with ParamValue::Null is not supported; pass " ++
      "Integer, BigInt, String, or non-empty Decimal"))
  | .output, .binary _ | .inOut, .binary _ =>
    .error (validationDirected ("binary_out_inout_not_implemented: OUT/INOUT for binary columns " ++
      "is not implemented; use Integer, BigInt, String, or Decimal (see TYPE_MAPPING §3.1)"))

def boundToSlots (bound : List BoundParam) : Except OdbcError (List (ParamSlot build)) :=
  bound.mapM (boundToSlot build)

end

/-! ## What the driver leaves -/

variable {build : TextBuild}

/-- What a driver leaves in the buffer of one parameter, for each kind of buffer. -/
structure Leaving (build : TextBuild) where
  i32 : Option Int32 := none
  i64 : Option Int64 := none
  text : Option (List build.CodeUnit) := none

namespace ParamSlot

/-- An input buffer is only read. -/
def fill (left : Leaving build) : ParamSlot build → ParamSlot build
  | .inText text => .inText text
  | .outI32 _ => .outI32 left.i32
  | .outI64 _ => .outI64 left.i64
  | .inOutI32 _ => .inOutI32 left.i32
  | .inOutI64 _ => .inOutI64 left.i64
  | .outText _ => .outText left.text
  | .inOutText _ => .inOutText left.text

/-- The footer's value of a slot. -/
def outputValue : ParamSlot build → Option ParamValue
  | .inText _ => none
  | .outI32 n | .inOutI32 n => some ((n.map ParamValue.integer).getD .null)
  | .outI64 n | .inOutI64 n => some ((n.map ParamValue.bigInt).getD .null)
  | .outText t | .inOutText t => some ((t.map fun units => .string (build.text units)).getD .null)

end ParamSlot

/-- The driver's buffers behind the last result. -/
def fillSlots (left : Nat → Leaving build) (slots : List (ParamSlot build)) :
    List (ParamSlot build) :=
  slots.mapIdx fun i slot => slot.fill (left i)

def outputFooterValues (slots : List (ParamSlot build)) : List ParamValue :=
  slots.filterMap ParamSlot.outputValue

/-! ## What is bound and what is read back -/

/-- A parameter that has a slot. -/
def BoundParam.Bindable (build : TextBuild) (bp : BoundParam) : Prop :=
  match bp.direction, bp.value with
  | .input, v => v ≠ .refCursorOut
  | .output, .null | .output, .integer _ | .output, .bigInt _ | .output, .string _ => True
  | .output, .decimal d => d ≠ ""
  | .inOut, .integer _ | .inOut, .bigInt _ => True
  | .inOut, .string s => (build.units s).length ≤ build.outTextMaxCodeUnits
  | .inOut, .decimal d => d ≠ "" ∧ (build.units d).length ≤ build.outTextMaxCodeUnits
  | _, _ => False

/-- What comes back for a parameter: for an output parameter what the driver leaves in a buffer
of the value's kind. -/
def BoundParam.output (bp : BoundParam) (left : Leaving build) : Option ParamValue :=
  match bp.direction, bp.value with
  | .input, _ => none
  | _, .bigInt _ => some ((left.i64.map ParamValue.bigInt).getD .null)
  | _, .string _ | _, .decimal _ =>
    some ((left.text.map fun units => .string (build.text units)).getD .null)
  | _, _ => some ((left.i32.map ParamValue.integer).getD .null)

theorem inoutTextFromStr_eq_ok {s : String} {text : List build.CodeUnit} :
    inoutTextFromStr build s = .ok text ↔
      (build.units s).length ≤ build.outTextMaxCodeUnits ∧ text = build.units s := by
  rw [inoutTextFromStr]
  split_ifs with long
  · exact iff_of_false (by simp) fun fits => absurd fits.1 (Nat.not_le.mpr long)
  · rw [Except.ok.injEq, eq_comm, and_iff_right (Nat.not_lt.mp long)]

theorem decimalPayload_eq_ok {d payload : String} :
    decimalPayload d = .ok payload ↔ d ≠ "" ∧ payload = d := by
  rw [decimalPayload]
  split_ifs with empty
  · exact iff_of_false (by simp) fun some => absurd empty some.1
  · rw [Except.ok.injEq, eq_comm, and_iff_right empty]

theorem asString_isOk {v : ParamValue} (value : v ≠ .refCursorOut) :
    ∃ text, v.asString = .ok text := by
  cases v with
  | refCursorOut => exact absurd rfl value
  | string s => exact ⟨_, rfl⟩
  | integer n => exact ⟨_, rfl⟩
  | bigInt n => exact ⟨_, rfl⟩
  | decimal s => exact ⟨_, rfl⟩
  | binary b => exact ⟨_, rfl⟩
  | null => exact ⟨_, rfl⟩

theorem inTextFromParamValue_isOk (build : TextBuild) {v : ParamValue} (value : v ≠ .refCursorOut) :
    ∃ text, inTextFromParamValue build v = .ok text := by
  obtain ⟨text, written⟩ := asString_isOk value
  exact ⟨_, by rw [inTextFromParamValue, written]; rfl⟩

/-- An input value is bound as its text. -/
theorem boundToSlot_input {v : ParamValue} (value : v ≠ .refCursorOut) :
    boundToSlot build ⟨.input, v⟩ = (inTextFromParamValue build v).map .inText := by
  cases v with
  | refCursorOut => exact absurd rfl value
  | string s => rfl
  | integer n => rfl
  | bigInt n => rfl
  | decimal s => rfl
  | binary b => rfl
  | null => rfl

/-- Exactly the bindable parameters get a slot. -/
theorem boundToSlot_isOk_iff (bp : BoundParam) :
    (∃ slot, boundToSlot build bp = .ok slot) ↔ bp.Bindable build := by
  obtain ⟨direction, value⟩ := bp
  cases direction with
  | input =>
      by_cases cursor : value = .refCursorOut
      · subst cursor
        simp [boundToSlot, BoundParam.Bindable]
      · obtain ⟨text, bound⟩ := inTextFromParamValue_isOk build cursor
        have slot : boundToSlot build ⟨.input, value⟩ = .ok (.inText text) := by
          rw [boundToSlot_input cursor, bound]
          rfl
        exact iff_of_true ⟨_, slot⟩ cursor
  | output =>
      cases value with
      | decimal d =>
          simp only [boundToSlot, BoundParam.Bindable, map_eq_ok, decimalPayload_eq_ok]
          constructor
          · rintro ⟨slot, payload, ⟨some, -⟩, -⟩
            exact some
          · intro some
            exact ⟨_, d, ⟨some, rfl⟩, rfl⟩
      | string s => exact iff_of_true ⟨_, rfl⟩ trivial
      | integer n => exact iff_of_true ⟨_, rfl⟩ trivial
      | bigInt n => exact iff_of_true ⟨_, rfl⟩ trivial
      | null => exact iff_of_true ⟨_, rfl⟩ trivial
      | binary b => simp [boundToSlot, BoundParam.Bindable]
      | refCursorOut => simp [boundToSlot, BoundParam.Bindable]
  | inOut =>
      cases value with
      | string s =>
          simp only [boundToSlot, BoundParam.Bindable, map_eq_ok, inoutTextFromStr_eq_ok]
          constructor
          · rintro ⟨slot, text, ⟨fits, -⟩, -⟩
            exact fits
          · intro fits
            exact ⟨_, _, ⟨fits, rfl⟩, rfl⟩
      | decimal d =>
          simp only [boundToSlot, BoundParam.Bindable, bind_eq_ok, decimalPayload_eq_ok,
            inoutTextFromStr_eq_ok]
          constructor
          · rintro ⟨slot, payload, ⟨some, rfl⟩, text, ⟨fits, -⟩, -⟩
            exact ⟨some, fits⟩
          · rintro ⟨some, fits⟩
            exact ⟨_, d, ⟨some, rfl⟩, _, ⟨fits, rfl⟩, rfl⟩
      | integer n => exact iff_of_true ⟨_, rfl⟩ trivial
      | bigInt n => exact iff_of_true ⟨_, rfl⟩ trivial
      | null => simp [boundToSlot, BoundParam.Bindable]
      | binary b => simp [boundToSlot, BoundParam.Bindable]
      | refCursorOut => simp [boundToSlot, BoundParam.Bindable]

theorem boundToSlots_isOk_iff (bound : List BoundParam) :
    (∃ slots, boundToSlots build bound = .ok slots) ↔ ∀ bp ∈ bound, bp.Bindable build := by
  simp only [boundToSlots, mapM_eq_ok_iff]
  induction bound with
  | nil => exact iff_of_true ⟨[], .nil⟩ (List.forall_mem_nil _)
  | cons bp bound ih =>
      rw [List.forall_mem_cons, ← ih, ← boundToSlot_isOk_iff]
      constructor
      · rintro ⟨_, _ | ⟨head, tail⟩⟩
        exact ⟨⟨_, head⟩, _, tail⟩
      · rintro ⟨⟨slot, head⟩, slots, tail⟩
        exact ⟨slot :: slots, .cons head tail⟩

/-- The value that is read back from the slot of a parameter. -/
theorem outputValue_fill {bp : BoundParam} {slot : ParamSlot build}
    (bound : boundToSlot build bp = .ok slot) (left : Leaving build) :
    (slot.fill left).outputValue = bp.output left := by
  obtain ⟨direction, value⟩ := bp
  cases direction with
  | input =>
      by_cases cursor : value = .refCursorOut
      · subst cursor
        cases bound
      · rw [boundToSlot_input cursor] at bound
        obtain ⟨text, -, rfl⟩ := map_eq_ok.mp bound
        rfl
  | output =>
      cases value with
      | decimal d =>
          obtain ⟨payload, -, rfl⟩ := map_eq_ok.mp bound
          rfl
      | string s => cases bound; rfl
      | integer n => cases bound; rfl
      | bigInt n => cases bound; rfl
      | null => cases bound; rfl
      | binary b => cases bound
      | refCursorOut => cases bound
  | inOut =>
      cases value with
      | string s =>
          obtain ⟨text, -, rfl⟩ := map_eq_ok.mp bound
          rfl
      | decimal d =>
          obtain ⟨payload, -, bound⟩ := bind_eq_ok.mp bound
          obtain ⟨text, -, bound⟩ := bind_eq_ok.mp bound
          cases bound
          rfl
      | integer n => cases bound; rfl
      | bigInt n => cases bound; rfl
      | null => cases bound
      | binary b => cases bound
      | refCursorOut => cases bound

/-- The values that come back, in the order of the parameters. -/
def boundOutputs (left : Nat → Leaving build) (bound : List BoundParam) : List ParamValue :=
  (bound.mapIdx fun i bp => bp.output (left i)).reduceOption

/-- The footer holds one value for each output parameter, of the kind that was asked for. -/
theorem outputFooterValues_fillSlots {bound : List BoundParam} {slots : List (ParamSlot build)}
    (bind : boundToSlots build bound = .ok slots) (left : Nat → Leaving build) :
    outputFooterValues (fillSlots left slots) = boundOutputs left bound := by
  rw [boundToSlots, mapM_eq_ok_iff] at bind
  rw [outputFooterValues, fillSlots, boundOutputs]
  induction bind generalizing left with
  | nil => rfl
  | @cons bp slot _ _ head _ ih =>
      rw [List.mapIdx_cons, List.mapIdx_cons, List.filterMap_cons, outputValue_fill head]
      have tail := ih fun i => left (i + 1)
      cases bp.output (left 0) with
      | none => rwa [List.reduceOption_cons_of_none]
      | some value => rw [List.reduceOption_cons_of_some, ← tail]

end OdbcFast.Native
