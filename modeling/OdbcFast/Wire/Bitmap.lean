import Mathlib.Data.Nat.Bitwise
import OdbcFast.Wire.Bytes

/-!
# Packed bitmaps

Bit `i` of a bitmap is bit `i % 8` of byte `i / 8`, counted from the lowest. Behind the last
byte every bit is clear.
-/

namespace Wire

namespace Bitmap

/-- The bytes that hold a bit for each of `n`. -/
def size (n : Nat) : Nat := (n + 7) / 8

def mask (i : Nat) : UInt8 := 1 <<< UInt8.ofNat (i % 8)

def test (bitmap : Bytes) (i : Nat) : Bool :=
  if i / 8 ≥ bitmap.length then false else bitmap.getD (i / 8) 0 &&& mask i ≠ 0

def set (bitmap : Bytes) (i : Nat) : Bytes := bitmap.modify (i / 8) (· ||| mask i)

theorem toNat_mask (i : Nat) : (mask i).toNat = 2 ^ (i % 8) := by
  have small : i % 8 < 8 := Nat.mod_lt i (by decide)
  have each : ∀ j < 8, ((1 : UInt8) <<< UInt8.ofNat j).toNat = 2 ^ j := by decide
  exact each (i % 8) small

theorem and_mask_ne_zero_iff (byte : UInt8) (i : Nat) :
    byte &&& mask i ≠ 0 ↔ byte.toNat.testBit (i % 8) = true := by
  rw [ne_eq, ← UInt8.toNat_inj, UInt8.toNat_and, toNat_mask, Nat.and_two_pow]
  cases byte.toNat.testBit (i % 8) <;> simp

/-- A bit of the byte that holds it. -/
theorem test_eq (bitmap : Bytes) (i : Nat) :
    test bitmap i = (bitmap.getD (i / 8) 0).toNat.testBit (i % 8) := by
  rw [test]
  split_ifs with behind
  · rw [List.getD_eq_getElem?_getD, List.getElem?_eq_none behind]
    simp
  · rw [Bool.eq_iff_iff, decide_eq_true_iff, and_mask_ne_zero_iff]

@[simp] theorem length_set (bitmap : Bytes) (i : Nat) : (set bitmap i).length = bitmap.length :=
  List.length_modify ..

theorem test_replicate_zero (n i : Nat) : test (List.replicate n 0) i = false := by
  have zero : (List.replicate n (0 : UInt8)).getD (i / 8) 0 = 0 := by
    rw [List.getD_eq_getElem?_getD, List.getElem?_replicate]
    split_ifs <;> rfl
  rw [test_eq, zero]
  simp

/-- Setting a bit inside the bitmap sets that bit and no other. -/
theorem test_set {bitmap : Bytes} {i : Nat} (inside : i / 8 < bitmap.length) (j : Nat) :
    test (set bitmap i) j = (decide (j = i) || test bitmap j) := by
  rw [test_eq, test_eq, set, List.getD_eq_getElem?_getD, List.getD_eq_getElem?_getD,
    List.getElem?_modify]
  by_cases same : i / 8 = j / 8
  · rw [List.getElem?_eq_getElem (same ▸ inside)]
    simp only [if_pos same, Option.map_eq_map, Option.map_some, Option.getD_some, UInt8.toNat_or,
      toNat_mask, Nat.testBit_or, Nat.testBit_two_pow]
    rw [Bool.or_comm]
    congr 1
    rw [decide_eq_decide]
    omega
  · have other : ¬ j = i := by
      rintro rfl
      exact same rfl
    simp [same, other]

end Bitmap

end Wire
