import Mathlib.Algebra.Order.Ring.Int
import Mathlib.Tactic.Common

/-!
# Rounding up to a power of two

An offset is rounded up by bit operations on words: the power of two less one is added, and
the low bits are cleared. As long as nothing overflows this is the least multiple that is not
below the offset.
-/

namespace Wire

variable {w : Nat} {offset align : BitVec w} {exponent : Nat}

/-- The next multiple of a power of two. -/
def alignUp (offset align : BitVec w) : BitVec w := (offset + align - 1) &&& ~~~(align - 1)

/-- No word of no bits is a power of two. -/
theorem toNat_one_of_power (power : align.toNat = 2 ^ exponent) : (1 : BitVec w).toNat = 1 := by
  have room : 1 < 2 ^ w ∨ w = 0 := by
    rcases Nat.eq_zero_or_pos w with empty | positive
    · exact .inr empty
    · exact .inl (Nat.one_lt_two_pow (Nat.ne_of_gt positive))
  obtain room | rfl := room
  · exact Nat.mod_eq_of_lt room
  · rw [BitVec.toNat_of_zero_length rfl] at power
    exact absurd power (Nat.ne_of_lt (Nat.two_pow_pos exponent))

theorem one_le_of_power (power : align.toNat = 2 ^ exponent) : 1 ≤ align := by
  rw [BitVec.le_def, toNat_one_of_power power, power]
  exact Nat.two_pow_pos exponent

theorem toNat_pred_of_power (power : align.toNat = 2 ^ exponent) :
    (align - 1).toNat = 2 ^ exponent - 1 := by
  rw [BitVec.toNat_sub_of_le (one_le_of_power power), toNat_one_of_power power, power]

/-- Clearing the low bits is shifting them out. -/
theorem and_not_pred_eq (word : BitVec w) (power : align.toNat = 2 ^ exponent) :
    word &&& ~~~(align - 1) = (word >>> exponent) <<< exponent := by
  ext i inside
  have bit : (align - 1)[i] = decide (i < exponent) := by
    rw [BitVec.getElem_eq_testBit_toNat, toNat_pred_of_power power, Nat.testBit_two_pow_sub_one]
  rw [BitVec.getElem_and, BitVec.getElem_not, bit, BitVec.getElem_shiftLeft]
  by_cases low : i < exponent
  · simp only [low, decide_true, Bool.not_true, Bool.and_false, Bool.false_and]
  · have back : exponent + (i - exponent) = i := by omega
    simp only [low, decide_false, Bool.not_false, Bool.and_true, Bool.true_and,
      BitVec.getElem_ushiftRight, back, BitVec.getLsbD_eq_getElem inside]

theorem toNat_and_not_pred (word : BitVec w) (power : align.toNat = 2 ^ exponent) :
    (word &&& ~~~(align - 1)).toNat = word.toNat / 2 ^ exponent * 2 ^ exponent := by
  have below : word.toNat / 2 ^ exponent * 2 ^ exponent < 2 ^ w :=
    Nat.lt_of_le_of_lt (Nat.div_mul_le_self _ _) word.isLt
  rw [and_not_pred_eq word power, BitVec.toNat_shiftLeft, BitVec.toNat_ushiftRight,
    Nat.shiftRight_eq_div_pow, Nat.shiftLeft_eq, Nat.mod_eq_of_lt below]

/-- Where nothing overflows, `alignUp` rounds up. -/
theorem toNat_alignUp (power : align.toNat = 2 ^ exponent)
    (fits : offset.toNat + align.toNat < 2 ^ w) :
    (alignUp offset align).toNat =
      (offset.toNat + (align.toNat - 1)) / align.toNat * align.toNat := by
  have sum : (offset + align).toNat = offset.toNat + align.toNat :=
    BitVec.toNat_add_of_lt fits
  have positive : 1 ≤ align.toNat := by
    rw [power]
    exact Nat.two_pow_pos exponent
  have below : 1 ≤ offset + align := by
    rw [BitVec.le_def, toNat_one_of_power power, sum]
    omega
  rw [alignUp, toNat_and_not_pred _ power, BitVec.toNat_sub_of_le below, sum,
    toNat_one_of_power power, Nat.add_sub_assoc positive, power]

theorem dvd_alignUp (power : align.toNat = 2 ^ exponent)
    (fits : offset.toNat + align.toNat < 2 ^ w) :
    align.toNat ∣ (alignUp offset align).toNat := by
  rw [toNat_alignUp power fits]
  exact Nat.dvd_mul_left _ _

theorem le_alignUp (power : align.toNat = 2 ^ exponent)
    (fits : offset.toNat + align.toNat < 2 ^ w) : offset.toNat ≤ (alignUp offset align).toNat := by
  have positive : 0 < align.toNat := by
    rw [power]
    exact Nat.two_pow_pos exponent
  have split := Nat.div_add_mod' (offset.toNat + (align.toNat - 1)) align.toNat
  have rest := Nat.mod_lt (offset.toNat + (align.toNat - 1)) positive
  rw [toNat_alignUp power fits]
  omega

/-- No multiple lies between. -/
theorem alignUp_le {bound : Nat} (power : align.toNat = 2 ^ exponent)
    (fits : offset.toNat + align.toNat < 2 ^ w) (multiple : align.toNat ∣ bound)
    (below : offset.toNat ≤ bound) : (alignUp offset align).toNat ≤ bound := by
  obtain ⟨count, rfl⟩ := multiple
  have positive : 0 < align.toNat := by
    rw [power]
    exact Nat.two_pow_pos exponent
  have few : (offset.toNat + (align.toNat - 1)) / align.toNat ≤ count := by
    apply Nat.le_of_lt_succ
    rw [Nat.div_lt_iff_lt_mul positive, Nat.succ_mul, Nat.mul_comm count]
    omega
  rw [toNat_alignUp power fits, Nat.mul_comm]
  exact Nat.mul_le_mul_left align.toNat few

theorem alignUp_zero (power : align.toNat = 2 ^ exponent) : alignUp 0 align = 0 := by
  apply BitVec.eq_of_toNat_eq
  have zero : (0 : BitVec w).toNat = 0 := BitVec.toNat_zero
  have fits : (0 : BitVec w).toNat + align.toNat < 2 ^ w := by
    rw [zero, Nat.zero_add]
    exact align.isLt
  have positive : align.toNat - 1 < align.toNat := by
    rw [power]
    exact Nat.sub_one_lt (Nat.ne_of_gt (Nat.two_pow_pos exponent))
  rw [toNat_alignUp power fits, zero, Nat.zero_add, Nat.div_eq_of_lt positive, Nat.zero_mul]

/-- Everything is a multiple of one. -/
theorem alignUp_one (one : align.toNat = 1) (fits : offset.toNat + 1 < 2 ^ w) :
    alignUp offset align = offset := by
  apply BitVec.eq_of_toNat_eq
  rw [toNat_alignUp (one.trans (Nat.pow_zero 2).symm) (by rwa [one]), one, Nat.div_one,
    Nat.mul_one, Nat.add_zero]

end Wire
