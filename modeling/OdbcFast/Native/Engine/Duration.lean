import Mathlib.Order.Lattice
import Mathlib.Order.Nat

/-!
# Durations

Whole seconds and the nanoseconds of a last one. They are ordered as the nanoseconds they
come to, and sums and quotients are those of the nanoseconds, cut to whole ones.
-/

namespace OdbcFast.Native.Engine

/-- `std::time::Duration`. -/
structure Duration where
  secs : UInt64
  nanos : UInt32
  nanos_lt : nanos.toNat < 1000000000

namespace Duration

/-- The milliseconds that are over, as a `u128`. -/
def asMillis (dur : Duration) : Nat := dur.secs.toNat * 1000 + dur.nanos.toNat / 1000000

def isZero (dur : Duration) : Bool := dur.secs = 0 ∧ dur.nanos = 0

/-- The whole of it. -/
def asNanos (dur : Duration) : Nat := dur.secs.toNat * 1000000000 + dur.nanos.toNat

theorem asMillis_eq (dur : Duration) : dur.asMillis = dur.asNanos / 1000000 := by
  rw [asMillis, asNanos]
  omega

theorem isZero_iff (dur : Duration) : dur.isZero = true ↔ dur.asNanos = 0 := by
  rw [isZero, decide_eq_true_iff, UInt64.ext_iff, UInt32.ext_iff, asNanos]
  have zero64 : (0 : UInt64).toNat = 0 := rfl
  have zero32 : (0 : UInt32).toNat = 0 := rfl
  omega

theorem asNanos_injective : Function.Injective asNanos := by
  rintro ⟨secs, nanos, nanos_lt⟩ ⟨secs', nanos', nanos_lt'⟩ same
  simp only [asNanos] at same
  have seconds : secs = secs' := UInt64.toNat_inj.mp (by omega)
  have rest : nanos = nanos' := UInt32.toNat_inj.mp (by omega)
  rw [mk.injEq]
  exact ⟨seconds, rest⟩

theorem asNanos_lt (dur : Duration) : dur.asNanos < 18446744073709551616 * 1000000000 := by
  have seconds := dur.secs.toNat_lt
  have rest := dur.nanos_lt
  rw [asNanos]
  omega

/-- The derived order, by the seconds and then by the nanoseconds. -/
instance : LinearOrder Duration := .lift' asNanos asNanos_injective

/-- `Duration::from_micros`. -/
def fromMicros (micros : UInt64) : Duration where
  secs := micros / 1000000
  nanos := .ofNat (micros.toNat % 1000000 * 1000)
  nanos_lt := by
    have least : micros.toNat % 1000000 < 1000000 := Nat.mod_lt _ (by decide)
    rw [UInt32.toNat_ofNat_of_lt' (by rw [UInt32.size]; omega)]
    omega

@[simp] theorem asNanos_fromMicros (micros : UInt64) :
    (fromMicros micros).asNanos = micros.toNat * 1000 := by
  have seconds : (fromMicros micros).secs.toNat = micros.toNat / 1000000 := UInt64.toNat_div _ _
  have rest : (fromMicros micros).nanos.toNat = micros.toNat % 1000000 * 1000 := by
    refine UInt32.toNat_ofNat_of_lt' ?_
    have size : UInt32.size = 4294967296 := rfl
    omega
  rw [asNanos, seconds, rest]
  omega

/-- The duration of so many nanoseconds, if the seconds fit 64 bits. -/
def ofNanos (nanos : Nat) : Option Duration :=
  if nanos < 18446744073709551616 * 1000000000 then
    some ⟨.ofNat (nanos / 1000000000), .ofNat (nanos % 1000000000), by
      have least : nanos % 1000000000 < 1000000000 := Nat.mod_lt _ (by decide)
      rw [UInt32.toNat_ofNat_of_lt' (by rw [UInt32.size]; omega)]
      exact least⟩
  else none

theorem ofNanos_eq_some_iff {nanos : Nat} {dur : Duration} :
    ofNanos nanos = some dur ↔ dur.asNanos = nanos := by
  have counts : ∀ found, ofNanos nanos = some found → found.asNanos = nanos := by
    intro found made
    rw [ofNanos] at made
    split_ifs at made with fits
    obtain rfl := Option.some.inj made
    have seconds : (UInt64.ofNat (nanos / 1000000000)).toNat = nanos / 1000000000 :=
      UInt64.toNat_ofNat_of_lt' (by rw [UInt64.size]; omega)
    have rest : (UInt32.ofNat (nanos % 1000000000)).toNat = nanos % 1000000000 :=
      UInt32.toNat_ofNat_of_lt' (by rw [UInt32.size]; omega)
    simp only [asNanos, seconds, rest]
    omega
  refine ⟨counts dur, fun same => ?_⟩
  have fits := dur.asNanos_lt
  rw [same] at fits
  obtain ⟨found, made⟩ : ∃ found, ofNanos nanos = some found :=
    ⟨_, by rw [ofNanos, if_pos fits]⟩
  rw [made, asNanos_injective ((counts found made).trans same.symm)]

theorem ofNanos_eq_none_iff {nanos : Nat} :
    ofNanos nanos = none ↔ 18446744073709551616 * 1000000000 ≤ nanos := by
  rw [ofNanos, ite_eq_right_iff, ← not_lt]
  exact ⟨fun never fits => Option.some_ne_none _ (never fits),
    fun long fits => absurd fits long⟩

def zero : Duration := ⟨0, 0, by decide⟩

def max : Duration := ⟨18446744073709551615, 999999999, by decide⟩

def checkedAdd (dur dur' : Duration) : Option Duration := ofNanos (dur.asNanos + dur'.asNanos)

def checkedDiv (dur : Duration) (divisor : UInt32) : Option Duration :=
  if divisor = 0 then none else ofNanos (dur.asNanos / divisor.toNat)

end Duration

end OdbcFast.Native.Engine
