import Mathlib.Order.Bounds.Basic
import OdbcFast.Dart.ServiceTransactions
import OdbcFast.Native.Engine.Transaction

/-!
# How long a lock is waited for

A lock timeout counts milliseconds and, for some engines, seconds. Nobody is to wait for less
than was asked for. The step to seconds rounds up. The step to milliseconds does only where less
than one of them was asked for. Dart counts in microseconds and converts them on its own way to
the same timeout.
-/

namespace OdbcFast.Verification

open Native.Engine

/-- The timeout in milliseconds, of which the engine's default has none. -/
def millisOf (timeout : LockTimeout) : Nat := timeout.millis.elim 0 UInt32.toNat

/-- The timeout is the least whole number of milliseconds that is not less than what was asked for
or that 32 bits cannot exceed. In seconds it is not less either, and less than one second more. -/
structure Awaits (dur : Duration) (timeout : LockTimeout) : Prop where
  least : IsLeast {ms | dur.asNanos ≤ ms * 1000000 ∨ 4294967295 ≤ ms} (millisOf timeout)
  overrides : dur.asNanos ≠ 0 → timeout.millis ≠ none
  seconds : ∀ ms ∈ timeout.millis, ∃ secs, timeout.millisAsSecondsRoundedUp = some secs ∧
    ms.toNat ≤ secs * 1000 ∧ secs * 1000 < ms.toNat + 1000

/-- Seconds are rounded up, whatever the milliseconds are. -/
theorem millisAsSeconds_bounds {timeout : LockTimeout} {ms : UInt32} (some : ms ∈ timeout.millis) :
    ∃ secs, timeout.millisAsSecondsRoundedUp = Option.some secs ∧
      ms.toNat ≤ secs * 1000 ∧ secs * 1000 < ms.toNat + 1000 := by
  refine ⟨max ((ms.toNat + 999) / 1000) 1, ?_, ?_⟩
  · rw [LockTimeout.millisAsSecondsRoundedUp, Option.mem_def.mp some]
    rfl
  · have positive : 0 < ms.toNat := by
      apply Nat.pos_of_ne_zero
      exact fun zero => timeout.positive ms some (UInt32.toNat_inj.mp zero)
    have whole : 1 ≤ (ms.toNat + 999) / 1000 := by omega
    rw [Nat.max_eq_left whole]
    omega

/-- A count of milliseconds is taken as it is. -/
theorem millisOf_fromMillis (millis : UInt32) : millisOf (.fromMillis millis) = millis.toNat := by
  rw [LockTimeout.fromMillis]
  by_cases zero : millis = 0
  · rw [dif_pos zero, zero]
    rfl
  · rw [dif_neg zero]
    rfl

/-- Whole milliseconds are counted, and one of them stands for less than one. -/
theorem millisOf_fromDuration (dur : Duration) : millisOf (.fromDuration dur) =
    if 0 < dur.asNanos ∧ dur.asNanos < 1000000 then 1
    else min (dur.asNanos / 1000000) 4294967295 := by
  have whole := dur.asMillis_eq
  have none := not_congr dur.isZero_iff
  rw [LockTimeout.fromDuration, ← whole]
  by_cases small : dur.asMillis = 0 ∧ ¬ dur.isZero = true
  · have asked := none.mp small.2
    rw [if_pos small, if_pos (by omega)]
    rfl
  · rw [none] at small
    rw [if_neg (mt (And.imp_right none.mp) small), if_neg (by omega)]
    by_cases zero : dur.asMillis = 0
    · rw [dif_pos zero, zero]
      rfl
    · rw [dif_neg zero]
      exact toNat_getD_u32TryFrom _

theorem millisOf_eq_zero {timeout : LockTimeout} : millisOf timeout = 0 ↔ timeout.millis = none := by
  rw [millisOf]
  cases given : timeout.millis with
  | none => exact iff_of_true rfl rfl
  | some ms =>
      apply iff_of_false _ (Option.some_ne_none ms)
      exact fun zero => timeout.positive ms given (UInt32.toNat_inj.mp zero)

/-- The engine's default is not taken for a duration that is not zero. -/
theorem fromDuration_overrides {dur : Duration} (asked : dur.asNanos ≠ 0) :
    (LockTimeout.fromDuration dur).millis ≠ none := by
  apply mt millisOf_eq_zero.mpr
  rw [millisOf_fromDuration]
  split <;> omega

/-- A lock timeout is as it should be exactly for whole milliseconds, for less than one, and for
what 32 bits do not hold. -/
theorem fromDuration_awaits_iff (dur : Duration) : Awaits dur (.fromDuration dur) ↔
    dur.asNanos % 1000000 = 0 ∨ dur.asNanos < 1000000 ∨ 4294967295 * 1000000 ≤ dur.asNanos := by
  constructor
  · intro awaits
    have enough := awaits.least.1
    rw [Set.mem_ofPred_eq, millisOf_fromDuration] at enough
    split at enough <;> omega
  · intro fits
    refine ⟨⟨?_, ?_⟩, fromDuration_overrides, fun ms => millisAsSeconds_bounds⟩
    · rw [Set.mem_ofPred_eq, millisOf_fromDuration]
      split <;> omega
    · intro ms enough
      rw [Set.mem_ofPred_eq] at enough
      rw [millisOf_fromDuration]
      split <;> omega

def millisecondAndHalf : Duration := ⟨0, 1500000, by decide⟩

/-- One and a half milliseconds become one, which is less. -/
theorem millisecondAndHalf_is_cut :
    ¬ Awaits millisecondAndHalf (.fromDuration millisecondAndHalf) := by
  intro awaits
  have enough := awaits.least.1
  revert enough
  decide

/-! ## The same timeout from Dart -/

/-- What `from_millis` makes of the number that the begin sends for a duration. -/
def sentLockTimeout (nativeId : Nat) (isolationLevel : Dart.IsolationLevel)
    (savepointDialect : Dart.SavepointDialect) (accessMode : Dart.TransactionAccessMode)
    (micros : UInt64) : LockTimeout :=
  .fromMillis (Dart.BeginRequest.of nativeId isolationLevel savepointDialect accessMode
    (some micros.toNat)).nativeLockTimeoutMs

/-- Two timeouts that count the same are the same. -/
theorem eq_of_millisOf_eq {timeout timeout' : LockTimeout}
    (same : millisOf timeout = millisOf timeout') : timeout = timeout' := by
  obtain ⟨millis, positive⟩ := timeout
  obtain ⟨millis', positive'⟩ := timeout'
  cases millis with
  | none =>
      have none' : millis' = none := millisOf_eq_zero.mp same.symm
      rw [LockTimeout.mk.injEq, none']
  | some ms =>
      cases millis' with
      | none => exact absurd (millisOf_eq_zero.mp same) (Option.some_ne_none ms)
      | some ms' =>
          have equal : ms = ms' := UInt32.toNat_inj.mp same
          rw [LockTimeout.mk.injEq, equal]

/-- A timeout that counts at least as much overrides with at least as much. -/
theorem exists_millis_of_le {timeout timeout' : LockTimeout} {ms : UInt32}
    (ordered : millisOf timeout ≤ millisOf timeout') (given : ms ∈ timeout.millis) :
    ∃ ms' ∈ timeout'.millis, ms ≤ ms' := by
  have counted : millisOf timeout = ms.toNat := by
    rw [millisOf, Option.mem_def.mp given]
    rfl
  cases given' : timeout'.millis with
  | none =>
      have zero : ms.toNat = 0 := by
        rw [← counted]
        exact Nat.le_zero.mp (ordered.trans_eq (millisOf_eq_zero.mpr given'))
      exact absurd (UInt32.toNat_inj.mp zero) (timeout.positive ms given)
  | some ms' =>
      refine ⟨ms', rfl, ?_⟩
      rw [counted, millisOf, given'] at ordered
      exact UInt32.le_iff_toNat_le.mpr ordered

section

variable (nativeId : Nat) (isolationLevel : Dart.IsolationLevel)
  (savepointDialect : Dart.SavepointDialect) (accessMode : Dart.TransactionAccessMode)
  (micros : UInt64)

theorem millisOf_sentLockTimeout :
    millisOf (sentLockTimeout nativeId isolationLevel savepointDialect accessMode micros) =
      if 0 < micros.toNat ∧ micros.toNat < 1000 then 1
      else min (micros.toNat / 1000) 4294967295 := by
  have whole : (micros.toNat : Int).tdiv 1000 = ((micros.toNat / 1000 : Nat) : Int) := rfl
  have wire (sent : Int) : (BitVec.ofInt 32 sent).toNat = (sent % 4294967296).toNat :=
    BitVec.toNat_ofInt sent
  rw [sentLockTimeout, millisOf_fromMillis, Dart.BeginRequest.nativeLockTimeoutMs,
    UInt32.toNat_ofBitVec, wire]
  simp only [Dart.BeginRequest.of, Dart.lockTimeoutMs, whole]
  split_ifs <;> omega

/-- For every duration of some microseconds: both sides make the same timeout of it, and of a
longer duration one that is overridden as well and is not shorter. -/
theorem sentLockTimeout_eq_fromDuration :
    sentLockTimeout nativeId isolationLevel savepointDialect accessMode micros =
        .fromDuration (.fromMicros micros) ∧
      ∀ longer, micros ≤ longer →
        ∀ ms ∈ (sentLockTimeout nativeId isolationLevel savepointDialect accessMode micros).millis,
          ∃ ms' ∈ (sentLockTimeout nativeId isolationLevel savepointDialect accessMode
            longer).millis, ms ≤ ms' := by
  constructor
  · apply eq_of_millisOf_eq
    rw [millisOf_sentLockTimeout, millisOf_fromDuration, Duration.asNanos_fromMicros]
    have whole : micros.toNat * 1000 / 1000000 = micros.toNat / 1000 := by omega
    rw [whole]
    split_ifs <;> omega
  · intro longer ordered ms given
    refine exists_millis_of_le ?_ given
    have counts : micros.toNat ≤ longer.toNat := UInt64.le_iff_toNat_le.mp ordered
    have whole : micros.toNat / 1000 ≤ longer.toNat / 1000 := Nat.div_le_div_right counts
    rw [millisOf_sentLockTimeout, millisOf_sentLockTimeout]
    split_ifs <;> omega

end

end OdbcFast.Verification
