import OdbcFast.Dart.Interval
import OdbcFast.Wire.Numeral
import Mathlib.Tactic.Ring
import Mathlib.Algebra.Order.Group.Unbundled.Abs

/-!
# Intervals

A rendered duration is read as a number of seconds, which is less than a millisecond from the
duration. The sign is that of the whole seconds, so it is lost when there are none.
-/

namespace OdbcFast.Verification

open Wire Dart

/-- The number in front of ` seconds`, as an integer and how many of its digits are decimals. -/
def seconds? (text : String) : Option (Int × Nat) :=
  if text.toList.dropWhile (· ≠ ' ') = " seconds".toList then
    Numeral.decimal? (text.toList.takeWhile (· ≠ ' '))
  else none

/-- The text is a number of seconds that is less than a millisecond from the duration. -/
def DenotesDuration (text : String) (d : Duration) : Prop :=
  ∃ mantissa decimals, seconds? text = some (mantissa, decimals) ∧
    |mantissa * 1000000 - d.inMicroseconds * 10 ^ decimals| < 1000 * 10 ^ decimals

theorem seconds?_of_number {text : String} {number : List Char} (plain : ' ' ∉ number)
    (written : text.toList = number ++ " seconds".toList) :
    seconds? text = Numeral.decimal? number := by
  have apart : ∀ c ∈ number, decide (c ≠ ' ') = true := by
    rintro c member
    rw [decide_eq_true_eq]
    rintro rfl
    exact plain member
  rw [seconds?, written, List.dropWhile_append_of_pos apart, List.takeWhile_append_of_pos apart]
  rw [show " seconds".toList = ' ' :: "seconds".toList from rfl,
    List.dropWhile_cons_of_neg (by decide), List.takeWhile_cons_of_neg (by decide),
    List.append_nil, if_pos rfl]

theorem not_mem_toString (i : Int) : ' ' ∉ (toString i).toList := by
  intro blank
  rcases Numeral.mem_toString blank with minus | digit
  · cases minus
  · cases digit

/-- Three digits, with zeros in front. -/
theorem padLeft_three {n : Nat} (small : n < 1000) :
    (padLeft 3 '0' (toString n)).toList.length = 3 ∧
      (∀ c ∈ (padLeft 3 '0' (toString n)).toList, c.isDigit) ∧
      Nat.ofDigitChars 10 (padLeft 3 '0' (toString n)).toList 0 = n := by
  have short : (Nat.toDigits 10 n).length ≤ 3 :=
    (Nat.length_toDigits_le_iff (by decide) (by decide)).mpr small
  have written : (padLeft 3 '0' (toString n)).toList =
      List.replicate (3 - (Nat.toDigits 10 n).length) '0' ++ Nat.toDigits 10 n := by
    rw [padLeft, String.toList_ofList, List.leftpad, Nat.toString_eq_repr, Nat.toList_repr]
  rw [written]
  refine ⟨?_, ?_, ?_⟩
  · rw [List.length_append, List.length_replicate]
    omega
  · intro c member
    rcases List.mem_append.mp member with zero | digit
    · rw [List.eq_of_mem_replicate zero]
      rfl
    · exact Nat.isDigit_of_mem_toDigits (by decide) (by decide) digit
  · rw [Nat.ofDigitChars_append, Nat.ofDigitChars_replicate_zero, Nat.mul_zero,
      Nat.ofDigitChars_ten_toDigits]

theorem remainderMillis_lt (d : Duration) : (d.inMilliseconds.tmod 1000).natAbs < 1000 := by
  rw [Int.natAbs_tmod]
  exact Nat.mod_lt _ (by decide)

/-- What a rendered duration is read as: the seconds with their sign, and the milliseconds
behind the point. -/
theorem seconds?_toIntervalString (d : Duration) :
    ∃ text, toIntervalString (.duration d) = .ok text ∧
      seconds? text = some (if (d.inMilliseconds.tmod 1000).natAbs = 0 then (d.inSeconds, 0)
        else ((if d.inSeconds < 0 then -1 else 1) *
          ((d.inSeconds.natAbs * 1000 + (d.inMilliseconds.tmod 1000).natAbs : Nat) : Int), 3)) := by
  generalize millis : (d.inMilliseconds.tmod 1000).natAbs = remainderMillis
  rw [toIntervalString, millis]
  by_cases whole : remainderMillis = 0
  · refine ⟨_, if_pos whole, ?_⟩
    rw [seconds?_of_number (not_mem_toString d.inSeconds) String.toList_append,
      Numeral.decimal?_toString, if_pos whole]
  · have small : remainderMillis < 1000 := millis ▸ remainderMillis_lt d
    obtain ⟨three, digits, value⟩ := padLeft_three small
    refine ⟨_, if_neg whole, ?_⟩
    generalize padLeft 3 '0' (toString remainderMillis) = pad at three digits value
    have plain : ' ' ∉ (toString d.inSeconds).toList ++ '.' :: pad.toList := by
      intro blank
      rcases List.mem_append.mp blank with number | behind
      · exact not_mem_toString d.inSeconds number
      · rcases List.mem_cons.mp behind with point | digit
        · cases point
        · cases digits ' ' digit
    have written : (toString d.inSeconds ++ "." ++ pad ++ " seconds").toList =
        ((toString d.inSeconds).toList ++ '.' :: pad.toList) ++ " seconds".toList := by
      simp only [String.toList_append, List.append_assoc]
      rfl
    have some' : pad.toList ≠ [] := by
      intro none
      rw [none] at three
      cases three
    rw [seconds?_of_number plain written, Numeral.decimal?_point d.inSeconds some' digits, three,
      value, if_neg whole]
    rfl

/-- Both numbers are cut towards zero, and what is cut off the seconds is in the remainder. -/
theorem duration_parts (d : Duration) :
    d.inMilliseconds = d.inSeconds * 1000 + d.inMilliseconds.tmod 1000 ∧
      (0 ≤ d.inMicroseconds → 0 ≤ d.inSeconds ∧ 0 ≤ d.inMilliseconds.tmod 1000 ∧
        0 ≤ d.inMicroseconds - d.inMilliseconds * 1000 ∧
        d.inMicroseconds - d.inMilliseconds * 1000 < 1000) ∧
      (d.inMicroseconds < 0 → d.inSeconds ≤ 0 ∧ d.inMilliseconds.tmod 1000 ≤ 0 ∧
        d.inMicroseconds - d.inMilliseconds * 1000 ≤ 0 ∧
        -1000 < d.inMicroseconds - d.inMilliseconds * 1000) := by
  rw [Duration.inMilliseconds, Duration.inSeconds]
  rcases le_or_gt 0 d.inMicroseconds with positive | negative
  · rw [Int.tdiv_eq_ediv_of_nonneg positive, Int.tdiv_eq_ediv_of_nonneg positive,
      Int.tmod_eq_emod_of_nonneg (Int.ediv_nonneg positive (by decide))]
    omega
  · generalize cut : -d.inMicroseconds = magnitude
    have positive : 0 ≤ magnitude := by omega
    rw [← Int.neg_neg d.inMicroseconds, cut, Int.neg_tdiv, Int.neg_tdiv, Int.neg_tmod,
      Int.tdiv_eq_ediv_of_nonneg positive, Int.tdiv_eq_ediv_of_nonneg positive,
      Int.tmod_eq_emod_of_nonneg (Int.ediv_nonneg positive (by decide))]
    omega

theorem denotesDuration_iff_of_read {text : String} {d : Duration} {mantissa : Int}
    {decimals : Nat} (read : seconds? text = some (mantissa, decimals)) :
    DenotesDuration text d ↔
      |mantissa * 1000000 - d.inMicroseconds * 10 ^ decimals| < 1000 * 10 ^ decimals := by
  constructor
  · rintro ⟨mantissa', decimals', read', near⟩
    cases read.symm.trans read'
    exact near
  · intro near
    exact ⟨mantissa, decimals, read, near⟩

/-- A duration is rendered with its length exactly when it is not a negative one of less than
a second that has milliseconds. -/
theorem denotesDuration_iff (d : Duration) :
    (∃ text, toIntervalString (.duration d) = .ok text ∧ DenotesDuration text d) ↔
      ¬ (-1000000 < d.inMicroseconds ∧ d.inMicroseconds ≤ -1000) := by
  obtain ⟨text, rendered, read⟩ := seconds?_toIntervalString d
  obtain ⟨total, positive, negative⟩ := duration_parts d
  have small := remainderMillis_lt d
  have denotes : (∃ text, toIntervalString (.duration d) = .ok text ∧ DenotesDuration text d) ↔
      DenotesDuration text d := by
    constructor
    · rintro ⟨text', rendered', same⟩
      cases rendered.symm.trans rendered'
      exact same
    · intro same
      exact ⟨text, rendered, same⟩
  rw [denotes]
  split_ifs at read with whole below
  · rw [denotesDuration_iff_of_read read, abs_lt]
    omega
  · rw [denotesDuration_iff_of_read read, abs_lt]
    omega
  · rw [denotesDuration_iff_of_read read, abs_lt]
    omega

/-- Half a second less than nothing is rendered as `0.500 seconds`. -/
theorem negative_half_second :
    ¬ ∀ d, ∃ text, toIntervalString (.duration d) = .ok text ∧ DenotesDuration text d := by
  intro denotes
  obtain ⟨text, rendered, mantissa, decimals, read, near⟩ := denotes ⟨-500000⟩
  have rendered' : toIntervalString (.duration ⟨-500000⟩) = .ok "0.500 seconds" := by
    decide +kernel
  cases rendered'.symm.trans rendered
  have read' : seconds? "0.500 seconds" = some (500, 3) := by decide +kernel
  cases read'.symm.trans read
  exact absurd near (by decide)

end OdbcFast.Verification
