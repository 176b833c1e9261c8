import Mathlib.Algebra.Order.Ring.Int
import Mathlib.Data.List.TakeWhile
import Mathlib.Tactic.Common

/-!
# Decimal numerals

`denoted?` is the integer a text denotes: an optional sign and at least one
decimal digit, nothing else, of any size. `parseInt` is the checked parser of a
bounded integer type, which multiplies and adds within the bounds digit by digit.
The two agree up to the bounds: the parser accepts exactly the numerals whose
value lies in range, although it checks intermediate values only. `decimal?` is the number
that a text with a decimal point denotes.
-/

namespace Wire

namespace Numeral

def digitValue? (c : Char) : Option Nat :=
  if 48 ≤ c.toNat ∧ c.toNat ≤ 57 then some (c.toNat - 48) else none

/-- The value of a run of digits behind a prefix of value `n`. -/
def decimalValue? : List Char → Nat → Option Nat
  | [], n => some n
  | c :: cs, n =>
    match digitValue? c with
    | none => none
    | some d => decimalValue? cs (n * 10 + d)

/-- Sign and digits of a numeral. A sign alone, like the empty text, is none. -/
def split? : List Char → Option (Int × List Char)
  | [] => none
  | c :: cs =>
    if c = '+' ∨ c = '-' then
      if cs = [] then none else some (if c = '-' then -1 else 1, cs)
    else some (1, c :: cs)

/-- The integer that a text denotes. -/
def denoted? (text : List Char) : Option Int :=
  match split? text with
  | none => none
  | some (sign, digits) => (decimalValue? digits 0).map fun (n : Nat) => sign * (n : Int)

/-- Checked accumulation: product and sum are each kept within the bounds. -/
def accumulate (lo hi sign : Int) : List Char → Int → Option Int
  | [], acc => some acc
  | c :: cs, acc =>
    if lo ≤ acc * 10 ∧ acc * 10 ≤ hi then
      match digitValue? c with
      | none => none
      | some d =>
        if lo ≤ acc * 10 + sign * (d : Int) ∧ acc * 10 + sign * (d : Int) ≤ hi then
          accumulate lo hi sign cs (acc * 10 + sign * (d : Int))
        else none
    else none

def parseInt (lo hi : Int) (text : List Char) : Option Int :=
  match split? text with
  | none => none
  | some (sign, digits) => accumulate lo hi sign digits 0

def inRange (lo hi v : Int) : Bool := lo ≤ v ∧ v ≤ hi

section

variable {lo hi sign : Int}

theorem le_of_decimalValue? {cs : List Char} {n v : Nat} (h : decimalValue? cs n = some v) :
    n ≤ v := by
  induction cs generalizing n with
  | nil => exact Nat.le_of_eq (Option.some.inj h)
  | cons c cs ih =>
      rw [decimalValue?] at h
      cases digit : digitValue? c with
      | none => simp [digit] at h
      | some d =>
          simp only [digit] at h
          have := ih h
          omega

/-- More digits never bring a value back into the bounds. -/
theorem filter_eq_none {cs : List Char} {n : Nat}
    (closed : ∀ m n : Nat, m ≤ n → inRange lo hi (sign * n) → inRange lo hi (sign * m))
    (out : ¬ inRange lo hi (sign * n)) :
    ((decimalValue? cs n).map fun (v : Nat) => sign * (v : Int)).filter (inRange lo hi) = none := by
  rw [Option.filter_eq_none_iff]
  intro v member
  obtain ⟨w, value, rfl⟩ := Option.map_eq_some_iff.mp member
  exact fun within => out (closed n w (le_of_decimalValue? value) within)

theorem accumulate_eq (cs : List Char) {n : Nat}
    (closed : ∀ m n : Nat, m ≤ n → inRange lo hi (sign * n) → inRange lo hi (sign * m))
    (within : inRange lo hi (sign * n)) :
    accumulate lo hi sign cs (sign * n) =
      ((decimalValue? cs n).map fun (v : Nat) => sign * (v : Int)).filter (inRange lo hi) := by
  induction cs generalizing n with
  | nil => simp [accumulate, decimalValue?, Option.filter, within]
  | cons c cs ih =>
      have product : sign * (n : Int) * 10 = sign * ((n * 10 : Nat) : Int) := by
        push_cast
        rw [Int.mul_assoc]
      rw [accumulate, product]
      by_cases ten : inRange lo hi (sign * ((n * 10 : Nat) : Int))
      · rw [if_pos (of_decide_eq_true ten), decimalValue?]
        cases digit : digitValue? c with
        | none => rfl
        | some d =>
            have sum : sign * ((n * 10 : Nat) : Int) + sign * (d : Int) =
                sign * ((n * 10 + d : Nat) : Int) := by
              push_cast
              rw [Int.mul_add]
            simp only [sum]
            by_cases next : inRange lo hi (sign * ((n * 10 + d : Nat) : Int))
            · rw [if_pos (of_decide_eq_true next), ih next]
            · rw [if_neg (by simpa [inRange] using next), filter_eq_none closed next]
      · rw [if_neg (by simpa [inRange] using ten), decimalValue?]
        cases digit : digitValue? c with
        | none => rfl
        | some d =>
            have out : ¬ inRange lo hi (sign * ((n * 10 + d : Nat) : Int)) :=
              fun within => ten (closed _ _ (Nat.le_add_right _ _) within)
            exact (filter_eq_none closed out).symm

theorem split?_sign {text digits : List Char} (h : split? text = some (sign, digits)) :
    sign = 1 ∨ sign = -1 := by
  cases text with
  | nil => cases h
  | cons c cs =>
      rw [split?] at h
      split_ifs at h with signed alone minus <;> simp_all

/-- The bounded parser accepts exactly the numerals in range, with their value. -/
theorem parseInt_eq (low : lo ≤ 0) (high : 0 ≤ hi) (text : List Char) :
    parseInt lo hi text = (denoted? text).filter (inRange lo hi) := by
  rw [parseInt, denoted?]
  cases parts : split? text with
  | none => rfl
  | some pair =>
      obtain ⟨sign, digits⟩ := pair
      have closed : ∀ m n : Nat, m ≤ n → inRange lo hi (sign * n) →
          inRange lo hi (sign * m) := by
        intro m n le within
        simp only [inRange, decide_eq_true_eq] at within ⊢
        rcases split?_sign parts with rfl | rfl <;> omega
      have zero : inRange lo hi (sign * (0 : Nat)) := by
        simpa [inRange] using ⟨low, high⟩
      have start := accumulate_eq digits closed zero
      simpa using start

end

/-! ## The text of an integer -/

theorem decimalValue?_of_digits {cs : List Char} (digits : ∀ c ∈ cs, c.isDigit) (n : Nat) :
    decimalValue? cs n = some (Nat.ofDigitChars 10 cs n) := by
  induction cs generalizing n with
  | nil => rw [decimalValue?, Nat.ofDigitChars_nil]
  | cons c cs ih =>
      have digit := Char.isDigit_iff_toNat.mp (digits c List.mem_cons_self)
      have value : digitValue? c = some (c.toNat - '0'.toNat) := if_pos digit
      rw [decimalValue?, value, Nat.ofDigitChars_cons, Nat.mul_comm 10 n]
      exact ih (fun c later => digits c (List.mem_cons_of_mem _ later)) _

theorem decimalValue?_toDigits (n : Nat) : decimalValue? (Nat.toDigits 10 n) 0 = some n := by
  rw [decimalValue?_of_digits fun c => Nat.isDigit_of_mem_toDigits (by decide) (by decide),
    Nat.ofDigitChars_ten_toDigits]

theorem not_sign_of_isDigit {c : Char} (digit : c.isDigit) : ¬ (c = '+' ∨ c = '-') := by
  rintro (rfl | rfl) <;> cases digit

/-- A minus sign in front of a negative number, and its digits. -/
theorem toList_toString (i : Int) :
    (toString i).toList = (if i < 0 then ['-'] else []) ++ Nat.toDigits 10 i.natAbs := by
  cases i with
  | ofNat n =>
      rw [Int.toString_eq_repr, Int.repr, Nat.toList_repr]
      rfl
  | negSucc n =>
      rw [Int.toString_eq_repr, Int.repr, String.toList_append, Nat.toList_repr,
        if_pos (Int.negSucc_lt_zero n)]
      rfl

theorem split?_toString (i : Int) :
    split? (toString i).toList = some (if i < 0 then -1 else 1, Nat.toDigits 10 i.natAbs) := by
  rw [toList_toString]
  split_ifs with negative
  · rw [List.cons_append, List.nil_append, split?, if_pos (.inr rfl), if_neg Nat.toDigits_ne_nil,
      if_pos rfl]
  · rw [List.nil_append]
    cases digits : Nat.toDigits 10 i.natAbs with
    | nil => exact absurd digits Nat.toDigits_ne_nil
    | cons c cs =>
        have digit : c.isDigit := Nat.isDigit_of_mem_toDigits (b := 10) (by decide) (by decide)
          (digits ▸ List.mem_cons_self)
        rw [split?, if_neg (not_sign_of_isDigit digit)]

/-- The text of an integer denotes it. -/
theorem denoted?_toString (i : Int) : denoted? (toString i).toList = some i := by
  rw [denoted?, split?_toString]
  dsimp only
  rw [decimalValue?_toDigits, Option.map_some]
  congr 1
  split_ifs <;> omega

theorem parseInt_toString {lo hi i : Int} (low : lo ≤ 0) (high : 0 ≤ hi)
    (within : lo ≤ i ∧ i ≤ hi) : parseInt lo hi (toString i).toList = some i := by
  rw [parseInt_eq low high, denoted?_toString, Option.filter_some, if_pos]
  exact decide_eq_true within

/-- Digits and the minus sign are all there is in the text. -/
theorem mem_toString {i : Int} {c : Char} (written : c ∈ (toString i).toList) :
    c = '-' ∨ c.isDigit := by
  rw [toList_toString, List.mem_append] at written
  rcases written with sign | digit
  · split_ifs at sign
    · exact .inl (List.mem_singleton.mp sign)
    · cases sign
  · exact .inr (Nat.isDigit_of_mem_toDigits (by decide) (by decide) digit)

/-! ## Decimal points -/

/-- The number that a text with or without a decimal point denotes: an integer, and how many
of its digits stand behind the point. A point has digits on both sides. -/
def decimal? (text : List Char) : Option (Int × Nat) :=
  match split? text with
  | none => none
  | some (sign, digits) =>
    let whole := digits.takeWhile (· ≠ '.')
    match digits.dropWhile (· ≠ '.') with
    | [] => (decimalValue? whole 0).map fun (n : Nat) => (sign * (n : Int), 0)
    | _ :: decimals =>
      if whole = [] ∨ decimals = [] then none
      else (decimalValue? (whole ++ decimals) 0).map fun (n : Nat) =>
        (sign * (n : Int), decimals.length)

theorem split?_toString_append (i : Int) (rest : List Char) :
    split? ((toString i).toList ++ rest) =
      some (if i < 0 then -1 else 1, Nat.toDigits 10 i.natAbs ++ rest) := by
  rw [toList_toString]
  cases digits : Nat.toDigits 10 i.natAbs with
  | nil => exact absurd digits Nat.toDigits_ne_nil
  | cons c cs =>
      split_ifs with negative
      · rw [List.append_assoc, List.singleton_append, split?, if_pos (.inr rfl), if_neg (by simp),
          if_pos rfl]
      · have digit : c.isDigit := Nat.isDigit_of_mem_toDigits (b := 10) (by decide) (by decide)
          (digits ▸ List.mem_cons_self)
        rw [List.nil_append, List.cons_append, split?, if_neg (not_sign_of_isDigit digit)]

theorem ne_point_of_mem_toDigits {n : Nat} {c : Char} (digit : c ∈ Nat.toDigits 10 n) :
    decide (c ≠ '.') = true := by
  have isDigit := Nat.isDigit_of_mem_toDigits (by decide) (by decide) digit
  rw [decide_eq_true_eq]
  rintro rfl
  cases isDigit

theorem decimal?_toString (i : Int) : decimal? (toString i).toList = some (i, 0) := by
  have parts := split?_toString_append i []
  rw [List.append_nil, List.append_nil] at parts
  rw [decimal?, parts]
  dsimp only
  rw [List.dropWhile_eq_nil_iff.mpr fun c => ne_point_of_mem_toDigits,
    List.takeWhile_eq_self_iff.mpr fun c => ne_point_of_mem_toDigits]
  dsimp only
  rw [decimalValue?_toDigits, Option.map_some]
  congr 2
  split_ifs <;> omega

/-- The digits behind the point go on where those in front of it end. -/
theorem decimal?_point (i : Int) {decimals : List Char} (some' : decimals ≠ [])
    (digits : ∀ c ∈ decimals, c.isDigit) :
    decimal? ((toString i).toList ++ '.' :: decimals) =
      some ((if i < 0 then -1 else 1) *
        ((i.natAbs * 10 ^ decimals.length + Nat.ofDigitChars 10 decimals 0 : Nat) : Int),
        decimals.length) := by
  have whole : ∀ c ∈ Nat.toDigits 10 i.natAbs ++ decimals, c.isDigit := by
    intro c member
    rcases List.mem_append.mp member with first | second
    · exact Nat.isDigit_of_mem_toDigits (by decide) (by decide) first
    · exact digits c second
  rw [decimal?, split?_toString_append]
  dsimp only
  rw [List.dropWhile_append_of_pos fun c => ne_point_of_mem_toDigits,
    List.takeWhile_append_of_pos fun c => ne_point_of_mem_toDigits,
    List.dropWhile_cons_of_neg (by decide), List.takeWhile_cons_of_neg (by decide),
    List.append_nil]
  dsimp only
  rw [if_neg (not_or.mpr ⟨Nat.toDigits_ne_nil, some'⟩), decimalValue?_of_digits whole,
    Option.map_some, Nat.ofDigitChars_append, Nat.ofDigitChars_ten_toDigits,
    Nat.ofDigitChars_eq_ofDigitChars_zero, Nat.mul_comm]

end Numeral

end Wire
