import Mathlib.Algebra.Order.Ring.Int
import Mathlib.Order.Nat
import OdbcFast.Wire.Bytes

/-!
# Buffers for native calls

A native function fills a buffer that the caller provides and says when it is too
small. The caller starts with one size and doubles it until the answer fits or the
limit is passed. What comes back is the data or nothing: a refusal, a result that does
not fit and a limit below the first size all look the same.
-/

namespace OdbcFast.Dart

open Wire

/-- What a native function answers: code 0 with the data, code -2, or another code. -/
inductive FfiAnswer where
  | written (data : Bytes)
  | tooSmall
  | failed
  deriving DecidableEq, Repr

/-- What `callWithBuffer` makes of a returned number. -/
def FfiAnswer.ofCode : Int × Bytes → FfiAnswer
  | (0, data) => .written data
  | (-2, _) => .tooSmall
  | _ => .failed

def initialBufferSize : Nat := 64 * 1024
def maxBufferSize : Int := 16 * 1024 * 1024

/-- The loop of `callWithBuffer`. A first size of zero, which no caller passes, would stay zero. -/
def callWithSizes (fn : Nat → FfiAnswer) (limit : Int) (size : Nat) : Option Bytes :=
  if 0 < size ∧ (size : Int) ≤ limit then
    match fn size with
    | .written data => some data
    | .tooSmall => callWithSizes fn limit (size * 2)
    | .failed => none
  else none
termination_by (limit + 1 - size).toNat
decreasing_by omega

def callWithBuffer (fn : Nat → FfiAnswer) (maxSize : Option Int) : Option Bytes :=
  callWithSizes fn (maxSize.getD maxBufferSize) initialBufferSize

/-- What one native call came to. -/
inductive Execution where
  | failed
  | produced (data : Bytes)
  deriving DecidableEq, Repr

/-- The answer for a buffer of some size. -/
def Execution.answer : Execution → Nat → FfiAnswer
  | .failed, _ => .failed
  | .produced data, size => if data.length ≤ size then .written data else .tooSmall

/-- A native function called with a buffer of each size. -/
abbrev NativeCall := Nat → Execution

def NativeCall.receive (native : NativeCall) (maxSize : Option Int) : Option Bytes :=
  callWithBuffer (fun size => (native size).answer size) maxSize

/-- Some size within the limit holds what the call for it produced, and every smaller one was
too small for what its call produced. -/
def NativeCall.Fills (native : NativeCall) (limit : Int) (size : Nat) (data : Bytes) : Prop :=
  ∃ doublings : Nat, ((size * 2 ^ doublings : Nat) : Int) ≤ limit ∧
    native (size * 2 ^ doublings) = .produced data ∧ data.length ≤ size * 2 ^ doublings ∧
    ∀ fewer < doublings, ∃ larger, native (size * 2 ^ fewer) = .produced larger ∧
      size * 2 ^ fewer < larger.length

/-- The native library produced the data, and it fits the limit. -/
def NativeCall.Delivers (native : NativeCall) (maxSize : Option Int) (data : Bytes) : Prop :=
  native.Fills (maxSize.getD maxBufferSize) initialBufferSize data

theorem NativeCall.fills_of_fits {native : NativeCall} {limit : Int} {size : Nat}
    {produced received : Bytes} (allowed : (size : Int) ≤ limit)
    (called : native size = .produced produced) (fits : produced.length ≤ size) :
    native.Fills limit size received ↔ produced = received := by
  constructor
  · rintro ⟨doublings, -, called', -, smaller⟩
    cases doublings with
    | zero =>
        rw [Nat.pow_zero, Nat.mul_one, called] at called'
        exact Execution.produced.inj called'
    | succ doublings =>
        obtain ⟨larger, called', tooLarge⟩ := smaller 0 (Nat.succ_pos doublings)
        rw [Nat.pow_zero, Nat.mul_one] at called' tooLarge
        cases called.symm.trans called'
        exact absurd fits (Nat.not_le.mpr tooLarge)
  · rintro rfl
    refine ⟨0, ?_, ?_, ?_, by rintro _ ⟨⟩⟩
    · rwa [Nat.pow_zero, Nat.mul_one]
    · rwa [Nat.pow_zero, Nat.mul_one]
    · rwa [Nat.pow_zero, Nat.mul_one]

theorem NativeCall.fills_of_tooLarge {native : NativeCall} {limit : Int} {size : Nat}
    {produced received : Bytes} (called : native size = .produced produced)
    (tooLarge : size < produced.length) :
    native.Fills limit size received ↔ native.Fills limit (size * 2) received := by
  have doubled (n : Nat) : size * 2 * 2 ^ n = size * 2 ^ (n + 1) := by
    rw [Nat.mul_assoc, Nat.pow_succ']
  simp only [Fills, doubled]
  constructor
  · rintro ⟨doublings, allowed, called', fits, smaller⟩
    cases doublings with
    | zero =>
        rw [Nat.pow_zero, Nat.mul_one] at called' fits
        cases called.symm.trans called'
        exact absurd fits (Nat.not_le.mpr tooLarge)
    | succ doublings =>
        refine ⟨doublings, allowed, called', fits, ?_⟩
        intro fewer less
        exact smaller (fewer + 1) (Nat.succ_lt_succ less)
  · rintro ⟨doublings, allowed, called', fits, smaller⟩
    refine ⟨doublings + 1, allowed, called', fits, ?_⟩
    intro fewer less
    cases fewer with
    | zero =>
        rw [Nat.pow_zero, Nat.mul_one]
        exact ⟨produced, called, tooLarge⟩
    | succ fewer => exact smaller fewer (Nat.lt_of_succ_lt_succ less)

/-- The loop returns data exactly when it fills a buffer of the loop. -/
theorem callWithSizes_eq_some {native : NativeCall} {limit : Int} {size : Nat} {data : Bytes}
    (positive : 0 < size) :
    callWithSizes (fun size => (native size).answer size) limit size = some data ↔
      native.Fills limit size data := by
  rw [callWithSizes]
  split_ifs with within
  · cases called : native size with
    | failed =>
        refine iff_of_false (by simp [Execution.answer]) ?_
        rintro ⟨doublings, -, called', -, smaller⟩
        cases doublings with
        | zero =>
            rw [Nat.pow_zero, Nat.mul_one, called] at called'
            cases called'
        | succ doublings =>
            obtain ⟨larger, called', -⟩ := smaller 0 (Nat.succ_pos doublings)
            rw [Nat.pow_zero, Nat.mul_one, called] at called'
            cases called'
    | produced produced =>
        by_cases fits : produced.length ≤ size
        · simp only [Execution.answer, if_pos fits, Option.some.injEq]
          exact (NativeCall.fills_of_fits within.2 called fits).symm
        · simp only [Execution.answer, if_neg fits]
          rw [NativeCall.fills_of_tooLarge called (Nat.lt_of_not_le fits)]
          exact callWithSizes_eq_some (Nat.mul_pos positive Nat.two_pos)
  · -- a larger size is above the limit too
    refine iff_of_false (by simp) ?_
    rintro ⟨doublings, allowed, -⟩
    have grown : size ≤ size * 2 ^ doublings := Nat.le_mul_of_pos_right size (Nat.two_pow_pos _)
    omega
termination_by (limit + 1 - size).toNat
decreasing_by omega

/-- A call brings data exactly when the library produced it and it fits. -/
theorem NativeCall.receive_eq_some {native : NativeCall} {maxSize : Option Int} {data : Bytes} :
    native.receive maxSize = some data ↔ native.Delivers maxSize data :=
  callWithSizes_eq_some (by decide)

theorem NativeCall.receive_eq_none {native : NativeCall} {maxSize : Option Int} :
    native.receive maxSize = none ↔ ∀ data, ¬ native.Delivers maxSize data := by
  rw [Option.eq_none_iff_forall_ne_some]
  exact forall_congr' fun data => not_congr receive_eq_some

/-- A library that produces the same data for every buffer is called until a buffer holds it. -/
theorem NativeCall.receive_produced (data : Bytes) :
    NativeCall.receive (fun _ => .produced data) none =
      if (data.length : Int) ≤ maxBufferSize then some data else none := by
  have largest : ((initialBufferSize * 2 ^ 8 : Nat) : Int) = maxBufferSize := by decide
  split_ifs with fits
  · have enough : ∃ doublings, data.length ≤ initialBufferSize * 2 ^ doublings := ⟨8, by omega⟩
    have first : Nat.find enough ≤ 8 := Nat.find_min' enough (by omega)
    have below : initialBufferSize * 2 ^ Nat.find enough ≤ initialBufferSize * 2 ^ 8 :=
      Nat.mul_le_mul_left _ (Nat.pow_le_pow_right Nat.two_pos first)
    refine receive_eq_some.mpr ⟨Nat.find enough, ?_, rfl, Nat.find_spec enough, ?_⟩
    · rw [Option.getD_none]
      omega
    · intro fewer less
      exact ⟨data, rfl, Nat.lt_of_not_le (Nat.find_min enough less)⟩
  · refine receive_eq_none.mpr ?_
    rintro _ ⟨doublings, allowed, produced, within, -⟩
    cases produced
    rw [Option.getD_none] at allowed
    omega

/-- Only one result is delivered. -/
theorem NativeCall.Delivers.unique {native : NativeCall} {maxSize : Option Int} {data other : Bytes}
    (delivers : native.Delivers maxSize data) (delivers' : native.Delivers maxSize other) :
    data = other :=
  Option.some.inj ((receive_eq_some.mpr delivers).symm.trans (receive_eq_some.mpr delivers'))

/-! ## Libraries with a state -/

section

variable {σ : Type} {fn : Nat → σ → σ × FfiAnswer} {limit : Int} {data received : Bytes}

/-- The loop of `callWithBuffer`, and what its calls do to the library. -/
def callWithSizesOn (fn : Nat → σ → σ × FfiAnswer) (limit : Int) (size : Nat) (state : σ) :
    σ × Option Bytes :=
  if 0 < size ∧ (size : Int) ≤ limit then
    match fn size state with
    | (next, .written data) => (next, some data)
    | (next, .tooSmall) => callWithSizesOn fn limit (size * 2) next
    | (next, .failed) => (next, none)
  else (state, none)
termination_by (limit + 1 - size).toNat
decreasing_by omega

def callWithBufferOn (fn : Nat → σ → σ × FfiAnswer) (maxSize : Option Int) (state : σ) :
    σ × Option Bytes :=
  callWithSizesOn fn (maxSize.getD maxBufferSize) initialBufferSize state

/-- A library that stays as it is. -/
theorem callWithSizesOn_const (fn : Nat → FfiAnswer) (limit : Int) (size : Nat) (state : σ) :
    callWithSizesOn (fun size state => (state, fn size)) limit size state =
      (state, callWithSizes fn limit size) := by
  rw [callWithSizesOn, callWithSizes]
  split_ifs with within
  · cases fn size with
    | written data => rfl
    | tooSmall => exact callWithSizesOn_const fn limit (size * 2) state
    | failed => rfl
  · rfl
termination_by (limit + 1 - size).toNat
decreasing_by omega

/-- How the loop leaves the library: each call either leads to a larger one or is the last. -/
theorem callWithSizesOn_ends {holding : Nat → σ → Prop} {done : σ → Prop} {size : Nat} {state : σ}
    (stops : ∀ size state, holding size state → limit < size → done state)
    (goes : ∀ size state, holding size state → (size : Int) ≤ limit →
      (fn size state).2 = .tooSmall ∧ holding (size * 2) (fn size state).1 ∨
        (fn size state).2 ≠ .tooSmall ∧ done (fn size state).1)
    (positive : 0 < size) (held : holding size state) :
    done (callWithSizesOn fn limit size state).1 := by
  have next := goes size state held
  rw [callWithSizesOn]
  split_ifs with within
  · specialize next within.2
    generalize fn size state = answer at next
    obtain ⟨after, answer⟩ := answer
    obtain ⟨rfl, held⟩ | ⟨last, ended⟩ := next
    · exact callWithSizesOn_ends stops goes (Nat.mul_pos positive Nat.two_pos) held
    · cases answer with
      | written data => exact ended
      | tooSmall => exact absurd rfl last
      | failed => exact ended
  · exact stops size state held (by omega)
termination_by (limit + 1 - size).toNat
decreasing_by omega

/-- Data that some size within the limit holds while they are still there. -/
def ReachesBuffer (live : Nat → Prop) (limit : Int) (size : Nat) (data : Bytes) : Prop :=
  ∃ doublings : Nat, ((size * 2 ^ doublings : Nat) : Int) ≤ limit ∧ live (size * 2 ^ doublings) ∧
    data.length ≤ size * 2 ^ doublings

/-- Data that stay there reach a caller without a limit of its own up to the largest buffer. -/
theorem reachesBuffer_iff :
    ReachesBuffer (fun _ => True) maxBufferSize initialBufferSize data ↔
      (data.length : Int) ≤ maxBufferSize := by
  have largest : ((initialBufferSize * 2 ^ 8 : Nat) : Int) = maxBufferSize := by decide
  constructor
  · rintro ⟨doublings, allowed, -, fits⟩
    omega
  · intro fits
    exact ⟨8, largest.le, trivial, by omega⟩

/-- A library that holds on to some data: it hands them to the first buffer that is large enough,
answers -2 until then, and fails once they are gone. -/
structure HoldsData (fn : Nat → σ → σ × FfiAnswer) (holding : Nat → σ → Prop) (live : Nat → Prop)
    (limit : Int) (data : Bytes) : Prop where
  serves : ∀ size state, holding size state → (size : Int) ≤ limit → live size →
    data.length ≤ size → (fn size state).2 = .written data
  keeps : ∀ size state, holding size state → (size : Int) ≤ limit → live size →
    size < data.length →
    (fn size state).2 = .tooSmall ∧ holding (size * 2) (fn size state).1
  fails : ∀ size state, holding size state → (size : Int) ≤ limit → ¬ live size →
    (fn size state).2 = .failed
  live_of_double : ∀ size, live (size * 2) → live size

theorem HoldsData.live_of_doublings {holding : Nat → σ → Prop} {live : Nat → Prop} {size : Nat}
    (holds : HoldsData fn holding live limit data) (doublings : Nat)
    (later : live (size * 2 ^ doublings)) : live size := by
  induction doublings with
  | zero => rwa [Nat.pow_zero, Nat.mul_one] at later
  | succ doublings ih =>
      rw [Nat.pow_succ, ← Nat.mul_assoc] at later
      exact ih (holds.live_of_double _ later)

/-- The loop brings the data exactly when some buffer reaches them. -/
theorem callWithSizesOn_of_holds {holding : Nat → σ → Prop} {live : Nat → Prop} {size : Nat}
    {state : σ} (holds : HoldsData fn holding live limit data) (positive : 0 < size)
    (held : holding size state) :
    (callWithSizesOn fn limit size state).2 = some received ↔
      received = data ∧ ReachesBuffer live limit size data := by
  have doubled (n : Nat) : size * 2 * 2 ^ n = size * 2 ^ (n + 1) := by
    rw [Nat.mul_assoc, Nat.pow_succ']
  rw [callWithSizesOn]
  split_ifs with within
  · by_cases alive : live size
    · by_cases fits : data.length ≤ size
      · have answer := holds.serves size state held within.2 alive fits
        generalize fn size state = result at answer ⊢
        obtain ⟨next, answer'⟩ := result
        obtain rfl : answer' = .written data := answer
        have here : ReachesBuffer live limit size data :=
          ⟨0, by simpa using within.2, by simpa using alive, by simpa using fits⟩
        rw [and_iff_left here]
        exact Option.some_inj.trans eq_comm
      · obtain ⟨answer, held⟩ := holds.keeps size state held within.2 alive
          (Nat.lt_of_not_le fits)
        generalize fn size state = result at answer held ⊢
        obtain ⟨next, answer'⟩ := result
        obtain rfl : answer' = .tooSmall := answer
        refine (callWithSizesOn_of_holds holds (Nat.mul_pos positive Nat.two_pos) held).trans
          (and_congr_right fun _ => ?_)
        simp only [ReachesBuffer, doubled]
        constructor
        · rintro ⟨doublings, found⟩
          exact ⟨doublings + 1, found⟩
        · rintro ⟨doublings, found⟩
          cases doublings with
          | zero => exact absurd (by simpa using found.2.2) fits
          | succ doublings => exact ⟨doublings, found⟩
    · have answer := holds.fails size state held within.2 alive
      generalize fn size state = result at answer ⊢
      obtain ⟨next, answer'⟩ := result
      obtain rfl : answer' = .failed := answer
      refine iff_of_false (by simp) ?_
      rintro ⟨-, doublings, -, later, -⟩
      exact alive (holds.live_of_doublings doublings later)
  · refine iff_of_false (by simp) ?_
    rintro ⟨-, doublings, allowed, -⟩
    have grown : size ≤ size * 2 ^ doublings := Nat.le_mul_of_pos_right size (Nat.two_pow_pos _)
    omega
termination_by (limit + 1 - size).toNat
decreasing_by omega

end

end OdbcFast.Dart
