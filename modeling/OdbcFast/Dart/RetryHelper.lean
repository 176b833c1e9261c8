import Mathlib.Data.Rat.Floor
import OdbcFast.Dart.OdbcError

/-!
# Retries with a growing delay

An operation is run again while its failure asks for it and attempts are left. Before each
further run a delay is waited for, and the next delay is computed in whole milliseconds.
-/

namespace OdbcFast.Dart

/-- Durations are in microseconds. The multiplier is the exact value of the floating-point
number. -/
structure RetryOptions where
  maxAttempts : Int := 3
  initialDelay : Int := 1000000
  maxDelay : Int := 30000000
  backoffMultiplier : ℚ := 2
  shouldRetry : Option (OdbcError → Bool) := none

/-- What one run of the operation returns. A failure may hold what is no `OdbcError`. -/
inductive OperationResult (T : Type) where
  | success (value : T)
  | failure (error : OdbcError)
  | exception (exception : DartException)

/-- `round` of a number: halves go away from zero. -/
def roundAway (value : ℚ) : Int := if 0 ≤ value then ⌊value + 1 / 2⌋ else ⌈value - 1 / 2⌉

namespace RetryOptions

/-- Whether a result asks for another run. -/
def retries {T : Type} (options : RetryOptions) : OperationResult T → Bool
  | .success _ => false
  | .failure error =>
    match options.shouldRetry with
    | some shouldRetry => shouldRetry error
    | none => error.isRetryable
  | .exception _ => false

/-- The delay behind a delay. `none` where `clamp` throws, since its bounds are in the wrong
order. -/
def nextDelay (options : RetryOptions) (delay : Int) : Option Int :=
  let nextMs := roundAway ((delay.tdiv 1000 : Int) * options.backoffMultiplier)
  let maxMs := options.maxDelay.tdiv 1000
  if maxMs < 0 then none else some (max 0 (min nextMs maxMs) * 1000)

end RetryOptions

inductive RetryEvent where
  | run
  | wait (delay : Int)
  deriving DecidableEq, Repr

inductive RetryEnding (T : Type) where
  | returned (result : OperationResult T)
  /-- `clamp` throws an `ArgumentError`. -/
  | threw

structure RetryExecution (T : Type) where
  ending : RetryEnding T
  events : List RetryEvent

namespace RetryHelper

variable {T : Type} (options : RetryOptions) (results : Nat → OperationResult T)

/-- The loop from some attempt on; the results are those of the runs, counted from one. -/
def executeFrom (attempt : Nat) (delay : Int) : RetryExecution T :=
  match results attempt with
  | .success value => ⟨.returned (.success value), [.run]⟩
  | result =>
    if options.maxAttempts ≤ attempt then ⟨.returned result, [.run]⟩
    else if ¬ options.retries result then ⟨.returned result, [.run]⟩
    else
      match options.nextDelay delay with
      | none => ⟨.threw, [.run, .wait delay]⟩
      | some next =>
        let rest := executeFrom (attempt + 1) next
        ⟨rest.ending, .run :: .wait delay :: rest.events⟩
termination_by (options.maxAttempts - attempt).toNat

def execute : RetryExecution T := executeFrom options results 1 options.initialDelay

/-- The run is not the last one: its result asks for another, and attempts are left. -/
def Retried (attempt : Nat) : Prop :=
  (attempt : Int) < options.maxAttempts ∧ options.retries (results attempt)

variable {options results} {attempt : Nat} {delay : Int}

theorem executeFrom_of_stopped (stopped : ¬ Retried options results attempt) :
    executeFrom options results attempt delay = ⟨.returned (results attempt), [.run]⟩ := by
  rw [executeFrom]
  split
  · next value succeeded => rw [succeeded]
  · split_ifs with last retries
    · rfl
    · exact absurd ⟨Int.not_le.mp last, retries⟩ stopped
    · rfl

theorem executeFrom_of_threw (retried : Retried options results attempt)
    (threw : options.nextDelay delay = none) :
    executeFrom options results attempt delay = ⟨.threw, [.run, .wait delay]⟩ := by
  obtain ⟨left, retries⟩ := retried
  rw [executeFrom]
  split
  · next value succeeded =>
      rw [succeeded] at retries
      cases retries
  · rw [if_neg (Int.not_le.mpr left), if_neg (not_not.mpr retries), threw]

theorem executeFrom_of_retried {next : Int} (retried : Retried options results attempt)
    (computed : options.nextDelay delay = some next) :
    executeFrom options results attempt delay =
      ⟨(executeFrom options results (attempt + 1) next).ending,
        .run :: .wait delay :: (executeFrom options results (attempt + 1) next).events⟩ := by
  obtain ⟨left, retries⟩ := retried
  rw [executeFrom]
  split
  · next value succeeded =>
      rw [succeeded] at retries
      cases retries
  · rw [if_neg (Int.not_le.mpr left), if_neg (not_not.mpr retries), computed]

end RetryHelper

end OdbcFast.Dart
