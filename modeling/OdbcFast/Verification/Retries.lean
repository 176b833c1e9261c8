import Mathlib.Algebra.Order.Field.Rat
import Mathlib.Data.List.Chain
import Mathlib.Tactic.Linarith
import OdbcFast.Dart.RetryHelper

/-!
# Retries and their delays

An operation that fails is to be run again as often as was asked for, with one wait between two
runs, no wait above the limit and none shorter than the one before. The loop bounds every delay
that it computes, but the first one it takes as it is, and it drops what is less than a
millisecond of it when it computes the second. A limit of at least one negative millisecond
makes it throw.
-/

namespace OdbcFast.Verification

open Dart RetryHelper

variable {T : Type} {options : RetryOptions} {results : Nat → OperationResult T} {attempt : Nat}
  {delay : Int}

/-! ## Runs -/

/-- The delays that are waited for, each computed from the one before. -/
inductive Backoff (options : RetryOptions) : Int → List Int → Prop where
  | nil (delay : Int) : Backoff options delay []
  | cons {delay next : Int} {waits : List Int} (computed : options.nextDelay delay = some next)
      (rest : Backoff options next waits) : Backoff options delay (delay :: waits)

/-- Runs with one wait between two of them. -/
def eventsOf (waits : List Int) : List RetryEvent :=
  .run :: waits.flatMap fun wait => [.wait wait, .run]

/-- The loop goes on while it is to, and returns the result of the last run. -/
structure RunsFrom (options : RetryOptions) (results : Nat → OperationResult T) (attempt : Nat)
    (waits : List Int) (execution : RetryExecution T) : Prop where
  retried : ∀ run < waits.length, Retried options results (attempt + run)
  stopped : ¬ Retried options results (attempt + waits.length)
  ending : execution.ending = .returned (results (attempt + waits.length))
  events : execution.events = eventsOf waits

/-- Milliseconds are cut towards zero. -/
theorem tdiv_neg_iff {duration : Int} : duration.tdiv 1000 < 0 ↔ duration ≤ -1000 := by
  obtain ⟨n, rfl | rfl⟩ := duration.eq_nat_or_neg
  · have cut : (n : Int).tdiv 1000 = (n : Int) / 1000 := Int.tdiv_eq_ediv_of_nonneg (by omega)
    rw [cut]
    omega
  · have cut : (n : Int).tdiv 1000 = (n : Int) / 1000 := Int.tdiv_eq_ediv_of_nonneg (by omega)
    rw [Int.neg_tdiv, cut]
    omega

theorem nextDelay_eq_none_iff : options.nextDelay delay = none ↔ options.maxDelay ≤ -1000 := by
  rw [RetryOptions.nextDelay, ← tdiv_neg_iff]
  split_ifs with negative
  · exact iff_of_true rfl negative
  · exact iff_of_false (by rintro ⟨⟩) negative

theorem runsFrom_of_stopped (stopped : ¬ Retried options results attempt) (delay : Int) :
    RunsFrom options results attempt [] (executeFrom options results attempt delay) := by
  rw [executeFrom_of_stopped stopped]
  exact ⟨by rintro _ ⟨⟩, stopped, rfl, rfl⟩

/-- Unless the limit is negative, the loop runs to its end. -/
theorem exists_runsFrom (bounded : -1000 < options.maxDelay) (results : Nat → OperationResult T)
    (attempt : Nat) (delay : Int) : ∃ waits, Backoff options delay waits ∧
      RunsFrom options results attempt waits (executeFrom options results attempt delay) := by
  by_cases again : Retried options results attempt
  · have some : options.nextDelay delay ≠ none := mt nextDelay_eq_none_iff.mp (by omega)
    obtain ⟨next, computed⟩ := Option.ne_none_iff_exists'.mp some
    obtain ⟨waits, backoff, retried, stopped, ending, events⟩ :=
      exists_runsFrom bounded results (attempt + 1) next
    have shift (run : Nat) : attempt + (run + 1) = attempt + 1 + run := by omega
    refine ⟨delay :: waits, .cons computed backoff, fun run less => ?_, ?_, ?_, ?_⟩
    · cases run with
      | zero => exact again
      | succ run =>
          rw [shift]
          exact retried run (Nat.lt_of_succ_lt_succ less)
    · rwa [List.length_cons, shift]
    · rw [executeFrom_of_retried again computed, List.length_cons, shift waits.length]
      exact ending
    · rw [executeFrom_of_retried again computed, events]
      rfl
  · exact ⟨[], .nil delay, runsFrom_of_stopped again delay⟩
termination_by (options.maxAttempts - attempt).toNat
decreasing_by
  have left := again.1
  omega

/-! ## Delays -/

/-- A whole number of milliseconds within the limit. -/
def Settled (options : RetryOptions) (delay : Int) : Prop :=
  ∃ ms, delay = ms * 1000 ∧ 0 ≤ ms ∧ ms ≤ options.maxDelay.tdiv 1000

theorem settled_nextDelay {next : Int} (computed : options.nextDelay delay = some next) :
    Settled options next := by
  rw [RetryOptions.nextDelay] at computed
  split_ifs at computed with negative
  cases computed
  exact ⟨_, rfl, le_max_left _ _, max_le (Int.not_lt.mp negative) (min_le_right _ _)⟩

theorem le_roundAway {value : ℚ} {n : Int} (positive : 0 ≤ value) :
    n ≤ roundAway value ↔ (n : ℚ) - 1 / 2 ≤ value := by
  rw [roundAway, if_pos positive, Int.le_floor]
  constructor
  · intro le
    linarith
  · intro le
    linarith

/-- A settled delay is not followed by a shorter one. -/
theorem le_nextDelay_of_settled {next : Int} (settled : Settled options delay)
    (grows : 1 ≤ options.backoffMultiplier) (computed : options.nextDelay delay = some next) :
    delay ≤ next := by
  obtain ⟨ms, rfl, positive, within⟩ := settled
  rw [RetryOptions.nextDelay] at computed
  split_ifs at computed with negative
  cases computed
  have whole : (ms * 1000).tdiv 1000 = ms := Int.mul_tdiv_cancel ms (by decide)
  have positive' : (0 : ℚ) ≤ ms := by exact_mod_cast positive
  have product : (ms : ℚ) ≤ ms * options.backoffMultiplier := le_mul_of_one_le_right positive' grows
  have rounded : ms ≤ roundAway (ms * options.backoffMultiplier) :=
    (le_roundAway (positive'.trans product)).mpr (by linarith)
  rw [whole]
  have enough : ms ≤ max 0 (min (roundAway (ms * options.backoffMultiplier))
      (options.maxDelay.tdiv 1000)) := le_max_of_le_right (le_min rounded within)
  omega

theorem le_maxDelay_of_settled (bounded : 0 ≤ options.maxDelay) (settled : Settled options delay) :
    delay ≤ options.maxDelay := by
  obtain ⟨ms, rfl, -, within⟩ := settled
  have whole : options.maxDelay.tdiv 1000 = options.maxDelay / 1000 :=
    Int.tdiv_eq_ediv_of_nonneg bounded
  omega

section

variable {waits : List Int}

theorem Backoff.head_eq (backoff : Backoff options delay waits) {wait : Int}
    (first : wait ∈ waits.head?) : wait = delay := by
  cases backoff with
  | nil => cases first
  | cons => exact (Option.some.inj first).symm

theorem Backoff.le_maxDelay (backoff : Backoff options delay waits)
    (bounded : 0 ≤ options.maxDelay) (settled : Settled options delay) :
    ∀ wait ∈ waits, wait ≤ options.maxDelay := by
  induction backoff with
  | nil => exact List.forall_mem_nil _
  | cons computed _ ih =>
      have later := ih (settled_nextDelay computed)
      exact List.forall_mem_cons.mpr ⟨le_maxDelay_of_settled bounded settled, later⟩

theorem Backoff.isChain (backoff : Backoff options delay waits)
    (grows : 1 ≤ options.backoffMultiplier) (settled : Settled options delay) :
    waits.IsChain (· ≤ ·) := by
  induction backoff with
  | nil => exact .nil
  | cons computed rest ih =>
      refine List.isChain_cons.mpr ⟨fun wait first => ?_, ih (settled_nextDelay computed)⟩
      rw [rest.head_eq first]
      exact le_nextDelay_of_settled settled grows computed

end

/-- The first delay is not above the second one exactly when nothing of it is dropped, or when
it grows by half a millisecond and the limit has room for what was dropped. -/
theorem le_nextDelay_iff {next : Int} (bounded : 0 ≤ options.maxDelay)
    (within : delay ≤ options.maxDelay) (grows : 1 ≤ options.backoffMultiplier)
    (computed : options.nextDelay delay = some next) :
    delay ≤ next ↔ delay ≤ 0 ∨ 1000 ∣ delay ∨ (delay / 1000 + 1) * 1000 ≤ options.maxDelay ∧
      1 / 2 ≤ ((delay / 1000 : Int) : ℚ) * (options.backoffMultiplier - 1) := by
  have whole : options.maxDelay.tdiv 1000 = options.maxDelay / 1000 :=
    Int.tdiv_eq_ediv_of_nonneg bounded
  by_cases none : delay ≤ 0
  · obtain ⟨ms, rfl, positive, -⟩ := settled_nextDelay computed
    exact iff_of_true (by omega) (.inl none)
  · by_cases whole' : 1000 ∣ delay
    · have settled : Settled options delay :=
        ⟨delay / 1000, (Int.ediv_mul_cancel whole').symm, by omega, by omega⟩
      exact iff_of_true (le_nextDelay_of_settled settled grows computed) (.inr (.inl whole'))
    · rw [or_iff_right none, or_iff_right whole']
      have cut : delay.tdiv 1000 = delay / 1000 := Int.tdiv_eq_ediv_of_nonneg (by omega)
      rw [RetryOptions.nextDelay] at computed
      split_ifs at computed with negative
      cases computed
      rw [cut, whole]
      have positive : (0 : ℚ) ≤ ((delay / 1000 : Int) : ℚ) * options.backoffMultiplier := by
        have ms : (0 : ℚ) ≤ ((delay / 1000 : Int) : ℚ) := by
          exact_mod_cast (show 0 ≤ delay / 1000 by omega)
        exact mul_nonneg ms (by linarith)
      have rounded := le_roundAway (n := delay / 1000 + 1) positive
      have half : ((delay / 1000 + 1 : Int) : ℚ) - 1 / 2 ≤
          ((delay / 1000 : Int) : ℚ) * options.backoffMultiplier ↔
            1 / 2 ≤ ((delay / 1000 : Int) : ℚ) * (options.backoffMultiplier - 1) := by
        rw [Int.cast_add, Int.cast_one, mul_sub, mul_one]
        constructor
        · intro le
          linarith
        · intro le
          linarith
      rw [← half, ← rounded]
      generalize roundAway _ = next
      omega

/-! ## The promise -/

/-- The runs and the waits of an execution are as they are asked for. -/
structure Executes (options : RetryOptions) (results : Nat → OperationResult T)
    (execution : RetryExecution T) (waits : List Int) : Prop where
  /-- One wait between two runs, and none elsewhere. -/
  events : execution.events = eventsOf waits
  ending : execution.ending = .returned (results (waits.length + 1))
  /-- No run but the last ends with a success or a failure that is not to be retried. -/
  goesOn : ∀ run, 1 ≤ run → run ≤ waits.length → options.retries (results run)
  atMost : (waits.length + 1 : Int) ≤ max 1 options.maxAttempts
  stops : options.retries (results (waits.length + 1)) →
    (waits.length + 1 : Int) = max 1 options.maxAttempts
  capped : ∀ wait ∈ waits, wait ≤ options.maxDelay
  grows : 1 ≤ options.backoffMultiplier → waits.IsChain (· ≤ ·)

def ExecutesAsAsked (options : RetryOptions) (results : Nat → OperationResult T)
    (execution : RetryExecution T) : Prop := ∃ waits, Executes options results execution waits

/-- What the options have to be like, as far as the results bring the loop to use them. -/
structure DelaysFit (options : RetryOptions) (results : Nat → OperationResult T) : Prop where
  first : Retried options results 1 →
    options.initialDelay ≤ options.maxDelay ∧ -1000 < options.maxDelay
  later : Retried options results 1 → Retried options results 2 → 0 ≤ options.maxDelay
  grows : Retried options results 1 → Retried options results 2 → 1 ≤ options.backoffMultiplier →
    options.initialDelay ≤ 0 ∨ 1000 ∣ options.initialDelay ∨
      (options.initialDelay / 1000 + 1) * 1000 ≤ options.maxDelay ∧
        1 / 2 ≤ ((options.initialDelay / 1000 : Int) : ℚ) * (options.backoffMultiplier - 1)

theorem eventsOf_injective : Function.Injective eventsOf := by
  intro waits
  induction waits with
  | nil =>
      rintro (_ | ⟨wait, waits⟩) same
      · rfl
      · cases same
  | cons wait waits ih =>
      rintro (_ | ⟨wait', waits'⟩) same
      · cases same
      · obtain ⟨head, rest⟩ := List.cons.inj (List.cons.inj same).2
        rw [RetryEvent.wait.inj head, ih rest]

theorem RunsFrom.executes {waits : List Int} {execution : RetryExecution T}
    (runs : RunsFrom options results 1 waits execution)
    (capped : ∀ wait ∈ waits, wait ≤ options.maxDelay)
    (grows : 1 ≤ options.backoffMultiplier → waits.IsChain (· ≤ ·)) :
    Executes options results execution waits := by
  obtain ⟨retried, stopped, ending, events⟩ := runs
  rw [Nat.add_comm] at stopped ending
  have atMost : (waits.length + 1 : Int) ≤ max 1 options.maxAttempts := by
    obtain none | some := Nat.eq_zero_or_pos waits.length
    · omega
    · have last := (retried (waits.length - 1) (by omega)).1
      omega
  refine ⟨events, ending, fun run positive within => ?_, atMost, fun again => ?_, capped, grows⟩
  · have here := (retried (run - 1) (by omega)).2
    rwa [Nat.add_sub_cancel' positive] at here
  · have enough : ¬ ((waits.length + 1 : Nat) : Int) < options.maxAttempts :=
      fun left => stopped ⟨left, again⟩
    omega

/-- The waits of a run are determined by its events. -/
theorem RunsFrom.executesAsAsked_iff {waits : List Int} {execution : RetryExecution T}
    (runs : RunsFrom options results 1 waits execution) :
    ExecutesAsAsked options results execution ↔
      (∀ wait ∈ waits, wait ≤ options.maxDelay) ∧
        (1 ≤ options.backoffMultiplier → waits.IsChain (· ≤ ·)) := by
  constructor
  · rintro ⟨waits', executes⟩
    obtain rfl : waits' = waits := eventsOf_injective (executes.events.symm.trans runs.events)
    exact ⟨executes.capped, executes.grows⟩
  · rintro ⟨capped, grows⟩
    exact ⟨waits, runs.executes capped grows⟩

theorem delaysFit_of_stopped (stopped : ¬ Retried options results 1) : DelaysFit options results :=
  ⟨fun again => absurd again stopped, fun again => absurd again stopped,
    fun again => absurd again stopped⟩

/-- With one retry there is one wait. -/
theorem delaysFit_of_once (bounded : -1000 < options.maxDelay)
    (again : Retried options results 1) (stopped : ¬ Retried options results 2) :
    DelaysFit options results ↔ options.initialDelay ≤ options.maxDelay :=
  ⟨fun fit => (fit.first again).1, fun within => ⟨fun _ => ⟨within, bounded⟩,
    fun _ more => absurd more stopped, fun _ more => absurd more stopped⟩⟩

/-- For every operation and all options: the loop does what is asked for exactly when no retry
comes up, or its delays fit: the first one is within the limit, and if there is a second one, the
limit is not negative and the first is not above it. -/
theorem execute_as_asked_iff (options : RetryOptions) (results : Nat → OperationResult T) :
    ExecutesAsAsked options results (execute options results) ↔ DelaysFit options results := by
  by_cases again : Retried options results 1
  · by_cases bounded : -1000 < options.maxDelay
    · obtain ⟨waits, backoff, runs⟩ := exists_runsFrom bounded results 1 options.initialDelay
      rw [execute, runs.executesAsAsked_iff]
      cases backoff with
      | nil => exact absurd again runs.stopped
      | @cons _ next _ computed rest =>
          have settled := settled_nextDelay computed
          cases rest with
          | nil =>
              rw [delaysFit_of_once bounded again runs.stopped, List.forall_mem_singleton]
              exact and_iff_left fun _ => .singleton _
          | @cons _ _ waits computed' rest =>
              have more : Retried options results 2 := runs.retried 1 (by simp)
              have tail : Backoff options next (next :: waits) := .cons computed' rest
              have positive : 0 ≤ next := by
                obtain ⟨ms, rfl, positive, -⟩ := settled
                omega
              rw [List.forall_mem_cons, List.isChain_cons_cons]
              constructor
              · rintro ⟨⟨within, capped⟩, grows⟩
                have limit : 0 ≤ options.maxDelay :=
                  positive.trans (capped next List.mem_cons_self)
                exact ⟨fun _ => ⟨within, bounded⟩, fun _ _ => limit, fun _ _ grown =>
                  (le_nextDelay_iff limit within grown computed).mp (grows grown).1⟩
              · intro fit
                have limit := fit.later again more
                have within := (fit.first again).1
                exact ⟨⟨within, tail.le_maxDelay limit settled⟩, fun grown =>
                  ⟨(le_nextDelay_iff limit within grown computed).mpr (fit.grows again more grown),
                    tail.isChain grown settled⟩⟩
    · apply iff_of_false
      · rintro ⟨waits, executes⟩
        have ending := executes.ending
        rw [execute, executeFrom_of_threw again (nextDelay_eq_none_iff.mpr (by omega))] at ending
        cases ending
      · exact fun fit => bounded (fit.first again).2
  · have runs := runsFrom_of_stopped again options.initialDelay
    rw [execute, runs.executesAsAsked_iff]
    exact iff_of_true ⟨List.forall_mem_nil _, fun _ => .nil⟩ (delaysFit_of_stopped again)

/-- A minute of delay with a limit of half of one. -/
def longFirstDelay : RetryOptions := { initialDelay := 60000000 }

/-- The minute is waited for. -/
theorem longFirstDelay_exceeds :
    ¬ ExecutesAsAsked longFirstDelay
      (fun _ => (.failure ⟨.connection, "", some "08001", none⟩ : OperationResult Unit))
      (execute longFirstDelay fun _ => .failure ⟨.connection, "", some "08001", none⟩) := by
  rintro ⟨waits, executes⟩
  have again : Retried longFirstDelay (fun _ =>
      (.failure ⟨.connection, "", some "08001", none⟩ : OperationResult Unit)) 1 :=
    ⟨by decide, by decide⟩
  have events := executes.events
  obtain ⟨next, computed⟩ : ∃ next, longFirstDelay.nextDelay longFirstDelay.initialDelay =
      some next := Option.ne_none_iff_exists'.mp (mt nextDelay_eq_none_iff.mp (by decide))
  rw [execute, executeFrom_of_retried again computed] at events
  cases waits with
  | nil => cases events
  | cons wait waits =>
      have first : RetryEvent.wait 60000000 = .wait wait := (List.cons.inj (List.cons.inj events).2).1
      have capped := executes.capped wait List.mem_cons_self
      rw [← RetryEvent.wait.inj first] at capped
      revert capped
      decide

end OdbcFast.Verification
