import Mathlib.Data.List.Basic
import Mathlib.Tactic.Common

/-!
# Machines driven by events

Several parties that take turns are one machine: an event says whose turn it is, a
step is refused where that party cannot move, and each step leaves an output. A run
is a list of events with the log of their outputs, so a statement about every
interleaving is a statement about every list of events.

Invariants speak of the state and the log together, since what a party was told is
part of what has to be right. `run_split` finds the moment an output was made.

`Along` says that every event of a run is taken in a state that allows it, for
guarantees that hold only while the parties keep to a rule.
-/

namespace Wire

universe u v w

variable {σ : Type u} {ι : Type v} {ω : Type w}

/-- Take the events in order; `none` as soon as one is refused. -/
def run (step : ι → σ → Option (σ × ω)) : List ι → σ → Option (σ × List ω)
  | [], state => some (state, [])
  | event :: events, state => do
      let (state, output) ← step event state
      let (state, log) ← run step events state
      some (state, output :: log)

variable {step : ι → σ → Option (σ × ω)} {event : ι} {events : List ι} {state final : σ}
  {log : List ω}

theorem run_cons_eq_some {output : ω} :
    run step (event :: events) state = some (final, output :: log) ↔
      ∃ next, step event state = some (next, output) ∧
        run step events next = some (final, log) := by
  simp only [run, Option.bind_eq_bind, Option.bind_eq_some_iff, Option.some.injEq, Prod.mk.injEq,
    List.cons.injEq, Prod.exists]
  constructor
  · rintro ⟨next, _, stepped, _, _, ran, rfl, rfl, rfl⟩
    exact ⟨next, stepped, ran⟩
  · rintro ⟨next, stepped, ran⟩
    exact ⟨next, _, stepped, _, _, ran, rfl, rfl, rfl⟩

theorem exists_cons_of_run (ran : run step (event :: events) state = some (final, log)) :
    ∃ output later, log = output :: later := by
  simp only [run, Option.bind_eq_bind, Option.bind_eq_some_iff, Option.some.injEq, Prod.mk.injEq,
    Prod.exists] at ran
  obtain ⟨_, output, _, _, later, _, _, rfl⟩ := ran
  exact ⟨output, later, rfl⟩

/-- Two runs, the second from where the first has stopped. -/
theorem run_append {later : List ι} {middle : σ} {log' : List ω}
    (first : run step events state = some (middle, log))
    (second : run step later middle = some (final, log')) :
    run step (events ++ later) state = some (final, log ++ log') := by
  induction events generalizing state log with
  | nil =>
      obtain ⟨rfl, rfl⟩ := Prod.mk.inj (Option.some.inj first)
      exact second
  | cons event events ih =>
      obtain ⟨output, rest, rfl⟩ := exists_cons_of_run first
      obtain ⟨next, stepped, ran⟩ := run_cons_eq_some.mp first
      exact run_cons_eq_some.mpr ⟨next, stepped, ih ran⟩

/-- What every step keeps, with the log so far, every run keeps. -/
theorem run_invariant (invariant : List ω → σ → Prop)
    (keeps : ∀ {log event state next output}, invariant log state →
      step event state = some (next, output) → invariant (log ++ [output]) next)
    (before : List ω) (holds : invariant before state)
    (ran : run step events state = some (final, log)) : invariant (before ++ log) final := by
  induction events generalizing state before log with
  | nil =>
      obtain ⟨rfl, rfl⟩ := Prod.mk.inj (Option.some.inj ran)
      rwa [List.append_nil]
  | cons event events ih =>
      obtain ⟨output, later, rfl⟩ := exists_cons_of_run ran
      obtain ⟨next, stepped, ran⟩ := run_cons_eq_some.mp ran
      have rest := ih _ (keeps holds stepped) ran
      rwa [List.append_assoc] at rest

/-- An entry of a log that has grown by one is the last one or was there before. -/
theorem append_singleton_split {before after : List ω} {output entry : ω}
    (split : log ++ [output] = before ++ entry :: after) :
    log = before ∧ output = entry ∨ ∃ earlier, log = before ++ entry :: earlier := by
  rcases List.eq_nil_or_concat after with rfl | ⟨earlier, last, rfl⟩
  · obtain ⟨same, ends⟩ := List.append_inj' split rfl
    exact .inl ⟨same, (List.cons.inj ends).1⟩
  · rw [List.concat_eq_append, ← List.cons_append, ← List.append_assoc] at split
    exact .inr ⟨earlier, (List.append_inj' split rfl).1⟩

/-- An entry of two logs is in the first or in the second. -/
theorem append_cons_split {back before after : List ω} {entry : ω}
    (split : log ++ back = before ++ entry :: after) :
    (∃ later, log = before ++ entry :: later) ∨
      ∃ earlier, before = log ++ earlier ∧ back = earlier ++ entry :: after := by
  rcases List.append_eq_append_iff.mp split with ⟨earlier, same, rest⟩ | ⟨later, same, rest⟩
  · exact .inr ⟨earlier, same, rest⟩
  · rcases later with _ | ⟨first, later⟩
    · exact .inr ⟨[], by rw [same, List.append_nil, List.append_nil], rest.symm⟩
    · cases rest
      exact .inl ⟨later, same⟩

/-! ## Runs that keep to a rule -/

/-- Every event is taken in a state where the rule allows it. -/
def Along (step : ι → σ → Option (σ × ω)) (rule : ι → σ → Prop) : List ι → σ → Prop
  | [], _ => True
  | event :: events, state =>
      rule event state ∧
        ∀ next output, step event state = some (next, output) → Along step rule events next

variable {rule : ι → σ → Prop}

theorem along_cons_iff {next : σ} {output : ω} (stepped : step event state = some (next, output)) :
    Along step rule (event :: events) state ↔ rule event state ∧ Along step rule events next := by
  refine and_congr_right fun _ => ⟨fun rest => rest next output stepped, ?_⟩
  intro rest next' output' stepped'
  obtain ⟨rfl, rfl⟩ := Prod.mk.inj (Option.some.inj (stepped.symm.trans stepped'))
  exact rest

/-- `run_invariant` for steps that need the rule. -/
theorem run_invariant_along (invariant : List ω → σ → Prop)
    (keeps : ∀ {log event state next output}, invariant log state → rule event state →
      step event state = some (next, output) → invariant (log ++ [output]) next)
    (before : List ω) (holds : invariant before state) (along : Along step rule events state)
    (ran : run step events state = some (final, log)) : invariant (before ++ log) final := by
  induction events generalizing state before log with
  | nil =>
      obtain ⟨rfl, rfl⟩ := Prod.mk.inj (Option.some.inj ran)
      rwa [List.append_nil]
  | cons event events ih =>
      obtain ⟨output, later, rfl⟩ := exists_cons_of_run ran
      obtain ⟨next, stepped, ran⟩ := run_cons_eq_some.mp ran
      have rest := ih _ (keeps holds along.1 stepped) (along.2 next output stepped) ran
      rwa [List.append_assoc] at rest

/-- Both parts of a run keep to the rule, the second from where the first has stopped. -/
theorem along_append_iff {later : List ι} {middle : σ}
    (ran : run step events state = some (middle, log)) :
    Along step rule (events ++ later) state ↔
      Along step rule events state ∧ Along step rule later middle := by
  induction events generalizing state log with
  | nil =>
      obtain ⟨rfl, -⟩ := Prod.mk.inj (Option.some.inj ran)
      exact (and_iff_right trivial).symm
  | cons event events ih =>
      obtain ⟨output, rest, rfl⟩ := exists_cons_of_run ran
      obtain ⟨next, stepped, ran⟩ := run_cons_eq_some.mp ran
      rw [List.cons_append, along_cons_iff stepped, along_cons_iff stepped, ih ran, and_assoc]

theorem along_of_forall (always : ∀ event state, rule event state) (events : List ι) (state : σ) :
    Along step rule events state := by
  induction events generalizing state with
  | nil => trivial
  | cons event events ih => exact ⟨always event state, fun next _ _ => ih next⟩

/-- Two rules that agree in every state that a run can be in, as far as it is guarded and keeps
to one of them. -/
theorem along_congr_along {guard rule' : ι → σ → Prop} (invariant : σ → Prop)
    (keeps : ∀ {event state next output}, invariant state → guard event state →
      rule event state → step event state = some (next, output) → invariant next)
    (same : ∀ {event state}, invariant state → guard event state →
      (rule event state ↔ rule' event state))
    (holds : invariant state) (guarded : Along step guard events state) :
    Along step rule events state ↔ Along step rule' events state := by
  induction events generalizing state with
  | nil => exact Iff.rfl
  | cons event events ih =>
      refine (and_congr_right fun allowed => ?_).trans
        (and_congr_left fun _ => same holds guarded.1)
      refine forall_congr' fun next => forall_congr' fun output => imp_congr_right fun stepped => ?_
      exact ih (keeps holds guarded.1 allowed stepped) (guarded.2 next output stepped)

/-- Two rules that agree as long as a run keeps to the first of them. -/
theorem along_congr_while {rule' : ι → σ → Prop} (invariant : σ → Prop)
    (keeps : ∀ {event state next output}, invariant state → rule event state →
      step event state = some (next, output) → invariant next)
    (same : ∀ {state} event, invariant state → (rule event state ↔ rule' event state))
    (holds : invariant state) : Along step rule events state ↔ Along step rule' events state :=
  along_congr_along invariant (fun holds _ allowed stepped => keeps holds allowed stepped)
    (fun holds _ => same _ holds) holds (along_of_forall (fun _ _ => True.intro) events state)

/-- Two rules that agree in every state a run can be in. -/
theorem along_congr {rule' : ι → σ → Prop} (invariant : σ → Prop)
    (keeps : ∀ {event state next output}, invariant state →
      step event state = some (next, output) → invariant next)
    (same : ∀ {state} event, invariant state → (rule event state ↔ rule' event state))
    (holds : invariant state) : Along step rule events state ↔ Along step rule' events state :=
  along_congr_while invariant (fun holds _ stepped => keeps holds stepped) same holds

/-- A rule that allows everything in the states a run can be in. -/
theorem along_of_invariant (invariant : σ → Prop)
    (keeps : ∀ {event state next output}, invariant state →
      step event state = some (next, output) → invariant next)
    (always : ∀ {state} event, invariant state → rule event state)
    (holds : invariant state) : Along step rule events state :=
  (along_congr invariant keeps (fun event holds => iff_true_intro (always event holds))
    holds).mpr (along_of_forall (fun _ _ => True.intro) events state)

/-- The step that made an output, which the rule allowed, and the run up to it. -/
theorem run_split_along {before after : List ω} {output : ω} (along : Along step rule events state)
    (ran : run step events state = some (final, before ++ output :: after)) :
    ∃ earlier event middle next, run step earlier state = some (middle, before) ∧
      Along step rule earlier state ∧ rule event middle ∧
      step event middle = some (next, output) := by
  induction events generalizing state before with
  | nil =>
      obtain ⟨-, log⟩ := Prod.mk.inj (Option.some.inj ran)
      cases before <;> cases log
  | cons event events ih =>
      cases before with
      | nil =>
          obtain ⟨next, stepped, -⟩ := run_cons_eq_some.mp ran
          exact ⟨[], event, state, next, rfl, trivial, along.1, stepped⟩
      | cons first before =>
          obtain ⟨next, stepped, ran⟩ := run_cons_eq_some.mp ran
          obtain ⟨earlier, event', middle, next', ran, kept, allowed, stepped'⟩ :=
            ih (along.2 next first stepped) ran
          refine ⟨event :: earlier, event', middle, next',
            run_cons_eq_some.mpr ⟨next, stepped, ran⟩, ⟨along.1, ?_⟩, allowed, stepped'⟩
          intro other output' stepped''
          obtain ⟨rfl, rfl⟩ := Prod.mk.inj (Option.some.inj (stepped.symm.trans stepped''))
          exact kept

/-- The step that made an output, and the run up to it. -/
theorem run_split {before after : List ω} {output : ω}
    (ran : run step events state = some (final, before ++ output :: after)) :
    ∃ earlier event middle next, run step earlier state = some (middle, before) ∧
      step event middle = some (next, output) := by
  obtain ⟨earlier, event, middle, next, ran, -, -, stepped⟩ :=
    run_split_along (along_of_forall (fun _ _ => True.intro) events state) ran
  exact ⟨earlier, event, middle, next, ran, stepped⟩

/-- A run kept to the rule when each output is good behind those before it, and a step
against the rule would have shown a bad one. -/
theorem along_of_run (invariant : List ω → σ → Prop) (good : List ω → ω → Prop)
    (keeps : ∀ {log event state next output}, invariant log state → rule event state →
      step event state = some (next, output) → invariant (log ++ [output]) next)
    (tells : ∀ {log event state next output}, invariant log state →
      step event state = some (next, output) → good log output → rule event state)
    (before : List ω) (holds : invariant before state)
    (ran : run step events state = some (final, log))
    (allGood : ∀ earlier output later, log = earlier ++ output :: later →
      good (before ++ earlier) output) :
    Along step rule events state := by
  induction events generalizing state before log with
  | nil => trivial
  | cons event events ih =>
      obtain ⟨output, later, rfl⟩ := exists_cons_of_run ran
      obtain ⟨next, stepped, ran⟩ := run_cons_eq_some.mp ran
      have goodNow := allGood [] output later rfl
      rw [List.append_nil] at goodNow
      have allowed := tells holds stepped goodNow
      refine ⟨allowed, ?_⟩
      intro next' output' stepped'
      obtain ⟨rfl, rfl⟩ := Prod.mk.inj (Option.some.inj (stepped.symm.trans stepped'))
      refine ih (before ++ [output]) (keeps holds allowed stepped) ran ?_
      rintro earlier output' later' rfl
      rw [List.append_assoc]
      exact allGood (output :: earlier) output' later' rfl

end Wire
