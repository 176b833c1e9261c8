import Mathlib.Logic.Function.Basic
import Mathlib.Tactic.Common

/-!
# Threads that share locks

A thread is the list of what it has still to do: take a lock, give one back, or act on
what the threads share. A lock has at most one holder, and a thread at a lock that
another one holds cannot move.

`Disciplined` is the static half of a locking argument, checked once on each program:
a thread takes no lock twice, gives back only what it holds, ends with nothing, and every
action is allowed where it stands. `Consistent` is the dynamic half: the locks a thread
really holds are those its program was checked with. Every move keeps it.
-/

namespace Wire

universe u v w x

/-- What a thread does next. -/
inductive LockAction (ℓ : Type v) (α : Type w) where
  | acquire (lock : ℓ)
  | release (lock : ℓ)
  | act (action : α)

namespace LockAction

variable {ℓ : Type v} {α : Type w} [DecidableEq ℓ]

/-- The lock is taken again before the other one is given back. -/
def takesBefore (lock before : ℓ) : List (LockAction ℓ α) → Bool
  | [] => false
  | .acquire taken :: rest => taken = lock || takesBefore lock before rest
  | .release given :: rest => given ≠ before && takesBefore lock before rest
  | .act _ :: rest => takesBefore lock before rest

end LockAction

/-- What every thread has still to do, who holds each lock, and what the threads share. -/
structure LockSystem (θ : Type u) (ℓ : Type v) (α : Type w) (σ : Type x) where
  program : θ → List (LockAction ℓ α)
  holder : ℓ → Option θ
  shared : σ

namespace LockSystem

variable {θ : Type u} {ℓ : Type v} {α : Type w} {σ : Type x}

/-- Nothing runs and every lock is free. -/
def idle (shared : σ) : LockSystem θ ℓ α σ := ⟨fun _ => [], fun _ => none, shared⟩

section Assign

variable [DecidableEq θ] (thread : θ) (program : List (LockAction ℓ α))
  (system : LockSystem θ ℓ α σ)

/-- Give a thread its program. -/
def assign : LockSystem θ ℓ α σ :=
  { system with program := Function.update system.program thread program }

@[simp] theorem assign_program :
    (system.assign thread program).program = Function.update system.program thread program := rfl

@[simp] theorem assign_holder : (system.assign thread program).holder = system.holder := rfl

@[simp] theorem assign_shared : (system.assign thread program).shared = system.shared := rfl

end Assign

section Hold

variable [DecidableEq ℓ] (lock : ℓ) (holder : Option θ) (system : LockSystem θ ℓ α σ)

/-- Give a lock its holder. -/
def hold : LockSystem θ ℓ α σ :=
  { system with holder := Function.update system.holder lock holder }

@[simp] theorem hold_program : (system.hold lock holder).program = system.program := rfl

@[simp] theorem hold_holder :
    (system.hold lock holder).holder = Function.update system.holder lock holder := rfl

@[simp] theorem hold_shared : (system.hold lock holder).shared = system.shared := rfl

end Hold

section Advance

variable [DecidableEq θ] [DecidableEq ℓ]
variable (perform : α → LockSystem θ ℓ α σ → Option (LockSystem θ ℓ α σ))

/-- One move of a thread; `none` where it has to wait or has nothing left to do. -/
def advance (thread : θ) (system : LockSystem θ ℓ α σ) : Option (LockSystem θ ℓ α σ) :=
  match system.program thread with
  | [] => none
  | .acquire lock :: rest =>
      if system.holder lock = none then
        some ((system.assign thread rest).hold lock (some thread))
      else none
  | .release lock :: rest =>
      if system.holder lock = some thread then
        some ((system.assign thread rest).hold lock none)
      else none
  | .act action :: rest => perform action (system.assign thread rest)

variable {perform} {thread : θ} {system next : LockSystem θ ℓ α σ} {lock : ℓ} {action : α}
  {rest : List (LockAction ℓ α)}

/-- Everything a move can be. -/
theorem advance_cases (moved : system.advance perform thread = some next) :
    (∃ lock rest, system.program thread = .acquire lock :: rest ∧ system.holder lock = none ∧
      next = (system.assign thread rest).hold lock (some thread)) ∨
    (∃ lock rest, system.program thread = .release lock :: rest ∧
      system.holder lock = some thread ∧
      next = (system.assign thread rest).hold lock none) ∨
    (∃ action rest, system.program thread = .act action :: rest ∧
      perform action (system.assign thread rest) = some next) := by
  unfold advance at moved
  split at moved
  · cases moved
  · rename_i lock rest program
    split at moved
    · rename_i free
      exact .inl ⟨lock, rest, program, free, (Option.some.inj moved).symm⟩
    · cases moved
  · rename_i lock rest program
    split at moved
    · rename_i mine
      exact .inr (.inl ⟨lock, rest, program, mine, (Option.some.inj moved).symm⟩)
    · cases moved
  · rename_i action rest program
    exact .inr (.inr ⟨action, rest, program, moved⟩)

theorem advance_acquire (program : system.program thread = .acquire lock :: rest)
    (free : system.holder lock = none) :
    system.advance perform thread = some ((system.assign thread rest).hold lock (some thread)) := by
  unfold advance
  rw [program]
  exact if_pos free

theorem advance_release (program : system.program thread = .release lock :: rest)
    (mine : system.holder lock = some thread) :
    system.advance perform thread = some ((system.assign thread rest).hold lock none) := by
  unfold advance
  rw [program]
  exact if_pos mine

theorem advance_act (program : system.program thread = .act action :: rest) :
    system.advance perform thread = perform action (system.assign thread rest) := by
  unfold advance
  rw [program]

end Advance

/-! ## Discipline -/

variable [DecidableEq ℓ] (allowed : θ → List ℓ → LockAction ℓ α → List (LockAction ℓ α) → Prop)

/-- The program keeps to the rules from the locks its thread holds. -/
def Disciplined (thread : θ) : List ℓ → List (LockAction ℓ α) → Prop
  | held, [] => held = []
  | held, .acquire lock :: rest =>
      lock ∉ held ∧ allowed thread held (.acquire lock) rest ∧
        Disciplined thread (lock :: held) rest
  | held, .release lock :: rest =>
      lock ∈ held ∧ allowed thread held (.release lock) rest ∧
        Disciplined thread (held.filter (· ≠ lock)) rest
  | held, .act action :: rest =>
      allowed thread held (.act action) rest ∧ Disciplined thread held rest

/-- The locks a thread holds are those its program was checked with. -/
structure Holds (system : LockSystem θ ℓ α σ) (thread : θ) (held : List ℓ) : Prop where
  mem_iff : ∀ lock, lock ∈ held ↔ system.holder lock = some thread
  disciplined : Disciplined allowed thread held (system.program thread)

/-- Every thread holds what its program says. -/
def Consistent (system : LockSystem θ ℓ α σ) : Prop :=
  ∀ thread, ∃ held, Holds allowed system thread held

variable {allowed} {thread : θ} {system next : LockSystem θ ℓ α σ} {held : List ℓ}

theorem consistent_idle (shared : σ) : Consistent allowed (idle shared : LockSystem θ ℓ α σ) := by
  intro thread
  refine ⟨[], fun lock => ?_, rfl⟩
  simp [idle]

/-- A thread with nothing left to do holds nothing. -/
theorem Holds.nil_of_idle (holds : Holds allowed system thread held)
    (idle : system.program thread = []) : held = [] := by
  have disciplined := holds.disciplined
  rwa [idle] at disciplined

/-- A move of one thread leaves what another one holds as it was. -/
theorem Holds.of_frame {other : θ} (holds : Holds allowed system other held)
    (program : next.program other = system.program other)
    (holder : ∀ lock, next.holder lock = some other ↔ system.holder lock = some other) :
    Holds allowed next other held := by
  refine ⟨fun lock => (holds.mem_iff lock).trans (holder lock).symm, ?_⟩
  rw [program]
  exact holds.disciplined

/-! ### Moves keep it -/

variable [DecidableEq θ] {perform : α → LockSystem θ ℓ α σ → Option (LockSystem θ ℓ α σ)}
  {lock : ℓ} {action : α} {rest : List (LockAction ℓ α)}

/-- Starting a disciplined program on a thread that does nothing. -/
theorem Consistent.assign {program : List (LockAction ℓ α)} (consistent : Consistent allowed system)
    (idle : system.program thread = []) (disciplined : Disciplined allowed thread [] program) :
    Consistent allowed (system.assign thread program) := by
  intro other
  obtain ⟨held, holds⟩ := consistent other
  by_cases same : other = thread
  · subst same
    obtain rfl := holds.nil_of_idle idle
    refine ⟨[], holds.mem_iff, ?_⟩
    rw [assign_program, Function.update_self]
    exact disciplined
  · refine ⟨held, holds.mem_iff, ?_⟩
    rw [assign_program, Function.update_of_ne same]
    exact holds.disciplined

theorem Consistent.acquire (consistent : Consistent allowed system)
    (program : system.program thread = .acquire lock :: rest) (free : system.holder lock = none) :
    Consistent allowed ((system.assign thread rest).hold lock (some thread)) := by
  intro other
  obtain ⟨held, holds⟩ := consistent other
  by_cases same : other = thread
  · subst same
    have disciplined := holds.disciplined
    rw [program] at disciplined
    refine ⟨lock :: held, fun lock' => ?_, ?_⟩
    · by_cases here : lock' = lock
      · subst here
        simp
      · simp [here, holds.mem_iff]
    · simpa using disciplined.2.2
  · refine ⟨held, holds.of_frame (by simp [same]) fun lock' => ?_⟩
    by_cases here : lock' = lock
    · subst here
      simp [free, Ne.symm same]
    · simp [here]

theorem Consistent.release (consistent : Consistent allowed system)
    (program : system.program thread = .release lock :: rest)
    (mine : system.holder lock = some thread) :
    Consistent allowed ((system.assign thread rest).hold lock none) := by
  intro other
  obtain ⟨held, holds⟩ := consistent other
  by_cases same : other = thread
  · subst same
    have disciplined := holds.disciplined
    rw [program] at disciplined
    refine ⟨held.filter (· ≠ lock), fun lock' => ?_, ?_⟩
    · by_cases here : lock' = lock
      · subst here
        simp
      · simp [here, holds.mem_iff]
    · simpa using disciplined.2.2
  · refine ⟨held, holds.of_frame (by simp [same]) fun lock' => ?_⟩
    by_cases here : lock' = lock
    · subst here
      simp [mine, Ne.symm same]
    · simp [here]

/-- An action that moves no lock: its thread goes on behind it. -/
theorem Consistent.pass (consistent : Consistent allowed system)
    (program : system.program thread = .act action :: rest) :
    Consistent allowed (system.assign thread rest) := by
  intro other
  obtain ⟨held, holds⟩ := consistent other
  by_cases same : other = thread
  · subst same
    have disciplined := holds.disciplined
    rw [program] at disciplined
    refine ⟨held, holds.mem_iff, ?_⟩
    simpa using disciplined.2
  · exact ⟨held, holds.of_frame (by simp [same]) fun _ => .rfl⟩

/-- Every move keeps a consistent system consistent, when the actions do. -/
theorem Consistent.advance (consistent : Consistent allowed system)
    (acts : ∀ {action} {system next : LockSystem θ ℓ α σ}, Consistent allowed system →
      perform action system = some next → Consistent allowed next)
    (moved : system.advance perform thread = some next) : Consistent allowed next := by
  obtain ⟨lock, rest, program, free, rfl⟩ | ⟨lock, rest, program, mine, rfl⟩ |
    ⟨action, rest, program, performed⟩ := advance_cases moved
  · exact consistent.acquire program free
  · exact consistent.release program mine
  · exact acts (consistent.pass program) performed

end LockSystem

end Wire
