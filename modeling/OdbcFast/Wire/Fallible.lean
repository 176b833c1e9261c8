import Mathlib.Data.List.TakeWhile
import Mathlib.Order.Defs.Unbundled
import Mathlib.Tactic.Common

/-!
# Calls that may fail

A fallible call answers or fails, and has changed the state in either case. Calls made one
after another stop at the first failure; what has been done up to there stays done.

An interaction is a client that makes such calls and chooses the next one by the answers so
far. What each call keeps, for a relation between states that is a preorder, a sequence of
calls keeps and so does every interaction.

A state may be marked, so that one can go back to what it was. Marks that are set and forgotten
above some others leave these alone.
-/

namespace Wire

variable {σ ε α β ι ρ : Type}

theorem mapError_eq_ok_iff {ε' : Type} {f : ε → ε'} {result : Except ε α} (value : α) :
    result.mapError f = .ok value ↔ result = .ok value := by
  cases result with
  | ok first =>
      exact ⟨fun ok => congrArg _ (Except.ok.inj ok), fun ok => congrArg _ (Except.ok.inj ok)⟩
  | error error => exact iff_of_false (fun ok => by cases ok) fun ok => by cases ok

/-- A call on a state. A failure does not undo what was done before it. -/
abbrev Fallible (σ ε : Type) : Type → Type := ExceptT ε (StateM σ)

namespace Fallible

/-- The answer, and the state that is left behind. -/
def perform (call : Fallible σ ε α) (state : σ) : Except ε α × σ := call.run.run state

/-- The call that a function on the state describes. -/
def of (call : σ → Except ε α × σ) : Fallible σ ε α := ExceptT.mk (StateT.mk call)

@[simp] theorem perform_of (call : σ → Except ε α × σ) (state : σ) :
    (of call).perform state = call state := rfl

/-- A check that does not touch the state. -/
def check (result : Except ε α) : Fallible σ ε α := .of fun state => (result, state)

/-- A call whose failure is not looked at. -/
def ignore (call : Fallible σ ε α) : Fallible σ ε Unit :=
  .of fun state => (.ok (), (call.perform state).2)

/-- A call whose failure is passed on under another name. -/
def adapt {ε' : Type} (rename : ε → ε') (call : Fallible σ ε α) : Fallible σ ε' α :=
  .of fun state => ((call.perform state).1.mapError rename, (call.perform state).2)

@[simp] theorem perform_adapt {ε' : Type} (rename : ε → ε') (call : Fallible σ ε α) (state : σ) :
    (adapt rename call).perform state =
      ((call.perform state).1.mapError rename, (call.perform state).2) := rfl

variable {call : Fallible σ ε α} {next : α → Fallible σ ε β} {state : σ}

theorem perform_bind_ok {value : α} {after : σ} (first : call.perform state = (.ok value, after)) :
    (call >>= next).perform state = (next value).perform after := by
  have run : call.run.run state = (.ok value, after) := first
  simp only [perform, ExceptT.run_bind, StateT.run_bind, run]
  rfl

theorem perform_bind_error {error : ε} {after : σ}
    (first : call.perform state = (.error error, after)) :
    (call >>= next).perform state = (.error error, after) := by
  have run : call.run.run state = (.error error, after) := first
  simp only [perform, ExceptT.run_bind, StateT.run_bind, run]
  rfl

/-- A sequence has failed in its first part, or in its second part behind the first. -/
theorem perform_bind_eq_error {error : ε} {after : σ}
    (failed : (call >>= next).perform state = (.error error, after)) :
    call.perform state = (.error error, after) ∨
      ∃ value between, call.perform state = (.ok value, between) ∧
        (next value).perform between = (.error error, after) := by
  rcases first : call.perform state with ⟨answer, between⟩
  cases answer with
  | error error' =>
      rw [perform_bind_error first] at failed
      cases failed
      exact .inl rfl
  | ok value =>
      rw [perform_bind_ok first] at failed
      exact .inr ⟨value, between, rfl, failed⟩

/-- A sequence has answered: both parts have. -/
theorem perform_bind_eq_ok {value : β} {after : σ}
    (answered : (call >>= next).perform state = (.ok value, after)) :
    ∃ first between, call.perform state = (.ok first, between) ∧
      (next first).perform between = (.ok value, after) := by
  rcases ran : call.perform state with ⟨answer, between⟩
  cases answer with
  | error error =>
      rw [perform_bind_error ran] at answered
      cases answered
  | ok first =>
      rw [perform_bind_ok ran] at answered
      exact ⟨first, between, rfl, answered⟩

/-- Whatever the call answers, the states before and after it are related. -/
def Keeps (relation : σ → σ → Prop) (call : Fallible σ ε α) : Prop :=
  ∀ state, relation state (call.perform state).2

variable {relation : σ → σ → Prop} [IsPreorder σ relation]

theorem Keeps.pure (value : α) : Keeps relation (pure value : Fallible σ ε α) :=
  fun state => refl_of relation state

theorem Keeps.check (result : Except ε α) : Keeps relation (check result : Fallible σ ε α) :=
  fun state => refl_of relation state

theorem Keeps.bind (first : Keeps relation call) (second : ∀ value, Keeps relation (next value)) :
    Keeps relation (call >>= next) := by
  intro state
  have between := first state
  rcases ran : call.perform state with ⟨answer, middle⟩
  rw [ran] at between
  cases answer with
  | error error => rwa [perform_bind_error ran]
  | ok value =>
      rw [perform_bind_ok ran]
      exact trans_of relation between (second value middle)

/-! ## Before and behind a call -/

/-- In a state of which the first is said, the call answers so that the second is said of the
answer and the state behind it, or it fails so that the third is said of these. -/
def Meets (pre : σ → Prop) (post : α → σ → Prop) (failed : ε → σ → Prop)
    (call : Fallible σ ε α) : Prop :=
  ∀ state, pre state → match call.perform state with
    | (.ok value, after) => post value after
    | (.error error, after) => failed error after

section

variable {pre : σ → Prop} {post : α → σ → Prop} {failed : ε → σ → Prop} {call : Fallible σ ε α}

theorem Meets.of_imp {weaker : α → σ → Prop} (meets : Meets pre post failed call)
    (weaken : ∀ value state, post value state → weaker value state) :
    Meets pre weaker failed call := by
  intro state here
  have behind := meets state here
  rcases ran : call.perform state with ⟨answer, after⟩
  rw [ran] at behind
  cases answer with
  | ok value => exact weaken value after behind
  | error error => exact behind

theorem Meets.pure {value : α} (here : ∀ state, pre state → post value state) :
    Meets pre post failed (Pure.pure value : Fallible σ ε α) := here

theorem Meets.check {result : Except ε α} (here : ∀ value, result = .ok value →
    ∀ state, pre state → post value state)
    (fails : ∀ error, result = .error error → ∀ state, pre state → failed error state) :
    Meets pre post failed (check result : Fallible σ ε α) := by
  intro state holds
  cases result with
  | ok value => exact here value rfl state holds
  | error error => exact fails error rfl state holds

/-- What is said of no state may be known before. -/
theorem Meets.assuming {fact : Prop} (meets : fact → Meets pre post failed call) :
    Meets (fun state => fact ∧ pre state) post failed call :=
  fun state here => meets here.1 state here.2

/-- The second part begins where the first has answered. -/
theorem Meets.bind {post : β → σ → Prop} {next : α → Fallible σ ε β} (middle : α → σ → Prop)
    (first : Meets pre middle failed call)
    (rest : ∀ value, Meets (middle value) post failed (next value)) :
    Meets pre post failed (call >>= next) := by
  intro state here
  have between := first state here
  rcases ran : call.perform state with ⟨answer, after⟩
  rw [ran] at between
  cases answer with
  | error error =>
      rw [perform_bind_error ran]
      exact between
  | ok value =>
      rw [perform_bind_ok ran]
      exact rest value after between

end

/-! ## Calls that write a log -/

section

variable {κ : Type} {first post : Except ε α → List κ → Prop}
  {second : α → Except ε β → List κ → Prop}

/-- The call adds to the log, and its answer and what it adds are as said. -/
def Logs (post : Except ε α → List κ → Prop) (call : Fallible (List κ) ε α) : Prop :=
  ∀ log, ∃ added, (call.perform log).2 = log ++ added ∧ post (call.perform log).1 added

/-- What is said of a sequence: the first part has failed, or the second is behind it. -/
def Then (first : Except ε α → List κ → Prop) (second : α → Except ε β → List κ → Prop)
    (result : Except ε β) (added : List κ) : Prop :=
  (∃ error, result = .error error ∧ first (.error error) added) ∨
    ∃ value front back, added = front ++ back ∧ first (.ok value) front ∧ second value result back

theorem Logs.mono {weaker : Except ε α → List κ → Prop} {call : Fallible (List κ) ε α}
    (logs : Logs post call) (weaken : ∀ result added, post result added → weaker result added) :
    Logs weaker call := by
  intro log
  obtain ⟨added, grown, said⟩ := logs log
  exact ⟨added, grown, weaken _ _ said⟩

theorem Logs.pure {value : α} (said : post (.ok value) []) :
    Logs post (pure value : Fallible (List κ) ε α) :=
  fun log => ⟨[], (List.append_nil log).symm, said⟩

/-- An answer that adds nothing. -/
theorem Logs.answers (value : α) :
    Logs (fun result added => result = .ok value ∧ added = [])
      (Pure.pure value : Fallible (List κ) ε α) :=
  Logs.pure ⟨rfl, rfl⟩

theorem Logs.check {result : Except ε α} (said : post result []) :
    Logs post (check result : Fallible (List κ) ε α) :=
  fun log => ⟨[], (List.append_nil log).symm, said⟩

theorem Logs.bind {call : Fallible (List κ) ε α} {next : α → Fallible (List κ) ε β}
    (begins : Logs first call) (goesOn : ∀ value, Logs (second value) (next value)) :
    Logs (Then first second) (call >>= next) := by
  intro log
  obtain ⟨front, grown, said⟩ := begins log
  rcases ran : call.perform log with ⟨answer, middle⟩
  rw [ran] at grown said
  cases answer with
  | error error =>
      rw [perform_bind_error ran]
      exact ⟨front, grown, .inl ⟨error, rfl, said⟩⟩
  | ok value =>
      rw [perform_bind_ok ran]
      obtain ⟨back, grown', said'⟩ := goesOn value middle
      refine ⟨front ++ back, ?_, .inr ⟨value, front, back, rfl, said, said'⟩⟩
      rw [grown', show middle = log ++ front from grown, List.append_assoc]

end

end Fallible

/-- A client that asks and goes on by the replies. -/
inductive Interaction (ι ρ α : Type) where
  | done (result : α)
  | ask (op : ι) (next : ρ → Interaction ι ρ α)

namespace Interaction

/-- The client against a party that replies to each question. -/
def run (reply : ι → σ → ρ × σ) : Interaction ι ρ α → σ → α × σ
  | .done result, state => (result, state)
  | .ask op next, state =>
    let (answer, state) := reply op state
    (next answer).run reply state

/-- What every reply keeps, every interaction keeps. -/
theorem run_keeps {reply : ι → σ → ρ × σ} {relation : σ → σ → Prop} [IsPreorder σ relation]
    (keeps : ∀ op state, relation state (reply op state).2) (client : Interaction ι ρ α)
    (state : σ) : relation state (client.run reply state).2 := by
  induction client generalizing state with
  | done result => exact refl_of relation state
  | ask op next ih => exact trans_of relation (keeps op state) (ih _ _)

/-- What holds at the beginning and is kept by every reply holds at the end. -/
theorem run_invariant {reply : ι → σ → ρ × σ} (invariant : σ → Prop)
    (keeps : ∀ op state, invariant state → invariant (reply op state).2)
    (client : Interaction ι ρ α) (state : σ) (holds : invariant state) :
    invariant (client.run reply state).2 := by
  induction client generalizing state with
  | done result => exact holds
  | ask op next ih => exact ih _ _ (keeps op state holds)

/-- Whatever the replies are, only such questions are asked. -/
inductive Only (allowed : ι → Prop) : Interaction ι ρ α → Prop
  | done (result : α) : Only allowed (.done result)
  | ask {op : ι} {next : ρ → Interaction ι ρ α} (here : allowed op)
      (later : ∀ reply, Only allowed (next reply)) : Only allowed (.ask op next)

/-- `run_invariant` for a client that asks only some questions. -/
theorem Only.run_invariant {reply : ι → σ → ρ × σ} {allowed : ι → Prop}
    {client : Interaction ι ρ α} (only : client.Only allowed) (invariant : σ → Prop)
    (keeps : ∀ op state, allowed op → invariant state → invariant (reply op state).2)
    {state : σ} (holds : invariant state) : invariant (client.run reply state).2 := by
  induction only generalizing state with
  | done result => exact holds
  | ask here later ih => exact ih _ (keeps _ state here holds)

end Interaction

/-! ## Marks -/

/-- A value, and what it was at its marks, the newest first. -/
structure WithMarks (κ δ : Type) where
  current : δ
  marks : List (κ × δ) := []

namespace WithMarks

variable {κ δ : Type} [DecidableEq κ]

/-- A mark for the present value. It may take the place of older ones with the same key. -/
def set (replaces : Bool) (key : κ) (state : WithMarks κ δ) : WithMarks κ δ where
  current := state.current
  marks := (key, state.current) ::
    if replaces then state.marks.filter fun mark => mark.1 ≠ key else state.marks

/-- The newest mark with the key, and those below it. -/
def marksFrom (key : κ) (state : WithMarks κ δ) : List (κ × δ) :=
  state.marks.dropWhile fun mark => mark.1 ≠ key

/-- Go back to the newest mark with the key, which may stay. -/
def back (keeps : Bool) (key : κ) (state : WithMarks κ δ) : Option (WithMarks κ δ) :=
  match state.marksFrom key with
  | [] => none
  | mark :: older => some ⟨mark.2, if keeps then mark :: older else older⟩

/-- The newest mark with the key is forgotten, and so are those above it. -/
def forget (key : κ) (state : WithMarks κ δ) : Option (WithMarks κ δ) :=
  match state.marksFrom key with
  | [] => none
  | _ :: older => some ⟨state.current, older⟩

/-- Only marks with other keys than some stand above the given ones. -/
def Above (keys : κ → Prop) (base : List (κ × δ)) (state : WithMarks κ δ) : Prop :=
  ∃ newer, state.marks = newer ++ base ∧ ∀ mark ∈ newer, ¬ keys mark.1

variable {keys : κ → Prop} {base : List (κ × δ)} {state next : WithMarks κ δ} {key : κ}

omit [DecidableEq κ] in
theorem Above.of_marks (above : Above keys base state) (same : next.marks = state.marks) :
    Above keys base next := by
  obtain ⟨newer, split, others⟩ := above
  exact ⟨newer, same.trans split, others⟩

theorem Above.set (above : Above keys base state) (known : ∀ mark ∈ base, keys mark.1)
    (other : ¬ keys key) (replaces : Bool) : Above keys base (state.set replaces key) := by
  obtain ⟨newer, split, others⟩ := above
  have stays : base.filter (fun mark => mark.1 ≠ key) = base := by
    refine List.filter_eq_self.mpr fun mark member => ?_
    have differs : mark.1 ≠ key := by
      rintro rfl
      exact other (known mark member)
    simpa using differs
  cases replaces with
  | false =>
      refine ⟨(key, state.current) :: newer, by rw [WithMarks.set, split]; rfl, ?_⟩
      exact List.forall_mem_cons.mpr ⟨other, others⟩
  | true =>
      refine ⟨(key, state.current) :: newer.filter fun mark => mark.1 ≠ key, ?_, ?_⟩
      · rw [WithMarks.set, if_pos rfl, split, List.filter_append, stays]
        rfl
      · exact List.forall_mem_cons.mpr ⟨other, fun mark member =>
          others mark ((List.mem_filter.mp member).1)⟩

/-- The mark is above the given ones, if there is one. -/
theorem Above.marksFrom (above : Above keys base state) (known : ∀ mark ∈ base, keys mark.1)
    (other : ¬ keys key) :
    state.marksFrom key = [] ∨ ∃ mark newer, state.marksFrom key = mark :: (newer ++ base) ∧
      ¬ keys mark.1 ∧ ∀ mark ∈ newer, ¬ keys mark.1 := by
  obtain ⟨newer, split, others⟩ := above
  have none : base.dropWhile (fun mark => mark.1 ≠ key) = [] := by
    refine List.dropWhile_eq_nil_iff.mpr fun mark member => ?_
    have differs : mark.1 ≠ key := by
      rintro rfl
      exact other (known mark member)
    simpa using differs
  rw [WithMarks.marksFrom, split, List.dropWhile_append]
  cases found : newer.dropWhile (fun mark => mark.1 ≠ key) with
  | nil => exact .inl none
  | cons mark older =>
      have later : ∀ mark' ∈ mark :: older, ¬ keys mark'.1 := fun mark' member =>
        others mark' ((List.dropWhile_suffix _).subset (found ▸ member))
      exact .inr ⟨mark, older, rfl, later mark List.mem_cons_self,
        fun mark' member => later mark' (List.mem_cons_of_mem _ member)⟩

theorem Above.back {keeps : Bool} (above : Above keys base state)
    (known : ∀ mark ∈ base, keys mark.1) (other : ¬ keys key)
    (gone : state.back keeps key = some next) : Above keys base next := by
  rw [WithMarks.back] at gone
  obtain empty | ⟨mark, newer, found, here, others⟩ := above.marksFrom known other
  · rw [empty] at gone
    cases gone
  · rw [found] at gone
    obtain rfl := Option.some.inj gone
    cases keeps with
    | true => exact ⟨mark :: newer, rfl, List.forall_mem_cons.mpr ⟨here, others⟩⟩
    | false => exact ⟨newer, rfl, others⟩

theorem Above.forget (above : Above keys base state) (known : ∀ mark ∈ base, keys mark.1)
    (other : ¬ keys key) (gone : state.forget key = some next) : Above keys base next := by
  rw [WithMarks.forget] at gone
  obtain empty | ⟨mark, newer, found, -, others⟩ := above.marksFrom known other
  · rw [empty] at gone
    cases gone
  · rw [found] at gone
    obtain rfl := Option.some.inj gone
    exact ⟨newer, rfl, others⟩

/-- The newest of the given marks is found below the others. -/
theorem Above.marksFrom_self {value : δ} {older : List (κ × δ)}
    (above : Above keys ((key, value) :: older) state) (known : keys key) :
    state.marksFrom key = (key, value) :: older := by
  obtain ⟨newer, split, others⟩ := above
  have passed : ∀ mark ∈ newer, (decide (mark.1 ≠ key)) = true := by
    intro mark member
    refine decide_eq_true ?_
    rintro rfl
    exact others mark member known
  rw [WithMarks.marksFrom, split, List.dropWhile_append_of_pos passed,
    List.dropWhile_cons_of_neg (by simp)]

theorem Above.back_self {value : δ} {older : List (κ × δ)}
    (above : Above keys ((key, value) :: older) state) (known : keys key) (keeps : Bool) :
    state.back keeps key = some ⟨value, if keeps then (key, value) :: older else older⟩ := by
  rw [WithMarks.back, above.marksFrom_self known]

theorem Above.forget_self {value : δ} {older : List (κ × δ)}
    (above : Above keys ((key, value) :: older) state) (known : keys key) :
    state.forget key = some ⟨state.current, older⟩ := by
  rw [WithMarks.forget, above.marksFrom_self known]

end WithMarks

end Wire
