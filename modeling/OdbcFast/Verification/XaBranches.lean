import OdbcFast.Native.Engine.XaHandles

/-!
# The verbs of a branch

The verbs that a branch is sent follow the protocol of distributed transactions on every
path through the methods and with every pattern of failures: `END` comes first and
succeeds before anything but a rollback, and nothing follows the verb that finishes the
branch. PostgreSQL has no `END`; there a started branch is already where `END` leads. A
branch that is dropped behind its `END` is sent another one.

Once a branch is prepared nothing is sent for it but what its owner asks for.
-/

namespace OdbcFast.Verification

open Wire OdbcFast.Native OdbcFast.Native.Engine OdbcFast.Native.Engine.XaSystem

/-! ## The protocol -/

/-- Where a branch stands on the server, as far as the verbs tell. -/
inductive XaPhase where
  | active
  /-- An `END` was refused. -/
  | unended
  | idle
  /-- An `END` was sent to an idle branch. -/
  | endedAgain
  | prepared
  | finished
  deriving DecidableEq, Repr

def finishesBranch : XaVerb → Bool
  | .commit _ | .rollback | .rollbackPrepared => true
  | _ => false

namespace XaPhase

/-- The phase behind a verb with its answer; `none` where the verb may not be sent. With
`again` an idle branch may be ended once more before it is rolled back. -/
def next (again : Bool) : XaPhase → XaVerb × XaAnswer → Option XaPhase
  | .active, (.finish, .done) | .unended, (.finish, .done) => some .idle
  | .active, (.finish, .refused _ _) | .unended, (.finish, .refused _ _) => some .unended
  | .idle, (.finish, _) => if again then some .endedAgain else none
  | .unended, (.rollback, _) | .idle, (.rollback, _) | .endedAgain, (.rollback, _) |
    .idle, (.commit true, _) => some .finished
  | .idle, (.prepare, .done) => some .prepared
  | .idle, (.prepare, .refused _ _) => some .finished
  | .prepared, (.commit false, _) | .prepared, (.rollbackPrepared, _) => some .finished
  | _, _ => none

/-- No `END` has succeeded. -/
def Attached (phase : XaPhase) : Prop := phase = .active ∨ phase = .unended

/-- Where the verbs of a branch begin. -/
def start (engineId : EngineId) : XaPhase := if engineId = .postgres then .idle else .active

variable {again : Bool} {phase phase' final : XaPhase} {statement : XaVerb × XaAnswer}
  {statements : List (XaVerb × XaAnswer)}

theorem next_attached (step : phase.next again statement = some phase')
    (attached : phase'.Attached) : phase.Attached ∧ statement ≠ (.finish, .done) := by
  obtain ⟨verb, answer⟩ := statement
  rcases attached with rfl | rfl <;> cases phase <;> cases verb with
  | commit onePhase => cases onePhase <;> cases answer <;> cases step
  | _ => cases again <;> cases answer <;> cases step <;> simp [Attached]

theorem next_of_attached (step : phase.next again statement = some phase')
    (attached : phase.Attached) :
    statement = (.finish, .done) ∨ phase'.Attached ∨ phase' = .finished := by
  obtain ⟨verb, answer⟩ := statement
  rcases attached with rfl | rfl <;> cases verb with
  | commit onePhase => cases onePhase <;> cases answer <;> cases step
  | _ => cases answer <;> cases step <;> simp [Attached]

theorem next_finished (statement : XaVerb × XaAnswer) : finished.next again statement = none := by
  obtain ⟨verb, answer⟩ := statement
  cases verb with
  | commit onePhase => cases onePhase <;> cases answer <;> rfl
  | _ => cases answer <;> rfl

theorem next_active (step : active.next again statement = some phase') :
    statement.1 = .finish := by
  obtain ⟨verb, answer⟩ := statement
  cases verb with
  | commit onePhase => cases onePhase <;> cases answer <;> cases step
  | _ => cases answer <;> cases step <;> rfl

theorem finished_of_next (step : phase.next again statement = some phase')
    (finishes : finishesBranch statement.1) : phase' = .finished := by
  obtain ⟨verb, answer⟩ := statement
  cases verb with
  | start | finish | prepare => cases finishes
  | commit onePhase => cases phase <;> cases onePhase <;> cases answer <;> cases step <;> rfl
  | rollback | rollbackPrepared => cases phase <;> cases answer <;> cases step <;> rfl

/-- Only an idle branch is prepared or committed in one phase. -/
theorem idle_of_next (step : phase.next again statement = some phase')
    (detaching : statement.1 = .prepare ∨ statement.1 = .commit true) : phase = .idle := by
  obtain ⟨verb, answer⟩ := statement
  rcases detaching with rfl | rfl <;> cases phase <;> first | rfl | (cases answer <;> cases step)

/-- Without another `END`, only an attached branch is sent one. -/
theorem attached_of_next {answer : XaAnswer}
    (step : phase.next false (.finish, answer) = some phase') : phase.Attached := by
  cases phase with
  | active => exact .inl rfl
  | unended => exact .inr rfl
  | _ => cases answer <;> cases step

theorem eq_nil_of_finished (walked : statements.foldlM (next again) finished = some final) :
    statements = [] := by
  cases statements with
  | nil => rfl
  | cons statement later =>
      rw [List.foldlM_cons, next_finished] at walked
      cases walked

/-- A branch gets away from its connection by an `END` that succeeds. -/
theorem ended_of_walk (walked : statements.foldlM (next again) phase = some final)
    (attached : phase.Attached) (detached : ¬ final.Attached) (unfinished : final ≠ .finished) :
    (.finish, .done) ∈ statements := by
  induction statements generalizing phase with
  | nil =>
      cases walked
      exact absurd attached detached
  | cons statement later ih =>
      rw [List.foldlM_cons] at walked
      obtain ⟨phase', step, walked⟩ := Option.bind_eq_some_iff.mp walked
      rcases next_of_attached step attached with rfl | attached | rfl
      · exact List.mem_cons_self
      · exact List.mem_cons_of_mem _ (ih walked attached)
      · rw [eq_nil_of_finished walked] at walked
        cases walked
        exact absurd rfl unfinished

/-- A branch that is attached has been attached all the time. -/
theorem attached_of_walk (walked : statements.foldlM (next again) phase = some final)
    (attached : final.Attached) : phase.Attached ∧ (.finish, .done) ∉ statements := by
  induction statements generalizing phase with
  | nil =>
      cases walked
      exact ⟨attached, List.not_mem_nil⟩
  | cons statement later ih =>
      rw [List.foldlM_cons] at walked
      obtain ⟨phase', step, walked⟩ := Option.bind_eq_some_iff.mp walked
      obtain ⟨attached', none⟩ := ih walked
      obtain ⟨attached, other⟩ := next_attached step attached'
      rw [List.mem_cons, not_or]
      exact ⟨attached, other.symm, none⟩

/-- From the start the first verb is `END`. -/
theorem head_of_walk (walked : statements.foldlM (next again) active = some final)
    (moved : final ≠ .active) : ∃ ending ∈ statements, ending.1 = .finish := by
  cases statements with
  | nil =>
      cases walked
      exact absurd rfl moved
  | cons statement later =>
      rw [List.foldlM_cons] at walked
      obtain ⟨phase', step, -⟩ := Option.bind_eq_some_iff.mp walked
      exact ⟨statement, List.mem_cons_self, next_active step⟩

/-- Without another `END` there is none behind the one that has succeeded. -/
theorem never_ends_of_walk (walked : statements.foldlM (next false) phase = some final)
    (detached : ¬ phase.Attached) : ∀ statement ∈ statements, statement.1 ≠ .finish := by
  induction statements generalizing phase with
  | nil => simp
  | cons statement later ih =>
      rw [List.foldlM_cons] at walked
      obtain ⟨phase', step, walked⟩ := Option.bind_eq_some_iff.mp walked
      rw [List.forall_mem_cons]
      refine ⟨?_, ih walked fun attached => detached (next_attached step attached).1⟩
      obtain ⟨verb, answer⟩ := statement
      rintro rfl
      exact detached (attached_of_next step)

/-- The step that a statement is, and the ways to it and from it. -/
theorem walk_split {before after : List (XaVerb × XaAnswer)}
    (walked : (before ++ statement :: after).foldlM (next again) phase = some final) :
    ∃ middle phase', before.foldlM (next again) phase = some middle ∧
      middle.next again statement = some phase' ∧
        after.foldlM (next again) phase' = some final := by
  rw [List.foldlM_append] at walked
  obtain ⟨middle, first, walked⟩ := Option.bind_eq_some_iff.mp walked
  rw [List.foldlM_cons] at walked
  obtain ⟨phase', step, last⟩ := Option.bind_eq_some_iff.mp walked
  exact ⟨middle, phase', first, step, last⟩

end XaPhase

/-! ## Legal sequences -/

/-- The verbs in the statements. Oracle's rollback of a branch that is not prepared ends the
branch first, in the same block. -/
def carried (engineId : EngineId) (statements : List (XaVerb × XaAnswer)) : List XaVerb :=
  statements.flatMap fun statement =>
    if engineId = .oracle ∧ statement.1 = .rollback then [.finish, .rollback]
    else [statement.1]

/-- What was asked for a branch behind its `START` is a legal sequence. -/
structure LegalVerbs (engineId : EngineId) (sent : List XaRecord) : Prop where
  /-- Nothing follows the verb that finishes the branch. -/
  last : ∀ before statement after, verbs sent = before ++ statement :: after →
    finishesBranch statement.1 → after = []
  /-- Where there is no `END`, none is sent. -/
  silent : engineId = .postgres → .finish ∉ carried engineId (verbs sent)
  /-- `END` stands before all other verbs. -/
  first : engineId ≠ .postgres → ¬ Unreached sent → ∀ before statement after,
    verbs sent = before ++ statement :: after → statement.1 ≠ .finish →
      ∃ ending ∈ before, ending.1 = .finish
  /-- It has succeeded before the branch is prepared or committed. -/
  accepted : engineId ≠ .postgres → ∀ before statement after,
    verbs sent = before ++ statement :: after →
      statement.1 = .prepare ∨ statement.1 = .commit true → (.finish, .done) ∈ before

/-- `END` is sent once, and again only where it was refused. -/
structure EndedOnce (engineId : EngineId) (sent : List XaRecord) : Prop where
  again : ∀ before answer after, verbs sent = before ++ (.finish, answer) :: after →
    (.finish, .done) ∉ before
  exactly : .finish ∈ carried engineId (verbs sent) →
    (∀ statement ∈ verbs sent, statement.1 = .finish → statement.2 = .done) →
      (carried engineId (verbs sent)).count .finish = 1

/-- Where an engine bundles no verb, the statements are the verbs. -/
theorem carried_eq_map {engineId : EngineId} {statements : List (XaVerb × XaAnswer)}
    (unbundled : engineId = .oracle → ∀ statement ∈ statements, statement.1 ≠ .rollback) :
    carried engineId statements = statements.map Prod.fst := by
  induction statements with
  | nil => rfl
  | cons statement later ih =>
      have others := ih fun isOracle other member =>
        unbundled isOracle other (List.mem_cons_of_mem _ member)
      have alone : ¬ (engineId = .oracle ∧ statement.1 = .rollback) := fun bundled =>
        unbundled bundled.1 statement List.mem_cons_self bundled.2
      rw [carried, List.flatMap_cons, if_neg alone, List.map_cons, ← others]
      rfl

/-- The verbs that were sent lead to a phase. Behind an `END` that could not be sent the
branch is as it is behind one that was refused. -/
def Walked (again : Bool) (engineId : EngineId) (sent : List XaRecord) (final : XaPhase) : Prop :=
  ∃ first, (first = .start engineId ∨ first = .unended ∧ engineId ≠ .postgres ∧ Unreached sent) ∧
    (verbs sent).foldlM (XaPhase.next again) first = some final

section

variable {again : Bool} {engineId : EngineId} {sent : List XaRecord} {final : XaPhase}

/-- Where there is an `END`, the branch begins attached. -/
theorem Walked.attached (walked : Walked again engineId sent final)
    (speaks : engineId ≠ .postgres) :
    ∃ first, XaPhase.Attached first ∧
      (verbs sent).foldlM (XaPhase.next again) first = some final := by
  obtain ⟨first, begins, walked⟩ := walked
  refine ⟨first, ?_, walked⟩
  rcases begins with rfl | ⟨rfl, -, -⟩
  · rw [XaPhase.start, if_neg speaks]
    exact .inl rfl
  · exact .inr rfl

theorem Walked.of_postgres (walked : Walked again .postgres sent final) :
    (verbs sent).foldlM (XaPhase.next again) .idle = some final := by
  obtain ⟨first, rfl | ⟨-, other, -⟩, walked⟩ := walked
  · exact walked
  · exact absurd rfl other

theorem legalVerbs_of_walked (walked : Walked again engineId sent final)
    (quiet : engineId = .postgres → again = false) : LegalVerbs engineId sent where
  last := by
    intro before statement after split finishes
    obtain ⟨first, -, walked⟩ := walked
    rw [split] at walked
    obtain ⟨middle, phase', -, step, later⟩ := XaPhase.walk_split walked
    rw [XaPhase.finished_of_next step finishes] at later
    exact XaPhase.eq_nil_of_finished later
  silent := by
    rintro rfl
    obtain rfl := quiet rfl
    rw [carried_eq_map fun isOracle => absurd isOracle (by decide)]
    have none := XaPhase.never_ends_of_walk walked.of_postgres
      (by rintro (attached | attached) <;> cases attached)
    rw [List.mem_map]
    rintro ⟨statement, member, isEnd⟩
    exact none statement member isEnd
  first := by
    rintro speaks reached before statement after split other
    obtain ⟨first, rfl | ⟨-, -, unreached⟩, walked⟩ := walked
    · rw [XaPhase.start, if_neg speaks, split] at walked
      obtain ⟨middle, phase', earlier, step, -⟩ := XaPhase.walk_split walked
      refine XaPhase.head_of_walk earlier ?_
      rintro rfl
      exact other (XaPhase.next_active step)
    · exact absurd unreached reached
  accepted := by
    intro speaks before statement after split detaching
    obtain ⟨first, attached, walked⟩ := walked.attached speaks
    rw [split] at walked
    obtain ⟨middle, phase', earlier, step, -⟩ := XaPhase.walk_split walked
    obtain rfl := XaPhase.idle_of_next step detaching
    refine XaPhase.ended_of_walk earlier attached ?_ ?_
    · rintro (isActive | isActive) <;> cases isActive
    · rintro ⟨⟩

/-- Behind an `END` that has succeeded there is no other. -/
theorem count_finish_of_walk {statements : List (XaVerb × XaAnswer)} {phase : XaPhase}
    (walked : statements.foldlM (XaPhase.next false) phase = some final)
    (accepted : ∀ statement ∈ statements, statement.1 = .finish → statement.2 = .done) :
    (statements.map Prod.fst).count .finish ≤ 1 := by
  induction statements generalizing phase with
  | nil => simp
  | cons statement later ih =>
      rw [List.foldlM_cons] at walked
      obtain ⟨phase', step, rest⟩ := Option.bind_eq_some_iff.mp walked
      rw [List.forall_mem_cons] at accepted
      obtain ⟨verb, answer⟩ := statement
      rw [List.map_cons, List.count_cons]
      by_cases ends : verb = .finish
      · -- It was accepted, so the branch is detached from here on.
        subst ends
        obtain rfl : answer = .done := accepted.1 rfl
        have detached : ¬ phase'.Attached := fun attached =>
          (XaPhase.next_attached step attached).2 rfl
        have none := XaPhase.never_ends_of_walk rest detached
        have absent : (later.map Prod.fst).count .finish = 0 := by
          rw [List.count_eq_zero, List.mem_map]
          rintro ⟨statement, member, isEnd⟩
          exact none statement member isEnd
        simp [absent]
      · simpa [ends] using ih rest accepted.2

theorem endedOnce_of_walked (walked : Walked false engineId sent final)
    (unbundled : engineId = .oracle → ∀ statement ∈ verbs sent, statement.1 ≠ .rollback) :
    EndedOnce engineId sent where
  again := by
    intro before answer after split
    obtain ⟨first, -, walked⟩ := walked
    rw [split] at walked
    obtain ⟨middle, phase', earlier, step, -⟩ := XaPhase.walk_split walked
    exact (XaPhase.attached_of_walk earlier (XaPhase.attached_of_next step)).2
  exactly := by
    rw [carried_eq_map unbundled]
    intro ends accepted
    obtain ⟨first, -, walked⟩ := walked
    have atMost := count_finish_of_walk walked accepted
    have atLeast := List.count_pos_iff.mpr ends
    omega

end

/-! ## What a method adds -/

/-- The verbs may be sent from a phase, and they leave it unless a lookup fails. -/
def Goes (again : Bool) (phase : XaPhase) (sent : List XaRecord) : Prop :=
  ∃ final, (verbs sent).foldlM (XaPhase.next again) phase = some final ∧
    (Unreached sent ∨ final ≠ .active)

section

variable {again : Bool} {engineId : EngineId} {phase middle : XaPhase} {verb : XaVerb}
  {result : Except OdbcError Unit} {front back : List XaRecord}

theorem Goes.append (goes : Goes again middle back)
    (walked : (verbs front).foldlM (XaPhase.next again) phase = some middle) :
    Goes again phase (front ++ back) := by
  obtain ⟨final, later, moved⟩ := goes
  refine ⟨final, ?_, moved.imp_left fun unreached => unreached.right front⟩
  rw [verbs_append, List.foldlM_append, walked]
  exact later

/-- A verb that was sent, or not because of a lookup, or because it is silent. -/
theorem ran_cases (supported : engineId.Supported) (ran : Ran engineId verb result back) :
    (Unreached back ∧ verbs back = [] ∧ ∃ error, result = .error error) ∨
    (Silent engineId verb ∧ verbs back = [] ∧ result = .ok ()) ∨
    (¬ Silent engineId verb ∧ ∃ answer, verbs back = [(verb, answer)] ∧
      result = XaAnswer.result answer) := by
  cases ran with
  | unreached lookup nothing => exact .inl ⟨lookup, nothing, _, rfl⟩
  | applied applied =>
      cases applied with
      | unsupported other nothing => exact absurd supported other
      | silent isSilent nothing => exact .inr (.inl ⟨isSilent, nothing, rfl⟩)
      | answered answer _ spoken statement =>
          exact .inr (.inr ⟨spoken, answer, statement, rfl⟩)

theorem goes_of_ran (supported : engineId.Supported) (ran : Ran engineId verb result back)
    (speaks : verb ≠ .finish)
    (allowed : ∀ answer, result = XaAnswer.result answer →
      ∃ final, phase.next again (verb, answer) = some final ∧ final ≠ .active) :
    Goes again phase back := by
  rcases ran_cases supported ran with
    ⟨unreached, nothing, -⟩ | ⟨isSilent, -⟩ | ⟨-, answer, statement, same⟩
  · exact ⟨phase, by rw [nothing]; rfl, .inl unreached⟩
  · exact absurd isSilent.2 speaks
  · obtain ⟨final, step, moved⟩ := allowed answer same
    refine ⟨final, ?_, .inr moved⟩
    rw [statement, List.foldlM_cons, step]
    rfl

/-- A drop guard may do its work: it finds the branch attached, or idle where no `END` is
sent or another one may be. -/
def Droppable (again : Bool) (engineId : EngineId) (phase : XaPhase) : Prop :=
  if engineId = .postgres then phase = .idle
  else phase.Attached ∨ phase = .idle ∧ again = true

theorem goes_of_dropped (supported : engineId.Supported)
    (droppable : Droppable again engineId phase) (dropped : Dropped engineId back) :
    Goes again phase back := by
  cases dropped with
  | unreached lookup nothing => exact ⟨phase, by rw [nothing]; rfl, .inl lookup⟩
  | unsupported other nothing => exact absurd supported other
  | silent answer isSilent statement =>
      rw [Droppable, if_pos isSilent] at droppable
      subst droppable
      exact ⟨.finished, by rw [statement]; cases answer <;> rfl, .inr (by rintro ⟨⟩)⟩
  | ended ending answer spoken statements =>
      rw [Droppable, if_neg spoken] at droppable
      refine ⟨.finished, ?_, .inr (by rintro ⟨⟩)⟩
      rw [statements]
      rcases droppable with (rfl | rfl) | ⟨rfl, rfl⟩ <;> cases ending <;> cases answer <;> rfl

/-- A branch may be dropped as it was started. -/
theorem droppable_start : Droppable again engineId (.start engineId) := by
  rw [Droppable, XaPhase.start]
  split_ifs
  · rfl
  · exact .inl (.inl rfl)

/-- Behind an `END` that was refused, which happens only where there is one. -/
theorem droppable_unended (speaks : engineId ≠ .postgres) :
    Droppable again engineId .unended := by
  rw [Droppable, if_neg speaks]
  exact .inl (.inr rfl)

/-- The phase behind an `END` and its outcome. -/
theorem walk_of_ran_finish (supported : engineId.Supported)
    (ran : Ran engineId .finish result front) :
    (Unreached front ∧ verbs front = [] ∧ ∃ error, result = .error error) ∨
    (result = .ok () ∧
      (verbs front).foldlM (XaPhase.next again) (.start engineId) = some .idle) ∨
    (engineId ≠ .postgres ∧ (∃ error, result = .error error) ∧
      (verbs front).foldlM (XaPhase.next again) (.start engineId) = some .unended) := by
  rcases ran_cases supported ran with
    unreached | ⟨isSilent, nothing, same⟩ | ⟨spoken, answer, statement, same⟩
  · exact .inl unreached
  · refine .inr (.inl ⟨same, ?_⟩)
    rw [nothing, XaPhase.start, if_pos isSilent.1]
    rfl
  · have speaks : engineId ≠ .postgres := fun isPostgres => spoken ⟨isPostgres, rfl⟩
    rw [statement, XaPhase.start, if_neg speaks]
    cases answer with
    | done => exact .inr (.inl ⟨same, rfl⟩)
    | refused error lost => exact .inr (.inr ⟨speaks, ⟨error, same⟩, rfl⟩)

end

/-! ## Branches at work -/

/-- Where a started branch stands when its handle is of some type, or gone. -/
def Standing (again : Bool) (engineId : EngineId) (sent : List XaRecord) :
    Option XaHandle → Prop
  | some (.active xa) => xa.engineId = engineId ∧ verbs sent = []
  | some (.preparing idle) => idle.inner.engineId = engineId ∧
      (verbs sent).foldlM (XaPhase.next again) (.start engineId) = some .idle
  | some (.prepared ready) => ready.engineId = engineId ∧
      (verbs sent).foldlM (XaPhase.next again) (.start engineId) = some .prepared
  | none => ∃ final, Walked again engineId sent final ∧ (Unreached sent ∨ final ≠ .active)

section

variable {again : Bool} {engineId : EngineId} {sent back : List XaRecord} {phase : XaPhase}
  {method : XaMethod} {owned : XaHandle} {next : Option XaHandle}

theorem Goes.standing (goes : Goes again phase back)
    (walked : (verbs sent).foldlM (XaPhase.next again) (.start engineId) = some phase) :
    Standing again engineId (sent ++ back) none := by
  obtain ⟨final, walked, moved⟩ := goes.append walked
  exact ⟨final, ⟨.start engineId, .inl rfl, walked⟩, moved⟩

theorem standing_active {xa : XaTransaction} (supported : xa.engineId.Supported)
    (standing : Standing again engineId sent (some (.active xa)))
    (uses : Uses method (.active xa) next back) : Standing again engineId (sent ++ back) next := by
  obtain ⟨rfl, nothing⟩ := standing
  have start : (verbs sent).foldlM (XaPhase.next again) (.start xa.engineId) =
      some (.start xa.engineId) := by rw [nothing]; rfl
  -- `END` that fails and the drop guard behind it.
  have failed : ∀ {error : OdbcError} {first second : List XaRecord},
      Ran xa.engineId .finish (.error error) first → Dropped xa.engineId second →
        Goes again (.start xa.engineId) (first ++ second) := by
    intro error first second ran dropped
    rcases walk_of_ran_finish supported ran with
      ⟨-, quiet, -⟩ | ⟨wrong, -⟩ | ⟨speaks, -, walked⟩
    · exact (goes_of_dropped supported droppable_start dropped).append (by rw [quiet]; rfl)
    · cases wrong
    · exact (goes_of_dropped supported (droppable_unended speaks) dropped).append walked
  cases uses with
  | ended ran =>
      rcases walk_of_ran_finish supported ran with
        ⟨-, -, error, wrong⟩ | ⟨-, walked⟩ | ⟨-, ⟨error, wrong⟩, -⟩
      · cases wrong
      · exact ⟨rfl, by rw [verbs_append, nothing, List.nil_append]; exact walked⟩
      · cases wrong
  | endFailed ran dropped => exact (failed ran dropped).standing start
  | committedOnePhase committed =>
      cases committed with
      | dropped ran dropped => exact (failed ran dropped).standing start
      | committed ended ran =>
          rcases walk_of_ran_finish supported ended with
            ⟨-, -, error, wrong⟩ | ⟨-, walked⟩ | ⟨-, ⟨error, wrong⟩, -⟩
          · cases wrong
          · refine Goes.standing (Goes.append (goes_of_ran supported ran (by rintro ⟨⟩) ?_) walked)
              start
            exact fun answer _ => ⟨.finished, by cases answer <;> rfl, by rintro ⟨⟩⟩
          · cases wrong
  | rolledBack rolledBack =>
      cases rolledBack with
      | @intro _ front back ended ran =>
          have rolls : ∀ phase : XaPhase, phase = .idle ∨ phase = .unended →
              Goes again phase back := by
            intro phase rollable
            refine goes_of_ran supported ran (by rintro ⟨⟩) fun answer _ => ⟨.finished, ?_, ?_⟩
            · rcases rollable with rfl | rfl <;> cases answer <;> rfl
            · rintro ⟨⟩
          rcases walk_of_ran_finish supported ended with
            ⟨unreached, quiet, -⟩ | ⟨-, walked⟩ | ⟨-, -, walked⟩
          · by_cases speaks : xa.engineId = .postgres
            · have idle : XaPhase.start xa.engineId = .idle := by rw [XaPhase.start, if_pos speaks]
              refine ((rolls _ (.inl idle)).append ?_).standing start
              rw [quiet]
              rfl
            · -- No `END` was sent, and the `ROLLBACK` is.
              obtain ⟨final, later, moved⟩ := rolls .unended (.inr rfl)
              refine ⟨final, ⟨.unended, .inr ⟨rfl, speaks, ?_⟩, ?_⟩, ?_⟩
              · exact (unreached.left _).right sent
              · rw [verbs_append, nothing, verbs_append, quiet]
                exact later
              · exact .inl ((unreached.left _).right sent)
          · exact ((rolls .idle (.inl rfl)).append walked).standing start
          · exact ((rolls .unended (.inr rfl)).append walked).standing start
  | droppedActive dropped =>
      exact (goes_of_dropped supported droppable_start dropped).standing start

theorem standing_preparing {preparing : PreparingXa}
    (supported : preparing.inner.engineId.Supported)
    (standing : Standing again engineId sent (some (.preparing preparing)))
    (uses : Uses method (.preparing preparing) next back)
    (allowed : method = .dropPreparing → again = true ∨ engineId = .postgres) :
    Standing again engineId (sent ++ back) next := by
  obtain ⟨rfl, idle⟩ := standing
  cases uses with
  | prepared ran =>
      rcases ran_cases supported ran with
        ⟨-, -, error, wrong⟩ | ⟨⟨-, wrong⟩, -⟩ | ⟨-, answer, statement, same⟩
      · cases wrong
      · cases wrong
      · refine ⟨rfl, ?_⟩
        rw [verbs_append, List.foldlM_append, idle, statement]
        cases answer with
        | done => rfl
        | refused error lost => cases same
  | prepareFailed ran =>
      refine (goes_of_ran supported ran (by rintro ⟨⟩) fun answer failed => ?_).standing idle
      cases answer with
      | done => cases failed
      | refused error lost => exact ⟨.finished, rfl, by rintro ⟨⟩⟩
  | rolledBackPreparing ran =>
      refine (goes_of_ran supported ran (by rintro ⟨⟩) fun answer _ => ?_).standing idle
      exact ⟨.finished, by cases answer <;> rfl, by rintro ⟨⟩⟩
  | droppedPreparing dropped =>
      refine (goes_of_dropped supported ?_ dropped).standing idle
      rw [Droppable]
      split_ifs with isPostgres
      · rfl
      · exact .inr ⟨rfl, (allowed rfl).resolve_right isPostgres⟩

theorem standing_prepared {ready : PreparedXa} (supported : ready.engineId.Supported)
    (standing : Standing again engineId sent (some (.prepared ready)))
    (uses : Uses method (.prepared ready) next back) :
    Standing again engineId (sent ++ back) next := by
  obtain ⟨rfl, walked⟩ := standing
  cases uses with
  | committed ran =>
      refine (goes_of_ran supported ran (by rintro ⟨⟩) fun answer _ => ?_).standing walked
      exact ⟨.finished, by cases answer <;> rfl, by rintro ⟨⟩⟩
  | rolledBackPrepared ran =>
      refine (goes_of_ran supported ran (by rintro ⟨⟩) fun answer _ => ?_).standing walked
      exact ⟨.finished, by cases answer <;> rfl, by rintro ⟨⟩⟩
  | droppedPrepared =>
      rw [List.append_nil]
      exact ⟨.prepared, ⟨.start ready.engineId, .inl rfl, walked⟩, .inr (by rintro ⟨⟩)⟩

end

/-- `END` may be sent again, or there is none, or no idle branch is dropped. -/
def Permits (again : Bool) (engineId : EngineId) (handle : Nat) (log : List Output) : Prop :=
  again = true ∨ engineId = .postgres ∨ ∀ sent, .used handle .dropPreparing sent ∉ log

/-- What holds of the branches and of what was sent for them. -/
structure Branches (log : List Output) (system : XaSystem) : Prop where
  sound : system.Sound
  fresh : ∀ handle, system.next ≤ handle →
    system.handles.lookup handle = none ∧ sentFor handle log = []
  started : ∀ handle engineId, .started handle engineId ∈ log →
    handle < system.next ∧ engineId.Supported ∧
      ∀ again, Permits again engineId handle log →
        Standing again engineId (sentFor handle log) (system.handles.lookup handle)

section

variable {log : List Output} {system system' : XaSystem} {output : Output}

theorem Permits.earlier {again : Bool} {engineId : EngineId} {handle : Nat}
    (permits : Permits again engineId handle (log ++ [output])) :
    Permits again engineId handle log :=
  permits.imp_right fun permits => permits.imp_right
    fun never sent member => never sent (List.mem_append_left [output] member)

theorem sentFor_append_of_quiet {handle : Nat} (quiet : sentFor handle [output] = []) :
    sentFor handle (log ++ [output]) = sentFor handle log := by
  rw [sentFor_append, quiet, List.append_nil]

/-- A step that uses no handle and starts no branch. -/
theorem Branches.quiet (branches : Branches log system) (sound : system'.Sound)
    (quiet : ∀ handle, sentFor handle [output] = [])
    (other : ∀ handle engineId, output ≠ .started handle engineId)
    (later : system.next ≤ system'.next)
    (same : ∀ handle, handle < system.next ∨ system'.next ≤ handle →
      system'.handles.lookup handle = system.handles.lookup handle) :
    Branches (log ++ [output]) system' where
  sound := sound
  fresh := by
    intro handle unused
    obtain ⟨none, silent⟩ := branches.fresh handle (later.trans unused)
    exact ⟨(same handle (.inr unused)).trans none,
      (sentFor_append_of_quiet (quiet handle)).trans silent⟩
  started := by
    intro handle engineId member
    rcases List.mem_append.mp member with member | member
    · obtain ⟨old, supported, standing⟩ := branches.started handle engineId member
      refine ⟨Nat.lt_of_lt_of_le old later, supported, fun again permits => ?_⟩
      rw [same handle (.inl old), sentFor_append_of_quiet (quiet handle)]
      exact standing again permits.earlier
    · exact absurd (List.mem_singleton.mp member).symm (other handle engineId)

theorem branches_of_stepped (branches : Branches log system)
    (stepped : Stepped system system' output) : Branches (log ++ [output]) system' := by
  have sound := sound_of_stepped branches.sound stepped
  cases stepped with
  | refused history =>
      exact branches.quiet sound (fun _ => rfl) (by rintro _ _ ⟨⟩) le_rfl fun _ _ => rfl
  | recovered history =>
      exact branches.quiet sound (fun _ => rfl) (by rintro _ _ ⟨⟩) le_rfl fun _ _ => rfl
  | resumed connId xid engineId =>
      refine branches.quiet sound (fun _ => rfl) (by rintro _ _ ⟨⟩) (Nat.le_succ _) ?_
      rintro handle range
      rw [lookup_own, if_neg]
      rintro rfl
      exact range.elim (Nat.lt_irrefl _) (Nat.not_succ_le_self _)
  | started connId xid engineId history supported =>
      refine ⟨sound, ?_, ?_⟩
      · intro handle unused
        have old : system.next < handle := unused
        obtain ⟨none, silent⟩ := branches.fresh handle old.le
        refine ⟨?_, (sentFor_append_of_quiet rfl).trans silent⟩
        rw [lookup_own, if_neg old.ne']
        exact none
      · intro handle engineId' member
        rw [lookup_own]
        rcases List.mem_append.mp member with member | member
        · obtain ⟨old, supported', standing⟩ := branches.started handle engineId' member
          refine ⟨Nat.lt_succ_of_lt old, supported', fun again permits => ?_⟩
          rw [if_neg old.ne, sentFor_append_of_quiet rfl]
          exact standing again permits.earlier
        · cases List.mem_singleton.mp member
          refine ⟨Nat.lt_succ_self _, supported, fun again _ => ?_⟩
          rw [if_pos rfl, sentFor_append_of_quiet rfl, (branches.fresh _ le_rfl).2]
          exact ⟨rfl, rfl⟩
  | used used method owned sent result held uses =>
      refine ⟨sound, ?_, ?_⟩
      · intro handle unused
        obtain ⟨none, silent⟩ := branches.fresh handle unused
        have other : used ≠ handle := by
          rintro rfl
          cases none.symm.trans held
        rw [lookup_settle, if_neg other.symm, sentFor_append, silent, sentFor_used_ne other]
        exact ⟨none, rfl⟩
      · intro handle engineId member
        obtain member := (List.mem_append.mp member).resolve_right
          fun new => by cases List.mem_singleton.mp new
        obtain ⟨old, supported, standing⟩ := branches.started handle engineId member
        refine ⟨old, supported, fun again permits => ?_⟩
        have standing := standing again permits.earlier
        rw [lookup_settle, sentFor_append]
        by_cases same : handle = used
        · subst same
          rw [if_pos rfl, sentFor_used]
          rw [held] at standing
          cases owned with
          | active xa =>
              exact standing_active (branches.sound handle _ held).2 standing uses
          | preparing preparing =>
              refine standing_preparing (branches.sound handle _ held).2 standing uses ?_
              rintro rfl
              refine permits.imp_right fun permits => permits.resolve_right fun never => ?_
              exact never sent (List.mem_append_right log (List.mem_singleton_self _))
          | prepared ready =>
              refine standing_prepared ?_ standing uses
              rw [standing.1]
              exact supported
        · rw [if_neg same, sentFor_used_ne (Ne.symm same), List.append_nil]
          exact standing

theorem branches_of_run {driver : XaDriver} {events : List Event}
    (ran : run (XaSystem.step driver) events {} = some (system, log)) : Branches log system := by
  refine run_invariant Branches ?_ [] ⟨?_, ?_, ?_⟩ ran
  · intro log event system system' output branches stepped
    exact branches_of_stepped branches (stepped_of_step branches.sound stepped)
  · rintro handle owned ⟨⟩
  · exact fun _ _ => ⟨rfl, rfl⟩
  · rintro handle engineId ⟨⟩

/-- Where a branch has got to. -/
theorem Branches.walked (branches : Branches log system) {again : Bool} {engineId : EngineId}
    {handle : Nat} (started : .started handle engineId ∈ log)
    (permits : Permits again engineId handle log) :
    ∃ final, Walked again engineId (sentFor handle log) final ∧
      (system.handles.lookup handle = none → Unreached (sentFor handle log) ∨ final ≠ .active) := by
  obtain ⟨-, -, standing⟩ := branches.started handle engineId started
  have standing := standing again permits
  rcases held : system.handles.lookup handle with _ | owned
  · rw [held] at standing
    obtain ⟨final, walked, moved⟩ := standing
    exact ⟨final, walked, fun _ => moved⟩
  · rw [held] at standing
    cases owned with
    | active xa => exact ⟨.start engineId, ⟨_, .inl rfl, by rw [standing.2]; rfl⟩, by rintro ⟨⟩⟩
    | preparing idle => exact ⟨.idle, ⟨_, .inl rfl, standing.2⟩, by rintro ⟨⟩⟩
    | prepared ready => exact ⟨.prepared, ⟨_, .inl rfl, standing.2⟩, by rintro ⟨⟩⟩

end

/-- Whatever the calls and the answers of the driver, a branch is sent a legal sequence of
verbs. Unless it is dropped while it is idle, or rolled back on Oracle before it is prepared,
`END` is sent once; a branch whose handle is consumed has been ended. -/
theorem verbs_of_branch_legal {driver : XaDriver} {events : List Event} {system : XaSystem}
    {log : List Output} {handle : Nat} {engineId : EngineId}
    (ran : run (XaSystem.step driver) events {} = some (system, log))
    (started : .started handle engineId ∈ log) :
    engineId.Supported ∧ LegalVerbs engineId (sentFor handle log) ∧
      ((∀ sent, .used handle .dropPreparing sent ∉ log) →
        (engineId = .oracle → ∀ statement ∈ verbs (sentFor handle log), statement.1 ≠ .rollback) →
          EndedOnce engineId (sentFor handle log)) ∧
      (engineId ≠ .postgres → system.handles.lookup handle = none →
        ¬ Unreached (sentFor handle log) →
          ∃ ending ∈ verbs (sentFor handle log), ending.1 = .finish) := by
  have branches := branches_of_run ran
  refine ⟨(branches.started handle engineId started).2.1, ?_, ?_, ?_⟩
  · by_cases isPostgres : engineId = .postgres
    · obtain ⟨final, walked, -⟩ := branches.walked started (.inr (.inl isPostgres))
      exact legalVerbs_of_walked walked fun _ => rfl
    · obtain ⟨final, walked, -⟩ := branches.walked started (.inl rfl)
      exact legalVerbs_of_walked walked fun isPostgres' => absurd isPostgres' isPostgres
  · intro never unbundled
    obtain ⟨final, walked, -⟩ := branches.walked started (.inr (.inr never))
    exact endedOnce_of_walked walked unbundled
  · intro speaks consumed reached
    obtain ⟨final, ⟨first, begins, walked⟩, moved⟩ :=
      branches.walked started (.inl rfl)
    obtain rfl := begins.resolve_right fun unended => reached unended.2.2
    rw [XaPhase.start, if_neg speaks] at walked
    exact XaPhase.head_of_walk walked ((moved consumed).resolve_left reached)

/-- A driver that does everything it is asked to. -/
def obligingXa (engineId : EngineId) : XaDriver where
  answer _ _ _ := .done
  engine _ _ := engineId
  gids _ _ := []
  recoverRows _ _ := []
  pendingRows _ _ := []

def sampleXid : Xid := ⟨1, [7], [], by decide, by decide, by decide⟩

/-- The whole way through both phases. -/
def bothPhases : List Event :=
  [.start 1 sampleXid, .use 0 .finish, .use 0 .prepare, .use 0 .commitPrepared]

theorem verbs_of_branch_legal_mysql :
    ∃ system log, run (XaSystem.step (obligingXa .mySql)) bothPhases {} = some (system, log) ∧
      verbs (sentFor 0 log) = [(.finish, .done), (.prepare, .done), (.commit false, .done)] ∧
      LegalVerbs .mySql (sentFor 0 log) ∧ EndedOnce .mySql (sentFor 0 log) := by
  have ran : ∃ system log,
      run (XaSystem.step (obligingXa .mySql)) bothPhases {} = some (system, log) ∧
        .started 0 .mySql ∈ log ∧ (∀ sent, .used 0 .dropPreparing sent ∉ log) ∧
          verbs (sentFor 0 log) = [(.finish, .done), (.prepare, .done), (.commit false, .done)] :=
    ⟨_, _, rfl, List.mem_cons_self, by simp, rfl⟩
  obtain ⟨system, log, ran, started, never, sent⟩ := ran
  obtain ⟨-, legal, once, -⟩ := verbs_of_branch_legal ran started
  exact ⟨system, log, ran, sent, legal, once never (by rintro ⟨⟩)⟩

/-- On PostgreSQL a branch goes through both phases without an `END`. -/
theorem end_not_sent_on_postgres :
    ¬ ∀ (driver : XaDriver) (events : List Event) (system : XaSystem) (log : List Output)
      (handle : Nat) (engineId : EngineId),
      run (XaSystem.step driver) events {} = some (system, log) →
      .started handle engineId ∈ log → system.handles.lookup handle = none →
      (∀ record ∈ sentFor handle log, record.answer = .done) →
        (carried engineId (verbs (sentFor handle log))).count .finish = 1 := by
  intro claimed
  have ran : ∃ system log,
      run (XaSystem.step (obligingXa .postgres)) bothPhases {} = some (system, log) ∧
        .started 0 .postgres ∈ log ∧ system.handles.lookup 0 = none ∧
          (sentFor 0 log).map XaRecord.answer = List.replicate 7 .done ∧
            carried .postgres (verbs (sentFor 0 log)) = [.prepare, .commit false] :=
    ⟨_, _, rfl, List.mem_cons_self, rfl, rfl, rfl⟩
  obtain ⟨system, log, ran, started, consumed, answers, sent⟩ := ran
  have done : ∀ record ∈ sentFor 0 log, record.answer = .done := fun record member =>
    List.eq_of_mem_replicate (answers ▸ List.mem_map_of_mem member)
  have once := claimed _ _ system log 0 .postgres ran started consumed done
  rw [sent] at once
  exact absurd once (by decide)

end OdbcFast.Verification
