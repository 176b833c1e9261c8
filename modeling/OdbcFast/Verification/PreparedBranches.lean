import OdbcFast.Verification.XaBranches

/-!
# Prepared branches

Once a branch is prepared only its owner decides. No drop guard and no error path sends a
`ROLLBACK` for it: the one that is sent is asked for by name, on a handle that was prepared
or resumed. A handle finishes its branch at most once.
-/

namespace OdbcFast.Verification

open Wire OdbcFast.Native OdbcFast.Native.Engine OdbcFast.Native.Engine.XaSystem

/-- The statements sent for a handle, each with the method that has sent it. -/
def statementsOf (handle : Nat) (log : List Output) : List (XaMethod × XaVerb × XaAnswer) :=
  log.flatMap fun output => match output with
    | .used used method sent =>
      if used = handle then (verbs sent).map fun statement => (method, statement) else []
    | _ => []

def RollsBack (verb : XaVerb) : Prop := verb = .rollback ∨ verb = .rollbackPrepared

/-- The verb was done, and the branch is finished. -/
def finishedBy (statement : XaVerb × XaAnswer) : Bool :=
  finishesBranch statement.1 && statement.2 = .done

/-- Both phases begin behind a `PREPARE` that was done, or with a handle that is resumed. -/
def SecondPhase (handle : Nat) (log : List Output)
    (before : List (XaMethod × XaVerb × XaAnswer)) : Prop :=
  (∃ method, (method, .prepare, .done) ∈ before) ∨ ∃ engineId, .resumed handle engineId ∈ log

def XaHandle.IsPrepared : XaHandle → Prop
  | .prepared _ => True
  | _ => False

/-! ## What a method writes -/

/-- What the statements of a call have to do with the handle it consumes. -/
structure Writes (method : XaMethod) (owned : XaHandle) (next : Option XaHandle)
    (statements : List (XaVerb × XaAnswer)) : Prop where
  asked : ∀ statement ∈ statements, RollsBack statement.1 →
    method = .rollbackPrepared ∨ ¬ XaHandle.IsPrepared owned
  finished : statements.countP finishedBy ≤ if next = none then 1 else 0
  prepared : (.prepare, .done) ∈ statements →
    statements = [(.prepare, .done)] ∧ ∃ ready, next = some (.prepared ready)
  upwards : XaHandle.IsPrepared owned → next = none

section

variable {engineId : EngineId} {verb : XaVerb} {result : Except OdbcError Unit}
  {sent : List XaRecord} {method : XaMethod} {owned : XaHandle} {next : Option XaHandle}

/-- A verb is at most one statement. -/
theorem verbs_of_ran (ran : Ran engineId verb result sent) :
    verbs sent = [] ∨ ∃ answer, verbs sent = [(verb, answer)] ∧
      result = XaAnswer.result answer := by
  cases ran with
  | unreached _ nothing => exact .inl nothing
  | applied applied =>
      cases applied with
      | unsupported _ nothing => exact .inl nothing
      | silent _ nothing => exact .inl nothing
      | answered answer _ _ statement => exact .inr ⟨answer, statement, rfl⟩

/-- A drop guard ends the branch, at most, and rolls it back. -/
theorem verbs_of_dropped (dropped : Dropped engineId sent) :
    ∃ endings, (∀ ending ∈ endings, ending.1 = XaVerb.finish) ∧
      (verbs sent = endings ∨ ∃ answer, verbs sent = endings ++ [(.rollback, answer)]) := by
  cases dropped with
  | unreached _ nothing => exact ⟨[], by simp, .inl nothing⟩
  | unsupported _ nothing => exact ⟨[], by simp, .inl nothing⟩
  | silent answer _ statement => exact ⟨[], by simp, .inr ⟨answer, statement⟩⟩
  | ended ending answer _ statements =>
      exact ⟨[(.finish, ending)], by simp, .inr ⟨answer, statements⟩⟩

theorem endings_of_ran (ran : Ran engineId .finish result sent) :
    ∀ ending ∈ verbs sent, ending.1 = XaVerb.finish := by
  rcases verbs_of_ran ran with nothing | ⟨answer, statement, -⟩
  · simp [nothing]
  · simp [statement]

theorem countP_endings {endings : List (XaVerb × XaAnswer)}
    (ends : ∀ ending ∈ endings, ending.1 = XaVerb.finish) : endings.countP finishedBy = 0 := by
  rw [List.countP_eq_zero]
  intro statement member
  simp [finishedBy, ends statement member, finishesBranch]

/-- Nothing but `END`. -/
theorem writes_endings {endings : List (XaVerb × XaAnswer)}
    (ends : ∀ ending ∈ endings, ending.1 = XaVerb.finish)
    (upwards : XaHandle.IsPrepared owned → next = none) : Writes method owned next endings where
  asked := by
    intro statement member rolls
    rw [ends statement member] at rolls
    rcases rolls with ⟨⟨⟩⟩ | ⟨⟨⟩⟩
  finished := by
    rw [countP_endings ends]
    exact Nat.zero_le _
  prepared member := by cases ends _ member
  upwards := upwards

/-- One verb behind it that consumes the handle. -/
theorem writes_last {endings : List (XaVerb × XaAnswer)} {answer : XaAnswer}
    (ends : ∀ ending ∈ endings, ending.1 = XaVerb.finish)
    (asked : RollsBack verb → method = .rollbackPrepared ∨ ¬ XaHandle.IsPrepared owned)
    (other : (verb, answer) ≠ (.prepare, .done)) :
    Writes method owned none (endings ++ [(verb, answer)]) where
  asked := by
    intro statement member rolls
    rcases List.mem_append.mp member with member | member
    · rw [ends statement member] at rolls
      rcases rolls with ⟨⟨⟩⟩ | ⟨⟨⟩⟩
    · rw [List.mem_singleton.mp member] at rolls
      exact asked rolls
  finished := by
    rw [List.countP_append, countP_endings ends, if_pos rfl, Nat.zero_add]
    exact List.countP_le_length
  prepared member := by
    rcases List.mem_append.mp member with member | member
    · cases ends _ member
    · exact absurd (List.mem_singleton.mp member).symm other
  upwards _ := rfl

/-- A verb that consumes the handle, sent or not, behind what may only be `END`. -/
theorem writes_ran {front back : List XaRecord}
    (ends : ∀ ending ∈ verbs front, ending.1 = XaVerb.finish)
    (ran : Ran engineId verb result back)
    (asked : RollsBack verb → method = .rollbackPrepared ∨ ¬ XaHandle.IsPrepared owned)
    (other : verb = .prepare → result ≠ .ok ()) :
    Writes method owned none (verbs (front ++ back)) := by
  rw [verbs_append]
  rcases verbs_of_ran ran with nothing | ⟨answer, statement, same⟩
  · rw [nothing, List.append_nil]
    exact writes_endings ends fun _ => rfl
  · rw [statement]
    refine writes_last ends asked ?_
    rintro ⟨⟩
    exact other rfl same

theorem writes_dropped {front back : List XaRecord}
    (ends : ∀ ending ∈ verbs front, ending.1 = XaVerb.finish) (dropped : Dropped engineId back)
    (unprepared : ¬ XaHandle.IsPrepared owned) :
    Writes method owned none (verbs (front ++ back)) := by
  rw [verbs_append]
  obtain ⟨endings, ends', sent⟩ := verbs_of_dropped dropped
  have allEnd : ∀ ending ∈ verbs front ++ endings, ending.1 = XaVerb.finish := by
    rw [List.forall_mem_append]
    exact ⟨ends, ends'⟩
  rcases sent with sent | ⟨answer, sent⟩
  · rw [sent]
    exact writes_endings allEnd fun _ => rfl
  · rw [sent, ← List.append_assoc]
    exact writes_last allEnd (fun _ => .inr unprepared) (by rintro ⟨⟩)

theorem writes_of_uses (uses : Uses method owned next sent) :
    Writes method owned next (verbs sent) := by
  have nothing : ∀ ending ∈ verbs [], ending.1 = XaVerb.finish := by simp
  cases uses with
  | ended ran => exact writes_endings (endings_of_ran ran) (by rintro ⟨⟩)
  | endFailed failed dropped => exact writes_dropped (endings_of_ran failed) dropped id
  | committedOnePhase committed =>
      cases committed with
      | committed ended ran =>
          exact writes_ran (endings_of_ran ended) ran (by rintro (⟨⟨⟩⟩ | ⟨⟨⟩⟩)) (by rintro ⟨⟩)
      | dropped failed dropped => exact writes_dropped (endings_of_ran failed) dropped id
  | rolledBack rolledBack =>
      cases rolledBack with
      | intro ended ran =>
          exact writes_ran (endings_of_ran ended) ran (fun _ => .inr id) (by rintro ⟨⟩)
  | droppedActive dropped => exact writes_dropped nothing dropped id
  | prepared ran =>
      rcases verbs_of_ran ran with silent | ⟨answer, statement, same⟩
      · rw [silent]
        exact writes_endings nothing (by rintro ⟨⟩)
      · cases answer with
        | refused error lost => cases same
        | done =>
            rw [statement]
            refine ⟨?_, by simp [finishedBy, finishesBranch], fun _ => ⟨rfl, _, rfl⟩, by rintro ⟨⟩⟩
            intro statement member rolls
            rw [List.mem_singleton.mp member] at rolls
            exact absurd rolls (by rintro (⟨⟨⟩⟩ | ⟨⟨⟩⟩))
  | prepareFailed ran =>
      exact writes_ran nothing ran (by rintro (⟨⟨⟩⟩ | ⟨⟨⟩⟩)) (by rintro - ⟨⟩)
  | rolledBackPreparing ran => exact writes_ran nothing ran (fun _ => .inr id) (by rintro ⟨⟩)
  | droppedPreparing dropped => exact writes_dropped nothing dropped id
  | committed ran => exact writes_ran nothing ran (by rintro (⟨⟨⟩⟩ | ⟨⟨⟩⟩)) (by rintro ⟨⟩)
  | rolledBackPrepared ran => exact writes_ran nothing ran (fun _ => .inl rfl) (by rintro ⟨⟩)
  | droppedPrepared => exact writes_endings nothing fun _ => rfl

end

/-! ## Handles over a run -/

/-- What holds of the statements sent for a handle, which is held or has been consumed. -/
structure Secured (handle : Nat) (log : List Output) (held : Option XaHandle) : Prop where
  asked : ∀ before method verb answer after,
    statementsOf handle log = before ++ (method, verb, answer) :: after → RollsBack verb →
      SecondPhase handle log before → method = .rollbackPrepared
  finished : (statementsOf handle log).countP (fun statement => finishedBy statement.2) ≤
    if held = none then 1 else 0
  early : ∀ owned, held = some owned → ¬ XaHandle.IsPrepared owned →
    ¬ SecondPhase handle log (statementsOf handle log)

structure SecuredRun (log : List Output) (system : XaSystem) : Prop where
  sound : system.Sound
  fresh : ∀ handle, system.next ≤ handle → system.handles.lookup handle = none ∧
    statementsOf handle log = [] ∧ ∀ engineId, .resumed handle engineId ∉ log
  secured : ∀ handle, Secured handle log (system.handles.lookup handle)

section

variable {log : List Output} {system system' : XaSystem} {output : Output} {handle : Nat}
  {held : Option XaHandle}

theorem statementsOf_append (front back : List Output) :
    statementsOf handle (front ++ back) = statementsOf handle front ++ statementsOf handle back :=
  List.flatMap_append

theorem statementsOf_append_of_quiet (quiet : statementsOf handle [output] = []) :
    statementsOf handle (log ++ [output]) = statementsOf handle log := by
  rw [statementsOf_append, quiet, List.append_nil]

theorem statementsOf_used (handle : Nat) (method : XaMethod) (sent : List XaRecord) :
    statementsOf handle [.used handle method sent] =
      (verbs sent).map fun statement => (method, statement) := by
  simp [statementsOf]

theorem statementsOf_used_ne {used : Nat} (other : used ≠ handle) (method : XaMethod)
    (sent : List XaRecord) : statementsOf handle [.used used method sent] = [] := by
  simp [statementsOf, other]

/-- A handle is resumed by its own step only. -/
theorem SecondPhase.earlier {before : List (XaMethod × XaVerb × XaAnswer)}
    (other : ∀ engineId, output ≠ .resumed handle engineId)
    (second : SecondPhase handle (log ++ [output]) before) : SecondPhase handle log before := by
  refine second.imp_right ?_
  rintro ⟨engineId, member⟩
  refine ⟨engineId, (List.mem_append.mp member).resolve_right fun new => ?_⟩
  exact other engineId (List.mem_singleton.mp new).symm

theorem Secured.quiet (secured : Secured handle log held)
    (quiet : statementsOf handle [output] = [])
    (other : ∀ engineId, output ≠ .resumed handle engineId) :
    Secured handle (log ++ [output]) held where
  asked := by
    intro before method verb answer after split rolls second
    rw [statementsOf_append_of_quiet quiet] at split
    exact secured.asked before method verb answer after split rolls (second.earlier other)
  finished := by
    rw [statementsOf_append_of_quiet quiet]
    exact secured.finished
  early := by
    intro owned same unprepared second
    rw [statementsOf_append_of_quiet quiet] at second
    exact secured.early owned same unprepared (second.earlier other)

/-- Before anything was sent for a handle. -/
theorem secured_of_nil (nothing : statementsOf handle log = [])
    (early : ∀ owned, held = some owned → ¬ XaHandle.IsPrepared owned →
      ∀ engineId, .resumed handle engineId ∉ log) : Secured handle log held where
  asked := by
    intro before method verb answer after split
    rw [nothing] at split
    cases before <;> cases split
  finished := by
    rw [nothing]
    exact Nat.zero_le _
  early := by
    rintro owned same unprepared (⟨method, member⟩ | ⟨engineId, resumed⟩)
    · rw [nothing] at member
      cases member
    · exact early owned same unprepared engineId resumed

theorem secured_used {method : XaMethod} {owned : XaHandle} {next : Option XaHandle}
    {sent : List XaRecord} (secured : Secured handle log (some owned))
    (uses : Uses method owned next sent) :
    Secured handle (log ++ [.used handle method sent]) next := by
  have writes := writes_of_uses uses
  have grown : statementsOf handle (log ++ [.used handle method sent]) =
      statementsOf handle log ++ (verbs sent).map fun statement => (method, statement) := by
    rw [statementsOf_append, statementsOf_used]
  have other : ∀ engineId, Output.used handle method sent ≠ .resumed handle engineId := by
    rintro engineId ⟨⟩
  refine ⟨?_, ?_, ?_⟩
  · intro before method' verb answer after split rolls second
    have second := second.earlier other
    rw [grown] at split
    rcases append_cons_split split with ⟨later, old⟩ | ⟨earlier, rfl, new⟩
    · exact secured.asked before method' verb answer later old rolls second
    · -- It is one of the statements of this call.
      obtain ⟨front, back, sent', rfl, last⟩ := List.map_eq_append_iff.mp new
      obtain ⟨statement, rest, rfl, head, -⟩ := List.map_eq_cons_iff.mp last
      obtain ⟨rfl, rfl⟩ := Prod.mk.inj head
      refine (writes.asked (verb, answer) (by simp [sent']) rolls).resolve_right ?_
      intro unprepared
      refine secured.early owned rfl unprepared ?_
      refine second.imp_left ?_
      rintro ⟨earlier, member⟩
      refine ⟨earlier, (List.mem_append.mp member).resolve_right fun now => ?_⟩
      obtain ⟨statement, member, same⟩ := List.mem_map.mp now
      obtain ⟨rfl, rfl⟩ := Prod.mk.inj same
      have alone := (writes.prepared (by rw [sent']; exact List.mem_append_left _ member)).1
      have length := congrArg List.length (sent'.symm.trans alone)
      have some := List.length_pos_of_mem member
      simp only [List.length_append, List.length_cons, List.length_nil] at length
      omega
  · rw [grown, List.countP_append, List.countP_map]
    have before : (statementsOf handle log).countP (fun statement => finishedBy statement.2) ≤ 0 :=
      secured.finished
    have now : (verbs sent).countP finishedBy ≤ if next = none then 1 else 0 := writes.finished
    rw [Nat.le_zero.mp before, Nat.zero_add]
    exact now
  · rintro new rfl unprepared second
    have second := second.earlier other
    have early : ¬ XaHandle.IsPrepared owned := fun isPrepared => by
      cases writes.upwards isPrepared
    refine secured.early owned rfl early (second.imp_left ?_)
    rintro ⟨earlier, member⟩
    rw [grown] at member
    refine ⟨earlier, (List.mem_append.mp member).resolve_right fun now => ?_⟩
    obtain ⟨statement, member, same⟩ := List.mem_map.mp now
    obtain ⟨rfl, rfl⟩ := Prod.mk.inj same
    obtain ⟨-, ready, same⟩ := writes.prepared member
    cases same
    exact unprepared trivial

theorem securedRun_of_stepped (secured : SecuredRun log system)
    (stepped : Stepped system system' output) : SecuredRun (log ++ [output]) system' := by
  have sound := sound_of_stepped secured.sound stepped
  -- A step that uses no handle and makes none.
  have idle : system'.handles = system.handles → system'.next = system.next →
      (∀ handle, statementsOf handle [output] = []) →
      (∀ handle engineId, output ≠ .resumed handle engineId) →
      SecuredRun (log ++ [output]) system' := by
    intro handles same quiet other
    refine ⟨sound, fun handle unused => ?_, fun handle => ?_⟩
    · obtain ⟨none, nothing, never⟩ := secured.fresh handle (same ▸ unused)
      refine ⟨handles ▸ none, (statementsOf_append_of_quiet (quiet handle)).trans nothing, ?_⟩
      intro engineId member
      rcases List.mem_append.mp member with member | member
      · exact never engineId member
      · exact other handle engineId (List.mem_singleton.mp member).symm
    · rw [handles]
      exact (secured.secured handle).quiet (quiet handle) (other handle)
  cases stepped with
  | refused history => exact idle rfl rfl (fun _ => rfl) (by rintro _ _ ⟨⟩)
  | recovered history => exact idle rfl rfl (fun _ => rfl) (by rintro _ _ ⟨⟩)
  | started connId xid engineId history supported =>
      refine ⟨sound, fun handle unused => ?_, fun handle => ?_⟩
      · have old : system.next < handle := unused
        obtain ⟨none, nothing, never⟩ := secured.fresh handle old.le
        rw [lookup_own, if_neg old.ne', statementsOf_append_of_quiet rfl]
        refine ⟨none, nothing, fun engineId member => ?_⟩
        exact never engineId ((List.mem_append.mp member).resolve_right
          fun new => by cases List.mem_singleton.mp new)
      · rw [lookup_own]
        split_ifs with new
        · obtain ⟨-, nothing, never⟩ := secured.fresh handle (by rw [new])
          refine (secured_of_nil nothing fun _ _ _ => never).quiet rfl (by rintro _ ⟨⟩)
        · exact (secured.secured handle).quiet rfl (by rintro _ ⟨⟩)
  | resumed connId xid engineId =>
      refine ⟨sound, fun handle unused => ?_, fun handle => ?_⟩
      · have old : system.next < handle := unused
        obtain ⟨none, nothing, never⟩ := secured.fresh handle old.le
        rw [lookup_own, if_neg old.ne', statementsOf_append_of_quiet rfl]
        refine ⟨none, nothing, fun engineId member => ?_⟩
        rcases List.mem_append.mp member with member | member
        · exact never engineId member
        · cases List.mem_singleton.mp member
          exact Nat.lt_irrefl _ old
      · rw [lookup_own]
        split_ifs with new
        · obtain ⟨-, nothing, -⟩ := secured.fresh handle (by rw [new])
          refine secured_of_nil ((statementsOf_append_of_quiet rfl).trans nothing) ?_
          rintro owned ⟨⟩ unprepared
          exact absurd trivial unprepared
        · refine (secured.secured handle).quiet rfl ?_
          rintro engineId' ⟨⟩
          exact new rfl
  | used used method owned sent result held uses =>
      refine ⟨sound, fun handle unused => ?_, fun handle => ?_⟩
      · obtain ⟨none, nothing, never⟩ := secured.fresh handle unused
        have other : used ≠ handle := by
          rintro rfl
          cases none.symm.trans held
        rw [lookup_settle, if_neg other.symm,
          statementsOf_append_of_quiet (statementsOf_used_ne other method sent)]
        refine ⟨none, nothing, fun engineId member => ?_⟩
        exact never engineId ((List.mem_append.mp member).resolve_right
          fun new => by cases List.mem_singleton.mp new)
      · rw [lookup_settle]
        split_ifs with same
        · subst same
          have before := secured.secured handle
          rw [held] at before
          exact secured_used before uses
        · exact (secured.secured handle).quiet (statementsOf_used_ne (Ne.symm same) method sent)
            (by rintro _ ⟨⟩)

end

/-- Whatever the calls and the answers of the driver: behind a `PREPARE` that was done, and on
a handle that was resumed, a `ROLLBACK` is sent only by the `rollback` of a prepared handle;
and of the verbs that finish a branch at most one is done. -/
theorem prepared_branch_kept {driver : XaDriver} {events : List Event} {system : XaSystem}
    {log : List Output} (ran : run (XaSystem.step driver) events {} = some (system, log))
    (handle : Nat) :
    (∀ before method verb answer after,
      statementsOf handle log = before ++ (method, verb, answer) :: after → RollsBack verb →
        SecondPhase handle log before → method = .rollbackPrepared) ∧
    (statementsOf handle log).countP (fun statement => finishedBy statement.2) ≤ 1 := by
  have secured : SecuredRun log system := by
    refine run_invariant SecuredRun ?_ [] ⟨?_, ?_, ?_⟩ ran
    · intro log event system system' output secured stepped
      exact securedRun_of_stepped secured (stepped_of_step secured.sound stepped)
    · rintro handle owned ⟨⟩
    · exact fun _ _ => ⟨rfl, rfl, fun _ member => by cases member⟩
    · exact fun _ => secured_of_nil rfl fun _ _ _ _ member => by cases member
  obtain ⟨asked, finished, -⟩ := secured.secured handle
  refine ⟨asked, finished.trans ?_⟩
  split_ifs <;> omega

/-- The handle of a prepared branch is lost, and the branch resumed on another connection. -/
def lostAndResumed : List Event :=
  [.start 1 sampleXid, .use 0 .finish, .use 0 .prepare, .use 0 .dropPrepared, .recover 2,
    .resume 2 sampleXid, .use 1 .rollbackPrepared]

theorem prepared_branch_kept_sample :
    ∃ system log, run (XaSystem.step (obligingXa .mySql)) lostAndResumed {} = some (system, log) ∧
      statementsOf 0 log = [(.finish, .finish, .done), (.prepare, .prepare, .done)] ∧
      statementsOf 1 log = [(.rollbackPrepared, .rollbackPrepared, .done)] ∧
      (statementsOf 1 log).countP (fun statement => finishedBy statement.2) ≤ 1 := by
  have ran : ∃ system log,
      run (XaSystem.step (obligingXa .mySql)) lostAndResumed {} = some (system, log) ∧
        statementsOf 0 log = [(.finish, .finish, .done), (.prepare, .prepare, .done)] ∧
        statementsOf 1 log = [(.rollbackPrepared, .rollbackPrepared, .done)] :=
    ⟨_, _, rfl, rfl, rfl⟩
  obtain ⟨system, log, ran, first, second⟩ := ran
  exact ⟨system, log, ran, first, second, (prepared_branch_kept ran 1).2⟩

end OdbcFast.Verification
