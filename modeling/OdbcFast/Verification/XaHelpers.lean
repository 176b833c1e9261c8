import OdbcFast.Verification.XaHelperCalls

/-!
# Branches run by the Dart helpers

A helper reports success only for a branch that was committed. Whether a branch that failed
is gone and rolled back depends on where the action left it and on the answers of the driver:
the handle's `rollback` reaches a branch only in the map of active ones, so a branch that was
ended is left behind.
-/

namespace OdbcFast.Verification

open Wire OdbcFast.Native OdbcFast.Native.Engine OdbcFast.Native.XaMaps OdbcFast.Dart
open OdbcFast.Dart.XaWorld

/-- Success is reported for a branch that was committed, failure for one that is undone as
long as rollbacks succeed. -/
structure ReportsBranch {ε α : Type} (outcome : Except ε α × XaWorld) : Prop where
  success : ∀ value, outcome.1 = .ok value → Committed outcome.2.sent
  failure : ∀ error, outcome.1 = .error error → RollbacksSucceed outcome.2.sent →
    Undone outcome.2

/-! ## When it holds -/

section

variable (driver : XaDriver) (xa : XaTransaction) (history : List XaRecord)

/-- An active branch is completed, or loses on the way what there was of it. -/
def CompletesActive (onePhase : Bool) : Prop :=
  let ended := driver.behindVerb xa.connId xa.engineId xa.xid .finish history
  (driver.Accepts xa.connId xa.engineId xa.xid .finish history →
      if onePhase then driver.Accepts xa.connId xa.engineId xa.xid (.commit true) ended
      else driver.Accepts xa.connId xa.engineId xa.xid .prepare ended ∨
        driver.Loses xa.connId xa.engineId xa.xid ended) ∧
    (¬ driver.Accepts xa.connId xa.engineId xa.xid .finish history →
      FoundBehindEnd driver xa history)

/-- An active branch is rolled back when `END` is refused, or when the handle takes it for ended
already; never when `END` is accepted. -/
def AbortsActive (state : Dart.XaState) : Prop :=
  FoundBehindEnd driver xa history ∧
    (state = .active ∧ ¬ driver.Accepts xa.connId xa.engineId xa.xid .finish history ∨
      state = .idle ∨ state = .failed)

/-- A branch that was prepared is not at stake; one that is in no map was rolled back; one that
is active meets the condition. -/
def Helped (active : XaTransaction → Prop) (world : XaWorld) : Prop :=
  WasPrepared world ∨
    (world.maps.slot world.handle.xaId = none ∧ WasRolledBack world.sent) ∨
    ∃ xa, world.maps.slot world.handle.xaId = some (.active xa) ∧ active xa

end

/-- The action left the branch where a completion helps it. -/
def CompletionHelps (driver : XaDriver) (onePhase : Bool) (world : XaWorld) : Prop :=
  Helped (fun xa => CompletesActive driver xa world.maps.history onePhase) world

/-- The action left the branch where an abort helps it. -/
def AbortHelps (driver : XaDriver) (world : XaWorld) : Prop :=
  Helped (fun xa => AbortsActive driver xa world.maps.history world.handle.state) world

/-! ## Completions -/

section

variable {driver : XaDriver} {world : XaWorld} {xa : XaTransaction}

/-- Where a completion leaves the branch, and what it tells. -/
inductive Completion (completes : Prop) : Bool → XaWorld → Prop
  | committed {world : XaWorld} (holds : completes) (committed : Committed world.sent) :
      Completion completes true world
  | prepared {world : XaWorld} (holds : completes) (bound : Bound world)
      (prepared : WasPrepared world) : Completion completes false world
  | gone {world : XaWorld} (failed : world.handle.state = .failed) (gone : Gone world completes) :
      Completion completes false world
  | kept {world : XaWorld} {idle : PreparingXa} (fails : ¬ completes) (sound : world.maps.Sound)
      (failed : world.handle.state = .failed) (unprepared : ¬ WasPrepared world)
      (held : world.maps.slot world.handle.xaId = some (.preparing idle)) :
      Completion completes false world

/-- The second phase of a branch that was prepared. -/
theorem completion_commitPrepared {completes : Prop} (bound : Bound world)
    (prepared : WasPrepared world) (holds : completes) :
    Completion completes (world.commitPrepared driver).1 (world.commitPrepared driver).2 := by
  rcases success : (world.commitPrepared driver).1
  · exact .prepared holds (bound_call bound .committed) (prepared.call .committed)
  · exact .committed holds (committed_of_commitPrepared bound success)

variable {active : XaTransaction → Prop}

theorem helped_inactive (unprepared : ¬ WasPrepared world)
    (inactive : ∀ xa, world.maps.slot world.handle.xaId ≠ some (.active xa)) :
    Helped active world ↔
      world.maps.slot world.handle.xaId = none ∧ WasRolledBack world.sent := by
  rw [Helped, or_iff_right unprepared]
  exact or_iff_left fun ⟨xa, held, _⟩ => inactive xa held

theorem helped_active (unprepared : ¬ WasPrepared world)
    (held : world.maps.slot world.handle.xaId = some (.active xa)) :
    Helped active world ↔ active xa := by
  rw [Helped, or_iff_right unprepared]
  constructor
  · rintro (⟨vacant, -⟩ | ⟨xa', held', condition⟩)
    · cases held.symm.trans vacant
    · cases held.symm.trans held'
      exact condition
  · exact fun condition => .inr ⟨xa, held, condition⟩

theorem Gone.congr {rolled rolled' : Prop} (gone : Gone world rolled) (same : rolled ↔ rolled') :
    Gone world rolled' :=
  ⟨gone.sound, gone.vacant, gone.unprepared, fun succeed => (gone.rolledBack succeed).trans same⟩

/-- A branch that is not active is beyond the reach of what would end it. -/
theorem completion_missed (bound : Bound world)
    (inactive : ∀ xa, world.maps.slot world.handle.xaId ≠ some (.active xa)) :
    Completion (Helped active world) false (restated world .failed) := by
  by_cases prepared : WasPrepared world
  · have bound' : Bound (restated world .failed) :=
      ⟨bound.sound, bound.active, bound.preparing, bound.prepared⟩
    exact .prepared (.inl prepared) bound' prepared
  · have vacant : Helped active world ↔ _ := helped_inactive prepared inactive
    rcases held : world.maps.slot world.handle.xaId with _ | ⟨xa | idle | ready⟩
    · refine .gone rfl ⟨bound.sound, held, prepared, fun _ => ?_⟩
      rw [vacant, and_iff_right held]
      exact Iff.rfl
    · exact absurd held (inactive xa)
    · refine .kept (fun holds => ?_) bound.sound rfl prepared held
      cases held.symm.trans (vacant.mp holds).1
    · exact absurd (bound.prepared ready held) prepared

theorem completion_commitOnePhase (bound : Bound world) :
    Completion (CompletionHelps driver true world) (world.commitOnePhase driver).1
      (world.commitOnePhase driver).2 := by
  by_cases active : ∃ xa, world.maps.slot world.handle.xaId = some (.active xa)
  · obtain ⟨xa, held⟩ := active
    have condition : CompletionHelps driver true world ↔ _ :=
      helped_active (bound.early_active held).unprepared held
    by_cases accepted : driver.Accepts xa.connId xa.engineId xa.xid .finish world.maps.history
    · obtain ⟨commits, refuses⟩ := commitOnePhase_accepted bound held accepted
      have same : CompletionHelps driver true world ↔ driver.Accepts xa.connId xa.engineId xa.xid
          (.commit true) (driver.behindVerb xa.connId xa.engineId xa.xid .finish
            world.maps.history) := by
        rw [condition, CompletesActive]
        simp [accepted]
      by_cases commit : driver.Accepts xa.connId xa.engineId xa.xid (.commit true)
          (driver.behindVerb xa.connId xa.engineId xa.xid .finish world.maps.history)
      · obtain ⟨success, committed⟩ := commits commit
        rw [success]
        exact .committed (same.mpr commit) committed
      · obtain ⟨maps, asked, ran, gone⟩ := refuses commit
        rw [ran]
        exact .gone rfl (gone.congr (iff_of_false id fun holds => commit (same.mp holds)))
    · obtain ⟨maps, asked, ran, gone⟩ := commitOnePhase_refused bound held accepted
      rw [ran]
      refine .gone rfl (gone.congr ?_)
      rw [condition, CompletesActive]
      simp [accepted]
  · have inactive := not_exists.mp active
    rw [XaWorld.commitOnePhase, misses_active bound.sound inactive (.inr (.inl rfl))]
    exact completion_missed bound inactive

theorem completion_onePhase {E : Type} (bound : Bound world) :
    Completion (CompletionHelps driver true world) (world.onePhase (E := E) driver).1.isNone
      (world.onePhase (E := E) driver).2 := by
  have completion := @completion_commitOnePhase driver world bound
  rw [onePhase]
  generalize world.commitOnePhase driver = outcome at completion ⊢
  obtain ⟨_ | _, after⟩ := outcome
  · exact completion
  · exact completion

theorem completion_twoPhases {E : Type} (bound : Bound world) :
    Completion (CompletionHelps driver false world) (world.twoPhases (E := E) driver).1.isNone
      (world.twoPhases (E := E) driver).2 := by
  rw [twoPhases]
  by_cases active : ∃ xa, world.maps.slot world.handle.xaId = some (.active xa)
  · obtain ⟨xa, held⟩ := active
    have condition : CompletionHelps driver false world ↔ _ :=
      helped_active (bound.early_active held).unprepared held
    by_cases accepted : driver.Accepts xa.connId xa.engineId xa.xid .finish world.maps.history
    · obtain ⟨maps, asked, ended, bound', held', history⟩ := finish_accepted bound held accepted
      have same : CompletionHelps driver false world ↔
          driver.Accepts xa.connId xa.engineId xa.xid .prepare maps.history ∨
            driver.Loses xa.connId xa.engineId xa.xid maps.history := by
        rw [condition, CompletesActive, history]
        simp [accepted]
      obtain ⟨prepares, refuses⟩ := @prepare_idle driver _ { xa with state := .idle } bound' held'
      rw [ended]
      by_cases prepare : driver.Accepts xa.connId xa.engineId xa.xid .prepare maps.history
      · obtain ⟨after, ready, bound'', prepared⟩ := prepares prepare
        have completion := @completion_commitPrepared driver _ _ bound'' prepared
          (same.mpr (.inl prepare))
        simp only [ready, not_true_eq_false, if_false]
        generalize after.commitPrepared driver = outcome at completion ⊢
        obtain ⟨_ | _, final⟩ := outcome
        · exact completion
        · exact completion
      · obtain ⟨maps', asked', failed, gone⟩ := refuses prepare
        simp only [failed, not_true_eq_false, if_false]
        exact .gone rfl (gone.congr (same.trans (or_iff_right prepare)).symm)
    · obtain ⟨maps, asked, failed, gone⟩ := finish_refused bound held accepted
      rw [failed]
      refine .gone rfl (gone.congr ?_)
      rw [condition, CompletesActive]
      simp [accepted]
  · have inactive := not_exists.mp active
    rw [XaWorld.finish, misses_active bound.sound inactive (.inl rfl)]
    exact completion_missed bound inactive

end

/-! ## Aborts -/

/-- What an abort does behind what may have been an `END`. -/
inductive Aborting (driver : XaDriver) (world : XaWorld) : XaWorld → Prop
  | rolls (state : world.handle.state = .idle ∨ world.handle.state = .failed) :
      Aborting driver world (world.rollback driver).2
  | second (state : world.handle.state = .prepared) :
      Aborting driver world (world.rollbackPrepared driver).2
  | nothing (state : world.handle.state ≠ .idle ∧ world.handle.state ≠ .failed) :
      Aborting driver world world

def behindEnd (driver : XaDriver) (world : XaWorld) : XaWorld :=
  if world.handle.state = .active then (world.finish driver).2 else world

section

variable {driver : XaDriver} {world final : XaWorld} {xa : XaTransaction}

theorem aborting_safely (driver : XaDriver) (world : XaWorld) :
    Aborting driver (behindEnd driver world) (world.xaSafelyAbort driver) := by
  rw [xaSafelyAbort]
  change Aborting driver (behindEnd driver world)
    (if (behindEnd driver world).handle.state = .prepared then
      ((behindEnd driver world).rollbackPrepared driver).2
    else if (behindEnd driver world).handle.state = .idle ∨
        (behindEnd driver world).handle.state = .failed then
      ((behindEnd driver world).rollback driver).2
    else behindEnd driver world)
  split_ifs with prepared ended
  · exact .second prepared
  · exact .rolls ended
  · exact .nothing (not_or.mp ended)

theorem aborting_onePhase (driver : XaDriver) (world : XaWorld) :
    Aborting driver (behindEnd driver world) (world.abortOnePhase driver) := by
  rw [abortOnePhase]
  change Aborting driver (behindEnd driver world)
    (if (behindEnd driver world).handle.state = .idle ∨
        (behindEnd driver world).handle.state = .failed then
      ((behindEnd driver world).rollback driver).2
    else behindEnd driver world)
  split_ifs with ended
  · exact .rolls ended
  · exact .nothing (not_or.mp ended)

/-- An abort that finds the branch in none of the maps it looks into. -/
theorem abort_missed (sound : world.maps.Sound)
    (inactive : ∀ xa, world.maps.slot world.handle.xaId ≠ some (.active xa))
    (unready : ∀ ready, world.maps.slot world.handle.xaId ≠ some (.prepared ready))
    (aborting : Aborting driver (behindEnd driver world) final) :
    ∃ state, final = restated world state := by
  have ended : ∃ state, behindEnd driver world = restated world state := by
    rw [behindEnd]
    split_ifs
    · exact ⟨.failed, congrArg Prod.snd (misses_active sound inactive (.inl rfl) .idle)⟩
    · exact ⟨_, rfl⟩
  obtain ⟨state, ended⟩ := ended
  rw [ended] at aborting
  cases aborting with
  | rolls _ =>
      exact ⟨.failed, congrArg Prod.snd (@misses_active driver (restated world state) _ sound
        inactive (.inr (.inr rfl)) .rolledBack)⟩
  | second _ =>
      exact ⟨.failed, congrArg Prod.snd (@misses_prepared driver (restated world state) _ sound
        unready (.inr rfl) .rolledBack)⟩
  | nothing _ => exact ⟨state, rfl⟩

/-- What is prepared stays prepared under an abort. -/
theorem WasPrepared.aborted (prepared : WasPrepared world)
    (aborting : Aborting driver (behindEnd driver world) final) : WasPrepared final := by
  have ended : WasPrepared (behindEnd driver world) := by
    rw [behindEnd]
    split_ifs
    · exact prepared.call .idle
    · exact prepared
  cases aborting with
  | rolls _ => exact ended.call .rolledBack
  | second _ => exact ended.call .rolledBack
  | nothing _ => exact ended

/-- A branch in one of the maps that was not prepared is not undone. -/
theorem not_undone {owned : XaHandle} (unprepared : ¬ WasPrepared world)
    (held : world.maps.slot world.handle.xaId = some owned) : ¬ Undone world := by
  intro undone
  refine (undone unprepared).2 (hasSlot_iff.mpr ?_)
  rw [held]
  rfl

/-- An abort of a branch that is active. -/
theorem undone_active_iff (bound : Bound world)
    (held : world.maps.slot world.handle.xaId = some (.active xa))
    (aborting : Aborting driver (behindEnd driver world) final)
    (succeed : RollbacksSucceed final.sent) :
    Undone final ↔ AbortsActive driver xa world.maps.history world.handle.state := by
  have unprepared := (bound.early_active held).unprepared
  by_cases active : world.handle.state = .active
  · rw [behindEnd, if_pos active] at aborting
    by_cases accepted : driver.Accepts xa.connId xa.engineId xa.xid .finish world.maps.history
    · -- The branch has moved on, and `rollback` looks for it among the active ones.
      obtain ⟨maps, asked, ended, bound', held', -⟩ := finish_accepted bound held accepted
      have inactive : ∀ xa, maps.slot world.handle.xaId ≠ some (.active xa) :=
        fun xa wrong => by cases held'.symm.trans wrong
      rw [ended] at aborting
      refine iff_of_false ?_ fun ⟨_, condition⟩ => ?_
      · cases aborting with
        | rolls _ =>
            have missed := @misses_active driver (moved world .idle maps asked) _ bound'.sound
              inactive (.inr (.inr rfl)) .rolledBack
            rw [XaWorld.rollback, missed]
            exact not_undone (bound'.early_preparing held').unprepared held'
        | second state => cases state
        | nothing state => exact absurd rfl state.1
      · rw [active] at condition
        rcases condition with ⟨-, refused⟩ | wrong | wrong
        · exact refused accepted
        · cases wrong
        · cases wrong
    · obtain ⟨maps, asked, ended, gone⟩ := finish_refused bound held accepted
      have inactive : ∀ xa, maps.slot world.handle.xaId ≠ some (.active xa) :=
        fun xa wrong => by cases gone.vacant.symm.trans wrong
      rw [ended] at aborting
      have condition : AbortsActive driver xa world.maps.history world.handle.state ↔
          FoundBehindEnd driver xa world.maps.history := by
        rw [AbortsActive]
        simp [active, accepted]
      cases aborting with
      | rolls _ =>
          have missed := @misses_active driver (moved world .failed maps asked) _ gone.sound
            inactive (.inr (.inr rfl)) .rolledBack
          rw [XaWorld.rollback, missed] at succeed ⊢
          exact (gone.undone_iff succeed).trans condition.symm
      | second state => cases state
      | nothing state => exact absurd rfl state.2
  · rw [behindEnd, if_neg active] at aborting
    cases aborting with
    | rolls state =>
        obtain ⟨state', maps, asked, rolled, gone⟩ := @rollback_active driver _ _ bound held
        rw [rolled] at succeed ⊢
        refine (gone.undone_iff succeed).trans ⟨fun found => ⟨found, .inr state⟩, And.left⟩
    | second state =>
        have unready : ∀ ready, world.maps.slot world.handle.xaId ≠ some (.prepared ready) :=
          fun ready wrong => by cases held.symm.trans wrong
        have missed := @misses_prepared driver world _ bound.sound unready (.inr rfl) .rolledBack
        rw [XaWorld.rollbackPrepared, missed]
        refine iff_of_false (not_undone unprepared held) fun ⟨_, condition⟩ => ?_
        rw [state] at condition
        rcases condition with ⟨wrong, -⟩ | wrong | wrong
        · cases wrong
        · cases wrong
        · cases wrong
    | nothing state =>
        refine iff_of_false (not_undone unprepared held) fun ⟨_, condition⟩ => ?_
        rcases condition with ⟨wrong, -⟩ | wrong | wrong
        · exact active wrong
        · exact state.1 wrong
        · exact state.2 wrong

theorem undone_aborted_iff (bound : Bound world)
    (aborting : Aborting driver (behindEnd driver world) final)
    (succeed : RollbacksSucceed final.sent) : Undone final ↔ AbortHelps driver world := by
  by_cases prepared : WasPrepared world
  · exact iff_of_true (fun unprepared => absurd (prepared.aborted aborting) unprepared)
      (.inl prepared)
  by_cases active : ∃ xa, world.maps.slot world.handle.xaId = some (.active xa)
  · obtain ⟨xa, held⟩ := active
    have condition : AbortHelps driver world ↔ _ := helped_active prepared held
    exact (undone_active_iff bound held aborting succeed).trans condition.symm
  · have inactive := not_exists.mp active
    have unready : ∀ ready, world.maps.slot world.handle.xaId ≠ some (.prepared ready) :=
      fun ready held => prepared (bound.prepared ready held)
    obtain ⟨state, rfl⟩ := abort_missed bound.sound inactive unready aborting
    have condition : AbortHelps driver world ↔ _ := helped_inactive prepared inactive
    rw [condition]
    constructor
    · intro undone
      obtain ⟨rolledBack, vacant⟩ := undone prepared
      refine ⟨?_, rolledBack⟩
      rw [hasSlot_iff, Bool.not_eq_true, Option.isSome_eq_false_iff, Option.isNone_iff_eq_none]
        at vacant
      exact vacant
    · rintro ⟨vacant, rolledBack⟩ -
      refine ⟨rolledBack, fun slot => ?_⟩
      have held : (world.maps.slot world.handle.xaId).isSome := hasSlot_iff.mp slot
      rw [vacant] at held
      cases held

/-- Behind a completion that failed, with an abort or without. -/
theorem undone_completion_iff {completes : Prop} {after : XaWorld}
    (completion : Completion completes false after)
    (aborting : final = after ∨ Aborting driver (behindEnd driver after) final)
    (succeed : RollbacksSucceed final.sent) : Undone final ↔ completes := by
  cases completion with
  | prepared holds bound prepared =>
      refine iff_of_true (fun unprepared => absurd ?_ unprepared) holds
      rcases aborting with rfl | aborting
      · exact prepared
      · exact prepared.aborted aborting
  | gone failed gone =>
      have inactive : ∀ xa, after.maps.slot after.handle.xaId ≠ some (.active xa) :=
        fun xa wrong => by cases gone.vacant.symm.trans wrong
      have unready : ∀ ready, after.maps.slot after.handle.xaId ≠ some (.prepared ready) :=
        fun ready wrong => by cases gone.vacant.symm.trans wrong
      rcases aborting with rfl | aborting
      · exact gone.undone_iff succeed
      · obtain ⟨state, rfl⟩ := abort_missed gone.sound inactive unready aborting
        exact gone.undone_iff succeed
  | kept fails sound failed unprepared held =>
      have inactive : ∀ xa, after.maps.slot after.handle.xaId ≠ some (.active xa) :=
        fun xa wrong => by cases held.symm.trans wrong
      have unready : ∀ ready, after.maps.slot after.handle.xaId ≠ some (.prepared ready) :=
        fun ready wrong => by cases held.symm.trans wrong
      rcases aborting with rfl | aborting
      · exact iff_of_false (not_undone unprepared held) fails
      · obtain ⟨state, rfl⟩ := abort_missed sound inactive unready aborting
        exact iff_of_false (not_undone unprepared held) fails

/-! ## The helpers -/

/-- What a helper reports behind a completion. -/
theorem reports_completion_iff (driver : XaDriver) {ε α : Type} {completes : Prop}
    {success : Bool} {after : XaWorld} {outcome : Except ε α × XaWorld}
    (completion : Completion completes success after)
    (said : outcome.1.isOk = success) (kept : success = true → outcome.2 = after)
    (aborting : success = false →
      outcome.2 = after ∨ Aborting driver (behindEnd driver after) outcome.2) :
    ReportsBranch outcome ↔ (RollbacksSucceed outcome.2.sent → completes) := by
  obtain ⟨result, final⟩ := outcome
  cases result with
  | ok value =>
      obtain rfl : true = success := said
      obtain rfl : final = after := kept rfl
      cases completion with
      | committed holds committed =>
          exact iff_of_true ⟨fun _ _ => committed, by rintro error ⟨⟩⟩ fun _ => holds
  | error error =>
      obtain rfl : false = success := said
      constructor
      · intro reports succeed
        exact (undone_completion_iff completion (aborting rfl) succeed).mp
          (reports.failure error rfl succeed)
      · exact fun condition => ⟨by rintro value ⟨⟩, fun _ _ succeed =>
          (undone_completion_iff completion (aborting rfl) succeed).mpr (condition succeed)⟩

/-- What a helper reports behind an abort. -/
theorem reports_aborted_iff {ε α : Type} {error : ε} (bound : Bound world)
    (aborting : Aborting driver (behindEnd driver world) final) :
    ReportsBranch ((.error error, final) : Except ε α × XaWorld) ↔
      (RollbacksSucceed final.sent → AbortHelps driver world) := by
  constructor
  · intro reports succeed
    exact (undone_aborted_iff bound aborting succeed).mp (reports.failure error rfl succeed)
  · exact fun condition => ⟨by rintro value ⟨⟩, fun _ _ succeed =>
      (undone_aborted_iff bound aborting succeed).mpr (condition succeed)⟩

/-- What the end of an action calls for. -/
def HelpsBehind (driver : XaDriver) (onePhase succeeded : Bool) (world : XaWorld) : Prop :=
  if succeeded then CompletionHelps driver onePhase world else AbortHelps driver world

def returns {T : Type} : ActionOutcome T → Bool
  | .returned _ => true
  | .threw _ => false

def succeeds {E T : Type} : ActionOutcome (Except E T) → Bool
  | .returned (.ok _) => true
  | _ => false

theorem runWithStart_iff {T : Type} (action : XaAction T) (bound : Bound world) :
    ReportsBranch (runWithStart driver action world) ↔
      (RollbacksSucceed (runWithStart driver action world).2.sent →
        HelpsBehind driver false (returns (action.run (reply driver) world).1)
          (action.run (reply driver) world).2) := by
  have bound' : Bound (action.run (reply driver) world).2 := bound_run bound action
  rw [runWithStart]
  generalize action.run (reply driver) world = outcome at bound' ⊢
  obtain ⟨result | error, after⟩ := outcome
  · have completion := @completion_twoPhases driver after Empty bound'
    simp only
    generalize after.twoPhases driver = completed at completion ⊢
    obtain ⟨_ | failure, final⟩ := completed
    · exact reports_completion_iff driver completion rfl (fun _ => rfl) (by rintro ⟨⟩)
    · exact reports_completion_iff driver completion rfl (by rintro ⟨⟩)
        fun _ => .inr (aborting_safely driver final)
  · exact reports_aborted_iff bound' (aborting_safely driver after)

theorem runWithStartOnePhase_iff {T : Type} (action : XaAction T) (bound : Bound world) :
    ReportsBranch (runWithStartOnePhase driver action world) ↔
      (RollbacksSucceed (runWithStartOnePhase driver action world).2.sent →
        HelpsBehind driver true (returns (action.run (reply driver) world).1)
          (action.run (reply driver) world).2) := by
  have bound' : Bound (action.run (reply driver) world).2 := bound_run bound action
  rw [runWithStartOnePhase]
  generalize action.run (reply driver) world = outcome at bound' ⊢
  obtain ⟨result | error, after⟩ := outcome
  · have completion := @completion_onePhase driver after Empty bound'
    simp only
    generalize after.onePhase driver = completed at completion ⊢
    obtain ⟨_ | failure, final⟩ := completed
    · exact reports_completion_iff driver completion rfl (fun _ => rfl) (by rintro ⟨⟩)
    · exact reports_completion_iff driver completion rfl (by rintro ⟨⟩)
        fun _ => .inr (aborting_onePhase driver final)
  · exact reports_aborted_iff bound' (aborting_onePhase driver after)

theorem runInXaTransaction_iff {E T : Type} (onePhase : Bool) (action : XaAction (Except E T))
    (bound : Bound world) :
    ReportsBranch (runInXaTransaction driver onePhase action world) ↔
      (RollbacksSucceed (runInXaTransaction driver onePhase action world).2.sent →
        HelpsBehind driver onePhase (succeeds (action.run (reply driver) world).1)
          (action.run (reply driver) world).2) := by
  have bound' : Bound (action.run (reply driver) world).2 := bound_run bound action
  rw [runInXaTransaction]
  generalize action.run (reply driver) world = outcome at bound' ⊢
  obtain ⟨(error | result) | error, after⟩ := outcome
  · exact reports_aborted_iff bound' (aborting_safely driver after)
  · have completion : Completion (CompletionHelps driver onePhase after)
        (if onePhase then after.onePhase (E := E) driver else after.twoPhases driver).1.isNone
        (if onePhase then after.onePhase (E := E) driver else after.twoPhases driver).2 := by
      cases onePhase with
      | true => exact completion_onePhase bound'
      | false => exact completion_twoPhases bound'
    simp only
    generalize (if onePhase then after.onePhase (E := E) driver else after.twoPhases driver) =
      completed at completion ⊢
    obtain ⟨_ | failure, final⟩ := completed
    · exact reports_completion_iff driver completion rfl (fun _ => rfl) (by rintro ⟨⟩)
    · exact reports_completion_iff driver completion rfl (by rintro ⟨⟩) fun _ => .inl rfl
  · exact reports_aborted_iff bound' (aborting_safely driver after)

theorem bound_xaStart {connId : Nat} {xid : Xid} {maps maps' : XaMaps} (sound : maps.Sound)
    (started : xaStart driver connId xid maps = (some world, maps')) : Bound world := by
  have opens := opens_start driver connId xid.formatId (some xid.gtrid) (some xid.bqual) sound
  rw [xaStart] at started
  generalize maps.odbcXaStart driver connId xid.formatId (some xid.gtrid) (some xid.bqual) =
    outcome at opens started
  obtain ⟨reply, next⟩ := outcome
  cases opens with
  | refused _ _ => cases started
  | @opened xaId handle _ made vacant sound' slots =>
      cases started
      exact bound_opened sound' (by rw [slots, if_pos rfl]) false made

end

/-- From any state of the native maps, for any action and any answers of the driver: what the
helpers report is right exactly when the action has left the branch, and the driver answers, so
that what is called for helps; a rollback of an active branch that accepts `END` does not. -/
theorem helpers_report_iff {driver : XaDriver} {events : List Event} {maps maps' : XaMaps}
    {log : List Output} {connId : Nat} {xid : Xid} {world : XaWorld}
    (ran : run (XaMaps.step driver) events {} = some (maps, log))
    (started : xaStart driver connId xid maps = (some world, maps')) :
    (∀ (T : Type) (action : XaAction T),
      let outcome := action.run (reply driver) world
      (ReportsBranch (runWithStart driver action world) ↔
        (RollbacksSucceed (runWithStart driver action world).2.sent →
          HelpsBehind driver false (returns outcome.1) outcome.2)) ∧
      (ReportsBranch (runWithStartOnePhase driver action world) ↔
        (RollbacksSucceed (runWithStartOnePhase driver action world).2.sent →
          HelpsBehind driver true (returns outcome.1) outcome.2))) ∧
    ∀ (E T : Type) (onePhase : Bool) (action : XaAction (Except E T)),
      let outcome := action.run (reply driver) world
      ReportsBranch (runInXaTransaction driver onePhase action world) ↔
        (RollbacksSucceed (runInXaTransaction driver onePhase action world).2.sent →
          HelpsBehind driver onePhase (succeeds outcome.1) outcome.2) := by
  have sound : maps.Sound := run_invariant (fun _ maps => maps.Sound)
    (fun sound stepped => sound_of_step sound stepped) [] sound_noBranches ran
  have bound := bound_xaStart sound started
  exact ⟨fun T action => ⟨runWithStart_iff action bound, runWithStartOnePhase_iff action bound⟩,
    fun E T onePhase action => runInXaTransaction_iff onePhase action bound⟩

/-- On MySQL an action that returns at once is committed in two phases. -/
theorem helpers_report_iff_mysql :
    ∃ maps log world maps',
      run (XaMaps.step (obligingXa .mySql)) [.connected 1] {} = some (maps, log) ∧
        xaStart (obligingXa .mySql) 1 sampleXid maps = (some world, maps') ∧
        ReportsBranch (runWithStart (obligingXa .mySql) (.done (.returned ())) world) := by
  have accepts : ∀ verb history, verb = .finish ∨ verb = .prepare →
      (obligingXa .mySql).Accepts 1 .mySql sampleXid verb history := by
    rintro verb history (rfl | rfl)
    · exact ⟨rfl, .inr ⟨_, rfl, rfl⟩⟩
    · exact ⟨rfl, .inr ⟨_, rfl, rfl⟩⟩
  obtain ⟨maps, log, world, maps', ran, started, held⟩ : ∃ maps log world maps',
      run (XaMaps.step (obligingXa .mySql)) [.connected 1] {} = some (maps, log) ∧
        xaStart (obligingXa .mySql) 1 sampleXid maps = (some world, maps') ∧
          world.maps.slot world.handle.xaId =
            some (.active ⟨1, sampleXid, .mySql, .active⟩) := ⟨_, _, _, _, rfl, rfl, rfl⟩
  have completes : CompletionHelps (obligingXa .mySql) false world := by
    refine .inr (.inr ⟨_, held, fun _ => .inl (accepts _ _ (.inr rfl)), fun refused => ?_⟩)
    exact absurd (accepts _ _ (.inl rfl)) refused
  refine ⟨maps, log, world, maps', ran, started, ?_⟩
  exact ((helpers_report_iff ran started).1 Unit (.done (.returned ()))).1.mpr fun _ => completes

/-- An action that throws at once: `END` is accepted, and the rollback behind it does not find
the branch, which is left to the server. -/
theorem ended_branch_left_behind :
    ¬ ∀ (driver : XaDriver) (events : List Event) (maps maps' : XaMaps) (log : List Output)
      (connId : Nat) (xid : Xid) (world : XaWorld),
      run (XaMaps.step driver) events {} = some (maps, log) →
      xaStart driver connId xid maps = (some world, maps') →
        ∀ (T : Type) (action : XaAction T), ReportsBranch (runWithStart driver action world) := by
  intro claimed
  have started : ∃ maps log world maps',
      run (XaMaps.step (obligingXa .mySql)) [.connected 1] {} = some (maps, log) ∧
        xaStart (obligingXa .mySql) 1 sampleXid maps = (some world, maps') ∧
          (runWithStart (obligingXa .mySql) (.done (.threw "") : XaAction Unit) world).1 =
            .error (.threw "") ∧
          verbs (runWithStart (obligingXa .mySql) (.done (.threw "") : XaAction Unit) world).2.sent =
            [(.finish, .done)] ∧
          (runWithStart (obligingXa .mySql) (.done (.threw "") : XaAction Unit) world).2.resumed =
            false :=
    ⟨_, _, _, _, rfl, rfl, rfl, rfl, rfl⟩
  obtain ⟨maps, log, world, maps', ran, started, failed, sent, fresh⟩ := started
  have reports := claimed _ _ _ _ _ _ _ _ ran started Unit (.done (.threw ""))
  have undone := reports.failure _ failed (by rw [RollbacksSucceed, sent]; simp)
  have unprepared : ¬ WasPrepared (runWithStart (obligingXa .mySql)
      (.done (.threw "") : XaAction Unit) world).2 := by
    rw [WasPrepared, sent, fresh]
    simp
  obtain ⟨rolledBack | ⟨error, lost⟩, -⟩ := undone unprepared
  · rw [sent] at rolledBack
    simp at rolledBack
  · rw [sent] at lost
    simp at lost

end OdbcFast.Verification
