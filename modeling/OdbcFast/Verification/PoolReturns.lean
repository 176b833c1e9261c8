import OdbcFast.Native.Engine.PoolHolders
import OdbcFast.Wire.Machine

/-!
# Work that was not committed

When a connection goes back to its pool, autocommit is switched on, and again by the pool. A
rollback in front of that is not looked at, and a chunk that could not commit has none: what
was open is then committed by the switch. The next holder finds nothing of it open in any case.
-/

namespace OdbcFast.Verification

open Wire OdbcFast.Native OdbcFast.Native.PoolHolders

variable {W : Type}

/-- The connection has gone back, with work that its holder did not commit. -/
def GoesBack : Event W → Output → Prop
  | .release, _ | .drop, _ => True
  | .chunk .perChunkTransactional _ _ _ _ _, some (.error _) => True
  | _, _ => False

/-- What is claimed of a step: a connection that goes back commits nothing, and the one that is
given out has no open transaction. -/
structure HandsOver (event : Event W) (before next : Pool.Entry W) (output : Output) : Prop where
  uncommitted : GoesBack event output → next.session.committed = before.session.committed
  received : ∀ tested, event = .get tested → next.place = .held → next.session.Clean

def HandsOverAt (driver : SessionDriver W) (event : Event W) (entry : Pool.Entry W) : Prop :=
  ∀ next output, step driver event entry = some (next, output) →
    HandsOver event entry next output

section

variable (driver : SessionDriver W)

/-- A connection may be dropped: nothing is open, or autocommit cannot be switched on. -/
def MayDrop (session : Session W) : Prop :=
  session.uncommitted = [] ∨ (driver.refusal session.history (.setAutocommit true)).isSome

/-- It may be released: the rollback leaves nothing open, or autocommit cannot be switched on,
neither by the call nor by the pool behind it. -/
def MayRelease (session : Session W) : Prop :=
  let rolled := session.after driver .rollback
  rolled.uncommitted = [] ∨
    (driver.refusal rolled.history (.setAutocommit true)).isSome ∧
      MayDrop driver (rolled.after driver (.setAutocommit true))

/-- A chunk in a transaction may fail: behind the batches that it got done it may release its
connection, or drop it when its commit is refused. -/
def MayFail (insert : Fallible (Session W) OdbcError Nat) (session : Session W) : Prop :=
  driver.refusal session.history (.setAutocommit false) = none →
    let (result, filled) := insert.perform (session.after driver (.setAutocommit false))
    match result with
    | .error _ => MayRelease driver filled
    | .ok _ => (driver.refusal filled.history .commit).isSome →
      MayDrop driver (filled.after driver .commit)

/-- The driver's answers keep what was not committed from being committed. -/
def HandedOn : Event W → Pool.Entry W → Prop
  | .release, entry => entry.place = .held → MayRelease driver entry.session
  | .drop, entry => entry.place = .held → MayDrop driver entry.session
  | .chunk .perChunkTransactional tested sql fill paramsetSize rows, entry =>
    entry.place = .idle → (Pool.get driver tested entry.session).place = .held →
      MayFail driver (ArrayBinding.insertRows driver sql fill paramsetSize rows)
        (Pool.get driver tested entry.session).session
  | _, _ => True

end

/-! ## Going back -/

section

variable {driver : SessionDriver W} {session : Session W}

theorem putBack_committed_iff :
    (Pool.putBack driver session).session.committed = session.committed ↔
      MayDrop driver session := by
  rw [Pool.putBack, Pool.checked_isValid_committed]
  exact Session.after_switch_committed_iff

/-- What is not open stays so when a call that does no work is refused. -/
theorem uncommitted_after_refused {call : SessionCall W} {error : OdbcError}
    (refused : driver.refusal session.history call = some error)
    (idle : ∀ done, call ≠ .statement done) (nothing : session.uncommitted = []) :
    (session.after driver call).uncommitted = [] := by
  rw [(Session.after_refused refused).2]
  cases call with
  | statement done => exact absurd rfl (idle done)
  | _ =>
      dsimp only [Session.refuse]
      split_ifs
      · rfl
      · exact nothing

theorem committed_after_refused {call : SessionCall W} {error : OdbcError}
    (refused : driver.refusal session.history call = some error)
    (idle : ∀ done, call ≠ .statement done) :
    (session.after driver call).committed = session.committed := by
  rw [(Session.after_refused refused).2]
  exact Session.refuse_committed idle

theorem release_committed_iff :
    (Pool.release driver session).session.committed = session.committed ↔
      MayRelease driver session := by
  have restored : ((Pool.restore driver).perform session).2 =
      (session.after driver .rollback).after driver (.setAutocommit true) := rfl
  have same := @Session.after_rollback_committed W driver session
  rw [Pool.release, restored, MayRelease, Pool.putBack, Pool.checked_isValid_committed, ← same]
  generalize session.after driver .rollback = rolled
  rcases switch : driver.refusal rolled.history (.setAutocommit true) with _ | error
  · -- What was open is committed here; the pool's own switch finds nothing.
    have clean := Session.clean_after_switch switch
    rw [Session.after_switch_committed_iff.mpr (.inl clean.2.2), Session.after_switch_committed_iff,
      switch]
    simp
  · rw [← committed_after_refused switch (by rintro done ⟨⟩), Session.after_switch_committed_iff]
    constructor
    · exact fun kept => .inr ⟨rfl, kept⟩
    · rintro (nothing | ⟨-, kept⟩)
      · exact .inl (uncommitted_after_refused switch (by rintro done ⟨⟩) nothing)
      · exact kept

/-- A chunk that fails in its transaction. -/
theorem runChunk_committed_iff {insert : Fallible (Session W) OdbcError Nat}
    (stays : Fallible.Keeps ArrayBinding.StaysOpen insert) (clean : session.Clean) :
    ((∀ count, (runChunk driver .perChunkTransactional insert session).1 ≠ .ok count) →
        (runChunk driver .perChunkTransactional insert session).2.session.committed =
          session.committed) ↔ MayFail driver insert session := by
  rw [runChunk, insertChunk, MayFail]
  rcases manual : driver.refusal session.history (.setAutocommit false) with _ | error
  · obtain ⟨ran, opened⟩ := Session.after_accepted manual
    rw [Fallible.perform_bind_ok ran, Fallible.perform_of]
    have kept := stays (session.after driver (.setAutocommit false)) (by rw [opened]; rfl)
    have same : (session.after driver (.setAutocommit false)).committed = session.committed := by
      rw [opened]
      rfl
    generalize insert.perform (session.after driver (.setAutocommit false)) = outcome at kept ⊢
    obtain ⟨result, filled⟩ := outcome
    have same' : filled.committed = session.committed := kept.2.trans same
    rw [← same']
    refine Iff.trans ?_ (imp_iff_right rfl).symm
    cases result with
    | error error =>
        refine Iff.trans ⟨fun holds => holds fun count => by rintro ⟨⟩, fun holds _ => holds⟩ ?_
        exact release_committed_iff
    | ok count =>
        rcases commits : driver.refusal filled.history .commit with _ | error
        · dsimp only
          rw [Fallible.perform_bind_ok (Session.after_accepted commits).1]
          refine iff_of_true (fun failed => absurd rfl (failed count)) fun refused => ?_
          rw [commits] at refused
          cases refused
        · dsimp only
          rw [Fallible.perform_bind_error (Session.after_refused commits).1,
            ← committed_after_refused commits (by rintro done ⟨⟩)]
          refine Iff.trans ⟨fun holds => holds fun count => by rintro ⟨⟩, fun holds _ => holds⟩ ?_
          rw [putBack_committed_iff]
          exact ⟨fun drop _ => drop, fun drop => drop (by rw [commits]; rfl)⟩
  · rw [Fallible.perform_bind_error (Session.after_refused manual).1]
    refine iff_of_true (fun _ => ?_) (by rintro ⟨⟩)
    rw [← committed_after_refused manual (by rintro done ⟨⟩)]
    exact putBack_committed_iff.mpr
      (.inl (uncommitted_after_refused manual (by rintro done ⟨⟩) clean.2.2))

/-! ## Each step -/

variable {event : Event W} {entry next : Pool.Entry W} {output : Output}

/-- What is claimed of one outcome, when an event has no other. -/
theorem handsOverAt_iff (stepped : step driver event entry = some (next, output)) :
    HandsOverAt driver event entry ↔ HandsOver event entry next output := by
  refine ⟨fun hands => hands next output stepped, fun hands next' output' stepped' => ?_⟩
  cases stepped.symm.trans stepped'
  exact hands

/-- A step that gives no connection out. -/
theorem handsOver_iff_of_ne (other : ∀ tested, event ≠ .get tested) :
    HandsOver event entry next output ↔
      (GoesBack event output → next.session.committed = entry.session.committed) :=
  ⟨HandsOver.uncommitted, fun kept => ⟨kept, fun _ same => absurd same (other _)⟩⟩

/-- A connection that is given out without more has nothing committed on it. -/
theorem get_committed {tested : Bool} (clean : session.Clean) :
    (Pool.get driver tested session).session.committed = session.committed := by
  rw [Pool.get]
  cases tested with
  | false => rfl
  | true =>
      rw [if_pos rfl, Pool.checked_isValid_committed]
      exact Session.after_switch_committed_iff.mpr (.inl clean.2.2)

theorem handsOverAt_iff_settles (ready : entry.Ready) :
    HandsOverAt driver event entry ↔ HandedOn driver event entry := by
  rcases stepped : step driver event entry with _ | ⟨next, output⟩
  · refine iff_of_true (fun next output stepped' => ?_) ?_
    · cases stepped.symm.trans stepped'
    · cases event with
      | release | drop =>
          intro held
          rw [step, if_pos held] at stepped
          cases stepped
      | chunk mode tested sql fill paramsetSize rows =>
          cases mode with
          | independent => trivial
          | perChunkTransactional =>
              intro idle
              rw [step, if_pos idle] at stepped
              cases stepped
      | _ => trivial
  rw [handsOverAt_iff stepped]
  cases event with
  | connect | call _ =>
      refine iff_of_true ⟨by rintro ⟨⟩, by rintro _ ⟨⟩⟩ trivial
  | get tested =>
      rw [step] at stepped
      split_ifs at stepped with idle
      cases stepped
      refine iff_of_true ⟨by rintro ⟨⟩, ?_⟩ trivial
      rintro _ ⟨⟩ held
      exact Pool.clean_get (ready idle) held
  | release =>
      rw [step] at stepped
      split_ifs at stepped with held
      cases stepped
      rw [handsOver_iff_of_ne (by rintro _ ⟨⟩)]
      refine Iff.trans (imp_iff_right trivial) (release_committed_iff.trans ?_)
      exact (imp_iff_right held).symm
  | drop =>
      rw [step] at stepped
      split_ifs at stepped with held
      cases stepped
      rw [handsOver_iff_of_ne (by rintro _ ⟨⟩)]
      refine Iff.trans (imp_iff_right trivial) (putBack_committed_iff.trans ?_)
      exact (imp_iff_right held).symm
  | chunk mode tested sql fill paramsetSize rows =>
      rw [step] at stepped
      split_ifs at stepped with idle
      rw [handsOver_iff_of_ne (by rintro _ ⟨⟩)]
      cases mode with
      | independent => exact iff_of_true (by rintro ⟨⟩) trivial
      | perChunkTransactional =>
          rw [chunk] at stepped
          have clean := fun held => @Pool.clean_get W driver entry.session tested (ready idle) held
          rw [← @get_committed W driver entry.session tested (ready idle)]
          rw [HandedOn]
          refine Iff.trans ?_ (imp_iff_right idle).symm
          generalize Pool.get driver tested entry.session = got at stepped clean ⊢
          rcases place : got.place with _ | _ | _
          · rw [place] at stepped
            cases stepped
            exact iff_of_true (by rintro ⟨⟩) (by rintro ⟨⟩)
          · rw [place] at stepped
            refine Iff.trans ?_ (imp_iff_right rfl).symm
            rw [← runChunk_committed_iff
              (ArrayBinding.staysOpen_insertRows sql fill paramsetSize rows) (clean place)]
            dsimp only at stepped
            generalize runChunk driver .perChunkTransactional _ got.session = outcome at stepped ⊢
            obtain ⟨result, back⟩ := outcome
            cases stepped
            cases result with
            | error error =>
                exact ⟨fun kept _ => kept trivial, fun kept _ => kept (by rintro count ⟨⟩)⟩
            | ok count => exact iff_of_true (by rintro ⟨⟩) fun failed => absurd rfl (failed count)
          · rw [place] at stepped
            cases stepped
            exact iff_of_true (by rintro ⟨⟩) (by rintro ⟨⟩)

theorem get_not_idle (tested : Bool) : (Pool.get driver tested session).place ≠ .idle := by
  rw [Pool.get]
  split_ifs
  · rw [Pool.checked]
    rcases (Pool.isValid driver).perform session with ⟨error | _, after⟩
    · rintro ⟨⟩
    · rintro ⟨⟩
  · rintro ⟨⟩

theorem ready_of_step
    (stepped : step driver event entry = some (next, output)) : next.Ready := by
  cases event with
  | connect =>
      rw [step] at stepped
      split_ifs at stepped
      cases stepped
      exact Pool.ready_connect driver _
  | get tested =>
      rw [step] at stepped
      split_ifs at stepped
      cases stepped
      exact fun idle => absurd idle (get_not_idle tested)
  | call call =>
      rw [step] at stepped
      split_ifs at stepped with held
      cases stepped
      intro idle
      cases held.symm.trans idle
  | release =>
      rw [step] at stepped
      split_ifs at stepped
      cases stepped
      exact Pool.ready_putBack driver _
  | drop =>
      rw [step] at stepped
      split_ifs at stepped
      cases stepped
      exact Pool.ready_putBack driver _
  | chunk mode tested sql fill paramsetSize rows =>
      rw [step] at stepped
      split_ifs at stepped
      have given := @get_not_idle W driver entry.session tested
      generalize Pool.get driver tested entry.session = got at stepped given
      rw [chunk] at stepped
      rcases place : got.place with _ | _ | _
      · exact absurd place given
      · rw [place] at stepped
        cases stepped
        exact Pool.ready_putBack driver _
      · rw [place] at stepped
        cases stepped
        intro idle
        cases place.symm.trans idle

end

/-- Whoever has the connection and whatever the driver refuses: in a run, nothing that a holder
did not commit is committed when the connection goes back, and every holder finds nothing open,
exactly when the driver settles each return. -/
theorem hands_over_iff (driver : SessionDriver W) (events : List (Event W)) :
    Along (step driver) (HandsOverAt driver) events {} ↔
      Along (step driver) (HandedOn driver) events {} :=
  along_congr Pool.Entry.Ready (fun _ stepped => ready_of_step stepped)
    (fun _ ready => handsOverAt_iff_settles ready) (by rintro ⟨⟩)

/-- A driver that cannot roll back. -/
def cannotRollBack : SessionDriver Nat where
  refusal
    | _, .rollback => some (.odbcApi "connection lost")
    | _, _ => none
  partly _ _ := false
  loses _ _ := false

/-- Half a unit of work is committed when its holder releases the connection. -/
theorem half_a_unit_committed :
    ¬ ∀ (driver : SessionDriver Nat) (events : List (Event Nat)),
      Along (step driver) (HandsOverAt driver) events {} := by
  intro claimed
  have along := claimed cannotRollBack [.connect, .get true, .call (.setAutocommit false),
    .call (.statement [1]), .release]
  have hands := ((((along.2 _ _ rfl).2 _ _ rfl).2 _ _ rfl).2 _ _ rfl).1 _ _ rfl
  have kept := hands.uncommitted trivial
  cases (kept : [1] = [])

end OdbcFast.Verification
