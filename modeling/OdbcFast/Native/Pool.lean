import OdbcFast.Native.Error
import OdbcFast.Wire.Fallible

/-!
# Connections of a pool

Whoever has a connection of a pool may do what he likes with it and gives it back. What he has
done is committed at once, by a call of his, or not at all; switching autocommit on commits
what is open. The pool looks at a connection when it comes back, and keeps it or closes it.

Which calls the driver refuses may depend on everything that was called before. A refused
statement may have done a part of its work, and the server may have rolled the open
transaction back when it refuses a call.
-/

namespace OdbcFast.Native

open Wire

/-- A call on a connection; of a statement it matters what work it does. -/
inductive SessionCall (W : Type) where
  | setAutocommit (enabled : Bool)
  | commit
  | rollback
  | prepare (sql : String)
  /-- The buffers of an array insert are bound. -/
  | bind (capacity : Nat)
  | statement (work : List W)
  /-- A statement that begins a transaction by its text. -/
  | begin
  deriving DecidableEq, Repr

structure SessionRecord (W : Type) where
  call : SessionCall W
  refusal : Option OdbcError
  deriving DecidableEq, Repr

structure SessionDriver (W : Type) where
  refusal : List (SessionRecord W) → SessionCall W → Option OdbcError
  /-- Whether a refused statement has done this part of its work. -/
  partly : List (SessionRecord W) → W → Bool
  /-- Whether the server rolls back what is open when it refuses a call. -/
  loses : List (SessionRecord W) → SessionCall W → Bool

structure Session (W : Type) where
  autocommit : Bool := true
  /-- A statement has begun a transaction. -/
  begun : Bool := false
  /-- The work of the open transaction. -/
  uncommitted : List W := []
  committed : List W := []
  /-- Oldest first. -/
  history : List (SessionRecord W) := []

namespace Session

variable {W : Type}

/-- No transaction is open, and none is opened by the next statement. -/
def Clean (session : Session W) : Prop :=
  session.autocommit = true ∧ session.begun = false ∧ session.uncommitted = []

def work (done : List W) (session : Session W) : Session W :=
  if session.autocommit ∧ ¬ session.begun then
    { session with committed := session.committed ++ done }
  else { session with uncommitted := session.uncommitted ++ done }

def commitOpen (session : Session W) : Session W :=
  { session with
    begun := false
    uncommitted := []
    committed := session.committed ++ session.uncommitted }

def rollbackOpen (session : Session W) : Session W :=
  { session with begun := false, uncommitted := [] }

/-- What an accepted call does. -/
def accept : SessionCall W → Session W → Session W
  | .setAutocommit true, session => { session.commitOpen with autocommit := true }
  | .setAutocommit false, session => { session with autocommit := false }
  | .commit, session => session.commitOpen
  | .rollback, session => session.rollbackOpen
  | .statement done, session => session.work done
  | .begin, session => { session with begun := true }
  | .prepare _, session | .bind _, session => session

/-- What a refused call does. -/
def refuse (driver : SessionDriver W) (call : SessionCall W) (session : Session W) : Session W :=
  let after := match call with
    | .statement done => session.work (done.filter (driver.partly session.history))
    | _ => session
  if driver.loses session.history call then after.rollbackOpen else after

def call (driver : SessionDriver W) (call : SessionCall W) :
    Fallible (Session W) OdbcError Unit :=
  .of fun session =>
    let refusal := driver.refusal session.history call
    let history := session.history ++ [⟨call, refusal⟩]
    match refusal with
    | none => (.ok (), { session.accept call with history })
    | some error => (.error error, { session.refuse driver call with history })

/-- The connection behind a call. -/
def after (driver : SessionDriver W) (call : SessionCall W) (session : Session W) : Session W :=
  ((Session.call driver call).perform session).2

variable {driver : SessionDriver W} {session : Session W} {call : SessionCall W}

theorem after_accepted (accepted : driver.refusal session.history call = none) :
    (Session.call driver call).perform session = (.ok (), session.after driver call) ∧
      session.after driver call =
        { session.accept call with history := session.history ++ [⟨call, none⟩] } := by
  simp [after, Session.call, accepted]

theorem after_refused {error : OdbcError}
    (refused : driver.refusal session.history call = some error) :
    (Session.call driver call).perform session = (.error error, session.after driver call) ∧
      session.after driver call =
        { session.refuse driver call with history := session.history ++ [⟨call, some error⟩] } := by
  simp [after, Session.call, refused]

@[simp] theorem rollbackOpen_committed (session : Session W) :
    session.rollbackOpen.committed = session.committed := rfl

/-- A call that does no work, when it is refused. -/
theorem refuse_committed (idle : ∀ done, call ≠ .statement done) :
    (session.refuse driver call).committed = session.committed := by
  cases call with
  | statement done => exact absurd rfl (idle done)
  | _ =>
      dsimp only [refuse]
      split_ifs <;> rfl

theorem work_nil (session : Session W) : session.work [] = session := by
  rw [work]
  split_ifs
  · rw [List.append_nil]
  · rw [List.append_nil]

theorem after_rollback_committed : (session.after driver .rollback).committed = session.committed := by
  rcases answer : driver.refusal session.history .rollback with _ | error
  · rw [(after_accepted answer).2]
    rfl
  · rw [(after_refused answer).2]
    exact refuse_committed (by rintro done ⟨⟩)

/-- Nothing more is committed by a switch to autocommit exactly when nothing is open, or it is
refused. -/
theorem after_switch_committed_iff :
    (session.after driver (.setAutocommit true)).committed = session.committed ↔
      session.uncommitted = [] ∨ (driver.refusal session.history (.setAutocommit true)).isSome := by
  rcases answer : driver.refusal session.history (.setAutocommit true) with _ | error
  · rw [(after_accepted answer).2]
    simp [accept, commitOpen]
  · rw [(after_refused answer).2]
    exact iff_of_true (refuse_committed (by rintro done ⟨⟩)) (.inr rfl)

theorem clean_after_switch
    (accepted : driver.refusal session.history (.setAutocommit true) = none) :
    (session.after driver (.setAutocommit true)).Clean := by
  rw [(after_accepted accepted).2]
  exact ⟨rfl, rfl, rfl⟩

end Session

/-! ## The pool -/

namespace Pool

variable {W : Type} (driver : SessionDriver W)

/-- `is_valid`, with the health query. -/
def isValid : Fallible (Session W) OdbcError Unit := do
  Session.call driver (.setAutocommit true)
  Session.call driver (.statement [])

/-- `on_acquire`, for a new connection. -/
def onAcquire : Fallible (Session W) OdbcError Unit := do
  Fallible.ignore (Session.call driver .rollback)
  Session.call driver (.setAutocommit true)

/-- Where a connection of the pool is. -/
inductive Place where
  | idle
  | held
  | closed
  deriving DecidableEq, Repr

structure Entry (W : Type) where
  session : Session W := {}
  place : Place := .closed

/-- A connection that the pool has closed; what was open on it is rolled back. -/
def close (session : Session W) : Entry W := ⟨session.rollbackOpen, .closed⟩

/-- A connection after a check of the pool: one that fails it is closed. -/
def checked (check : Fallible (Session W) OdbcError Unit) (place : Place) (session : Session W) :
    Entry W :=
  match check.perform session with
  | (.ok (), session) => ⟨session, place⟩
  | (.error _, session) => close session

/-- A new connection; the driver has seen the calls on those before it. -/
def connect (history : List (SessionRecord W)) : Entry W :=
  checked (onAcquire driver) .idle { history }

/-- An idle connection is given out, after a test if the pool is so configured. -/
def get (testOnCheckOut : Bool) (session : Session W) : Entry W :=
  if testOnCheckOut then checked (isValid driver) .held session else ⟨session, .held⟩

/-- A connection comes back: `has_broken`. -/
def putBack (session : Session W) : Entry W := checked (isValid driver) .idle session

/-- What `odbc_pool_release_connection`, and `odbc_pool_close` for each of its connections, do
before the connection comes back. -/
def restore : Fallible (Session W) OdbcError Unit := do
  Fallible.ignore (Session.call driver .rollback)
  Fallible.ignore (Session.call driver (.setAutocommit true))

def release (session : Session W) : Entry W :=
  putBack driver ((restore driver).perform session).2

/-! ## What a check does -/

variable {driver} {session : Session W} {place : Place}

/-- Nobody has it, or it is as the next holder expects it. -/
def Entry.Ready (entry : Entry W) : Prop := entry.place = .idle → entry.session.Clean

theorem isValid_spec (driver : SessionDriver W) (session : Session W) :
    ((isValid driver).perform session).2.committed =
        (session.after driver (.setAutocommit true)).committed ∧
      ∀ next, (isValid driver).perform session = (.ok (), next) → next.Clean := by
  rcases switch : driver.refusal session.history (.setAutocommit true) with _ | error
  · have clean := Session.clean_after_switch switch
    rw [isValid, Fallible.perform_bind_ok (Session.after_accepted switch).1]
    generalize session.after driver (.setAutocommit true) = switched at clean ⊢
    rcases query : driver.refusal switched.history (.statement []) with _ | error
    · obtain ⟨ran, same⟩ := Session.after_accepted query
      rw [ran, same]
      simp only [Session.accept, Session.work_nil]
      refine ⟨trivial, fun next done => ?_⟩
      cases done
      exact clean
    · obtain ⟨ran, same⟩ := Session.after_refused query
      rw [ran, same]
      refine ⟨?_, by rintro next ⟨⟩⟩
      dsimp only [Session.refuse]
      rw [List.filter_nil, Session.work_nil]
      split_ifs <;> rfl
  · rw [isValid, Fallible.perform_bind_error (Session.after_refused switch).1]
    exact ⟨rfl, by rintro next ⟨⟩⟩

theorem checked_isValid_committed (driver : SessionDriver W) (place : Place)
    (session : Session W) :
    (checked (isValid driver) place session).session.committed =
      (session.after driver (.setAutocommit true)).committed := by
  rw [← (isValid_spec driver session).1, checked]
  rcases (isValid driver).perform session with ⟨error | _, next⟩
  · rfl
  · rfl

/-- A connection that has passed the check is as the next holder expects it. -/
theorem clean_checked_isValid (there : (checked (isValid driver) place session).place ≠ .closed) :
    (checked (isValid driver) place session).session.Clean := by
  rw [checked] at there ⊢
  rcases ran : (isValid driver).perform session with ⟨error | _, next⟩
  · rw [ran] at there
    exact absurd rfl there
  · exact (isValid_spec driver session).2 next ran

theorem ready_putBack (driver : SessionDriver W) (session : Session W) :
    (putBack driver session).Ready := fun idle =>
  clean_checked_isValid (by rw [show (checked (isValid driver) .idle session).place = _ from idle]
                            rintro ⟨⟩)

theorem ready_connect (driver : SessionDriver W) (history : List (SessionRecord W)) :
    (connect driver history).Ready := by
  intro idle
  rw [connect, checked, onAcquire] at idle ⊢
  have rolled : (Fallible.ignore (Session.call driver .rollback)).perform
      ({ history } : Session W) = (.ok (), Session.after driver .rollback { history }) := rfl
  rw [Fallible.perform_bind_ok rolled] at idle ⊢
  generalize Session.after driver .rollback { history } = middle at idle ⊢
  rcases switch : driver.refusal middle.history (.setAutocommit true) with _ | error
  · rw [(Session.after_accepted switch).1]
    exact Session.clean_after_switch switch
  · rw [(Session.after_refused switch).1] at idle
    cases idle

theorem clean_get {tested : Bool} (clean : session.Clean)
    (held : (get driver tested session).place = .held) :
    (get driver tested session).session.Clean := by
  rw [get] at held ⊢
  cases tested with
  | false => exact clean
  | true => exact clean_checked_isValid (by rw [if_pos rfl] at held; rw [held]; rintro ⟨⟩)

end Pool

end OdbcFast.Native
