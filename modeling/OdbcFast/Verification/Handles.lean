import OdbcFast.Native.Handles
import OdbcFast.Wire.Machine

/-!
# The numbers of connections

In a run of any length a new connection gets a number that nobody uses, and what is done under
one number is not seen under another: also when the counter has begun again, and when somebody
still works with a connection whose number has been given to a new one.
-/

namespace OdbcFast.Verification

open Wire OdbcFast.Native

namespace HandleCalls

variable {C T : Type}

inductive Event (C T : Type) where
  | initEnvironment (created : Except OdbcError Unit)
  | createConnection (connect : HandleManager.Connect C) (connStr : String)
  | createConnectionWithTimeout (connect : HandleManager.Connect C) (connStr : String)
      (timeoutSecs : Nat)
  | getConnection (connId : Nat)
  /-- A reference that was got under this number is used. -/
  | useReference (connId ref : Nat) (use : C → Except (Fault OdbcError) T × C)
  | withConnection (connId : Nat) (use : C → Except (Fault OdbcError) T × C)
  | removeConnection (connId : Nat)
  | hasEnvironment

inductive Output (T : Type) where
  | created (answer : Except OdbcError Nat)
  | got (answer : Except OdbcError Nat)
  | used (answer : Except (Fault OdbcError) T)
  | done (answer : Except OdbcError Unit)
  | environment (there : Bool)

/-- The manager, with the references that were got under each number. -/
structure Handles (C : Type) where
  manager : HandleManager C := {}
  held : List (Nat × Nat) := []

def step : Event C T → Handles C → Option (Handles C × Output T)
  | .initEnvironment created, handles =>
    let (answer, manager) := handles.manager.initEnvironment created
    some ({ handles with manager }, .done answer)
  | .createConnection connect connStr, handles =>
    let (answer, manager) := handles.manager.createConnection connect connStr
    some ({ handles with manager }, .created answer)
  | .createConnectionWithTimeout connect connStr timeoutSecs, handles =>
    let (answer, manager) := handles.manager.createConnectionWithTimeout connect connStr timeoutSecs
    some ({ handles with manager }, .created answer)
  | .getConnection connId, handles =>
    let answer := handles.manager.getConnection connId
    let held := match answer with
      | .ok ref => (connId, ref) :: handles.held
      | .error _ => handles.held
    some ({ handles with held }, .got answer)
  | .useReference connId ref use, handles =>
    if (connId, ref) ∈ handles.held then
      let (answer, manager) := handles.manager.lockShared ref use
      some ({ handles with manager }, .used answer)
    else none
  | .withConnection connId use, handles =>
    let (answer, manager) := handles.manager.withConnection connId use
    some ({ handles with manager }, .used answer)
  | .removeConnection connId, handles =>
    let (answer, manager) := handles.manager.removeConnection connId
    some ({ handles with manager }, .done answer)
  | .hasEnvironment, handles => some (handles, .environment handles.manager.env)

/-- The number that a call is about; a creation that fails is about none. -/
def About : Event C T → Output T → Nat → Prop
  | _, .created answer, connId => answer = .ok connId
  | .getConnection id, _, connId => connId = id
  | .useReference id _ _, _, connId => connId = id
  | .withConnection id _, _, connId => connId = id
  | .removeConnection id, _, connId => connId = id
  | _, _, _ => False

/-- What is claimed of a call. -/
structure KeepsApart (event : Event C T) (before next : Handles C) (output : Output T) : Prop where
  fresh : ∀ connId, output = .created (.ok connId) →
    connId ≠ 0 ∧ before.manager.connections.lookup connId = none
  others : ∀ connId, ¬ About event output connId →
    next.manager.entry connId = before.manager.entry connId

/-! ## References -/

/-- Somebody can reach the connection under this number. -/
def Handles.Refers (handles : Handles C) (connId ref : Nat) : Prop :=
  handles.manager.connections.lookup connId = some ref ∨ (connId, ref) ∈ handles.held

/-- Each connection is reached under one number only. -/
structure Apart (handles : Handles C) : Prop where
  made : ∀ connId ref, handles.Refers connId ref → ref < handles.manager.shared.length
  one : ∀ connId connId' ref, handles.Refers connId ref → handles.Refers connId' ref →
    connId = connId'

theorem apart_new : Apart ({} : Handles C) where
  made := by
    rintro connId ref (found | member)
    · cases found
    · cases member
  one := by
    rintro connId connId' ref (found | member)
    · cases found
    · cases member

variable {handles next : Handles C} {event : Event C T} {output : Output T}

/-- Nothing is reached that was not reached before. -/
theorem Apart.mono (apart : Apart handles)
    (fewer : ∀ connId ref, next.Refers connId ref → handles.Refers connId ref)
    (grown : handles.manager.shared.length ≤ next.manager.shared.length) : Apart next where
  made connId ref refers := (apart.made connId ref (fewer connId ref refers)).trans_le grown
  one connId connId' ref refers refers' :=
    apart.one connId connId' ref (fewer connId ref refers) (fewer connId' ref refers')

/-- A new connection is reached under its number. -/
theorem Apart.create (apart : Apart handles) {connId : Nat} {shared : SharedConnection C}
    (listed : next.manager.connections =
      handles.manager.connections.insert connId handles.manager.shared.length)
    (made : next.manager.shared = handles.manager.shared ++ [shared])
    (held : next.held = handles.held) : Apart next := by
  have reached : ∀ id ref, next.Refers id ref →
      id = connId ∧ ref = handles.manager.shared.length ∨ handles.Refers id ref := by
    rintro id ref (found | member)
    · rw [listed, HashMap.lookup_insert_eq_some] at found
      rcases found with here | ⟨-, found⟩
      · exact .inl here
      · exact .inr (.inl found)
    · exact .inr (.inr (held ▸ member))
  refine ⟨fun id ref refers => ?_, fun id id' ref refers refers' => ?_⟩
  · rw [made, List.length_append, List.length_singleton]
    rcases reached id ref refers with ⟨-, rfl⟩ | refers
    · exact Nat.lt_succ_self _
    · exact (apart.made id ref refers).trans (Nat.lt_succ_self _)
  · rcases reached id ref refers with ⟨rfl, rfl⟩ | old
    · rcases reached id' _ refers' with ⟨rfl, -⟩ | old
      · rfl
      · exact absurd (apart.made id' _ old) (Nat.lt_irrefl _)
    · rcases reached id' ref refers' with ⟨rfl, rfl⟩ | old'
      · exact absurd (apart.made id _ old) (Nat.lt_irrefl _)
      · exact apart.one id id' ref old old'

/-! ## Entries -/

/-- An entry is as it was when its number leads to the same connection, unchanged. -/
theorem entry_eq {connId : Nat}
    (same : next.manager.connections.lookup connId = handles.manager.connections.lookup connId)
    (kept : ∀ ref, handles.manager.connections.lookup connId = some ref →
      next.manager.shared[ref]? = handles.manager.shared[ref]?) :
    next.manager.entry connId = handles.manager.entry connId := by
  rw [HandleManager.entry, HandleManager.entry, same]
  rcases found : handles.manager.connections.lookup connId with _ | ref
  · rfl
  · rw [Option.map_some, Option.map_some, kept ref found]

/-- A creation. -/
theorem keepsApart_create {connect : HandleManager.Connect C} {connStr : String}
    {timeout : Option Nat} {answer : Except OdbcError Nat} {manager : HandleManager C}
    (apart : Apart handles)
    (created : handles.manager.createConnectionWithOptions connect connStr timeout =
      (answer, manager)) :
    Apart { handles with manager } ∧
      (∀ connId, answer = .ok connId →
        connId ≠ 0 ∧ handles.manager.connections.lookup connId = none) ∧
      ∀ connId, answer ≠ .ok connId → manager.entry connId = handles.manager.entry connId := by
  rcases HandleManager.createConnectionWithOptions_cases created with
    ⟨error, rfl, connections, shared⟩ | ⟨id, connection, rfl, positive, free, connections, shared⟩
  · refine ⟨apart.mono (fun connId ref refers => ?_) (Nat.le_of_eq (congrArg List.length shared).symm),
      by rintro connId ⟨⟩, fun connId _ => ?_⟩
    · rcases refers with found | member
      · exact .inl (connections ▸ found)
      · exact .inr member
    · exact @entry_eq C handles { handles with manager } connId (by rw [connections])
        fun ref _ => by rw [shared]
  · refine ⟨apart.create connections shared rfl, by rintro connId ⟨⟩; exact ⟨positive, free⟩,
      fun connId other => ?_⟩
    refine @entry_eq C handles { handles with manager } connId ?_ fun ref found => ?_
    · rw [connections]
      exact AList.lookup_insert_ne fun same => other (by rw [same])
    · rw [shared]
      exact List.getElem?_append_left (apart.made connId ref (.inl found))

/-- A use of a connection through one of its references. -/
theorem keepsApart_lock {connId ref : Nat} (apart : Apart handles)
    (refers : handles.Refers connId ref) (use : C → Except (Fault OdbcError) T × C) :
    Apart { handles with manager := (handles.manager.lockShared ref use).2 } ∧
      ∀ other ≠ connId,
        (handles.manager.lockShared ref use).2.entry other = handles.manager.entry other := by
  obtain ⟨connections, length, kept⟩ :=
    @HandleManager.lockShared_changes C T handles.manager ref use
  refine ⟨apart.mono (fun id ref' reached => ?_) (Nat.le_of_eq length.symm),
    fun other different => ?_⟩
  · rcases reached with found | member
    · exact .inl (connections ▸ found)
    · exact .inr member
  · refine @entry_eq C handles
      { handles with manager := (handles.manager.lockShared ref use).2 } other
      (by rw [connections]) fun ref' found => ?_
    refine kept ref' ?_
    rintro rfl
    exact different (apart.one other connId ref' (.inl found) refers)

/-- A call that makes no connection, about one number. -/
theorem keepsApart_of_others {connId : Nat} (quiet : ∀ answer, output ≠ .created answer)
    (about : About event output connId)
    (others : ∀ other ≠ connId, next.manager.entry other = handles.manager.entry other) :
    KeepsApart event handles next output where
  fresh _ made := absurd made (quiet _)
  others other different := others other fun same => different (same ▸ about)

theorem keepsApart_step (apart : Apart handles)
    (stepped : step event handles = some (next, output)) :
    Apart next ∧ KeepsApart event handles next output := by
  cases event with
  | initEnvironment created =>
      rcases created with error | _
      · cases stepped
        exact ⟨apart, ⟨by rintro _ ⟨⟩, fun _ _ => rfl⟩⟩
      · cases stepped
        exact ⟨apart.mono (fun _ _ refers => refers) (Nat.le_refl _),
          ⟨by rintro _ ⟨⟩, fun _ _ => rfl⟩⟩
  | createConnection connect connStr =>
      rcases created : handles.manager.createConnection connect connStr with ⟨answer, manager⟩
      rw [step, created] at stepped
      cases stepped
      obtain ⟨kept, fresh, others⟩ := keepsApart_create apart created
      exact ⟨kept, ⟨by rintro connId ⟨⟩; exact fresh connId rfl, others⟩⟩
  | createConnectionWithTimeout connect connStr timeoutSecs =>
      rcases created : handles.manager.createConnectionWithTimeout connect connStr timeoutSecs with
        ⟨answer, manager⟩
      rw [step, created] at stepped
      cases stepped
      obtain ⟨kept, fresh, others⟩ := keepsApart_create apart created
      exact ⟨kept, ⟨by rintro connId ⟨⟩; exact fresh connId rfl, others⟩⟩
  | getConnection connId =>
      rcases got : handles.manager.getConnection connId with error | ref
      · rw [step, got] at stepped
        cases stepped
        exact ⟨apart, keepsApart_of_others (by rintro _ ⟨⟩) rfl fun _ _ => rfl⟩
      · rw [step, got] at stepped
        cases stepped
        refine ⟨apart.mono (fun id ref' refers => ?_) (Nat.le_refl _),
          keepsApart_of_others (by rintro _ ⟨⟩) rfl fun _ _ => rfl⟩
        rcases refers with found | member
        · exact .inl found
        · rcases List.mem_cons.mp member with same | member
          · cases same
            exact .inl (HandleManager.getConnection_eq_ok_iff.mp got)
          · exact .inr member
  | useReference connId ref use =>
      rw [step] at stepped
      split_ifs at stepped with member
      cases stepped
      obtain ⟨kept, others⟩ := keepsApart_lock apart (.inr member) use
      exact ⟨kept, keepsApart_of_others (by rintro _ ⟨⟩) rfl others⟩
  | withConnection connId use =>
      rw [step, HandleManager.withConnection] at stepped
      rcases got : handles.manager.getConnection connId with error | ref
      · rw [got] at stepped
        cases stepped
        exact ⟨apart, keepsApart_of_others (by rintro _ ⟨⟩) rfl fun _ _ => rfl⟩
      · rw [got] at stepped
        cases stepped
        obtain ⟨kept, others⟩ := keepsApart_lock apart
          (.inl (HandleManager.getConnection_eq_ok_iff.mp got)) use
        exact ⟨kept, keepsApart_of_others (by rintro _ ⟨⟩) rfl others⟩
  | removeConnection connId =>
      obtain ⟨shared, kept, gone⟩ :=
        @HandleManager.removeConnection_changes C handles.manager connId
      cases stepped
      refine ⟨apart.mono (fun id ref refers => ?_) (Nat.le_of_eq (congrArg List.length shared).symm),
        keepsApart_of_others (by rintro _ ⟨⟩) rfl fun other different => ?_⟩
      · rcases refers with found | member
        · by_cases same : id = connId
          · rw [same] at found
            cases gone.symm.trans found
          · exact .inl ((kept id same).symm.trans found)
        · exact .inr member
      · exact entry_eq (kept other different) fun ref _ =>
          congrArg (fun all : List (SharedConnection C) => all[ref]?) shared
  | hasEnvironment =>
      cases stepped
      exact ⟨apart, ⟨by rintro _ ⟨⟩, fun _ _ => rfl⟩⟩

end HandleCalls

open HandleCalls

/-- In every run a new connection gets a number that is not zero and not in use, and what is
behind every other number stays as it is, whatever is done. -/
theorem handles_apart {C T : Type} (events : List (Event C T)) :
    Along step (fun event handles => ∀ next output, step event handles = some (next, output) →
      KeepsApart event handles next output) events {} := by
  refine along_of_invariant Apart (fun apart stepped => (keepsApart_step apart stepped).1) ?_
    apart_new
  intro handles event apart next output stepped
  exact (keepsApart_step apart stepped).2

end OdbcFast.Verification
