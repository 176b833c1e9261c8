import OdbcFast.Native.Engine.XaVerbs
import OdbcFast.Wire.HashMap
import OdbcFast.Wire.Machine

/-!
# Branches over their lives

Any number of branches at work: each start and each resumption makes a handle, and each
method consumes the handle it is called on and may make one of the next type. A handle that
goes out of scope is dropped. The calls come in any order, and the driver answers them as it
likes.
-/

namespace OdbcFast.Native.Engine

open Wire Fallible

inductive XaHandle where
  | active (xa : XaTransaction)
  | preparing (preparing : PreparingXa)
  | prepared (prepared : PreparedXa)
  deriving DecidableEq

/-- A method of one of the three types, the drop of a value included. -/
inductive XaMethod where
  | finish
  | commitOnePhase
  | rollbackActive
  | dropActive
  | prepare
  | rollbackPreparing
  | dropPreparing
  | commitPrepared
  | rollbackPrepared
  | dropPrepared
  deriving DecidableEq, Repr

/-- The call of a method with the handle that it makes; `none` for a method of another type.
A prepared handle has no drop guard. -/
def XaHandle.call (driver : XaDriver) : XaMethod → XaHandle → Option (XaM (Option XaHandle))
  | .finish, .active xa => some (xa.finish driver >>= fun next => pure (some (.preparing next)))
  | .commitOnePhase, .active xa => some (xa.commitOnePhase driver >>= fun _ => pure none)
  | .rollbackActive, .active xa => some (xa.rollback driver >>= fun _ => pure none)
  | .dropActive, .active xa => some (xa.drop driver >>= fun _ => pure none)
  | .prepare, .preparing idle =>
    some (idle.prepare driver >>= fun next => pure (some (.prepared next)))
  | .rollbackPreparing, .preparing idle => some (idle.rollback driver >>= fun _ => pure none)
  | .dropPreparing, .preparing idle => some (idle.drop driver >>= fun _ => pure none)
  | .commitPrepared, .prepared ready => some (ready.commit driver >>= fun _ => pure none)
  | .rollbackPrepared, .prepared ready => some (ready.rollback driver >>= fun _ => pure none)
  | .dropPrepared, .prepared _ => some (pure none)
  | _, _ => none

structure XaSystem where
  /-- The handles that callers own, by the order in which they were made. -/
  handles : HashMap Nat XaHandle := ∅
  next : Nat := 0
  history : List XaRecord := []

namespace XaSystem

inductive Event where
  | start (connId : Nat) (xid : Xid)
  | use (handle : Nat) (method : XaMethod)
  | recover (connId : Nat)
  | resume (connId : Nat) (xid : Xid)

/-- What was done, and what was asked for it. -/
inductive Output where
  | started (handle : Nat) (engineId : EngineId)
  | refused
  | used (handle : Nat) (method : XaMethod) (sent : List XaRecord)
  | recovered
  | resumed (handle : Nat) (engineId : EngineId)

/-- A new handle. -/
def own (handle : XaHandle) (system : XaSystem) : XaSystem :=
  { system with
    handles := system.handles.insert system.next handle
    next := system.next + 1 }

/-- A handle is consumed by its method. -/
def settle (handle : Nat) (result : Except OdbcError (Option XaHandle)) (system : XaSystem) :
    XaSystem :=
  { system with
    handles := match result with
      | .ok (some next) => system.handles.insert handle next
      | _ => system.handles.erase handle }

def step (driver : XaDriver) : Event → XaSystem → Option (XaSystem × Output)
  | .start connId xid, system =>
    match (XaTransaction.start driver connId xid).perform system.history with
    | (.ok xa, history) =>
      some ({ system with history }.own (.active xa), .started system.next xa.engineId)
    | (.error _, history) => some ({ system with history }, .refused)
  | .use handle method, system => do
    let owned ← system.handles.lookup handle
    let call ← owned.call driver method
    let (result, history) := call.perform system.history
    some ({ system with history }.settle handle result,
      .used handle method (history.drop system.history.length))
  | .recover connId, system =>
    let (_, history) := (recoverPreparedXids driver connId).perform system.history
    some ({ system with history }, .recovered)
  | .resume connId xid, system =>
    let engineId := driver.engine system.history connId
    some (system.own (.prepared ⟨connId, xid, engineId, .prepared⟩),
      .resumed system.next engineId)

/-- What was asked by the methods of a handle. -/
def sentFor (handle : Nat) (log : List Output) : List XaRecord :=
  log.flatMap fun output => match output with
    | .used used _ sent => if used = handle then sent else []
    | _ => []

@[simp] theorem sentFor_append (handle : Nat) (front back : List Output) :
    sentFor handle (front ++ back) = sentFor handle front ++ sentFor handle back :=
  List.flatMap_append

theorem sentFor_used (handle : Nat) (method : XaMethod) (sent : List XaRecord) :
    sentFor handle [.used handle method sent] = sent := by
  simp [sentFor]

theorem sentFor_used_ne {handle used : Nat} (other : used ≠ handle) (method : XaMethod)
    (sent : List XaRecord) : sentFor handle [.used used method sent] = [] := by
  simp [sentFor, other]

end XaSystem

/-! ## What a method does to its handle -/

/-- A handle is in the state of its type. -/
def XaHandle.Sound : XaHandle → Prop
  | .active xa => xa.state = .active ∧ xa.engineId.Supported
  | .preparing idle => idle.inner.state = .idle ∧ idle.inner.engineId.Supported
  | .prepared ready => ready.state = .prepared

def XaHandle.engineId : XaHandle → EngineId
  | .active xa => xa.engineId
  | .preparing idle => idle.inner.engineId
  | .prepared ready => ready.engineId

/-- What a method leaves and sends, one case for each of its ways through. -/
inductive Uses : XaMethod → XaHandle → Option XaHandle → List XaRecord → Prop
  | ended {xa : XaTransaction} {sent : List XaRecord}
      (ran : Ran xa.engineId .finish (.ok ()) sent) :
      Uses .finish (.active xa) (some (.preparing ⟨{ xa with state := .idle }⟩)) sent
  | endFailed {xa : XaTransaction} {error : OdbcError} {front back : List XaRecord}
      (failed : Ran xa.engineId .finish (.error error) front)
      (dropped : Dropped xa.engineId back) : Uses .finish (.active xa) none (front ++ back)
  | committedOnePhase {xa : XaTransaction} {result : Except OdbcError Unit} {sent : List XaRecord}
      (committed : CommittedOnePhase xa.engineId result sent) :
      Uses .commitOnePhase (.active xa) none sent
  | rolledBack {xa : XaTransaction} {result : Except OdbcError Unit} {sent : List XaRecord}
      (rolledBack : RolledBack xa.engineId result sent) :
      Uses .rollbackActive (.active xa) none sent
  | droppedActive {xa : XaTransaction} {sent : List XaRecord}
      (dropped : Dropped xa.engineId sent) : Uses .dropActive (.active xa) none sent
  | prepared {preparing : PreparingXa} {sent : List XaRecord}
      (ran : Ran preparing.inner.engineId .prepare (.ok ()) sent) :
      Uses .prepare (.preparing preparing)
        (some (.prepared ⟨preparing.inner.connId, preparing.inner.xid, preparing.inner.engineId,
          .prepared⟩)) sent
  | prepareFailed {preparing : PreparingXa} {error : OdbcError} {sent : List XaRecord}
      (ran : Ran preparing.inner.engineId .prepare (.error error) sent) :
      Uses .prepare (.preparing preparing) none sent
  | rolledBackPreparing {preparing : PreparingXa} {result : Except OdbcError Unit}
      {sent : List XaRecord} (ran : Ran preparing.inner.engineId .rollback result sent) :
      Uses .rollbackPreparing (.preparing preparing) none sent
  | droppedPreparing {preparing : PreparingXa} {sent : List XaRecord}
      (dropped : Dropped preparing.inner.engineId sent) :
      Uses .dropPreparing (.preparing preparing) none sent
  | committed {prepared : PreparedXa} {result : Except OdbcError Unit} {sent : List XaRecord}
      (ran : Ran prepared.engineId (.commit false) result sent) :
      Uses .commitPrepared (.prepared prepared) none sent
  | rolledBackPrepared {prepared : PreparedXa} {result : Except OdbcError Unit}
      {sent : List XaRecord} (ran : Ran prepared.engineId .rollbackPrepared result sent) :
      Uses .rollbackPrepared (.prepared prepared) none sent
  | droppedPrepared {prepared : PreparedXa} : Uses .dropPrepared (.prepared prepared) none []

/-- The handle that a result leaves. -/
def left (result : Except OdbcError (Option XaHandle)) : Option XaHandle :=
  match result with
  | .ok next => next
  | .error _ => none

/-- A call and the handle it makes of its answer. -/
theorem logs_left {α : Type} {call : XaM α} {next : α → Option XaHandle}
    {post : Except OdbcError α → List XaRecord → Prop} (logs : Logs post call) :
    Logs (fun result sent => ∃ answer, post answer sent ∧
        left result = left (answer.map next))
      (call >>= fun value => pure (next value)) := by
  refine (logs.bind fun value => Logs.answers (next value)).mono fun result sent said => ?_
  rcases said with ⟨error, rfl, said⟩ | ⟨value, front, back, rfl, said, rfl, rfl⟩
  · exact ⟨_, said, rfl⟩
  · rw [List.append_nil]
    exact ⟨_, said, rfl⟩

theorem left_map_none {α : Type} (answer : Except OdbcError α) :
    left (answer.map fun _ => none) = none := by
  cases answer <;> rfl

theorem XaHandle.logs_call {driver : XaDriver} {method : XaMethod} {handle : XaHandle}
    {call : XaM (Option XaHandle)} (sound : handle.Sound)
    (has : handle.call driver method = some call) :
    Logs (fun result sent => Uses method handle (left result) sent) call := by
  cases handle with
  | active xa =>
      obtain ⟨active, supported⟩ := sound
      cases method <;> cases has
      · refine (logs_left (XaTransaction.logs_finish driver active)).mono fun result sent said => ?_
        obtain ⟨answer, finished, same⟩ := said
        rw [same]
        cases finished with
        | ended ran => exact .ended ran
        | dropped failed dropped => exact .endFailed failed dropped
      · refine (logs_left (XaTransaction.logs_commitOnePhase driver active)).mono fun result sent said => ?_
        obtain ⟨answer, committed, same⟩ := said
        rw [same, left_map_none]
        exact .committedOnePhase committed
      · refine (logs_left (XaTransaction.logs_rollback driver active)).mono fun result sent said => ?_
        obtain ⟨answer, rolledBack, same⟩ := said
        rw [same, left_map_none]
        exact .rolledBack rolledBack
      · refine (logs_left (XaTransaction.logs_drop driver (.inl active))).mono fun result sent said => ?_
        obtain ⟨answer, ⟨-, dropped⟩, same⟩ := said
        rw [same, left_map_none]
        exact .droppedActive dropped
  | preparing preparing =>
      obtain ⟨idle, supported⟩ := sound
      cases method <;> cases has
      · refine (logs_left (PreparingXa.logs_prepare driver idle)).mono fun result sent said => ?_
        obtain ⟨answer, prepared, same⟩ := said
        rw [same]
        cases prepared with
        | prepared ran => exact .prepared ran
        | failed ran => exact .prepareFailed ran
      · refine (logs_left (PreparingXa.logs_rollback driver idle)).mono fun result sent said => ?_
        obtain ⟨answer, ran, same⟩ := said
        rw [same, left_map_none]
        exact .rolledBackPreparing ran
      · refine (logs_left (XaTransaction.logs_drop driver (.inr idle))).mono fun result sent said => ?_
        obtain ⟨answer, ⟨-, dropped⟩, same⟩ := said
        rw [same, left_map_none]
        exact .droppedPreparing dropped
  | prepared prepared =>
      cases method <;> cases has
      · refine (logs_left (PreparedXa.logs_commit driver sound)).mono fun result sent said => ?_
        obtain ⟨answer, ran, same⟩ := said
        rw [same, left_map_none]
        exact .committed ran
      · refine (logs_left (PreparedXa.logs_rollback driver sound)).mono fun result sent said => ?_
        obtain ⟨answer, ran, same⟩ := said
        rw [same, left_map_none]
        exact .rolledBackPrepared ran
      · exact Logs.pure .droppedPrepared

/-- A method makes a handle in the state of its type. -/
theorem sound_of_uses {method : XaMethod} {owned next : XaHandle} {sent : List XaRecord}
    (sound : owned.Sound) (uses : Uses method owned (some next) sent) : next.Sound := by
  cases uses with
  | ended ran => exact ⟨rfl, sound.2⟩
  | prepared ran => exact rfl

/-! ## What a step does -/

namespace XaSystem

theorem lookup_own (owned : XaHandle) (system : XaSystem) (handle : Nat) :
    (system.own owned).handles.lookup handle =
      if handle = system.next then some owned else system.handles.lookup handle := by
  split_ifs with new
  · rw [new]
    exact AList.lookup_insert system.handles
  · exact AList.lookup_insert_ne new

theorem lookup_settle (handle : Nat) (result : Except OdbcError (Option XaHandle))
    (system : XaSystem) (other : Nat) :
    (system.settle handle result).handles.lookup other =
      if other = handle then left result else system.handles.lookup other := by
  have gone : (system.handles.erase handle).lookup other =
      if other = handle then none else system.handles.lookup other := by
    split_ifs with same
    · rw [same]
      exact AList.lookup_erase handle system.handles
    · exact AList.lookup_erase_ne same
  rcases result with error | _ | next
  · exact gone
  · exact gone
  · change (system.handles.insert handle next).lookup other =
      if other = handle then some next else system.handles.lookup other
    split_ifs with same
    · rw [same]
      exact AList.lookup_insert system.handles
    · exact AList.lookup_insert_ne same

/-- Every handle that is owned is in the state of its type. -/
def Sound (system : XaSystem) : Prop :=
  ∀ handle owned, system.handles.lookup handle = some owned → owned.Sound

/-- One case for each kind of step. -/
inductive Stepped (system : XaSystem) : XaSystem → Output → Prop
  | started (connId : Nat) (xid : Xid) (engineId : EngineId) (history : List XaRecord)
      (supported : engineId.Supported) :
      Stepped system ({ system with history }.own (.active ⟨connId, xid, engineId, .active⟩))
        (.started system.next engineId)
  | refused (history : List XaRecord) : Stepped system { system with history } .refused
  | recovered (history : List XaRecord) : Stepped system { system with history } .recovered
  | used (handle : Nat) (method : XaMethod) (owned : XaHandle) (sent : List XaRecord)
      (result : Except OdbcError (Option XaHandle))
      (held : system.handles.lookup handle = some owned)
      (uses : Uses method owned (left result) sent) :
      Stepped system ({ system with history := system.history ++ sent }.settle handle result)
        (.used handle method sent)
  | resumed (connId : Nat) (xid : Xid) (engineId : EngineId) :
      Stepped system (system.own (.prepared ⟨connId, xid, engineId, .prepared⟩))
        (.resumed system.next engineId)

theorem stepped_of_step {driver : XaDriver} {event : Event} {system system' : XaSystem}
    {output : Output} (sound : system.Sound)
    (stepped : step driver event system = some (system', output)) :
    Stepped system system' output := by
  cases event with
  | start connId xid =>
      obtain ⟨sent, grown, opened⟩ :=
        XaTransaction.logs_start driver connId xid system.history
      rw [step] at stepped
      rcases began : (XaTransaction.start driver connId xid).perform system.history with
        ⟨error | xa, history⟩
      · rw [began] at stepped
        cases stepped
        exact .refused history
      · rw [began] at stepped opened
        obtain ⟨rfl, supported, -⟩ := opened xa rfl
        cases stepped
        exact .started connId xid _ history supported
  | use handle method =>
      simp only [step, Option.bind_eq_bind, Option.bind_eq_some_iff, Option.some.injEq,
        Prod.mk.injEq] at stepped
      obtain ⟨owned, held, call, has, rfl, rfl⟩ := stepped
      obtain ⟨sent, grown, uses⟩ := XaHandle.logs_call (sound handle owned held) has system.history
      rw [grown, List.drop_left]
      exact .used handle method owned sent _ held uses
  | recover connId =>
      cases stepped
      exact .recovered _
  | resume connId xid =>
      cases stepped
      exact .resumed connId xid _

theorem sound_own {owned : XaHandle} {system : XaSystem} (sound : system.Sound)
    (new : owned.Sound) : (system.own owned).Sound := by
  intro handle owned' held
  rw [lookup_own] at held
  split_ifs at held
  · cases held
    exact new
  · exact sound handle owned' held

theorem sound_of_stepped {system system' : XaSystem} {output : Output} (sound : system.Sound)
    (stepped : Stepped system system' output) : system'.Sound := by
  cases stepped with
  | started connId xid engineId history supported => exact sound_own sound ⟨rfl, supported⟩
  | refused history => exact sound
  | recovered history => exact sound
  | resumed connId xid engineId => exact sound_own sound rfl
  | used handle method owned sent result held uses =>
      intro other owned' held'
      rw [lookup_settle] at held'
      split_ifs at held' with same
      · rw [held'] at uses
        exact sound_of_uses (sound handle owned held) uses
      · exact sound other owned' held'

end XaSystem

end OdbcFast.Native.Engine
