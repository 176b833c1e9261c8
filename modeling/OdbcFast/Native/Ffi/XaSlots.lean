import OdbcFast.Native.Engine.XaAnswers
import OdbcFast.Native.Ffi.XaMaps

/-!
# The three maps as one

An identifier is in one map at most, so the three maps are one map from identifiers to
handles. A call consumes the handle of its identifier, and what the handle's method leaves is
the identifier's new handle; the other identifiers keep theirs.
-/

namespace OdbcFast.Native

open Wire Engine

namespace XaMaps

/-- The handle of an identifier, whatever its type. -/
def slot (state : XaMaps) (xaId : Nat) : Option XaHandle :=
  ((state.xaActive.lookup xaId).map XaHandle.active).or
    (((state.xaPreparing.lookup xaId).map XaHandle.preparing).or
      ((state.xaPrepared.lookup xaId).map XaHandle.prepared))

theorem hasSlot_iff {state : XaMaps} {xaId : Nat} :
    state.HasSlot xaId ↔ (state.slot xaId).isSome := by
  simp [HasSlot, slot]

/-- An identifier is in one of the maps at most. -/
def AtMostOne (state : XaMaps) (xaId : Nat) : Prop :=
  ((state.xaActive.lookup xaId).isSome →
    state.xaPreparing.lookup xaId = none ∧ state.xaPrepared.lookup xaId = none) ∧
  ((state.xaPreparing.lookup xaId).isSome → state.xaPrepared.lookup xaId = none)

/-- Each handle is in the state of its type, and in one map. -/
structure Sound (state : XaMaps) : Prop where
  apart : ∀ xaId, state.AtMostOne xaId
  handles : ∀ xaId owned, state.slot xaId = some owned → owned.Sound

/-- The method that an entry point calls. -/
def Entry.method : Entry → XaMethod
  | .finish => .finish
  | .prepare => .prepare
  | .commitPrepared => .commitPrepared
  | .rollbackPrepared => .rollbackPrepared
  | .commitOnePhase => .commitOnePhase
  | .rollbackActive => .rollbackActive

/-- Only the handle of one identifier has changed. -/
structure Updates (state : XaMaps) (xaId : Nat) (handle : Option XaHandle) (next : XaMaps) :
    Prop where
  slots : ∀ other, next.slot other = if other = xaId then handle else state.slot other
  apart : ∀ other, next.AtMostOne other

section

variable {state : XaMaps} {xaId : Nat} {xa : XaTransaction} {preparing : PreparingXa}
  {prepared : PreparedXa}

theorem slot_of_active (found : state.xaActive.lookup xaId = some xa) :
    state.slot xaId = some (.active xa) := by
  simp [slot, found]

theorem slot_of_preparing (apart : state.AtMostOne xaId)
    (found : state.xaPreparing.lookup xaId = some preparing) :
    state.slot xaId = some (.preparing preparing) := by
  have inactive : state.xaActive.lookup xaId = none := by
    rcases held : state.xaActive.lookup xaId with _ | xa
    · rfl
    · cases found.symm.trans (apart.1 (by rw [held]; rfl)).1
  simp [slot, found, inactive]

theorem slot_of_prepared (apart : state.AtMostOne xaId)
    (found : state.xaPrepared.lookup xaId = some prepared) :
    state.slot xaId = some (.prepared prepared) := by
  have inactive : state.xaActive.lookup xaId = none := by
    rcases held : state.xaActive.lookup xaId with _ | xa
    · rfl
    · cases found.symm.trans (apart.1 (by rw [held]; rfl)).2
  have unprepared : state.xaPreparing.lookup xaId = none := by
    rcases held : state.xaPreparing.lookup xaId with _ | preparing
    · rfl
    · cases found.symm.trans (apart.2 (by rw [held]; rfl))
  simp [slot, found, inactive, unprepared]

/-- A state that differs from another in the slot of one identifier. -/
theorem updates_of_lookups {next : XaMaps} {handle : Option XaHandle} (sound : state.Sound)
    (here : next.slot xaId = handle) (apart : next.AtMostOne xaId)
    (active : ∀ other, other ≠ xaId → next.xaActive.lookup other = state.xaActive.lookup other)
    (preparing : ∀ other, other ≠ xaId →
      next.xaPreparing.lookup other = state.xaPreparing.lookup other)
    (prepared : ∀ other, other ≠ xaId →
      next.xaPrepared.lookup other = state.xaPrepared.lookup other) :
    Updates state xaId handle next where
  slots := by
    intro other
    split_ifs with same
    · rw [same, here]
    · rw [slot, slot, active other same, preparing other same, prepared other same]
  apart := by
    intro other
    by_cases same : other = xaId
    · rwa [same]
    · rw [AtMostOne, active other same, preparing other same, prepared other same]
      exact sound.apart other

/-- The handle is taken out of its map. -/
theorem updates_take_active (sound : state.Sound)
    (found : state.xaActive.lookup xaId = some xa) (history : List XaRecord) :
    Updates state xaId none { state with xaActive := state.xaActive.erase xaId, history } := by
  obtain ⟨unprepared, unready⟩ := (sound.apart xaId).1 (by rw [found]; rfl)
  refine updates_of_lookups sound ?_ ?_ ?_ (fun _ _ => rfl) fun _ _ => rfl
  · simp [slot, AList.lookup_erase, unprepared, unready]
  · simp [AtMostOne, AList.lookup_erase, unready]
  · exact fun other same => AList.lookup_erase_ne same

theorem updates_take_preparing (sound : state.Sound)
    (found : state.xaPreparing.lookup xaId = some preparing) (history : List XaRecord) :
    Updates state xaId none
      { state with xaPreparing := state.xaPreparing.erase xaId, history } := by
  have held := slot_of_preparing (sound.apart xaId) found
  have unready := (sound.apart xaId).2 (by rw [found]; rfl)
  have inactive : state.xaActive.lookup xaId = none := by
    rcases active : state.xaActive.lookup xaId with _ | xa
    · rfl
    · cases held.symm.trans (slot_of_active active)
  refine updates_of_lookups sound ?_ ?_ (fun _ _ => rfl) ?_ fun _ _ => rfl
  · simp [slot, AList.lookup_erase, inactive, unready]
  · simp [AtMostOne, AList.lookup_erase, inactive]
  · exact fun other same => AList.lookup_erase_ne same

theorem updates_take_prepared (sound : state.Sound)
    (found : state.xaPrepared.lookup xaId = some prepared) (history : List XaRecord) :
    Updates state xaId none
      { state with xaPrepared := state.xaPrepared.erase xaId, history } := by
  have held := slot_of_prepared (sound.apart xaId) found
  have inactive : state.xaActive.lookup xaId = none := by
    rcases active : state.xaActive.lookup xaId with _ | xa
    · rfl
    · cases held.symm.trans (slot_of_active active)
  have unprepared : state.xaPreparing.lookup xaId = none := by
    rcases idle : state.xaPreparing.lookup xaId with _ | preparing
    · rfl
    · cases held.symm.trans (slot_of_preparing (sound.apart xaId) idle)
  refine updates_of_lookups sound ?_ ?_ (fun _ _ => rfl) (fun _ _ => rfl) ?_
  · simp [slot, AList.lookup_erase, inactive, unprepared]
  · simp [AtMostOne, AList.lookup_erase, inactive]
  · exact fun other same => AList.lookup_erase_ne same

/-- A vacant identifier is in none of the maps. -/
theorem vacant_iff : state.slot xaId = none ↔ state.xaActive.lookup xaId = none ∧
    state.xaPreparing.lookup xaId = none ∧ state.xaPrepared.lookup xaId = none := by
  simp [slot, Option.or_eq_none_iff]

theorem updates_put_active (sound : state.Sound) (vacant : state.slot xaId = none) :
    Updates state xaId (some (.active xa))
      { state with xaActive := state.xaActive.insert xaId xa } := by
  obtain ⟨-, unprepared, unready⟩ := vacant_iff.mp vacant
  refine updates_of_lookups sound ?_ ?_ ?_ (fun _ _ => rfl) fun _ _ => rfl
  · simp [slot, AList.lookup_insert]
  · simp [AtMostOne, unprepared, unready]
  · exact fun other same => AList.lookup_insert_ne same

theorem updates_put_preparing (sound : state.Sound) (vacant : state.slot xaId = none) :
    Updates state xaId (some (.preparing preparing))
      { state with xaPreparing := state.xaPreparing.insert xaId preparing } := by
  obtain ⟨inactive, -, unready⟩ := vacant_iff.mp vacant
  refine updates_of_lookups sound ?_ ?_ (fun _ _ => rfl) ?_ fun _ _ => rfl
  · simp [slot, AList.lookup_insert, inactive]
  · simp [AtMostOne, inactive, unready]
  · exact fun other same => AList.lookup_insert_ne same

theorem updates_put_prepared (sound : state.Sound) (vacant : state.slot xaId = none) :
    Updates state xaId (some (.prepared prepared))
      { state with xaPrepared := state.xaPrepared.insert xaId prepared } := by
  obtain ⟨inactive, unprepared, -⟩ := vacant_iff.mp vacant
  refine updates_of_lookups sound ?_ ?_ (fun _ _ => rfl) (fun _ _ => rfl) ?_
  · simp [slot, AList.lookup_insert, inactive, unprepared]
  · simp [AtMostOne, inactive, unprepared]
  · exact fun other same => AList.lookup_insert_ne same

variable {middle next : XaMaps} {first second : Option XaHandle}

theorem Updates.sound (updates : Updates state xaId first next) (sound : state.Sound)
    (good : ∀ owned, first = some owned → owned.Sound) : next.Sound where
  apart := updates.apart
  handles := by
    intro other owned held
    rw [updates.slots] at held
    split_ifs at held
    · exact good owned held
    · exact sound.handles other owned held

theorem Updates.after (updates : Updates state xaId first middle)
    (again : Updates middle xaId second next) : Updates state xaId second next where
  slots := by
    intro other
    rw [again.slots, updates.slots]
    split_ifs <;> rfl
  apart := again.apart

/-! ## What a call does -/

/-- What a call with an identifier does: it consumes the handle by its method, or the handle
is not in the map that the call looks in. -/
inductive Acts (driver : XaDriver) (state : XaMaps) (method : XaMethod) (xaId : Nat) :
    XaReply → XaMaps → Prop
  | missing {message : String}
      (other : ∀ owned, state.slot xaId = some owned → owned.call driver method = none) :
      Acts driver state method xaId (.failed message) state
  | done {owned : XaHandle} {call : XaM (Option XaHandle)} {left : Option XaHandle}
      {next : XaMaps} (held : state.slot xaId = some owned)
      (has : owned.call driver method = some call)
      (ran : call.perform state.history = (.ok left, next.history))
      (updates : Updates state xaId left next) : Acts driver state method xaId .done next
  | failed {owned : XaHandle} {call : XaM (Option XaHandle)} {error : OdbcError}
      {message : String} {next : XaMaps} (held : state.slot xaId = some owned)
      (has : owned.call driver method = some call)
      (ran : call.perform state.history = (.error error, next.history))
      (updates : Updates state xaId none next) :
      Acts driver state method xaId (.failed message) next

theorem lookup_of_slot_active (held : state.slot xaId = some (.active xa)) :
    state.xaActive.lookup xaId = some xa := by
  rw [slot] at held
  rcases active : state.xaActive.lookup xaId with _ | found
  · simp [active, Option.or_eq_some_iff] at held
  · simp only [active, Option.map_some, Option.some_or] at held
    cases held
    rfl

theorem lookup_of_slot_preparing (held : state.slot xaId = some (.preparing preparing)) :
    state.xaPreparing.lookup xaId = some preparing := by
  rw [slot] at held
  rcases active : state.xaActive.lookup xaId with _ | found
  · rcases idle : state.xaPreparing.lookup xaId with _ | found
    · simp [active, idle] at held
    · simp only [active, idle, Option.map_some, Option.map_none, Option.none_or,
        Option.some_or] at held
      cases held
      rfl
  · simp [active] at held

theorem lookup_of_slot_prepared (held : state.slot xaId = some (.prepared prepared)) :
    state.xaPrepared.lookup xaId = some prepared := by
  rw [slot] at held
  rcases active : state.xaActive.lookup xaId with _ | found
  · rcases idle : state.xaPreparing.lookup xaId with _ | found
    · simpa [active, idle] using held
    · simp [active, idle] at held
  · simp [active] at held

/-- The one proof behind the entry points: `wrap` makes a handle of what is found, `left` a
handle of what its method returns. -/
theorem acts_consume {α β : Type} {driver : XaDriver} {method : XaMethod} {handle : Option α}
    {missing verb : String} {run : α → XaM β} {taken : XaMaps} {keep : β → XaMaps → XaMaps}
    (wrap : α → XaHandle) (left : β → Option XaHandle) (sound : state.Sound)
    (absent : handle = none →
      ∀ owned, state.slot xaId = some owned → owned.call driver method = none)
    (held : ∀ found, handle = some found → state.slot xaId = some (wrap found))
    (has : ∀ found, (wrap found).call driver method =
      some (run found >>= fun value => pure (left value)))
    (takes : ∀ found, handle = some found →
      ∀ history, Updates state xaId none { taken with history })
    (keeps : ∀ value (middle : XaMaps), middle.Sound → middle.slot xaId = none →
      Updates middle xaId (left value) (keep value middle) ∧
        (keep value middle).history = middle.history) :
    Acts driver state method xaId (state.consume handle missing verb run taken keep).1
      (state.consume handle missing verb run taken keep).2 := by
  rcases found : handle with _ | owned
  · exact .missing (absent found)
  · rcases ran : (run owned).perform state.history with ⟨error | value, history⟩
    · rw [consume]
      simp only [ran]
      exact .failed (held owned found) (has owned) (Fallible.perform_bind_error ran)
        (takes owned found history)
    · have vacated := takes owned found history
      have vacant : ({ taken with history } : XaMaps).slot xaId = none := by
        rw [vacated.slots, if_pos rfl]
      obtain ⟨updates, same⟩ := keeps value _ (vacated.sound sound (by rintro _ ⟨⟩)) vacant
      rw [consume]
      simp only [ran]
      refine .done (held owned found) (has owned) ?_ (vacated.after updates)
      rw [same, Fallible.perform_bind_ok ran]
      rfl

/-- A call whose method leaves nothing keeps nothing. -/
theorem updates_nothing (sound : state.Sound) (vacant : state.slot xaId = none) :
    Updates state xaId none state where
  slots := by
    intro other
    split_ifs with same
    · rw [same, vacant]
    · rfl
  apart := sound.apart

theorem acts_call (driver : XaDriver) (sound : state.Sound) (entry : Entry) (xaId : Nat) :
    Acts driver state entry.method xaId (entry.call driver xaId state).1
      (entry.call driver xaId state).2 := by
  have inactive : state.xaActive.lookup xaId = none → ∀ xa, state.slot xaId ≠ some (.active xa) :=
    fun absent xa held => by cases absent.symm.trans (lookup_of_slot_active held)
  have unprepared : state.xaPreparing.lookup xaId = none →
      ∀ idle, state.slot xaId ≠ some (.preparing idle) :=
    fun absent idle held => by cases absent.symm.trans (lookup_of_slot_preparing held)
  have unready : state.xaPrepared.lookup xaId = none →
      ∀ ready, state.slot xaId ≠ some (.prepared ready) :=
    fun absent ready held => by cases absent.symm.trans (lookup_of_slot_prepared held)
  cases entry with
  | finish =>
      refine acts_consume XaHandle.active (fun next => some (.preparing next)) sound ?_
        (fun _ => slot_of_active) (fun _ => rfl) (fun _ => updates_take_active sound) ?_
      · intro absent owned held
        cases owned with
        | active xa => exact absurd held (inactive absent xa)
        | preparing idle => rfl
        | prepared ready => rfl
      · exact fun value middle sound vacant => ⟨updates_put_preparing sound vacant, rfl⟩
  | commitOnePhase | rollbackActive =>
      refine acts_consume XaHandle.active (fun _ => none) sound ?_
        (fun _ => slot_of_active) (fun _ => rfl) (fun _ => updates_take_active sound) ?_
      · intro absent owned held
        cases owned with
        | active xa => exact absurd held (inactive absent xa)
        | preparing idle => rfl
        | prepared ready => rfl
      · exact fun value middle sound vacant => ⟨updates_nothing sound vacant, rfl⟩
  | prepare =>
      refine acts_consume XaHandle.preparing (fun next => some (.prepared next)) sound ?_
        (fun _ => slot_of_preparing (sound.apart xaId)) (fun _ => rfl)
        (fun _ => updates_take_preparing sound) ?_
      · intro absent owned held
        cases owned with
        | active xa => rfl
        | preparing idle => exact absurd held (unprepared absent idle)
        | prepared ready => rfl
      · exact fun value middle sound vacant => ⟨updates_put_prepared sound vacant, rfl⟩
  | commitPrepared | rollbackPrepared =>
      refine acts_consume XaHandle.prepared (fun _ => none) sound ?_
        (fun _ => slot_of_prepared (sound.apart xaId)) (fun _ => rfl)
        (fun _ => updates_take_prepared sound) ?_
      · intro absent owned held
        cases owned with
        | active xa => rfl
        | preparing idle => rfl
        | prepared ready => exact absurd held (unready absent ready)
      · exact fun value middle sound vacant => ⟨updates_nothing sound vacant, rfl⟩

/-! ## The other calls -/

/-- No identifier has lost its handle. -/
def Grows (state next : XaMaps) : Prop :=
  next.Sound ∧ ∀ xaId owned, state.slot xaId = some owned → next.slot xaId = some owned

/-- The maps are as they were. -/
theorem grows_of_same (sound : state.Sound) (active : next.xaActive = state.xaActive)
    (preparing : next.xaPreparing = state.xaPreparing)
    (prepared : next.xaPrepared = state.xaPrepared) : Grows state next := by
  have same : ∀ xaId, next.slot xaId = state.slot xaId := fun xaId => by
    rw [slot, slot, active, preparing, prepared]
  refine ⟨⟨fun other => ?_, fun other owned held => ?_⟩, fun other owned held => ?_⟩
  · rw [AtMostOne, active, preparing, prepared]
    exact sound.apart other
  · exact sound.handles other owned (same other ▸ held)
  · rw [same, held]

theorem sound_of_same (sound : state.Sound) (next : XaMaps)
    (active : next.xaActive = state.xaActive) (preparing : next.xaPreparing = state.xaPreparing)
    (prepared : next.xaPrepared = state.xaPrepared) : next.Sound :=
  (grows_of_same sound active preparing prepared).1

/-- An identifier that is allocated is vacant, and the slots are as they were. -/
theorem xaAllocId_spec (sound : state.Sound) :
    state.xaAllocId.2.Sound ∧ (∀ other, state.xaAllocId.2.slot other = state.slot other) ∧
      ∀ xaId, state.xaAllocId.1 = some xaId → state.slot xaId = none := by
  refine ⟨sound_of_same sound _ rfl rfl rfl, fun _ => rfl, fun xaId allocated => ?_⟩
  change (allocateFrom (fun id => decide (state.HasSlot id)) maxIdAllocAttempts
    state.nextXaId).1 = some xaId at allocated
  have vacant : ¬ state.HasSlot xaId := of_decide_eq_false (allocateFrom_spec allocated).2
  rw [hasSlot_iff, Bool.not_eq_true, Option.isSome_eq_false_iff, Option.isNone_iff_eq_none]
    at vacant
  exact vacant

variable (driver : XaDriver) (connId : Nat) (formatId : Int32) (gtrid bqual : Option Bytes)

/-- A call that makes a handle, or fails. -/
inductive Opens (state : XaMaps) (kind : XaHandle → Prop) : XaReply → XaMaps → Prop
  | refused {message : String} {next : XaMaps}
      (same : ∀ other, next.slot other = state.slot other) (sound : next.Sound) :
      Opens state kind (.failed message) next
  | opened {xaId : Nat} {handle : XaHandle} {next : XaMaps} (made : kind handle)
      (vacant : state.slot xaId = none) (sound : next.Sound)
      (slots : ∀ other, next.slot other = if other = xaId then some handle else state.slot other) :
      Opens state kind (.started xaId) next

theorem Opens.grows {kind : XaHandle → Prop} {reply : XaReply} (opens : Opens state kind reply next) :
    Grows state next := by
  cases opens with
  | refused same sound => exact ⟨sound, fun other owned held => (same other).trans held⟩
  | opened made vacant sound slots =>
      refine ⟨sound, fun other owned held => ?_⟩
      rw [slots, if_neg, held]
      rintro rfl
      cases vacant.symm.trans held

/-- The maps, whatever else has changed. -/
theorem refused_of_same {kind : XaHandle → Prop} {message : String} (sound : state.Sound)
    (active : next.xaActive = state.xaActive) (preparing : next.xaPreparing = state.xaPreparing)
    (prepared : next.xaPrepared = state.xaPrepared) :
    Opens state kind (.failed message) next :=
  .refused (fun other => by rw [slot, slot, active, preparing, prepared])
    (sound_of_same sound next active preparing prepared)

/-- A handle put into the slot that was allocated. -/
theorem opened_of_updates {kind : XaHandle → Prop} {handle : XaHandle} (made : kind handle)
    (good : handle.Sound) (sound : middle.Sound)
    (same : ∀ other, middle.slot other = state.slot other) (vacant : state.slot xaId = none)
    (updates : Updates middle xaId (some handle) next) :
    Opens state kind (.started xaId) next := by
  refine .opened made vacant (updates.sound sound ?_) fun other => ?_
  · rintro owned ⟨⟩
    exact good
  · rw [updates.slots, same]

theorem opens_start (sound : state.Sound) :
    Opens state (fun handle => ∃ xa, handle = .active xa)
      (state.odbcXaStart driver connId formatId gtrid bqual).1
      (state.odbcXaStart driver connId formatId gtrid bqual).2 := by
  rw [odbcXaStart]
  rcases xaArguments "odbc_xa_start" connId formatId gtrid bqual state with message | xid
  · exact refused_of_same sound rfl rfl rfl
  obtain ⟨sent, -, began⟩ := XaTransaction.logs_start driver connId xid state.history
  rcases ran : (XaTransaction.start driver connId xid).perform state.history with
    ⟨error | xa, history⟩
  · simp only [ran]
    exact refused_of_same sound rfl rfl rfl
  · rw [ran] at began
    obtain ⟨rfl, supported, -⟩ := began xa rfl
    have quiet : ({ state with history } : XaMaps).Sound := sound_of_same sound _ rfl rfl rfl
    obtain ⟨sound', same, vacant⟩ := xaAllocId_spec quiet
    simp only [ran]
    rcases allocated : ({ state with history } : XaMaps).xaAllocId with ⟨_ | xaId, after⟩
    · rw [allocated] at sound' same
      exact .refused same (sound_of_same sound' _ rfl rfl rfl)
    · rw [allocated] at sound' same vacant
      have unused := vacant xaId rfl
      exact opened_of_updates ⟨_, rfl⟩ ⟨rfl, supported⟩ sound' same unused
        (updates_put_active sound' ((same xaId).trans unused))

theorem opens_resume (sound : state.Sound) :
    Opens state (fun handle => ∃ prepared, handle = .prepared prepared)
      (state.odbcXaResumePrepared driver connId formatId gtrid bqual).1
      (state.odbcXaResumePrepared driver connId formatId gtrid bqual).2 := by
  rw [odbcXaResumePrepared]
  rcases xaArguments "odbc_xa_resume_prepared" connId formatId gtrid bqual state with message | xid
  · exact refused_of_same sound rfl rfl rfl
  · obtain ⟨sound', same, vacant⟩ := xaAllocId_spec sound
    simp only [resumePrepared, Fallible.perform_of]
    rcases allocated : state.xaAllocId with ⟨_ | xaId, after⟩
    · rw [allocated] at sound' same
      exact .refused same sound'
    · rw [allocated] at sound' same vacant
      have unused := vacant xaId rfl
      have good : XaHandle.Sound (.prepared ⟨connId, xid, driver.engine state.history connId,
        .prepared⟩) := rfl
      exact opened_of_updates ⟨_, rfl⟩ good sound' same unused
        (updates_put_prepared sound' ((same xaId).trans unused))

/-- Looking for prepared branches leaves the maps alone. -/
theorem recover_same :
    (state.odbcXaRecoverCount driver connId).2.xaActive = state.xaActive ∧
      (state.odbcXaRecoverCount driver connId).2.xaPreparing = state.xaPreparing ∧
      (state.odbcXaRecoverCount driver connId).2.xaPrepared = state.xaPrepared := by
  rw [odbcXaRecoverCount]
  split_ifs
  · exact ⟨rfl, rfl, rfl⟩
  · rcases (recoverPreparedXids driver connId).perform state.history with ⟨error | xids, history⟩
    · exact ⟨rfl, rfl, rfl⟩
    · exact ⟨rfl, rfl, rfl⟩

/-- A call without an identifier takes no handle away. -/
theorem grows_act (sound : state.Sound) (event : Event)
    (other : ∀ entry xaId, event ≠ .call entry xaId) : Grows state (state.act driver event).2 := by
  cases event with
  | connected connId => exact grows_of_same sound rfl rfl rfl
  | disconnected connId => exact grows_of_same sound rfl rfl rfl
  | start connId formatId gtrid bqual =>
      exact (opens_start driver connId formatId gtrid bqual sound).grows
  | resume connId formatId gtrid bqual =>
      exact (opens_resume driver connId formatId gtrid bqual sound).grows
  | recover connId =>
      obtain ⟨active, preparing, prepared⟩ := @recover_same state driver connId
      exact grows_of_same sound active preparing prepared
  | call entry xaId => exact absurd rfl (other entry xaId)

/-- What a method leaves is sound, so every call keeps the maps sound. -/
theorem Acts.sound {method : XaMethod} {reply : XaReply}
    (acts : Acts driver state method xaId reply next) (sound : state.Sound) : next.Sound := by
  cases acts with
  | missing _ => exact sound
  | failed _ _ _ updates => exact updates.sound sound (by rintro _ ⟨⟩)
  | @done owned call left _ held has ran updates =>
      refine updates.sound sound ?_
      rintro handle rfl
      obtain ⟨sent, -, uses⟩ :=
        XaHandle.logs_call (sound.handles xaId owned held) has state.history
      rw [ran] at uses
      exact sound_of_uses (sound.handles xaId owned held) uses

theorem sound_act (sound : state.Sound) (event : Event) : (state.act driver event).2.Sound := by
  by_cases calls : ∃ entry xaId, event = .call entry xaId
  · obtain ⟨entry, xaId, rfl⟩ := calls
    exact (acts_call driver sound entry xaId).sound driver sound
  · exact (grows_act driver sound event fun entry xaId same => calls ⟨entry, xaId, same⟩).1

end

end XaMaps

end OdbcFast.Native
