import OdbcFast.Dart.XaTransactionHandle
import OdbcFast.Verification.XaRetries

/-!
# The branch behind a Dart handle

Where the branch of a handle is in the native maps tells what was sent for it, whatever an
action does. From that follows what each method of the handle does to the branch: it reaches
it in one of the maps, or it changes the handle's state only.
-/

namespace OdbcFast.Verification

open Wire OdbcFast.Native OdbcFast.Native.Engine OdbcFast.Native.XaMaps OdbcFast.Dart
open OdbcFast.Dart.XaWorld

/-! ## What becomes of a branch -/

def Committed (sent : List XaRecord) : Prop := ∃ onePhase, (.commit onePhase, .done) ∈ verbs sent

/-- By a `ROLLBACK`, or by the server itself behind a `PREPARE` that it refused. -/
def WasRolledBack (sent : List XaRecord) : Prop :=
  (.rollback, .done) ∈ verbs sent ∨ LeftNothing sent

/-- The branch is prepared, or was. -/
def WasPrepared (world : XaWorld) : Prop :=
  (.prepare, .done) ∈ verbs world.sent ∨ world.resumed = true

/-- The rollback verb succeeds whenever it is sent. -/
def RollbacksSucceed (sent : List XaRecord) : Prop :=
  ∀ statement ∈ verbs sent, statement.1 = .rollback → statement.2 = .done

/-- A branch that was not prepared is rolled back and in none of the maps. -/
def Undone (world : XaWorld) : Prop :=
  ¬ WasPrepared world → WasRolledBack world.sent ∧ ¬ world.maps.HasSlot world.handle.xaId

/-- The drop guard behind a refused `END` finds the connection, and so does a `ROLLBACK`. -/
def FoundBehindEnd (driver : XaDriver) (xa : XaTransaction) (history : List XaRecord) : Prop :=
  driver.answer (driver.behindVerb xa.connId xa.engineId xa.xid .finish history) xa.connId
    .lookup = .done

/-! ## The branch behind the handle -/

/-- Where the branch is tells what was sent for it. -/
structure Bound (world : XaWorld) : Prop where
  sound : world.maps.Sound
  active : ∀ xa, world.maps.slot world.handle.xaId = some (.active xa) →
    verbs world.sent = [] ∧ world.resumed = false
  preparing : ∀ idle, world.maps.slot world.handle.xaId = some (.preparing idle) →
    (∀ statement ∈ verbs world.sent, statement.1 = .finish) ∧ world.resumed = false
  prepared : ∀ ready, world.maps.slot world.handle.xaId = some (.prepared ready) →
    WasPrepared world

/-- The handle's state behind a call. -/
def stateBehind (success : Bool) (next : Dart.XaState) : Dart.XaState :=
  if success then next else .failed

/-- Whatever a method answers, the world behind it is the native one but for the state. -/
theorem call_snd (driver : XaDriver) (world : XaWorld) (entry : Entry) (next : Dart.XaState) :
    ∃ state, (world.call driver entry next).2 = { world with
      handle := { world.handle with state }
      maps := (entry.call driver world.handle.xaId world.maps).2
      sent := world.sent ++ (entry.call driver world.handle.xaId world.maps).2.history.drop
        world.maps.history.length } := by
  rw [XaWorld.call]
  simp only
  split_ifs
  · exact ⟨next, rfl⟩
  · exact ⟨.failed, rfl⟩

section

variable {driver : XaDriver} {world : XaWorld} {entry : Entry}

/-- A method of the handle that does not find the branch changes its state only. -/
theorem call_missing (sound : world.maps.Sound)
    (missing : ∀ owned, world.maps.slot world.handle.xaId = some owned →
      owned.call driver entry.method = none) (next : Dart.XaState) :
    world.call driver entry next =
      (false, { world with handle := { world.handle with state := .failed } }) := by
  have acts := acts_call driver sound entry world.handle.xaId
  rw [XaWorld.call]
  generalize entry.call driver world.handle.xaId world.maps = outcome at acts ⊢
  obtain ⟨reply, maps⟩ := outcome
  cases acts with
  | missing _ => simp [XaReply.code]
  | done held has _ _ => cases (missing _ held).symm.trans has
  | failed held has _ _ => cases (missing _ held).symm.trans has

/-- One that finds it does what the native method does. -/
theorem call_found (sound : world.maps.Sound) {owned : XaHandle} {call : XaM (Option XaHandle)}
    {result : Except Native.OdbcError (Option XaHandle)} {after : List XaRecord}
    (held : world.maps.slot world.handle.xaId = some owned)
    (has : owned.call driver entry.method = some call)
    (ran : call.perform world.maps.history = (result, after)) (next : Dart.XaState) :
    ∃ maps asked, maps.history = after ∧ after = world.maps.history ++ asked ∧
      Uses entry.method owned (left result) asked ∧
      Updates world.maps world.handle.xaId (left result) maps ∧
      world.call driver entry next = (result.isOk, { world with
        handle := { world.handle with state := stateBehind result.isOk next }
        maps, sent := world.sent ++ asked }) := by
  have acts := acts_call driver sound entry world.handle.xaId
  obtain ⟨asked, grown, uses⟩ := XaHandle.logs_call (sound.handles _ owned held) has
    world.maps.history
  rw [ran] at grown uses
  rw [XaWorld.call]
  generalize entry.call driver world.handle.xaId world.maps = outcome at acts ⊢
  obtain ⟨reply, maps⟩ := outcome
  cases acts with
  | missing missing => cases (missing _ held).symm.trans has
  | @done owned' call' handle _ held' has' ran' updates =>
      cases held.symm.trans held'
      cases has.symm.trans has'
      obtain ⟨rfl, rfl⟩ := Prod.mk.inj (ran.symm.trans ran')
      refine ⟨maps, asked, rfl, grown, uses, updates, ?_⟩
      have drops : maps.history.drop world.maps.history.length = asked := by
        rw [show maps.history = world.maps.history ++ asked from grown, List.drop_left]
      simp [XaReply.code, drops, stateBehind, Except.isOk, Except.toBool]
  | @failed owned' call' error message _ held' has' ran' updates =>
      cases held.symm.trans held'
      cases has.symm.trans has'
      obtain ⟨rfl, rfl⟩ := Prod.mk.inj (ran.symm.trans ran')
      refine ⟨maps, asked, rfl, grown, uses, updates, ?_⟩
      have drops : maps.history.drop world.maps.history.length = asked := by
        rw [show maps.history = world.maps.history ++ asked from grown, List.drop_left]
      simp [XaReply.code, drops, stateBehind, Except.isOk, Except.toBool]

/-- A verb that is a statement was done when its method has succeeded. -/
theorem done_of_ran {engineId : EngineId} {verb : XaVerb} {asked : List XaRecord}
    (speaks : verb ≠ .finish) (ran : Ran engineId verb (.ok ()) asked) :
    (verb, .done) ∈ verbs asked := by
  generalize outcome : (Except.ok () : Except Native.OdbcError Unit) = result at ran
  cases ran with
  | unreached _ _ => cases outcome
  | applied applied => exact (XaTransaction.done_of_applied speaks applied).mpr outcome.symm

/-- What is prepared stays prepared. -/
theorem WasPrepared.later {maps : XaMaps} {handle : XaTransactionHandle} (asked : List XaRecord)
    (prepared : WasPrepared world) :
    WasPrepared { world with handle, maps, sent := world.sent ++ asked } := by
  refine prepared.imp_left fun member => ?_
  rw [verbs_append]
  exact List.mem_append_left _ member

theorem Bound.used (bound : Bound world) {method : XaMethod} {owned : XaHandle}
    {left : Option XaHandle} {asked : List XaRecord} {maps : XaMaps} (state : Dart.XaState)
    (held : world.maps.slot world.handle.xaId = some owned)
    (uses : Uses method owned left asked)
    (updates : Updates world.maps world.handle.xaId left maps) :
    Bound { world with
      handle := { world.handle with state }, maps, sent := world.sent ++ asked } := by
  have here : maps.slot world.handle.xaId = left := by rw [updates.slots, if_pos rfl]
  have good := bound.sound.handles _ owned held
  refine ⟨updates.sound bound.sound ?_, fun xa now => ?_, fun idle now => ?_, fun ready now => ?_⟩
  · rintro new rfl
    exact sound_of_uses good uses
  · cases here.symm.trans now
    cases uses
  · cases here.symm.trans now
    cases uses with
    | ended ran =>
        obtain ⟨nothing, fresh⟩ := bound.active _ held
        refine ⟨?_, fresh⟩
        rw [verbs_append, nothing, List.nil_append]
        exact endings_of_ran ran
  · cases here.symm.trans now
    cases uses with
    | prepared ran =>
        left
        rw [verbs_append]
        exact List.mem_append_right _ (done_of_ran (by rintro ⟨⟩) ran)

theorem bound_call (bound : Bound world) (next : Dart.XaState) :
    Bound (world.call driver entry next).2 := by
  by_cases missing : ∀ owned, world.maps.slot world.handle.xaId = some owned →
      owned.call driver entry.method = none
  · rw [call_missing bound.sound missing]
    exact ⟨bound.sound, bound.active, bound.preparing, bound.prepared⟩
  · rw [not_forall] at missing
    obtain ⟨owned, missing⟩ := missing
    rw [Classical.not_imp] at missing
    obtain ⟨held, has⟩ := missing
    obtain ⟨call, has⟩ := Option.ne_none_iff_exists'.mp has
    obtain ⟨maps, asked, -, -, uses, updates, same⟩ := call_found bound.sound held has rfl next
    rw [same]
    exact bound.used _ held uses updates

/-- The slot, what was sent and the mark are as they were. -/
theorem Bound.same (bound : Bound world) {maps : XaMaps} (sound : maps.Sound)
    (slot : maps.slot world.handle.xaId = world.maps.slot world.handle.xaId) :
    Bound { world with maps } where
  sound := sound
  active xa held := bound.active xa (slot ▸ held)
  preparing idle held := bound.preparing idle (slot ▸ held)
  prepared ready held := bound.prepared ready (slot ▸ held)

/-- A branch that has just got the identifier. -/
theorem bound_opened {maps : XaMaps} {handle : XaTransactionHandle} {owned : XaHandle}
    (sound : maps.Sound) (held : maps.slot handle.xaId = some owned) (resumed : Bool)
    (kind : if resumed then ∃ ready, owned = .prepared ready else ∃ xa, owned = .active xa) :
    Bound ⟨handle, maps, [], resumed⟩ := by
  cases resumed with
  | false =>
      obtain ⟨xa, rfl⟩ := kind
      refine ⟨sound, fun _ _ => ⟨rfl, rfl⟩, fun idle now => ?_, fun ready now => ?_⟩
      · cases held.symm.trans now
      · cases held.symm.trans now
  | true =>
      obtain ⟨ready, rfl⟩ := kind
      refine ⟨sound, fun xa now => ?_, fun idle now => ?_, fun _ _ => .inr rfl⟩
      · cases held.symm.trans now
      · cases held.symm.trans now

/-- A start or a resumption that may have been given the handle's identifier. -/
theorem bound_opens (bound : Bound world) {kind : XaHandle → Prop} {reply : XaReply}
    {maps : XaMaps} (opens : Opens world.maps kind reply maps) (resumed : Bool)
    (kinds : ∀ owned, kind owned →
      if resumed then ∃ ready, owned = .prepared ready else ∃ xa, owned = .active xa) :
    Bound (if reply = .started world.handle.xaId then ⟨world.handle, maps, [], resumed⟩
      else { world with maps }) := by
  cases opens with
  | refused same sound =>
      rw [if_neg (by rintro ⟨⟩)]
      exact bound.same sound (same _)
  | @opened xaId owned _ made vacant sound slots =>
      split_ifs with mine
      · cases mine
        exact bound_opened sound (by rw [slots, if_pos rfl]) resumed (kinds owned made)
      · refine bound.same sound ?_
        rw [slots, if_neg]
        exact fun same => mine (by rw [same])

theorem bound_native (bound : Bound world) (event : Event) :
    Bound (world.native driver event).2 := by
  cases event with
  | connected connId =>
      exact bound.same (sound_of_same bound.sound _ rfl rfl rfl) rfl
  | disconnected connId =>
      exact bound.same (sound_of_same bound.sound _ rfl rfl rfl) rfl
  | recover connId =>
      obtain ⟨active, preparing, prepared⟩ := @recover_same world.maps driver connId
      refine bound.same (sound_of_same bound.sound _ active preparing prepared) ?_
      change (world.maps.odbcXaRecoverCount driver connId).2.slot _ = _
      rw [slot, slot, active, preparing, prepared]
  | start connId formatId gtrid bqual =>
      exact bound_opens bound (opens_start driver connId formatId gtrid bqual bound.sound) false
        fun _ made => made
  | resume connId formatId gtrid bqual =>
      exact bound_opens bound (opens_resume driver connId formatId gtrid bqual bound.sound) true
        fun _ made => made
  | call entry xaId =>
      have acts := acts_call driver bound.sound entry xaId
      have sound := acts.sound driver bound.sound
      rw [XaWorld.native]
      change Bound { world with
        maps := (entry.call driver xaId world.maps).2
        sent := if xaId = world.handle.xaId then world.sent ++
          (entry.call driver xaId world.maps).2.history.drop world.maps.history.length
          else world.sent }
      split_ifs with mine
      · subst mine
        have called := @bound_call driver world entry bound .active
        obtain ⟨state, same⟩ := call_snd driver world entry .active
        rw [same] at called
        exact ⟨called.sound, called.active, called.preparing, called.prepared⟩
      · refine bound.same sound ?_
        generalize entry.call driver xaId world.maps = outcome at acts ⊢
        obtain ⟨reply, maps⟩ := outcome
        cases acts with
        | missing _ => rfl
        | done _ _ _ updates => rw [updates.slots, if_neg (Ne.symm mine)]
        | failed _ _ _ updates => rw [updates.slots, if_neg (Ne.symm mine)]

theorem bound_run {α : Type} (bound : Bound world) (action : Interaction Op OpReply α) :
    Bound (action.run (reply driver) world).2 := by
  refine Interaction.run_invariant Bound (fun op world bound => ?_) action world bound
  cases op with
  | method entry =>
      change Bound (world.method driver entry).2
      cases entry with
      | finish => exact bound_call bound .idle
      | prepare => exact bound_call bound .prepared
      | commitPrepared => exact bound_call bound .committed
      | rollbackPrepared => exact bound_call bound .rolledBack
      | commitOnePhase => exact bound_call bound .committed
      | rollbackActive => exact bound_call bound .rolledBack
  | native event => exact bound_native bound event

end

/-! ## Calls that reach the branch -/

section

variable {driver : XaDriver} {world : XaWorld} {entry : Entry} {xa : XaTransaction}

/-- The world behind a method of the handle that reaches the branch. -/
def moved (world : XaWorld) (state : Dart.XaState) (maps : XaMaps) (asked : List XaRecord) :
    XaWorld :=
  { world with handle := { world.handle with state }, maps, sent := world.sent ++ asked }

/-- A call that makes a handle of the answer of a native method. -/
theorem call_reaches {α : Type} {owned : XaHandle} {method : XaM α} {next : α → Option XaHandle}
    {answer : Except Native.OdbcError α} {after : List XaRecord} (sound : world.maps.Sound)
    (held : world.maps.slot world.handle.xaId = some owned)
    (has : owned.call driver entry.method = some (method >>= fun value => pure (next value)))
    (ran : method.perform world.maps.history = (answer, after)) (state : Dart.XaState) :
    ∃ maps asked, maps.history = after ∧ after = world.maps.history ++ asked ∧
      Uses entry.method owned (left (answer.map next)) asked ∧
      Updates world.maps world.handle.xaId (left (answer.map next)) maps ∧
      world.call driver entry state =
        (answer.isOk, moved world (stateBehind answer.isOk state) maps asked) := by
  cases answer with
  | ok value =>
      have whole : (method >>= fun value => pure (next value)).perform world.maps.history =
          (.ok (next value), after) := Fallible.perform_bind_ok ran
      exact call_found sound held has whole state
  | error error => exact call_found sound held has (Fallible.perform_bind_error ran) state

/-- A branch that was not prepared has left the maps, and was rolled back exactly when `rolled`
as long as rollbacks succeed. -/
structure Gone (world : XaWorld) (rolled : Prop) : Prop where
  sound : world.maps.Sound
  vacant : world.maps.slot world.handle.xaId = none
  unprepared : ¬ WasPrepared world
  rolledBack : RollbacksSucceed world.sent → (WasRolledBack world.sent ↔ rolled)

theorem Gone.undone_iff {rolled : Prop} (gone : Gone world rolled)
    (succeed : RollbacksSucceed world.sent) : Undone world ↔ rolled := by
  rw [← gone.rolledBack succeed]
  refine ⟨fun undone => (undone gone.unprepared).1, fun rolledBack _ => ⟨rolledBack, ?_⟩⟩
  rw [hasSlot_iff, gone.vacant]
  rintro ⟨⟩

theorem finish_accepted (bound : Bound world)
    (held : world.maps.slot world.handle.xaId = some (.active xa))
    (accepted : driver.Accepts xa.connId xa.engineId xa.xid .finish world.maps.history) :
    ∃ maps asked, world.finish driver = (true, moved world .idle maps asked) ∧
      Bound (moved world .idle maps asked) ∧
      maps.slot world.handle.xaId = some (.preparing ⟨{ xa with state := .idle }⟩) ∧
      maps.history = driver.behindVerb xa.connId xa.engineId xa.xid .finish world.maps.history := by
  have active : xa.state = .active := (bound.sound.handles _ _ held).1
  have has : (XaHandle.active xa).call driver Entry.finish.method =
      some (xa.finish driver >>= fun next => pure (some (.preparing next))) := rfl
  obtain ⟨maps, asked, grown, -, uses, updates, same⟩ :=
    call_reaches bound.sound held has (XaTransaction.finish_ok active accepted) .idle
  refine ⟨maps, asked, same, bound.used _ held uses updates, ?_, grown⟩
  rw [updates.slots, if_pos rfl]
  rfl

/-- No more than `END` was sent before. -/
structure Early (world : XaWorld) : Prop where
  ends : ∀ ending ∈ verbs world.sent, ending.1 = .finish
  fresh : world.resumed = false

theorem Bound.early_active (bound : Bound world)
    (held : world.maps.slot world.handle.xaId = some (.active xa)) : Early world := by
  obtain ⟨nothing, fresh⟩ := bound.active xa held
  exact ⟨by simp [nothing], fresh⟩

theorem Early.unprepared (early : Early world) : ¬ WasPrepared world := by
  rintro (member | resumed)
  · cases early.ends _ member
  · cases early.fresh.symm.trans resumed

theorem Bound.early_preparing (bound : Bound world) {idle : PreparingXa}
    (held : world.maps.slot world.handle.xaId = some (.preparing idle)) : Early world :=
  ⟨(bound.preparing idle held).1, (bound.preparing idle held).2⟩

/-- What matters of the statements is in the last call. -/
theorem gone_of_asked {maps : XaMaps} {asked : List XaRecord} {rolled : Prop} (early : Early world)
    (sound : maps.Sound) (vacant : maps.slot world.handle.xaId = none)
    (unprepared : (.prepare, .done) ∉ verbs asked)
    (rolledBack : (∀ statement ∈ verbs asked, statement.1 = .rollback → statement.2 = .done) →
      (WasRolledBack asked ↔ rolled)) (state : Dart.XaState) :
    Gone (moved world state maps asked) rolled := by
  have later : ∀ statement, statement.1 ≠ XaVerb.finish →
      (statement ∈ verbs (world.sent ++ asked) ↔ statement ∈ verbs asked) := by
    intro statement other
    rw [verbs_append, List.mem_append]
    exact or_iff_right fun before => other (early.ends statement before)
  refine ⟨sound, vacant, ?_, fun succeed => ?_⟩
  · rintro (done | resumed)
    · exact unprepared ((later _ (by rintro ⟨⟩)).mp done)
    · exact absurd (early.fresh.symm.trans resumed) (by rintro ⟨⟩)
  · rw [← rolledBack fun statement member rolls =>
      succeed statement ((later statement (by rw [rolls]; rintro ⟨⟩)).mpr member) rolls]
    refine or_congr (later _ (by rintro ⟨⟩)) (exists_congr fun error => later _ (by rintro ⟨⟩))

/-- Nothing but `END` and `ROLLBACK`: the branch is rolled back when that was sent. -/
theorem gone_of_rolls {maps : XaMaps} {asked : List XaRecord} {found : Prop} (early : Early world)
    (sound : maps.Sound) (vacant : maps.slot world.handle.xaId = none)
    (only : ∀ statement ∈ verbs asked, statement.1 = .finish ∨ statement.1 = .rollback)
    (sends : (∃ answer, (.rollback, answer) ∈ verbs asked) ↔ found) (state : Dart.XaState) :
    Gone (moved world state maps asked) found := by
  have prepares : ∀ answer, (.prepare, answer) ∉ verbs asked := by
    intro answer member
    rcases only _ member with wrong | wrong
    · cases wrong
    · cases wrong
  refine gone_of_asked early sound vacant (prepares .done) (fun succeed => ?_) state
  rw [← sends]
  constructor
  · rintro (member | ⟨error, member⟩)
    · exact ⟨.done, member⟩
    · exact absurd member (prepares _)
  · rintro ⟨answer, member⟩
    have done : answer = .done := succeed _ member rfl
    exact .inl (done ▸ member)

/-- Behind a refused `END` the drop guard rolls the branch back where it finds the connection. -/
theorem rolls_of_dropped {ended after asked : List XaRecord} {history : List XaRecord}
    (live : xa.state = .active) (supported : xa.engineId.Supported)
    (before : ∃ sent, ended = history ++ sent ∧ ∀ ending ∈ verbs sent, ending.1 = .finish)
    (dropped : after = ((xa.drop driver).perform ended).2) (grown : after = history ++ asked) :
    (∀ statement ∈ verbs asked, statement.1 = .finish ∨ statement.1 = .rollback) ∧
      ((∃ answer, (.rollback, answer) ∈ verbs asked) ↔
        driver.answer ended xa.connId .lookup = .done) := by
  obtain ⟨front, rfl, ends⟩ := before
  obtain ⟨back, later, sends⟩ : ∃ back, ((xa.drop driver).perform (history ++ front)).2 =
      history ++ front ++ back ∧ ((∃ answer, (.rollback, answer) ∈ verbs back) ↔
        driver.answer (history ++ front) xa.connId .lookup = .done) :=
    XaTransaction.drop_sends (.inl live) supported
  obtain ⟨back', later', -, guard⟩ := XaTransaction.logs_drop driver (.inl live) (history ++ front)
  obtain rfl := List.append_cancel_left (later.symm.trans later')
  rw [dropped, later, List.append_assoc, List.append_cancel_left_eq] at grown
  rw [← grown, verbs_append, ← sends]
  refine ⟨fun statement member => ?_, exists_congr fun answer => ?_⟩
  · rcases List.mem_append.mp member with early | late
    · exact .inl (ends statement early)
    · obtain ⟨endings, ends', shape⟩ := verbs_of_dropped guard
      rcases shape with shape | ⟨answer, shape⟩
      · exact .inl (ends' statement (shape ▸ late))
      · rw [shape, List.mem_append, List.mem_singleton] at late
        rcases late with ending | rfl
        · exact .inl (ends' statement ending)
        · exact .inr rfl
  · rw [List.mem_append]
    exact or_iff_right fun early => by cases ends _ early

theorem finish_refused (bound : Bound world)
    (held : world.maps.slot world.handle.xaId = some (.active xa))
    (refused : ¬ driver.Accepts xa.connId xa.engineId xa.xid .finish world.maps.history) :
    ∃ maps asked, world.finish driver = (false, moved world .failed maps asked) ∧
      Gone (moved world .failed maps asked)
        (FoundBehindEnd driver xa world.maps.history) := by
  obtain ⟨active, supported⟩ := bound.sound.handles _ _ held
  obtain ⟨error, ran⟩ := XaTransaction.finish_error active refused
  have has : (XaHandle.active xa).call driver Entry.finish.method =
      some (xa.finish driver >>= fun next => pure (some (.preparing next))) := rfl
  obtain ⟨maps, asked, -, grown, -, updates, same⟩ := call_reaches bound.sound held has ran .idle
  obtain ⟨only, sends⟩ := rolls_of_dropped active supported
    (behindVerb_grows driver xa.connId xa.engineId xa.xid world.maps.history) rfl grown
  refine ⟨maps, asked, same, ?_⟩
  exact gone_of_rolls (bound.early_active held) (updates.sound bound.sound (by rintro _ ⟨⟩))
    (by rw [updates.slots, if_pos rfl]; rfl) only sends .failed

/-- The handle's `rollback` while the branch is active. -/
theorem rollback_active (bound : Bound world)
    (held : world.maps.slot world.handle.xaId = some (.active xa)) :
    ∃ state maps asked, (world.rollback driver).2 = moved world state maps asked ∧
      Gone (moved world state maps asked)
        (FoundBehindEnd driver xa world.maps.history) := by
  obtain ⟨active, supported⟩ := bound.sound.handles _ _ held
  have has : (XaHandle.active xa).call driver Entry.rollbackActive.method =
      some (xa.rollback driver >>= fun _ => pure none) := rfl
  rcases ran : (xa.rollback driver).perform world.maps.history with ⟨answer, after⟩
  obtain ⟨maps, asked, -, grown, -, updates, same⟩ :=
    call_reaches bound.sound held has ran .rolledBack
  obtain ⟨front, before, ends⟩ :=
    behindVerb_grows driver xa.connId xa.engineId xa.xid world.maps.history
  obtain ⟨sql, back, -, later, sent⟩ := xa.verbs_runAndRestore driver .rollback
    (driver.behindVerb xa.connId xa.engineId xa.xid .finish world.maps.history) supported
    (by rintro ⟨⟩)
  rw [← XaTransaction.perform_rollback active, ran] at later
  rw [show after = _ from later, before, List.append_assoc, List.append_cancel_left_eq] at grown
  refine ⟨_, maps, asked, congrArg Prod.snd same, ?_⟩
  rw [left_map_none] at updates
  refine gone_of_rolls (bound.early_active held) (updates.sound bound.sound (by rintro _ ⟨⟩))
    (by rw [updates.slots, if_pos rfl]) ?_ ?_ _
  · rw [← grown, verbs_append, sent]
    intro statement member
    rcases List.mem_append.mp member with early | late
    · exact .inl (ends statement early)
    · split_ifs at late
      · rw [List.mem_singleton.mp late]
        exact .inr rfl
      · cases late
  · rw [← grown, verbs_append, sent]
    constructor
    · rintro ⟨answer, member⟩
      rcases List.mem_append.mp member with early | late
      · cases ends _ early
      · split_ifs at late with found
        · exact found
        · cases late
    · intro found
      rw [FoundBehindEnd] at found
      rw [if_pos found]
      exact ⟨_, List.mem_append_right _ (List.mem_singleton_self _)⟩

theorem commitOnePhase_refused (bound : Bound world)
    (held : world.maps.slot world.handle.xaId = some (.active xa))
    (refused : ¬ driver.Accepts xa.connId xa.engineId xa.xid .finish world.maps.history) :
    ∃ maps asked, world.commitOnePhase driver = (false, moved world .failed maps asked) ∧
      Gone (moved world .failed maps asked)
        (FoundBehindEnd driver xa world.maps.history) := by
  obtain ⟨active, supported⟩ := bound.sound.handles _ _ held
  obtain ⟨error, ran⟩ := XaTransaction.commitOnePhase_error active refused
  have has : (XaHandle.active xa).call driver Entry.commitOnePhase.method =
      some (xa.commitOnePhase driver >>= fun _ => pure none) := rfl
  obtain ⟨maps, asked, -, grown, -, updates, same⟩ :=
    call_reaches bound.sound held has ran .committed
  obtain ⟨only, sends⟩ := rolls_of_dropped active supported
    (behindVerb_grows driver xa.connId xa.engineId xa.xid world.maps.history) rfl grown
  refine ⟨maps, asked, same, ?_⟩
  exact gone_of_rolls (bound.early_active held) (updates.sound bound.sound (by rintro _ ⟨⟩))
    (by rw [updates.slots, if_pos rfl]; rfl) only sends .failed

/-- Behind an `END` that was accepted the branch is committed, or it is lost sight of. -/
theorem commitOnePhase_accepted (bound : Bound world)
    (held : world.maps.slot world.handle.xaId = some (.active xa))
    (accepted : driver.Accepts xa.connId xa.engineId xa.xid .finish world.maps.history) :
    (driver.Accepts xa.connId xa.engineId xa.xid (.commit true)
        (driver.behindVerb xa.connId xa.engineId xa.xid .finish world.maps.history) →
      (world.commitOnePhase driver).1 = true ∧ Committed (world.commitOnePhase driver).2.sent) ∧
    (¬ driver.Accepts xa.connId xa.engineId xa.xid (.commit true)
        (driver.behindVerb xa.connId xa.engineId xa.xid .finish world.maps.history) →
      ∃ maps asked, world.commitOnePhase driver = (false, moved world .failed maps asked) ∧
        Gone (moved world .failed maps asked) False) := by
  obtain ⟨active, supported⟩ := bound.sound.handles _ _ held
  have ran := XaTransaction.commitOnePhase_ended active accepted
  have commits := (perform_runOnConn driver xa.connId xa.engineId xa.xid (.commit true)
    (driver.behindVerb xa.connId xa.engineId xa.xid .finish world.maps.history)).2
  rw [← perform_runAndRestore] at commits
  obtain ⟨front, before, ends⟩ :=
    behindVerb_grows driver xa.connId xa.engineId xa.xid world.maps.history
  obtain ⟨back, later, statement⟩ := XaTransaction.logs_runAndRestore driver xa (.commit true)
    (driver.behindVerb xa.connId xa.engineId xa.xid .finish world.maps.history)
  generalize (xa.runAndRestore driver (.commit true)).perform
    (driver.behindVerb xa.connId xa.engineId xa.xid .finish world.maps.history) = outcome
    at ran commits later statement
  obtain ⟨answer, after⟩ := outcome
  have has : (XaHandle.active xa).call driver Entry.commitOnePhase.method =
      some (xa.commitOnePhase driver >>= fun _ => pure none) := rfl
  obtain ⟨maps, asked, -, grown, -, updates, same⟩ :=
    call_reaches bound.sound held has ran .committed
  rw [show after = _ from later, before, List.append_assoc, List.append_cancel_left_eq] at grown
  constructor
  · intro commit
    obtain rfl : answer = .ok () := commits.mpr commit
    rw [XaWorld.commitOnePhase, same]
    refine ⟨rfl, true, ?_⟩
    have done := done_of_ran (by rintro ⟨⟩) statement
    rw [moved, ← grown, verbs_append, verbs_append]
    exact List.mem_append_right _ (List.mem_append_right _ done)
  · intro refused
    cases answer with
    | ok _ => exact absurd (commits.mp rfl) refused
    | error error =>
        refine ⟨maps, asked, same, ?_⟩
        have only : ∀ statement ∈ verbs asked,
            statement.1 = .finish ∨ statement.1 = .commit true := by
          rw [← grown, verbs_append]
          intro sent member
          rcases List.mem_append.mp member with early | late
          · exact .inl (ends sent early)
          · rcases verbs_of_ran statement with nothing | ⟨answer, one, -⟩
            · rw [nothing] at late
              cases late
            · rw [one] at late
              rw [List.mem_singleton.mp late]
              exact .inr rfl
        refine gone_of_asked (bound.early_active held)
          (updates.sound bound.sound (by rintro _ ⟨⟩)) (by rw [updates.slots, if_pos rfl]; rfl)
          (fun member => by rcases only _ member with ⟨⟨⟩⟩ | ⟨⟨⟩⟩)
          (fun _ => iff_false_intro ?_) .failed
        rintro (member | ⟨error, member⟩)
        · rcases only _ member with wrong | wrong
          · cases wrong
          · cases wrong
        · rcases only _ member with wrong | wrong
          · cases wrong
          · cases wrong

theorem prepare_idle (bound : Bound world)
    (held : world.maps.slot world.handle.xaId = some (.preparing ⟨xa⟩)) :
    (driver.Accepts xa.connId xa.engineId xa.xid .prepare world.maps.history →
      ∃ prepared, world.prepare driver = (true, prepared) ∧ Bound prepared ∧
        WasPrepared prepared) ∧
    (¬ driver.Accepts xa.connId xa.engineId xa.xid .prepare world.maps.history →
      ∃ maps asked, world.prepare driver = (false, moved world .failed maps asked) ∧
        Gone (moved world .failed maps asked)
          (driver.Loses xa.connId xa.engineId xa.xid world.maps.history)) := by
  obtain ⟨idle, supported⟩ := bound.sound.handles _ _ held
  have accepts := (perform_runOnConn driver xa.connId xa.engineId xa.xid .prepare
    world.maps.history).2
  obtain ⟨-, result⟩ := PreparingXa.perform_prepare driver world.maps.history idle
  obtain ⟨asked', later, loses⟩ :=
    PreparingXa.prepare_loses driver world.maps.history idle supported
  obtain ⟨asked'', later', statement⟩ :=
    PreparingXa.logs_prepare driver idle world.maps.history
  obtain rfl := List.append_cancel_left (later.symm.trans later')
  rw [perform_runAndRestore] at result
  rcases ran : (PreparingXa.prepare driver ⟨xa⟩).perform world.maps.history with ⟨answer, after⟩
  rw [ran] at result later statement
  have has : (XaHandle.preparing ⟨xa⟩).call driver Entry.prepare.method =
      some (PreparingXa.prepare driver ⟨xa⟩ >>= fun next => pure (some (.prepared next))) := rfl
  obtain ⟨maps, asked, -, grown, uses, updates, same⟩ :=
    call_reaches bound.sound held has ran .prepared
  obtain rfl := List.append_cancel_left (grown.symm.trans later)
  constructor
  · intro accepted
    rw [accepts.mpr accepted] at result
    obtain rfl : answer = .ok _ := result
    refine ⟨_, same, bound.used _ held uses updates, .inl ?_⟩
    cases uses with
    | prepared prepared =>
        rw [moved, verbs_append]
        exact List.mem_append_right _ (done_of_ran (by rintro ⟨⟩) prepared)
  · intro refused
    cases answer with
    | ok ready =>
        refine absurd (accepts.mp ?_) refused
        rcases said : ((driver.runOnConn xa.connId xa.engineId xa.xid .prepare).perform
          world.maps.history).1 with error | _
        · rw [said] at result
          cases result
        · rfl
    | error error =>
        refine ⟨maps, asked, same, ?_⟩
        cases statement with
        | failed failed =>
            have only : ∀ sent ∈ verbs asked, sent.1 = .prepare ∧ sent.2 ≠ .done := by
              intro sent member
              rcases verbs_of_ran failed with nothing | ⟨answer, one, refused⟩
              · rw [nothing] at member
                cases member
              · rw [one] at member
                rw [List.mem_singleton.mp member]
                refine ⟨rfl, ?_⟩
                rintro rfl
                cases refused
            refine gone_of_asked (bound.early_preparing held)
              (updates.sound bound.sound (by rintro _ ⟨⟩)) (by rw [updates.slots, if_pos rfl]; rfl)
              (fun member => (only _ member).2 rfl) (fun _ => ?_) .failed
            rw [← loses]
            exact or_iff_right fun member => by cases (only _ member).1

/-- Only the handle's state has changed. -/
def restated (world : XaWorld) (state : Dart.XaState) : XaWorld :=
  { world with handle := { world.handle with state } }

theorem misses_active (sound : world.maps.Sound)
    (inactive : ∀ xa, world.maps.slot world.handle.xaId ≠ some (.active xa))
    (active : entry = .finish ∨ entry = .commitOnePhase ∨ entry = .rollbackActive)
    (next : Dart.XaState) : world.call driver entry next = (false, restated world .failed) := by
  refine call_missing sound (fun owned held => ?_) next
  cases owned with
  | active xa => exact absurd held (inactive xa)
  | preparing idle => rcases active with rfl | rfl | rfl <;> rfl
  | prepared ready => rcases active with rfl | rfl | rfl <;> rfl

theorem misses_prepared (sound : world.maps.Sound)
    (unready : ∀ ready, world.maps.slot world.handle.xaId ≠ some (.prepared ready))
    (second : entry = .commitPrepared ∨ entry = .rollbackPrepared) (next : Dart.XaState) :
    world.call driver entry next = (false, restated world .failed) := by
  refine call_missing sound (fun owned held => ?_) next
  cases owned with
  | active xa => rcases second with rfl | rfl <;> rfl
  | preparing idle => rcases second with rfl | rfl <;> rfl
  | prepared ready => exact absurd held (unready ready)

/-- A second phase that succeeds has committed. -/
theorem committed_of_commitPrepared (bound : Bound world)
    (success : (world.commitPrepared driver).1 = true) :
    Committed (world.commitPrepared driver).2.sent := by
  by_cases ready : ∃ prepared, world.maps.slot world.handle.xaId = some (.prepared prepared)
  · obtain ⟨prepared, held⟩ := ready
    obtain ⟨back, later, statement⟩ :=
      PreparedXa.logs_commit driver (bound.sound.handles _ _ held) world.maps.history
    rcases ran : (prepared.commit driver).perform world.maps.history with ⟨answer, after⟩
    rw [ran] at later statement
    have has : (XaHandle.prepared prepared).call driver Entry.commitPrepared.method =
        some (prepared.commit driver >>= fun _ => pure none) := rfl
    obtain ⟨maps, asked, -, grown, -, -, same⟩ :=
      call_reaches bound.sound held has ran .committed
    obtain rfl := List.append_cancel_left (grown.symm.trans later)
    rw [XaWorld.commitPrepared, same] at success ⊢
    cases answer with
    | error error => cases success
    | ok _ =>
        refine ⟨false, ?_⟩
        rw [moved, verbs_append]
        exact List.mem_append_right _ (done_of_ran (by rintro ⟨⟩) statement)
  · have unready : ∀ prepared, world.maps.slot world.handle.xaId ≠ some (.prepared prepared) :=
      fun prepared held => ready ⟨prepared, held⟩
    rw [XaWorld.commitPrepared, misses_prepared bound.sound unready (.inl rfl)] at success
    cases success

theorem WasPrepared.call (prepared : WasPrepared world) (next : Dart.XaState) :
    WasPrepared (world.call driver entry next).2 := by
  obtain ⟨state, same⟩ := call_snd driver world entry next
  rw [same]
  exact prepared.later _

end

end OdbcFast.Verification
