import OdbcFast.Native.Ffi.XaSlots
import OdbcFast.Verification.PreparedBranches

/-!
# Branches in the maps of the C interface

An identifier is in one map at most. A call that fails has taken the handle out of its map
and puts nothing back, so a branch stays within reach exactly as long as the server does what
it is asked for.
-/

namespace OdbcFast.Verification

open Wire OdbcFast.Native OdbcFast.Native.Engine OdbcFast.Native.XaMaps

/-- The server has refused the `PREPARE` and rolled the branch back. -/
def LeftNothing (sent : List XaRecord) : Prop :=
  ∃ error, (.prepare, .refused error true) ∈ verbs sent

/-- A `COMMIT` or a `ROLLBACK` was done, or nothing is left of the branch. -/
def Resolved (sent : List XaRecord) : Prop :=
  (∃ statement ∈ verbs sent, finishedBy statement) ∨ LeftNothing sent

/-- The calls that are to be made again when they fail. -/
def retries : Entry → Bool
  | .finish | .prepare | .commitPrepared | .rollbackPrepared => true
  | .commitOnePhase | .rollbackActive => false

/-- A branch leaves the maps by a call that resolves it, and a call that fails and may be
made again leaves the branch where it can be. -/
structure KeepsSlots (state next : XaMaps) (output : Output) : Prop where
  leaves : ∀ xaId, state.HasSlot xaId → ¬ next.HasSlot xaId →
    ∃ entry, output.event = .call entry xaId ∧ Resolved output.sent
  retry : ∀ entry xaId message, output.event = .call entry xaId → retries entry →
    output.reply = .failed message → state.HasSlot xaId →
      next.HasSlot xaId ∨ entry = .prepare ∧ LeftNothing output.sent

/-- The driver's answers let a call keep its branch or resolve it: the verb is accepted, or
`PREPARE` is refused with the branch, or the drop guard behind a refused `END` of a one-phase
commit gets its `ROLLBACK` done. -/
def Accepted (driver : XaDriver) (entry : Entry) (owned : XaHandle) (history : List XaRecord) :
    Prop :=
  match entry, owned with
  | .finish, .active xa => driver.Accepts xa.connId xa.engineId xa.xid .finish history
  | .prepare, .preparing ⟨xa⟩ =>
    driver.Accepts xa.connId xa.engineId xa.xid .prepare history ∨
      driver.Loses xa.connId xa.engineId xa.xid history
  | .commitPrepared, .prepared xa =>
    driver.Accepts xa.connId xa.engineId xa.xid (.commit false) history
  | .rollbackPrepared, .prepared xa =>
    driver.Accepts xa.connId xa.engineId xa.xid .rollbackPrepared history
  | .commitOnePhase, .active xa =>
    let ended := driver.behindVerb xa.connId xa.engineId xa.xid .finish history
    driver.Accepts xa.connId xa.engineId xa.xid .finish history ∧
        driver.Accepts xa.connId xa.engineId xa.xid (.commit true) ended ∨
      ¬ driver.Accepts xa.connId xa.engineId xa.xid .finish history ∧
        driver.GuardRollsBack xa.connId xa.engineId xa.xid ended
  | .rollbackActive, .active xa =>
    driver.Accepts xa.connId xa.engineId xa.xid .rollback
      (driver.behindVerb xa.connId xa.engineId xa.xid .finish history)
  | _, _ => True

/-- What a step needs: a call that finds the branch where it looks for it is accepted. -/
def Answers (driver : XaDriver) : Event → XaMaps → Prop
  | .call entry xaId, state => ∀ owned, state.slot xaId = some owned →
      Accepted driver entry owned state.history
  | _, _ => True

/-! ## What resolves a branch -/

section

variable {engineId : EngineId} {verb : XaVerb} {result : Except OdbcError Unit}
  {front back sent : List XaRecord}

/-- `END` resolves nothing. -/
theorem resolved_append_iff (ends : ∀ ending ∈ verbs front, ending.1 = XaVerb.finish) :
    Resolved (front ++ back) ↔ Resolved back := by
  have none : ∀ statement ∈ verbs front, ¬ finishedBy statement := by
    intro statement member
    simp [finishedBy, ends statement member, finishesBranch]
  rw [Resolved, LeftNothing, verbs_append, Resolved, LeftNothing]
  refine or_congr ⟨?_, ?_⟩ ⟨?_, ?_⟩
  · rintro ⟨statement, member, finished⟩
    refine ⟨statement, (List.mem_append.mp member).resolve_left fun early => ?_, finished⟩
    exact none statement early finished
  · rintro ⟨statement, member, finished⟩
    exact ⟨statement, List.mem_append_right _ member, finished⟩
  · rintro ⟨error, member⟩
    refine ⟨error, (List.mem_append.mp member).resolve_left fun early => ?_⟩
    cases ends _ early
  · rintro ⟨error, member⟩
    exact ⟨error, List.mem_append_right _ member⟩

/-- A verb that finishes the branch resolves it when it succeeds. -/
theorem resolved_of_ran (ran : Ran engineId verb result sent) (finishes : finishesBranch verb) :
    Resolved sent ↔ result = .ok () := by
  have other : verb ≠ .prepare := by
    rintro rfl
    cases finishes
  have speaks : verb ≠ .finish := by
    rintro rfl
    cases finishes
  have nothing : verbs sent = [] → (Resolved sent ↔ False) := by
    intro nothing
    simp [Resolved, LeftNothing, nothing]
  cases ran with
  | unreached _ quiet =>
      rw [nothing quiet]
      exact ⟨False.elim, by rintro ⟨⟩⟩
  | applied applied =>
      cases applied with
      | unsupported _ quiet =>
          rw [nothing quiet]
          exact ⟨False.elim, by rintro ⟨⟩⟩
      | silent isSilent _ => exact absurd isSilent.2 speaks
      | answered answer _ _ statement =>
          rw [result_eq_ok, Resolved, LeftNothing, statement]
          simp [finishedBy, finishes, other.symm]

/-- A drop guard resolves a branch by its `ROLLBACK`. -/
theorem resolved_of_dropped (dropped : Dropped engineId sent) :
    Resolved sent ↔ (.rollback, .done) ∈ verbs sent := by
  rw [Resolved, LeftNothing]
  cases dropped with
  | unreached _ nothing => simp [nothing]
  | unsupported _ nothing => simp [nothing]
  | silent answer _ statement =>
      simp only [statement, finishedBy, finishesBranch]
      simpa using eq_comm
  | ended ending answer _ statements =>
      simp only [statements, finishedBy, finishesBranch]
      simpa using eq_comm

end

/-- Before the verb that a method is about, only `END` was sent. -/
theorem behindVerb_grows (driver : XaDriver) (connId : Nat) (engineId : EngineId) (xid : Xid)
    (history : List XaRecord) :
    ∃ sent, driver.behindVerb connId engineId xid .finish history = history ++ sent ∧
      ∀ ending ∈ verbs sent, ending.1 = XaVerb.finish := by
  obtain ⟨sent, grown, ran⟩ := logs_runOnConn driver connId engineId xid .finish history
  rw [(perform_runOnConn driver connId engineId xid .finish history).1] at grown
  exact ⟨sent, grown, endings_of_ran ran⟩

/-! ## Each call -/

/-- The result of a call keeps the branch or resolves it. -/
def KeptSlot (entry : Entry) (result : Except OdbcError (Option XaHandle)) (sent : List XaRecord) :
    Prop :=
  match result with
  | .ok left => left = none → Resolved sent
  | .error _ =>
    if retries entry then entry = .prepare ∧ LeftNothing sent else Resolved sent

section

variable {driver : XaDriver} {history : List XaRecord}

/-- A call that leaves nothing of the handle. -/
theorem kept_consumed {entry : Entry} {call : XaM Unit} {sent : List XaRecord}
    (resolved : Resolved sent ↔ (call.perform history).1 = .ok ())
    (unresolved : retries entry → entry ≠ .prepare) :
    KeptSlot entry ((call >>= fun _ => pure none).perform history).1 sent ↔
      (call.perform history).1 = .ok () := by
  rcases ran : call.perform history with ⟨error | _, after⟩
  · rw [ran] at resolved
    rw [Fallible.perform_bind_error ran, KeptSlot]
    split_ifs with again
    · constructor
      · exact fun kept => absurd kept.1 (unresolved again)
      · rintro ⟨⟩
    · simpa using resolved
  · rw [ran] at resolved
    rw [Fallible.perform_bind_ok ran]
    exact ⟨fun _ => rfl, fun _ _ => resolved.mpr rfl⟩

/-- What is made of an answer is not written down. -/
theorem perform_map_snd {α : Type} {call : XaM α} {next : α → Option XaHandle} :
    ((call >>= fun value => pure (next value)).perform history).2 = (call.perform history).2 := by
  rcases ran : call.perform history with ⟨error | value, after⟩
  · rw [Fallible.perform_bind_error ran]
  · rw [Fallible.perform_bind_ok ran]
    rfl

/-- A verb in the place of the handle, resolved by its success. -/
theorem kept_of_logs {entry : Entry} {call : XaM Unit} {sent : List XaRecord}
    {engineId : EngineId} {verb : XaVerb}
    (logs : Fallible.Logs (Ran engineId verb) call) (finishes : finishesBranch verb)
    (unresolved : retries entry → entry ≠ .prepare)
    (grown : ((call >>= fun _ => pure (none : Option XaHandle)).perform history).2 =
      history ++ sent) :
    KeptSlot entry ((call >>= fun _ => pure none).perform history).1 sent ↔
      (call.perform history).1 = .ok () := by
  obtain ⟨sent', grown', ran⟩ := logs history
  obtain rfl := List.append_cancel_left ((grown.symm.trans perform_map_snd).trans grown')
  exact kept_consumed (resolved_of_ran ran finishes) unresolved

/-- A call that is not made again. -/
theorem kept_unretried {entry : Entry} {call : XaM Unit} {sent : List XaRecord}
    (last : retries entry = false) :
    KeptSlot entry ((call >>= fun _ => pure none).perform history).1 sent ↔ Resolved sent := by
  rcases ran : call.perform history with ⟨error | _, after⟩
  · rw [Fallible.perform_bind_error ran, KeptSlot, last]
    rfl
  · rw [Fallible.perform_bind_ok ran]
    exact ⟨fun kept => kept rfl, fun resolved _ => resolved⟩

theorem kept_commitOnePhase {xa : XaTransaction} {sent : List XaRecord}
    (active : xa.state = .active)
    (grown : ((xa.commitOnePhase driver).perform history).2 = history ++ sent) :
    Resolved sent ↔ Accepted driver .commitOnePhase (.active xa) history := by
  obtain ⟨front, before, ends⟩ :=
    behindVerb_grows driver xa.connId xa.engineId xa.xid history
  rw [Accepted]
  by_cases accepted : driver.Accepts xa.connId xa.engineId xa.xid .finish history
  · rw [XaTransaction.commitOnePhase_ended active accepted] at grown
    obtain ⟨back, after, ran⟩ := XaTransaction.logs_runAndRestore driver xa (.commit true)
      (driver.behindVerb xa.connId xa.engineId xa.xid .finish history)
    rw [after, before, List.append_assoc, List.append_cancel_left_eq] at grown
    rw [← grown, resolved_append_iff ends, resolved_of_ran ran rfl]
    simp only [accepted, true_and, not_true_eq_false, false_and, or_false]
    exact (perform_runOnConn driver _ _ _ _ _).2
  · obtain ⟨error, ran⟩ := XaTransaction.commitOnePhase_error active accepted
    obtain ⟨back, after, rolls⟩ : ∃ back, ((xa.drop driver).perform
        (driver.behindVerb xa.connId xa.engineId xa.xid .finish history)).2 =
          driver.behindVerb xa.connId xa.engineId xa.xid .finish history ++ back ∧
        ((.rollback, .done) ∈ verbs back ↔ driver.GuardRollsBack xa.connId xa.engineId xa.xid
          (driver.behindVerb xa.connId xa.engineId xa.xid .finish history)) :=
      XaTransaction.drop_rolls_back (.inl active)
    obtain ⟨back', after', -, dropped⟩ := XaTransaction.logs_drop driver (.inl active)
      (driver.behindVerb xa.connId xa.engineId xa.xid .finish history)
    obtain rfl := List.append_cancel_left (after.symm.trans after')
    rw [ran, after, before, List.append_assoc, List.append_cancel_left_eq] at grown
    rw [← grown, resolved_append_iff ends, resolved_of_dropped dropped, rolls]
    simp only [accepted, false_and, not_false_eq_true, true_and, false_or]

theorem kept_rollbackActive {xa : XaTransaction} {sent : List XaRecord}
    (active : xa.state = .active)
    (grown : ((xa.rollback driver).perform history).2 = history ++ sent) :
    Resolved sent ↔ Accepted driver .rollbackActive (.active xa) history := by
  obtain ⟨front, before, ends⟩ :=
    behindVerb_grows driver xa.connId xa.engineId xa.xid history
  rw [XaTransaction.perform_rollback active] at grown
  obtain ⟨back, after, ran⟩ := XaTransaction.logs_runAndRestore driver xa .rollback
    (driver.behindVerb xa.connId xa.engineId xa.xid .finish history)
  rw [after, before, List.append_assoc, List.append_cancel_left_eq] at grown
  rw [← grown, resolved_append_iff ends, resolved_of_ran ran rfl]
  exact (perform_runOnConn driver _ _ _ _ _).2

/-- The answers of the driver decide whether a call keeps its branch. -/
theorem kept_iff {entry : Entry} {owned : XaHandle} {call : XaM (Option XaHandle)}
    {sent : List XaRecord} (sound : owned.Sound)
    (has : owned.call driver entry.method = some call)
    (grown : (call.perform history).2 = history ++ sent) :
    KeptSlot entry (call.perform history).1 sent ↔ Accepted driver entry owned history := by
  cases entry with
  | finish =>
      cases owned <;> cases has
      rename_i xa
      rw [Accepted]
      by_cases accepted : driver.Accepts xa.connId xa.engineId xa.xid .finish history
      · rw [Fallible.perform_bind_ok (XaTransaction.finish_ok sound.1 accepted)]
        exact ⟨fun _ => accepted, fun _ => by rintro ⟨⟩⟩
      · obtain ⟨error, ran⟩ := XaTransaction.finish_error sound.1 accepted
        rw [Fallible.perform_bind_error ran]
        exact ⟨fun kept => (by cases kept.1), fun accepts => absurd accepts accepted⟩
  | prepare =>
      cases owned <;> cases has
      rename_i preparing
      obtain ⟨idle, supported⟩ := sound
      obtain ⟨sent', grown', loses⟩ := PreparingXa.prepare_loses driver history idle supported
      obtain rfl := List.append_cancel_left ((grown.symm.trans perform_map_snd).trans grown')
      obtain ⟨-, result⟩ := PreparingXa.perform_prepare driver history idle
      have accepts := (perform_runOnConn driver preparing.inner.connId preparing.inner.engineId
        preparing.inner.xid .prepare history).2
      rw [perform_runAndRestore] at result
      rw [Accepted, ← accepts, ← loses]
      rcases ran : (preparing.prepare driver).perform history with ⟨error | next, after⟩
      · rw [ran] at result
        rcases said : ((driver.runOnConn preparing.inner.connId preparing.inner.engineId
          preparing.inner.xid .prepare).perform history).1 with error' | _
        · rw [Fallible.perform_bind_error ran]
          exact ⟨fun kept => .inr kept.2, fun either => ⟨rfl, either.resolve_left (by rintro ⟨⟩)⟩⟩
        · rw [said] at result
          cases result
      · rw [ran] at result
        rcases said : ((driver.runOnConn preparing.inner.connId preparing.inner.engineId
          preparing.inner.xid .prepare).perform history).1 with error' | _
        · rw [said] at result
          cases result
        · rw [Fallible.perform_bind_ok ran]
          exact ⟨fun _ => .inl rfl, fun _ => by rintro ⟨⟩⟩
  | commitPrepared =>
      cases owned <;> cases has
      rename_i prepared
      rw [kept_of_logs (PreparedXa.logs_commit driver sound) rfl (fun _ => by rintro ⟨⟩) grown,
        PreparedXa.perform_commit driver history sound]
      exact (perform_runOnConn driver _ _ _ _ _).2
  | rollbackPrepared =>
      cases owned <;> cases has
      rename_i prepared
      rw [kept_of_logs (PreparedXa.logs_rollback driver sound) rfl (fun _ => by rintro ⟨⟩) grown,
        PreparedXa.perform_rollback driver history sound]
      exact (perform_runOnConn driver _ _ _ _ _).2
  | commitOnePhase =>
      cases owned <;> cases has
      rename_i xa
      rw [perform_map_snd] at grown
      rw [kept_unretried rfl, kept_commitOnePhase sound.1 grown]
  | rollbackActive =>
      cases owned <;> cases has
      rename_i xa
      rw [perform_map_snd] at grown
      rw [kept_unretried rfl, kept_rollbackActive sound.1 grown]

/-- A branch that is not where the call looks for it needs no answer. -/
theorem accepted_of_other {entry : Entry} {owned : XaHandle}
    (other : owned.call driver entry.method = none) : Accepted driver entry owned history := by
  cases entry <;> cases owned <;> first | exact trivial | cases other

end

/-! ## Each step -/

section

variable {driver : XaDriver} {state : XaMaps}

/-- A call that consumes a handle, seen from outside. -/
theorem keepsSlots_consumed_iff {entry : Entry} {xaId : Nat} {owned : XaHandle}
    {result : Except OdbcError (Option XaHandle)} {next : XaMaps} {reply : XaReply}
    {sent : List XaRecord} (held : state.slot xaId = some owned)
    (updates : Updates state xaId (left result) next)
    (told : (reply = .done ∧ ∃ handle, result = .ok handle) ∨
      ∃ message error, reply = .failed message ∧ result = .error error) :
    KeepsSlots state next ⟨.call entry xaId, reply, sent⟩ ↔ KeptSlot entry result sent := by
  have slots : ∀ other, next.HasSlot other ↔
      (if other = xaId then left result else state.slot other).isSome := by
    intro other
    rw [hasSlot_iff, updates.slots]
  have here : state.HasSlot xaId := hasSlot_iff.mpr (by rw [held]; rfl)
  have others : ∀ other, state.HasSlot other → ¬ next.HasSlot other → other = xaId := by
    intro other before gone
    by_contra different
    rw [slots, if_neg different, ← hasSlot_iff] at gone
    exact gone before
  have stays : next.HasSlot xaId ↔ (left result).isSome := by rw [slots, if_pos rfl]
  rcases told with ⟨rfl, handle, rfl⟩ | ⟨message, error, rfl, rfl⟩
  · constructor
    · intro keeps gone
      obtain ⟨_, -, resolved⟩ := keeps.leaves xaId here (by rw [stays]; simp [left, gone])
      exact resolved
    · refine fun kept => ⟨fun other before gone => ?_, by rintro _ _ _ - - ⟨⟩⟩
      obtain rfl := others other before gone
      refine ⟨entry, rfl, kept ?_⟩
      rw [stays] at gone
      simpa [left] using gone
  · have gone : ¬ next.HasSlot xaId := by
      rw [stays]
      exact Bool.false_ne_true
    constructor
    · intro keeps
      rw [KeptSlot]
      split_ifs with again
      · exact (keeps.retry entry xaId message rfl again rfl here).resolve_left gone
      · obtain ⟨_, -, resolved⟩ := keeps.leaves xaId here gone
        exact resolved
    · intro kept
      rw [KeptSlot] at kept
      refine ⟨fun other before left => ?_, ?_⟩
      · obtain rfl := others other before left
        refine ⟨entry, rfl, ?_⟩
        split_ifs at kept
        · exact .inr kept.2
        · exact kept
      · rintro entry' xaId' message' ⟨⟩ again ⟨⟩ -
        rw [if_pos again] at kept
        exact .inr kept

theorem keepsSlots_iff (sound : state.Sound) (event : Event) :
    (∀ next output, step driver event state = some (next, output) →
      KeepsSlots state next output) ↔ Answers driver event state := by
  have only : (∀ next output, step driver event state = some (next, output) →
      KeepsSlots state next output) ↔ KeepsSlots state (state.act driver event).2
        ⟨event, (state.act driver event).1,
          (state.act driver event).2.history.drop state.history.length⟩ := by
    refine ⟨fun keeps => keeps _ _ rfl, ?_⟩
    rintro keeps next output ⟨⟩
    exact keeps
  rw [only]
  by_cases calls : ∃ entry xaId, event = .call entry xaId
  · obtain ⟨entry, xaId, rfl⟩ := calls
    have acts := acts_call driver sound entry xaId
    rw [act]
    generalize (entry.call driver xaId state).1 = reply at acts ⊢
    generalize (entry.call driver xaId state).2 = next at acts ⊢
    cases acts with
    | missing other =>
        refine ⟨fun _ owned held => accepted_of_other (other owned held), fun _ => ?_⟩
        exact ⟨fun other before gone => absurd before gone, fun _ other _ told _ _ here =>
          .inl (by cases told; exact here)⟩
    | @done owned call handle _ held has ran updates =>
        obtain ⟨sent, grown, -⟩ :=
          XaHandle.logs_call (sound.handles xaId owned held) has state.history
        have kept := kept_iff (sound.handles xaId owned held) has grown
        rw [ran] at grown kept
        rw [show next.history = state.history ++ sent from grown, List.drop_left]
        have updates : Updates state xaId (left (.ok handle)) next := updates
        refine (keepsSlots_consumed_iff held updates (.inl ⟨rfl, handle, rfl⟩)).trans
          (kept.trans ?_)
        exact ⟨fun accepted owned' held' => by cases held.symm.trans held'; exact accepted,
          fun answers => answers owned held⟩
    | @failed owned call error message _ held has ran updates =>
        obtain ⟨sent, grown, -⟩ :=
          XaHandle.logs_call (sound.handles xaId owned held) has state.history
        have kept := kept_iff (sound.handles xaId owned held) has grown
        rw [ran] at grown kept
        rw [show next.history = state.history ++ sent from grown, List.drop_left]
        have updates : Updates state xaId (left (.error error)) next := updates
        refine (keepsSlots_consumed_iff held updates (.inr ⟨message, error, rfl, rfl⟩)).trans
          (kept.trans ?_)
        exact ⟨fun accepted owned' held' => by cases held.symm.trans held'; exact accepted,
          fun answers => answers owned held⟩
  · have other : ∀ entry xaId, event ≠ .call entry xaId :=
      fun entry xaId same => calls ⟨entry, xaId, same⟩
    obtain ⟨-, grows⟩ := grows_act driver sound event other
    have nothing : Answers driver event state := by
      cases event with
      | call entry xaId => exact absurd rfl (other entry xaId)
      | _ => trivial
    refine ⟨fun _ => nothing, fun _ => ⟨fun xaId before gone => ?_, fun entry xaId _ called => ?_⟩⟩
    · obtain ⟨owned, held⟩ := Option.isSome_iff_exists.mp (hasSlot_iff.mp before)
      exact absurd (hasSlot_iff.mpr (by rw [grows xaId owned held]; rfl)) gone
    · exact absurd called (other entry xaId)

end

/-- The next step keeps the slots. -/
def KeepsSlotsAt (driver : XaDriver) (event : Event) (state : XaMaps) : Prop :=
  ∀ next output, step driver event state = some (next, output) → KeepsSlots state next output

theorem sound_noBranches : XaMaps.Sound {} where
  apart _ := ⟨by rintro ⟨⟩, by rintro ⟨⟩⟩
  handles := by rintro xaId owned ⟨⟩

theorem sound_of_step {driver : XaDriver} {event : Event} {state next : XaMaps} {output : Output}
    (sound : state.Sound) (stepped : step driver event state = some (next, output)) :
    next.Sound := by
  cases stepped
  exact sound_act driver sound event

/-- Whatever the calls: an identifier is in one of the maps at most, and every step of a run
keeps the slots exactly when the driver's answers let each call succeed, or leave nothing of
the branch that it loses. -/
theorem slots_kept_iff (driver : XaDriver) (events : List Event) :
    (∀ state log, run (step driver) events {} = some (state, log) →
      ∀ xaId, state.AtMostOne xaId) ∧
    (Along (step driver) (KeepsSlotsAt driver) events {} ↔
      Along (step driver) (Answers driver) events {}) := by
  refine ⟨fun state log ran => ?_, ?_⟩
  · have sound : state.Sound := run_invariant (fun _ state => state.Sound)
      (fun sound stepped => sound_of_step sound stepped) [] sound_noBranches ran
    exact sound.apart
  · exact along_congr XaMaps.Sound (fun sound stepped => sound_of_step sound stepped)
      (fun event sound => keepsSlots_iff sound event) sound_noBranches

/-- A driver that refuses the second phase. -/
def stubbornXa : XaDriver where
  answer _ _
    | .execute _ (.commit false) => .refused (.odbcApi "connection lost") false
    | _ => .done
  engine _ _ := .mySql
  gids _ _ := []
  recoverRows _ _ := []
  pendingRows _ _ := []

/-- The commit of a prepared branch fails, and the branch is in none of the maps. -/
theorem prepared_branch_lost :
    ¬ ∀ (driver : XaDriver) (events : List Event),
      Along (step driver) (KeepsSlotsAt driver) events {} := by
  intro claimed
  have along := claimed stubbornXa [.connected 1, .start 1 1 (some [7]) (some []),
    .call .finish 1, .call .prepare 1, .call .commitPrepared 1]
  have keeps := ((((along.2 _ _ rfl).2 _ _ rfl).2 _ _ rfl).2 _ _ rfl).1 _ _ rfl
  have kept := keeps.retry .commitPrepared 1 _ rfl rfl rfl (by decide)
  rcases kept with slot | ⟨wrong, -⟩
  · exact absurd slot (by decide)
  · cases wrong

end OdbcFast.Verification
