import OdbcFast.Native.Ffi.AsyncRequests
import OdbcFast.Wire.Machine

/-!
# The order of a request's outcomes

A request is pending until its task has a result or it is cancelled, and what came of it
is handed over once. The task does not look at the outcome it replaces: between its
reading of the flag and its write a cancellation is overwritten, and a cancelled request
that was already handed over comes back when its task ends. The order holds along every
run in which no call falls into one of these two gaps.
-/

namespace OdbcFast.Verification

open Wire Native Native.AsyncRequests

/-! ## What is promised -/

/-- The moves of an outcome that lead forward. -/
inductive Forward : AsyncRequestOutcome → AsyncRequestOutcome → Prop where
  | stay (outcome : AsyncRequestOutcome) : Forward outcome outcome
  | complete (result : Except OdbcError Bytes) : Forward .pending (.ready result)
  | cancel : Forward .pending .cancelled
  | consume (result : Except OdbcError Bytes) : Forward (.ready result) .consumed
  | acknowledge : Forward .cancelled .consumed

/-- A step puts back the result that the call under way has taken. -/
def PutsBack (system next : System) (ref : Nat) : Prop :=
  ∃ data, system.call = .restoring ref data ∧ (system.slots ref).outcome = .consumed ∧
    (next.slots ref).outcome = .ready (.ok data)

def isHanded (ref : Nat) : Output → Bool
  | .handed other _ => other = ref
  | _ => false

/-- The request was started and has not been freed. -/
def Live (log : List Output) (id ref : Nat) : Prop :=
  .started id ref ∈ log ∧ ∀ refs, .freed refs ∈ log → ref ∉ refs

/-- What holds of every state that is reached. -/
structure OrderedRequests (log : List Output) (system : System) : Prop where
  cancelled : ∀ ref, .accepted ref true ∈ log → ∀ result, (system.slots ref).outcome ≠ .ready result
  handed_once : ∀ ref, log.countP (isHanded ref) ≤ 1
  nonzero : ∀ id ref, Live log id ref → id ≠ 0
  unique : ∀ id ref ref', Live log id ref → Live log id ref' → ref = ref'
  known : ∀ id ref, Live log id ref ↔ system.manager.requests.lookup id = some ref
  bounded : system.manager.requests.entries.length ≤ AsyncRequestManager.maxAsyncRequests

/-! ## When it holds -/

/-- The task may still write an outcome. -/
def Working : AsyncTask → Prop
  | .done | .aborted => False
  | _ => True

/-- No cancellation is asked for while the task, which found the flag unset, has yet to write, and
a cancelled request is not taken before its task is over. -/
def RequestRule : Event → System → Prop
  | .cancel id, system => ∀ ref, system.manager.requests.lookup id = some ref →
      ∀ result, (system.slots ref).task ≠ .read false result
  | .getResult id _, system => ∀ ref, system.manager.requests.lookup id = some ref →
      (system.slots ref).outcome = .cancelled → ¬ Working (system.slots ref).task
  | _, _ => True

/-! ## One slot -/

/-- The output is about the request behind the slot. -/
def about (ref : Nat) : Output → Bool
  | .accepted other _ => other = ref
  | .handed other _ => other = ref
  | _ => false

/-- What a slot has been part of. -/
def view (ref : Nat) (log : List Output) : List Output := log.filter (about ref)

/-- The call under way, when it is on the slot. -/
def callOn (ref : Nat) : Call → Call
  | .idle => .idle
  | .cancelling other pending => if other = ref then .cancelling other pending else .idle
  | .aborted other pending => if other = ref then .aborted other pending else .idle
  | .restoring other data => if other = ref then .restoring other data else .idle

/-- The cancellation of a request that was pending has been accepted, or is under way. -/
def Asked (ref : Nat) (history : List Output) (call : Call) : Prop :=
  .accepted ref true ∈ history ∨ call = .cancelling ref true ∨ call = .aborted ref true

/-- Only a call of `cancel` asks without having been accepted. -/
theorem Asked.accepted {ref : Nat} {history : List Output} {call : Call}
    (calm : ∀ pending, ¬ (call = .cancelling ref pending ∨ call = .aborted ref pending))
    (asked : Asked ref history call) : .accepted ref true ∈ history :=
  asked.resolve_right (calm true)

theorem calm_idle (ref : Nat) (pending : Bool) :
    ¬ (Call.idle = .cancelling ref pending ∨ Call.idle = .aborted ref pending) := by
  rintro (called | called)
  · cases called
  · cases called

theorem calm_restoring (ref : Nat) (data : Bytes) (pending : Bool) :
    ¬ (Call.restoring ref data = .cancelling ref pending ∨
      Call.restoring ref data = .aborted ref pending) := by
  rintro (called | called)
  · cases called
  · cases called

structure SlotInv (ref : Nat) (history : List Output) (call : Call) (slot : AsyncRequestSlot) :
    Prop where
  working : Working slot.task → slot.outcome = .pending ∨ slot.outcome = .cancelled
  flagged : slot.outcome = .cancelled → slot.cancelled = true
  read_flag : ∀ flag result, slot.task = .read flag result → flag = slot.cancelled
  cancelling : ∀ pending, call = .cancelling ref pending ∨ call = .aborted ref pending →
    slot.cancelled = true
  asked : Asked ref history call →
    slot.cancelled = true ∧ ∀ result, slot.outcome ≠ .ready result
  restoring : ∀ data, call = .restoring ref data →
    slot.outcome = .consumed ∧ .accepted ref true ∉ history ∧ history.countP (isHanded ref) = 0
  handed : history.countP (isHanded ref) ≤ 1 ∧
    (history.countP (isHanded ref) ≠ 0 → slot.outcome = .consumed)

namespace SlotInv

variable {ref : Nat} {history : List Output} {call : Call} {slot : AsyncRequestSlot}

/-- What has not been consumed has not been handed over. -/
theorem not_handed (inv : SlotInv ref history call slot) (held : slot.outcome ≠ .consumed) :
    history.countP (isHanded ref) = 0 := by
  by_contra handed
  exact held (inv.handed.2 handed)

theorem not_working_of_ready (inv : SlotInv ref history call slot)
    {result : Except OdbcError Bytes} (ready : slot.outcome = .ready result) :
    ¬ Working slot.task := by
  intro working
  rcases inv.working working with pending | cancelled
  · cases ready.symm.trans pending
  · cases ready.symm.trans cancelled

theorem not_working_of_consumed (inv : SlotInv ref history call slot)
    (consumed : slot.outcome = .consumed) : ¬ Working slot.task := by
  intro working
  rcases inv.working working with pending | cancelled
  · cases consumed.symm.trans pending
  · cases consumed.symm.trans cancelled

/-- A new slot. -/
theorem fresh (ref connId : Nat) : SlotInv ref [] .idle { connId } where
  working _ := .inl rfl
  flagged := by rintro ⟨⟩
  read_flag := by rintro _ _ ⟨⟩
  cancelling pending called := absurd called (calm_idle ref pending)
  asked asked := absurd (asked.accepted (calm_idle ref)) (List.not_mem_nil)
  restoring := by rintro _ ⟨⟩
  handed := ⟨Nat.zero_le 1, fun some => absurd rfl some⟩

/-- The task is aborted, or moves on without touching anything else. -/
theorem setTask (inv : SlotInv ref history call slot) {task : AsyncTask}
    (worked : Working task → Working slot.task)
    (read : ∀ flag result, task = .read flag result → flag = slot.cancelled) :
    SlotInv ref history call { slot with task } :=
  { inv with working := fun working => inv.working (worked working), read_flag := read }

theorem abort (inv : SlotInv ref history call slot) : SlotInv ref history call slot.abort := by
  rw [AsyncRequestSlot.abort]
  split
  · exact inv.setTask (by rintro ⟨⟩) (by rintro _ _ ⟨⟩)
  · exact inv

theorem outcome_abort (slot : AsyncRequestSlot) : slot.abort.outcome = slot.outcome := by
  rw [AsyncRequestSlot.abort]
  split
  · rfl
  · rfl

theorem working_of_abort (working : Working slot.abort.task) : Working slot.task := by
  rw [AsyncRequestSlot.abort] at working
  split at working
  · cases working
  · exact working

/-- `cancel` sets the flag. -/
theorem flag (inv : SlotInv ref history .idle slot) (pending : Bool)
    (was_pending : pending = true → slot.outcome = .pending)
    (between : ∀ result, slot.task ≠ .read false result) :
    SlotInv ref history (.cancelling ref pending) { slot with cancelled := true } where
  working := inv.working
  flagged _ := rfl
  read_flag flag result read := by
    cases flag with
    | true => rfl
    | false => exact absurd read (between result)
  cancelling _ _ := rfl
  asked := by
    rintro (accepted | called | called)
    · exact ⟨rfl, (inv.asked (.inl accepted)).2⟩
    · cases called
      refine ⟨rfl, fun result ready => ?_⟩
      cases (was_pending rfl).symm.trans ready
    · cases called
  restoring := by rintro _ ⟨⟩
  handed := inv.handed

theorem afterAbort {pending : Bool} (inv : SlotInv ref history (.cancelling ref pending) slot) :
    SlotInv ref history (.aborted ref pending) slot where
  working := inv.working
  flagged := inv.flagged
  read_flag := inv.read_flag
  cancelling _ _ := inv.cancelling pending (.inl rfl)
  asked := by
    rintro (accepted | called | called)
    · exact inv.asked (.inl accepted)
    · cases called
    · cases called
      exact inv.asked (.inr (.inl rfl))
  restoring := by rintro _ ⟨⟩
  handed := inv.handed

/-- `cancel` returns; what was pending has become cancelled. -/
theorem accept {pending : Bool} (inv : SlotInv ref history (.aborted ref pending) slot)
    {outcome : AsyncRequestOutcome}
    (moved : outcome = slot.outcome ∨ slot.outcome = .pending ∧ outcome = .cancelled) :
    SlotInv ref (history ++ [.accepted ref pending]) .idle { slot with outcome } := by
  have flagged := inv.cancelling pending (.inr rfl)
  have counted : (history ++ [Output.accepted ref pending]).countP (isHanded ref) =
      history.countP (isHanded ref) := by
    rw [List.countP_append]
    rfl
  have asked : Asked ref (history ++ [.accepted ref pending]) .idle →
      Asked ref history (.aborted ref pending) := by
    intro now
    rcases List.mem_append.mp (now.accepted (calm_idle ref)) with accepted | accepted
    · exact .inl accepted
    · cases List.mem_singleton.mp accepted
      exact .inr (.inr rfl)
  refine ⟨?_, fun _ => flagged, inv.read_flag, fun pending called => ?_, ?_, by rintro _ ⟨⟩, ?_⟩
  · intro working
    rcases moved with rfl | ⟨-, rfl⟩
    · exact inv.working working
    · exact .inr rfl
  · exact absurd called (calm_idle ref pending)
  · intro now
    refine ⟨flagged, fun result ready => ?_⟩
    rcases moved with rfl | ⟨-, rfl⟩
    · exact (inv.asked (asked now)).2 result ready
    · cases ready
  · rw [counted]
    refine ⟨inv.handed.1, fun handed => ?_⟩
    rcases moved with rfl | ⟨pending, rfl⟩
    · exact inv.handed.2 handed
    · cases pending.symm.trans (inv.handed.2 handed)

/-- The outcome is taken and handed over. -/
theorem hand (inv : SlotInv ref history .idle slot) (finished : ¬ Working slot.task)
    (held : slot.outcome ≠ .consumed) (result : Except OdbcError Bytes) :
    SlotInv ref (history ++ [.handed ref result]) .idle { slot with outcome := .consumed } := by
  have counted : (history ++ [Output.handed ref result]).countP (isHanded ref) = 1 := by
    rw [List.countP_append, inv.not_handed held]
    simp [isHanded]
  refine ⟨fun working => absurd working finished, by rintro ⟨⟩, inv.read_flag, inv.cancelling, ?_,
    by rintro _ ⟨⟩, ?_⟩
  · intro asked
    have accepted : Output.accepted ref true ∈ history := by
      simpa using asked.accepted (calm_idle ref)
    exact ⟨(inv.asked (.inl accepted)).1, by rintro _ ⟨⟩⟩
  · rw [counted]
    exact ⟨Nat.le_refl 1, fun _ => rfl⟩

/-- The outcome is taken and does not fit. -/
theorem take {data : Bytes} (inv : SlotInv ref history .idle slot)
    (ready : slot.outcome = .ready (.ok data)) :
    SlotInv ref history (.restoring ref data) { slot with outcome := .consumed } where
  working working := absurd working (inv.not_working_of_ready ready)
  flagged := by rintro ⟨⟩
  read_flag := inv.read_flag
  cancelling pending called := absurd called (calm_restoring ref data pending)
  asked asked :=
    ⟨(inv.asked (.inl (asked.accepted (calm_restoring ref data)))).1, by rintro _ ⟨⟩⟩
  restoring _ _ :=
    ⟨rfl, fun accepted => (inv.asked (.inl accepted)).2 _ ready,
      inv.not_handed (by rw [ready]; rintro ⟨⟩)⟩
  handed := ⟨inv.handed.1, fun _ => rfl⟩

/-- It is put back. -/
theorem restore {data : Bytes} (inv : SlotInv ref history (.restoring ref data) slot) :
    SlotInv ref history .idle { slot with outcome := .ready (.ok data) } := by
  obtain ⟨consumed, unasked, unhanded⟩ := inv.restoring data rfl
  refine ⟨fun working => absurd working (inv.not_working_of_consumed consumed), by rintro ⟨⟩,
    inv.read_flag, ?_, ?_, by rintro _ ⟨⟩, ?_⟩
  · intro pending called
    exact absurd called (calm_idle ref pending)
  · intro asked
    exact absurd (asked.accepted (calm_idle ref)) unasked
  · rw [unhanded]
    exact ⟨Nat.zero_le 1, fun some => absurd rfl some⟩

/-- The task writes what the flag it read tells it to. -/
theorem write (inv : SlotInv ref history call slot) {flag : Bool}
    {result : Except OdbcError Bytes} (read : slot.task = .read flag result) :
    SlotInv ref history call
      { slot with outcome := if flag then .cancelled else .ready result, task := .done } := by
  have working : Working slot.task := by
    rw [read]
    trivial
  have held : slot.outcome ≠ .consumed := by
    intro consumed
    exact inv.not_working_of_consumed consumed working
  have same := inv.read_flag flag result read
  refine ⟨by rintro ⟨⟩, ?_, by rintro _ _ ⟨⟩, inv.cancelling, ?_, ?_, ?_⟩
  · intro cancelled
    cases flag with
    | true => exact same.symm
    | false => cases cancelled
  · intro asked
    obtain ⟨flagged, -⟩ := inv.asked asked
    refine ⟨flagged, fun other ready => ?_⟩
    rw [same, flagged] at ready
    cases ready
  · intro data called
    cases held (inv.restoring data called).1
  · rw [inv.not_handed held]
    exact ⟨Nat.zero_le 1, fun some => absurd rfl some⟩

end SlotInv

/-! ## The table -/

/-- The output neither starts nor frees a request. -/
def Quiet : Output → Prop
  | .started _ _ | .freed _ => False
  | _ => True

structure TableInv (log : List Output) (requests : HashMap Nat Nat) (allocated : Nat) : Prop where
  started : ∀ id ref, .started id ref ∈ log → id ≠ 0 ∧ ref < allocated
  freed : ∀ refs, .freed refs ∈ log → ∀ ref ∈ refs, ref < allocated
  one_id : ∀ id id' ref, .started id ref ∈ log → .started id' ref ∈ log → id = id'
  known : ∀ id ref, Live log id ref ↔ requests.lookup id = some ref
  bounded : requests.entries.length ≤ AsyncRequestManager.maxAsyncRequests

namespace TableInv

variable {log : List Output} {requests : HashMap Nat Nat} {allocated : Nat} {id ref : Nat}

theorem born (inv : TableInv log requests allocated) (found : requests.lookup id = some ref) :
    ref < allocated :=
  (inv.started id ref ((inv.known id ref).mpr found).1).2

theorem started_quiet {output : Output} (quiet : Quiet output) :
    .started id ref ∈ log ++ [output] ↔ .started id ref ∈ log := by
  rw [List.mem_append, List.mem_singleton, or_iff_left]
  rintro rfl
  exact quiet

theorem freed_quiet {output : Output} (quiet : Quiet output) {refs : List Nat} :
    .freed refs ∈ log ++ [output] ↔ .freed refs ∈ log := by
  rw [List.mem_append, List.mem_singleton, or_iff_left]
  rintro rfl
  exact quiet

theorem quiet (inv : TableInv log requests allocated) {output : Output} (quiet : Quiet output) :
    TableInv (log ++ [output]) requests allocated where
  started id ref told := inv.started id ref ((started_quiet quiet).mp told)
  freed refs told := inv.freed refs ((freed_quiet quiet).mp told)
  one_id id id' ref told told' :=
    inv.one_id id id' ref ((started_quiet quiet).mp told) ((started_quiet quiet).mp told')
  known id ref := by
    simp only [Live, started_quiet quiet, freed_quiet quiet]
    exact inv.known id ref
  bounded := inv.bounded

/-- A request is started in a slot of its own. -/
theorem start (inv : TableInv log requests allocated) (nonzero : id ≠ 0)
    (free : requests.lookup id = none)
    (room : requests.entries.length < AsyncRequestManager.maxAsyncRequests) :
    TableInv (log ++ [.started id allocated]) (requests.insert id allocated) (allocated + 1) where
  started id' ref told := by
    rcases List.mem_append.mp told with told | told
    · obtain ⟨nonzero, born⟩ := inv.started id' ref told
      exact ⟨nonzero, Nat.lt_succ_of_lt born⟩
    · cases List.mem_singleton.mp told
      exact ⟨nonzero, Nat.lt_succ_self allocated⟩
  freed refs told ref member := by
    rcases List.mem_append.mp told with told | told
    · exact Nat.lt_succ_of_lt (inv.freed refs told ref member)
    · cases List.mem_singleton.mp told
  one_id id₁ id₂ ref told told' := by
    rcases List.mem_append.mp told with told | told
    · rcases List.mem_append.mp told' with told' | told'
      · exact inv.one_id id₁ id₂ ref told told'
      · cases List.mem_singleton.mp told'
        cases Nat.lt_irrefl allocated (inv.started id₁ allocated told).2
    · cases List.mem_singleton.mp told
      rcases List.mem_append.mp told' with told' | told'
      · cases Nat.lt_irrefl allocated (inv.started id₂ allocated told').2
      · cases List.mem_singleton.mp told'
        rfl
  known id' ref := by
    have unfreed : ∀ refs, .freed refs ∈ log ++ [Output.started id allocated] ↔
        .freed refs ∈ log := by
      intro refs
      simp
    have mem : .started id' ref ∈ log ++ [Output.started id allocated] ↔
        .started id' ref ∈ log ∨ id' = id ∧ ref = allocated := by
      simp
    rw [HashMap.lookup_insert_eq_some, ← inv.known id' ref, Live, mem]
    simp only [unfreed]
    constructor
    · rintro ⟨told | ⟨rfl, rfl⟩, alive⟩
      · refine .inr ⟨?_, told, alive⟩
        rintro rfl
        cases free.symm.trans ((inv.known id' ref).mp ⟨told, alive⟩)
      · exact .inl ⟨rfl, rfl⟩
    · rintro (⟨rfl, rfl⟩ | ⟨-, told, alive⟩)
      · refine ⟨.inr ⟨rfl, rfl⟩, fun refs told member => ?_⟩
        exact Nat.lt_irrefl ref (inv.freed refs told ref member)
      · exact ⟨.inl told, alive⟩
  bounded := by
    rw [AList.entries_insert_of_notMem (AList.lookup_eq_none.mp free)]
    exact room

/-- Requests are freed, and nothing else is taken out of the table. -/
theorem free (inv : TableInv log requests allocated) {requests' : HashMap Nat Nat}
    {refs : List Nat}
    (left : ∀ id ref, requests'.lookup id = some ref ↔
      requests.lookup id = some ref ∧ ref ∉ refs)
    (shrunk : requests'.entries.length ≤ requests.entries.length)
    (born : ∀ ref ∈ refs, ref < allocated) :
    TableInv (log ++ [.freed refs]) requests' allocated where
  started id ref told := by
    rcases List.mem_append.mp told with told | told
    · exact inv.started id ref told
    · cases List.mem_singleton.mp told
  freed refs' told ref member := by
    rcases List.mem_append.mp told with told | told
    · exact inv.freed refs' told ref member
    · cases List.mem_singleton.mp told
      exact born ref member
  one_id id₁ id₂ ref told told' := by
    have mem : ∀ id, .started id ref ∈ log ++ [Output.freed refs] → .started id ref ∈ log := by
      intro id told
      simpa using told
    exact inv.one_id id₁ id₂ ref (mem id₁ told) (mem id₂ told')
  known id ref := by
    rw [left, ← inv.known, Live, Live]
    constructor
    · rintro ⟨told, alive⟩
      refine ⟨⟨by simpa using told, fun refs' told' => ?_⟩, alive refs (by simp)⟩
      exact alive refs' (List.mem_append_left _ told')
    · rintro ⟨⟨told, alive⟩, kept⟩
      refine ⟨List.mem_append_left _ told, fun refs' told' => ?_⟩
      rcases List.mem_append.mp told' with told' | told'
      · exact alive refs' told'
      · cases List.mem_singleton.mp told'
        exact kept
  bounded := Nat.le_trans shrunk inv.bounded

/-- No two identifiers stand for one slot. -/
theorem injective (inv : TableInv log requests allocated) {id' : Nat}
    (found : requests.lookup id = some ref) (found' : requests.lookup id' = some ref) :
    id = id' :=
  inv.one_id id id' ref ((inv.known id ref).mpr found).1 ((inv.known id' ref).mpr found').1

end TableInv

/-! ## One step -/

structure RequestsInv (log : List Output) (system : System) : Prop where
  slot : ∀ ref, SlotInv ref (view ref log) (callOn ref system.call) (system.slots ref)
  working : ∀ ref, Working (system.slots ref).task → ref < system.allocated
  unborn : ∀ ref, system.allocated ≤ ref → view ref log = [] ∧ callOn ref system.call = .idle
  table : TableInv log system.manager.requests system.allocated

/-- The outcome of a slot moves forward, or what was taken from it is put back. -/
def MovesOn (system next : System) (ref : Nat) : Prop :=
  Forward (system.slots ref).outcome (next.slots ref).outcome ∨ PutsBack system next ref

/-- What one step has to show. -/
structure Kept (log : List Output) (system next : System) (output : Output) : Prop where
  inv : RequestsInv (log ++ [output]) next
  moves : ∀ ref, ref < system.allocated → MovesOn system next ref

theorem Kept.of_eq {log : List Output} {system next : System} {output : Output}
    {result : System × Output} (kept : Kept log system result.1 result.2)
    (stepped : some result = some (next, output)) : Kept log system next output := by
  obtain rfl := Option.some.inj stepped
  exact kept

theorem requestsInv_initial : RequestsInv [] {} where
  slot ref := (SlotInv.fresh ref 0).setTask (by rintro ⟨⟩) (by rintro _ _ ⟨⟩)
  working := by rintro _ ⟨⟩
  unborn _ _ := ⟨rfl, rfl⟩
  table := {
    started := by rintro _ _ ⟨⟩
    freed := by rintro _ ⟨⟩
    one_id := by rintro _ _ _ ⟨⟩
    known := fun id ref => by simp [Live]
    bounded := by decide }

@[simp] theorem view_append (ref : Nat) (log : List Output) (output : Output) :
    view ref (log ++ [output]) = view ref log ++ if about ref output then [output] else [] := by
  rw [view, List.filter_append, ← view, List.filter_singleton, Bool.cond_eq_ite]

theorem view_of_apart {ref : Nat} {log : List Output} {output : Output}
    (apart : about ref output = false) : view ref (log ++ [output]) = view ref log := by
  simp [apart]

/-- The identifiers are gone from the table, and tasks were aborted. -/
structure Frees (ids : List Nat) (system next : System) : Prop where
  slots : ∀ ref, next.slots ref = system.slots ref ∨ next.slots ref = (system.slots ref).abort
  allocated : next.allocated = system.allocated
  call : next.call = system.call
  lookup : ∀ id, next.manager.requests.lookup id =
    if id ∈ ids then none else system.manager.requests.lookup id
  shrunk : next.manager.requests.entries.length ≤ system.manager.requests.entries.length

theorem abort_abort (slot : AsyncRequestSlot) : slot.abort.abort = slot.abort := by
  rw [AsyncRequestSlot.abort.eq_def slot]
  split
  · rfl
  · rename_i begun
    rw [AsyncRequestSlot.abort]
    split
    · rename_i queued
      cases begun queued
    · rfl

theorem frees_nil (system : System) : Frees [] system system :=
  ⟨fun _ => .inl rfl, rfl, rfl, fun _ => rfl, Nat.le_refl _⟩

theorem frees_free (id : Nat) (system : System) : Frees [id] system (system.free id).1 := by
  rw [System.free]
  cases found : system.manager.requests.lookup id with
  | none =>
      refine ⟨fun _ => .inl rfl, rfl, rfl, fun other => ?_, Nat.le_refl _⟩
      by_cases same : other = id
      · subst same
        simp [found]
      · simp [same]
  | some ref =>
      refine ⟨fun other => ?_, rfl, rfl, fun other => ?_, ?_⟩
      · by_cases same : other = ref
        · subst same
          exact .inr (Function.update_self ..)
        · exact .inl (Function.update_of_ne same ..)
      · by_cases same : other = id
        · subst same
          simp [AList.lookup_erase]
        · simp [same, AList.lookup_erase_ne same]
      · exact (List.kerase_sublist id _).length_le

theorem Frees.trans {ids ids' : List Nat} {system middle next : System}
    (first : Frees ids system middle)
    (second : Frees ids' middle next) : Frees (ids ++ ids') system next where
  slots ref := by
    rcases second.slots ref with kept | aborted
    · rw [kept]
      exact first.slots ref
    · rcases first.slots ref with kept' | aborted'
      · rw [aborted, kept']
        exact .inr rfl
      · rw [aborted, aborted', abort_abort]
        exact .inr rfl
  allocated := second.allocated.trans first.allocated
  call := second.call.trans first.call
  lookup id := by
    rw [second.lookup, first.lookup]
    simp only [List.mem_append]
    split_ifs <;> simp_all
  shrunk := Nat.le_trans second.shrunk first.shrunk

theorem frees_foldl (entries : List (Nat × Nat)) (system : System) :
    Frees (entries.map Prod.fst) system
      (entries.foldl (fun system entry => (system.free entry.1).1) system) := by
  induction entries generalizing system with
  | nil => exact frees_nil system
  | cons entry entries ih => exact (frees_free entry.1 system).trans (ih _)

namespace RequestsInv

variable {log : List Output} {system next : System} {output : Output} {ref id : Nat}

/-- A step that touches one slot. -/
theorem touch (inv : RequestsInv log system) (born : ref < system.allocated)
    {slot : AsyncRequestSlot} (slots : next.slots = Function.update system.slots ref slot)
    (allocated : next.allocated = system.allocated)
    (requests : next.manager.requests = system.manager.requests) (quiet : Quiet output)
    (apart : ∀ other, other ≠ ref →
      about other output = false ∧ callOn other next.call = callOn other system.call)
    (kept : SlotInv ref (view ref (log ++ [output])) (callOn ref next.call) slot)
    (moves : MovesOn system next ref) : Kept log system next output where
  inv := {
    slot := fun other => by
      by_cases same : other = ref
      · subst same
        rwa [slots, Function.update_self]
      · obtain ⟨silent, idle⟩ := apart other same
        rw [slots, Function.update_of_ne same, view_of_apart silent, idle]
        exact inv.slot other
    working := fun other working => by
      rw [allocated]
      by_cases same : other = ref
      · rwa [same]
      · rw [slots, Function.update_of_ne same] at working
        exact inv.working other working
    unborn := fun other late => by
      rw [allocated] at late
      have same : other ≠ ref := by omega
      obtain ⟨silent, idle⟩ := apart other same
      rw [view_of_apart silent, idle]
      exact inv.unborn other late
    table := by
      rw [requests, allocated]
      exact inv.table.quiet quiet }
  moves other _ := by
    by_cases same : other = ref
    · rwa [same]
    · rw [MovesOn, slots, Function.update_of_ne same]
      exact .inl (.stay _)

/-- A step that touches nothing. -/
theorem same (inv : RequestsInv log system) (slots : next.slots = system.slots)
    (allocated : next.allocated = system.allocated) (call : next.call = system.call)
    (requests : next.manager.requests = system.manager.requests) (quiet : Quiet output)
    (apart : ∀ ref, about ref output = false) : Kept log system next output where
  inv := {
    slot := fun ref => by
      rw [slots, call, view_of_apart (apart ref)]
      exact inv.slot ref
    working := fun ref working => by
      rw [slots] at working
      rw [allocated]
      exact inv.working ref working
    unborn := fun ref late => by
      rw [allocated] at late
      rw [call, view_of_apart (apart ref)]
      exact inv.unborn ref late
    table := by
      rw [requests, allocated]
      exact inv.table.quiet quiet }
  moves ref _ := by
    rw [MovesOn, slots]
    exact .inl (.stay _)

/-- A new slot is taken into use. -/
theorem spawn (inv : RequestsInv log system) (idle : system.call = .idle) (nonzero : id ≠ 0)
    (free : system.manager.requests.lookup id = none)
    (room : system.manager.requests.entries.length < AsyncRequestManager.maxAsyncRequests)
    {connId : Nat}
    (slots : next.slots = Function.update system.slots system.allocated { connId })
    (requests : next.manager.requests = system.manager.requests.insert id system.allocated)
    (allocated : next.allocated = system.allocated + 1) (call : next.call = .idle) :
    Kept log system next (.started id system.allocated) where
  inv := {
    slot := fun ref => by
      have apart : about ref (.started id system.allocated) = false := rfl
      rw [slots, call, view_of_apart apart]
      by_cases new : ref = system.allocated
      · subst new
        rw [Function.update_self, (inv.unborn _ (Nat.le_refl _)).1]
        exact .fresh _ connId
      · rw [Function.update_of_ne new, ← idle]
        exact inv.slot ref
    working := fun ref working => by
      rw [allocated]
      by_cases new : ref = system.allocated
      · omega
      · rw [slots, Function.update_of_ne new] at working
        exact Nat.lt_succ_of_lt (inv.working ref working)
    unborn := fun ref late => by
      have apart : about ref (.started id system.allocated) = false := rfl
      rw [view_of_apart apart, call]
      exact ⟨(inv.unborn ref (by omega)).1, rfl⟩
    table := by
      rw [requests, allocated]
      exact inv.table.start nonzero free room }
  moves ref born := by
    have old : ref ≠ system.allocated := by omega
    rw [MovesOn, slots, Function.update_of_ne old]
    exact .inl (.stay _)

theorem start (inv : RequestsInv log system) (idle : system.call = .idle) (connId : Nat)
    (spawned : Bool) :
    Kept log system (system.start connId spawned).1 (system.start connId spawned).2 := by
  have requests := AsyncRequestManager.allocateRequestId_requests system.manager
  rw [System.start]
  cases result : system.manager.allocateRequestId with
  | mk found manager =>
      rw [result] at requests
      cases found with
      | none => exact inv.same rfl rfl rfl requests trivial fun _ => rfl
      | some id =>
          cases spawned with
          | false => exact inv.same rfl rfl rfl requests trivial fun _ => rfl
          | true =>
              have found : system.manager.allocateRequestId.1 = some id := by rw [result]
              obtain ⟨nonzero, free, room⟩ :=
                AsyncRequestManager.allocateRequestId_eq_some found
              refine inv.spawn idle nonzero free room rfl ?_ rfl idle
              exact congrArg (AList.insert id system.allocated) requests

/-- Requests are freed together with their slots' places in the table. -/
theorem frees (inv : RequestsInv log system) {ids refs : List Nat} (freed : Frees ids system next)
    (paired : ∀ id ref, system.manager.requests.lookup id = some ref → (id ∈ ids ↔ ref ∈ refs))
    (born : ∀ ref ∈ refs, ref < system.allocated) :
    Kept log system next (.freed refs) where
  inv := {
    slot := fun ref => by
      have apart : about ref (.freed refs) = false := rfl
      rw [view_of_apart apart, freed.call]
      rcases freed.slots ref with kept | aborted
      · rw [kept]
        exact inv.slot ref
      · rw [aborted]
        exact (inv.slot ref).abort
    working := fun ref working => by
      rw [freed.allocated]
      refine inv.working ref ?_
      rcases freed.slots ref with kept | aborted
      · rwa [← kept]
      · rw [aborted] at working
        exact SlotInv.working_of_abort working
    unborn := fun ref late => by
      have apart : about ref (.freed refs) = false := rfl
      rw [freed.allocated] at late
      rw [view_of_apart apart, freed.call]
      exact inv.unborn ref late
    table := by
      rw [freed.allocated]
      refine inv.table.free (fun id ref => ?_) freed.shrunk born
      rw [freed.lookup]
      constructor
      · intro found
        split_ifs at found with gone
        exact ⟨found, fun member => gone ((paired id ref found).mpr member)⟩
      · rintro ⟨found, kept⟩
        rw [if_neg fun gone => kept ((paired id ref found).mp gone)]
        exact found }
  moves ref _ := by
    rw [MovesOn]
    rcases freed.slots ref with kept | aborted
    · rw [kept]
      exact .inl (.stay _)
    · rw [aborted, SlotInv.outcome_abort]
      exact .inl (.stay _)

theorem free (inv : RequestsInv log system) (id : Nat) :
    Kept log system (system.free id).1 (system.free id).2 := by
  have freed := frees_free id system
  rw [System.free] at freed ⊢
  cases found : system.manager.requests.lookup id with
  | none => exact inv.same rfl rfl rfl rfl trivial fun _ => rfl
  | some ref =>
      rw [found] at freed
      refine inv.frees freed (fun id' ref' found' => ?_) ?_
      · rw [List.mem_singleton, List.mem_singleton]
        constructor
        · rintro rfl
          exact Option.some.inj (found'.symm.trans found)
        · rintro rfl
          exact inv.table.injective found' found
      · intro ref' member
        rw [List.mem_singleton.mp member]
        exact inv.table.born found

theorem freeForConnection (inv : RequestsInv log system) (connId : Nat) :
    Kept log system (system.freeForConnection connId).1 (system.freeForConnection connId).2 := by
  have listed : ∀ id ref, (id, ref) ∈ system.ofConnection connId →
      system.manager.requests.lookup id = some ref :=
    fun id ref member => (System.mem_ofConnection_iff.mp member).1
  refine inv.frees (frees_foldl (system.ofConnection connId) system) (fun id ref found => ?_) ?_
  · rw [List.mem_map, List.mem_map]
    constructor
    · rintro ⟨⟨id', ref'⟩, member, rfl⟩
      exact ⟨_, member, Option.some.inj ((listed id' ref' member).symm.trans found)⟩
    · rintro ⟨⟨id', ref'⟩, member, rfl⟩
      exact ⟨_, member, inv.table.injective (listed id' ref' member) found⟩
  · intro ref member
    obtain ⟨⟨id, ref'⟩, entry, rfl⟩ := List.mem_map.mp member
    exact inv.table.born (listed id ref' entry)

/-! ### Calls -/

theorem slot_idle (inv : RequestsInv log system) (idle : system.call = .idle) (ref : Nat) :
    SlotInv ref (view ref log) .idle (system.slots ref) := by
  have slot := inv.slot ref
  rwa [idle] at slot

/-- A call is under way only on a slot that is in use. -/
theorem slot_called (inv : RequestsInv log system) {call : Call}
    (mine : callOn ref system.call = call) (busy : call ≠ .idle) :
    SlotInv ref (view ref log) call (system.slots ref) ∧ ref < system.allocated := by
  subst mine
  refine ⟨inv.slot ref, ?_⟩
  by_contra late
  exact busy (inv.unborn ref (Nat.le_of_not_lt late)).2

theorem cancel (inv : RequestsInv log system) (idle : system.call = .idle)
    (allowed : RequestRule (.cancel id) system) :
    Kept log system (system.cancel id).1 (system.cancel id).2 := by
  rw [System.cancel]
  cases found : system.manager.requests.lookup id with
  | none => exact inv.same rfl rfl rfl rfl trivial fun _ => rfl
  | some ref =>
      have slot := inv.slot_idle idle ref
      have between := allowed ref found
      refine inv.touch (inv.table.born found) rfl rfl rfl trivial (fun other apart => ⟨rfl, ?_⟩)
        ?_ (.inl ?_)
      · simp [callOn, apart.symm, idle]
      · simp only [view_append, about, callOn, if_true, Bool.false_eq_true, if_false,
          List.append_nil]
        refine slot.flag _ (fun pending => ?_) between
        split at pending
        · assumption
        · cases pending
      · simp only [System.update, Function.update_self]
        exact .stay _

theorem abort (inv : RequestsInv log system) {pending : Bool}
    (called : system.call = .cancelling ref pending) :
    Kept log system { system.update ref .abort with call := .aborted ref pending } .silent := by
  obtain ⟨slot, born⟩ : SlotInv ref (view ref log) (.cancelling ref pending) (system.slots ref) ∧
      ref < system.allocated :=
    inv.slot_called (by simp [called, callOn]) (by rintro ⟨⟩)
  refine inv.touch born rfl rfl rfl trivial (fun other apart => ⟨rfl, ?_⟩) ?_ (.inl ?_)
  · simp [callOn, apart.symm, called]
  · simpa [callOn, about] using slot.abort.afterAbort
  · simp only [System.update, Function.update_self, SlotInv.outcome_abort]
    exact .stay _

theorem cancelOutcome (inv : RequestsInv log system) {pending : Bool}
    (called : system.call = .aborted ref pending) :
    Kept log system (system.cancelOutcome ref pending).1 (system.cancelOutcome ref pending).2 := by
  obtain ⟨slot, born⟩ : SlotInv ref (view ref log) (.aborted ref pending) (system.slots ref) ∧
      ref < system.allocated :=
    inv.slot_called (by simp [called, callOn]) (by rintro ⟨⟩)
  have apart : ∀ other, other ≠ ref → about other (.accepted ref pending) = false ∧
      callOn other .idle = callOn other system.call := by
    intro other apart
    simp [about, callOn, apart.symm, called]
  have told : view ref (log ++ [.accepted ref pending]) =
      view ref log ++ [.accepted ref pending] := by
    simp [about]
  rw [System.cancelOutcome]
  split
  · rename_i was
    have was : (system.slots ref).outcome = .pending := was
    refine inv.touch born rfl rfl rfl trivial apart ?_ (.inl ?_)
    · rw [told]
      exact slot.accept (.inr ⟨was, rfl⟩)
    · simp only [System.setOutcome, System.update, Function.update_self]
      rw [was]
      exact .cancel
  · refine inv.touch born (Function.update_eq_self ref system.slots).symm rfl rfl trivial apart ?_
      (.inl (.stay _))
    rw [told]
    exact slot.accept (.inl rfl)

theorem getResult (inv : RequestsInv log system) (idle : system.call = .idle) {bufferLen : Nat}
    (allowed : RequestRule (.getResult id bufferLen) system) :
    Kept log system (system.getResult id bufferLen).1 (system.getResult id bufferLen).2 := by
  rw [System.getResult]
  cases found : system.manager.requests.lookup id with
  | none => exact inv.same rfl rfl rfl rfl trivial fun _ => rfl
  | some ref =>
      have slot := inv.slot_idle idle ref
      have handed : ∀ result, ¬ Working (system.slots ref).task →
          Forward (system.slots ref).outcome .consumed →
          (system.slots ref).outcome ≠ .consumed →
          Kept log system (system.setOutcome ref .consumed) (.handed ref result) := by
        intro result finished forward held
        refine inv.touch (inv.table.born found) rfl rfl rfl trivial (fun other apart => ?_) ?_
          (.inl ?_)
        · exact ⟨by simp [about, apart.symm], rfl⟩
        · have told : view ref (log ++ [.handed ref result]) =
              view ref log ++ [.handed ref result] := by
            simp [about]
          have mine : callOn ref (system.setOutcome ref .consumed).call = .idle := by
            simp [System.setOutcome, System.update, idle, callOn]
          rw [told, mine]
          exact slot.hand finished held result
        · simpa only [System.setOutcome, System.update, Function.update_self] using forward
      dsimp only
      cases outcome : (system.slots ref).outcome with
      | pending => exact inv.same rfl rfl rfl rfl trivial fun _ => rfl
      | consumed => exact inv.same rfl rfl rfl rfl trivial fun _ => rfl
      | cancelled =>
          refine handed _ (allowed ref found outcome) ?_ (by rw [outcome]; rintro ⟨⟩)
          rw [outcome]
          exact .acknowledge
      | ready result =>
          have finished := slot.not_working_of_ready outcome
          have held : (system.slots ref).outcome ≠ .consumed := by
            rw [outcome]
            rintro ⟨⟩
          have forward : Forward (system.slots ref).outcome .consumed := by
            rw [outcome]
            exact .consume result
          cases result with
          | error err => exact handed _ finished forward held
          | ok data =>
              dsimp only
              split_ifs with large
              · refine inv.touch (inv.table.born found) rfl rfl rfl trivial
                  (fun other apart => ⟨rfl, ?_⟩) ?_ (.inl ?_)
                · simp [callOn, apart.symm, idle]
                · simpa [callOn, about] using slot.take outcome
                · simpa only [System.setOutcome, System.update, Function.update_self] using forward
              · exact handed _ finished forward held

theorem restore (inv : RequestsInv log system) {data : Bytes}
    (called : system.call = .restoring ref data) :
    Kept log system { system.setOutcome ref (.ready (.ok data)) with call := .idle } .silent := by
  obtain ⟨slot, born⟩ : SlotInv ref (view ref log) (.restoring ref data) (system.slots ref) ∧
      ref < system.allocated :=
    inv.slot_called (by simp [called, callOn]) (by rintro ⟨⟩)
  refine inv.touch born rfl rfl rfl trivial (fun other apart => ⟨rfl, ?_⟩) ?_ (.inr ?_)
  · simp [callOn, apart.symm, called]
  · simpa [callOn, about] using slot.restore
  · refine ⟨data, called, (slot.restoring data rfl).1, ?_⟩
    simp [System.setOutcome, System.update]

/-! ### Tasks -/

/-- A task moves on and leaves the outcome alone. -/
theorem setTask (inv : RequestsInv log system) {task : AsyncTask}
    (working : Working (system.slots ref).task)
    (read : ∀ flag result, task = .read flag result → flag = (system.slots ref).cancelled) :
    Kept log system (system.update ref ({ · with task })) .silent := by
  refine inv.touch (inv.working ref working) rfl rfl rfl trivial (fun _ _ => ⟨rfl, rfl⟩) ?_
    (.inl ?_)
  · rw [view_of_apart rfl]
    exact (inv.slot ref).setTask (fun _ => working) read
  · simp only [System.update, Function.update_self]
    exact .stay _

theorem writeOutcome (inv : RequestsInv log system) {flag : Bool}
    {result : Except OdbcError Bytes} (read : (system.slots ref).task = .read flag result) :
    Kept log system
      (system.update ref fun slot =>
        { slot with
          outcome := if flag then .cancelled else .ready result
          task := .done }) .silent := by
  have slot := inv.slot ref
  have working : Working (system.slots ref).task := by
    rw [read]
    trivial
  refine inv.touch (inv.working ref working) rfl rfl rfl trivial (fun _ _ => ⟨rfl, rfl⟩) ?_
    (.inl ?_)
  · rw [view_of_apart rfl]
    exact slot.write read
  · simp only [System.update, Function.update_self]
    rcases slot.working working with pending | cancelled
    · rw [pending]
      cases flag with
      | true => exact .cancel
      | false => exact .complete result
    · have same := slot.read_flag flag result read
      rw [cancelled, same, slot.flagged cancelled]
      exact .stay _

end RequestsInv

/-- Each step that keeps to the rule keeps the invariant. -/
theorem step_kept {log : List Output} {system next : System} {event : Event} {output : Output}
    (inv : RequestsInv log system) (allowed : RequestRule event system)
    (stepped : step event system = some (next, output)) : Kept log system next output := by
  cases event with
  | start connId spawned =>
      rw [step] at stepped
      split at stepped
      · exact (inv.start ‹_› connId spawned).of_eq stepped
      · cases stepped
  | poll id =>
      rw [step] at stepped
      split at stepped
      · split at stepped
        · cases stepped
          exact inv.same rfl rfl rfl rfl trivial fun _ => rfl
        · cases stepped
          exact inv.same rfl rfl rfl rfl trivial fun _ => rfl
      · cases stepped
  | cancel id =>
      rw [step] at stepped
      split at stepped
      · exact (inv.cancel ‹_› allowed).of_eq stepped
      · cases stepped
  | abort =>
      rw [step] at stepped
      split at stepped
      · cases stepped
        exact inv.abort ‹_›
      · cases stepped
  | cancelOutcome =>
      rw [step] at stepped
      split at stepped
      · exact (inv.cancelOutcome ‹_›).of_eq stepped
      · cases stepped
  | getResult id bufferLen =>
      rw [step] at stepped
      split at stepped
      · exact (inv.getResult ‹_› allowed).of_eq stepped
      · cases stepped
  | restore =>
      rw [step] at stepped
      split at stepped
      · cases stepped
        exact inv.restore ‹_›
      · cases stepped
  | free id =>
      rw [step] at stepped
      split at stepped
      · exact (inv.free id).of_eq stepped
      · cases stepped
  | freeForConnection connId =>
      rw [step] at stepped
      split at stepped
      · exact (inv.freeForConnection connId).of_eq stepped
      · cases stepped
  | beginTask ref =>
      rw [step] at stepped
      split at stepped
      · rename_i queued
        cases stepped
        exact inv.setTask (by rw [queued]; trivial) (by rintro _ _ ⟨⟩)
      · cases stepped
  | finishTask ref result =>
      rw [step] at stepped
      split at stepped
      · rename_i running
        cases stepped
        exact inv.setTask (by rw [running]; trivial) (by rintro _ _ ⟨⟩)
      · cases stepped
  | readFlag ref =>
      rw [step] at stepped
      split at stepped
      · rename_i finished
        cases stepped
        exact inv.setTask (by rw [finished]; trivial) (by rintro _ _ ⟨⟩; rfl)
      · cases stepped
  | writeOutcome ref =>
      rw [step] at stepped
      split at stepped
      · cases stepped
        exact inv.writeOutcome ‹_›
      · cases stepped

/-! ## Every run -/

theorem RequestsInv.ordered {log : List Output} {system : System} (inv : RequestsInv log system) :
    OrderedRequests log system where
  cancelled ref accepted result := by
    have seen : .accepted ref true ∈ view ref log := by
      simp [view, about, accepted]
    exact ((inv.slot ref).asked (.inl seen)).2 result
  handed_once ref := by
    have counted : (view ref log).countP (isHanded ref) = log.countP (isHanded ref) := by
      rw [view, List.countP_filter]
      refine congrArg (log.countP ·) (funext fun output => ?_)
      cases output <;> simp [isHanded, about]
    rw [← counted]
    exact (inv.slot ref).handed.1
  nonzero id ref live := (inv.table.started id ref live.1).1
  unique id ref ref' live live' :=
    Option.some.inj (((inv.table.known id ref).mp live).symm.trans
      ((inv.table.known id ref').mp live'))
  known := inv.table.known
  bounded := inv.table.bounded

/-- Along every run that keeps to the rule the requests are in order, and each further step that
keeps to it moves every outcome forward or puts back what its own call has taken. -/
theorem async_requests_ordered {events : List Event} {log : List Output} {system : System}
    (along : Along step RequestRule events {})
    (ran : run step events {} = some (system, log)) :
    OrderedRequests log system ∧
      ∀ event next output, RequestRule event system → step event system = some (next, output) →
        ∀ ref, ref < system.allocated → MovesOn system next ref := by
  have inv : RequestsInv ([] ++ log) system :=
    run_invariant_along RequestsInv (fun inv allowed stepped => (step_kept inv allowed stepped).inv)
      [] requestsInv_initial along ran
  rw [List.nil_append] at inv
  refine ⟨inv.ordered, ?_⟩
  intro event next output allowed stepped
  exact (step_kept inv allowed stepped).moves

/-- A cancellation meets a task that finishes at the same time, and is taken when it is over. -/
def cancelWhileRunning : List Event :=
  [.start 7 true, .beginTask 0, .cancel 1, .finishTask 0 (.ok [9]), .abort, .cancelOutcome,
    .readFlag 0, .writeOutcome 0, .getResult 1 4]

theorem async_requests_ordered_cancelWhileRunning :
    ∃ system, run step cancelWhileRunning {} =
        some (system, [.started 1 0, .silent, .silent, .silent, .silent, .accepted 0 true, .silent,
          .silent, .handed 0 (.error (.internalError "Async request cancelled"))]) ∧
      Along step RequestRule cancelWhileRunning {} ∧
      OrderedRequests [.started 1 0, .silent, .silent, .silent, .silent, .accepted 0 true, .silent,
        .silent, .handed 0 (.error (.internalError "Async request cancelled"))] system := by
  have along : Along step RequestRule cancelWhileRunning {} := by
    refine ⟨trivial, ?_⟩
    rintro _ _ ⟨⟩
    refine ⟨trivial, ?_⟩
    rintro _ _ ⟨⟩
    refine ⟨?_, ?_⟩
    · rintro _ ⟨⟩ _ ⟨⟩
    rintro _ _ ⟨⟩
    refine ⟨trivial, ?_⟩
    rintro _ _ ⟨⟩
    refine ⟨trivial, ?_⟩
    rintro _ _ ⟨⟩
    refine ⟨trivial, ?_⟩
    rintro _ _ ⟨⟩
    refine ⟨trivial, ?_⟩
    rintro _ _ ⟨⟩
    refine ⟨trivial, ?_⟩
    rintro _ _ ⟨⟩
    refine ⟨?_, fun _ _ _ => trivial⟩
    rintro _ ⟨⟩ - ⟨⟩
  exact ⟨_, rfl, along, (async_requests_ordered along rfl).1⟩

/-- The task has read the flag, the request is cancelled, and the task writes its result. -/
theorem cancelled_request_becomes_ready :
    ∃ system, run step [.start 7 true, .beginTask 0, .finishTask 0 (.ok [9]), .readFlag 0,
          .cancel 1, .abort, .cancelOutcome, .writeOutcome 0] {} =
        some (system, [.started 1 0, .silent, .silent, .silent, .silent, .silent,
          .accepted 0 true, .silent]) ∧
      (system.slots 0).outcome = .ready (.ok [9]) ∧
      ¬ OrderedRequests [.started 1 0, .silent, .silent, .silent, .silent, .silent,
          .accepted 0 true, .silent] system := by
  refine ⟨_, rfl, rfl, ?_⟩
  intro ordered
  exact ordered.cancelled 0 (by simp) (.ok [9]) rfl

end OdbcFast.Verification
