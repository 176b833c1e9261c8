import OdbcFast.Native.Ffi.Locks

/-!
# The lock discipline of the entry points

Each call of the C interface is checked once against one rule of where an action may stand,
and so is a stream's worker. The actions on channels move no lock, so every run keeps
the threads to what their programs say they hold.
-/

namespace OdbcFast.Verification

open Native Native.Locks Wire LockAction

namespace GlobalLock

variable {system next : System} {thread : Thread} {connId streamId : Nat} {lock : Lock}
  {rest : Program} {held : List Lock}

/-- Behind the program the global lock is retaken before the connection is given back. -/
abbrev Retakes (connId : Nat) (program : Program) : Bool :=
  takesBefore .global (.connection connId) program

/-- Where an action may stand: handles are taken before a connection, and a connection only by
a thread that holds no other; a thread without the global lock takes a connection with
nothing else and does not want the global lock before it gives the connection back. -/
def allowed (thread : Thread) (held : List Lock) : LockAction Lock Act → Program → Prop
  | .acquire .global, _ => Lock.handles ∉ held
  | .acquire .handles, _ => ∀ connId, Lock.connection connId ∉ held
  | .acquire (.connection connId), rest =>
      (∀ other, Lock.connection other ∉ held) ∧
        (Lock.global ∈ held ∨ Lock.handles ∉ held ∧ Retakes connId rest = false)
  | .release _, _ => True
  | .act .work, _ => True
  | .act (.send streamId), _ => thread = .worker streamId
  | .act (.receive _), _ => held = []
  | .act (.spawn _ _ _), _ => held = []
  | .act (.tryReceive _), _ => Lock.global ∈ held
  | .act (.close _), _ => Lock.global ∈ held

abbrev Disciplined (thread : Thread) (held : List Lock) (program : Program) : Prop :=
  LockSystem.Disciplined allowed thread held program

section Sections

theorem filter_taken (fresh : lock ∉ held) : (lock :: held).filter (· ≠ lock) = held := by
  rw [List.filter_cons_of_neg (by simp)]
  refine List.filter_eq_self.mpr fun taken member => decide_eq_true ?_
  rintro rfl
  exact fresh member

theorem disciplined_cloneConnection (only : ∀ lock ∈ held, lock = Lock.global)
    (behind : Disciplined thread held rest) :
    Disciplined thread held (cloneConnection ++ rest) := by
  have fresh : Lock.handles ∉ held := fun member => by cases only _ member
  refine ⟨fresh, ?_, List.mem_cons_self, trivial, ?_⟩
  · intro connId member
    cases only _ member
  · rw [filter_taken fresh]
    exact behind

theorem disciplined_onConnectionTimes (only : ∀ lock ∈ held, lock = Lock.global)
    (behind : Disciplined thread held rest) (times : Nat) :
    Disciplined thread held (onConnectionTimes connId times ++ rest) := by
  have noConnection : ∀ connId, Lock.connection connId ∉ held := fun connId member => by
    cases only _ member
  have noHandles : Lock.handles ∉ held := fun member => by cases only _ member
  induction times with
  | zero => exact behind
  | succ times ih =>
      rw [onConnectionTimes, onConnection, List.append_assoc, List.append_assoc]
      refine disciplined_cloneConnection only ?_
      refine ⟨noConnection connId, ⟨noConnection, .inr ⟨noHandles, ?_⟩⟩, trivial,
        List.mem_cons_self, trivial, ?_⟩
      · simp [takesBefore]
      · rw [filter_taken (noConnection connId)]
        exact ih

theorem disciplined_globalTimes (times : Nat) :
    Disciplined thread [] (globalTimes times) := by
  induction times with
  | zero => rfl
  | succ times ih => exact ⟨by simp, by simp [allowed], trivial, by simp, trivial, ih⟩

theorem disciplined_underGlobal (behind : Disciplined thread [] rest) (times : Nat) :
    Disciplined thread [] (underGlobal connId times ++ rest) := by
  rw [underGlobal, List.cons_append, List.append_assoc]
  refine ⟨by simp, by simp [allowed], disciplined_onConnectionTimes (by simp) ?_ times⟩
  exact ⟨by simp, trivial, behind⟩

theorem disciplined_underGlobal_only (times : Nat) :
    Disciplined thread [] (underGlobal connId times) := by
  have behind : Disciplined thread [] [] := rfl
  rw [← List.append_nil (underGlobal connId times)]
  exact disciplined_underGlobal behind times

theorem disciplined_guardBesideGlobal (failed : Bool) :
    Disciplined thread [] (guardBesideGlobal connId failed) := by
  refine ⟨by simp, by simp [allowed], disciplined_cloneConnection (by simp) ?_⟩
  refine ⟨by simp, by simp [allowed], trivial, ?_⟩
  cases failed with
  | true => simp [LockSystem.Disciplined, lockGlobal, dropGlobal, allowed]
  | false => simp [LockSystem.Disciplined, dropGlobal, allowed]

theorem disciplined_startStream (messages : Nat) (stored : Bool) :
    Disciplined thread [] (startStream connId streamId messages stored) := by
  refine ⟨by simp, by simp [allowed], by simp, trivial, disciplined_cloneConnection (by simp) ?_⟩
  cases stored <;> simp [LockSystem.Disciplined, lockGlobal, dropGlobal, allowed]

theorem disciplined_close (streams : List Nat) (behind : Disciplined thread [.global] rest) :
    Disciplined thread [.global]
      (streams.map (fun streamId => .act (.close streamId)) ++ rest) := by
  induction streams with
  | nil => exact behind
  | cons streamId streams ih => exact ⟨by simp [allowed], ih⟩

end Sections

/-- Every call keeps to the discipline. -/
theorem disciplined_program (entry : EntryPoint) : Disciplined thread [] entry.program := by
  cases entry with
  | globalOnly sections => exact disciplined_globalTimes sections
  | odbcConnect | odbcConnectWithTimeout =>
      simp [EntryPoint.program, LockSystem.Disciplined, lockGlobal, dropGlobal, allowed]
  | odbcDisconnect connId transactions streams =>
      refine ⟨by simp, by simp [allowed], disciplined_onConnectionTimes (by simp) ?_ transactions⟩
      refine disciplined_close streams (disciplined_cloneConnection (by simp) ?_)
      exact ⟨by simp, trivial, rfl⟩
  | odbcTransactionBegin connId auto stored =>
      refine ⟨by simp, by simp [allowed], by simp, trivial,
        disciplined_onConnectionTimes (by simp) ?_ _⟩
      cases stored with
      | true => exact disciplined_globalTimes 1
      | false => simp [LockSystem.Disciplined, lockGlobal, dropGlobal, allowed]
  | odbcTransactionCommit connId failed | odbcTransactionRollback connId failed =>
      exact ⟨by simp, by simp [allowed], by simp, trivial,
        disciplined_onConnectionTimes (by simp) (disciplined_globalTimes _) 1⟩
  | odbcSavepointCreate connId | odbcSavepointRollback connId | odbcSavepointRelease connId
  | odbcBulkInsertArray connId => exact disciplined_underGlobal_only 1
  | odbcXaStart connId sections | odbcXaEnd connId sections | odbcXaPrepare connId sections
  | odbcXaCommitPrepared connId sections | odbcXaRollbackPrepared connId sections
  | odbcXaCommitOnePhase connId sections | odbcXaRollbackActive connId sections
  | odbcXaResumePrepared connId sections => exact disciplined_underGlobal_only sections
  | odbcXaRecoverCount connId failed =>
      exact ⟨by simp, by simp [allowed], by simp, trivial,
        disciplined_onConnectionTimes (by simp) (disciplined_globalTimes _) 2⟩
  | odbcGetConnectionDbmsInfo connId failed | odbcExecQueryMulti connId failed
  | odbcExecQueryMultiParams connId failed | odbcExecute connId failed =>
      exact disciplined_underGlobal (disciplined_globalTimes _) 1
  | odbcExecQuery connId failed =>
      refine ⟨by simp, by simp [allowed], disciplined_cloneConnection (by simp) ?_⟩
      refine ⟨by simp, trivial, by simp, ?_, trivial, by simp, trivial, ?_⟩
      · simp [allowed, takesBefore]
      · rw [filter_taken (by simp)]
        exact disciplined_globalTimes _
  | runAsyncQuery connId =>
      have behind : Disciplined thread [] [] := rfl
      exact disciplined_onConnectionTimes (by simp) behind 1
  | odbcExecQueryParams connId failed | odbcCatalogTables connId failed
  | odbcCatalogColumns connId failed | odbcCatalogTypeInfo connId failed
  | odbcCatalogPrimaryKeys connId failed | odbcCatalogForeignKeys connId failed
  | odbcCatalogIndexes connId failed => exact disciplined_guardBesideGlobal failed
  | odbcStreamStart connId => exact disciplined_guardBesideGlobal true
  | odbcStreamStartBatched streamId connId messages stored
  | odbcStreamStartAsync streamId connId messages stored
  | odbcStreamMultiStartBatched streamId connId messages stored
  | odbcStreamMultiStartAsync streamId connId messages stored =>
      exact disciplined_startStream messages stored
  | odbcStreamFetch streamId receives =>
      cases receives <;>
        simp [EntryPoint.program, LockSystem.Disciplined, globalTimes, lockGlobal, dropGlobal,
          allowed]
  | odbcStreamPollAsync streamId pulls =>
      cases pulls <;>
        simp [EntryPoint.program, LockSystem.Disciplined, lockGlobal, dropGlobal, allowed]
  | odbcStreamClose streamId found =>
      cases found <;>
        simp [EntryPoint.program, LockSystem.Disciplined, lockGlobal, dropGlobal, allowed]
  | odbcPoolGetConnection =>
      simp [EntryPoint.program, LockSystem.Disciplined, globalTimes, lockGlobal, dropGlobal,
        allowed]

/-- What is left of a worker that has its connection. -/
def sending (connId streamId messages : Nat) : Program :=
  List.replicate messages (.act (.send streamId)) ++ [.release (.connection connId)]

theorem retakes_sending (messages : Nat) :
    Retakes connId (sending connId streamId messages) = false := by
  induction messages with
  | zero => simp [sending, takesBefore]
  | succ messages ih => exact ih

/-- A worker at its messages holds its connection and nothing else. -/
theorem disciplined_sending_iff (messages : Nat) :
    Disciplined (.worker streamId) held (sending connId streamId messages) ↔
      .connection connId ∈ held ∧ ∀ lock ∈ held, lock = .connection connId := by
  induction messages with
  | zero => simp [sending, LockSystem.Disciplined, allowed]
  | succ messages ih => exact ⟨fun ⟨_, behind⟩ => ih.mp behind, fun own => ⟨rfl, ih.mpr own⟩⟩

theorem disciplined_workerProgram (connId streamId messages : Nat) :
    Disciplined (.worker streamId) [] (workerProgram connId streamId messages) := by
  refine ⟨by simp, ⟨by simp, .inr ⟨by simp, retakes_sending messages⟩⟩, ?_⟩
  exact (disciplined_sending_iff messages).mpr (by simp)

/-! ## Moves -/

/-- The actions leave the locks as they are, and touch no program but a new worker's. -/
theorem perform_frame {act : Act} (performed : perform act system = some next) :
    next.holder = system.holder ∧
      (next.program = system.program ∨
        ∃ streamId connId messages, act = .spawn streamId connId messages ∧
          system.program (.worker streamId) = [] ∧
          next.program = Function.update system.program (.worker streamId)
            (workerProgram connId streamId messages)) := by
  cases act with
  | work | tryReceive streamId | close streamId =>
      cases performed
      exact ⟨rfl, .inl rfl⟩
  | spawn streamId connId messages =>
      simp only [perform] at performed
      split_ifs at performed with fresh
      cases performed
      exact ⟨rfl, .inr ⟨streamId, connId, messages, rfl, fresh.2, rfl⟩⟩
  | send streamId =>
      simp only [perform] at performed
      split at performed
      · cases performed
      · split_ifs at performed <;> cases performed <;> exact ⟨rfl, .inl rfl⟩
  | receive streamId =>
      simp only [perform] at performed
      split at performed
      · cases performed
        exact ⟨rfl, .inl rfl⟩
      · split_ifs at performed <;> cases performed <;> exact ⟨rfl, .inl rfl⟩

theorem consistent_perform {act : Act} (consistent : system.Consistent allowed)
    (performed : perform act system = some next) : next.Consistent allowed := by
  obtain ⟨holder, program | ⟨streamId, connId, messages, -, idle, program⟩⟩ :=
    perform_frame performed
  · intro thread
    obtain ⟨held, holds⟩ := consistent thread
    exact ⟨held, holds.of_frame (congrFun program thread) fun lock => by rw [holder]⟩
  · intro thread
    obtain ⟨held, holds⟩ :=
      consistent.assign idle (disciplined_workerProgram connId streamId messages) thread
    exact ⟨held, holds.of_frame (congrFun program thread) fun lock => by rw [holder]; rfl⟩

end GlobalLock

end OdbcFast.Verification
