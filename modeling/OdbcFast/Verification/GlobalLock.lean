import Mathlib.Order.Nat
import OdbcFast.Verification.LockDiscipline

/-!
# The global lock and the stream workers

A stream's worker waits for its consumer, the consumer needs the global lock, and a call
that holds the global lock while it waits for the worker's connection closes the circle.
The calls below the global lock are therefore safe exactly while the connection they go
for has no worker that could come to wait, and nobody holds that connection who wants the
global lock back first.
-/

namespace OdbcFast.Verification

open Native Native.Locks Wire LockAction

namespace GlobalLock

variable {system next : System} {thread other : Thread} {connId streamId : Nat} {lock : Lock}
  {action : LockAction Lock Act} {rest : Program} {held : List Lock}

/-! ## What is to hold -/

/-- The messages a worker has still to send. -/
def unsent : Program → Nat
  | [] => 0
  | .act (.send _) :: rest => unsent rest + 1
  | _ :: rest => unsent rest

/-- A thread holds the global lock and waits for a connection whose holder, a stream's worker,
waits for its consumer. -/
def WaitsForWorker (system : System) : Prop :=
  ∃ thread connId streamId rest later channel,
    system.holder .global = some thread ∧
    system.program thread = .acquire (.connection connId) :: rest ∧
    system.holder (.connection connId) = some (.worker streamId) ∧
    system.program (.worker streamId) = .act (.send streamId) :: later ∧
    system.shared streamId = some channel ∧ channel.full = true ∧ channel.closed = false

/-- Some stream has messages that its consumer has not taken. -/
def Undelivered (system : System) : Prop :=
  ∃ streamId channel, system.shared streamId = some channel ∧ channel.closed = false ∧
    0 < unsent (system.program (.worker streamId)) + channel.full.toNat

/-- The threads at work can bring the system to where `odbc_stream_fetch` gets the global lock. -/
def FetchCanLock (system : System) : Prop :=
  ∃ (threads : List Thread) (final : System) (log : List Unit),
    run Locks.step (threads.map .move) system = some (final, log) ∧ final.holder .global = none

/-- No circle of waits, and a consumer that can get on while there is something to fetch. -/
structure ServesFetch (system : System) : Prop where
  noCircle : ¬ WaitsForWorker system
  canLock : Undelivered system → FetchCanLock system

/-! ## When it holds -/

/-- The stream's worker has more to send than its channel takes, and may come to wait while it
holds the connection. -/
def MayBlock (system : System) (connId streamId : Nat) : Prop :=
  ∃ channel, system.shared streamId = some channel ∧ channel.connId = connId ∧
    channel.closed = false ∧ 2 ≤ unsent (system.program (.worker streamId)) + channel.full.toNat

/-- Behind the program the connection is locked before the global lock is given back. -/
abbrev Enters (connId : Nat) (program : Program) : Bool :=
  takesBefore (.connection connId) .global program

/-- Nobody can keep a thread that holds the global lock from the connection for good. -/
def Clear (system : System) (connId : Nat) : Prop :=
  (∀ streamId, ¬ MayBlock system connId streamId) ∧
    ∀ other, system.holder (.connection connId) = some other →
      Retakes connId (system.program other) = false

/-- The global lock is taken for a connection only when the connection is clear, and no stream
of several messages is started on a connection that somebody under the global lock goes for. -/
def LockRule : Event → System → Prop
  | .call _ _, _ => True
  | .move thread, system =>
      match system.program thread with
      | .acquire .global :: rest =>
          ∀ connId, Enters connId rest = true → Clear system connId
      | .act (.spawn _ connId messages) :: _ =>
          2 ≤ messages → ∀ other, system.holder .global = some other →
            Enters connId (system.program other) = false
      | _ => True

/-! ## The invariant -/

/-- A worker has not begun, has still its connection to lock, or is at its messages. -/
def WorkerShape (system : System) (streamId : Nat) : Prop :=
  system.program (.worker streamId) = [] ∨
    ∃ channel messages, system.shared streamId = some channel ∧
      (system.program (.worker streamId) = workerProgram channel.connId streamId messages ∨
        system.program (.worker streamId) = sending channel.connId streamId messages)

/-- Behind every move the threads hold what they should, and a thread that goes for a
connection under the global lock is not in anybody's way. -/
structure LockInv (system : System) : Prop where
  consistent : system.Consistent allowed
  workers : ∀ streamId, WorkerShape system streamId
  entered : ∀ thread connId, system.holder .global = some thread →
    Enters connId (system.program thread) = true →
      (∀ streamId, ¬ MayBlock system connId streamId) ∧
        ∀ other ≠ thread, system.holder (.connection connId) = some other →
          Retakes connId (system.program other) = false

theorem lockInv_initial : LockInv Locks.initial where
  consistent := LockSystem.consistent_idle _
  workers _ := .inl rfl
  entered := by rintro _ _ ⟨⟩

theorem takesBefore_cons {taken given : Lock} (keeps : action ≠ .release given)
    (later : takesBefore taken given rest = true) :
    takesBefore taken given (action :: rest) = true := by
  cases action with
  | acquire lock => simp [takesBefore, later]
  | release lock =>
      have other : lock ≠ given := fun same => keeps (congrArg _ same)
      simp [takesBefore, later, other]
  | act act => exact later

theorem unsent_cons (quiet : ∀ streamId, action ≠ .act (.send streamId)) :
    unsent (action :: rest) = unsent rest := by
  cases action with
  | acquire lock => rfl
  | release lock => rfl
  | act act =>
      cases act with
      | send streamId => exact absurd rfl (quiet streamId)
      | _ => rfl

theorem unsent_sending (messages : Nat) : unsent (sending connId streamId messages) = messages := by
  induction messages with
  | zero => rfl
  | succ messages ih => exact congrArg (· + 1) ih

theorem unsent_le_cons : unsent rest ≤ unsent (action :: rest) := by
  by_cases quiet : ∀ streamId, action ≠ .act (.send streamId)
  · exact (unsent_cons quiet).ge
  · push Not at quiet
    obtain ⟨streamId, rfl⟩ := quiet
    exact Nat.le_succ _

section Channels

variable {act : Act} {channel : Channel}

theorem onChannel_shared {change : Channel → Channel} {target : Nat} :
    (onChannel target change system).shared streamId =
      if streamId = target then (system.shared streamId).map change
      else system.shared streamId := by
  by_cases same : streamId = target
  · subst same
    simp [onChannel]
  · simp [onChannel, same]

/-- What an action may make of the channel of a stream: it stays the stream's, and it grows
only by a send, which finds it open and empty. -/
def ChannelStep (act : Act) (streamId : Nat) (channel after : Channel) : Prop :=
  after.connId = channel.connId ∧
    (after.closed = false → channel.closed = false ∧
      (act = .send streamId ∧ channel.full = false ∨
        act ≠ .send streamId ∧ after.full.toNat ≤ channel.full.toNat))

theorem channelStep_same (other : act ≠ .send streamId) :
    ChannelStep act streamId channel channel :=
  ⟨rfl, fun live => ⟨live, .inr ⟨other, Nat.le_refl _⟩⟩⟩

theorem channelStep_drained (other : act ≠ .send streamId) :
    ChannelStep act streamId channel { channel with full := false } :=
  ⟨rfl, fun live => ⟨live, .inr ⟨other, Nat.zero_le _⟩⟩⟩

/-- A change of one channel, seen from any other. -/
theorem onChannel_step {change : Channel → Channel} {target : Nat}
    (there : system.shared streamId = some channel)
    (here : streamId = target → ChannelStep act streamId channel (change channel))
    (elsewhere : streamId ≠ target → act ≠ .send streamId) :
    ∃ after, (onChannel target change system).shared streamId = some after ∧
      ChannelStep act streamId channel after := by
  rw [onChannel_shared, there]
  by_cases same : streamId = target
  · rw [if_pos same]
    exact ⟨_, rfl, here same⟩
  · rw [if_neg same]
    exact ⟨_, rfl, channelStep_same (elsewhere same)⟩

/-- What an action makes of a channel that is there. -/
theorem perform_shared (performed : perform act system = some next)
    (there : system.shared streamId = some channel) :
    ∃ after, next.shared streamId = some after ∧ ChannelStep act streamId channel after := by
  cases act with
  | work =>
      cases performed
      exact ⟨channel, there, channelStep_same (by simp)⟩
  | spawn target connId messages =>
      simp only [perform] at performed
      split_ifs at performed with fresh
      cases performed
      have other : streamId ≠ target := by
        rintro rfl
        cases there.symm.trans fresh.1
      exact ⟨channel, by simp [other, there], channelStep_same (by simp)⟩
  | tryReceive target =>
      cases performed
      exact onChannel_step there (fun _ => channelStep_drained (by simp)) fun _ => by simp
  | close target =>
      cases performed
      exact onChannel_step there (fun _ => ⟨rfl, by rintro ⟨⟩⟩) fun _ => by simp
  | receive target =>
      simp only [perform] at performed
      split at performed
      · cases performed
        exact ⟨channel, there, channelStep_same (by simp)⟩
      · split_ifs at performed
        · cases performed
          exact onChannel_step there (fun _ => channelStep_drained (by simp)) fun _ => by simp
        · cases performed
          exact ⟨channel, there, channelStep_same (by simp)⟩
  | send target =>
      have elsewhere (different : streamId ≠ target) : Act.send target ≠ .send streamId := by
        rintro ⟨⟩
        exact different rfl
      simp only [perform] at performed
      split at performed
      · cases performed
      · rename_i found known
        split_ifs at performed with gone full
        · -- the receiver is gone, so nothing is asked of an open channel
          cases performed
          refine ⟨channel, there, rfl, fun live => ⟨live, .inr ⟨elsewhere ?_, Nat.le_refl _⟩⟩⟩
          rintro rfl
          cases there.symm.trans known
          rw [gone] at live
          cases live
        · cases performed
          refine onChannel_step there ?_ elsewhere
          rintro rfl
          cases there.symm.trans known
          exact ⟨rfl, fun live => ⟨live, .inl ⟨rfl, Bool.eq_false_iff.mpr full⟩⟩⟩

theorem onChannel_absent {change : Channel → Channel} {target : Nat}
    (absent : system.shared streamId = none) :
    (onChannel target change system).shared streamId = none := by
  rw [onChannel_shared, absent]
  exact ite_self none

theorem perform_shared_none (performed : perform act system = some next)
    (plain : ∀ streamId connId messages, act ≠ .spawn streamId connId messages)
    (absent : system.shared streamId = none) : next.shared streamId = none := by
  cases act with
  | work =>
      cases performed
      exact absent
  | spawn target connId messages => exact absurd rfl (plain target connId messages)
  | tryReceive target | close target =>
      cases performed
      exact onChannel_absent absent
  | receive target =>
      simp only [perform] at performed
      split at performed
      · cases performed
        exact absent
      · split_ifs at performed
        · cases performed
          exact onChannel_absent absent
        · cases performed
          exact absent
  | send target =>
      simp only [perform] at performed
      split at performed
      · cases performed
      · split_ifs at performed
        · cases performed
          exact absent
        · cases performed
          exact onChannel_absent absent

/-- A new stream starts with its whole load and an empty channel. -/
theorem perform_spawn {connId messages : Nat}
    (performed : perform (.spawn streamId connId messages) system = some next) :
    system.shared streamId = none ∧ system.program (.worker streamId) = [] ∧
      next.shared = Function.update system.shared streamId (some { connId }) ∧
      next.program = Function.update system.program (.worker streamId)
        (workerProgram connId streamId messages) := by
  simp only [perform] at performed
  split_ifs at performed with fresh
  cases performed
  exact ⟨fresh.1, fresh.2, rfl, rfl⟩

end Channels

/-! ## What a move keeps -/

/-- The programs behind a move that starts no worker. -/
theorem program_of_moved (moved : system.advance perform thread = some next)
    (program : system.program thread = action :: rest)
    (plain : ∀ streamId connId messages, action ≠ .act (.spawn streamId connId messages)) :
    next.program = Function.update system.program thread rest := by
  obtain ⟨lock, behind, ahead, -, rfl⟩ | ⟨lock, behind, ahead, -, rfl⟩ |
    ⟨act, behind, ahead, performed⟩ := LockSystem.advance_cases moved
  · cases program.symm.trans ahead
    rfl
  · cases program.symm.trans ahead
    rfl
  · cases program.symm.trans ahead
    obtain ⟨-, same | ⟨streamId, connId, messages, rfl, -, -⟩⟩ := perform_frame performed
    · exact same
    · exact absurd rfl (plain streamId connId messages)

theorem WorkerShape.act {act : Act} (shape : WorkerShape system streamId)
    (program : system.program thread = .act act :: rest)
    (performed : perform act (system.assign thread rest) = some next) :
    WorkerShape next streamId := by
  obtain ⟨-, same | ⟨target, connId, messages, rfl, -, -⟩⟩ := perform_frame performed
  · by_cases mine : Thread.worker streamId = thread
    · subst mine
      obtain idle | ⟨channel, messages, known, starting | sent⟩ := shape
      · cases idle.symm.trans program
      · cases starting.symm.trans program
      · cases messages with
        | zero => cases sent.symm.trans program
        | succ messages =>
            cases sent.symm.trans program
            obtain ⟨after, known', own, -⟩ := perform_shared performed known
            refine .inr ⟨after, messages, known', .inr ?_⟩
            rw [same, own, LockSystem.assign_program, Function.update_self]
            rfl
    · have unmoved : next.program (.worker streamId) = system.program (.worker streamId) := by
        rw [same, LockSystem.assign_program, Function.update_of_ne mine]
      obtain idle | ⟨channel, messages, known, ahead⟩ := shape
      · exact .inl (unmoved.trans idle)
      · obtain ⟨after, known', own, -⟩ := perform_shared performed known
        refine .inr ⟨after, messages, known', ?_⟩
        rw [own, unmoved]
        exact ahead
  · obtain ⟨-, -, shared, programs⟩ := perform_spawn performed
    by_cases here : streamId = target
    · subst here
      exact .inr ⟨{ connId }, messages, by simp [shared], .inl (by simp [programs])⟩
    · have elsewhere : Thread.worker streamId ≠ .worker target := fun same => by
        cases same
        exact here rfl
      by_cases mine : Thread.worker streamId = thread
      · subst mine
        obtain idle | ⟨channel, messages, known, starting | sent⟩ := shape
        · cases idle.symm.trans program
        · cases starting.symm.trans program
        · cases messages <;> cases sent.symm.trans program
      · simpa [WorkerShape, shared, programs, here, elsewhere, mine] using shape

theorem WorkerShape.move (shape : WorkerShape system streamId)
    (moved : system.advance perform thread = some next) : WorkerShape next streamId := by
  obtain ⟨lock, rest, program, -, rfl⟩ | ⟨lock, rest, program, -, rfl⟩ |
    ⟨act, rest, program, performed⟩ := LockSystem.advance_cases moved
  · by_cases mine : Thread.worker streamId = thread
    · subst mine
      obtain idle | ⟨channel, messages, known, starting | sent⟩ := shape
      · cases idle.symm.trans program
      · cases starting.symm.trans program
        exact .inr ⟨channel, messages, known, .inr (by simp; rfl)⟩
      · cases messages <;> cases sent.symm.trans program
    · simpa [WorkerShape, mine] using shape
  · by_cases mine : Thread.worker streamId = thread
    · subst mine
      obtain idle | ⟨channel, messages, known, starting | sent⟩ := shape
      · cases idle.symm.trans program
      · cases starting.symm.trans program
      · cases messages with
        | zero =>
            cases sent.symm.trans program
            exact .inl (by simp)
        | succ messages => cases sent.symm.trans program
    · simpa [WorkerShape, mine] using shape
  · exact shape.act program performed

/-- A thread's next action is allowed where it stands. -/
theorem disciplined_of_consistent (consistent : system.Consistent allowed)
    (program : system.program thread = action :: rest) :
    ∃ held, (∀ lock, lock ∈ held ↔ system.holder lock = some thread) ∧
      Disciplined thread held (action :: rest) := by
  obtain ⟨held, holds⟩ := consistent thread
  exact ⟨held, holds.mem_iff, program ▸ holds.disciplined⟩

theorem holder_ne_of_idle (consistent : system.Consistent allowed)
    (idle : system.program thread = []) : system.holder lock ≠ some thread := by
  intro mine
  obtain ⟨held, holds⟩ := consistent thread
  cases holds.nil_of_idle idle
  cases (holds.mem_iff lock).mpr mine

/-- What a move does to a lock. -/
theorem holder_cases (moved : system.advance perform thread = some next)
    (program : system.program thread = action :: rest) (lock : Lock) :
    action = .acquire lock ∧ next.holder lock = some thread ∨
      action = .release lock ∧ system.holder lock = some thread ∧ next.holder lock = none ∨
      action ≠ .release lock ∧ next.holder lock = system.holder lock := by
  obtain ⟨taken, behind, ahead, -, rfl⟩ | ⟨given, behind, ahead, mine, rfl⟩ |
    ⟨act, behind, ahead, performed⟩ := LockSystem.advance_cases moved
  · cases program.symm.trans ahead
    by_cases here : lock = taken
    · subst here
      exact .inl ⟨rfl, by simp⟩
    · exact .inr (.inr ⟨by simp, by simp [here]⟩)
  · cases program.symm.trans ahead
    by_cases here : lock = given
    · subst here
      exact .inr (.inl ⟨rfl, mine, by simp⟩)
    · exact .inr (.inr ⟨by simpa using Ne.symm here, by simp [here]⟩)
  · cases program.symm.trans ahead
    rw [(perform_frame performed).1]
    exact .inr (.inr ⟨by simp, rfl⟩)

/-- Who holds a lock behind a move held it before, or took it. -/
theorem holder_of_moved (moved : system.advance perform thread = some next)
    (program : system.program thread = action :: rest) (held : next.holder lock = some other) :
    system.holder lock = some other ∧ action ≠ .release lock ∨
      action = .acquire lock ∧ other = thread := by
  obtain ⟨taken, mine⟩ | ⟨-, -, free⟩ | ⟨keeps, same⟩ := holder_cases moved program lock
  · exact .inr ⟨taken, Option.some.inj (held.symm.trans mine)⟩
  · cases held.symm.trans free
  · exact .inl ⟨same.symm.trans held, keeps⟩

/-- A move that starts no stream gives no worker more to send than its channel takes. -/
theorem mayBlock_of_moved (consistent : system.Consistent allowed)
    (moved : system.advance perform thread = some next)
    (program : system.program thread = action :: rest)
    (plain : ∀ streamId connId messages, action ≠ .act (.spawn streamId connId messages))
    (blocks : MayBlock next connId streamId) : MayBlock system connId streamId := by
  have programs := program_of_moved moved program plain
  have fewer : unsent (next.program (.worker streamId)) ≤
      unsent (system.program (.worker streamId)) := by
    rw [programs]
    by_cases mine : Thread.worker streamId = thread
    · subst mine
      rw [Function.update_self, program]
      exact unsent_le_cons
    · rw [Function.update_of_ne mine]
  obtain ⟨channel, known, own, live, load⟩ := blocks
  obtain ⟨lock, behind, -, -, rfl⟩ | ⟨lock, behind, -, -, rfl⟩ |
    ⟨act, behind, ahead, performed⟩ := LockSystem.advance_cases moved
  · exact ⟨channel, known, own, live, load.trans (Nat.add_le_add_right fewer _)⟩
  · exact ⟨channel, known, own, live, load.trans (Nat.add_le_add_right fewer _)⟩
  · cases program.symm.trans ahead
    cases there : system.shared streamId with
    | none =>
        have absent := perform_shared_none performed
          (fun target connId messages same => plain target connId messages (congrArg _ same)) there
        cases known.symm.trans absent
    | some before =>
        obtain ⟨after, known', same, change⟩ := perform_shared performed there
        cases known.symm.trans known'
        obtain ⟨liveBefore, ⟨rfl, empty⟩ | ⟨-, less⟩⟩ := change live
        · -- The message goes from the worker's program into the channel.
          obtain ⟨held, -, sender, -⟩ := disciplined_of_consistent consistent program
          cases sender
          refine ⟨before, there, same ▸ own, liveBefore, ?_⟩
          rw [programs, Function.update_self] at load
          rw [program, empty]
          have slot := Bool.toNat_le channel.full
          simp only [unsent, Bool.toNat_false]
          omega
        · exact ⟨before, there, same ▸ own, liveBefore, load.trans (Nat.add_le_add fewer less)⟩

namespace LockInv

/-- A thread that goes for the connection under the global lock went for it before, or has
just taken the global lock by the rule. -/
theorem entering (inv : LockInv system) (rule : LockRule (.move thread) system)
    (moved : system.advance perform thread = some next)
    (program : system.program thread = action :: rest)
    (programs : next.program = Function.update system.program thread rest)
    (holds : next.holder .global = some other) (enters : Enters connId (next.program other) = true) :
    (∀ streamId, ¬ MayBlock system connId streamId) ∧
      ∀ third ≠ other, system.holder (.connection connId) = some third →
        Retakes connId (system.program third) = false := by
  obtain ⟨held, keeps⟩ | ⟨rfl, rfl⟩ := holder_of_moved moved program holds
  · refine inv.entered other connId held ?_
    rw [programs] at enters
    by_cases mine : other = thread
    · subst mine
      rw [Function.update_self] at enters
      rw [program]
      exact takesBefore_cons keeps enters
    · rwa [Function.update_of_ne mine] at enters
  · rw [programs, Function.update_self] at enters
    simp only [LockRule, program] at rule
    obtain ⟨free, given⟩ := rule connId enters
    exact ⟨free, fun third _ holds => given third holds⟩

/-- A thread without the global lock does not want it before it gives the connection back. -/
theorem retakes_of_moved (inv : LockInv system)
    (moved : system.advance perform thread = some next)
    (program : system.program thread = action :: rest)
    (outside : system.holder .global ≠ some thread)
    (before : system.holder (.connection connId) = some thread →
      Retakes connId (system.program thread) = false)
    (holds : next.holder (.connection connId) = some thread) : Retakes connId rest = false := by
  obtain ⟨held, keeps⟩ | ⟨rfl, -⟩ := holder_of_moved moved program holds
  · have earlier := before held
    rw [program] at earlier
    by_contra later
    cases (takesBefore_cons keeps (eq_true_of_ne_false later)).symm.trans earlier
  · obtain ⟨held, mem_iff, -, ⟨-, inside | ⟨-, given⟩⟩, -⟩ :=
      disciplined_of_consistent inv.consistent program
    · exact absurd ((mem_iff _).mp inside) outside
    · exact given

theorem entered_of_moved (inv : LockInv system) (rule : LockRule (.move thread) system)
    (moved : system.advance perform thread = some next)
    (program : system.program thread = action :: rest)
    (plain : ∀ streamId connId messages, action ≠ .act (.spawn streamId connId messages))
    (holds : next.holder .global = some other) (enters : Enters connId (next.program other) = true) :
    (∀ streamId, ¬ MayBlock next connId streamId) ∧
      ∀ third ≠ other, next.holder (.connection connId) = some third →
        Retakes connId (next.program third) = false := by
  have programs := program_of_moved moved program plain
  obtain ⟨free, given⟩ := inv.entering rule moved program programs holds enters
  refine ⟨?_, ?_⟩
  · intro streamId blocks
    exact free streamId (mayBlock_of_moved inv.consistent moved program plain blocks)
  · intro third different taken
    rw [programs]
    by_cases mine : third = thread
    · subst mine
      rw [Function.update_self]
      refine inv.retakes_of_moved moved program ?_ (given third different) taken
      intro inside
      obtain ⟨held, -⟩ | ⟨-, same⟩ := holder_of_moved moved program holds
      · cases held.symm.trans inside
        exact different rfl
      · exact different same.symm
    · rw [Function.update_of_ne mine]
      obtain ⟨held, -⟩ | ⟨-, same⟩ := holder_of_moved moved program taken
      · exact given third different held
      · exact absurd same mine

/-- The start of a stream. -/
theorem entered_of_spawn {target started messages : Nat} (inv : LockInv system)
    (rule : LockRule (.move thread) system)
    (program : system.program thread = .act (.spawn target started messages) :: rest)
    (performed : perform (.spawn target started messages) (system.assign thread rest) = some next)
    (holds : next.holder .global = some other) (enters : Enters connId (next.program other) = true) :
    (∀ streamId, ¬ MayBlock next connId streamId) ∧
      ∀ third ≠ other, next.holder (.connection connId) = some third →
        Retakes connId (next.program third) = false := by
  obtain ⟨fresh, idle, shared, programs⟩ := perform_spawn performed
  have holder : next.holder = system.holder := (perform_frame performed).1
  have passed : (system.assign thread rest).Consistent allowed := inv.consistent.pass program
  obtain ⟨held, mem_iff, none, -⟩ := disciplined_of_consistent inv.consistent program
  have unmoved : ∀ {lock third}, next.holder lock = some third →
      next.program third = system.program third := by
    intro lock third holds
    rw [holder] at holds
    have notWorker : third ≠ .worker target := by
      rintro rfl
      exact holder_ne_of_idle passed idle holds
    have notMine : third ≠ thread := by
      rintro rfl
      have member := (mem_iff lock).mpr holds
      rw [none] at member
      cases member
    rw [programs, Function.update_of_ne notWorker, LockSystem.assign_program,
      Function.update_of_ne notMine]
  rw [unmoved holds] at enters
  rw [holder] at holds
  obtain ⟨free, given⟩ := inv.entered other connId holds enters
  refine ⟨?_, ?_⟩
  · rintro streamId ⟨channel, known, own, live, load⟩
    rw [shared] at known
    by_cases here : streamId = target
    · subst here
      rw [Function.update_self] at known
      cases known
      cases own
      rw [programs, Function.update_self] at load
      have load : 2 ≤ unsent (sending started streamId messages) := load
      rw [unsent_sending] at load
      simp only [LockRule, program] at rule
      rw [rule load other holds] at enters
      cases enters
    · rw [Function.update_of_ne here] at known
      refine free streamId ⟨channel, known, own, live, load.trans (Nat.add_le_add_right ?_ _)⟩
      have elsewhere : Thread.worker streamId ≠ .worker target := fun same => by
        cases same
        exact here rfl
      rw [programs, Function.update_of_ne elsewhere, LockSystem.assign_program]
      by_cases mine : Thread.worker streamId = thread
      · subst mine
        rw [Function.update_self, program]
        exact unsent_le_cons
      · rw [Function.update_of_ne mine]
  · intro third different taken
    rw [unmoved taken]
    rw [holder] at taken
    exact given third different taken

theorem move (inv : LockInv system) (rule : LockRule (.move thread) system)
    (moved : system.advance perform thread = some next) : LockInv next where
  consistent := inv.consistent.advance consistent_perform moved
  workers streamId := (inv.workers streamId).move moved
  entered := by
    intro other connId holds enters
    cases program : system.program thread with
    | nil =>
        unfold LockSystem.advance at moved
        rw [program] at moved
        cases moved
    | cons action rest =>
        by_cases plain : ∀ streamId connId messages,
            action ≠ .act (.spawn streamId connId messages)
        · exact inv.entered_of_moved rule moved program plain holds enters
        · push Not at plain
          obtain ⟨target, started, messages, rfl⟩ := plain
          rw [LockSystem.advance_act program] at moved
          exact inv.entered_of_spawn rule program moved holds enters

/-- A call begins on a thread that does nothing and holds nothing. -/
theorem call {number : Nat} {entry : EntryPoint} (inv : LockInv system)
    (idle : system.program (.caller number) = []) :
    LockInv (system.assign (.caller number) entry.program) where
  consistent := inv.consistent.assign idle (disciplined_program entry)
  workers streamId := by simpa [WorkerShape] using inv.workers streamId
  entered := by
    intro other connId holds enters
    have unmoved : ∀ {lock third}, system.holder lock = some third →
        (system.assign (.caller number) entry.program).program third = system.program third := by
      intro lock third holds
      have notCaller : third ≠ .caller number := by
        rintro rfl
        exact holder_ne_of_idle inv.consistent idle holds
      rw [LockSystem.assign_program, Function.update_of_ne notCaller]
    rw [unmoved holds] at enters
    obtain ⟨free, given⟩ := inv.entered other connId holds enters
    refine ⟨?_, ?_⟩
    · rintro streamId ⟨channel, known, own, live, load⟩
      refine free streamId ⟨channel, known, own, live, ?_⟩
      simpa using load
    · intro third different taken
      rw [unmoved taken]
      exact given third different taken

theorem step {event : Event} {output : Unit} (inv : LockInv system) (rule : LockRule event system)
    (stepped : Locks.step event system = some (next, output)) : LockInv next := by
  cases event with
  | call number entry =>
      simp only [Locks.step] at stepped
      split_ifs at stepped with idle
      cases stepped
      exact inv.call idle
  | move thread =>
      obtain ⟨after, moved, same⟩ := Option.map_eq_some_iff.mp stepped
      cases same
      exact inv.move rule moved

end LockInv

/-! ## The global lock comes free -/

/-- Some thread moves. -/
def Moves (system next : System) : Prop := ∃ thread, system.advance perform thread = some next

/-- Moves are a run without calls. -/
theorem exists_run_of_moves {final : System} (moves : Relation.ReflTransGen Moves system final) :
    ∃ (threads : List Thread) (log : List Unit),
      run Locks.step (threads.map .move) system = some (final, log) := by
  induction moves using Relation.ReflTransGen.head_induction_on with
  | refl => exact ⟨[], [], rfl⟩
  | head first _ ih =>
      obtain ⟨thread, moved⟩ := first
      obtain ⟨threads, log, ran⟩ := ih
      refine ⟨thread :: threads, () :: log, run_cons_eq_some.mpr ⟨_, ?_, ran⟩⟩
      simp only [Locks.step, moved, Option.map_some]

/-- The rule only speaks of taking the global lock and of starting streams. -/
theorem lockRule_of_plain (program : system.program thread = action :: rest)
    (entry : action ≠ .acquire .global)
    (plain : ∀ streamId connId messages, action ≠ .act (.spawn streamId connId messages)) :
    LockRule (.move thread) system := by
  simp only [LockRule, program]
  split
  · rename_i same
    cases same
    exact absurd rfl entry
  · rename_i same
    cases same
    exact absurd rfl (plain _ _ _)
  · trivial

/-- A thread that holds a lock is only kept by a lock that another one holds, or by a full
channel. -/
theorem LockInv.exists_move (inv : LockInv system)
    (program : system.program thread = action :: rest) (mine : system.holder lock = some thread)
    (entry : action ≠ .acquire .global)
    (free : ∀ taken, action = .acquire taken → system.holder taken = none)
    (room : ∀ streamId, action = .act (.send streamId) →
      ∃ channel, system.shared streamId = some channel ∧
        (channel.closed = true ∨ channel.full = false)) :
    ∃ next, system.advance perform thread = some next ∧ LockInv next ∧
      next.program = Function.update system.program thread rest := by
  obtain ⟨held, mem_iff, disciplined⟩ := disciplined_of_consistent inv.consistent program
  have busy : held ≠ [] := by
    intro none
    have member := (mem_iff lock).mpr mine
    rw [none] at member
    cases member
  have plain : ∀ streamId connId messages,
      action ≠ .act (.spawn streamId connId messages) := by
    rintro streamId connId messages rfl
    exact busy disciplined.1
  have able : ∃ next, system.advance perform thread = some next := by
    cases action with
    | acquire taken => exact ⟨_, LockSystem.advance_acquire program (free taken rfl)⟩
    | release given =>
        exact ⟨_, LockSystem.advance_release program ((mem_iff given).mp disciplined.1)⟩
    | act act =>
        rw [LockSystem.advance_act program]
        cases act with
        | work | tryReceive streamId | close streamId => exact ⟨_, rfl⟩
        | spawn streamId connId messages => exact absurd rfl (plain streamId connId messages)
        | receive streamId => exact absurd disciplined.1 busy
        | send streamId =>
            obtain ⟨channel, known, gone | empty⟩ := room streamId rfl
            · simp [perform, known, gone]
            · cases gone : channel.closed <;> simp [perform, known, gone, empty]
  obtain ⟨next, moved⟩ := able
  exact ⟨next, moved, inv.move (lockRule_of_plain program entry plain) moved,
    program_of_moved moved program plain⟩

/-- A worker at its messages holds only its connection. -/
theorem LockInv.worker_holds (inv : LockInv system)
    (program : system.program (.worker streamId) = .act (.send streamId) :: rest)
    (mine : system.holder lock = some (.worker streamId)) :
    ∃ channel, system.shared streamId = some channel ∧ lock = .connection channel.connId := by
  obtain ⟨held, holds⟩ := inv.consistent (.worker streamId)
  obtain idle | ⟨channel, messages, known, starting | sent⟩ := inv.workers streamId
  · cases idle.symm.trans program
  · cases starting.symm.trans program
  · have disciplined := holds.disciplined
    rw [sent] at disciplined
    obtain ⟨-, only⟩ := (disciplined_sending_iff messages).mp disciplined
    exact ⟨channel, known, only lock ((holds.mem_iff lock).mpr mine)⟩

/-- A thread that waits for nobody while it holds a lock comes to give it back, and meanwhile
the others stay where they are. -/
theorem LockInv.exists_release (inv : LockInv system) (mine : system.holder lock = some thread)
    (outside : system.holder .global ≠ some thread)
    (passes : ∀ {later : System} {action rest}, LockInv later →
      later.holder lock = some thread → later.holder .global = system.holder .global →
      (∀ other ≠ thread, later.program other = system.program other) →
      later.program thread = action :: rest →
      (∀ taken, action ≠ .acquire taken) ∧
        ∀ streamId, action = .act (.send streamId) →
          ∃ channel, later.shared streamId = some channel ∧
            (channel.closed = true ∨ channel.full = false)) :
    ∃ next, Relation.ReflTransGen Moves system next ∧ LockInv next ∧ next.holder lock = none ∧
      next.holder .global = system.holder .global ∧
      ∀ other ≠ thread, next.program other = system.program other := by
  -- The induction is on what the thread has still to do.
  induction ahead : system.program thread generalizing system with
  | nil => exact absurd mine (holder_ne_of_idle inv.consistent ahead)
  | cons action rest ih =>
      obtain ⟨takesNone, room⟩ := passes inv mine rfl (fun _ _ => rfl) ahead
      obtain ⟨next, moved, after, programs⟩ := inv.exists_move ahead mine (takesNone .global)
        (fun taken same => absurd same (takesNone taken)) room
      have others : ∀ other ≠ thread, next.program other = system.program other := by
        intro other different
        rw [programs, Function.update_of_ne different]
      have global : next.holder .global = system.holder .global := by
        obtain ⟨taken, -⟩ | ⟨-, inside, -⟩ | ⟨-, same⟩ := holder_cases moved ahead .global
        · exact absurd taken (takesNone .global)
        · exact absurd inside outside
        · exact same
      have first : Relation.ReflTransGen Moves system next := .single ⟨thread, moved⟩
      obtain ⟨taken, -⟩ | ⟨-, -, given⟩ | ⟨-, still⟩ := holder_cases moved ahead lock
      · exact absurd taken (takesNone lock)
      · exact ⟨next, first, after, given, global, others⟩
      · obtain ⟨final, moves, inv', given, global', others'⟩ := ih after (still.trans mine)
          (global ▸ outside) (fun inv mine global' others' => passes inv mine (global'.trans global)
            fun other different => (others' other different).trans (others other different))
          (by rw [programs, Function.update_self])
        exact ⟨final, first.trans moves, inv', given, global'.trans global,
          fun other different => (others' other different).trans (others other different)⟩

/-- Whoever holds the handles without the global lock takes no other lock before giving them
back. -/
theorem LockInv.handles_released (inv : LockInv system)
    (mine : system.holder .handles = some thread) (outside : system.holder .global ≠ some thread) :
    ∃ next, Relation.ReflTransGen Moves system next ∧ LockInv next ∧
      next.holder .handles = none ∧ next.holder .global = system.holder .global ∧
      ∀ other ≠ thread, next.program other = system.program other := by
  refine inv.exists_release mine outside ?_
  intro later action rest inv mine global _ program
  obtain ⟨held, mem_iff, disciplined⟩ := disciplined_of_consistent inv.consistent program
  have handles : Lock.handles ∈ held := (mem_iff _).mpr mine
  have noGlobal : Lock.global ∉ held := fun inside => outside (global ▸ (mem_iff _).mp inside)
  refine ⟨?_, ?_⟩
  · rintro taken rfl
    obtain ⟨fresh, stands, -⟩ := disciplined
    cases taken with
    | global => exact stands handles
    | handles => exact fresh handles
    | connection connId =>
        obtain ⟨-, inside | ⟨without, -⟩⟩ := stands
        · exact noGlobal inside
        · exact without handles
  · rintro streamId rfl
    obtain ⟨sender, -⟩ := disciplined
    cases sender
    obtain ⟨channel, -, impossible⟩ := inv.worker_holds program mine
    cases impossible

/-- Whoever holds a connection that a thread under the global lock goes for gives it back. -/
theorem LockInv.connection_released (inv : LockInv system)
    (inside : system.holder .global = some thread)
    (enters : Enters connId (system.program thread) = true) (different : other ≠ thread)
    (mine : system.holder (.connection connId) = some other) :
    ∃ next, Relation.ReflTransGen Moves system next ∧ LockInv next ∧
      next.holder (.connection connId) = none ∧ next.holder .global = system.holder .global ∧
      ∀ third ≠ other, next.program third = system.program third := by
  have outside : system.holder .global ≠ some other := by
    intro same
    cases inside.symm.trans same
    exact different rfl
  refine inv.exists_release mine outside ?_
  intro later action rest inv mine global others program
  have entersLater : Enters connId (later.program thread) = true := by
    rw [others thread different.symm]
    exact enters
  obtain ⟨free, given⟩ := inv.entered thread connId (global.trans inside) entersLater
  obtain ⟨held, mem_iff, disciplined⟩ := disciplined_of_consistent inv.consistent program
  have connection : Lock.connection connId ∈ held := (mem_iff _).mpr mine
  refine ⟨?_, ?_⟩
  · rintro taken rfl
    obtain ⟨-, stands, -⟩ := disciplined
    cases taken with
    | global =>
        have retakes := given other different mine
        rw [program] at retakes
        simp [takesBefore] at retakes
    | handles => exact stands connId connection
    | connection connId' => exact stands.1 connId connection
  · rintro streamId rfl
    obtain ⟨sender, -⟩ := disciplined
    cases sender
    obtain ⟨channel, known, same⟩ := inv.worker_holds program mine
    cases same
    refine ⟨channel, known, ?_⟩
    by_contra stuck
    push Not at stuck
    refine free streamId ⟨channel, known, rfl, Bool.eq_false_iff.mpr stuck.1, ?_⟩
    rw [program, eq_true_of_ne_false stuck.2]
    simp [unsent]

/-- The lock that the holder of the global lock wants next comes free. -/
theorem LockInv.exists_free (inv : LockInv system) (inside : system.holder .global = some thread)
    (program : system.program thread = .acquire lock :: rest) :
    ∃ next, Relation.ReflTransGen Moves system next ∧ LockInv next ∧ next.holder lock = none ∧
      next.holder .global = some thread ∧ next.program thread = system.program thread := by
  obtain ⟨held, mem_iff, fresh, -⟩ := disciplined_of_consistent inv.consistent program
  have global : Lock.global ∈ held := (mem_iff _).mpr inside
  cases taken : system.holder lock with
  | none => exact ⟨system, .refl, inv, taken, inside, rfl⟩
  | some other =>
      have different : other ≠ thread := by
        rintro rfl
        exact fresh ((mem_iff lock).mpr taken)
      have outside : system.holder .global ≠ some other := by
        intro same
        cases inside.symm.trans same
        exact different rfl
      have released : ∃ next, Relation.ReflTransGen Moves system next ∧ LockInv next ∧
          next.holder lock = none ∧ next.holder .global = system.holder .global ∧
          ∀ third ≠ other, next.program third = system.program third := by
        cases lock with
        | global => exact absurd global fresh
        | handles => exact inv.handles_released taken outside
        | connection connId =>
            refine inv.connection_released inside ?_ different taken
            rw [program]
            simp [takesBefore]
      obtain ⟨next, moves, after, free, still, others⟩ := released
      exact ⟨next, moves, after, free, still.trans inside, others thread different.symm⟩

/-- The global lock comes free: its holder runs on, and whoever holds a lock it wants before. -/
theorem LockInv.global_released (inv : LockInv system)
    (inside : system.holder .global = some thread) :
    ∃ next, Relation.ReflTransGen Moves system next ∧ next.holder .global = none := by
  induction ahead : system.program thread generalizing system with
  | nil => exact absurd inside (holder_ne_of_idle inv.consistent ahead)
  | cons action rest ih =>
      have entry : action ≠ .acquire .global := by
        rintro rfl
        obtain ⟨held, mem_iff, fresh, -⟩ := disciplined_of_consistent inv.consistent ahead
        exact fresh ((mem_iff _).mpr inside)
      have cleared : ∃ ready, Relation.ReflTransGen Moves system ready ∧ LockInv ready ∧
          (∀ taken, action = .acquire taken → ready.holder taken = none) ∧
          ready.holder .global = some thread ∧ ready.program thread = action :: rest := by
        cases action with
        | acquire taken =>
            obtain ⟨ready, moves, after, free, still, program⟩ := inv.exists_free inside ahead
            refine ⟨ready, moves, after, ?_, still, program.trans ahead⟩
            rintro _ ⟨⟩
            exact free
        | release given => exact ⟨system, .refl, inv, by rintro _ ⟨⟩, inside, ahead⟩
        | act act => exact ⟨system, .refl, inv, by rintro _ ⟨⟩, inside, ahead⟩
      obtain ⟨ready, moves, inv, free, inside, ahead⟩ := cleared
      have room : ∀ streamId, action = .act (.send streamId) →
          ∃ channel, ready.shared streamId = some channel ∧
            (channel.closed = true ∨ channel.full = false) := by
        rintro streamId rfl
        obtain ⟨held, -, sender, -⟩ := disciplined_of_consistent inv.consistent ahead
        cases sender
        obtain ⟨channel, -, impossible⟩ := inv.worker_holds ahead inside
        cases impossible
      obtain ⟨next, moved, after, programs⟩ := inv.exists_move ahead inside entry free room
      have first : Relation.ReflTransGen Moves system next := moves.tail ⟨thread, moved⟩
      obtain ⟨taken, -⟩ | ⟨-, -, given⟩ | ⟨-, still⟩ := holder_cases moved ahead .global
      · exact absurd taken entry
      · exact ⟨next, first, given⟩
      · obtain ⟨final, later, given⟩ := ih after (still.trans inside)
          (by rw [programs, Function.update_self])
        exact ⟨final, first.trans later, given⟩

theorem LockInv.servesFetch (inv : LockInv system) : ServesFetch system where
  noCircle := by
    rintro ⟨thread, connId, streamId, rest, later, channel, inside, program, holds, sends, known,
      full, live⟩
    have enters : Enters connId (system.program thread) = true := by
      rw [program]
      simp [takesBefore]
    obtain ⟨own, known', same⟩ := inv.worker_holds sends holds
    cases known.symm.trans known'
    cases same
    refine (inv.entered thread _ inside enters).1 streamId ⟨channel, known, rfl, live, ?_⟩
    rw [sends, full]
    simp [unsent]
  canLock := by
    intro _
    cases taken : system.holder .global with
    | none => exact ⟨[], system, [], rfl, taken⟩
    | some thread =>
        obtain ⟨next, moves, free⟩ := inv.global_released taken
        obtain ⟨threads, log, ran⟩ := exists_run_of_moves moves
        exact ⟨threads, next, log, ran, free⟩

end GlobalLock

open GlobalLock in
/-- In every interleaving in which the global lock is only taken for connections that are
clear, no thread under the global lock waits for a worker that waits for its consumer, and
the consumer can get the global lock. -/
theorem servesFetch_of_run (events : List Locks.Event) {system : Locks.System} {log : List Unit}
    (along : Along Locks.step LockRule events Locks.initial)
    (ran : run Locks.step events Locks.initial = some (system, log)) : ServesFetch system := by
  have inv : LockInv system :=
    run_invariant_along (fun _ => LockInv) (fun inv rule stepped => inv.step rule stepped) []
      lockInv_initial along ran
  exact inv.servesFetch

/-- A catalog call on another connection, while a stream's worker waits to be fetched from. -/
theorem servesFetch_of_run_elsewhere :
    ∃ system log,
      run Locks.step (.call 0 (.odbcStreamStartBatched 1 7 3 true) ::
          (List.replicate 7 (.move (.caller 0)) ++ List.replicate 2 (.move (.worker 1)) ++
            [.call 1 (.odbcCatalogTables 8 false), .move (.caller 1)]))
        Locks.initial = some (system, log) ∧
      GlobalLock.Undelivered system ∧ GlobalLock.ServesFetch system := by
  have along : Along Locks.step GlobalLock.LockRule
      (.call 0 (.odbcStreamStartBatched 1 7 3 true) ::
          (List.replicate 7 (.move (.caller 0)) ++ List.replicate 2 (.move (.worker 1)) ++
            [.call 1 (.odbcCatalogTables 8 false), .move (.caller 1)])) Locks.initial := by
    refine (along_cons_iff rfl).mpr ⟨trivial, ?_⟩
    refine (along_cons_iff rfl).mpr ⟨by rintro connId ⟨⟩, ?_⟩
    refine (along_cons_iff rfl).mpr ⟨trivial, ?_⟩
    refine (along_cons_iff rfl).mpr ⟨trivial, ?_⟩
    refine (along_cons_iff rfl).mpr ⟨trivial, ?_⟩
    refine (along_cons_iff rfl).mpr ⟨by rintro _ _ ⟨⟩, ?_⟩
    refine (along_cons_iff rfl).mpr ⟨by rintro connId ⟨⟩, ?_⟩
    refine (along_cons_iff rfl).mpr ⟨trivial, ?_⟩
    refine (along_cons_iff rfl).mpr ⟨trivial, ?_⟩
    refine (along_cons_iff rfl).mpr ⟨trivial, ?_⟩
    refine (along_cons_iff rfl).mpr ⟨trivial, ?_⟩
    refine (along_cons_iff rfl).mpr ⟨?_, trivial⟩
    intro connId enters
    have same : 8 = connId := by
      simpa [cloneConnection, dropGlobal, takesBefore] using enters
    subst same
    refine ⟨?_, by rintro other ⟨⟩⟩
    rintro streamId ⟨channel, known, own, -⟩
    by_cases here : streamId = 1
    · subst here
      cases known
      cases own
    · simp [onChannel, here, Locks.initial, LockSystem.idle] at known
  exact ⟨_, _, rfl, ⟨1, _, rfl, rfl, by decide⟩, servesFetch_of_run _ along rfl⟩

/-- A catalog call on the connection of a stream waits for the stream's worker with the global
lock in hand, and the worker waits for its consumer, who needs the global lock. -/
theorem catalog_call_waits_for_worker :
    ¬ ∀ (events : List Locks.Event) (system : Locks.System) (log : List Unit),
      run Locks.step events Locks.initial = some (system, log) →
        GlobalLock.ServesFetch system := by
  intro always
  have serves := always (.call 0 (.odbcStreamStartBatched 1 7 3 true) ::
    (List.replicate 7 (.move (.caller 0)) ++ List.replicate 2 (.move (.worker 1)) ++
      .call 1 (.odbcCatalogTables 7 false) :: List.replicate 3 (.move (.caller 1)))) _ _ rfl
  exact serves.noCircle ⟨.caller 1, 7, 1, _, _, _, rfl, rfl, rfl, rfl, rfl, rfl, rfl⟩

end OdbcFast.Verification
