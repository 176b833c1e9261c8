import Mathlib.Logic.Function.Basic
import OdbcFast.Native.Error
import OdbcFast.Wire.Bytes
import OdbcFast.Wire.HashMap

/-!
# Asynchronous requests

A request runs in a task of its own, which shares a slot with the table of requests:
a cancellation flag, an atomic, and the outcome, behind a lock. The calls of the
library hold the lock of the global state from their first access to their last, so
only the tasks run between the accesses of one call. A task reads the flag and writes
the outcome in two accesses.

A slot lives as long as its task does, also when its request was freed and the
identifier was given to another one.
-/

namespace OdbcFast.Native

open Wire

inductive AsyncRequestOutcome where
  | pending
  | ready (result : Except OdbcError Bytes)
  | cancelled
  | consumed

/-- Where the task of a request stands. An abort takes effect only before it has begun. -/
inductive AsyncTask where
  | queued
  | running
  | finished (result : Except OdbcError Bytes)
  /-- The flag was read and the outcome is not written yet. -/
  | read (cancelled : Bool) (result : Except OdbcError Bytes)
  | done
  | aborted

structure AsyncRequestSlot where
  connId : Nat
  cancelled : Bool := false
  outcome : AsyncRequestOutcome := .pending
  task : AsyncTask := .queued

namespace AsyncRequestSlot

/-- `JoinHandle::abort`. -/
def abort (slot : AsyncRequestSlot) : AsyncRequestSlot :=
  match slot.task with
  | .queued => { slot with task := .aborted }
  | _ => slot

/-- The codes of `odbc_async_poll`. -/
def pollStatus (slot : AsyncRequestSlot) : Int :=
  match slot.outcome with
  | .pending => 0
  | .ready (.ok _) => 1
  | .ready (.error _) => -1
  | .cancelled => -2
  | .consumed => -1

end AsyncRequestSlot

/-- The table of requests; a slot is known by the number of the request that made it. -/
structure AsyncRequestManager where
  nextRequestId : Nat := 1
  requests : HashMap Nat Nat := ∅

namespace AsyncRequestManager

def maxAsyncRequests : Nat := 64
def maxIdAllocAttempts : Nat := 1000

/-- The loop of `allocate_request_id`, with the next identifier behind it. -/
def searchRequestId (requests : HashMap Nat Nat) : Nat → Nat → Option Nat × Nat
  | 0, next => (none, next)
  | attempts + 1, next =>
    if next ≠ 0 ∧ (requests.lookup next).isNone then (some next, (next + 1) % 2 ^ 32)
    else searchRequestId requests attempts ((next + 1) % 2 ^ 32)

def allocateRequestId (manager : AsyncRequestManager) : Option Nat × AsyncRequestManager :=
  if manager.requests.entries.length ≥ maxAsyncRequests then (none, manager)
  else
    let (id, nextRequestId) :=
      searchRequestId manager.requests maxIdAllocAttempts manager.nextRequestId
    (id, { manager with nextRequestId })

/-- What is allocated is not zero and not in use. -/
theorem searchRequestId_eq_some {requests : HashMap Nat Nat} {attempts next id : Nat}
    (found : (searchRequestId requests attempts next).1 = some id) :
    id ≠ 0 ∧ requests.lookup id = none := by
  induction attempts generalizing next with
  | zero => cases found
  | succ attempts ih =>
      rw [searchRequestId] at found
      split_ifs at found with free
      · cases found
        exact ⟨free.1, Option.isNone_iff_eq_none.mp free.2⟩
      · exact ih found

theorem allocateRequestId_requests (manager : AsyncRequestManager) :
    manager.allocateRequestId.2.requests = manager.requests := by
  rw [allocateRequestId]
  split_ifs
  · rfl
  · rfl

theorem allocateRequestId_eq_some {manager : AsyncRequestManager} {id : Nat}
    (found : manager.allocateRequestId.1 = some id) :
    id ≠ 0 ∧ manager.requests.lookup id = none ∧
      manager.requests.entries.length < maxAsyncRequests := by
  rw [allocateRequestId] at found
  split_ifs at found with full
  obtain ⟨nonzero, free⟩ := searchRequestId_eq_some found
  exact ⟨nonzero, free, Nat.lt_of_not_le full⟩

end AsyncRequestManager

/-! ## Calls and tasks taking turns -/

namespace AsyncRequests

/-- A call that holds the global lock between two of its accesses. -/
inductive Call where
  | idle
  /-- `cancel` has set the flag; `pending` is what the outcome was then. -/
  | cancelling (ref : Nat) (pending : Bool)
  /-- `cancel` has aborted the task. -/
  | aborted (ref : Nat) (pending : Bool)
  /-- `odbc_async_get_result` took a result that does not fit. -/
  | restoring (ref : Nat) (data : Bytes)

structure System where
  manager : AsyncRequestManager := {}
  slots : Nat → AsyncRequestSlot := fun _ => { connId := 0, task := .done }
  /-- How many slots were made. -/
  allocated : Nat := 0
  call : Call := .idle

inductive Event where
  /-- `start_request`; the runtime may refuse to spawn the task. -/
  | start (connId : Nat) (spawned : Bool)
  | poll (id : Nat)
  | cancel (id : Nat)
  | abort
  | cancelOutcome
  | getResult (id bufferLen : Nat)
  | restore
  | free (id : Nat)
  | freeForConnection (connId : Nat)
  | beginTask (ref : Nat)
  | finishTask (ref : Nat) (result : Except OdbcError Bytes)
  | readFlag (ref : Nat)
  | writeOutcome (ref : Nat)

/-- What a caller is told. -/
inductive Output where
  | started (id ref : Nat)
  | refused
  | status (code : Int)
  | unknown
  /-- `cancel` returned true, and the request was pending when it was called. -/
  | accepted (ref : Nat) (pending : Bool)
  /-- The request's own result or error. -/
  | handed (ref : Nat) (result : Except OdbcError Bytes)
  | notReady
  | alreadyConsumed
  | tooSmall
  | freed (refs : List Nat)
  | silent

namespace System

def update (ref : Nat) (change : AsyncRequestSlot → AsyncRequestSlot) (system : System) : System :=
  { system with slots := Function.update system.slots ref (change (system.slots ref)) }

def setOutcome (ref : Nat) (outcome : AsyncRequestOutcome) (system : System) : System :=
  system.update ref fun slot => { slot with outcome }

/-- `start_request`. -/
def start (connId : Nat) (spawned : Bool) (system : System) : System × Output :=
  match system.manager.allocateRequestId with
  | (none, manager) => ({ system with manager }, .refused)
  | (some id, manager) =>
    if spawned then
      let ref := system.allocated
      ({ system with
          manager := { manager with requests := manager.requests.insert id ref }
          slots := Function.update system.slots ref { connId }
          allocated := ref + 1 }, .started id ref)
    else ({ system with manager }, .refused)

/-- The first access of `odbc_async_get_result`. -/
def getResult (id bufferLen : Nat) (system : System) : System × Output :=
  match system.manager.requests.lookup id with
  | none => (system, .notReady)
  | some ref =>
    match (system.slots ref).outcome with
    | .pending => (system, .notReady)
    | .consumed => (system, .alreadyConsumed)
    | .cancelled =>
      (system.setOutcome ref .consumed,
        .handed ref (.error (.internalError "Async request cancelled")))
    | .ready (.error err) => (system.setOutcome ref .consumed, .handed ref (.error err))
    | .ready (.ok data) =>
      if data.length > bufferLen then
        ({ system.setOutcome ref .consumed with call := .restoring ref data }, .tooSmall)
      else (system.setOutcome ref .consumed, .handed ref (.ok data))

/-- `free` of one request; its task is aborted in the same breath, which makes no difference
to a task that has begun. -/
def free (id : Nat) (system : System) : System × Output :=
  match system.manager.requests.lookup id with
  | none => (system, .unknown)
  | some ref =>
    let requests := system.manager.requests.erase id
    ({ system.update ref .abort with manager := { system.manager with requests } }, .freed [ref])

/-- The requests of a connection. -/
def ofConnection (connId : Nat) (system : System) : List (Nat × Nat) :=
  (system.manager.requests.entries.filter fun entry =>
    (system.slots entry.2).connId = connId).map fun entry => (entry.1, entry.2)

theorem mem_ofConnection_iff {connId id ref : Nat} {system : System} :
    (id, ref) ∈ system.ofConnection connId ↔
      system.manager.requests.lookup id = some ref ∧ (system.slots ref).connId = connId := by
  rw [ofConnection, List.mem_map]
  constructor
  · rintro ⟨entry, kept, same⟩
    obtain ⟨rfl, rfl⟩ := Prod.mk.inj same
    obtain ⟨member, owned⟩ := List.mem_filter.mp kept
    exact ⟨AList.mem_lookup_iff.mpr member, of_decide_eq_true owned⟩
  · rintro ⟨found, owned⟩
    refine ⟨⟨id, ref⟩, List.mem_filter.mpr ⟨AList.mem_lookup_iff.mp found, ?_⟩, rfl⟩
    exact decide_eq_true owned

/-- `free_for_connection`. -/
def freeForConnection (connId : Nat) (system : System) : System × Output :=
  let entries := system.ofConnection connId
  (entries.foldl (fun system entry => (system.free entry.1).1) system,
    .freed (entries.map Prod.snd))

/-- A call of `cancel`, up to the flag. -/
def cancel (id : Nat) (system : System) : System × Output :=
  match system.manager.requests.lookup id with
  | none => (system, .unknown)
  | some ref =>
    let pending := match (system.slots ref).outcome with
      | .pending => true
      | _ => false
    ({ system.update ref ({ · with cancelled := true }) with call := .cancelling ref pending },
      .silent)

/-- The last access of `cancel`. -/
def cancelOutcome (ref : Nat) (pending : Bool) (system : System) : System × Output :=
  let system := { system with call := .idle }
  match (system.slots ref).outcome with
  | .pending => (system.setOutcome ref .cancelled, .accepted ref pending)
  | _ => (system, .accepted ref pending)

end System

/-- A call begins when no other one is under way. -/
def step : Event → System → Option (System × Output)
  | .start connId spawned, system =>
    match system.call with
    | .idle => some (system.start connId spawned)
    | _ => none
  | .poll id, system =>
    match system.call with
    | .idle =>
      match system.manager.requests.lookup id with
      | none => some (system, .unknown)
      | some ref => some (system, .status (system.slots ref).pollStatus)
    | _ => none
  | .cancel id, system =>
    match system.call with
    | .idle => some (system.cancel id)
    | _ => none
  | .abort, system =>
    match system.call with
    | .cancelling ref pending =>
      some ({ system.update ref .abort with call := .aborted ref pending }, .silent)
    | _ => none
  | .cancelOutcome, system =>
    match system.call with
    | .aborted ref pending => some (system.cancelOutcome ref pending)
    | _ => none
  | .getResult id bufferLen, system =>
    match system.call with
    | .idle => some (system.getResult id bufferLen)
    | _ => none
  | .restore, system =>
    match system.call with
    | .restoring ref data =>
      some ({ system.setOutcome ref (.ready (.ok data)) with call := .idle }, .silent)
    | _ => none
  | .free id, system =>
    match system.call with
    | .idle => some (system.free id)
    | _ => none
  | .freeForConnection connId, system =>
    match system.call with
    | .idle => some (system.freeForConnection connId)
    | _ => none
  | .beginTask ref, system =>
    match (system.slots ref).task with
    | .queued => some (system.update ref ({ · with task := .running }), .silent)
    | _ => none
  | .finishTask ref result, system =>
    match (system.slots ref).task with
    | .running => some (system.update ref ({ · with task := .finished result }), .silent)
    | _ => none
  | .readFlag ref, system =>
    match (system.slots ref).task with
    | .finished result =>
      some (system.update ref fun slot => { slot with task := .read slot.cancelled result }, .silent)
    | _ => none
  | .writeOutcome ref, system =>
    match (system.slots ref).task with
    | .read cancelled result =>
      some (system.update ref fun slot =>
        { slot with
          outcome := if cancelled then .cancelled else .ready result
          task := .done }, .silent)
    | _ => none

end AsyncRequests

end OdbcFast.Native
