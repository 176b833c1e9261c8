import OdbcFast.Native.Ffi.AsyncRequests
import OdbcFast.Native.Ffi.Clients
import OdbcFast.Native.Ffi.PendingResults
import OdbcFast.Native.Ffi.XaSlots

/-!
# The whole state

What belongs to a connection is spread over many maps, which other modules model a few at a
time. Here they are one state, in which a connection is opened and closed. Every other call
works on one of the parts; a call that holds the lock between two accesses of its own keeps
the others out, and only workers go on meanwhile.

What becomes of a branch on the server is part of the state too: there it is open until it is
prepared or finished, whatever the maps say.
-/

namespace OdbcFast.Native

open Wire Engine

/-- The parts of the global state, each with the calls that are under way in it. -/
structure ApiState where
  calls : PendingCalls.System := {}
  threads : Threads.System := {}
  requests : AsyncRequests.System := {}
  branches : XaMaps := {}
  /-- How many branches of a connection are open on the server and not prepared. -/
  unprepared : Nat → Nat := fun _ => 0

namespace ApiState

/-- A statement behind which no branch is left that is not prepared. -/
def endsBranch : XaVerb × XaAnswer → Bool
  | (.prepare, .done) | (.commit true, .done) | (.rollback, .done) => true
  | (_, .refused _ lost) => lost
  | _ => false

/-- What a call for a branch leaves on the server. -/
def settle (branches : XaMaps) (output : XaMaps.Output) (unprepared : Nat → Nat) : Nat → Nat :=
  let ended := (verbs output.sent).any endsBranch
  match output.event with
  | .start connId _ _ _ =>
    if (XaVerb.start, XaAnswer.done) ∈ verbs output.sent ∧ ¬ ended then
      Function.update unprepared connId (unprepared connId + 1)
    else unprepared
  | .call _ xaId =>
    match branches.slot xaId with
    | some (.active xa) | some (.preparing ⟨xa⟩) =>
      if ended then Function.update unprepared xa.connId (unprepared xa.connId - 1)
      else unprepared
    | _ => unprepared
  | _ => unprepared

/-- `odbc_connect`, with whether the driver opened the connection. -/
def odbcConnect (opened : Bool) (system : ApiState) : Nat × ApiState :=
  let (connId, sessions) := system.calls.state.sessions.odbcConnect opened
  let system := { system with
    calls := { system.calls with state := { system.calls.state with sessions } } }
  if connId = 0 then (0, system)
  else (connId, { system with
    threads := { system.threads with global := system.threads.global.odbcConnect connId }
    branches := { system.branches with
      connections := system.branches.connections.insert connId () } })

/-- `odbc_disconnect`, with whether the driver closed the connection without an error and
whether the server, when its session ends, rolls back the branches that are not prepared. -/
def odbcDisconnect (connId : Nat) (closed ended : Bool) (system : ApiState) : Int × ApiState :=
  match system.calls.state.sessions.connections.lookup connId with
  | none => (1, system)
  | some _ => (if closed then 0 else 1, {
      calls := { system.calls with state := system.calls.state.disconnect connId closed }
      threads := { system.threads with
        global := (system.threads.global.odbcDisconnect connId closed).2 }
      requests := (system.requests.freeForConnection connId).1
      -- No branch is looked at.
      branches := { system.branches with connections := system.branches.connections.erase connId }
      unprepared :=
        if ended then Function.update system.unprepared connId 0 else system.unprepared })

inductive Event where
  | connect (opened : Bool)
  | disconnect (connId : Nat) (closed ended : Bool)
  | calls (event : PendingCalls.Event)
  | threads (event : Threads.Event)
  | requests (event : AsyncRequests.Event)
  | branches (event : XaMaps.Event)

inductive Output where
  | connected (connId : Nat)
  | disconnected (code : Int)
  | calls (output : PendingCalls.Output)
  | threads (output : Threads.Output)
  | requests (output : AsyncRequests.Output)
  | branches (output : XaMaps.Output)

/-- What is not a part's own affair: connections are opened and closed in all parts at once, and
a request is started on a connection that is open. -/
def Event.own (system : ApiState) : Event → Bool
  | .calls (.session (.connect _)) | .calls (.disconnect _ _) => false
  | .threads (.connect _) | .threads (.disconnect _ _) => false
  | .requests (.freeForConnection _) => false
  | .requests (.start connId _) =>
    (system.calls.state.sessions.connections.lookup connId).isSome
  | .branches (.connected _) | .branches (.disconnected _) => false
  | _ => true

/-- Time, workers and the call that has the lock need not wait for it. -/
def Event.waits : Event → Bool
  | .calls (.wait _) => false
  | .threads (.work _ _) | .threads (.workFetching _ _) => false
  | .requests _ => false
  | _ => true

/-- No call holds the lock between two of its accesses. -/
def unlocked (system : ApiState) : Bool :=
  match system.requests.call with
  | .idle => true
  | _ => false

variable (hashBytes : Bytes → UInt64) (driver : XaDriver)

def act : Event → ApiState → Option (ApiState × Output)
  | .connect opened, system =>
    some ((system.odbcConnect opened).2, .connected (system.odbcConnect opened).1)
  | .disconnect connId closed ended, system =>
    some ((system.odbcDisconnect connId closed ended).2,
      .disconnected (system.odbcDisconnect connId closed ended).1)
  | .calls event, system =>
    (PendingCalls.step hashBytes event system.calls).map fun (calls, output) =>
      ({ system with calls }, .calls output)
  | .threads event, system => (Threads.step event system.threads).map fun (threads, output) =>
      ({ system with threads }, .threads output)
  | .requests event, system =>
    (AsyncRequests.step event system.requests).map fun (requests, output) =>
      ({ system with requests }, .requests output)
  | .branches event, system =>
    (XaMaps.step driver event system.branches).map fun (branches, output) =>
      ({ system with
        branches
        unprepared := settle system.branches output system.unprepared }, .branches output)

def step (event : Event) (system : ApiState) : Option (ApiState × Output) :=
  if event.own system ∧ (event.waits → system.unlocked) then act hashBytes driver event system
  else none

/-! ## Connections are the same in all parts -/

/-- The calls on statements and pools leave the direct connections alone. -/
theorem connections_apply {call : PendingCalls.SessionCall} (sessions : Sessions)
    (other : ∀ opened, call ≠ .connect opened) :
    (call.apply sessions).connections = sessions.connections := by
  cases call with
  | connect opened => exact absurd rfl (other opened)
  | prepare connId sql =>
      rw [PendingCalls.SessionCall.apply, Sessions.odbcPrepare]
      split_ifs
      · dsimp only
        split <;> rfl
      · rfl
  | poolCreate built =>
      rw [PendingCalls.SessionCall.apply, Sessions.odbcPoolCreate]
      split_ifs
      · dsimp only
        split <;> rfl
      · rfl
  | poolGetConnection poolId available =>
      obtain ⟨-, kept, -⟩ := sessions.nextPooledId_kept poolId
      rw [PendingCalls.SessionCall.apply, Sessions.odbcPoolGetConnection]
      split_ifs
      · rfl
      · split
        · next allocated =>
            rw [allocated] at kept
            exact kept
        · next allocated =>
            rw [allocated] at kept
            exact kept
  | poolReleaseConnection connId =>
      rw [PendingCalls.SessionCall.apply, Sessions.odbcPoolReleaseConnection]
      split <;> rfl
  | poolClose poolId =>
      rw [PendingCalls.SessionCall.apply, Sessions.odbcPoolClose]
      split <;> rfl

theorem sessions_tryWrite {key : PendingResultKey} {bufferLen : Nat} {state next : PendingResults}
    {answer : Answer} (served : state.tryWritePendingResult key bufferLen = some (next, answer)) :
    next.sessions = state.sessions := by
  obtain ⟨_, -, ⟨_, -, rfl⟩ | ⟨-, rfl⟩ | ⟨-, rfl⟩⟩ :=
    PendingResults.tryWritePendingResult_eq_some served
  · rfl
  · rfl
  · rfl

theorem sessions_deliver (call : ExecCall) (bufferLen : Nat) (result : Except OdbcError Bytes)
    (state : PendingResults) :
    (state.deliver hashBytes call bufferLen result).1.sessions = state.sessions := by
  rcases PendingResults.deliver_cases hashBytes call bufferLen result state with
    ⟨_, -, -, same⟩ | ⟨same, -⟩
  · rw [same]
    rfl
  · rw [same]

theorem sessions_exec (call : ExecCall) (bufferLen : Nat) (result : Except OdbcError Bytes)
    (state : PendingResults) :
    (state.exec hashBytes call bufferLen result).1.sessions = state.sessions := by
  rcases ran : state.exec hashBytes call bufferLen result with ⟨next, outcome⟩
  rcases PendingResults.exec_cases ran with ⟨_, -, rfl⟩ | ⟨_, -, -, served⟩ | ⟨-, rfl, -⟩
  · rfl
  · exact sessions_tryWrite served
  · exact sessions_deliver hashBytes call bufferLen result state

theorem connections_calls {event : PendingCalls.Event} {calls next : PendingCalls.System}
    {output : PendingCalls.Output} (own : ∀ opened, event ≠ .session (.connect opened))
    (kept : ∀ connId closed, event ≠ .disconnect connId closed)
    (stepped : PendingCalls.step hashBytes event calls = some (next, output)) :
    next.state.sessions.connections = calls.state.sessions.connections := by
  cases event with
  | exec call bufferLen result =>
      have ran : next = { calls with
          state := (calls.state.exec hashBytes call bufferLen result).1 } := by
        cases call <;> cases stepped <;> rfl
      rw [ran]
      exact congrArg Sessions.connections (sessions_exec hashBytes call bufferLen result _)
  | beginExecQuery thread connId sql bufferLen =>
      rw [PendingCalls.step] at stepped
      split at stepped
      · cases stepped
      · rw [PendingCalls.System.beginExecQuery] at stepped
        dsimp only at stepped
        split at stepped
        · next served =>
            cases stepped
            exact congrArg Sessions.connections (sessions_tryWrite served)
        · split_ifs at stepped
          · cases stepped
            rfl
          · split at stepped <;> cases stepped <;> rfl
  | endExecQuery thread result =>
      rw [PendingCalls.step] at stepped
      split at stepped
      · cases stepped
      · next running _ =>
          cases stepped
          refine (congrArg Sessions.connections (sessions_deliver hashBytes _ _ _ _)).trans ?_
          cases running.pool <;> rfl
  | wait elapsed =>
      cases stepped
      rfl
  | session call =>
      cases stepped
      exact connections_apply _ fun opened same => own opened (congrArg _ same)
  | disconnect connId closed => exact absurd rfl (kept connId closed)
  | closeStatement stmtId =>
      cases stepped
      dsimp only [PendingResults.closeStatement]
      split
      · rfl
      · rw [Sessions.odbcCloseStatement]
        split <;> rfl
  | clearAllStatements =>
      cases stepped
      rfl

theorem connections_threads {event : Threads.Event} {threads next : Threads.System}
    {output : Threads.Output} (own : ∀ connId, event ≠ .connect connId)
    (kept : ∀ connId known, event ≠ .disconnect connId known)
    (stepped : Threads.step event threads = some (next, output)) :
    next.global.connections = threads.global.connections := by
  cases event with
  | connect connId => exact absurd rfl (own connId)
  | disconnect connId known => exact absurd rfl (kept connId known)
  | streamStart connId live =>
      cases stepped
      exact (threads.global.streamStart_sameTransactions connId live).1
  | work streamId event =>
      rw [Threads.step, StreamClient.work] at stepped
      simp only [Option.map_eq_some_iff, Option.bind_eq_bind, Option.bind_eq_some_iff,
        Option.some.injEq, Prod.mk.injEq] at stepped
      obtain ⟨_, ⟨_, -, _, -, rfl⟩, rfl, -⟩ := stepped
      rfl
  | workFetching thread event =>
      simp only [Threads.step, Option.bind_eq_bind, Option.bind_eq_some_iff, Option.some.injEq,
        Prod.mk.injEq] at stepped
      obtain ⟨_, -, _, -, rfl, -⟩ := stepped
      rfl
  | fetchBegin thread streamId bufLen =>
      have kept := (threads.global.fetchBegin_sameTransactions streamId bufLen).1
      rw [Threads.step] at stepped
      split_ifs at stepped
      split at stepped
      · next began =>
          cases stepped
          rwa [began] at kept
      · next began =>
          cases stepped
          rwa [began] at kept
  | fetchFinish thread =>
      simp only [Threads.step, Option.bind_eq_bind, Option.bind_eq_some_iff, Option.some.injEq,
        Prod.mk.injEq, Prod.exists] at stepped
      obtain ⟨_, -, _, _, finished, rfl, -⟩ := stepped
      exact (threads.global.fetchFinish_sameTransactions finished).1
  | poll streamId =>
      cases stepped
      exact (threads.global.odbcStreamPollAsync_sameTransactions streamId).1
  | cancel streamId =>
      cases stepped
      rfl
  | close streamId =>
      cases stepped
      exact (threads.global.odbcStreamClose_sameTransactions streamId).1
  | transactionCheck thread connId isolationLevel =>
      rw [Threads.step] at stepped
      split_ifs at stepped
      split at stepped <;> cases stepped <;> rfl
  | transactionStore thread txnResult =>
      simp only [Threads.step, Option.bind_eq_bind, Option.bind_eq_some_iff, Option.some.injEq,
        Prod.mk.injEq] at stepped
      obtain ⟨connId, -, rfl, -⟩ := stepped
      cases txnResult with
      | error err => rfl
      | ok _ =>
          rw [GlobalState.transactionStore]
          dsimp only
          split <;> rfl
  | transactionEnd txnId =>
      cases stepped
      rfl

theorem connections_consume {α β : Type} {branches taken : XaMaps} {handle : Option α}
    {missing verb : String} {method : α → XaM β} (keep : β → XaMaps → XaMaps)
    (same : taken.connections = branches.connections)
    (kept : ∀ value state, (keep value state).connections = state.connections) :
    (branches.consume handle missing verb method taken keep).2.connections =
      branches.connections := by
  rw [XaMaps.consume.eq_def]
  split
  · rfl
  · split
    · rw [kept]
      exact same
    · exact same

theorem connections_branches {event : XaMaps.Event} {branches next : XaMaps}
    {output : XaMaps.Output} (own : ∀ connId, event ≠ .connected connId)
    (kept : ∀ connId, event ≠ .disconnected connId)
    (stepped : XaMaps.step driver event branches = some (next, output)) :
    next.connections = branches.connections := by
  have acted : next = (branches.act driver event).2 := by
    cases stepped
    rfl
  rw [acted]
  cases event with
  | connected connId => exact absurd rfl (own connId)
  | disconnected connId => exact absurd rfl (kept connId)
  | start connId formatId gtrid bqual =>
      dsimp only [XaMaps.act, XaMaps.odbcXaStart]
      split
      · rfl
      · split
        · rfl
        · split
          · next allocated =>
              exact (congrArg (fun pair => pair.2.connections) allocated).symm
          · next allocated =>
              exact (congrArg (fun pair => pair.2.connections) allocated).symm
  | resume connId formatId gtrid bqual =>
      dsimp only [XaMaps.act, XaMaps.odbcXaResumePrepared]
      split
      · rfl
      · split
        · rfl
        · split
          · next allocated =>
              exact (congrArg (fun pair => pair.2.connections) allocated).symm
          · next allocated =>
              exact (congrArg (fun pair => pair.2.connections) allocated).symm
  | recover connId =>
      dsimp only [XaMaps.act, XaMaps.odbcXaRecoverCount]
      split_ifs
      · rfl
      · split <;> rfl
  | call entry xaId =>
      cases entry <;> dsimp only [XaMaps.act, XaMaps.Entry.call]
      · exact connections_consume _ rfl fun _ _ => rfl
      · exact connections_consume _ rfl fun _ _ => rfl
      · exact connections_consume _ rfl fun _ _ => rfl
      · exact connections_consume _ rfl fun _ _ => rfl
      · exact connections_consume _ rfl fun _ _ => rfl
      · exact connections_consume _ rfl fun _ _ => rfl

/-- A connection is open in all parts or in none. -/
structure Agree (system : ApiState) : Prop where
  threads : system.threads.global.connections = system.calls.state.sessions.connections
  branches : system.branches.connections = system.calls.state.sessions.connections

theorem agree_empty : Agree {} := ⟨rfl, rfl⟩

/-- A connection that is refused has changed nothing. -/
theorem odbcConnect_connections (opened : Bool) (sessions : Sessions) :
    (sessions.odbcConnect opened).2.connections =
      if (sessions.odbcConnect opened).1 = 0 then sessions.connections
      else sessions.connections.insert (sessions.odbcConnect opened).1 () := by
  rw [Sessions.odbcConnect]
  by_cases refused : ¬ opened
  · rw [if_pos refused]
    rfl
  · rw [if_neg refused]
    rcases allocated : allocateFrom (fun id => (sessions.connections.lookup id).isSome)
      maxIdAllocAttempts sessions.nextConnId with ⟨_ | connId, nextConnId⟩
    · rfl
    · exact (if_neg (allocateFrom_spec (congrArg Prod.fst allocated)).1).symm

theorem agree_of_step {event : Event} {system next : ApiState} {output : Output}
    (agree : Agree system) (stepped : step hashBytes driver event system = some (next, output)) :
    Agree next := by
  rw [step] at stepped
  split_ifs at stepped with allowed
  have own := allowed.1
  cases event with
  | connect opened =>
      cases stepped
      rw [odbcConnect]
      have connections := odbcConnect_connections opened system.calls.state.sessions
      rcases connected : system.calls.state.sessions.odbcConnect opened with ⟨connId, sessions⟩
      rw [connected] at connections
      dsimp only at connections ⊢
      split_ifs at connections ⊢
      · exact ⟨agree.threads.trans connections.symm, agree.branches.trans connections.symm⟩
      · refine ⟨?_, ?_⟩
        · exact (congrArg (AList.insert connId ()) agree.threads).trans connections.symm
        · exact (congrArg (AList.insert connId ()) agree.branches).trans connections.symm
  | disconnect connId closed ended =>
      cases stepped
      rw [odbcDisconnect]
      rcases found : system.calls.state.sessions.connections.lookup connId with _ | _
      · exact agree
      · dsimp only
        rw [PendingResults.disconnect, found, GlobalState.odbcDisconnect, agree.threads, found]
        dsimp only
        rw [Sessions.odbcDisconnect, found]
        exact ⟨rfl, congrArg (AList.erase connId) agree.branches⟩
  | calls event =>
      rw [act, Option.map_eq_some_iff] at stepped
      obtain ⟨⟨calls, said⟩, moved, same⟩ := stepped
      cases same
      have kept := connections_calls hashBytes (by rintro opened rfl; cases own)
        (by rintro connId closed rfl; cases own) moved
      exact ⟨agree.threads.trans kept.symm, agree.branches.trans kept.symm⟩
  | threads event =>
      rw [act, Option.map_eq_some_iff] at stepped
      obtain ⟨⟨threads, said⟩, moved, same⟩ := stepped
      cases same
      have kept := connections_threads (by rintro connId rfl; cases own)
        (by rintro connId known rfl; cases own) moved
      exact ⟨kept.trans agree.threads, agree.branches⟩
  | requests event =>
      rw [act, Option.map_eq_some_iff] at stepped
      obtain ⟨⟨requests, said⟩, moved, same⟩ := stepped
      cases same
      exact ⟨agree.threads, agree.branches⟩
  | branches event =>
      rw [act, Option.map_eq_some_iff] at stepped
      obtain ⟨⟨branches, said⟩, moved, same⟩ := stepped
      cases same
      have kept := connections_branches driver (by rintro connId rfl; cases own)
        (by rintro connId rfl; cases own) moved
      exact ⟨agree.threads, kept.trans agree.branches⟩

end ApiState

end OdbcFast.Native
