import OdbcFast.Native.Ffi.ApiState
import OdbcFast.Verification.AsyncRequests
import OdbcFast.Verification.XaBranches

/-!
# What a disconnect takes along

A connection leaves with its transactions, statements, streams, requests and kept results,
each found through the map that knows whose it is. Its branches are found by nobody: they stay
in their maps, and on the server nothing is said about them. What is left behind by a
connection that is not open any more stays as well.
-/

namespace OdbcFast.Verification

open Wire OdbcFast.Native OdbcFast.Native.ApiState

/-- The connection that a result is kept for. -/
def keptFor (statements : HashMap Nat StatementHandle) : PendingResultKey → Option Nat
  | .execQuery connId _ | .execQueryParams connId _ _ | .execQueryMulti connId _ => some connId
  | .execute stmtId _ _ _ => (statements.lookup stmtId).map StatementHandle.connId

/-- What is claimed of a disconnect: in each map exactly the entries of the connection are gone,
and no branch of it is open on the server that was not prepared. Whose a stream or a statement
is, is what the maps said before. -/
structure Disconnected (connId : Nat) (before next : ApiState) : Prop where
  connections : ∀ other, other ≠ connId →
    next.calls.state.sessions.connections.lookup other =
      before.calls.state.sessions.connections.lookup other
  transactions : HashMap.Clears (fun _ txn => txn.connId = connId)
    before.threads.global.transactions next.threads.global.transactions
  statements : HashMap.Clears (fun _ statement => statement.connId = connId)
    before.calls.state.sessions.statements next.calls.state.sessions.statements
  streams : HashMap.Clears
    (fun streamId _ => before.threads.global.streamConnections.lookup streamId = some connId)
    before.threads.global.streams next.threads.global.streams
  streamConnections : HashMap.Clears (fun _ owner => owner = connId)
    before.threads.global.streamConnections next.threads.global.streamConnections
  pendingStreamChunks : HashMap.Clears
    (fun streamId _ => before.threads.global.streamConnections.lookup streamId = some connId)
    before.threads.global.pendingStreamChunks next.threads.global.pendingStreamChunks
  pendingResultBuffers : HashMap.Clears
    (fun key _ => keptFor before.calls.state.sessions.statements key = some connId)
    before.calls.state.buffers next.calls.state.buffers
  requests : HashMap.Clears (fun _ ref => (before.requests.slots ref).connId = connId)
    before.requests.manager.requests next.requests.manager.requests
  slots : ∀ ref, (before.requests.slots ref).connId ≠ connId →
    next.requests.slots ref = before.requests.slots ref
  xaActive : HashMap.Clears (fun _ xa => xa.connId = connId)
    before.branches.xaActive next.branches.xaActive
  xaPreparing : HashMap.Clears (fun _ preparing => preparing.inner.connId = connId)
    before.branches.xaPreparing next.branches.xaPreparing
  xaPrepared : HashMap.Clears (fun _ prepared => prepared.connId = connId)
    before.branches.xaPrepared next.branches.xaPrepared
  rolledBack : next.unprepared connId = 0

/-- No map of branches refers to the connection. -/
structure WithoutBranches (connId : Nat) (branches : XaMaps) : Prop where
  active : ∀ xaId xa, branches.xaActive.lookup xaId = some xa → xa.connId ≠ connId
  preparing : ∀ xaId preparing, branches.xaPreparing.lookup xaId = some preparing →
    preparing.inner.connId ≠ connId
  prepared : ∀ xaId prepared, branches.xaPrepared.lookup xaId = some prepared →
    prepared.connId ≠ connId

/-- None of the other maps refers to it. -/
structure WithoutEntries (connId : Nat) (system : ApiState) : Prop where
  transactions : ∀ txnId txn, system.threads.global.transactions.lookup txnId = some txn →
    txn.connId ≠ connId
  statements : ∀ stmtId statement,
    system.calls.state.sessions.statements.lookup stmtId = some statement →
      statement.connId ≠ connId
  streams : ∀ streamId owner,
    system.threads.global.streamConnections.lookup streamId = some owner → owner ≠ connId
  buffers : ∀ key entry, system.calls.state.buffers.lookup key = some entry →
    keptFor system.calls.state.sessions.statements key ≠ some connId
  requests : ∀ id ref, system.requests.manager.requests.lookup id = some ref →
    (system.requests.slots ref).connId ≠ connId

/-- A disconnect does what is claimed of it: the connection is open and has no branch in the
maps, and on the server none that outlives the session; or it is not open, and there is
nothing of it. -/
def LeavesNothing (connId : Nat) (ended : Bool) (system : ApiState) : Prop :=
  WithoutBranches connId system.branches ∧
    if (system.calls.state.sessions.connections.lookup connId).isSome then
      ended ∨ system.unprepared connId = 0
    else WithoutEntries connId system ∧ system.unprepared connId = 0

/-! ## Each part -/

section

variable {connId : Nat}

theorem clears_freeForConnection (system : AsyncRequests.System) :
    HashMap.Clears (fun _ ref => (system.slots ref).connId = connId) system.manager.requests
      (system.freeForConnection connId).1.manager.requests := by
  intro id ref
  have freed := (frees_foldl (system.ofConnection connId) system).lookup id
  rw [AsyncRequests.System.freeForConnection]
  dsimp only
  rw [freed]
  split_ifs with listed
  · obtain ⟨⟨id', ref'⟩, member, rfl⟩ := List.mem_map.mp listed
    obtain ⟨found, owned⟩ := AsyncRequests.System.mem_ofConnection_iff.mp member
    constructor
    · rintro ⟨⟩
    · rintro ⟨found', other⟩
      cases found.symm.trans found'
      exact absurd owned other
  · refine ⟨fun found => ⟨found, fun owned => listed ?_⟩, And.left⟩
    exact List.mem_map.mpr
      ⟨(id, ref), AsyncRequests.System.mem_ofConnection_iff.mpr ⟨found, owned⟩, rfl⟩

/-- The tasks of the requests that are freed are aborted, and no others. -/
theorem slots_foldl_free {ref : Nat} (entries : List (Nat × Nat)) (system : AsyncRequests.System)
    (others : ∀ entry ∈ entries, system.manager.requests.lookup entry.1 ≠ some ref) :
    (entries.foldl (fun system entry => (system.free entry.1).1) system).slots ref =
      system.slots ref := by
  induction entries generalizing system with
  | nil => rfl
  | cons entry entries ih =>
      have free := others entry List.mem_cons_self
      have kept : (system.free entry.1).1.slots ref = system.slots ref := by
        rw [AsyncRequests.System.free]
        split
        · rfl
        · next found =>
            refine Function.update_of_ne ?_ _ _
            rintro rfl
            exact free found
      rw [List.foldl_cons, ih _ fun later member found => ?_, kept]
      rw [(frees_free entry.1 system).lookup] at found
      split_ifs at found
      exact others later (List.mem_cons_of_mem _ member) found

theorem slots_freeForConnection {ref : Nat} (system : AsyncRequests.System)
    (other : (system.slots ref).connId ≠ connId) :
    (system.freeForConnection connId).1.slots ref = system.slots ref := by
  refine slots_foldl_free _ system fun entry member found => other ?_
  obtain ⟨found', owned⟩ := AsyncRequests.System.mem_ofConnection_iff.mp member
  cases found.symm.trans found'
  exact owned

/-- Nothing looks at the branches. -/
theorem clears_branches_iff {branches : XaMaps} :
    WithoutBranches connId branches ↔
      HashMap.Clears (fun _ xa => xa.connId = connId) branches.xaActive branches.xaActive ∧
        HashMap.Clears (fun _ preparing => preparing.inner.connId = connId) branches.xaPreparing
          branches.xaPreparing ∧
        HashMap.Clears (fun _ prepared => prepared.connId = connId) branches.xaPrepared
          branches.xaPrepared := by
  rw [HashMap.clears_self_iff, HashMap.clears_self_iff, HashMap.clears_self_iff]
  exact ⟨fun none => ⟨none.active, none.preparing, none.prepared⟩,
    fun none => ⟨none.1, none.2.1, none.2.2⟩⟩

theorem clears_global {global : GlobalState} {closed : Bool}
    (opened : (global.connections.lookup connId).isSome) :
    let next := (global.odbcDisconnect connId closed).2
    HashMap.Clears (fun _ txn => txn.connId = connId) global.transactions next.transactions ∧
      HashMap.Clears (fun streamId _ => global.streamConnections.lookup streamId = some connId)
        global.streams next.streams ∧
      HashMap.Clears (fun _ owner => owner = connId) global.streamConnections
        next.streamConnections ∧
      HashMap.Clears (fun streamId _ => global.streamConnections.lookup streamId = some connId)
        global.pendingStreamChunks next.pendingStreamChunks := by
  obtain ⟨_, found⟩ := Option.isSome_iff_exists.mp opened
  rw [GlobalState.odbcDisconnect, found]
  refine ⟨HashMap.clears_retain fun _ txn => by simp, HashMap.clears_retain fun _ _ => by simp, ?_,
    HashMap.clears_retain fun _ _ => by simp⟩
  intro streamId owner
  rw [HashMap.lookup_retain_eq_some]
  refine and_congr_right fun owned => ?_
  simp [owned]

theorem clears_calls {state : PendingResults} {closed : Bool}
    (opened : (state.sessions.connections.lookup connId).isSome) :
    let next := state.disconnect connId closed
    HashMap.Clears (fun _ statement => statement.connId = connId) state.sessions.statements
        next.sessions.statements ∧
      HashMap.Clears (fun key _ => keptFor state.sessions.statements key = some connId)
        state.buffers next.buffers := by
  obtain ⟨_, found⟩ := Option.isSome_iff_exists.mp opened
  rw [PendingResults.disconnect, found]
  refine ⟨fun stmtId statement => ?_, HashMap.clears_retain fun key _ => ?_⟩
  · refine ((state.sessions.drops_odbcDisconnect connId closed).statements stmtId statement).trans ?_
    rw [found]
    simp
  · cases key with
    | execute stmtId paramsHash timeoutOverrideMs fetchSize =>
        rcases stored : state.sessions.statements.lookup stmtId with _ | statement
        · simp [keptFor, stored]
        · simp [keptFor, stored]
    | _ => simp [keptFor]

/-! ## One disconnect -/

variable {system : ApiState} {closed ended : Bool}

theorem disconnected_iff_of_open (agree : Agree system)
    (opened : (system.calls.state.sessions.connections.lookup connId).isSome) :
    Disconnected connId system (system.odbcDisconnect connId closed ended).2 ↔
      WithoutBranches connId system.branches ∧ (ended ∨ system.unprepared connId = 0) := by
  obtain ⟨transactions, streams, streamConnections, chunks⟩ :=
    @clears_global connId system.threads.global closed (agree.threads ▸ opened)
  obtain ⟨statements, buffers⟩ := @clears_calls connId system.calls.state closed opened
  obtain ⟨_, found⟩ := Option.isSome_iff_exists.mp opened
  have rolledBack : (system.odbcDisconnect connId closed ended).2.unprepared connId = 0 ↔
      ended ∨ system.unprepared connId = 0 := by
    rw [odbcDisconnect, found]
    cases ended with
    | true => simp
    | false => simp
  rw [← rolledBack, clears_branches_iff]
  rw [odbcDisconnect, found]
  constructor
  · intro gone
    exact ⟨⟨gone.xaActive, gone.xaPreparing, gone.xaPrepared⟩, gone.rolledBack⟩
  · rintro ⟨⟨active, preparing, prepared⟩, rolledBack⟩
    refine { transactions, statements, streams, streamConnections, pendingStreamChunks := chunks,
             pendingResultBuffers := buffers, requests := clears_freeForConnection system.requests,
             slots := fun ref other => slots_freeForConnection system.requests other,
             xaActive := active, xaPreparing := preparing, xaPrepared := prepared,
             rolledBack, connections := ?_ }
    intro other different
    dsimp only
    rw [PendingResults.disconnect, found, Sessions.odbcDisconnect, found]
    exact AList.lookup_erase_ne different

theorem disconnected_iff_of_closed
    (gone : system.calls.state.sessions.connections.lookup connId = none) :
    Disconnected connId system (system.odbcDisconnect connId closed ended).2 ↔
      WithoutBranches connId system.branches ∧ WithoutEntries connId system ∧
        system.unprepared connId = 0 := by
  rw [odbcDisconnect, gone, clears_branches_iff]
  constructor
  · intro left
    refine ⟨⟨left.xaActive, left.xaPreparing, left.xaPrepared⟩, ?_, left.rolledBack⟩
    exact {
      transactions := HashMap.clears_self_iff.mp left.transactions
      statements := HashMap.clears_self_iff.mp left.statements
      streams := HashMap.clears_self_iff.mp left.streamConnections
      buffers := HashMap.clears_self_iff.mp left.pendingResultBuffers
      requests := HashMap.clears_self_iff.mp left.requests }
  · rintro ⟨⟨active, preparing, prepared⟩, none, rolledBack⟩
    have unowned : ∀ streamId,
        system.threads.global.streamConnections.lookup streamId ≠ some connId :=
      fun streamId owned => none.streams streamId connId owned rfl
    exact {
      connections := fun _ _ => rfl
      transactions := HashMap.clears_self_iff.mpr none.transactions
      statements := HashMap.clears_self_iff.mpr none.statements
      streams := HashMap.clears_self_iff.mpr fun streamId _ _ => unowned streamId
      streamConnections := HashMap.clears_self_iff.mpr none.streams
      pendingStreamChunks := HashMap.clears_self_iff.mpr fun streamId _ _ => unowned streamId
      pendingResultBuffers := HashMap.clears_self_iff.mpr none.buffers
      requests := HashMap.clears_self_iff.mpr none.requests
      slots := fun _ _ => rfl
      xaActive := active
      xaPreparing := preparing
      xaPrepared := prepared
      rolledBack }

end

/-- Whatever the calls, their order and the driver's answers: a disconnect leaves nothing of the
connection exactly when it has no branch, or none that outlives the session, and when a
connection that is not open has nothing at all. -/
theorem disconnect_leaves_nothing_iff {hashBytes : Bytes → UInt64} {driver : Engine.XaDriver}
    {events : List Event} {system next : ApiState} {log : List Output} {output : Output}
    (ran : run (step hashBytes driver) events {} = some (system, log)) (connId : Nat)
    (closed ended : Bool)
    (stepped : step hashBytes driver (.disconnect connId closed ended) system =
      some (next, output)) :
    Disconnected connId system next ↔ LeavesNothing connId ended system := by
  have agree : Agree system :=
    run_invariant (fun _ => Agree) (agree_of_step hashBytes driver) [] agree_empty ran
  rw [step] at stepped
  split_ifs at stepped
  cases stepped
  rw [LeavesNothing]
  rcases found : system.calls.state.sessions.connections.lookup connId with _ | _
  · rw [if_neg (by simp)]
    exact disconnected_iff_of_closed found
  · rw [if_pos (by simp)]
    exact disconnected_iff_of_open agree (by rw [found]; rfl)

/-- Two connections, each with a statement; the first has a transaction, the second a branch. -/
def twoConnections : List Event :=
  [.connect true, .connect true, .calls (.session (.prepare 1 "SELECT 1")),
    .calls (.session (.prepare 2 "SELECT 2")), .threads (.transactionCheck 0 1 1),
    .threads (.transactionStore 0 (.ok ())), .branches (.start 2 1 (some [7]) (some []))]

theorem disconnect_leaves_nothing_iff_sample :
    ∃ system next log output,
      run (step (fun _ => 0) (obligingXa .mySql)) twoConnections {} = some (system, log) ∧
        step (fun _ => 0) (obligingXa .mySql) (.disconnect 1 true true) system =
          some (next, output) ∧
        Disconnected 1 system next := by
  obtain ⟨system, next, log, output, ran, stepped, opened, active, preparing, prepared⟩ :
      ∃ system next log output,
        run (step (fun _ => 0) (obligingXa .mySql)) twoConnections {} = some (system, log) ∧
          step (fun _ => 0) (obligingXa .mySql) (.disconnect 1 true true) system =
            some (next, output) ∧
          (system.calls.state.sessions.connections.lookup 1).isSome = true ∧
          system.branches.xaActive = AList.insert 1 ⟨2, sampleXid, .mySql, .active⟩ ∅ ∧
          system.branches.xaPreparing = ∅ ∧ system.branches.xaPrepared = ∅ :=
    ⟨_, _, _, _, rfl, rfl, rfl, rfl, rfl, rfl⟩
  have unbranched : WithoutBranches 1 system.branches := by
    refine ⟨fun xaId xa found => ?_, fun xaId idle found => ?_, fun xaId ready found => ?_⟩
    · rw [active] at found
      rcases HashMap.lookup_insert_eq_some.mp found with ⟨-, rfl⟩ | ⟨-, found⟩
      · decide
      · cases found
    · rw [preparing] at found
      cases found
    · rw [prepared] at found
      cases found
  refine ⟨system, next, log, output, ran, stepped, ?_⟩
  refine (disconnect_leaves_nothing_iff ran 1 true true stepped).mpr ⟨unbranched, ?_⟩
  rw [if_pos opened]
  exact .inl rfl

/-- A branch is started, and its connection is closed: the branch is still active. -/
theorem branch_outlives_connection :
    ¬ ∀ (hashBytes : Bytes → UInt64) (driver : Engine.XaDriver) (events : List Event)
      (system next : ApiState) (log : List Output) (output : Output) (connId : Nat)
      (closed ended : Bool),
      run (step hashBytes driver) events {} = some (system, log) →
      step hashBytes driver (.disconnect connId closed ended) system = some (next, output) →
        Disconnected connId system next := by
  intro claimed
  have gone := claimed (fun _ => 0) (obligingXa .mySql)
    [.connect true, .branches (.start 1 1 (some [7]) (some []))] _ _ _ _ 1 true true rfl rfl
  exact ((gone.xaActive 1 ⟨1, sampleXid, .mySql, .active⟩).mp rfl).2 rfl

end OdbcFast.Verification
