import OdbcFast.Native.Ffi.GlobalState

/-!
# Clients of the C interface

Two views of the entry points at work. `StreamClient` is one client that fetches from
and polls one stream, with a buffer of its choice each time, while the stream's worker
runs. `Threads` are any number of clients whose calls interleave section by section.
-/

namespace OdbcFast.Native

open Wire

/-! ## One client and one stream -/

namespace StreamClient

inductive Event where
  | send
  | hangUp
  | poll
  | fetch (bufLen : Nat)
  deriving DecidableEq, Repr

/-- What a call answers; of a fetch also what the stream itself produced during the call, the
chunk with the `has_more` behind it. -/
inductive Output where
  | worked
  | polled (status : Int)
  | fetched (bufLen : Nat) (answer : FetchAnswer) (produced : Option (Bytes × Bool))
  deriving DecidableEq, Repr

/-- The chunk that a fetch takes out of the stream, which it does unless a chunk waits. -/
def produced (streamId : Nat) (state : GlobalState) : Option (Bytes × Bool) :=
  match state.pendingStreamChunks.lookup streamId, state.streams.lookup streamId with
  | none, some live =>
    match live.kind.fetchNextChunk with
    | some (.ok (some data), kind) => some (data, kind.hasMore)
    | _ => none
  | _, _ => none

/-- A move of the worker of the stream. -/
def work (streamId : Nat) (move : StreamSystem.System → Option StreamSystem.System)
    (state : GlobalState) : Option GlobalState := do
  let live ← state.streams.lookup streamId
  let live ← live.work move
  some { state with streams := state.streams.insert streamId live }

def step (streamId capacity : Nat) : Event → GlobalState → Option (GlobalState × Output)
  | .send, state => (work streamId (StreamSystem.send capacity) state).map (·, .worked)
  | .hangUp, state => (work streamId StreamSystem.hangUp state).map (·, .worked)
  | .poll, state =>
    match state.odbcStreamPollAsync streamId with
    | (none, _) => none
    | (some status, state) => some (state, .polled status)
  | .fetch bufLen, state =>
    (state.odbcStreamFetch streamId bufLen).map fun (answer, next) =>
      (next, .fetched bufLen answer (produced streamId state))

/-- The chunks, each with its `has_more`, that code 0 has delivered. -/
def delivered (log : List Output) : List (Bytes × Bool) :=
  log.filterMap fun
    | .fetched _ (.delivered data hasMore) _ => some (data, hasMore)
    | _ => none

/-- The chunks that the stream has produced. -/
def productions (log : List Output) : List (Bytes × Bool) :=
  log.filterMap fun
    | .fetched _ _ chunk => chunk
    | _ => none

end StreamClient

/-! ## Any number of threads -/

namespace Threads

/-- The state behind the lock, and what each thread holds between the two sections of a fetch
or of the begin of a transaction. -/
structure System where
  global : GlobalState := {}
  fetching : HashMap Nat FetchCall := ∅
  beginning : HashMap Nat Nat := ∅

inductive Event where
  | connect (connId : Nat)
  | disconnect (connId : Nat) (known : Bool)
  | streamStart (connId : Nat) (live : LiveStream)
  | work (streamId : Nat) (event : StreamSystem.Event)
  | workFetching (thread : Nat) (event : StreamSystem.Event)
  | fetchBegin (thread streamId bufLen : Nat)
  | fetchFinish (thread : Nat)
  | poll (streamId : Nat)
  | cancel (streamId : Nat)
  | close (streamId : Nat)
  | transactionCheck (thread connId isolationLevel : Nat)
  | transactionStore (thread : Nat) (txnResult : Except OdbcError Unit)
  | transactionEnd (txnId : Nat)

inductive Output where
  | worked
  | disconnected (connId : Nat) (answer : DisconnectAnswer)
  | started (connId : Nat) (streamId : Option Nat)
  | fetched (streamId : Nat) (answer : FetchAnswer)
  | polled (streamId : Nat) (status : Option Int)
  | cancelled (streamId : Nat) (code : Int)
  | closed (streamId : Nat) (code : Int)
  | began (connId : Nat) (answer : GlobalState.BeginAnswer)
  | took (txnId : Nat) (transaction : Option Transaction)
  deriving DecidableEq, Repr

/-- The worker's part of `StreamSystem.Event`. -/
def move : StreamSystem.Event → StreamSystem.System → Option StreamSystem.System
  | .send => StreamSystem.send 1
  | .hangUp => StreamSystem.hangUp
  | _ => fun _ => none

/-- A thread makes one call at a time. -/
def System.idle (thread : Nat) (system : System) : Bool :=
  (system.fetching.lookup thread).isNone ∧ (system.beginning.lookup thread).isNone

def step : Event → System → Option (System × Output)
  | .connect connId, system =>
    some ({ system with global := system.global.odbcConnect connId }, .worked)
  | .disconnect connId known, system =>
    let (answer, global) := system.global.odbcDisconnect connId known
    some ({ system with global }, .disconnected connId answer)
  | .streamStart connId live, system =>
    let (streamId, global) := system.global.streamStart connId live
    some ({ system with global }, .started connId streamId)
  | .work streamId event, system =>
    (StreamClient.work streamId (move event) system.global).map fun global =>
      ({ system with global }, .worked)
  | .workFetching thread event, system => do
    let call ← system.fetching.lookup thread
    let live ← call.live.work (move event)
    some ({ system with fetching := system.fetching.insert thread { call with live } }, .worked)
  | .fetchBegin thread streamId bufLen, system =>
    if system.idle thread then
      match system.global.fetchBegin streamId bufLen with
      | (.inl answer, global) => some ({ system with global }, .fetched streamId answer)
      | (.inr call, global) =>
        some ({ system with global, fetching := system.fetching.insert thread call }, .worked)
    else none
  | .fetchFinish thread, system => do
    let call ← system.fetching.lookup thread
    let (answer, global) ← system.global.fetchFinish call
    some ({ system with global, fetching := system.fetching.erase thread },
      .fetched call.streamId answer)
  | .poll streamId, system =>
    let (status, global) := system.global.odbcStreamPollAsync streamId
    some ({ system with global }, .polled streamId status)
  | .cancel streamId, system =>
    some (system, .cancelled streamId (system.global.odbcStreamCancel streamId))
  | .close streamId, system =>
    let (code, global) := system.global.odbcStreamClose streamId
    some ({ system with global }, .closed streamId code)
  | .transactionCheck thread connId isolationLevel, system =>
    if system.idle thread then
      match system.global.transactionCheck connId isolationLevel with
      | some answer => some (system, .began connId answer)
      | none => some ({ system with beginning := system.beginning.insert thread connId }, .worked)
    else none
  | .transactionStore thread txnResult, system => do
    let connId ← system.beginning.lookup thread
    let (answer, global) := system.global.transactionStore connId txnResult
    some ({ system with global, beginning := system.beginning.erase thread }, .began connId answer)
  | .transactionEnd txnId, system =>
    let (transaction, global) := system.global.transactionTake txnId
    some ({ system with global }, .took txnId transaction)

end Threads

end OdbcFast.Native
