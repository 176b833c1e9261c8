import OdbcFast.Native.Ffi.StreamKind
import OdbcFast.Wire.HashMap

/-!
# The global state of the C interface

Every entry point works on one state behind one lock. A section that holds the lock
is one step. Two calls let the lock go while they work: a fetch takes its stream out of
the map and puts it back, and the begin of a transaction checks the connection,
contacts the database and then stores the transaction. Between the two sections of
such a call any other call may run; what the call holds meanwhile is kept under its
thread.

The messages a worker will send are fixed when its stream is started, a cancellation
included, so `odbc_stream_cancel` changes nothing here.
-/

namespace OdbcFast.Native

open Wire

structure PendingStreamChunk where
  data : Bytes
  hasMore : Bool
  deriving DecidableEq, Repr

/-- A transaction is known by its connection. -/
structure Transaction where
  connId : Nat
  deriving DecidableEq, Repr

/-- The maps that streams and transactions use; a connection is known by its identifier. -/
structure GlobalState where
  connections : HashMap Nat Unit := ∅
  transactions : HashMap Nat Transaction := ∅
  streams : HashMap Nat LiveStream := ∅
  streamConnections : HashMap Nat Nat := ∅
  pendingStreamChunks : HashMap Nat PendingStreamChunk := ∅
  nextStreamId : Nat := 1
  nextTxnId : Nat := 1

/-! ## Identifiers -/

def maxIdAllocAttempts : Nat := 1000

/-- The first free identifier among the next candidates, and the next candidate behind it. -/
def allocateFrom (taken : Nat → Bool) : Nat → Nat → Option Nat × Nat
  | 0, next => (none, next)
  | attempts + 1, next =>
    if next ≠ 0 ∧ ¬ taken next then (some next, (next + 1) % 2 ^ 32)
    else allocateFrom taken attempts ((next + 1) % 2 ^ 32)

theorem allocateFrom_spec {taken : Nat → Bool} {attempts next id : Nat}
    (allocated : (allocateFrom taken attempts next).1 = some id) :
    id ≠ 0 ∧ taken id = false := by
  induction attempts generalizing next with
  | zero => cases allocated
  | succ attempts ih =>
      rw [allocateFrom] at allocated
      split_ifs at allocated with free
      · cases allocated
        exact ⟨free.1, by simpa using free.2⟩
      · exact ih allocated

/-! ## Streams -/

/-- What a fetch answers; the first two have code 0. -/
inductive FetchAnswer where
  | delivered (data : Bytes) (hasMore : Bool)
  | ended
  | tooSmall (needed : Nat)
  | invalidStream
  | failed (err : OdbcError)
  deriving DecidableEq, Repr

def FetchAnswer.code : FetchAnswer → Int
  | .delivered _ _ => 0
  | .ended => 0
  | .tooSmall _ => -2
  | .invalidStream => -1
  | .failed _ => -1

/-- What a disconnect answers; only the first has code 0. -/
inductive DisconnectAnswer where
  | disconnected
  | failed
  | invalidConnection
  deriving DecidableEq, Repr

/-- A fetch between its two sections. -/
structure FetchCall where
  streamId : Nat
  bufLen : Nat
  live : LiveStream
  deriving DecidableEq

namespace GlobalState

/-- The first section of `odbc_stream_fetch`: a chunk that was too large for an earlier
buffer is tried first. -/
def fetchBegin (streamId bufLen : Nat) (state : GlobalState) :
    (FetchAnswer ⊕ FetchCall) × GlobalState :=
  match state.pendingStreamChunks.lookup streamId with
  | some pending =>
    if pending.data.length > bufLen then (.inl (.tooSmall pending.data.length), state)
    else (.inl (.delivered pending.data pending.hasMore), { state with
      pendingStreamChunks := state.pendingStreamChunks.erase streamId })
  | none =>
    match state.streams.lookup streamId with
    | none => (.inl .invalidStream, state)
    | some live => (.inr ⟨streamId, bufLen, live⟩, { state with
        streams := state.streams.erase streamId })

/-- The work without the lock and the second section; `none` while the stream's worker has
to send first. -/
def fetchFinish (call : FetchCall) (state : GlobalState) : Option (FetchAnswer × GlobalState) :=
  call.live.kind.fetchNextChunk.map fun (fetchResult, kind) =>
    let hasMore := kind.hasMore
    let state := { state with
      streams := state.streams.insert call.streamId { call.live with kind } }
    match fetchResult with
    | .ok (some data) =>
      if data.length > call.bufLen then
        (.tooSmall data.length, { state with
          pendingStreamChunks := state.pendingStreamChunks.insert call.streamId ⟨data, hasMore⟩ })
      else (.delivered data hasMore, state)
    | .ok none => (.ended, state)
    | .error err => (.failed err, state)

/-- `odbc_stream_fetch` by a client that makes one call at a time. -/
def odbcStreamFetch (streamId bufLen : Nat) (state : GlobalState) :
    Option (FetchAnswer × GlobalState) :=
  match fetchBegin streamId bufLen state with
  | (.inl answer, state) => some (answer, state)
  | (.inr call, state) => fetchFinish call state

/-- `odbc_stream_poll_async`; `none` for an identifier that is not in the map. -/
def odbcStreamPollAsync (streamId : Nat) (state : GlobalState) : Option Int × GlobalState :=
  match state.streams.lookup streamId with
  | none => (none, state)
  | some live =>
    (some live.kind.pollStatus.1, { state with
      streams := state.streams.insert streamId { live with kind := live.kind.pollStatus.2 } })

/-- `odbc_stream_cancel`. -/
def odbcStreamCancel (streamId : Nat) (state : GlobalState) : Int :=
  match state.streams.lookup streamId with
  | some _ => 0
  | none => 1

def odbcStreamClose (streamId : Nat) (state : GlobalState) : Int × GlobalState :=
  match state.streams.lookup streamId with
  | some _ => (0, { state with
      streams := state.streams.erase streamId
      streamConnections := state.streamConnections.erase streamId
      pendingStreamChunks := state.pendingStreamChunks.erase streamId })
  | none => (1, state)

/-- The last section of a stream's start. -/
def streamStart (connId : Nat) (live : LiveStream) (state : GlobalState) :
    Option Nat × GlobalState :=
  let (id, nextStreamId) := allocateFrom (fun id => (state.streams.lookup id).isSome)
    maxIdAllocAttempts state.nextStreamId
  let state := { state with nextStreamId }
  match id with
  | none => (none, state)
  | some id => (some id, { state with
      streams := state.streams.insert id live
      streamConnections := state.streamConnections.insert id connId })

/-! ## Transactions -/

/-- `IsolationLevel::from_u32` knows four levels. -/
def validIsolation (isolationLevel : Nat) : Bool := isolationLevel < 4

inductive BeginAnswer where
  | invalidIsolation
  | invalidConnection
  | alreadyActive
  | notAllocated
  | failed (err : OdbcError)
  | began (txnId : Nat)
  deriving DecidableEq, Repr

/-- The first section of `odbc_transaction_begin_v3`; `none` when it goes on to contact the
database. -/
def transactionCheck (connId isolationLevel : Nat) (state : GlobalState) : Option BeginAnswer :=
  if ¬ validIsolation isolationLevel then some .invalidIsolation
  else if (state.connections.lookup connId).isNone then some .invalidConnection
  else if state.transactions.anyValue fun txn => txn.connId = connId then some .alreadyActive
  else none

/-- Its second section, with what the database answered. -/
def transactionStore (connId : Nat) (txnResult : Except OdbcError Unit) (state : GlobalState) :
    BeginAnswer × GlobalState :=
  match txnResult with
  | .error err => (.failed err, state)
  | .ok () =>
    let (id, nextTxnId) := allocateFrom (fun id => (state.transactions.lookup id).isSome)
      maxIdAllocAttempts state.nextTxnId
    let state := { state with nextTxnId }
    match id with
    | none => (.notAllocated, state)
    | some id => (.began id, { state with
        transactions := state.transactions.insert id ⟨connId⟩ })

/-- The section of `odbc_transaction_commit` and `odbc_transaction_rollback`: the transaction
leaves the map before the database is contacted. -/
def transactionTake (txnId : Nat) (state : GlobalState) : Option Transaction × GlobalState :=
  (state.transactions.lookup txnId,
    { state with transactions := state.transactions.erase txnId })

/-! ## Connections -/

/-- A connection that was opened; its identifier is new. -/
def odbcConnect (connId : Nat) (state : GlobalState) : GlobalState :=
  { state with connections := state.connections.insert connId () }

/-- `odbc_disconnect`, with whether the handle manager still has the connection: everything
that belongs to the connection is dropped in one section. -/
def odbcDisconnect (connId : Nat) (known : Bool) (state : GlobalState) :
    DisconnectAnswer × GlobalState :=
  match state.connections.lookup connId with
  | none => (.invalidConnection, state)
  | some _ =>
    let drops (streamId : Nat) : Bool := state.streamConnections.lookup streamId = some connId
    (if known then .disconnected else .failed, { state with
      connections := state.connections.erase connId
      transactions := state.transactions.retain fun _ txn => txn.connId ≠ connId
      streams := state.streams.retain fun streamId _ => ¬ drops streamId
      streamConnections := state.streamConnections.retain fun streamId _ => ¬ drops streamId
      pendingStreamChunks :=
        state.pendingStreamChunks.retain fun streamId _ => ¬ drops streamId })

/-! ## What the calls leave alone -/

/-- Nothing that transactions depend on has changed. -/
def SameTransactions (state next : GlobalState) : Prop :=
  next.connections = state.connections ∧ next.transactions = state.transactions

/-- Nothing that streams depend on has changed. -/
def SameStreams (state next : GlobalState) : Prop :=
  next.streams = state.streams ∧ next.streamConnections = state.streamConnections ∧
    next.pendingStreamChunks = state.pendingStreamChunks

variable (state : GlobalState)

theorem fetchBegin_sameTransactions (streamId bufLen : Nat) :
    state.SameTransactions (state.fetchBegin streamId bufLen).2 := by
  rw [fetchBegin]
  split
  · split_ifs <;> exact ⟨rfl, rfl⟩
  · split <;> exact ⟨rfl, rfl⟩

theorem fetchFinish_sameTransactions {call : FetchCall} {answer : FetchAnswer} {next : GlobalState}
    (finished : state.fetchFinish call = some (answer, next)) : state.SameTransactions next := by
  obtain ⟨⟨result, kind⟩, -, same⟩ := Option.map_eq_some_iff.mp finished
  simp only at same
  split at same
  · split_ifs at same <;> cases same <;> exact ⟨rfl, rfl⟩
  · cases same
    exact ⟨rfl, rfl⟩
  · cases same
    exact ⟨rfl, rfl⟩

theorem odbcStreamPollAsync_sameTransactions (streamId : Nat) :
    state.SameTransactions (state.odbcStreamPollAsync streamId).2 := by
  rw [odbcStreamPollAsync]
  split <;> exact ⟨rfl, rfl⟩

theorem odbcStreamClose_sameTransactions (streamId : Nat) :
    state.SameTransactions (state.odbcStreamClose streamId).2 := by
  rw [odbcStreamClose]
  split <;> exact ⟨rfl, rfl⟩

theorem streamStart_sameTransactions (connId : Nat) (live : LiveStream) :
    state.SameTransactions (state.streamStart connId live).2 := by
  rw [streamStart]
  simp only
  split <;> exact ⟨rfl, rfl⟩

theorem transactionStore_sameStreams (connId : Nat) (txnResult : Except OdbcError Unit) :
    state.SameStreams (state.transactionStore connId txnResult).2 := by
  cases txnResult with
  | error err => exact ⟨rfl, rfl, rfl⟩
  | ok _ =>
      rw [transactionStore]
      simp only
      split <;> exact ⟨rfl, rfl, rfl⟩

end GlobalState

end OdbcFast.Native
