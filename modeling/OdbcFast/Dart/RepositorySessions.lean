import OdbcFast.Dart.Reconnect
import OdbcFast.Native.Ffi.Sessions
import OdbcFast.Wire.Machine

/-!
# The repository above the native sessions

A call of the repository makes one native call, a reconnect two. On the asynchronous
backend the call is a request to a worker, which may fail to answer in time or end
before it does; the worker takes its requests in order, so a request that it still gets
to is done before every later one. There a refused connect is thrown, which leaves the
repository as an undelivered one does.

The machine takes the calls one after the other and notes which statement each
successful prepare returned.
-/

namespace OdbcFast.Dart

open Wire
open Native (Sessions)

/-- What becomes of a native call. -/
inductive Delivery where
  | served
  /-- Answered as a failure, with nothing done. -/
  | refused
  /-- Done, but the answer did not arrive. -/
  | unanswered (thrown : Thrown)
  | undelivered (thrown : Thrown)
  deriving DecidableEq, Repr

namespace Delivery

def performed : Delivery → Bool
  | .served => true
  | .refused => false
  | .unanswered _ => true
  | .undelivered _ => false

variable {α : Type}

def request (refusal : α) (call : Sessions → α × Sessions) (sessions : Sessions) :
    Delivery → Completion α × Sessions
  | .served => (.ok (call sessions).1, (call sessions).2)
  | .refused => (.ok refusal, sessions)
  | .unanswered thrown => (.error thrown, (call sessions).2)
  | .undelivered thrown => (.error thrown, sessions)

theorem request_snd (refusal : α) (call : Sessions → α × Sessions) (sessions : Sessions)
    (delivery : Delivery) :
    (delivery.request refusal call sessions).2 =
      if delivery.performed then (call sessions).2 else sessions := by
  cases delivery <;> rfl

/-- An answer is the call's or the refusal. -/
theorem request_eq_ok {refusal value : α} {call : Sessions → α × Sessions} {sessions : Sessions}
    {delivery : Delivery} (answered : (delivery.request refusal call sessions).1 = .ok value) :
    delivery = .served ∧ (call sessions).1 = value ∨ delivery = .refused ∧ refusal = value := by
  cases delivery with
  | served => exact .inl ⟨rfl, Except.ok.inj answered⟩
  | refused => exact .inr ⟨rfl, Except.ok.inj answered⟩
  | unanswered thrown => cases answered
  | undelivered thrown => cases answered

/-- What holds of the sessions as they are and behind the call holds behind the request. -/
theorem request_cases {motive : Sessions → Prop} {call : Sessions → α × Sessions}
    {sessions : Sessions} (delivery : Delivery) (refusal : α) (kept : motive sessions)
    (called : motive (call sessions).2) :
    motive (delivery.request refusal call sessions).2 := by
  cases delivery with
  | served => exact called
  | refused => exact kept
  | unanswered thrown => exact called
  | undelivered thrown => exact kept

theorem drops_request {taken : Nat → Native.StatementHandle → Prop}
    {call : Sessions → α × Sessions} {sessions : Sessions} (delivery : Delivery) (refusal : α)
    (drops : Sessions.Drops taken sessions (call sessions).2) :
    Sessions.Drops (fun stmtId statement => delivery.performed ∧ taken stmtId statement) sessions
      (delivery.request refusal call sessions).2 := by
  rw [request_snd]
  split_ifs with done
  · simpa only [done, true_and] using drops
  · simpa only [done, Bool.false_eq_true, false_and] using Sessions.drops_refl sessions

theorem drops_request_kept {call : Sessions → α × Sessions} {sessions : Sessions}
    (delivery : Delivery) (refusal : α) (drops : Sessions.Drops (fun _ _ => False) sessions (call sessions).2) :
    Sessions.Drops (fun _ _ => False) sessions (delivery.request refusal call sessions).2 := by
  simpa only [and_false] using delivery.drops_request refusal drops

end Delivery

namespace SessionCalls

structure System where
  repository : Repository := {}
  sessions : Sessions := {}

inductive Event where
  | connect (delivery : Delivery) (opened : Bool) (errors : NativeErrors)
      (connectionString : String) (options : Option ConnectionOptions)
  | disconnect (delivery : Delivery) (closed : Bool) (errors : NativeErrors)
      (connectionId : String)
  | reconnect (disconnecting connecting : Delivery) (closed opened : Bool) (errors : NativeErrors)
      (connectionId : String)
  | poolCreate (delivery : Delivery) (built : Bool)
  | poolGetConnection (delivery : Delivery) (available : Bool) (errors : NativeErrors)
      (poolId : Nat)
  | poolReleaseConnection (delivery : Delivery) (errors : NativeErrors) (connectionId : String)
  | poolClose (delivery : Delivery) (errors : NativeErrors) (poolId : Nat)
  | prepare (delivery : Delivery) (errors : NativeErrors) (connectionId sql : String)
  | prepareNamed (delivery : Delivery) (errors : NativeErrors) (connectionId sql : String)
  | closeStatement (delivery : Delivery) (errors : NativeErrors) (connectionId : String)
      (stmtId : Nat)
  | clearAllStatements (delivery : Delivery) (errors : NativeErrors)

/-- The SQL a statement was prepared from, by `prepareNamed` or by `prepare`. -/
structure Preparation where
  sql : String
  named : Bool
  deriving DecidableEq, Repr

/-- The text that was handed to the native library. -/
def Preparation.text (preparation : Preparation) : String :=
  if preparation.named then (NamedParameterParser.extract preparation.sql).cleanedSql
  else preparation.sql

/-- The order of the parameter names, for a statement that has them. -/
def Preparation.order (preparation : Preparation) : Option (List String) :=
  if preparation.named then some (NamedParameterParser.extract preparation.sql).paramNames
  else none

/-- What a call tells. -/
inductive Output where
  | prepared (stmtId : Nat) (preparation : Preparation)
  | unprepared (completion : Completion (Result Nat))
  | connected (completion : Completion (Result Connection))
  | completed (completion : Completion (Result Unit))
  | pooled (completion : Completion Nat)

/-- What a prepare that completes so tells. -/
def Output.ofPrepare (preparation : Preparation) : Completion (Result Nat) → Output
  | .ok (.success stmtId) => .prepared stmtId preparation
  | other => .unprepared other

namespace System

variable {α : Type}

/-- The sessions behind a call on the native connection of the text; a connection that is not
known is refused without a native call. -/
def sessionsAfter (connectionId : String) (ask : Nat → Completion α × Sessions)
    (system : System) : Sessions :=
  match system.repository.connectionIds.lookup connectionId with
  | none => system.sessions
  | some nativeId => (ask nativeId).2

theorem drops_sessionsAfter {taken : Nat → Nat → Native.StatementHandle → Prop}
    (connectionId : String) {ask : Nat → Completion α × Sessions} {system : System}
    (drops : ∀ nativeId, Sessions.Drops (taken nativeId) system.sessions (ask nativeId).2) :
    Sessions.Drops
      (fun stmtId statement => ∃ nativeId,
        system.repository.connectionIds.lookup connectionId = some nativeId ∧
          taken nativeId stmtId statement)
      system.sessions (system.sessionsAfter connectionId ask) := by
  rw [sessionsAfter]
  cases system.repository.connectionIds.lookup connectionId with
  | none => simpa using Sessions.drops_refl system.sessions
  | some nativeId => simpa using drops nativeId

def disconnect (delivery : Delivery) (closed : Bool) (errors : NativeErrors)
    (connectionId : String) (system : System) : System × Output :=
  let ask (nativeId : Nat) :=
    delivery.request false (Sessions.odbcDisconnect nativeId closed) system.sessions
  let call := system.repository.disconnect (fun id => (ask id).1) errors connectionId
  (⟨call.2, system.sessionsAfter connectionId ask⟩, .completed call.1)

/-- A reconnect calls the native library a second time unless the first call throws. -/
def reconnect (disconnecting connecting : Delivery) (closed opened : Bool) (errors : NativeErrors)
    (connectionId connectionString : String) (options : ConnectionOptions) (system : System) :
    System × Output :=
  let ask (nativeId : Nat) :=
    disconnecting.request false (Sessions.odbcDisconnect nativeId closed) system.sessions
  let sessions := system.sessionsAfter connectionId ask
  let connected := connecting.request 0 (Sessions.odbcConnect opened) sessions
  let goesOn : Bool :=
    match system.repository.connectionIds.lookup connectionId with
    | none => true
    | some nativeId => (ask nativeId).1.toBool
  let call := system.repository.reconnect ⟨fun id => (ask id).1, connected.1, errors⟩
    connectionId connectionString (some options)
  (⟨call.2, if goesOn then connected.2 else sessions⟩, .completed call.1)

def poolReleaseConnection (delivery : Delivery) (errors : NativeErrors) (connectionId : String)
    (system : System) : System × Output :=
  let ask (nativeId : Nat) :=
    delivery.request false (Sessions.odbcPoolReleaseConnection nativeId) system.sessions
  let call := system.repository.poolReleaseConnection (fun id => (ask id).1) errors connectionId
  (⟨call.2, system.sessionsAfter connectionId ask⟩, .completed call.1)

/-- Both ways to prepare, with what the repository makes of the native answer. -/
def prepare (delivery : Delivery) (connectionId : String) (preparation : Preparation)
    (prepares : (Nat → Completion Nat) → Completion (Result Nat) × Repository)
    (system : System) : System × Output :=
  let ask (nativeId : Nat) :=
    delivery.request 0 (Sessions.odbcPrepare nativeId preparation.text) system.sessions
  let call := prepares fun id => (ask id).1
  (⟨call.2, system.sessionsAfter connectionId ask⟩, .ofPrepare preparation call.1)

def closeStatement (delivery : Delivery) (errors : NativeErrors) (connectionId : String)
    (stmtId : Nat) (system : System) : System × Output :=
  let closed := delivery.request false (Sessions.odbcCloseStatement stmtId) system.sessions
  let call := system.repository.closeStatement closed.1 errors connectionId stmtId
  let sessions :=
    match system.repository.validateStatementOwnership connectionId stmtId "closeStatement" with
    | some _ => system.sessions
    | none => closed.2
  (⟨call.2, sessions⟩, .completed call.1)

end System

/-- One call. A reconnect is made only for a connection that asks for it. -/
def step : Event → System → Option (System × Output)
  | .connect delivery opened errors connectionString options, system =>
    let connected := delivery.request 0 (Sessions.odbcConnect opened) system.sessions
    let call := system.repository.connect connected.1 errors connectionString options
    let sessions :=
      match Repository.connectRefusal connectionString options with
      | some _ => system.sessions
      | none => connected.2
    some (⟨call.2, sessions⟩, .connected call.1)
  | .disconnect delivery closed errors connectionId, system =>
    some (system.disconnect delivery closed errors connectionId)
  | .reconnect disconnecting connecting closed opened errors connectionId, system =>
    match system.repository.reconnectSettings connectionId with
    | none => none
    | some (options, connectionString) => some (system.reconnect disconnecting connecting closed
        opened errors connectionId connectionString options)
  | .poolCreate delivery built, system =>
    let created := delivery.request 0 (Sessions.odbcPoolCreate built) system.sessions
    some ({ system with sessions := created.2 }, .pooled created.1)
  | .poolGetConnection delivery available errors poolId, system =>
    let got := delivery.request 0 (Sessions.odbcPoolGetConnection poolId available) system.sessions
    let call := system.repository.poolGetConnection got.1 errors
    some (⟨call.2, got.2⟩, .connected call.1)
  | .poolReleaseConnection delivery errors connectionId, system =>
    some (system.poolReleaseConnection delivery errors connectionId)
  | .poolClose delivery errors poolId, system =>
    let closed := delivery.request false (Sessions.odbcPoolClose poolId) system.sessions
    some ({ system with sessions := closed.2 }, .completed (Repository.poolClose closed.1 errors))
  | .prepare delivery errors connectionId sql, system =>
    some (system.prepare delivery connectionId ⟨sql, false⟩ fun reply =>
      system.repository.prepare reply errors connectionId)
  | .prepareNamed delivery errors connectionId sql, system =>
    some (system.prepare delivery connectionId ⟨sql, true⟩ fun reply =>
      system.repository.prepareNamed (fun _ => reply) errors connectionId sql)
  | .closeStatement delivery errors connectionId stmtId, system =>
    some (system.closeStatement delivery errors connectionId stmtId)
  | .clearAllStatements delivery errors, system =>
    let cleared := delivery.request (-1) Sessions.odbcClearAllStatements system.sessions
    some ({ system with sessions := cleared.2 },
      .completed (Repository.clearAllStatements cleared.1 errors))

end SessionCalls

end OdbcFast.Dart
