import OdbcFast.Dart.Repository

/-!
# Running a query again after a reconnect

`_withReconnect` runs an operation and, as long as it fails because the connection was
lost, reconnects and runs it again. The operation is a closure of the query method: it
took the native identifier out of the repository before the loop began.

What the database does is given from outside: what each run of the operation
completes with and what each reconnect is answered. A call records its attempts
besides what it completes with.
-/

namespace OdbcFast.Dart

open Wire

variable {α : Type}

/-- A query with the native connection it was built for. Each run reads the options of the
connection again. -/
structure Operation (α : Type) where
  nativeId : Nat
  run : Option ConnectionOptions → Nat → Completion (Result α)

/-- The repository and the native connections that are open. -/
structure World where
  repository : Repository
  live : HashMap Nat Unit

/-- What one reconnect meets, with whether the old connection was closed. -/
structure ReconnectTurn where
  replies : Repository.ReconnectReplies
  closed : Bool

structure Attempt (α : Type) where
  reconnected : Completion (Result Unit)
  /-- The native connection the reconnect opened. -/
  created : Option Nat
  /-- The native connection the operation then ran on, and what it completed with. -/
  reran : Option (Nat × Completion (Result α))

structure Call (α : Type) where
  completion : Completion (Result α)
  /-- The first run; a connection that is not known is refused before. -/
  first : Option (Completion (Result α)) := none
  attempts : List (Attempt α) := []
  world : World

namespace World

/-- `_connectionOptions[connectionId]`. -/
def optionsOf (connectionId : String) (world : World) : Option ConnectionOptions :=
  (world.repository.connectionOptions.lookup connectionId).join

/-- `_reconnect` beside the native connections it closes and opens. -/
def reconnect (turn : ReconnectTurn) (connectionId connectionString : String)
    (options : ConnectionOptions) (world : World) :
    Completion (Result Unit) × Option Nat × World :=
  let (reconnected, repository) :=
    world.repository.reconnect turn.replies connectionId connectionString (some options)
  let live :=
    match world.repository.connectionIds.lookup connectionId with
    | some nativeId => if turn.closed then world.live.erase nativeId else world.live
    | none => world.live
  match reconnected, turn.replies.connect with
  | .ok (.success ()), .ok connId =>
    (reconnected, some connId, ⟨repository, live.insert connId ()⟩)
  | _, _ => (reconnected, none, ⟨repository, live⟩)

end World

namespace Repository

/-- The options and the connection string to reconnect with, when reconnecting is asked for. -/
def reconnectSettings (connectionId : String) (repository : Repository) :
    Option (ConnectionOptions × String) :=
  match repository.connectionOptions.lookup connectionId,
      repository.connectionStrings.lookup connectionId with
  | some (some options), some connectionString =>
    if options.autoReconnectOnConnectionLost ∧ connectionString ≠ "" then
      some (options, connectionString)
    else none
  | _, _ => none

/-- How many reconnects may be tried. -/
def maxAttempts (connectionId : String) (repository : Repository) : Nat :=
  match repository.reconnectSettings connectionId with
  | none => 0
  | some (options, _) => options.effectiveMaxReconnectAttempts.toNat

end Repository

/-- The loop of `_withReconnect`. A failed reconnect is cast to the result type of the
operation, which is never the type of a reconnect's result, so the cast throws. -/
def reconnectLoop (turns : Nat → ReconnectTurn) (connectionId connectionString : String)
    (options : ConnectionOptions) (operation : Operation α) :
    Nat → Nat → Result α → World → Call α
  | 0, _, result, world => { completion := .ok result, world }
  | remaining + 1, attempt, _, world =>
    match world.reconnect (turns attempt) connectionId connectionString options with
    | (.error thrown, created, world) =>
      { completion := .error thrown, attempts := [⟨.error thrown, created, none⟩], world }
    | (.ok (.failure error), created, world) =>
      { completion := .error (.fault .typeError)
        attempts := [⟨.ok (.failure error), created, none⟩], world }
    | (.ok (.success ()), created, world) =>
      let outcome := operation.run (world.optionsOf connectionId) (attempt + 1)
      let tried := ⟨.ok (.success ()), created, some (operation.nativeId, outcome)⟩
      match outcome with
      | .error thrown => { completion := .error thrown, attempts := [tried], world }
      | .ok result =>
        if result.lost then
          let call := reconnectLoop turns connectionId connectionString options operation
            remaining (attempt + 1) result world
          { call with attempts := tried :: call.attempts }
        else { completion := .ok result, attempts := [tried], world }

/-- `_withReconnect`. -/
def withReconnect (turns : Nat → ReconnectTurn) (connectionId : String) (operation : Operation α)
    (world : World) : Call α :=
  let first := operation.run (world.optionsOf connectionId) 0
  match first with
  | .error thrown => { completion := .error thrown, first, world }
  | .ok result =>
    if ¬ result.lost then { completion := .ok result, first, world }
    else
      match world.repository.reconnectSettings connectionId with
      | none => { completion := .ok result, first, world }
      | some (options, connectionString) =>
        { reconnectLoop turns connectionId connectionString options operation
            options.effectiveMaxReconnectAttempts.toNat 0 result world with first }

/-- What `executeQuery`, `executeQueryParams`, `executeQueryParamBuffer`,
`executeQueryMultiFull` and `executeQueryMultiParams` share: the native identifier is looked up
once, and everything behind it is an operation on it. -/
def queryMethod (turns : Nat → ReconnectTurn) (connectionId : String)
    (operation : Nat → Option ConnectionOptions → Nat → Completion (Result α)) (world : World) :
    Call α :=
  match world.repository.connectionIds.lookup connectionId with
  | none => { completion := .ok (.failure invalidConnectionId), world }
  | some nativeId => withReconnect turns connectionId ⟨nativeId, operation nativeId⟩ world

end OdbcFast.Dart
