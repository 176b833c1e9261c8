import OdbcFast.Native.Ffi.XaMaps

/-!
# Branches driven from Dart

The Dart handle of a branch holds the native identifier and a state of its own, which it
advances by the return codes. Three helpers run an action inside a branch: they start it,
hand it to the action, and complete it in two phases or in one; when something fails they
roll back by the way that the handle's state suggests.

The action is any program that calls the handle's methods and the native entry points and
goes on by what they answer. Other branches may come and go meanwhile.
-/

namespace OdbcFast.Dart

open Wire OdbcFast.Native OdbcFast.Native.Engine

inductive XaState where
  | none
  | active
  | idle
  | prepared
  | committed
  | rolledBack
  | failed
  deriving DecidableEq, Repr

structure XaTransactionHandle where
  xaId : Nat
  state : XaState := .active
  deriving DecidableEq, Repr

/-- A handle beside the native maps. What was asked for its branch is recorded, from the
moment its identifier was given out; `resumed` when that was for a prepared branch. -/
structure XaWorld where
  handle : XaTransactionHandle
  maps : XaMaps
  sent : List XaRecord := []
  resumed : Bool := false

namespace XaWorld

variable (driver : XaDriver)

/-- A method of the handle: a native call, and the next state by its return code. -/
def call (entry : XaMaps.Entry) (next : XaState) (world : XaWorld) : Bool × XaWorld :=
  let (reply, maps) := entry.call driver world.handle.xaId world.maps
  let sent := world.sent ++ maps.history.drop world.maps.history.length
  let rc := reply.code
  if rc = 0 then (true, { world with handle := { world.handle with state := next }, maps, sent })
  else (false, { world with handle := { world.handle with state := .failed }, maps, sent })

/-- `end`. -/
def finish : XaWorld → Bool × XaWorld := call driver .finish .idle
def prepare : XaWorld → Bool × XaWorld := call driver .prepare .prepared
def commitPrepared : XaWorld → Bool × XaWorld := call driver .commitPrepared .committed
def rollbackPrepared : XaWorld → Bool × XaWorld := call driver .rollbackPrepared .rolledBack
def commitOnePhase : XaWorld → Bool × XaWorld := call driver .commitOnePhase .committed
def rollback : XaWorld → Bool × XaWorld := call driver .rollbackActive .rolledBack

/-! ## Actions -/

/-- What an action can do: a method of its handle, named by the entry point behind it, or a
native call of its own. -/
inductive Op where
  | method (entry : XaMaps.Entry)
  | native (event : XaMaps.Event)

inductive OpReply where
  | answered (success : Bool)
  | native (reply : XaReply)

def method : XaMaps.Entry → XaWorld → Bool × XaWorld
  | .finish => finish driver
  | .prepare => prepare driver
  | .commitPrepared => commitPrepared driver
  | .rollbackPrepared => rollbackPrepared driver
  | .commitOnePhase => commitOnePhase driver
  | .rollbackActive => rollback driver

/-- A native call beside the handle. It may be for the handle's branch, and it may give the
handle's identifier to another branch once it is free. -/
def native (event : XaMaps.Event) (world : XaWorld) : XaReply × XaWorld :=
  let (reply, maps) := world.maps.act driver event
  let asked := maps.history.drop world.maps.history.length
  let id := world.handle.xaId
  (reply, match event with
    | .call _ xaId => { world with
        maps, sent := if xaId = id then world.sent ++ asked else world.sent }
    | .start .. => if reply = .started id then ⟨world.handle, maps, [], false⟩
        else { world with maps }
    | .resume .. => if reply = .started id then ⟨world.handle, maps, [], true⟩
        else { world with maps }
    | _ => { world with maps })

def reply : Op → XaWorld → OpReply × XaWorld
  | .method entry, world =>
    let (success, world) := world.method driver entry
    (.answered success, world)
  | .native event, world =>
    let (reply, world) := world.native driver event
    (.native reply, world)

end XaWorld

/-- How an action ends. -/
inductive ActionOutcome (T : Type) where
  | returned (value : T)
  | threw (error : String)

abbrev XaAction (T : Type) := Interaction XaWorld.Op XaWorld.OpReply (ActionOutcome T)

/-- Why a helper fails. -/
inductive XaFailure (E : Type) where
  | endFailed
  | prepareFailed
  | commitPreparedFailed
  | commitOnePhaseFailed
  /-- The action returned a failure. -/
  | failed (error : E)
  | threw (error : String)

namespace XaWorld

variable (driver : XaDriver) {E T : Type}

/-- `xa_end`, `xa_prepare`, `xa_commit_prepared`, as far as they succeed. -/
def twoPhases (world : XaWorld) : Option (XaFailure E) × XaWorld :=
  let (ended, world) := world.finish driver
  if ¬ ended then (some .endFailed, world)
  else
    let (prepared, world) := world.prepare driver
    if ¬ prepared then (some .prepareFailed, world)
    else
      let (committed, world) := world.commitPrepared driver
      if ¬ committed then (some .commitPreparedFailed, world) else (none, world)

def onePhase (world : XaWorld) : Option (XaFailure E) × XaWorld :=
  let (committed, world) := world.commitOnePhase driver
  if ¬ committed then (some .commitOnePhaseFailed, world) else (none, world)

/-- `_xaSafelyAbort`, and what `runWithStart` does when it catches something. -/
def xaSafelyAbort (world : XaWorld) : XaWorld :=
  let world := if world.handle.state = .active then (world.finish driver).2 else world
  if world.handle.state = .prepared then (world.rollbackPrepared driver).2
  else if world.handle.state = .idle ∨ world.handle.state = .failed then
    (world.rollback driver).2
  else world

/-- What `runWithStartOnePhase` does. -/
def abortOnePhase (world : XaWorld) : XaWorld :=
  let world := if world.handle.state = .active then (world.finish driver).2 else world
  if world.handle.state = .idle ∨ world.handle.state = .failed then (world.rollback driver).2
  else world

/-- `runWithStart` behind a start that has succeeded. -/
def runWithStart (action : XaAction T) (world : XaWorld) :
    Except (XaFailure Empty) T × XaWorld :=
  match action.run (reply driver) world with
  | (.threw error, world) => (.error (.threw error), world.xaSafelyAbort driver)
  | (.returned result, world) =>
    match world.twoPhases driver with
    | (some failure, world) => (.error failure, world.xaSafelyAbort driver)
    | (none, world) => (.ok result, world)

def runWithStartOnePhase (action : XaAction T) (world : XaWorld) :
    Except (XaFailure Empty) T × XaWorld :=
  match action.run (reply driver) world with
  | (.threw error, world) => (.error (.threw error), world.abortOnePhase driver)
  | (.returned result, world) =>
    match world.onePhase driver with
    | (some failure, world) => (.error failure, world.abortOnePhase driver)
    | (none, world) => (.ok result, world)

/-- `runInXaTransaction` behind a start that has succeeded: a verb that fails is not followed
by an abort. -/
def runInXaTransaction (onePhase : Bool) (action : XaAction (Except E T)) (world : XaWorld) :
    Except (XaFailure E) T × XaWorld :=
  match action.run (reply driver) world with
  | (.threw error, world) => (.error (.threw error), world.xaSafelyAbort driver)
  | (.returned (.error error), world) => (.error (.failed error), world.xaSafelyAbort driver)
  | (.returned (.ok result), world) =>
    match if onePhase then world.onePhase driver else world.twoPhases driver with
    | (some failure, world) => (.error failure, world)
    | (none, world) => (.ok result, world)

/-- `xaStart` of the connection: a live handle, unless the native call fails. -/
def xaStart (connId : Nat) (xid : Xid) (maps : XaMaps) : Option XaWorld × XaMaps :=
  match maps.odbcXaStart driver connId xid.formatId (some xid.gtrid) (some xid.bqual) with
  | (.started xaId, maps) => (some ⟨⟨xaId, .active⟩, maps, [], false⟩, maps)
  | (_, maps) => (none, maps)

end XaWorld

end OdbcFast.Dart
