import OdbcFast.Dart.MessageProtocol
import OdbcFast.Dart.OdbcError
import OdbcFast.Wire.Correlation
import OdbcFast.Wire.Machine

/-!
# The correlation table of the asynchronous connection

The main isolate runs one event at a time, with the continuations that the event sets
free. Calls, messages of any worker that was ever spawned, time-outs and the ends of
spawning come in any order. A worker is whatever sends messages to the port it was
spawned with; nothing is assumed of the numbers in its answers.
-/

namespace OdbcFast.Dart

open Wire

/-- What a worker sends: its own port first, then answers. -/
inductive WorkerMessage where
  | sendPort (worker : Nat)
  | response (response : WorkerResponse)
  deriving DecidableEq, Repr

/-- A receive port with the handshake that its listener completes. -/
structure Listener where
  handshake : Option Nat := none
  isClosed : Bool := false
  deriving DecidableEq, Repr

/-- Where a call of `initialize` waits. -/
inductive InitializeStage where
  | spawning
  | handshaking
  | awaiting (requestId : Nat)
  | returned (answer : Completion Bool)

structure InitializeTask where
  port : Nat
  stage : InitializeStage

/-- Durations are in microseconds. `recoveryInFlight` is the call of `initialize` that the
recovery waits for. -/
structure AsyncConnection where
  requestTimeout : Option Int
  autoRecoverOnWorkerCrash : Bool
  workerSendPort : Option Nat := none
  receivePort : Option Nat := none
  isInitialized : Bool := false
  isShuttingDown : Bool := false
  table : Correlation RequestType (Completion WorkerResponse) := {}
  recoveryInFlight : Option Nat := none
  listeners : List Listener := []
  tasks : List InitializeTask := []

namespace AsyncConnection

/-- A connection that has not been initialized. -/
def create (requestTimeout : Option Int) (autoRecoverOnWorkerCrash : Bool) : AsyncConnection :=
  { requestTimeout, autoRecoverOnWorkerCrash }

inductive Effect where
  /-- A future was handed out for a request. -/
  | opened (request : WorkerRequest)
  | sent (worker : Nat) (request : WorkerRequest)
  | settlement (settlement : Settlement (Completion WorkerResponse))
  | shutdown (worker : Nat)
  deriving DecidableEq

def defaultRequestTimeout : Int := 30000000

def effectiveTimeout (connection : AsyncConnection) : Int :=
  connection.requestTimeout.getD defaultRequestTimeout

def workerTerminated (message : String) : Completion WorkerResponse :=
  .error (.exception (.async .workerTerminated message))

def notInitialized : Completion WorkerResponse :=
  .error (.fault (.stateError "Worker not initialized"))

def timedOut (timeout : Int) : Completion WorkerResponse :=
  .error (.exception (.async .requestTimeout
    ("Worker did not respond within " ++ toString (timeout.tdiv 1000000) ++ "s")))

def sendRequest (type : RequestType) (connection : AsyncConnection) :
    AsyncConnection × List Effect :=
  let request : WorkerRequest := ⟨connection.table.counter, type⟩
  match connection.workerSendPort with
  | none =>
    let (table, done) := connection.table.refuse type notInitialized
    ({ connection with table }, .opened request :: done.map .settlement)
  | some worker =>
    ({ connection with table := connection.table.register type },
      [.opened request, .sent worker request])

def failAllPending (message : String) (connection : AsyncConnection) :
    AsyncConnection × List Effect :=
  let (table, done) := connection.table.failAll (workerTerminated message)
  ({ connection with table }, done.map .settlement)

def handleResponse (response : WorkerResponse) (connection : AsyncConnection) :
    AsyncConnection × List Effect :=
  let (table, done) := connection.table.answer response.requestId (.ok response)
  ({ connection with table }, done.map .settlement)

/-- The future gives up, if a time limit is set at all. -/
def onTimeout (requestId : Nat) (connection : AsyncConnection) : AsyncConnection × List Effect :=
  if connection.effectiveTimeout = 0 then (connection, [])
  else
    let (table, done) := connection.table.expire requestId (timedOut connection.effectiveTimeout)
    ({ connection with table }, done.map .settlement)

def closePort (port : Nat) (connection : AsyncConnection) : AsyncConnection :=
  { connection with
    listeners := connection.listeners.modify port fun listener =>
      { listener with isClosed := true } }

def dispose (connection : AsyncConnection) : AsyncConnection × List Effect :=
  let (connection, failed) := failAllPending "Connection disposed; worker shutting down"
    { connection with isShuttingDown := true }
  let closed := connection.receivePort.elim connection (closePort · connection)
  ({ closed with isInitialized := false, workerSendPort := none, receivePort := none },
    failed ++ (connection.workerSendPort.toList.map .shutdown))

/-- `initialize` up to the end of `Isolate.spawn`. -/
def initializeWorker (connection : AsyncConnection) : AsyncConnection :=
  if connection.isInitialized then
    { connection with
      tasks := connection.tasks ++
        [{ port := connection.receivePort.getD 0, stage := .returned (.ok true) }] }
  else
    let port := connection.listeners.length
    { connection with
      isShuttingDown := false
      listeners := connection.listeners ++ [{}]
      receivePort := some port
      tasks := connection.tasks ++ [{ port, stage := .spawning }] }

/-- The recovery that is under way is waited for; there is never a second one. -/
def runSingleRecovery (connection : AsyncConnection) : AsyncConnection × List Effect :=
  match connection.recoveryInFlight with
  | some _ => (connection, [])
  | none =>
    let (disposed, effects) := connection.dispose
    ({ disposed.initializeWorker with recoveryInFlight := some disposed.tasks.length }, effects)

def triggerAutoRecovery (connection : AsyncConnection) : AsyncConnection × List Effect :=
  if ¬ connection.autoRecoverOnWorkerCrash ∨ connection.isShuttingDown then (connection, [])
  else connection.runSingleRecovery

def onError (error : String) (connection : AsyncConnection) : AsyncConnection × List Effect :=
  let (connection, failed) := failAllPending ("Worker isolate error: " ++ error) connection
  let (connection, recovered) := connection.triggerAutoRecovery
  (connection, failed ++ recovered)

def onDone (connection : AsyncConnection) : AsyncConnection × List Effect :=
  let (connection, failed) :=
    if connection.table.waiting.entries.isEmpty then (connection, [])
    else failAllPending "Worker isolate terminated" connection
  let (connection, recovered) := connection.triggerAutoRecovery
  (connection, failed ++ recovered)

/-! ## Calls of `initialize` -/

/-- The answer is cast to the class that `initialize` waits for. -/
def successOf : Completion WorkerResponse → Completion Bool
  | .ok ⟨_, .initialized success⟩ => .ok success
  | .ok _ => .error (.fault .typeError)
  | .error thrown => .error thrown

def moveTask (task : Nat) (stage : InitializeStage) (connection : AsyncConnection) :
    AsyncConnection :=
  { connection with tasks := connection.tasks.modify task fun held => { held with stage } }

/-- A recovery ends with the call that it waits for. -/
def endTask (task : Nat) (answer : Completion Bool) (connection : AsyncConnection) :
    AsyncConnection :=
  { connection.moveTask task (.returned answer) with
    recoveryInFlight :=
      if connection.recoveryInFlight = some task then none else connection.recoveryInFlight }

/-- The worker is known: the environment is asked for. -/
def greet (task worker : Nat) (connection : AsyncConnection) : AsyncConnection × List Effect :=
  let (asked, effects) :=
    sendRequest .initializeEnvironment { connection with workerSendPort := some worker }
  (asked.moveTask task (.awaiting connection.table.counter), effects)

def onSpawned (task : Nat) (connection : AsyncConnection) :
    Option (AsyncConnection × List Effect) :=
  match connection.tasks[task]? with
  | some ⟨port, .spawning⟩ =>
    match connection.listeners[port]?.bind Listener.handshake with
    | some worker => some (connection.greet task worker)
    | none => some (connection.moveTask task .handshaking, [])
  | _ => none

def onSpawnFailed (task : Nat) (thrown : Thrown) (connection : AsyncConnection) :
    Option (AsyncConnection × List Effect) :=
  match connection.tasks[task]? with
  | some ⟨_, .spawning⟩ => some (connection.endTask task (.error thrown), [])
  | _ => none

def InitializeTask.shakesHands (port : Nat) : InitializeTask → Bool
  | ⟨other, .handshaking⟩ => other = port
  | _ => false

/-- The handshake of a port is completed once. -/
def onSendPort (port worker : Nat) (listener : Listener) (connection : AsyncConnection) :
    AsyncConnection × List Effect :=
  if listener.handshake.isSome then (connection, [])
  else
    let known := { connection with
      listeners := connection.listeners.set port { listener with handshake := some worker } }
    match connection.tasks.findIdx? (InitializeTask.shakesHands port) with
    | some task => known.greet task worker
    | none => (known, [])

/-- A closed port drops what still arrives. -/
def onMessage (port : Nat) (message : WorkerMessage) (connection : AsyncConnection) :
    AsyncConnection × List Effect :=
  match connection.listeners[port]? with
  | none => (connection, [])
  | some listener =>
    if listener.isClosed then (connection, [])
    else
      match message with
      | .sendPort worker => connection.onSendPort port worker listener
      | .response response => connection.handleResponse response

/-- A call of `initialize` goes on when its request has completed. -/
def wake (connection : AsyncConnection) (task : Nat) : AsyncConnection :=
  match connection.tasks[task]? with
  | some ⟨_, .awaiting requestId⟩ =>
    match connection.table.future requestId with
    | none => connection
    | some outcome =>
      match successOf outcome with
      | .ok success => { connection.endTask task (.ok success) with isInitialized := success }
      | .error thrown => connection.endTask task (.error thrown)
  | _ => connection

def wakeAll (connection : AsyncConnection) : AsyncConnection :=
  (List.range connection.tasks.length).foldl wake connection

/-! ## Events -/

inductive Event where
  /-- A client method sends a request. -/
  | request (type : RequestType)
  | initializeWorker
  | spawned (task : Nat)
  | spawnFailed (task : Nat) (thrown : Thrown)
  | message (port : Nat) (message : WorkerMessage)
  | error (error : String)
  | done
  | timeout (requestId : Nat)
  | recoverWorker
  | dispose
  deriving DecidableEq

/-- `connect` throws before it sends anything while there is no environment, and only
`initialize` asks for one. -/
def request (type : RequestType) (connection : AsyncConnection) :
    Option (AsyncConnection × List Effect) :=
  if type = .initializeEnvironment then none
  else if type = .connect ∧ ¬ connection.isInitialized then some (connection, [])
  else some (connection.sendRequest type)

def handle (connection : AsyncConnection) : Event → Option (AsyncConnection × List Effect)
  | .request type => connection.request type
  | .initializeWorker => some (connection.initializeWorker, [])
  | .spawned task => connection.onSpawned task
  | .spawnFailed task thrown => connection.onSpawnFailed task thrown
  | .message port message => some (connection.onMessage port message)
  | .error error => some (connection.onError error)
  | .done => some connection.onDone
  | .timeout requestId => some (connection.onTimeout requestId)
  | .recoverWorker => some connection.runSingleRecovery
  | .dispose => some connection.dispose

structure Entry where
  event : Event
  effects : List Effect
  deriving DecidableEq

def step (event : Event) (connection : AsyncConnection) : Option (AsyncConnection × Entry) :=
  (connection.handle event).map fun (next, effects) => (next.wakeAll, ⟨event, effects⟩)

end AsyncConnection

end OdbcFast.Dart
