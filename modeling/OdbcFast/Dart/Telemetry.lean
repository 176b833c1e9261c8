import OdbcFast.Wire.Machine

/-!
# Telemetry

The repository keeps traces, spans, metrics and events in a buffer until there are enough of
them, until somebody asks, or until a timer fires. What is drained from the buffer is handed to
the current exporter, item by item.

An item is known by its number: it is the one that was accepted as that.
-/

namespace OdbcFast.Dart

/-! ## The buffer -/

structure TelemetryBuffer (α : Type) where
  batchSize : Int := 100
  traces : List α := []
  spans : List α := []
  metrics : List α := []
  events : List α := []
  /-- Whether the periodic timer runs. -/
  flushTimer : Bool := true

structure TelemetryBatch (α : Type) where
  traces : List α := []
  spans : List α := []
  metrics : List α := []
  events : List α := []

namespace TelemetryBuffer

variable {α : Type}

def size (buffer : TelemetryBuffer α) : Nat :=
  buffer.traces.length + buffer.spans.length + buffer.metrics.length + buffer.events.length

def shouldFlush (buffer : TelemetryBuffer α) : Bool := buffer.batchSize ≤ buffer.size

/-- The buffer with the item, and whether it should be flushed. -/
def addTrace (buffer : TelemetryBuffer α) (trace : α) : TelemetryBuffer α × Bool :=
  let buffer := { buffer with traces := buffer.traces ++ [trace] }
  (buffer, buffer.shouldFlush)

@[inherit_doc addTrace]
def addSpan (buffer : TelemetryBuffer α) (span : α) : TelemetryBuffer α × Bool :=
  let buffer := { buffer with spans := buffer.spans ++ [span] }
  (buffer, buffer.shouldFlush)

@[inherit_doc addTrace]
def addMetric (buffer : TelemetryBuffer α) (metric : α) : TelemetryBuffer α × Bool :=
  let buffer := { buffer with metrics := buffer.metrics ++ [metric] }
  (buffer, buffer.shouldFlush)

@[inherit_doc addTrace]
def addEvent (buffer : TelemetryBuffer α) (event : α) : TelemetryBuffer α × Bool :=
  let buffer := { buffer with events := buffer.events ++ [event] }
  (buffer, buffer.shouldFlush)

def clear (buffer : TelemetryBuffer α) : TelemetryBuffer α :=
  { buffer with traces := [], spans := [], metrics := [], events := [] }

/-- The batch goes to the caller and is in the buffer no more. -/
def flush (buffer : TelemetryBuffer α) : TelemetryBatch α × TelemetryBuffer α :=
  if buffer.size = 0 then
    ({}, buffer)
  else
    ({ traces := buffer.traces
       spans := buffer.spans
       metrics := buffer.metrics
       events := buffer.events }, buffer.clear)

def dispose (buffer : TelemetryBuffer α) : TelemetryBuffer α :=
  { buffer with flushTimer := false }.clear

end TelemetryBuffer

/-! ## Exporters -/

/-- How a call of an exporter ends. Its result, which comes later, is read by nobody. -/
inductive ExportEnding where
  | success
  | failure
  | threwException
  | threwError
  deriving DecidableEq, Repr

def ExportEnding.threw : ExportEnding → Bool
  | .success => false
  | .failure => false
  | .threwException => true
  | .threwError => true

/-- How the calls with the items end. -/
structure TelemetryExporter where
  exportTrace : Nat → ExportEnding
  exportSpan : Nat → ExportEnding
  exportMetric : Nat → ExportEnding
  exportEvent : Nat → ExportEnding

/-- The calls of the exporter, one for each item. -/
def TelemetryBatch.calls (batch : TelemetryBatch Nat) (exporter : TelemetryExporter) :
    List (Nat × ExportEnding) :=
  batch.traces.map (fun item => (item, exporter.exportTrace item)) ++
    batch.spans.map (fun item => (item, exporter.exportSpan item)) ++
    batch.metrics.map (fun item => (item, exporter.exportMetric item)) ++
    batch.events.map (fun item => (item, exporter.exportEvent item))

/-- The calls that are made: the first one that throws is the last. -/
def untilThrow : List (Nat × ExportEnding) → List (Nat × ExportEnding)
  | [] => []
  | call :: calls => call :: if call.2.threw then [] else untilThrow calls

/-- How the last call ended. -/
def lastEnding (calls : List (Nat × ExportEnding)) : Option ExportEnding :=
  calls.getLast?.map Prod.snd

/-! ## The repository -/

/-- Exporters are objects: `Exporter` tells them apart. -/
structure TelemetryRepositoryImpl (Exporter : Type) where
  buffer : TelemetryBuffer Nat := {}
  maxRetries : Int := 3
  isInitialized : Bool := false
  currentExporter : Option Exporter := none
  fallbackExporter : Option Exporter := none
  /-- How many items were accepted so far. -/
  accepted : Nat := 0

/-- What can be seen of one step. -/
structure TelemetryStep where
  /-- The item that was accepted. -/
  accepted : Option Nat := none
  /-- The calls of the exporter. -/
  handed : List (Nat × ExportEnding) := []
  /-- Whether a shutdown has succeeded. -/
  shutDown : Bool := false
  deriving DecidableEq, Repr

inductive TelemetryInput (Exporter : Type) where
  /-- Whether the native side is initialized. -/
  | initializeNative (initialized : Bool)
  | exportTrace
  | exportSpan
  | exportMetric
  | exportEvent
  /-- The timer of the buffer fires. -/
  | tick
  | flush
  /-- Whether the native side throws. -/
  | shutdown (throws : Bool)
  | setFallbackExporter (exporter : Exporter)
  /-- The field is set by anybody. -/
  | assignFallbackExporter (exporter : Option Exporter)

namespace TelemetryRepositoryImpl

variable {Exporter : Type} [DecidableEq Exporter] (exporters : Exporter → TelemetryExporter)
  (repository : TelemetryRepositoryImpl Exporter)

def updateExporterIfNeeded (exporter : Option Exporter) : TelemetryRepositoryImpl Exporter :=
  if repository.fallbackExporter.isSome ∧ exporter ≠ repository.currentExporter then
    { repository with currentExporter := exporter }
  else repository

def setFallbackExporter (exporter : Exporter) : TelemetryRepositoryImpl Exporter :=
  { repository with fallbackExporter := some exporter }.updateExporterIfNeeded (some exporter)

/-- An exception ends the batch and switches the exporter. An error goes on to the caller. -/
def exportBatch : TelemetryRepositoryImpl Exporter × List (Nat × ExportEnding) :=
  let (batch, buffer) := repository.buffer.flush
  let repository := { repository with buffer := buffer }
  match repository.currentExporter with
  | none => (repository, [])
  | some exporter =>
    let calls := untilThrow (batch.calls (exporters exporter))
    if lastEnding calls = some .threwException then
      (repository.updateExporterIfNeeded repository.fallbackExporter, calls)
    else (repository, calls)

/-- An item is put into the buffer, which is exported when it is full. -/
def accept (add : TelemetryBuffer Nat → Nat → TelemetryBuffer Nat × Bool) :
    TelemetryRepositoryImpl Exporter × TelemetryStep :=
  let (buffer, shouldFlush) := add repository.buffer repository.accepted
  let next := { repository with buffer := buffer, accepted := repository.accepted + 1 }
  if shouldFlush then
    let (next, handed) := next.exportBatch exporters
    (next, { accepted := some repository.accepted, handed := handed })
  else (next, { accepted := some repository.accepted })

def exportTrace : TelemetryRepositoryImpl Exporter × TelemetryStep :=
  if repository.isInitialized then repository.accept exporters TelemetryBuffer.addTrace
  else (repository, {})

/-- The retries run the operation once, unless not even one attempt is allowed: the operation
succeeds or throws an error. -/
def acceptRetrying (add : TelemetryBuffer Nat → Nat → TelemetryBuffer Nat × Bool) :
    TelemetryRepositoryImpl Exporter × TelemetryStep :=
  if repository.isInitialized ∧ 0 ≤ repository.maxRetries then repository.accept exporters add
  else (repository, {})

def exportSpan : TelemetryRepositoryImpl Exporter × TelemetryStep :=
  repository.acceptRetrying exporters TelemetryBuffer.addSpan

def exportMetric : TelemetryRepositoryImpl Exporter × TelemetryStep :=
  repository.acceptRetrying exporters TelemetryBuffer.addMetric

def exportEvent : TelemetryRepositoryImpl Exporter × TelemetryStep :=
  repository.acceptRetrying exporters TelemetryBuffer.addEvent

/-- The buffer is flushed by the timer, and then by the callback. -/
def tick : TelemetryRepositoryImpl Exporter × TelemetryStep :=
  if 0 < repository.buffer.size then
    let (_, buffer) := repository.buffer.flush
    let (next, handed) := { repository with buffer := buffer }.exportBatch exporters
    (next, { handed := handed })
  else (repository, {})

def flush : TelemetryRepositoryImpl Exporter × TelemetryStep :=
  if repository.isInitialized then
    let (next, handed) := repository.exportBatch exporters
    (next, { handed := handed })
  else (repository, {})

def shutdown (throws : Bool) : TelemetryRepositoryImpl Exporter × TelemetryStep :=
  if repository.isInitialized then
    let (next, handed) :=
      if 0 < repository.buffer.size then repository.exportBatch exporters else (repository, [])
    if lastEnding handed = some .threwError then
      (next, { handed := handed })
    else
      let next := { next with buffer := next.buffer.dispose }
      if throws then (next, { handed := handed })
      else ({ next with isInitialized := false }, { handed := handed, shutDown := true })
  else (repository, { shutDown := true })

/-- One step. A timer that was stopped does not fire. -/
def step : TelemetryInput Exporter → TelemetryRepositoryImpl Exporter →
    Option (TelemetryRepositoryImpl Exporter × TelemetryStep)
  | .initializeNative initialized, repository =>
    some ({ repository with isInitialized := initialized || repository.isInitialized }, {})
  | .exportTrace, repository => some (repository.exportTrace exporters)
  | .exportSpan, repository => some (repository.exportSpan exporters)
  | .exportMetric, repository => some (repository.exportMetric exporters)
  | .exportEvent, repository => some (repository.exportEvent exporters)
  | .tick, repository =>
    if repository.buffer.flushTimer then some (repository.tick exporters) else none
  | .flush, repository => some (repository.flush exporters)
  | .shutdown throws, repository => some (repository.shutdown exporters throws)
  | .setFallbackExporter exporter, repository =>
    some (repository.setFallbackExporter exporter, {})
  | .assignFallbackExporter exporter, repository =>
    some ({ repository with fallbackExporter := exporter }, {})

end TelemetryRepositoryImpl

end OdbcFast.Dart
