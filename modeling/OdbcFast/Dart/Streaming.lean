import OdbcFast.Dart.QueryResult
import OdbcFast.Dart.Repository
import OdbcFast.Wire.Framing
import OdbcFast.Wire.Machine

/-!
# Queries read as streams

The package runs a plain query through the batched stream of the native library, whose
messages it cuts from the chunks that it fetches. When that stream throws an exception
before its first message, the query is sent once more, through the stream that reads
the whole result first. Both streams are closed in a `finally` clause, so what the
close throws takes the place of everything before it.

A fetch that has more to come brings at least one byte.

A `StreamingQuery` stands between those who produce chunks and one who listens. With a limit, a
call that finds as many chunks as that on their way waits until some are delivered.
-/

namespace OdbcFast.Dart

open Wire

/-- The blocking backend calls the native library, the other one sends requests to a worker. -/
inductive Backend where
  | sync
  | async
  deriving DecidableEq, Repr

/-- What the fetches of a stream are answered, up to the one that ends it. -/
inductive FetchScript where
  /-- Not successful, with the worker's text for it. -/
  | refused (error : Option String)
  | thrown (thrown : Thrown)
  | last (data : Bytes)
  | more (first : UInt8) (data : Bytes) (rest : FetchScript)

/-- What one stream meets: its start, which is 0 when it is refused, its fetches, the question
why one was refused, and its close. -/
structure StreamAnswers where
  start : Completion Nat
  fetches : FetchScript
  lastError : Completion String
  close : Completion Bool

/-- The two streams that a query can be sent through. -/
inductive QueryStream where
  | batched
  /-- The one that reads everything first. -/
  | whole
  deriving DecidableEq, Repr

/-- The native library as one query finds it: what a stream of each kind answers. Nothing of
that is known before the stream is started. -/
structure StreamingNative where
  batched : StreamAnswers
  whole : StreamAnswers
  started : List QueryStream := []

namespace StreamingNative

def startBatched (native : StreamingNative) : StreamAnswers × StreamingNative :=
  (native.batched, { native with started := native.started ++ [.batched] })

def startWhole (native : StreamingNative) : StreamAnswers × StreamingNative :=
  (native.whole, { native with started := native.started ++ [.whole] })

end StreamingNative

/-- `_safeGetWorkerError`. -/
def safeWorkerError (lastError : Completion String) : Option String :=
  match lastError with
  | .error _ => none
  | .ok message =>
    let trimmed := (message.toList.dropWhile isTrimmed).reverse.dropWhile isTrimmed
    let text := String.ofList trimmed.reverse
    if text = "" ∨ text = "No error" then none else some text

/-- What is thrown for a start or a fetch that was refused. -/
def refusal (backend : Backend) (what : String) (known : Option String)
    (lastError : Completion String) : Thrown :=
  match backend with
  | .sync =>
    match lastError with
    | .ok text => .exception (.other (what ++ ": " ++ text))
    | .error thrown => thrown
  | .async =>
    .exception (.async .queryFailed ((known.or (safeWorkerError lastError)).getD what))

/-- How a stream ends. Its reader cannot tell the last two apart. -/
inductive StreamEnd where
  | finished
  /-- A native call was refused or threw, or what was held passed the limit. -/
  | broken (thrown : Thrown)
  /-- Everything that was asked for had come, and something else threw. -/
  | stopped (thrown : Thrown)

def StreamEnd.completion : StreamEnd → Completion Unit
  | .finished => .ok ()
  | .broken thrown | .stopped thrown => .error thrown

/-- The messages a stream has yielded and how it finished. -/
structure Streamed where
  chunks : List ParsedRowBuffer := []
  ending : StreamEnd

namespace Streamed

/-- More messages in front. -/
def behind (chunks : List ParsedRowBuffer) (streamed : Streamed) : Streamed :=
  { streamed with chunks := chunks ++ streamed.chunks }

/-- `finally { close }`. -/
def closing (close : Completion Bool) (streamed : Streamed) : Streamed :=
  match close, streamed.ending with
  | .ok _, _ => streamed
  | .error thrown, .broken _ => { streamed with ending := .broken thrown }
  | .error thrown, _ => { streamed with ending := .stopped thrown }

theorem chunks_closing (close : Completion Bool) (streamed : Streamed) :
    (streamed.closing close).chunks = streamed.chunks := by
  obtain ⟨chunks, ending⟩ := streamed
  cases close with
  | ok closed => rfl
  | error thrown => cases ending <;> rfl

/-- An exception came before anything was yielded. -/
def fallsBack (streamed : Streamed) : Bool :=
  match streamed.chunks, streamed.ending.completion with
  | [], .error (.exception _) => true
  | _, _ => false

end Streamed

/-- Only the asynchronous backend has a limit. -/
def overLimit (backend : Backend) (maxBufferBytes : Option Int) (held : Bytes) : Bool :=
  backend = .async ∧ maxBufferBytes.any fun limit => limit < (held.length : Int)

def bufferExceeded : Thrown :=
  .exception (.async .queryFailed "Streaming buffer exceeded maxBufferBytes")

def leftoverBytes : Thrown :=
  .exception (.format "Leftover bytes after stream; expected complete protocol messages")

/-! ## The batched stream -/

section Batched

variable (backend : Backend) (library : DecompressLibrary) (maxBufferBytes : Option Int)

/-- Cut the complete messages off, each parsed as soon as it is cut. -/
def drainMessages (pending : Bytes) : List ParsedRowBuffer × Completion Bytes :=
  if pending.length < BinaryProtocolParser.headerSizeV1 then ([], .ok pending)
  else
    let msgLen := BinaryProtocolParser.headerSizeV1 + readLe 4 pending 12
    if pending.length < msgLen then ([], .ok pending)
    else
      match BinaryProtocolParser.parse library (.fromList (pending.take msgLen)) with
      | .error err => ([], .error err.thrown)
      | .ok chunk =>
        let (chunks, rest) := drainMessages (pending.drop msgLen)
        (chunk :: chunks, rest)
termination_by pending.length
decreasing_by
  rw [List.length_drop]
  have : BinaryProtocolParser.headerSizeV1 = 16 := rfl
  omega

/-- The loop of `streamQueryBatched`. -/
def fetchBatches (lastError : Completion String) : Bytes → FetchScript → Streamed
  | _, .refused error =>
    let what := match backend with
      | .sync => "Stream fetch failed"
      | .async => "Batched stream fetch failed"
    { ending := .broken (refusal backend what error lastError) }
  | _, .thrown thrown => { ending := .broken thrown }
  | pending, .last data =>
    if data ≠ [] ∧ overLimit backend maxBufferBytes (pending ++ data) then
      { ending := .broken bufferExceeded }
    else
      match drainMessages library (pending ++ data) with
      | (chunks, .error thrown) => { chunks, ending := .stopped thrown }
      | (chunks, .ok []) => { chunks, ending := .finished }
      | (chunks, .ok _) => { chunks, ending := .stopped leftoverBytes }
  | pending, .more first data rest =>
    let held := pending ++ first :: data
    if overLimit backend maxBufferBytes held then { ending := .broken bufferExceeded }
    else
      match drainMessages library held with
      | (chunks, .error thrown) => { chunks, ending := .stopped thrown }
      | (chunks, .ok pending) => .behind chunks (fetchBatches lastError pending rest)

def streamQueryBatched (answers : StreamAnswers) : Streamed :=
  match answers.start with
  | .error thrown => { ending := .broken thrown }
  | .ok 0 =>
    { ending := .broken (refusal backend "Failed to start batched stream" none answers.lastError) }
  | .ok _ =>
    (fetchBatches backend library maxBufferBytes answers.lastError [] answers.fetches).closing
      answers.close

/-! ## The stream that reads everything first -/

/-- The loop of `streamQuery`, with the single message behind it. -/
def fetchAll (lastError : Completion String) : Bytes → FetchScript → Streamed
  | _, .refused error =>
    { ending := .broken (refusal backend "Stream fetch failed" error lastError) }
  | _, .thrown thrown => { ending := .broken thrown }
  | buffer, .last data =>
    let held := buffer ++ data
    if data ≠ [] ∧ overLimit backend maxBufferBytes held then { ending := .broken bufferExceeded }
    else if held = [] then { ending := .finished }
    else
      match BinaryProtocolParser.parse library (.fromList held) with
      | .error err => { ending := .stopped err.thrown }
      | .ok chunk => { chunks := [chunk], ending := .finished }
  | buffer, .more first data rest =>
    let held := buffer ++ first :: data
    if overLimit backend maxBufferBytes held then { ending := .broken bufferExceeded }
    else fetchAll lastError held rest

def streamQuery (answers : StreamAnswers) : Streamed :=
  match answers.start with
  | .error thrown => { ending := .broken thrown }
  | .ok 0 =>
    { ending := .broken (refusal backend "Failed to start stream" none answers.lastError) }
  | .ok _ =>
    (fetchAll backend library maxBufferBytes answers.lastError [] answers.fetches).closing
      answers.close

/-! ## One behind the other -/

/-- `_streamNativeQueryWithFallback`; the native library is left with the streams that were
started. -/
def streamNativeQueryWithFallback (native : StreamingNative) : Streamed × StreamingNative :=
  let (answers, native) := native.startBatched
  let streamed := streamQueryBatched backend library maxBufferBytes answers
  if streamed.fallsBack then
    let (answers, native) := native.startWhole
    (streamQuery backend library maxBufferBytes answers, native)
  else (streamed, native)

end Batched

/-- The rows of all messages under the columns of the first message that has some. -/
def collectChunks (chunks : List ParsedRowBuffer) : QueryResult :=
  let rows := chunks.flatMap ParsedRowBuffer.rows
  let columns := (chunks.find? fun chunk => chunk.columns ≠ []).elim [] fun chunk =>
    chunk.columns.map ColumnMetadata.name
  { columns, rows, rowCount := rows.length }

/-! ## What a failed stream is reported as -/

/-- `contains` on a text that was put in lower case. -/
def mentions (text pattern : String) : Bool :=
  (text.toList.map Char.toLower).tails.any fun rest => pattern.toList.isPrefixOf rest

def isStreamingTimeoutException (exception : DartException) : Bool :=
  match exception with
  | .async .requestTimeout _ => true
  | exception => mentions exception.text "timeout" || mentions exception.text "timed out"

def isStreamingProtocolException (exception : DartException) : Bool :=
  match exception with
  | .format _ => true
  | exception =>
    ["protocol", "leftover bytes", "invalid magic", "buffer too small"].any
      (mentions exception.text)

def isStreamingInterruptionException (exception : DartException) : Bool :=
  match exception with
  | .async .workerTerminated _ => true
  | _ => false

def queryTimedOut : OdbcError := { errorClass := .query, message := "Query timed out" }

/-- `_streamingFailureFromException`; only what is not told from the exception is asked of the
native library. -/
def streamingFailureFromException {α : Type} (errors : NativeErrors) (exception : DartException) :
    Completion (Result α) :=
  if isStreamingTimeoutException exception then .ok (.failure queryTimedOut)
  else if isStreamingProtocolException exception then .ok (.failure
    { errorClass := .query, message := "Streaming protocol error: " ++ exception.text })
  else if isStreamingInterruptionException exception then .ok (.failure
    { errorClass := .query, message := "Streaming interrupted: " ++ exception.text })
  else do
    match ← errors.getStructuredError with
    | some structured => .ok (.failure
        { errorClass := .query, message := "Streaming SQL error: " ++ structured.message
          sqlState := some structured.sqlStateString
          nativeCode := some structured.nativeCode })
    | none =>
      let nativeError ← errors.getError
      let message :=
        if nativeError ≠ "" ∧ nativeError ≠ "No error" then nativeError else exception.text
      .ok (.failure { errorClass := .query, message })

/-! ## What a stream that ends well has read -/

/-- A message is as long as its header says. -/
def messageFraming : Framing UInt8 where
  size? stream :=
    if stream.length < BinaryProtocolParser.headerSizeV1 then none
    else some (BinaryProtocolParser.headerSizeV1 + readLe 4 stream 12)
  size_pos := by
    intro stream n found
    split_ifs at found
    cases found
    exact Nat.add_pos_left (by decide) _
  size_append := by
    intro stream n more found
    split_ifs at found with short
    cases found
    have header : BinaryProtocolParser.headerSizeV1 = 16 := rfl
    rw [header] at short
    rw [if_neg (by rw [header, List.length_append]; omega), readLe_append more (by omega)]

/-- The messages, each parsed on its own. -/
def ParsedAs (library : DecompressLibrary) (frames : List Bytes) (chunks : List ParsedRowBuffer) :
    Prop :=
  List.Forall₂ (fun frame chunk => BinaryProtocolParser.parse library (.fromList frame) = .ok chunk)
    frames chunks

/-- Everything that was fetched, when every fetch was answered. -/
def FetchScript.delivered : FetchScript → Option Bytes
  | .refused _ => none
  | .thrown _ => none
  | .last data => some data
  | .more first data rest => rest.delivered.map (first :: data ++ ·)

/-- Everything that the fetches brought before they came to an end. -/
def FetchScript.fetched : FetchScript → Bytes
  | .refused _ | .thrown _ => []
  | .last data => data
  | .more first data rest => first :: data ++ rest.fetched

theorem FetchScript.fetched_of_delivered {script : FetchScript} {data : Bytes}
    (delivered : script.delivered = some data) : script.fetched = data := by
  induction script generalizing data with
  | refused error => cases delivered
  | thrown thrown => cases delivered
  | last last => exact Option.some.inj delivered
  | more first now rest ih =>
      obtain ⟨later, behind, rfl⟩ := Option.map_eq_some_iff.mp delivered
      rw [fetched, ih behind]

/-- What the native library streamed, when the start and every fetch were answered. -/
def StreamAnswers.produced (answers : StreamAnswers) : Option Bytes :=
  match answers.start with
  | .error _ => none
  | .ok 0 => none
  | .ok _ => answers.fetches.delivered

section Complete

variable {backend : Backend} {library : DecompressLibrary} {maxBufferBytes : Option Int}
  {lastError : Completion String}

theorem drainMessages_eq_ok {pending rest : Bytes} {chunks : List ParsedRowBuffer}
    (drained : drainMessages library pending = (chunks, .ok rest)) :
    ∃ frames, messageFraming.drain pending = (frames, rest) ∧ ParsedAs library frames chunks := by
  fun_induction drainMessages library pending generalizing chunks rest with
  | case1 pending short =>
      cases drained
      have unknown : messageFraming.size? pending = none := if_pos short
      refine ⟨[], Framing.drain_of_unfinished ?_, .nil⟩
      intro n found
      cases unknown.symm.trans found
  | case2 pending long msgLen =>
      rename_i short
      cases drained
      have size : messageFraming.size? pending = some msgLen := if_neg long
      refine ⟨[], Framing.drain_of_unfinished ?_, .nil⟩
      intro n found
      cases size.symm.trans found
      exact short
  | case3 => cases drained
  | case4 pending long msgLen =>
      rename_i there chunk parsed chunks' rest' later ih
      cases drained
      obtain ⟨frames, drained, parsedAs⟩ := ih later
      have size : messageFraming.size? pending = some msgLen := if_neg long
      refine ⟨pending.take msgLen :: frames, ?_, .cons parsed parsedAs⟩
      rw [Framing.drain_of_size size (Nat.le_of_not_lt there), drained]

theorem fetchBatches_finished {script : FetchScript} {pending : Bytes}
    (finished : (fetchBatches backend library maxBufferBytes lastError pending script).ending =
      .finished) :
    ∃ data frames, script.delivered = some data ∧
      messageFraming.drain (pending ++ data) = (frames, []) ∧
      ParsedAs library frames
        (fetchBatches backend library maxBufferBytes lastError pending script).chunks := by
  induction script generalizing pending with
  | refused error => cases finished
  | thrown thrown => cases finished
  | last data =>
      rw [fetchBatches] at finished ⊢
      split_ifs at finished ⊢
      split at finished
      · cases finished
      · next chunks drained =>
          obtain ⟨frames, framed, parsedAs⟩ := drainMessages_eq_ok drained
          exact ⟨data, frames, rfl, framed, parsedAs⟩
      · cases finished
  | more first data rest ih =>
      rw [fetchBatches] at finished ⊢
      split_ifs at finished ⊢
      split at finished
      · cases finished
      · next chunks pending' drained =>
          obtain ⟨frames, framed, parsedAs⟩ := drainMessages_eq_ok drained
          obtain ⟨data', frames', delivered, framed', parsedAs'⟩ := ih finished
          refine ⟨first :: data ++ data', frames ++ frames', ?_, ?_, ?_⟩
          · rw [FetchScript.delivered, delivered]
            rfl
          · rw [← List.append_assoc, Framing.drain_append, framed, framed']
          · exact List.rel_append parsedAs parsedAs'

end Complete

/-! ## Chunks between a producer and a listener -/

/-- With the calls of `addChunk` that have not ended, and what its controller holds. -/
structure StreamingQuery where
  maxBufferSize : Option Int
  isPaused : Bool := false
  isClosed : Bool := false
  /-- Nobody listens any more. -/
  isCancelled : Bool := false
  pendingCount : Nat := 0
  /-- The chunks that are added and not delivered. -/
  events : List ParsedRowBuffer := []
  /-- The chunks of the calls that wait for `_resumeCompleter`. -/
  waiting : List ParsedRowBuffer := []
  /-- Those of the calls that it was completed for, and that are to go on. -/
  woken : List ParsedRowBuffer := []

namespace StreamingQuery

inductive Event where
  | addChunk (chunk : ParsedRowBuffer)
  /-- The first call that was woken goes on. -/
  | goOn
  | deliver
  | pause
  | resume
  | clearBuffer
  | close
  | cancel
  /-- The listener cancels its subscription. -/
  | unlisten

/-- A chunk may be added or dropped by a call that has waited. -/
inductive Output where
  | added (waited : Bool) (chunk : ParsedRowBuffer)
  | dropped (waited : Bool) (chunk : ParsedRowBuffer)
  | waits (chunk : ParsedRowBuffer)
  | delivered (chunk : ParsedRowBuffer)
  | cleared
  | quiet

/-- As many chunks as the limit are on their way. -/
def IsFull (query : StreamingQuery) : Prop :=
  ∃ limit ∈ query.maxBufferSize, limit ≤ query.pendingCount

instance (query : StreamingQuery) : Decidable query.IsFull :=
  match found : query.maxBufferSize with
  | none => isFalse (by simp [IsFull, found])
  | some limit => decidable_of_iff (limit ≤ query.pendingCount) (by simp [IsFull, found])

/-- `_resumeCompleter!.complete()`, when it is there. -/
def completeResume (query : StreamingQuery) : StreamingQuery :=
  { query with waiting := [], woken := query.woken ++ query.waiting }

/-- The end of `addChunk`. A controller without a listener to come keeps nothing. -/
def put (waited : Bool) (chunk : ParsedRowBuffer) (query : StreamingQuery) :
    StreamingQuery × Output :=
  ({ query with
      pendingCount := query.pendingCount + 1
      events := if query.isCancelled then query.events else query.events ++ [chunk] },
    .added waited chunk)

def addChunk (chunk : ParsedRowBuffer) (query : StreamingQuery) : StreamingQuery × Output :=
  if query.isClosed then (query, .dropped false chunk)
  else if query.isPaused ∧ query.maxBufferSize = none then (query, .dropped false chunk)
  else if query.IsFull then ({ query with waiting := query.waiting ++ [chunk] }, .waits chunk)
  else query.put false chunk

/-- What `addChunk` does behind its `await`. -/
def goOn (query : StreamingQuery) : Option (StreamingQuery × Output) :=
  match query.woken with
  | [] => none
  | chunk :: woken =>
    let query := { query with woken }
    some (if query.isClosed then (query, .dropped true chunk) else query.put true chunk)

/-- `_onDeliver`, for the next chunk. -/
def deliver (query : StreamingQuery) : Option (StreamingQuery × Output) :=
  match query.events with
  | [] => none
  | chunk :: events =>
    if query.isPaused then none
    else
      let query := { query with events, pendingCount := min (query.pendingCount - 1) 0x7FFFFFFF }
      some (if query.maxBufferSize ≠ none ∧ ¬ query.IsFull then query.completeResume else query,
        .delivered chunk)

def step : Event → StreamingQuery → Option (StreamingQuery × Output)
  | .addChunk chunk, query => some (query.addChunk chunk)
  | .goOn, query => query.goOn
  | .deliver, query => query.deliver
  | .pause, query => some ({ query with isPaused := true }, .quiet)
  | .resume, query => some ({ query with isPaused := false }, .quiet)
  | .clearBuffer, query => some ({ query with pendingCount := 0 }.completeResume, .cleared)
  | .close, query => some ({ query with isClosed := true }.completeResume, .quiet)
  -- The completer is left alone.
  | .cancel, query => some ({ query with isClosed := true }, .quiet)
  | .unlisten, query => some ({ query with isCancelled := true, events := [] }, .quiet)

end StreamingQuery

end OdbcFast.Dart
