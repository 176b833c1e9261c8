import OdbcFast.Dart.Streaming
import OdbcFast.Dart.WorkerIsolate

/-!
# Streams that are polled

`streamAsync` asks for the status of its stream before every fetch: it waits while the
status is pending, ends when it is done and fetches when it is ready. It cuts the messages
from the chunks as the batched stream does.

What a loop yields depends on the bytes alone. When everything that was fetched consists of
messages that can be parsed, with a rest that is no message, `fetchBatches_eq` and
`pollBatches_eq` say that these messages are yielded, however the bytes were cut.
-/

namespace OdbcFast.Dart

open Wire

def streamAsyncStatusReady : Int := 1
def streamAsyncStatusDone : Int := 2
def streamAsyncStatusError : Int := -1
def streamAsyncStatusCancelled : Int := -2

/-- What the polls of a stream are answered, and the fetches behind those that are ready, up to
the answer that ends the loop. -/
inductive PollScript where
  | thrown (thrown : Thrown)
  | pending (rest : PollScript)
  | done
  /-- Any other status. -/
  | failed (status : Int)
  /-- The stream was ready, and its fetch was not successful. -/
  | refused (error : Option String)
  | ready (data : Bytes) (rest : PollScript)

/-- What one polled stream meets. -/
structure PollAnswers where
  start : Completion Nat
  polls : PollScript
  lastError : Completion String
  close : Completion Bool

/-- The text for a status that the loop does not go on with. -/
def statusText (status : Int) : String :=
  if status = streamAsyncStatusError ∨ status = streamAsyncStatusCancelled then
    "Async stream failed with status " ++ toString status
  else "Unexpected async stream status: " ++ toString status

section Polled

variable (library : DecompressLibrary) (maxBufferBytes : Option Int)

/-- The loop of `streamAsync`. -/
def pollBatches (lastError : Completion String) : Bytes → PollScript → Streamed
  | _, .thrown thrown => { ending := .broken thrown }
  | pending, .pending rest => pollBatches lastError pending rest
  | [], .done => { ending := .finished }
  | _ :: _, .done => { ending := .stopped leftoverBytes }
  | _, .failed status =>
    { ending := .broken (refusal .async (statusText status) none lastError) }
  | _, .refused error =>
    { ending := .broken (refusal .async "Async stream fetch failed" error lastError) }
  | pending, .ready data rest =>
    if data = [] then pollBatches lastError pending rest
    else if overLimit .async maxBufferBytes (pending ++ data) then
      { ending := .broken bufferExceeded }
    else
      match drainMessages library (pending ++ data) with
      | (chunks, .error thrown) => { chunks, ending := .stopped thrown }
      | (chunks, .ok pending) => .behind chunks (pollBatches lastError pending rest)

def streamAsync (answers : PollAnswers) : Streamed :=
  match answers.start with
  | .error thrown => { ending := .broken thrown }
  | .ok 0 =>
    { ending := .broken (refusal .async "Failed to start async stream" none answers.lastError) }
  | .ok _ =>
    (pollBatches library maxBufferBytes answers.lastError [] answers.polls).closing answers.close

end Polled

/-- Everything that was fetched, when every call was answered. -/
def PollScript.delivered : PollScript → Option Bytes
  | .thrown _ => none
  | .pending rest => rest.delivered
  | .done => some []
  | .failed _ => none
  | .refused _ => none
  | .ready data rest => rest.delivered.map (data ++ ·)

/-! ## What the loops yield -/

section Yielded

variable {backend : Backend} {library : DecompressLibrary} {maxBufferBytes : Option Int}
  {lastError : Completion String} {data pending bytes rest : Bytes}
  {frames later : List Bytes} {chunks : List ParsedRowBuffer}

/-- The stream fits the limit that the reader has set. -/
def WithinLimit (maxBufferBytes : Option Int) (bytes : Bytes) : Prop :=
  ∀ limit, maxBufferBytes = some limit → (bytes.length : Int) ≤ limit

theorem WithinLimit.not_overLimit (within : WithinLimit maxBufferBytes bytes)
    (shorter : pending.length ≤ bytes.length) :
    overLimit backend maxBufferBytes pending = false := by
  cases maxBufferBytes with
  | none => simp [overLimit]
  | some limit =>
      have room := within limit rfl
      simp only [overLimit, Option.any_some, decide_eq_true_eq, decide_eq_false_iff_not, not_and]
      omega

/-- What a loop holds behind a chunk still fits the limit. -/
theorem WithinLimit.behind_drain (within : WithinLimit maxBufferBytes (pending ++ data)) :
    WithinLimit maxBufferBytes ((messageFraming.drain pending).2 ++ data) := by
  intro limit given
  have room := within limit given
  have cut := messageFraming.length_drain_le pending
  rw [List.length_append] at room ⊢
  omega

/-- Messages that can be parsed are cut off in order, and an unfinished rest is kept. -/
theorem drainMessages_eq (parsed : ParsedAs library (messageFraming.drain pending).1 chunks) :
    drainMessages library pending = (chunks, .ok (messageFraming.drain pending).2) := by
  fun_induction drainMessages library pending generalizing chunks with
  | case1 pending short =>
      have unknown : messageFraming.size? pending = none := if_pos short
      have unfinished : messageFraming.drain pending = ([], pending) := by
        apply Framing.drain_of_unfinished
        intro n found
        cases unknown.symm.trans found
      rw [unfinished] at parsed ⊢
      cases parsed
      rfl
  | case2 pending long msgLen =>
      rename_i short
      have size : messageFraming.size? pending = some msgLen := if_neg long
      have unfinished : messageFraming.drain pending = ([], pending) := by
        apply Framing.drain_of_unfinished
        intro n found
        cases size.symm.trans found
        exact short
      rw [unfinished] at parsed ⊢
      cases parsed
      rfl
  | case3 pending long msgLen =>
      rename_i there err failed
      have size : messageFraming.size? pending = some msgLen := if_neg long
      rw [Framing.drain_of_size size (Nat.le_of_not_lt there)] at parsed
      cases parsed with
      | cons read _ => cases failed.symm.trans read
  | case4 pending long msgLen =>
      rename_i there chunk read chunks' rest' same ih
      have size : messageFraming.size? pending = some msgLen := if_neg long
      rw [Framing.drain_of_size size (Nat.le_of_not_lt there)] at parsed ⊢
      cases parsed with
      | cons read' parsed =>
          cases read.symm.trans read'
          rw [same] at ih
          cases ih parsed
          rfl

/-- How a loop ends that has fetched everything. -/
def endingBehind (rest : Bytes) : StreamEnd :=
  if rest = [] then .finished else .stopped leftoverBytes

/-- Chunks of more messages are chunks of the first and of the later ones. -/
theorem ParsedAs.split (parsed : ParsedAs library (frames ++ later) chunks) :
    ∃ front back, chunks = front ++ back ∧ ParsedAs library frames front ∧
      ParsedAs library later back := by
  induction frames generalizing chunks with
  | nil => exact ⟨[], chunks, rfl, .nil, parsed⟩
  | cons frame frames ih =>
      cases parsed with
      | cons read parsed =>
          obtain ⟨front, back, rfl, first, last⟩ := ih parsed
          exact ⟨_ :: front, back, rfl, .cons read first, last⟩

theorem ParsedAs.eq_nil_iff (parsed : ParsedAs library frames chunks) :
    chunks = [] ↔ frames = [] := by
  rw [← List.length_eq_zero_iff, ← parsed.length_eq, List.length_eq_zero_iff]

/-- A message is parsed in one way. -/
theorem ParsedAs.unique {others : List ParsedRowBuffer} (parsed : ParsedAs library frames chunks)
    (parsed' : ParsedAs library frames others) : chunks = others := by
  induction parsed generalizing others with
  | nil =>
      cases parsed'
      rfl
  | cons read _ ih =>
      cases parsed' with
      | cons read' parsed' => rw [Except.ok.inj (read.symm.trans read'), ih parsed']

theorem fetchBatches_eq {script : FetchScript} (delivered : script.delivered = some data)
    (within : WithinLimit maxBufferBytes (pending ++ data))
    (parsed : ParsedAs library (messageFraming.drain (pending ++ data)).1 chunks) :
    fetchBatches backend library maxBufferBytes lastError pending script =
      ⟨chunks, endingBehind (messageFraming.drain (pending ++ data)).2⟩ := by
  induction script generalizing pending data chunks with
  | refused error => cases delivered
  | thrown thrown => cases delivered
  | last last =>
      cases delivered
      rw [fetchBatches, if_neg (by simp [within.not_overLimit (Nat.le_refl _)]),
        drainMessages_eq parsed, endingBehind]
      generalize (messageFraming.drain (pending ++ last)).2 = rest
      cases rest <;> rfl
  | more first now rest ih =>
      obtain ⟨later, behind, rfl⟩ := Option.map_eq_some_iff.mp delivered
      rw [← List.append_assoc] at within parsed ⊢
      rw [Framing.drain_append] at parsed ⊢
      obtain ⟨front, back, rfl, parsed, parsed'⟩ := parsed.split
      have room : overLimit backend maxBufferBytes (pending ++ first :: now) = false :=
        within.not_overLimit (by simp)
      rw [fetchBatches]
      simp only [room, Bool.false_eq_true, if_false, drainMessages_eq parsed,
        ih behind within.behind_drain parsed']
      rfl

theorem pollBatches_eq {script : PollScript} (delivered : script.delivered = some data)
    (within : WithinLimit maxBufferBytes (pending ++ data))
    (waiting : messageFraming.Unfinished pending)
    (parsed : ParsedAs library (messageFraming.drain (pending ++ data)).1 chunks) :
    pollBatches library maxBufferBytes lastError pending script =
      ⟨chunks, endingBehind (messageFraming.drain (pending ++ data)).2⟩ := by
  induction script generalizing pending data chunks with
  | thrown thrown => cases delivered
  | failed status => cases delivered
  | refused error => cases delivered
  | pending rest ih => exact ih delivered within waiting parsed
  | done =>
      cases delivered
      rw [List.append_nil, Framing.drain_of_unfinished waiting] at parsed ⊢
      cases parsed
      cases pending <;> rfl
  | ready now rest ih =>
      obtain ⟨later, behind, rfl⟩ := Option.map_eq_some_iff.mp delivered
      rw [pollBatches]
      by_cases nothing : now = []
      · subst nothing
        rw [if_pos rfl]
        exact ih behind within waiting parsed
      · rw [← List.append_assoc] at within parsed ⊢
        rw [Framing.drain_append] at parsed ⊢
        obtain ⟨front, back, rfl, parsed, parsed'⟩ := parsed.split
        have room : overLimit .async maxBufferBytes (pending ++ now) = false :=
          within.not_overLimit (by simp)
        rw [if_neg nothing]
        simp only [room, Bool.false_eq_true, if_false, drainMessages_eq parsed,
          ih behind within.behind_drain (messageFraming.unfinished_drain _) parsed']
        rfl

theorem pollBatches_finished {script : PollScript} (finished :
    (pollBatches library maxBufferBytes lastError pending script).ending = .finished) :
    ∃ data, script.delivered = some data := by
  induction script generalizing pending with
  | thrown thrown => cases finished
  | failed status => cases finished
  | refused error => cases finished
  | pending rest ih => exact ih finished
  | done => exact ⟨[], rfl⟩
  | ready now rest ih =>
      have later : ∃ data, rest.delivered = some data := by
        rw [pollBatches] at finished
        split_ifs at finished
        · exact ih finished
        · split at finished
          · cases finished
          · exact ih finished
      obtain ⟨data, delivered⟩ := later
      exact ⟨now ++ data, by rw [PollScript.delivered, delivered]; rfl⟩

/-! ## Whole streams -/

/-- The stream was started, and it is closed in the end. -/
def StreamAnswers.Opened (answers : StreamAnswers) : Prop :=
  (∃ streamId, answers.start = .ok (streamId + 1)) ∧ ∃ closed, answers.close = .ok closed

def PollAnswers.Opened (answers : PollAnswers) : Prop :=
  (∃ streamId, answers.start = .ok (streamId + 1)) ∧ ∃ closed, answers.close = .ok closed

theorem streamQueryBatched_of_opened {answers : StreamAnswers} (opened : answers.Opened) :
    streamQueryBatched backend library maxBufferBytes answers =
      fetchBatches backend library maxBufferBytes answers.lastError [] answers.fetches := by
  obtain ⟨⟨streamId, started⟩, closed, ended⟩ := opened
  rw [streamQueryBatched, started, ended]
  rfl

theorem streamAsync_of_opened {answers : PollAnswers} (opened : answers.Opened) :
    streamAsync library maxBufferBytes answers =
      pollBatches library maxBufferBytes answers.lastError [] answers.polls := by
  obtain ⟨⟨streamId, started⟩, closed, ended⟩ := opened
  rw [streamAsync, started, ended]
  rfl

/-- The messages that everything consists of are yielded, whatever the chunks were. -/
theorem streamQueryBatched_eq {answers : StreamAnswers} (opened : answers.Opened)
    (delivered : answers.fetches.delivered = some data) (within : WithinLimit maxBufferBytes data)
    (framed : messageFraming.drain data = (frames, rest))
    (parsed : ParsedAs library frames chunks) :
    streamQueryBatched backend library maxBufferBytes answers = ⟨chunks, endingBehind rest⟩ := by
  have parsed : ParsedAs library (messageFraming.drain ([] ++ data)).1 chunks := by
    rwa [List.nil_append, framed]
  rw [streamQueryBatched_of_opened opened, fetchBatches_eq delivered within parsed,
    List.nil_append, framed]

theorem streamAsync_eq {answers : PollAnswers} (opened : answers.Opened)
    (delivered : answers.polls.delivered = some data) (within : WithinLimit maxBufferBytes data)
    (framed : messageFraming.drain data = (frames, rest))
    (parsed : ParsedAs library frames chunks) :
    streamAsync library maxBufferBytes answers = ⟨chunks, endingBehind rest⟩ := by
  have parsed : ParsedAs library (messageFraming.drain ([] ++ data)).1 chunks := by
    rwa [List.nil_append, framed]
  rw [streamAsync_of_opened opened,
    pollBatches_eq delivered within messageFraming.unfinished_nil parsed, List.nil_append, framed]

end Yielded

end OdbcFast.Dart
