import OdbcFast.Native.Engine.DiskSpill
import OdbcFast.Wire.Machine

/-!
# Spill streams side by side

The streams of one process share the directory for temporary files. A stream is created,
written to, read back or turned into a reader, and dropped; a write that has to spill does so
in a step of its own. Each step is one stream's, and the streams take turns in any order.
-/

namespace OdbcFast.Native

open Wire

namespace SpillStreams

inductive Stage where
  | closed
  /-- `call` is the chunk of a `write_chunk` that is under way. -/
  | writing (stream : DiskSpillStream) (call : Option Bytes)
  | inMemory (state : InMemoryStreamingState)
  /-- The file of the state is what was behind the path when it was last looked at. -/
  | fileBacked (path : Nat) (state : StreamingStateFileBacked)
  deriving DecidableEq, Repr

/-- What a stream can do. A spill happens at a time, which names its file. -/
inductive Op where
  | create (thresholdMb : Nat)
  | beginWrite (chunk : Bytes)
  | spill (millis : Nat)
  | endWrite
  | readBack
  | finish (chunkSize : Nat)
  | fetch
  | drop
  deriving DecidableEq, Repr

inductive Output where
  | created
  | began
  | spilled
  | wrote (chunk : Bytes)
  | readBack (result : Except OdbcError Bytes)
  | finished
  | fetched (result : Except OdbcError (Option Bytes))
  | dropped

/-- The state with which a fetch opens the file anew. -/
def reopen (path : Nat) (state : StreamingStateFileBacked) (dir : TempDir) :
    StreamingStateFileBacked :=
  match dir.read? path with
  | some file => { state with file, faults := [] }
  | none => { state with file := [], faults := [some (.opened noSuchFile)] }

/-- What a stream does to itself and to the directory; `none` where it cannot. -/
def act : Op → Stage → TempDir → Option (Stage × TempDir × Output)
  | .create thresholdMb, .closed, dir =>
    some (.writing (.new thresholdMb) none, dir, .created)
  | .beginWrite chunk, .writing stream none, dir =>
    some (.writing stream (some chunk), dir, .began)
  | .spill millis, .writing stream (some chunk), dir =>
    if stream.mustSpill chunk then
      let (stream, dir) := stream.spillToDisk millis dir
      some (.writing stream (some chunk), dir, .spilled)
    else none
  | .endWrite, .writing stream (some chunk), dir =>
    if stream.mustSpill chunk then none
    else
      let (stream, dir) := stream.append chunk dir
      some (.writing stream none, dir, .wrote chunk)
  | .readBack, .writing stream none, dir =>
    let (result, stream, dir) := stream.readBack dir
    some (.writing stream none, dir, .readBack result)
  | .finish chunkSize, .writing stream none, dir =>
    -- no stream has a chunk size of zero
    if chunkSize = 0 then none
    else match stream.finishForStreamingRead dir with
      | (.file path, _, dir) =>
        let totalLen := ((dir.read? path).map List.length).getD 0
        some (.fileBacked path { file := [], chunkSize, totalLen }, dir, .finished)
      | (.memory data, _, dir) => some (.inMemory { data, chunkSize }, dir, .finished)
  | .fetch, .inMemory state, dir =>
    let (result, state) := state.fetchNextChunk
    some (.inMemory state, dir, .fetched result)
  | .fetch, .fileBacked path state, dir =>
    let (result, state) := (reopen path state dir).fetchNextChunk
    some (.fileBacked path state, dir, .fetched result)
  | .drop, .writing stream _, dir => some (.closed, stream.drop dir, .dropped)
  | .drop, .inMemory _, dir => some (.closed, dir, .dropped)
  | .drop, .fileBacked path _, dir => some (.closed, dir.remove path, .dropped)
  | _, _, _ => none

structure System where
  stages : Nat → Stage := fun _ => .closed
  dir : TempDir := {}

/-- Whose step it is, and what it does. -/
abbrev Event := Nat × Op

def step (event : Event) (system : System) : Option (System × (Nat × Output)) :=
  (act event.2 (system.stages event.1) system.dir).map fun (stage, dir, output) =>
    ({ stages := Function.update system.stages event.1 stage, dir }, (event.1, output))

theorem step_eq_some {event : Event} {system next : System} {entry : Nat × Output}
    (stepped : step event system = some (next, entry)) :
    ∃ stage output, entry = (event.1, output) ∧
      next.stages = Function.update system.stages event.1 stage ∧
      act event.2 (system.stages event.1) system.dir = some (stage, next.dir, output) := by
  obtain ⟨⟨stage, dir, output⟩, acted, same⟩ := Option.map_eq_some_iff.mp stepped
  obtain ⟨rfl, rfl⟩ := Prod.mk.inj same
  exact ⟨stage, output, rfl, rfl, acted⟩

end SpillStreams

end OdbcFast.Native
