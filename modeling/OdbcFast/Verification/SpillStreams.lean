import OdbcFast.Native.Engine.SpillStreams
import OdbcFast.Verification.DiskSpill

/-!
# Spill streams that do not disturb each other

A spill file is named after the millisecond in which it is created. As long as no stream
spills in a millisecond that names the file of another one, each stream reads back what was
written to it and no step touches another stream's data. Two streams that spill in the same
millisecond share one file: the second empties it, and each removes it from the other.
-/

namespace OdbcFast.Verification

open Wire Native SpillStreams

/-! ## What is promised -/

/-- What a stream has been given, by its outputs. -/
def spillGiven : SpillStreams.Output → Bytes → Bytes
  | .created, _ | .readBack _, _ => []
  | .wrote chunk, bytes => bytes ++ chunk
  | _, bytes => bytes

/-- What has been fetched from a stream since it is a reader. -/
def spillTaken : SpillStreams.Output → Bytes → Bytes
  | .finished, _ => []
  | .fetched (.ok (some chunk)), bytes => bytes ++ chunk
  | _, bytes => bytes

def remember (f : SpillStreams.Output → Bytes → Bytes) (stream : Nat)
    (log : List (Nat × SpillStreams.Output)) : Bytes :=
  log.foldl (fun bytes entry => if entry.1 = stream then f entry.2 bytes else bytes) []

def writtenTo : Nat → List (Nat × SpillStreams.Output) → Bytes := remember spillGiven

def fetchedFrom : Nat → List (Nat × SpillStreams.Output) → Bytes := remember spillTaken

/-- Everything is read back at once, or it is fetched in order to its end, without an error. -/
def SpillRight (written fetched : Bytes) : SpillStreams.Output → Prop
  | .readBack result => result = .ok written
  | .fetched (.ok (some chunk)) => fetched ++ chunk <+: written
  | .fetched (.ok none) => fetched = written
  | .fetched (.error _) => False
  | _ => True

/-- Each stream gives back what was written to it. -/
def ReadsOwn (log : List (Nat × SpillStreams.Output)) : Prop :=
  ∀ before stream output after, log = before ++ (stream, output) :: after →
    SpillRight (writtenTo stream before) (fetchedFrom stream before) output

/-- The data of a stream: what it would read back, or what its reader reads. -/
def dataOf (stage : Stage) (dir : TempDir) : Option Bytes :=
  match stage with
  | .closed => none
  | .writing stream _ => (stream.readBack dir).1.toOption
  | .inMemory state => some state.data
  | .fileBacked path _ => dir.read? path

/-- In every run of the events, each stream gives back what was written to it and has it in
between, and a step of one stream leaves the data of the others as it is. -/
structure SpillsApart (dir : TempDir) (events : List SpillStreams.Event) : Prop where
  reads : ∀ system log, run step events { dir } = some (system, log) → ReadsOwn log
  has : ∀ system log, run step events { dir } = some (system, log) →
    ∀ stream, system.stages stream ≠ .closed →
      dataOf (system.stages stream) system.dir = some (writtenTo stream log)
  undisturbed : ∀ earlier event later middle before next entry,
    events = earlier ++ event :: later → run step earlier { dir } = some (middle, before) →
    step event middle = some (next, entry) → ∀ other, other ≠ event.1 →
      dataOf (next.stages other) next.dir = dataOf (middle.stages other) middle.dir

/-! ## When it holds -/

def pathOf : Stage → Option Nat
  | .writing stream _ => stream.tempPath
  | .fileBacked path _ => some path
  | .closed | .inMemory _ => none

/-- No stream spills in a millisecond that names the file of another one. -/
def SpillRule : SpillStreams.Event → SpillStreams.System → Prop
  | (stream, .spill millis), system =>
    ∀ other, other ≠ stream → pathOf (system.stages other) ≠ some millis
  | _, _ => True

/-! ## One stream -/

/-- A stream has what was written to it, and its reader stands behind what was fetched. -/
inductive StreamInv (dir : TempDir) (written fetched : Bytes) : Stage → Prop
  | closed : StreamInv dir written fetched .closed
  | writing {stream : DiskSpillStream} {call : Option Bytes} (holds : stream.Holds dir written) :
      StreamInv dir written fetched (.writing stream call)
  | inMemory {offset chunkSize : Nat} (positive : 1 ≤ chunkSize)
      (inside : offset ≤ written.length) (read : fetched = written.take offset) :
      StreamInv dir written fetched (.inMemory { data := written, offset, chunkSize })
  | fileBacked {path offset chunkSize : Nat} {file : Bytes} {faults : List (Option SpillFault)}
      (positive : 1 ≤ chunkSize) (stored : dir.read? path = some written)
      (inside : offset ≤ written.length) (read : fetched = written.take offset) :
      StreamInv dir written fetched (.fileBacked path
        { file, faults, offset, chunkSize, totalLen := written.length })

/-- A step of a stream: it stays right, its answer is right, the directory changes behind one
path only, and that path is its own. -/
structure Acts (written fetched : Bytes) (op : Op) (stage : Stage) (dir : TempDir)
    (stage' : Stage) (dir' : TempDir) (output : SpillStreams.Output) : Prop where
  inv : StreamInv dir' (spillGiven output written) (spillTaken output fetched) stage'
  right : SpillRight written fetched output
  touched : dir' = dir ∨ ∃ path, (pathOf stage = some path ∨ op = .spill path) ∧
    Files.Spares path dir dir'
  path : ∀ path, pathOf stage' = some path → pathOf stage = some path ∨ op = .spill path

variable {dir : TempDir} {written fetched : Bytes} {stage : Stage}

theorem StreamInv.dataOf (inv : StreamInv dir written fetched stage) (sound : dir.Sound)
    (active : stage ≠ .closed) : dataOf stage dir = some written := by
  cases inv with
  | closed => exact absurd rfl active
  | writing holds =>
      obtain ⟨_, _, read, -⟩ := DiskSpillStream.readBack_spec holds sound
      rw [Verification.dataOf, read]
      rfl
  | inMemory => rfl
  | fileBacked positive stored => exact stored

theorem StreamInv.spares {path : Nat} {next : TempDir} (inv : StreamInv dir written fetched stage)
    (spares : Files.Spares path dir next) (apart : pathOf stage ≠ some path) :
    StreamInv next written fetched stage := by
  cases inv with
  | closed => exact .closed
  | writing holds => exact .writing (DiskSpillStream.holds_spares holds spares apart)
  | inMemory positive inside read => exact .inMemory positive inside read
  | fileBacked positive stored inside read =>
      have other : _ ≠ path := fun same => apart (congrArg some same)
      exact .fileBacked positive (spares.read? other stored) inside read

namespace Acts

variable {stream : DiskSpillStream} {call : Option Bytes}

theorem spill (millis : Nat) (holds : stream.Holds dir written) (sound : dir.Sound)
    (unspilled : stream.file = none) :
    Acts written fetched (.spill millis) (.writing stream call) dir
      (.writing (stream.spillToDisk millis dir).1 call) (stream.spillToDisk millis dir).2
      .spilled where
  inv := .writing (DiskSpillStream.holds_spillToDisk millis holds unspilled)
  right := trivial
  touched := .inr ⟨millis, .inr rfl, DiskSpillStream.spares_spillToDisk millis stream sound⟩
  path _ named := .inr (congrArg Op.spill (Option.some.inj named))

theorem endWrite (chunk : Bytes) (holds : stream.Holds dir written) (sound : dir.Sound) :
    Acts written fetched .endWrite (.writing stream call) dir
      (.writing (stream.append chunk dir).1 none) (stream.append chunk dir).2
      (.wrote chunk) where
  inv := .writing (DiskSpillStream.holds_append chunk holds)
  right := trivial
  touched := by
    refine (DiskSpillStream.spares_append chunk holds sound).imp_right ?_
    rintro ⟨path, named, spares⟩
    exact ⟨path, .inl named, spares⟩
  path path named := .inl ((DiskSpillStream.tempPath_append chunk stream dir).symm.trans named)

theorem readBack (holds : stream.Holds dir written) (sound : dir.Sound) :
    Acts written fetched .readBack (.writing stream call) dir
      (.writing (stream.readBack dir).2.1 none) (stream.readBack dir).2.2
      (.readBack (stream.readBack dir).1) := by
  obtain ⟨stream', next, read, holds', unnamed, touched⟩ :=
    DiskSpillStream.readBack_spec holds sound
  rw [read]
  refine ⟨.writing holds', rfl, ?_, ?_⟩
  · refine touched.imp_right ?_
    rintro ⟨path, named, spares⟩
    exact ⟨path, .inl named, spares⟩
  · intro path named
    cases unnamed.symm.trans named

theorem drop (holds : stream.Holds dir written) (sound : dir.Sound) :
    Acts written fetched .drop (.writing stream call) dir .closed (stream.drop dir)
      .dropped where
  inv := .closed
  right := trivial
  touched := by
    refine (DiskSpillStream.spares_drop holds sound).imp_right ?_
    rintro ⟨path, named, spares⟩
    exact ⟨path, .inl named, spares⟩
  path := by rintro _ ⟨⟩

theorem finish {chunkSize : Nat} {stage' : Stage} {dir' : TempDir} {output : SpillStreams.Output}
    (holds : stream.Holds dir written) (sound : dir.Sound)
    (acted : act (.finish chunkSize) (.writing stream none) dir = some (stage', dir', output)) :
    Acts written fetched (.finish chunkSize) (.writing stream none) dir stage' dir' output := by
  rw [act] at acted
  split_ifs at acted with zero
  have positive : 1 ≤ chunkSize := Nat.one_le_iff_ne_zero.mpr zero
  rw [DiskSpillStream.finishForStreamingRead] at acted
  cases named : stream.tempPath with
  | none =>
      cases holds with
      | spilled path writer named' => cases named.symm.trans named'
      | memory path file held =>
          rw [named, DiskSpillStream.close_of_memory file, held] at acted
          cases acted
          refine ⟨.inMemory positive (Nat.zero_le _) rfl, trivial, .inl rfl, ?_⟩
          rintro _ ⟨⟩
  | some path =>
      have read := DiskSpillStream.read?_close holds named
      have spares := DiskSpillStream.spares_close holds sound named
      rw [named] at acted
      dsimp only at acted
      rw [read] at acted
      cases acted
      exact ⟨.fileBacked positive read (Nat.zero_le _) rfl, trivial,
        .inr ⟨path, .inl named, spares⟩, fun _ named' => .inl (named.trans named')⟩

/-- What one fetch from a reader takes, wherever the bytes are. -/
theorem fetch {state next : StreamState} {chunkSize offset : Nat}
    {result : Except OdbcError (Option Bytes)} (positive : 1 ≤ chunkSize)
    (inside : offset ≤ written.length) (read : fetched = written.take offset)
    (there : ReadTo chunkSize written offset state)
    (got : state.fetchNextChunk = (result, next)) :
    SpillRight written fetched (.fetched result) ∧ ∃ offset', offset' ≤ written.length ∧
      spillTaken (.fetched result) fetched = written.take offset' ∧
      ReadTo chunkSize written offset' next := by
  by_cases more : offset < written.length
  · obtain ⟨next', onward, -, chunk⟩ := there.fetch_chunk positive more
    obtain ⟨rfl, rfl⟩ := Prod.mk.inj (got.symm.trans chunk)
    have longer : fetched ++ (written.drop offset).take (min chunkSize (written.length - offset)) =
        written.take (offset + min chunkSize (written.length - offset)) := by
      rw [read, List.take_add]
    refine ⟨?_, _, by omega, longer, onward⟩
    rw [SpillRight, longer]
    exact List.take_prefix _ _
  · obtain ⟨-, ended⟩ := there.fetch_end (Nat.not_lt.mp more)
    obtain ⟨rfl, rfl⟩ := Prod.mk.inj (got.symm.trans ended)
    have all : offset = written.length := Nat.le_antisymm inside (Nat.not_lt.mp more)
    refine ⟨?_, offset, inside, read, there⟩
    rw [SpillRight, read, all, List.take_length]

theorem streamState_inMemory {state next : InMemoryStreamingState}
    {result : Except OdbcError (Option Bytes)} (got : state.fetchNextChunk = (result, next)) :
    (StreamState.inMemory state).fetchNextChunk = (result, .inMemory next) := by
  rw [StreamState.fetchNextChunk, got]

theorem streamState_fileBacked {state next : StreamingStateFileBacked}
    {result : Except OdbcError (Option Bytes)} (got : state.fetchNextChunk = (result, next)) :
    (StreamState.fileBacked state).fetchNextChunk = (result, .fileBacked next) := by
  rw [StreamState.fetchNextChunk, got]

theorem fetchInMemory {state next : InMemoryStreamingState}
    {result : Except OdbcError (Option Bytes)}
    (inv : StreamInv dir written fetched (.inMemory state))
    (got : state.fetchNextChunk = (result, next)) :
    Acts written fetched .fetch (.inMemory state) dir (.inMemory next) dir
      (.fetched result) := by
  cases inv with
  | inMemory positive inside read =>
      obtain ⟨right, offset', inside', taken, there⟩ :=
        fetch positive inside read .inMemory (streamState_inMemory got)
      cases there
      exact ⟨.inMemory positive inside' taken, right, .inl rfl, by rintro _ ⟨⟩⟩

theorem fetchFileBacked {path : Nat} {state next : StreamingStateFileBacked}
    {result : Except OdbcError (Option Bytes)}
    (inv : StreamInv dir written fetched (.fileBacked path state))
    (got : (reopen path state dir).fetchNextChunk = (result, next)) :
    Acts written fetched .fetch (.fileBacked path state) dir (.fileBacked path next) dir
      (.fetched result) := by
  cases inv with
  | fileBacked positive stored inside read =>
      rw [reopen, stored] at got
      obtain ⟨right, offset', inside', taken, there⟩ :=
        fetch positive inside read .fileBacked (streamState_fileBacked got)
      cases there
      exact ⟨.fileBacked positive stored inside' taken, right, .inl rfl, fun _ named => .inl named⟩

end Acts

/-- Each step that a stream can take. -/
theorem acts_of_act {op : Op} {stage' : Stage} {dir' : TempDir} {output : SpillStreams.Output}
    (inv : StreamInv dir written fetched stage) (sound : dir.Sound)
    (acted : act op stage dir = some (stage', dir', output)) :
    Acts written fetched op stage dir stage' dir' output := by
  cases stage with
  | closed =>
      cases op with
      | create thresholdMb =>
          cases acted
          exact ⟨.writing (DiskSpillStream.holds_new thresholdMb _), trivial, .inl rfl,
            by rintro _ ⟨⟩⟩
      | beginWrite | spill | endWrite | readBack | finish | fetch | drop => cases acted
  | writing stream call =>
      cases inv with
      | writing holds =>
      cases op with
      | create | fetch => cases call <;> cases acted
      | beginWrite chunk =>
          cases call with
          | some chunk' => cases acted
          | none =>
              cases acted
              exact ⟨.writing holds, trivial, .inl rfl, fun _ named => .inl named⟩
      | spill millis =>
          cases call with
          | none => cases acted
          | some chunk =>
              rw [act] at acted
              split_ifs at acted with spills
              cases acted
              exact .spill millis holds sound (DiskSpillStream.unspilled_of_mustSpill spills)
      | endWrite =>
          cases call with
          | none => cases acted
          | some chunk =>
              rw [act] at acted
              split_ifs at acted with spills
              cases acted
              exact .endWrite chunk holds sound
      | readBack =>
          cases call with
          | some chunk => cases acted
          | none =>
              cases acted
              exact .readBack holds sound
      | finish chunkSize =>
          cases call with
          | some chunk => cases acted
          | none => exact .finish holds sound acted
      | drop =>
          cases acted
          exact .drop holds sound
  | inMemory state =>
      cases op with
      | create | beginWrite | spill | endWrite | readBack | finish => cases acted
      | drop =>
          cases acted
          exact ⟨.closed, trivial, .inl rfl, by rintro _ ⟨⟩⟩
      | fetch =>
          rw [act] at acted
          generalize got : state.fetchNextChunk = result at acted
          cases acted
          exact .fetchInMemory inv got
  | fileBacked path state =>
      cases op with
      | create | beginWrite | spill | endWrite | readBack | finish => cases acted
      | drop =>
          cases acted
          exact ⟨.closed, trivial, .inr ⟨path, .inl rfl, Files.spares_remove path sound⟩,
            by rintro _ ⟨⟩⟩
      | fetch =>
          rw [act] at acted
          generalize got : (reopen path state dir).fetchNextChunk = result at acted
          cases acted
          exact .fetchFileBacked inv got

/-! ## All streams -/

structure SpillInv (log : List (Nat × SpillStreams.Output)) (system : SpillStreams.System) :
    Prop where
  sound : system.dir.Sound
  streams : ∀ stream, StreamInv system.dir (writtenTo stream log) (fetchedFrom stream log)
    (system.stages stream)
  apart : ∀ stream other path, pathOf (system.stages stream) = some path →
    pathOf (system.stages other) = some path → stream = other
  reads : ReadsOwn log

variable {log : List (Nat × SpillStreams.Output)} {system next : SpillStreams.System}
  {event : SpillStreams.Event} {entry : Nat × SpillStreams.Output}

theorem remember_own (f : SpillStreams.Output → Bytes → Bytes) (stream : Nat)
    (output : SpillStreams.Output) :
    remember f stream (log ++ [(stream, output)]) = f output (remember f stream log) := by
  rw [remember, List.foldl_append]
  exact if_pos rfl

theorem remember_other (f : SpillStreams.Output → Bytes → Bytes) {stream other : Nat}
    (apart : other ≠ stream) (output : SpillStreams.Output) :
    remember f other (log ++ [(stream, output)]) = remember f other log := by
  rw [remember, List.foldl_append]
  exact if_neg apart.symm

/-- The rule makes the path behind which the directory changes nobody else's. -/
theorem SpillInv.foreign (inv : SpillInv log system) (allowed : SpillRule event system)
    {path other : Nat} (apart : other ≠ event.1)
    (own : pathOf (system.stages event.1) = some path ∨ event.2 = .spill path) :
    pathOf (system.stages other) ≠ some path := by
  obtain ⟨stream, op⟩ := event
  intro named
  rcases own with own | rfl
  · exact apart (inv.apart other stream path named own)
  · exact allowed other apart named

/-- The other streams are as they were. -/
theorem SpillInv.others (inv : SpillInv log system) (allowed : SpillRule event system)
    (stepped : step event system = some (next, entry)) {other : Nat} (apart : other ≠ event.1) :
    next.stages other = system.stages other ∧
      StreamInv next.dir (writtenTo other log) (fetchedFrom other log) (next.stages other) := by
  obtain ⟨stage, output, -, stages, acted⟩ := step_eq_some stepped
  have same : next.stages other = system.stages other := by
    rw [stages]
    exact Function.update_of_ne apart ..
  refine ⟨same, ?_⟩
  rw [same]
  rcases (acts_of_act (inv.streams event.1) inv.sound acted).touched with kept | ⟨path, own, spares⟩
  · rw [kept]
    exact inv.streams other
  · exact (inv.streams other).spares spares (inv.foreign allowed apart own)

theorem step_spills (inv : SpillInv log system) (allowed : SpillRule event system)
    (stepped : step event system = some (next, entry)) : SpillInv (log ++ [entry]) next := by
  obtain ⟨stage, output, rfl, stages, acted⟩ := step_eq_some stepped
  have acts := acts_of_act (inv.streams event.1) inv.sound acted
  have own : next.stages event.1 = stage := by
    rw [stages]
    exact Function.update_self ..
  refine ⟨?_, ?_, ?_, ?_⟩
  · rcases acts.touched with kept | ⟨path, -, spares⟩
    · rw [kept]
      exact inv.sound
    · exact spares.sound
  · intro stream
    by_cases mine : stream = event.1
    · subst mine
      rw [own, writtenTo, fetchedFrom, remember_own, remember_own]
      exact acts.inv
    · rw [writtenTo, fetchedFrom, remember_other _ mine, remember_other _ mine]
      exact (inv.others allowed stepped mine).2
  · -- a path that is new to the stream is the one the rule keeps from the others
    have fresh : ∀ other path, other ≠ event.1 → pathOf (next.stages event.1) = some path →
        pathOf (next.stages other) ≠ some path := by
      intro other path apart named
      rw [(inv.others allowed stepped apart).1]
      rw [own] at named
      exact inv.foreign allowed apart (acts.path path named)
    intro stream other path named named'
    by_cases mine : stream = event.1
    · by_cases mine' : other = event.1
      · rw [mine, mine']
      · rw [mine] at named
        exact absurd named' (fresh other path mine' named)
    · by_cases mine' : other = event.1
      · rw [mine'] at named'
        exact absurd named (fresh stream path mine named')
      · rw [(inv.others allowed stepped mine).1] at named
        rw [(inv.others allowed stepped mine').1] at named'
        exact inv.apart stream other path named named'
  · intro before stream output' after split
    rcases append_singleton_split split with ⟨rfl, last⟩ | ⟨earlier, rfl⟩
    · obtain ⟨rfl, rfl⟩ := Prod.mk.inj last
      exact acts.right
    · exact inv.reads before stream output' earlier rfl

/-- A step leaves the data of the other streams as it is. -/
theorem SpillInv.undisturbed (inv : SpillInv log system) (allowed : SpillRule event system)
    (stepped : step event system = some (next, entry)) {other : Nat} (apart : other ≠ event.1) :
    dataOf (next.stages other) next.dir = dataOf (system.stages other) system.dir := by
  obtain ⟨same, kept⟩ := inv.others allowed stepped apart
  by_cases closed : system.stages other = .closed
  · rw [same, closed]
    rfl
  · have active : next.stages other ≠ .closed := by
      rw [same]
      exact closed
    rw [kept.dataOf (step_spills inv allowed stepped).sound active,
      (inv.streams other).dataOf inv.sound closed]

/-! ## Every run -/

theorem spillInv_initial {dir : TempDir} (sound : dir.Sound) : SpillInv [] { dir } where
  sound := sound
  streams _ := .closed
  apart := by rintro _ _ _ ⟨⟩
  reads := by
    intro before stream output after split
    cases before <;> cases split

theorem spillInv_of_run {dir : TempDir} (sound : dir.Sound) {events : List SpillStreams.Event}
    (along : Along step SpillRule events { dir })
    (ran : run step events { dir } = some (system, log)) : SpillInv log system :=
  run_invariant_along SpillInv (fun inv allowed stepped => step_spills inv allowed stepped) []
    (spillInv_initial sound) along ran

/-- Streams whose spills keep to the rule do not disturb each other. -/
theorem spillsApart_of_run {dir : TempDir} (sound : dir.Sound) {events : List SpillStreams.Event}
    (along : Along step SpillRule events { dir }) : SpillsApart dir events where
  reads _ _ ran := (spillInv_of_run sound along ran).reads
  has system log ran stream active :=
    ((spillInv_of_run sound along ran).streams stream).dataOf
      (spillInv_of_run sound along ran).sound active
  undisturbed := by
    rintro earlier event later middle before next entry rfl ran stepped other apart
    obtain ⟨first, second⟩ := (along_append_iff ran).mp along
    exact (spillInv_of_run sound first ran).undisturbed second.1 stepped apart

/-! ## Two streams -/

/-- A stream is given one byte and then a chunk with which it has to spill. -/
def spillAt (millis stream : Nat) (byte : UInt8) (big : Bytes) : List SpillStreams.Event :=
  [(stream, .create 1), (stream, .beginWrite [byte]), (stream, .endWrite),
    (stream, .beginWrite big), (stream, .spill millis)]

/-- What the stream then is. -/
def spilledAt (millis file : Nat) (byte : UInt8) (big : Bytes) : Stage :=
  let file := some { file, buffer := [byte] }
  .writing { thresholdBytes := 1048576, tempPath := some millis, file } (some big)

/-- A step of a stream whose stage was set last. -/
theorem step_update {stages : Nat → Stage} {stream : Nat} {op : Op} {stage' : Stage}
    {dir' : TempDir} {output : SpillStreams.Output}
    (acted : act op stage dir = some (stage', dir', output)) :
    step (stream, op) ⟨Function.update stages stream stage, dir⟩ =
      some (⟨Function.update stages stream stage', dir'⟩, (stream, output)) := by
  rw [step]
  dsimp only
  rw [Function.update_self, acted, Option.map_some, Function.update_idem]

theorem act_spill (millis file : Nat) (byte : UInt8) {big : Bytes} (large : big.length = 1048576)
    (made : (dir.create millis).1 = file) :
    act (.spill millis) (.writing { thresholdBytes := 1048576, memoryBuffer := [byte] } (some big))
      dir = some (spilledAt millis file byte big, (dir.create millis).2, .spilled) := by
  have spills : DiskSpillStream.mustSpill big
      { thresholdBytes := 1048576, memoryBuffer := [byte] } = true := by
    simp [DiskSpillStream.mustSpill, large]
  have small : [byte].length < BufWriter.capacity - ([] : Bytes).length := by
    simp [BufWriter.capacity]
  rw [act, if_pos spills, ← made, DiskSpillStream.spillToDisk]
  dsimp only
  rw [BufWriter.writeAll, if_pos small]
  rfl

theorem run_spillAt (system : SpillStreams.System) (millis stream file : Nat) (byte : UInt8)
    {big : Bytes} (large : big.length = 1048576) (closed : system.stages stream = .closed)
    (made : (system.dir.create millis).1 = file) :
    run step (spillAt millis stream byte big) system =
      some (⟨Function.update system.stages stream (spilledAt millis file byte big),
          (system.dir.create millis).2⟩,
        [(stream, .created), (stream, .began), (stream, .wrote [byte]), (stream, .began),
          (stream, .spilled)]) := by
  have start : system = ⟨Function.update system.stages stream .closed, system.dir⟩ := by
    rw [← closed, Function.update_eq_self]
  rw [start]
  dsimp only
  rw [Function.update_idem]
  exact run_cons_eq_some.mpr ⟨_, step_update rfl, run_cons_eq_some.mpr ⟨_, step_update rfl,
    run_cons_eq_some.mpr ⟨_, step_update rfl, run_cons_eq_some.mpr ⟨_, step_update rfl,
      run_cons_eq_some.mpr ⟨_, step_update (act_spill millis file byte large made), rfl⟩⟩⟩⟩⟩

theorem along_spillAt (system : SpillStreams.System) (millis stream : Nat) (byte : UInt8)
    (big : Bytes) (closed : system.stages stream = .closed)
    (unused : ∀ other, other ≠ stream → pathOf (system.stages other) ≠ some millis) :
    Along step SpillRule (spillAt millis stream byte big) system := by
  have start : system = ⟨Function.update system.stages stream .closed, system.dir⟩ := by
    rw [← closed, Function.update_eq_self]
  rw [start]
  refine (along_cons_iff (step_update rfl)).mpr ⟨trivial, (along_cons_iff (step_update rfl)).mpr
    ⟨trivial, (along_cons_iff (step_update rfl)).mpr ⟨trivial,
      (along_cons_iff (step_update rfl)).mpr ⟨trivial, ?_, fun _ _ _ => trivial⟩⟩⟩⟩
  intro other apart
  dsimp only
  rw [Function.update_of_ne apart]
  exact unused other apart

def mebibyte : Bytes := List.replicate 1048576 0

theorem length_mebibyte : mebibyte.length = 1048576 := List.length_replicate

theorem sound_empty : Files.Sound ({} : TempDir) where
  bounded := by rintro _ _ ⟨⟩
  injective := by rintro _ _ _ ⟨⟩

/-- Two streams that spill in different milliseconds. -/
theorem spillsApart_of_run_twoStreams :
    Along step SpillRule (spillAt 5 0 1 mebibyte ++ spillAt 6 1 2 mebibyte) {} ∧
      SpillsApart {} (spillAt 5 0 1 mebibyte ++ spillAt 6 1 2 mebibyte) := by
  have ran := run_spillAt {} 5 0 0 1 length_mebibyte rfl rfl
  have along : Along step SpillRule (spillAt 5 0 1 mebibyte ++ spillAt 6 1 2 mebibyte) {} := by
    refine (along_append_iff ran).mpr ⟨along_spillAt {} 5 0 1 mebibyte rfl ?_,
      along_spillAt _ 6 1 2 mebibyte rfl ?_⟩
    · rintro _ _ ⟨⟩
    · intro other _
      by_cases first : other = 0
      · subst first
        rintro ⟨⟩
      · dsimp only
        rw [Function.update_of_ne first]
        rintro ⟨⟩
  exact ⟨along, spillsApart_of_run sound_empty along⟩

/-- Two streams that spill in the same millisecond: dropping the first removes the file of the
second. -/
theorem spill_files_collide :
    ¬ ∀ (dir : TempDir) (events : List SpillStreams.Event), dir.Sound →
      SpillsApart dir events := by
  intro apart
  have first := run_spillAt {} 5 0 0 1 length_mebibyte rfl rfl
  have second := run_spillAt ⟨Function.update (fun _ => .closed) 0 (spilledAt 5 0 1 mebibyte),
    (Files.create 5 {}).2⟩ 5 1 0 2 length_mebibyte rfl rfl
  have lost := (apart {} (spillAt 5 0 1 mebibyte ++ spillAt 5 1 2 mebibyte ++ [(0, .drop)])
    sound_empty).undisturbed _ _ [] _ _ _ _ rfl (run_append first second) rfl 1 (by decide)
  cases lost

end OdbcFast.Verification
