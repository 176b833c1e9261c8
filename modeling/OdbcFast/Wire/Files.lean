import Mathlib.Logic.Function.Basic
import OdbcFast.Wire.Bytes
import OdbcFast.Wire.HashMap

/-!
# Files and buffered writers

A name leads to a file, and a handle keeps to its file whatever becomes of the name:
creating a file under a name that is taken empties the file behind it, and removing a name
leaves the handles that are open. A handle writes at a position of its own.

A buffered writer collects small writes. `Appends` says that what the file and the buffer
hold together is what was written, `Only` that no other file has changed, and `Spares` the
same of what stands behind the other names.
-/

namespace Wire

universe u

structure Files (κ : Type u) where
  /-- The file behind each name. -/
  names : HashMap κ Nat := ∅
  contents : Nat → Bytes := fun _ => []
  /-- How many files were made. -/
  made : Nat := 0

namespace Files

variable {κ : Type u}

def setContents (file : Nat) (bytes : Bytes) (files : Files κ) : Files κ :=
  { files with contents := Function.update files.contents file bytes }

/-- Create a file, or empty the one that has the name. -/
def create [DecidableEq κ] (name : κ) (files : Files κ) : Nat × Files κ :=
  match files.names.lookup name with
  | some file => (file, files.setContents file [])
  | none =>
    (files.made, { files.setContents files.made [] with
      names := files.names.insert name files.made
      made := files.made + 1 })

/-- Write at a position; a gap behind the end is filled with zeros. Writing nothing does
nothing. -/
def writeAt (file position : Nat) (bytes : Bytes) (files : Files κ) : Files κ :=
  let old := files.contents file
  let front := old.take position ++ List.replicate (position - old.length) 0
  if bytes.isEmpty then files
  else files.setContents file (front ++ bytes ++ old.drop (position + bytes.length))

def read? [DecidableEq κ] (name : κ) (files : Files κ) : Option Bytes :=
  (files.names.lookup name).map files.contents

def remove [DecidableEq κ] (name : κ) (files : Files κ) : Files κ :=
  { files with names := files.names.erase name }

/-- Each file has at most one name. -/
structure Sound [DecidableEq κ] (files : Files κ) : Prop where
  bounded : ∀ name file, files.names.lookup name = some file → file < files.made
  injective : ∀ name name' file, files.names.lookup name = some file →
    files.names.lookup name' = some file → name = name'

/-- Nothing but the contents of one file has changed. -/
structure Only (file : Nat) (files next : Files κ) : Prop where
  names : next.names = files.names
  made : next.made = files.made
  contents : ∀ other, other ≠ file → next.contents other = files.contents other

variable {files next : Files κ} {file : Nat} {name : κ}

theorem Only.refl (file : Nat) (files : Files κ) : Only file files files :=
  ⟨rfl, rfl, fun _ _ => rfl⟩

theorem Only.trans {middle : Files κ} (first : Only file files middle)
    (second : Only file middle next) : Only file files next where
  names := second.names.trans first.names
  made := second.made.trans first.made
  contents other apart := (second.contents other apart).trans (first.contents other apart)

theorem only_setContents (file : Nat) (bytes : Bytes) (files : Files κ) :
    Only file files (files.setContents file bytes) :=
  ⟨rfl, rfl, fun _ apart => Function.update_of_ne apart ..⟩

theorem only_writeAt (file position : Nat) (bytes : Bytes) (files : Files κ) :
    Only file files (files.writeAt file position bytes) := by
  rw [writeAt]
  split_ifs
  · exact .refl file files
  · exact only_setContents file _ files

/-- Writing at the end appends. -/
theorem contents_writeAt_end (file : Nat) (bytes : Bytes) (files : Files κ) :
    (files.writeAt file (files.contents file).length bytes).contents file =
      files.contents file ++ bytes := by
  rw [writeAt]
  split_ifs with empty
  · rw [List.isEmpty_iff.mp empty, List.append_nil]
  · have past : (files.contents file).drop ((files.contents file).length + bytes.length) = [] :=
      List.drop_eq_nil_of_le (Nat.le_add_right _ _)
    rw [setContents]
    dsimp only
    rw [Function.update_self, past, List.take_length, Nat.sub_self, List.replicate_zero,
      List.append_nil, List.append_nil]

variable [DecidableEq κ]

theorem Only.sound (only : Only file files next) (sound : Sound files) : Sound next where
  bounded name file found := by
    rw [only.names] at found
    rw [only.made]
    exact sound.bounded name file found
  injective name name' file found found' := by
    rw [only.names] at found found'
    exact sound.injective name name' file found found'

theorem Only.lookup (only : Only file files next) {other : Nat}
    (found : files.names.lookup name = some other) : next.names.lookup name = some other := by
  rw [only.names]
  exact found

theorem read?_of_lookup (found : files.names.lookup name = some file) :
    files.read? name = some (files.contents file) := by
  rw [read?, found]
  rfl

/-- The name leads to the file that is created, which is empty. -/
theorem create_found (name : κ) (files : Files κ) :
    (files.create name).2.names.lookup name = some (files.create name).1 ∧
      (files.create name).2.contents (files.create name).1 = [] := by
  rw [create]
  cases taken : files.names.lookup name with
  | some file => exact ⟨taken, Function.update_self ..⟩
  | none => exact ⟨AList.lookup_insert _, Function.update_self ..⟩

/-- Nothing that stands behind another name has changed. -/
structure Spares (name : κ) (files next : Files κ) : Prop where
  sound : Sound next
  others : ∀ name' file, name' ≠ name → files.names.lookup name' = some file →
    next.names.lookup name' = some file ∧ next.contents file = files.contents file

theorem Spares.trans {middle : Files κ} (first : Spares name files middle)
    (second : Spares name middle next) : Spares name files next where
  sound := second.sound
  others name' file other found := by
    obtain ⟨found', same⟩ := first.others name' file other found
    obtain ⟨found'', same'⟩ := second.others name' file other found'
    exact ⟨found'', same'.trans same⟩

theorem Spares.read? (spares : Spares name files next) {name' : κ} {bytes : Bytes}
    (other : name' ≠ name) (read : files.read? name' = some bytes) :
    next.read? name' = some bytes := by
  obtain ⟨file, found, rfl⟩ := Option.map_eq_some_iff.mp read
  obtain ⟨found', same⟩ := spares.others name' file other found
  rw [read?_of_lookup found', same]

/-- No two names lead to the file that has changed. -/
theorem Only.spares (only : Only file files next) (sound : Sound files)
    (found : files.names.lookup name = some file) : Spares name files next := by
  refine ⟨only.sound sound, ?_⟩
  intro name' file' other found'
  have apart : file' ≠ file := by
    rintro rfl
    exact other (sound.injective name' name file' found' found)
  exact ⟨only.lookup found', only.contents file' apart⟩

theorem spares_create (name : κ) (sound : Sound files) :
    Spares name files (files.create name).2 := by
  rw [create]
  cases taken : files.names.lookup name with
  | some file => exact (only_setContents file [] files).spares sound taken
  | none =>
      dsimp only
      refine ⟨⟨?_, ?_⟩, ?_⟩
      · intro name' file' found
        obtain ⟨-, rfl⟩ | ⟨-, found⟩ := HashMap.lookup_insert_eq_some.mp found
        · exact Nat.lt_succ_self _
        · exact Nat.lt_succ_of_lt (sound.bounded name' file' found)
      · intro name₁ name₂ file' found₁ found₂
        obtain ⟨rfl, rfl⟩ | ⟨-, old₁⟩ := HashMap.lookup_insert_eq_some.mp found₁
        · obtain ⟨rfl, -⟩ | ⟨-, old₂⟩ := HashMap.lookup_insert_eq_some.mp found₂
          · rfl
          · cases Nat.lt_irrefl _ (sound.bounded _ _ old₂)
        · obtain ⟨rfl, rfl⟩ | ⟨-, old₂⟩ := HashMap.lookup_insert_eq_some.mp found₂
          · cases Nat.lt_irrefl _ (sound.bounded _ _ old₁)
          · exact sound.injective name₁ name₂ file' old₁ old₂
      · intro name' file' other found
        have apart : file' ≠ files.made := Nat.ne_of_lt (sound.bounded name' file' found)
        exact ⟨(AList.lookup_insert_ne other).trans found, Function.update_of_ne apart ..⟩

theorem spares_remove (name : κ) (sound : Sound files) : Spares name files (files.remove name) := by
  refine ⟨⟨?_, ?_⟩, ?_⟩
  · intro name' file found
    exact sound.bounded name' file (HashMap.lookup_erase_eq_some.mp found).2
  · intro name₁ name₂ file found₁ found₂
    exact sound.injective name₁ name₂ file (HashMap.lookup_erase_eq_some.mp found₁).2
      (HashMap.lookup_erase_eq_some.mp found₂).2
  · intro name' file other found
    exact ⟨(AList.lookup_erase_ne other).trans found, rfl⟩

end Files

/-! ## Buffered writers -/

structure BufWriter where
  file : Nat
  position : Nat := 0
  buffer : Bytes := []
  deriving DecidableEq, Repr

namespace BufWriter

variable {κ : Type u}

def capacity : Nat := 8 * 1024

def flush (writer : BufWriter) (files : Files κ) : BufWriter × Files κ :=
  ({ writer with position := writer.position + writer.buffer.length, buffer := [] },
    files.writeAt writer.file writer.position writer.buffer)

/-- Small writes are collected; what does not fit empties the buffer first, and what would fill
it goes to the file at once. -/
def writeAll (bytes : Bytes) (writer : BufWriter) (files : Files κ) : BufWriter × Files κ :=
  let spare := capacity - writer.buffer.length
  if bytes.length < spare then ({ writer with buffer := writer.buffer ++ bytes }, files)
  else
    let (writer, files) := if bytes.length > spare then writer.flush files else (writer, files)
    if bytes.length ≥ capacity then
      ({ writer with position := writer.position + bytes.length },
        files.writeAt writer.file writer.position bytes)
    else ({ writer with buffer := writer.buffer ++ bytes }, files)

/-- File and buffer together hold what was written. -/
structure Appends (writer : BufWriter) (files : Files κ) (written : Bytes) : Prop where
  position : writer.position = (files.contents writer.file).length
  written : files.contents writer.file ++ writer.buffer = written

variable {writer : BufWriter} {files : Files κ} {written : Bytes}

/-- A write behind the end of what the file holds. -/
theorem appends_writeAt {bytes : Bytes}
    (position : writer.position = (files.contents writer.file).length)
    (empty : writer.buffer = []) :
    Appends { writer with position := writer.position + bytes.length }
      (files.writeAt writer.file writer.position bytes)
      (files.contents writer.file ++ bytes) := by
  have held := Files.contents_writeAt_end writer.file bytes files
  rw [← position] at held
  refine ⟨?_, ?_⟩
  · dsimp only
    rw [held, List.length_append, ← position]
  · dsimp only
    rw [held, empty, List.append_nil]

theorem flush_appends (appends : Appends writer files written) :
    Appends (writer.flush files).1 (writer.flush files).2 written ∧
      (writer.flush files).2.contents writer.file = written := by
  have held := Files.contents_writeAt_end writer.file writer.buffer files
  rw [← appends.position, appends.written] at held
  have length : writer.position + writer.buffer.length = written.length := by
    rw [← appends.written, List.length_append, ← appends.position]
  refine ⟨⟨?_, ?_⟩, held⟩
  · exact length.trans (congrArg List.length held).symm
  · exact (List.append_nil _).trans held

/-- The writer keeps to its file. -/
structure Stays (writer writer' : BufWriter) (files files' : Files κ) : Prop where
  file : writer'.file = writer.file
  only : Files.Only writer.file files files'

/-- A name that leads to the writer's file still does. -/
theorem Stays.lookup [DecidableEq κ] {writer' : BufWriter} {files' : Files κ} {name : κ}
    (stays : Stays writer writer' files files')
    (found : files.names.lookup name = some writer.file) :
    files'.names.lookup name = some writer'.file := by
  rw [stays.file]
  exact stays.only.lookup found

theorem flush_stays (writer : BufWriter) (files : Files κ) :
    Stays writer (writer.flush files).1 files (writer.flush files).2 :=
  ⟨rfl, Files.only_writeAt ..⟩

/-- What follows the decision whether to empty the buffer. -/
theorem writeAll_rest {bytes : Bytes} (appends : Appends writer files written)
    (room : capacity ≤ bytes.length → writer.buffer = []) :
    let result := if bytes.length ≥ capacity then
        ({ writer with position := writer.position + bytes.length },
          files.writeAt writer.file writer.position bytes)
      else ({ writer with buffer := writer.buffer ++ bytes }, files)
    Appends result.1 result.2 (written ++ bytes) ∧ Stays writer result.1 files result.2 := by
  dsimp only
  split_ifs with large
  · have empty := room large
    have all : files.contents writer.file = written := by
      rw [← appends.written, empty, List.append_nil]
    rw [← all]
    exact ⟨appends_writeAt appends.position empty, rfl, Files.only_writeAt ..⟩
  · refine ⟨⟨appends.position, ?_⟩, rfl, .refl writer.file files⟩
    exact (List.append_assoc ..).symm.trans (congrArg (· ++ bytes) appends.written)

theorem writeAll_spec (bytes : Bytes) (appends : Appends writer files written) :
    Appends (writer.writeAll bytes files).1 (writer.writeAll bytes files).2 (written ++ bytes) ∧
      Stays writer (writer.writeAll bytes files).1 files (writer.writeAll bytes files).2 := by
  rw [writeAll]
  by_cases small : bytes.length < capacity - writer.buffer.length
  · rw [if_pos small]
    refine ⟨⟨appends.position, ?_⟩, rfl, .refl writer.file files⟩
    exact (List.append_assoc ..).symm.trans (congrArg (· ++ bytes) appends.written)
  · rw [if_neg small]
    by_cases full : bytes.length > capacity - writer.buffer.length
    · rw [if_pos full]
      obtain ⟨appended, stays⟩ := writeAll_rest (flush_appends appends).1 fun _ => rfl
      have flushed := flush_stays writer files
      exact ⟨appended, stays.file, flushed.only.trans stays.only⟩
    · rw [if_neg full]
      refine writeAll_rest appends fun large => List.eq_nil_of_length_eq_zero ?_
      -- the bytes are as long as the spare room, which is then all of the buffer
      have positive : 0 < capacity := by decide
      omega

end BufWriter

end Wire
