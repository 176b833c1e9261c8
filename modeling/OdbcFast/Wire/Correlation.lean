import Mathlib.Data.List.Nodup
import OdbcFast.Wire.HashMap

/-!
# Requests that wait for answers

A party numbers its requests and keeps, for each one that waits, the completer that its
answer is to go to. An answer, a time-out and the loss of the channel each take entries
out of this map. Whoever sent a request holds a future, which follows the completer
unless its time is over first.

`Logged` ties a table to everything its futures have completed with so far: each of
them has completed at most once, and the map holds exactly those that have not.
-/

namespace Wire

structure Promise (ρ ο : Type) where
  id : Nat
  request : ρ
  completer : Option ο := none
  future : Option ο := none

inductive Settlement (ο : Type) where
  | settled (id : Nat) (outcome : ο)
  /-- A completer was completed that had been completed before. -/
  | settledTwice (id : Nat)
  deriving DecidableEq

def Settlement.of {ο : Type} (entry : Nat × ο) : Settlement ο := .settled entry.1 entry.2

structure Correlation (ρ ο : Type) where
  counter : Nat := 0
  waiting : HashMap Nat Nat := ∅
  promises : List (Promise ρ ο) := []

variable {ρ ο : Type}

namespace Promise

def settle (outcome : ο) (promise : Promise ρ ο) : Promise ρ ο :=
  { promise with completer := some outcome, future := promise.future.or (some outcome) }

/-- Its answer is still waited for. -/
def Open (promise : Promise ρ ο) : Prop := promise.completer = none ∧ promise.future = none

theorem future_settle {old : Promise ρ ο} {outcome : ο} (waits : old.future = none) :
    (old.settle outcome).future = some outcome := by
  rw [settle, waits, Option.none_or]

end Promise

namespace Correlation

/-- A request with the next number, whose answer is waited for. -/
def register (request : ρ) (table : Correlation ρ ο) : Correlation ρ ο where
  counter := table.counter + 1
  waiting := table.waiting.insert table.counter table.promises.length
  promises := table.promises ++ [{ id := table.counter, request }]

/-- A request with the next number that fails before anything is waited for. -/
def refuse (request : ρ) (outcome : ο) (table : Correlation ρ ο) :
    Correlation ρ ο × List (Settlement ο) :=
  ({ table with
      counter := table.counter + 1
      promises := table.promises ++ [{ id := table.counter, request, future := some outcome }] },
    [.settled table.counter outcome])

def complete (promise : Nat) (outcome : ο) (table : Correlation ρ ο) :
    Correlation ρ ο × List (Settlement ο) :=
  match table.promises[promise]? with
  | none => (table, [])
  | some held =>
    if held.completer.isSome then (table, [.settledTwice held.id])
    else ({ table with promises := table.promises.set promise (held.settle outcome) },
      if held.future.isSome then [] else [.settled held.id outcome])

def isCompleted (promise : Nat) (table : Correlation ρ ο) : Bool :=
  table.promises[promise]?.any fun held => held.completer.isSome

def answer (id : Nat) (outcome : ο) (table : Correlation ρ ο) :
    Correlation ρ ο × List (Settlement ο) :=
  match table.waiting.lookup id with
  | none => (table, [])
  | some promise => complete promise outcome { table with waiting := table.waiting.erase id }

/-- The time of a future is over: its completer is forgotten and never completed. -/
def expire (promise : Nat) (outcome : ο) (table : Correlation ρ ο) :
    Correlation ρ ο × List (Settlement ο) :=
  match table.promises[promise]? with
  | none => (table, [])
  | some held =>
    if held.future.isSome then (table, [])
    else ({ table with
        waiting := table.waiting.erase held.id
        promises := table.promises.set promise { held with future := some outcome } },
      [.settled held.id outcome])

def failEach (outcome : ο) : List Nat → Correlation ρ ο → Correlation ρ ο × List (Settlement ο)
  | [], table => (table, [])
  | promise :: promises, table =>
    let (table, done) :=
      if table.isCompleted promise then (table, []) else table.complete promise outcome
    let (table, rest) := failEach outcome promises table
    (table, done ++ rest)

/-- The map is emptied before the completers that were in it are completed, the oldest
request first. -/
def failAll (outcome : ο) (table : Correlation ρ ο) : Correlation ρ ο × List (Settlement ο) :=
  failEach outcome (table.waiting.entries.reverse.map Sigma.snd) { table with waiting := ∅ }

def future (id : Nat) (table : Correlation ρ ο) : Option ο :=
  table.promises[id]?.bind Promise.future

/-! ## Sound tables -/

/-- The request with this number is still waited for. -/
def Waits (id : Nat) (table : Correlation ρ ο) : Prop :=
  ∃ held, table.promises[id]? = some held ∧ held.future = none

structure Sound (table : Correlation ρ ο) : Prop where
  counted : table.counter = table.promises.length
  numbered : ∀ {id : Nat} {held : Promise ρ ο}, table.promises[id]? = some held → held.id = id
  untouched : ∀ {id : Nat} {held : Promise ρ ο}, table.promises[id]? = some held →
    held.future = none → held.completer = none
  waits_iff : ∀ {id promise : Nat}, table.waiting.lookup id = some promise ↔
    promise = id ∧ table.Waits id

variable {table next : Correlation ρ ο} {request : ρ} {outcome : ο} {id promise : Nat}
  {held : Promise ρ ο} {done : List (Settlement ο)}

theorem sound_empty : ({} : Correlation ρ ο).Sound where
  counted := rfl
  numbered := by rintro _ _ ⟨⟩
  untouched := by rintro _ _ ⟨⟩
  waits_iff := by
    intro id promise
    constructor
    · rintro ⟨⟩
    · rintro ⟨-, held, ⟨⟩, -⟩

theorem future_eq_some :
    table.future id = some outcome ↔
      ∃ held, table.promises[id]? = some held ∧ held.future = some outcome :=
  Option.bind_eq_some_iff

/-- A request that was made either waits or has completed. -/
theorem waits_or_completed (made : id < table.promises.length) :
    table.Waits id ∨ ∃ outcome, table.future id = some outcome := by
  have there : table.promises[id]? = some table.promises[id] := List.getElem?_eq_getElem made
  rcases ended : table.promises[id].future with _ | outcome
  · exact .inl ⟨_, there, ended⟩
  · exact .inr ⟨outcome, future_eq_some.mpr ⟨_, there, ended⟩⟩

theorem Waits.future_eq_none (waits : table.Waits id) : table.future id = none := by
  obtain ⟨held, there, waits⟩ := waits
  rw [future, there, Option.bind_some, waits]

theorem Waits.lt (waits : table.Waits id) : id < table.promises.length := by
  obtain ⟨held, there, -⟩ := waits
  exact (List.getElem?_eq_some_iff.mp there).1

theorem getElem?_concat_eq_some {α : Type} {list : List α} {last x : α} {i : Nat} :
    (list ++ [last])[i]? = some x ↔ list[i]? = some x ∨ i = list.length ∧ x = last := by
  rw [List.getElem?_append]
  split_ifs with inside
  · simp [Nat.ne_of_lt inside]
  · rw [List.getElem?_eq_none (Nat.le_of_not_lt inside), List.getElem?_singleton]
    split_ifs with first
    · have same : i = list.length := by omega
      simp [same, eq_comm]
    · have differ : i ≠ list.length := by omega
      simp [differ]

/-! ## What the operations keep -/

theorem waits_concat_iff {counter : Nat} {waiting : HashMap Nat Nat} {last : Promise ρ ο} :
    Waits id ⟨counter, waiting, table.promises ++ [last]⟩ ↔
      table.Waits id ∨ id = table.promises.length ∧ last.future = none := by
  simp only [Waits, getElem?_concat_eq_some, or_and_right, exists_or]
  refine or_congr_right ⟨?_, ?_⟩
  · rintro ⟨held, ⟨same, rfl⟩, waits⟩
    exact ⟨same, waits⟩
  · rintro ⟨same, waits⟩
    exact ⟨last, ⟨same, rfl⟩, waits⟩

theorem Sound.not_waits_counter (sound : table.Sound) : ¬ table.Waits table.counter := by
  intro waits
  have inside := waits.lt
  rw [sound.counted] at inside
  exact absurd inside (Nat.lt_irrefl _)

theorem Sound.register (sound : table.Sound) (request : ρ) : (table.register request).Sound where
  counted := by
    rw [Correlation.register, List.length_append, sound.counted]
    rfl
  numbered := by
    intro id held there
    rcases getElem?_concat_eq_some.mp there with there | ⟨rfl, rfl⟩
    · exact sound.numbered there
    · exact sound.counted
  untouched := by
    intro id held there waits
    rcases getElem?_concat_eq_some.mp there with there | ⟨rfl, rfl⟩
    · exact sound.untouched there waits
    · rfl
  waits_iff := by
    intro id promise
    rw [Correlation.register, HashMap.lookup_insert_eq_some, waits_concat_iff, sound.waits_iff]
    constructor
    · rintro (⟨rfl, rfl⟩ | ⟨-, rfl, waits⟩)
      · exact ⟨sound.counted.symm, .inr ⟨sound.counted, rfl⟩⟩
      · exact ⟨rfl, .inl waits⟩
    · rintro ⟨rfl, waits | ⟨rfl, -⟩⟩
      · refine .inr ⟨?_, rfl, waits⟩
        rintro rfl
        exact sound.not_waits_counter waits
      · exact .inl ⟨sound.counted.symm, rfl⟩

theorem Sound.refuse (sound : table.Sound) (request : ρ) (outcome : ο) :
    (table.refuse request outcome).1.Sound where
  counted := by
    rw [Correlation.refuse, List.length_append, sound.counted]
    rfl
  numbered := by
    intro id held there
    rcases getElem?_concat_eq_some.mp there with there | ⟨rfl, rfl⟩
    · exact sound.numbered there
    · exact sound.counted
  untouched := by
    intro id held there waits
    rcases getElem?_concat_eq_some.mp there with there | ⟨rfl, rfl⟩
    · exact sound.untouched there waits
    · cases waits
  waits_iff := by
    intro id promise
    rw [Correlation.refuse, waits_concat_iff, sound.waits_iff]
    refine and_congr_right fun _ => (or_iff_left ?_).symm
    rintro ⟨-, ⟨⟩⟩

theorem future_register (id : Nat) : (table.register request).future id = table.future id := by
  apply Option.ext
  intro outcome
  rw [future_eq_some, future_eq_some]
  constructor
  · rintro ⟨held, there, told⟩
    rcases getElem?_concat_eq_some.mp there with there | ⟨-, rfl⟩
    · exact ⟨held, there, told⟩
    · cases told
  · rintro ⟨held, there, told⟩
    exact ⟨held, getElem?_concat_eq_some.mpr (.inl there), told⟩

theorem Sound.future_refuse_eq_some (sound : table.Sound) {result : ο} :
    (table.refuse request outcome).1.future id = some result ↔
      table.future id = some result ∨ id = table.counter ∧ result = outcome := by
  rw [future_eq_some, future_eq_some, sound.counted]
  constructor
  · rintro ⟨held, there, told⟩
    rcases getElem?_concat_eq_some.mp there with there | ⟨rfl, rfl⟩
    · exact .inl ⟨held, there, told⟩
    · exact .inr ⟨rfl, (Option.some.inj told).symm⟩
  · rintro (⟨held, there, told⟩ | ⟨rfl, rfl⟩)
    · exact ⟨held, getElem?_concat_eq_some.mpr (.inl there), told⟩
    · exact ⟨_, getElem?_concat_eq_some.mpr (.inr ⟨rfl, rfl⟩), rfl⟩

/-! ## What completes -/

/-- Exactly these futures have completed on the way from one table to the next, each with
its outcome. -/
structure Settles (done : List (Nat × ο)) (table next : Correlation ρ ο) : Prop where
  sound : next.Sound
  once : (done.map Prod.fst).Nodup
  open_before : ∀ {id outcome}, (id, outcome) ∈ done → table.future id = none
  future_iff : ∀ {id outcome}, next.future id = some outcome ↔
    table.future id = some outcome ∨ (id, outcome) ∈ done

theorem Settles.refl (sound : table.Sound) : Settles [] table table where
  sound := sound
  once := List.nodup_nil
  open_before := by rintro _ _ ⟨⟩
  future_iff := by simp

theorem Settles.trans {done done' : List (Nat × ο)} {last : Correlation ρ ο}
    (first : Settles done table next) (second : Settles done' next last) :
    Settles (done ++ done') table last where
  sound := second.sound
  once := by
    rw [List.map_append, List.nodup_append]
    refine ⟨first.once, second.once, ?_⟩
    rintro id before _ behind rfl
    obtain ⟨⟨_, outcome⟩, ended, rfl⟩ := List.mem_map.mp before
    obtain ⟨⟨_, result⟩, later, same⟩ := List.mem_map.mp behind
    cases same
    have told := first.future_iff.mpr (.inr ended)
    rw [second.open_before later] at told
    cases told
  open_before := by
    intro id outcome member
    rcases List.mem_append.mp member with before | behind
    · exact first.open_before before
    · rw [Option.eq_none_iff_forall_ne_some]
      intro result told
      have later := second.open_before behind
      rw [first.future_iff.mpr (.inl told)] at later
      cases later
  future_iff := by
    intro id outcome
    rw [second.future_iff, first.future_iff, List.mem_append, or_assoc]

theorem Settles.register (sound : table.Sound) (request : ρ) :
    Settles [] table (table.register request) where
  sound := sound.register request
  once := List.nodup_nil
  open_before := by rintro _ _ ⟨⟩
  future_iff := by simp [future_register]

theorem Settles.refuse (sound : table.Sound) (request : ρ) (outcome : ο) :
    Settles [(table.counter, outcome)] table (table.refuse request outcome).1 where
  sound := sound.refuse request outcome
  once := List.nodup_singleton _
  open_before := by
    intro id result member
    cases List.mem_singleton.mp member
    rw [future, sound.counted, List.getElem?_eq_none (Nat.le_refl _), Option.bind_none]
  future_iff := by
    intro id result
    rw [sound.future_refuse_eq_some, List.mem_singleton, Prod.mk.injEq]

theorem getElem?_set_eq_some {α : Type} {list : List α} {x y old : α} {i j : Nat}
    (there : list[i]? = some old) :
    (list.set i x)[j]? = some y ↔ j = i ∧ y = x ∨ j ≠ i ∧ list[j]? = some y := by
  rw [List.getElem?_set]
  by_cases same : i = j
  · subst same
    rw [if_pos rfl, if_pos (List.getElem?_eq_some_iff.mp there).1, Option.some.injEq, eq_comm]
    simp
  · simp [same, Ne.symm same]

/-- One request that waited is out of the map, and its future has completed. -/
theorem Settles.one (sound : table.Sound) (there : table.promises[id]? = some held)
    (waits : held.future = none) {told : Promise ρ ο} (same : told.id = id)
    (ended : told.future = some outcome) :
    Settles [(id, outcome)] table
      ⟨table.counter, table.waiting.erase id, table.promises.set id told⟩ where
  sound := {
    counted := by rw [List.length_set, sound.counted]
    numbered := by
      intro other promise found
      rcases (getElem?_set_eq_some there).mp found with ⟨rfl, rfl⟩ | ⟨-, found⟩
      · exact same
      · exact sound.numbered found
    untouched := by
      intro other promise found open'
      rcases (getElem?_set_eq_some there).mp found with ⟨rfl, rfl⟩ | ⟨-, found⟩
      · cases ended.symm.trans open'
      · exact sound.untouched found open'
    waits_iff := by
      intro other promise
      rw [HashMap.lookup_erase_eq_some, sound.waits_iff]
      simp only [Waits, getElem?_set_eq_some there]
      constructor
      · rintro ⟨different, rfl, promise, found, open'⟩
        exact ⟨rfl, promise, .inr ⟨different, found⟩, open'⟩
      · rintro ⟨rfl, promise, ⟨rfl, rfl⟩ | ⟨different, found⟩, open'⟩
        · cases ended.symm.trans open'
        · exact ⟨different, rfl, promise, found, open'⟩ }
  once := List.nodup_singleton _
  open_before := by
    intro other result member
    cases List.mem_singleton.mp member
    exact Waits.future_eq_none ⟨held, there, waits⟩
  future_iff := by
    intro other result
    rw [future_eq_some, future_eq_some, List.mem_singleton, Prod.mk.injEq]
    simp only [getElem?_set_eq_some there]
    constructor
    · rintro ⟨promise, ⟨rfl, rfl⟩ | ⟨-, found⟩, result'⟩
      · exact .inr ⟨rfl, Option.some.inj (result'.symm.trans ended)⟩
      · exact .inl ⟨promise, found, result'⟩
    · rintro (⟨promise, found, result'⟩ | ⟨rfl, rfl⟩)
      · refine ⟨promise, .inr ⟨?_, found⟩, result'⟩
        rintro rfl
        cases Option.some.inj (there.symm.trans found)
        cases waits.symm.trans result'
      · exact ⟨told, .inl ⟨rfl, rfl⟩, ended⟩

/-- An answer completes the request with its number if that still waits, and nothing else. -/
theorem answer_spec (sound : table.Sound) (id : Nat) (outcome : ο) :
    ∃ done, Settles done table (table.answer id outcome).1 ∧
      (table.answer id outcome).2 = done.map Settlement.of ∧
      (∀ entry ∈ done, entry = (id, outcome)) ∧ (table.Waits id → (id, outcome) ∈ done) := by
  rcases known : table.waiting.lookup id with _ | promise
  · rw [answer, known]
    refine ⟨[], .refl sound, rfl, by rintro _ ⟨⟩, fun waits => ?_⟩
    cases known.symm.trans (sound.waits_iff.mpr ⟨rfl, waits⟩)
  · obtain ⟨rfl, held, there, waits⟩ := sound.waits_iff.mp known
    have untouched := sound.untouched there waits
    have numbered := sound.numbered there
    have completed : table.answer promise outcome =
        (⟨table.counter, table.waiting.erase promise,
          table.promises.set promise (held.settle outcome)⟩, [.settled promise outcome]) := by
      simp only [answer, known, complete, there, untouched, waits, numbered,
        Option.isSome_none, Bool.false_eq_true, if_false]
    rw [completed]
    refine ⟨[(promise, outcome)], ?_, rfl, ?_, fun _ => List.mem_singleton_self _⟩
    · exact .one sound there waits numbered (Promise.future_settle waits)
    · intro entry member
      exact List.mem_singleton.mp member

theorem expire_spec (sound : table.Sound) (id : Nat) (outcome : ο) :
    ∃ done, Settles done table (table.expire id outcome).1 ∧
      (table.expire id outcome).2 = done.map Settlement.of ∧
      ∀ entry ∈ done, entry = (id, outcome) := by
  rcases there : table.promises[id]? with _ | held
  · rw [expire, there]
    exact ⟨[], .refl sound, rfl, by rintro _ ⟨⟩⟩
  · have numbered := sound.numbered there
    rcases waits : held.future with _ | result
    · have expired : table.expire id outcome =
          (⟨table.counter, table.waiting.erase id,
            table.promises.set id { held with future := some outcome }⟩,
            [.settled id outcome]) := by
        simp only [expire, there, waits, numbered, Option.isSome_none, Bool.false_eq_true,
          if_false]
      rw [expired]
      refine ⟨[(id, outcome)], .one sound there waits numbered rfl, rfl, ?_⟩
      intro entry member
      exact List.mem_singleton.mp member
    · have gone : table.expire id outcome = (table, []) := by
        simp only [expire, there, waits, Option.isSome_some, if_true]
      rw [gone]
      exact ⟨[], .refl sound, rfl, by rintro _ ⟨⟩⟩

/-- Completers that wait are completed one after the other, and no other promise changes. -/
theorem failEach_spec {left : List Nat} (distinct : left.Nodup)
    (waiting : ∀ id ∈ left, ∃ held, table.promises[id]? = some held ∧ held.id = id ∧ held.Open) :
    (failEach outcome left table).2 = (left.map (·, outcome)).map Settlement.of ∧
      (failEach outcome left table).1.counter = table.counter ∧
      (failEach outcome left table).1.waiting = table.waiting ∧
      (failEach outcome left table).1.promises.length = table.promises.length ∧
      ∀ id, (failEach outcome left table).1.promises[id]? =
        if id ∈ left then table.promises[id]?.map (Promise.settle outcome)
        else table.promises[id]? := by
  induction left generalizing table with
  | nil => simp [failEach]
  | cons id left ih =>
      obtain ⟨absent, distinct⟩ := List.nodup_cons.mp distinct
      obtain ⟨held, there, numbered, untouched, waits⟩ := waiting id List.mem_cons_self
      have open' : table.isCompleted id = false := by
        rw [isCompleted, there, Option.any_some, untouched]
        rfl
      have completed : table.complete id outcome =
          ({ table with promises := table.promises.set id (held.settle outcome) },
            [.settled id outcome]) := by
        simp only [complete, there, untouched, waits, numbered, Option.isSome_none,
          Bool.false_eq_true, if_false]
      have others : ∀ other ∈ left, ∃ held',
          (table.promises.set id (held.settle outcome))[other]? = some held' ∧
            held'.id = other ∧ held'.Open := by
        intro other member
        obtain ⟨held', there', rest⟩ := waiting other (List.mem_cons_of_mem _ member)
        refine ⟨held', (getElem?_set_eq_some there).mpr (.inr ⟨?_, there'⟩), rest⟩
        rintro rfl
        exact absent member
      have first : failEach outcome (id :: left) table =
          ((failEach outcome left
              { table with promises := table.promises.set id (held.settle outcome) }).1,
            .settled id outcome :: (failEach outcome left
              { table with promises := table.promises.set id (held.settle outcome) }).2) := by
        rw [failEach, if_neg (by rw [open']; exact Bool.false_ne_true), completed]
        rfl
      obtain ⟨notices, counter, map, length, promises⟩ :=
        @ih { table with promises := table.promises.set id (held.settle outcome) } distinct others
      rw [first]
      refine ⟨?_, counter, map, ?_, ?_⟩
      · rw [notices]
        rfl
      · rw [length, List.length_set]
      · intro other
        rw [promises other]
        by_cases same : other = id
        · subst same
          rw [if_neg absent, if_pos List.mem_cons_self, there,
            List.getElem?_set_self (List.getElem?_eq_some_iff.mp there).1]
          rfl
        · simp only [List.getElem?_set_ne (Ne.symm same), List.mem_cons, same, false_or]

/-- The numbers of the requests that wait, as the map has them. -/
theorem waitingIds_spec (sound : table.Sound) :
    (table.waiting.entries.reverse.map Sigma.snd).Nodup ∧
      ∀ id, id ∈ table.waiting.entries.reverse.map Sigma.snd ↔ table.Waits id := by
  constructor
  · have keys : table.waiting.entries.map Sigma.snd = table.waiting.keys := by
      rw [AList.keys, List.keys]
      refine List.map_congr_left fun ⟨key, promise⟩ member => ?_
      exact (sound.waits_iff.mp (AList.mem_lookup_iff.mpr member)).1
    rw [List.map_reverse, List.nodup_reverse, keys]
    exact table.waiting.keys_nodup
  · intro id
    rw [List.mem_map]
    constructor
    · rintro ⟨⟨key, promise⟩, member, rfl⟩
      have found := AList.mem_lookup_iff.mpr (List.mem_reverse.mp member)
      obtain ⟨rfl, waits⟩ := sound.waits_iff.mp found
      exact waits
    · intro waits
      have found := sound.waits_iff.mpr ⟨rfl, waits⟩
      exact ⟨⟨id, id⟩, List.mem_reverse.mpr (AList.mem_lookup_iff.mp found), rfl⟩

theorem failAll_eq (sound : table.Sound) (outcome : ο) :
    ∃ ids : List Nat, ids.Nodup ∧ (∀ id, id ∈ ids ↔ table.Waits id) ∧
      (table.failAll outcome).2 = (ids.map (·, outcome)).map Settlement.of ∧
      (table.failAll outcome).1.counter = table.counter ∧
      (table.failAll outcome).1.waiting = ∅ ∧
      (table.failAll outcome).1.promises.length = table.promises.length ∧
      ∀ id, (table.failAll outcome).1.promises[id]? =
        if id ∈ ids then table.promises[id]?.map (Promise.settle outcome)
        else table.promises[id]? := by
  obtain ⟨distinct, members⟩ := waitingIds_spec sound
  refine ⟨_, distinct, members,
    @failEach_spec ρ ο { table with waiting := ∅ } outcome _ distinct ?_⟩
  intro id member
  obtain ⟨held, there, waits⟩ := (members id).mp member
  exact ⟨held, there, sound.numbered there, sound.untouched there waits, waits⟩

/-- What was open is settled, and what had ended is as it was. -/
theorem getElem?_failAll_eq_some (sound : table.Sound) :
    (table.failAll outcome).1.promises[id]? = some held ↔
      (∃ old, table.promises[id]? = some old ∧ old.future = none ∧ old.settle outcome = held) ∨
        table.promises[id]? = some held ∧ ∃ result, held.future = some result := by
  obtain ⟨ids, -, members, -, -, -, -, promises⟩ := failAll_eq sound outcome
  rw [promises id]
  split_ifs with waits
  · obtain ⟨old, there, waits⟩ := (members id).mp waits
    simp only [there, Option.map_some, Option.some.injEq]
    constructor
    · rintro rfl
      exact .inl ⟨old, rfl, waits, rfl⟩
    · rintro (⟨_, rfl, -, rfl⟩ | ⟨rfl, result, ended⟩)
      · rfl
      · cases waits.symm.trans ended
  · have ended : ∀ {old : Promise ρ ο}, table.promises[id]? = some old → old.future ≠ none :=
      fun there open' => waits ((members id).mpr ⟨_, there, open'⟩)
    constructor
    · intro there
      exact .inr ⟨there, Option.ne_none_iff_exists'.mp (ended there)⟩
    · rintro (⟨old, there, open', -⟩ | ⟨there, -⟩)
      · exact absurd open' (ended there)
      · exact there

theorem not_waits_failAll (sound : table.Sound) (id : Nat) :
    ¬ (table.failAll outcome).1.Waits id := by
  rintro ⟨held, there, waits⟩
  rcases (getElem?_failAll_eq_some sound).mp there with ⟨old, -, open', rfl⟩ | ⟨-, result, ended⟩
  · cases (Promise.future_settle open').symm.trans waits
  · cases waits.symm.trans ended

theorem Sound.failAll (sound : table.Sound) (outcome : ο) : (table.failAll outcome).1.Sound := by
  obtain ⟨ids, -, -, -, counter, map, length, -⟩ := failAll_eq sound outcome
  exact {
    counted := by rw [counter, length, sound.counted]
    numbered := by
      intro id held found
      rcases (getElem?_failAll_eq_some sound).mp found with ⟨old, there, -, rfl⟩ | ⟨there, -⟩
      · have numbered := sound.numbered there
        exact numbered
      · exact sound.numbered there
    untouched := fun there waits => absurd ⟨_, there, waits⟩ (not_waits_failAll sound _)
    waits_iff := by
      intro id promise
      rw [map]
      constructor
      · rintro ⟨⟩
      · rintro ⟨-, waits⟩
        exact absurd waits (not_waits_failAll sound id) }

/-- The loss of the channel completes every request that waits, and leaves none. -/
theorem failAll_spec (sound : table.Sound) (outcome : ο) :
    ∃ done, Settles done table (table.failAll outcome).1 ∧
      (table.failAll outcome).2 = done.map Settlement.of ∧ ∀ entry ∈ done, entry.2 = outcome := by
  obtain ⟨ids, distinct, members, notices, -, -, -, -⟩ := failAll_eq sound outcome
  refine ⟨ids.map (·, outcome), ?_, notices, ?_⟩
  · exact {
      sound := sound.failAll outcome
      once := by
        rw [List.map_map]
        exact (List.map_id _).symm ▸ distinct
      open_before := by
        intro id result member
        obtain ⟨_, waits, same⟩ := List.mem_map.mp member
        cases same
        exact ((members _).mp waits).future_eq_none
      future_iff := by
        intro id result
        rw [future_eq_some, future_eq_some]
        simp only [getElem?_failAll_eq_some sound, List.mem_map, Prod.mk.injEq, members]
        constructor
        · rintro ⟨held, ⟨old, there, open', rfl⟩ | ⟨there, -⟩, told⟩
          · have same := Option.some.inj ((Promise.future_settle open').symm.trans told)
            exact .inr ⟨id, ⟨old, there, open'⟩, rfl, same⟩
          · exact .inl ⟨held, there, told⟩
        · rintro (⟨held, there, told⟩ | ⟨_, ⟨old, there, open'⟩, rfl, rfl⟩)
          · exact ⟨held, .inr ⟨there, result, told⟩, told⟩
          · exact ⟨_, .inl ⟨old, there, open', rfl⟩, Promise.future_settle open'⟩ }
  · intro entry member
    obtain ⟨id, -, rfl⟩ := List.mem_map.mp member
    rfl

theorem counter_failAll (sound : table.Sound) (outcome : ο) :
    (table.failAll outcome).1.counter = table.counter := by
  obtain ⟨ids, -, -, -, counter, -⟩ := failAll_eq sound outcome
  exact counter

theorem counter_answer (id : Nat) (outcome : ο) :
    (table.answer id outcome).1.counter = table.counter := by
  rw [answer]
  split
  · rfl
  · rw [complete]
    split
    · rfl
    · split <;> rfl

theorem counter_expire (id : Nat) (outcome : ο) :
    (table.expire id outcome).1.counter = table.counter := by
  rw [expire]
  split
  · rfl
  · split <;> rfl

end Correlation

end Wire
