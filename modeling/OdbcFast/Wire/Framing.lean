import Mathlib.Data.List.Basic
import Mathlib.Tactic.Common

/-!
# Frames cut from a stream

A stream arrives in pieces that know nothing of its frames. A framing says how
long the first frame is as soon as enough of it is there; a reader holds back an
unfinished frame and cuts off the finished ones. The point of the development is
that the frames depend on the stream only: `feedAll_eq_drain` says that feeding
pieces one by one cuts what draining their concatenation cuts.
-/

namespace Wire

/-- How the length of the first frame is found. It is positive, and known from the
bytes that are there: what arrives later does not change it. -/
structure Framing (α : Type*) where
  size? : List α → Option Nat
  size_pos : ∀ {stream n}, size? stream = some n → 0 < n
  size_append : ∀ {stream n} (more : List α), size? stream = some n →
    size? (stream ++ more) = some n

namespace Framing

variable {α : Type*} (framing : Framing α) {stream pending frame part rest : List α}

/-- A list that is one frame, neither more nor less. -/
def IsFrame (frame : List α) : Prop := framing.size? frame = some frame.length

/-- The first frame is not finished: its length is unknown or not yet reached. -/
def Unfinished (stream : List α) : Prop := ∀ n, framing.size? stream = some n → stream.length < n

/-- The finished frames at the front of a stream and what is left behind them. -/
def drain (stream : List α) : List (List α) × List α :=
  match _found : framing.size? stream with
  | none => ([], stream)
  | some n =>
    if n ≤ stream.length then
      let (frames, left) := drain (stream.drop n)
      (stream.take n :: frames, left)
    else ([], stream)
termination_by stream.length
decreasing_by
  have := framing.size_pos _found
  rw [List.length_drop]
  omega

/-- Feeding pieces one by one, each behind what the last one left. -/
def feedAll (pending : List α) : List (List α) → List (List α) × List α
  | [] => ([], pending)
  | piece :: pieces =>
    let (frames, left) := framing.drain (pending ++ piece)
    let (later, left) := feedAll left pieces
    (frames ++ later, left)

variable {framing}

theorem drain_of_unfinished (waiting : framing.Unfinished stream) :
    framing.drain stream = ([], stream) := by
  rw [drain]
  split
  · rfl
  · next n found =>
      have short := waiting n found
      rw [if_neg (by omega)]

theorem drain_of_size {n : Nat} (found : framing.size? stream = some n)
    (there : n ≤ stream.length) :
    framing.drain stream = (stream.take n :: (framing.drain (stream.drop n)).1,
      (framing.drain (stream.drop n)).2) := by
  rw [drain]
  split
  · next missing => rw [found] at missing; cases missing
  · next m found' =>
      obtain rfl : n = m := Option.some.inj (found.symm.trans found')
      rw [if_pos there]

theorem drain_frame_append (whole : framing.IsFrame frame) (rest : List α) :
    framing.drain (frame ++ rest) =
      (frame :: (framing.drain rest).1, (framing.drain rest).2) := by
  have size := framing.size_append rest whole
  rw [drain_of_size size (by simp), List.take_left, List.drop_left]

/-- A stream is unfinished or starts with a frame. -/
theorem unfinished_or_isFrame (framing : Framing α) (stream : List α) :
    framing.Unfinished stream ∨
      ∃ n, framing.size? stream = some n ∧ n ≤ stream.length ∧ 0 < n := by
  by_cases waiting : framing.Unfinished stream
  · exact .inl waiting
  · rw [Unfinished, not_forall] at waiting
    obtain ⟨n, waiting⟩ := waiting
    obtain ⟨found, there⟩ := Classical.not_imp.mp waiting
    exact .inr ⟨n, found, Nat.le_of_not_lt there, framing.size_pos found⟩

/-- Induction along draining: a stream is unfinished, or a frame is cut from its front. -/
@[elab_as_elim]
theorem drain_induction (framing : Framing α) {motive : List α → Prop}
    (unfinished : ∀ stream, framing.Unfinished stream → motive stream)
    (frame : ∀ stream n, framing.size? stream = some n → n ≤ stream.length →
      motive (stream.drop n) → motive stream)
    (stream : List α) : motive stream := by
  induction measure : stream.length using Nat.strongRecOn generalizing stream with
  | ind length ih =>
      rcases unfinished_or_isFrame framing stream with waiting | ⟨n, found, there, pos⟩
      · exact unfinished stream waiting
      · refine frame stream n found there ?_
        exact ih _ (by rw [List.length_drop]; omega) (stream.drop n) rfl

/-- Draining loses nothing. -/
theorem flatten_drain (framing : Framing α) (stream : List α) :
    (framing.drain stream).1.flatten ++ (framing.drain stream).2 = stream := by
  induction stream using framing.drain_induction with
  | unfinished stream waiting =>
      rw [drain_of_unfinished waiting, List.flatten_nil, List.nil_append]
  | frame stream n found there rest =>
      rw [drain_of_size found there, List.flatten_cons, List.append_assoc, rest,
        List.take_append_drop]

theorem length_drain_le (framing : Framing α) (stream : List α) :
    (framing.drain stream).2.length ≤ stream.length := by
  have whole := congrArg List.length (framing.flatten_drain stream)
  rw [List.length_append] at whole
  omega

/-- Draining leaves nothing finished behind. -/
theorem unfinished_drain (framing : Framing α) (stream : List α) :
    framing.Unfinished (framing.drain stream).2 := by
  induction stream using framing.drain_induction with
  | unfinished stream waiting => rwa [drain_of_unfinished waiting]
  | frame stream n found there rest => rwa [drain_of_size found there]

/-- Draining a longer stream is draining its front, then what that left with the rest. -/
theorem drain_append (framing : Framing α) (stream more : List α) :
    framing.drain (stream ++ more) =
      ((framing.drain stream).1 ++ (framing.drain ((framing.drain stream).2 ++ more)).1,
        (framing.drain ((framing.drain stream).2 ++ more)).2) := by
  induction stream using framing.drain_induction with
  | unfinished stream waiting => rw [drain_of_unfinished waiting, List.nil_append]
  | frame stream n found there rest =>
      have whole := framing.size_append more found
      rw [drain_of_size whole (by rw [List.length_append]; omega), drain_of_size found there,
        List.take_append_of_le_length there, List.drop_append_of_le_length there, rest,
        List.cons_append]

/-- The frames do not depend on how the stream was cut into pieces. -/
theorem feedAll_eq_drain (waiting : framing.Unfinished pending) (pieces : List (List α)) :
    framing.feedAll pending pieces = framing.drain (pending ++ pieces.flatten) := by
  induction pieces generalizing pending with
  | nil => rw [feedAll, List.flatten_nil, List.append_nil, drain_of_unfinished waiting]
  | cons piece pieces ih =>
      have later := ih (framing.unfinished_drain (pending ++ piece))
      rw [feedAll, List.flatten_cons, ← List.append_assoc,
        drain_append framing (pending ++ piece)]
      simp only [later]

/-- Whole frames and an unfinished rest are told apart. -/
theorem drain_frames_append {frames : List (List α)}
    (whole : ∀ frame ∈ frames, framing.IsFrame frame) (waiting : framing.Unfinished rest) :
    framing.drain (frames.flatten ++ rest) = (frames, rest) := by
  induction frames with
  | nil => rw [List.flatten_nil, List.nil_append, drain_of_unfinished waiting]
  | cons frame frames ih =>
      obtain ⟨first, whole⟩ := List.forall_mem_cons.mp whole
      rw [List.flatten_cons, List.append_assoc, drain_frame_append first, ih whole]

/-- A proper beginning of a frame is unfinished. -/
theorem unfinished_of_isFrame_append (whole : framing.IsFrame (part ++ rest))
    (proper : rest ≠ []) : framing.Unfinished part := by
  intro n found
  have size : framing.size? (part ++ rest) = some n := framing.size_append rest found
  have missing := List.length_pos_of_ne_nil proper
  rw [IsFrame, size, Option.some.injEq, List.length_append] at whole
  omega

/-- The empty stream holds no frame: nothing is a beginning of every frame. -/
theorem unfinished_nil (framing : Framing α) : framing.Unfinished [] := by
  intro n found
  exact framing.size_pos found

end Framing

end Wire
