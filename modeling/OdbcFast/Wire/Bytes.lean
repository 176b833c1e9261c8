import Mathlib.Algebra.Order.Ring.Int
import Mathlib.Data.List.Forall2
import Mathlib.Tactic.Common

/-!
# Byte strings, little-endian words and pieces at an offset

A wire format is read by two kinds of operation: a fixed-width little-endian
word at an offset, and a run of bytes at an offset. `OccursAt piece offset whole`
says that `piece` stands in `whole` at `offset`; it splits over `++`, so a decoder
that walks an offset through a buffer can be followed field by field without
re-associating the buffer around the current position.

Words are natural numbers with an explicit width in bytes. Encoding keeps the
value modulo `256 ^ width`, exactly as a machine conversion does.
-/

namespace Wire

abbrev Bytes := List UInt8

/-- The `width` little-endian bytes of a number, low byte first. -/
def toLeBytes : Nat → Nat → Bytes
  | 0, _ => []
  | width + 1, n => UInt8.ofNat n :: toLeBytes width (n / 256)

/-- The number whose little-endian bytes these are. -/
def ofLeBytes : Bytes → Nat
  | [] => 0
  | b :: bytes => b.toNat + 256 * ofLeBytes bytes

@[simp] theorem length_toLeBytes (width n : Nat) : (toLeBytes width n).length = width := by
  induction width generalizing n with
  | zero => rfl
  | succ width ih => simp [toLeBytes, ih]

theorem ofLeBytes_toLeBytes (width n : Nat) :
    ofLeBytes (toLeBytes width n) = n % 256 ^ width := by
  induction width generalizing n with
  | zero => simp [toLeBytes, ofLeBytes, Nat.mod_one]
  | succ width ih =>
      have low : (UInt8.ofNat n).toNat = n % 256 := UInt8.toNat_ofNat'
      rw [toLeBytes, ofLeBytes, ih, low, Nat.pow_succ', Nat.mod_mul]

/-- A number that fits its width is read back unchanged. -/
theorem ofLeBytes_toLeBytes_of_lt {width n : Nat} (fits : n < 256 ^ width) :
    ofLeBytes (toLeBytes width n) = n := by
  rw [ofLeBytes_toLeBytes, Nat.mod_eq_of_lt fits]

theorem ofLeBytes_lt (bytes : Bytes) : ofLeBytes bytes < 256 ^ bytes.length := by
  induction bytes with
  | nil => simp [ofLeBytes]
  | cons b bytes ih =>
      have byte : b.toNat < 256 := b.toNat_lt
      simp only [ofLeBytes, List.length_cons, Nat.pow_succ']
      omega

/-! ## Fallible steps -/

@[simp] theorem ok_bind {ε α β : Type} (a : α) (f : α → Except ε β) :
    ((Except.ok a : Except ε α) >>= f) = f a := rfl

@[simp] theorem error_bind {ε α β : Type} (e : ε) (f : α → Except ε β) :
    ((Except.error e : Except ε α) >>= f) = .error e := rfl

/-- A sequence of two steps succeeds exactly when both do. -/
theorem bind_eq_ok {ε α β : Type} {x : Except ε α} {f : α → Except ε β} {b : β} :
    (x >>= f) = .ok b ↔ ∃ a, x = .ok a ∧ f a = .ok b := by
  cases x with
  | error e => simp
  | ok a => simp

theorem map_eq_ok {ε α β : Type} {x : Except ε α} {f : α → β} {b : β} :
    x.map f = .ok b ↔ ∃ a, x = .ok a ∧ f a = b := by
  cases x with
  | error e => simp [Except.map]
  | ok a => simp [Except.map]

/-- A loop succeeds exactly when every turn does, and collects their results. -/
theorem mapM_eq_ok_iff {ε α β : Type} {f : α → Except ε β} {items : List α} {results : List β} :
    items.mapM f = .ok results ↔ List.Forall₂ (fun a b => f a = .ok b) items results := by
  induction items generalizing results with
  | nil =>
      rw [List.mapM_nil, List.forall₂_nil_left_iff]
      exact (Except.ok.injEq _ _).to_iff.trans eq_comm
  | cons a items ih =>
      rw [List.mapM_cons, bind_eq_ok, List.forall₂_cons_left_iff]
      simp only [bind_eq_ok, ih]
      constructor
      · rintro ⟨b, head, bs, tail, same⟩
        exact ⟨b, bs, head, tail, (Except.ok.inj same).symm⟩
      · rintro ⟨b, bs, head, tail, rfl⟩
        exact ⟨b, head, bs, tail, rfl⟩

theorem mapM_eq_ok {ε α β : Type} {f : α → Except ε β} {g : α → β} {items : List α}
    (each : ∀ a ∈ items, f a = .ok (g a)) : items.mapM f = .ok (items.map g) :=
  mapM_eq_ok_iff.mpr (List.forall₂_map_right_iff.mpr (List.forall₂_same.mpr each))

/-- A loop that succeeds has succeeded in every turn. -/
theorem exists_of_mem_mapM_eq_ok {ε α β : Type} {f : α → Except ε β} {items : List α}
    {results : List β} (ran : items.mapM f = .ok results) {b : β} (member : b ∈ results) :
    ∃ a ∈ items, f a = .ok b := by
  rw [mapM_eq_ok_iff] at ran
  induction ran with
  | nil => cases member
  | cons same _ ih =>
      rcases List.mem_cons.mp member with rfl | later
      · exact ⟨_, List.mem_cons_self, same⟩
      · obtain ⟨a, there, same⟩ := ih later
        exact ⟨a, List.mem_cons_of_mem _ there, same⟩

theorem exists_of_mapM_eq_ok {ε α β : Type} {f : α → Except ε β} {items : List α}
    {results : List β} (ran : items.mapM f = .ok results) {a : α} (member : a ∈ items) :
    ∃ b, f a = .ok b := by
  rw [mapM_eq_ok_iff] at ran
  induction ran with
  | nil => cases member
  | cons first _ ih =>
      rcases List.mem_cons.mp member with rfl | later
      · exact ⟨_, first⟩
      · exact ih later

/-- What a loop returns when the result of a turn is known. -/
theorem eq_map_of_mapM_eq_ok {ε α β : Type} {f : α → Except ε β} {g : α → β} {items : List α}
    {results : List β} (ran : items.mapM f = .ok results)
    (each : ∀ a b, f a = .ok b → b = g a) : results = items.map g := by
  rw [mapM_eq_ok_iff] at ran
  induction ran with
  | nil => rfl
  | cons first _ ih => rw [List.map_cons, each _ _ first, ih]

theorem map_range_getD {α : Type} (xs : List α) (d : α) :
    (List.range xs.length).map (fun r => xs.getD r d) = xs := by
  refine List.ext_getElem (by simp) fun i inside inside' => ?_
  simp [List.getD_eq_getElem?_getD, inside']

theorem zipWith_inj_left {α β γ : Type} {f g : α → β → γ} (xs : List α) (ys : List β) :
    List.zipWith f xs ys = List.zipWith g xs ys ↔
      ∀ pair ∈ xs.zip ys, f pair.1 pair.2 = g pair.1 pair.2 := by
  rw [← List.map_uncurry_zip_eq_zipWith, ← List.map_uncurry_zip_eq_zipWith, List.map_inj_left]
  rfl

theorem map_mapIdx {α β γ : Type} (f : Nat → α → β) (g : β → γ) (xs : List α) :
    (xs.mapIdx f).map g = xs.mapIdx fun index a => g (f index a) := by
  refine List.ext_getElem? fun i => ?_
  simp only [List.getElem?_map, List.getElem?_mapIdx, Option.map_map]
  rfl

theorem mapIdx_eq_map {α β : Type} (f : α → β) (xs : List α) :
    xs.mapIdx (fun _ a => f a) = xs.map f := by
  refine List.ext_getElem? fun i => ?_
  simp

/-- What a loop hands over that stops at the first failure, with how it ended. -/
def emit {ε α : Type} : List (Except ε α) → Except ε Unit × List α
  | [] => (.ok (), [])
  | .ok a :: rest => ((emit rest).1, a :: (emit rest).2)
  | .error e :: _ => (.error e, [])

theorem emit_of_mapM {ε α β : Type} {f : α → Except ε β} {items : List α} {results : List β}
    (each : items.mapM f = .ok results) : emit (items.map f) = (.ok (), results) := by
  rw [mapM_eq_ok_iff] at each
  induction each with
  | nil => rfl
  | cons head _ ih => rw [List.map_cons, head, emit, ih]

/-- Whatever the first computation returns, the second returns too. -/
def Keeps {ε α : Type} (x y : Except ε α) : Prop := ∀ a, x = .ok a → y = .ok a

namespace Keeps

variable {ε α β : Type}

theorem refl (x : Except ε α) : Keeps x x := fun _ read => read

theorem bind {x y : Except ε α} {f g : α → Except ε β} (first : Keeps x y)
    (next : ∀ a, Keeps (f a) (g a)) : Keeps (x >>= f) (y >>= g) := by
  intro b read
  obtain ⟨a, start, finish⟩ := bind_eq_ok.mp read
  rw [first a start, ok_bind]
  exact next a b finish

theorem ite {p : Prop} [Decidable p] {x y x' y' : Except ε α} (yes : Keeps x x')
    (no : Keeps y y') : Keeps (if p then x else y) (if p then x' else y') := by
  by_cases holds : p
  · rwa [if_pos holds, if_pos holds]
  · rwa [if_neg holds, if_neg holds]

end Keeps

/-! ## Pieces of a buffer -/

section Pieces

variable {α : Type*} {piece front back whole more : List α} {offset : Nat}

/-- `piece` stands in `whole` at `offset`. -/
def OccursAt (piece : List α) (offset : Nat) (whole : List α) : Prop :=
  ∃ front back, whole = front ++ (piece ++ back) ∧ front.length = offset

namespace OccursAt

theorem refl (piece : List α) : OccursAt piece 0 piece := ⟨[], [], by simp, rfl⟩

theorem le_length (h : OccursAt piece offset whole) :
    offset + piece.length ≤ whole.length := by
  obtain ⟨front, back, rfl, rfl⟩ := h
  simp only [List.length_append]
  omega

/-- The bytes found at the offset are the piece. -/
theorem take_drop (h : OccursAt piece offset whole) :
    (whole.drop offset).take piece.length = piece := by
  obtain ⟨front, back, rfl, rfl⟩ := h
  simp

theorem of_take_drop {n : Nat} (inside : offset + n ≤ whole.length) :
    OccursAt ((whole.drop offset).take n) offset whole := by
  refine ⟨whole.take offset, (whole.drop offset).drop n, ?_, ?_⟩
  · rw [List.take_append_drop, List.take_append_drop]
  · rw [List.length_take]
    omega

/-- Two adjacent fields are found one after the other. -/
theorem append_iff {left right : List α} :
    OccursAt (left ++ right) offset whole ↔
      OccursAt left offset whole ∧ OccursAt right (offset + left.length) whole := by
  constructor
  · rintro ⟨front, back, rfl, rfl⟩
    exact ⟨⟨front, right ++ back, by simp, rfl⟩,
      ⟨front ++ left, back, by simp, by simp⟩⟩
  · rintro ⟨⟨front, back, rfl, rfl⟩, front', back', same, length⟩
    have aligned : front ++ left = front' ∧ back = right ++ back' := by
      apply List.append_inj
      · simpa using same
      · simp [length]
    obtain ⟨rfl, rfl⟩ := aligned
    exact ⟨front, back', by simp, rfl⟩

/-- Bytes appended behind a buffer do not move what stands in it. -/
theorem append_right (h : OccursAt piece offset whole) (more : List α) :
    OccursAt piece offset (whole ++ more) := by
  obtain ⟨front, back, rfl, rfl⟩ := h
  exact ⟨front, back ++ more, by simp, rfl⟩

theorem self_append (piece more : List α) : OccursAt piece 0 (piece ++ more) :=
  (refl piece).append_right more

theorem cons_iff {a : α} {rest : List α} :
    OccursAt (a :: rest) offset whole ↔
      OccursAt [a] offset whole ∧ OccursAt rest (offset + 1) whole := by
  rw [← List.singleton_append]
  exact append_iff

theorem getElem? {a : α} (h : OccursAt [a] offset whole) : whole[offset]? = some a := by
  obtain ⟨front, back, rfl, rfl⟩ := h
  simp

end OccursAt

end Pieces

/-- The word of `width` bytes at an offset. Callers check the range first; a
read past the end sees only the bytes that are there. -/
def readLe (width : Nat) (buffer : Bytes) (offset : Nat) : Nat :=
  ofLeBytes ((buffer.drop offset).take width)

theorem OccursAt.readLe {width n offset : Nat} {buffer : Bytes}
    (h : OccursAt (toLeBytes width n) offset buffer) (fits : n < 256 ^ width) :
    readLe width buffer offset = n := by
  have bytes := h.take_drop
  rw [length_toLeBytes] at bytes
  rw [Wire.readLe, bytes, ofLeBytes_toLeBytes_of_lt fits]

/-- A word inside a buffer is the same word in every extension of the buffer. -/
theorem readLe_append {width offset : Nat} {buffer : Bytes} (more : Bytes)
    (inside : offset + width ≤ buffer.length) :
    readLe width (buffer ++ more) offset = readLe width buffer offset := by
  rw [readLe, readLe, List.drop_append_of_le_length (by omega),
    List.take_append_of_le_length (by rw [List.length_drop]; omega)]

end Wire
