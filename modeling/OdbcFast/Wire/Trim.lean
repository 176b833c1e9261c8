import Mathlib.Data.List.DropRight
import Mathlib.Data.List.TakeWhile
import Mathlib.Tactic.Common

/-!
# Trimming a list at both ends

What is trimmed off is the longest stretch at either end that has a property. What is left is
bare: neither its first element nor its last has it. A list is its bare middle between two
stretches in one way only, unless nothing is bare.
-/

namespace Wire

variable {α : Type} {p : α → Bool}

/-- The list without the elements at its ends that have the property. -/
def trimWith (p : α → Bool) (list : List α) : List α :=
  ((list.dropWhile p).reverse.dropWhile p).reverse

def Bare (p : α → Bool) (list : List α) : Prop :=
  (∀ x, list.head? = some x → p x = false) ∧ ∀ x, list.getLast? = some x → p x = false

theorem dropWhile_of_head? {list : List α} (stops : ∀ x, list.head? = some x → p x = false) :
    list.dropWhile p = list := by
  cases list with
  | nil => rfl
  | cons x list => exact List.dropWhile_cons_of_neg (by simp [stops x rfl])

theorem trimWith_of_bare {list : List α} (bare : Bare p list) : trimWith p list = list := by
  have last : ∀ x, list.reverse.head? = some x → p x = false := by
    intro x
    rw [List.head?_reverse]
    exact bare.2 x
  rw [trimWith, dropWhile_of_head? bare.1, dropWhile_of_head? last, List.reverse_reverse]

theorem trimWith_append {front back : List α} (list : List α) (first : ∀ x ∈ front, p x = true)
    (last : ∀ x ∈ back, p x = true) : trimWith p (front ++ list ++ back) = trimWith p list := by
  have back' : ∀ x ∈ back.reverse, p x = true := fun x member => last x (List.mem_reverse.mp member)
  rw [trimWith, trimWith, List.append_assoc, List.dropWhile_append_of_pos first,
    List.dropWhile_append]
  split_ifs with empty
  · rw [List.dropWhile_eq_nil_iff.mpr last, List.isEmpty_iff.mp empty]
  · rw [List.reverse_append, List.dropWhile_append_of_pos back']

theorem bare_trimWith (list : List α) : Bare p (trimWith p list) := by
  constructor
  · intro x head
    have rest : trimWith p list ++ ((list.dropWhile p).reverse.takeWhile p).reverse =
        list.dropWhile p := by
      rw [trimWith, ← List.reverse_append, List.takeWhile_append_dropWhile, List.reverse_reverse]
    have stops := List.head?_dropWhile_not p list
    rw [← rest, List.head?_append, head] at stops
    simpa using stops
  · intro x last
    rw [trimWith, List.getLast?_reverse] at last
    have stops := List.head?_dropWhile_not p (list.dropWhile p).reverse
    rw [last] at stops
    simpa using stops

/-- What is trimmed off at either end. -/
theorem exists_trimWith (p : α → Bool) (list : List α) :
    ∃ front back, list = front ++ trimWith p list ++ back ∧ (∀ x ∈ front, p x = true) ∧
      ∀ x ∈ back, p x = true := by
  refine ⟨list.takeWhile p, ((list.dropWhile p).reverse.takeWhile p).reverse, ?_, ?_, ?_⟩
  · rw [trimWith, List.append_assoc, ← List.reverse_append, List.takeWhile_append_dropWhile,
      List.reverse_reverse, List.takeWhile_append_dropWhile]
  · exact fun x member => List.mem_takeWhile_imp member
  · exact fun x member => List.mem_takeWhile_imp (List.mem_reverse.mp member)

theorem length_trimWith_le (p : α → Bool) (list : List α) :
    (trimWith p list).length ≤ list.length := by
  obtain ⟨front, back, whole, -, -⟩ := exists_trimWith p list
  have sum := congrArg List.length whole
  rw [List.length_append, List.length_append] at sum
  omega

/-- What stays as long as it was stays as it was. -/
theorem trimWith_of_length_le {list : List α} (long : list.length ≤ (trimWith p list).length) :
    trimWith p list = list := by
  obtain ⟨front, back, whole, -, -⟩ := exists_trimWith p list
  have sum := congrArg List.length whole
  rw [List.length_append, List.length_append] at sum
  have nothing : front = [] := List.length_eq_zero_iff.mp (by omega)
  have nothing' : back = [] := List.length_eq_zero_iff.mp (by omega)
  rw [nothing, nothing', List.nil_append, List.append_nil] at whole
  exact whole.symm

/-- Around an element that stays each side is trimmed at its own end only. -/
theorem trimWith_append_cons {x : α} (stays : p x = false) (front back : List α) :
    trimWith p (front ++ x :: back) = front.dropWhile p ++ x :: back.rdropWhile p := by
  have stops : ∀ more : List α, (x :: more).dropWhile p = x :: more := fun more =>
    List.dropWhile_cons_of_neg (by simp [stays])
  have dropped : ∀ list more : List α,
      (list ++ x :: more).dropWhile p = list.dropWhile p ++ x :: more := by
    intro list more
    rw [List.dropWhile_append, stops]
    split_ifs with empty
    · rw [List.isEmpty_iff.mp empty, List.nil_append]
    · rfl
  have turned : (front.dropWhile p ++ x :: back).reverse =
      back.reverse ++ x :: (front.dropWhile p).reverse := by
    rw [List.reverse_append, List.reverse_cons, List.append_assoc, List.singleton_append]
  rw [trimWith, dropped, turned, dropped, List.reverse_append, List.reverse_cons,
    List.reverse_reverse, List.append_assoc, List.singleton_append, List.rdropWhile]

theorem trimWith_dropWhile (list : List α) : trimWith p (list.dropWhile p) = trimWith p list := by
  have whole := @trimWith_append α p (list.takeWhile p) [] (list.dropWhile p)
    (fun _ member => List.mem_takeWhile_imp member) (by rintro _ ⟨⟩)
  rwa [List.takeWhile_append_dropWhile, List.append_nil, eq_comm] at whole

theorem trimWith_rdropWhile (list : List α) : trimWith p (list.rdropWhile p) = trimWith p list := by
  have whole := @trimWith_append α p [] (list.rtakeWhile p) (list.rdropWhile p) (by rintro _ ⟨⟩)
    (fun _ member => List.mem_rtakeWhile_imp member)
  rwa [List.nil_append, List.rdropWhile_append_rtakeWhile, eq_comm] at whole

theorem trimWith_eq_self_iff {list : List α} : trimWith p list = list ↔ Bare p list := by
  constructor
  · intro same
    rw [← same]
    exact bare_trimWith list
  · exact trimWith_of_bare

theorem trimWith_trimWith (list : List α) : trimWith p (trimWith p list) = trimWith p list :=
  trimWith_of_bare (bare_trimWith list)

theorem mem_of_mem_trimWith {list : List α} {x : α} (member : x ∈ trimWith p list) : x ∈ list := by
  obtain ⟨front, back, whole, -, -⟩ := exists_trimWith p list
  rw [whole]
  exact List.mem_append_left _ (List.mem_append_right _ member)

/-- What does not have the property is not trimmed off. -/
theorem mem_trimWith {list : List α} {x : α} (member : x ∈ list) (stays : p x = false) :
    x ∈ trimWith p list := by
  obtain ⟨front, back, whole, first, last⟩ := exists_trimWith p list
  rw [whole] at member
  rcases List.mem_append.mp member with member | behind
  · rcases List.mem_append.mp member with before | inside
    · cases (first x before).symm.trans stays
    · exact inside
  · cases (last x behind).symm.trans stays

theorem trimWith_eq_nil_iff {list : List α} : trimWith p list = [] ↔ ∀ x ∈ list, p x = true := by
  constructor
  · intro nothing x member
    by_contra stays
    have inside := mem_trimWith member (by simpa using stays)
    rw [nothing] at inside
    cases inside
  · intro all
    rw [trimWith, List.dropWhile_eq_nil_iff.mpr all]
    rfl

theorem exists_trimWith_cons {x : α} (stays : p x = false) (more : List α) :
    ∃ rest, trimWith p (x :: more) = x :: rest := by
  obtain ⟨front, back, whole, first, -⟩ := exists_trimWith p (x :: more)
  have inside := mem_trimWith (@List.mem_cons_self _ x more) stays
  cases front with
  | nil =>
      rcases trimmed : trimWith p (x :: more) with _ | ⟨y, rest⟩
      · rw [trimmed] at inside
        cases inside
      · rw [trimmed] at whole
        cases whole
        exact ⟨rest, rfl⟩
  | cons y front =>
      rw [List.append_assoc, List.cons_append] at whole
      obtain rfl := List.head_eq_of_cons_eq whole
      cases stays.symm.trans (first x List.mem_cons_self)

/-- What is trimmed off in front is determined by the list. -/
theorem eq_of_trimmed_front {front front' middle middle' : List α}
    (same : front ++ middle = front' ++ middle') (first : ∀ x ∈ front, p x = true)
    (first' : ∀ x ∈ front', p x = true) (stops : ∀ x, middle.head? = some x → p x = false)
    (stops' : ∀ x, middle'.head? = some x → p x = false) : middle = middle' := by
  have dropped := congrArg (List.dropWhile p) same
  rwa [List.dropWhile_append_of_pos first, List.dropWhile_append_of_pos first',
    dropWhile_of_head? stops, dropWhile_of_head? stops'] at dropped

theorem Bare.head?_append {list : List α} (bare : Bare p list) (notEmpty : list ≠ [])
    (more : List α) : ∀ x, (list ++ more).head? = some x → p x = false := by
  intro x head
  cases list with
  | nil => cases notEmpty rfl
  | cons y list => exact bare.1 x head

/-- What follows a list that is not trimmed off whole shows, unless it is trimmed off. -/
theorem trimWith_append_cons_ne {list : List α} {x : α} (shows : trimWith p list ≠ [])
    (stays : p x = false) (more : List α) : trimWith p (list ++ x :: more) ≠ trimWith p list := by
  intro same
  obtain ⟨front, back, whole, first, -⟩ := exists_trimWith p list
  obtain ⟨front', back', whole', first', last'⟩ := exists_trimWith p (list ++ x :: more)
  have bare := @bare_trimWith α p list
  rw [same] at whole'
  generalize trimWith p list = middle at *
  rw [whole, List.append_assoc, List.append_assoc, List.append_assoc] at whole'
  have rest := eq_of_trimmed_front whole' first first' (bare.head?_append shows _)
    (bare.head?_append shows _)
  have trimmed := last' x (by
    rw [← List.append_cancel_left rest]
    exact List.mem_append_right _ List.mem_cons_self)
  cases stays.symm.trans trimmed

/-! ## At the end only -/

/-- A list that does not end in what is trimmed off stays as it is in front of a longer one. -/
theorem rdropWhile_append {front : List α} (bare : ∀ x, front.getLast? = some x → p x = false)
    (back : List α) : (front ++ back).rdropWhile p = front ++ back.rdropWhile p := by
  have stops : front.reverse.dropWhile p = front.reverse := by
    refine dropWhile_of_head? fun x head => bare x ?_
    rwa [List.head?_reverse] at head
  rw [List.rdropWhile, List.rdropWhile, List.reverse_append, List.dropWhile_append]
  split_ifs with empty
  · rw [List.isEmpty_iff.mp empty, stops, List.reverse_reverse, List.reverse_nil, List.append_nil]
  · rw [List.reverse_append, List.reverse_reverse]

theorem rdropWhile_append_of_pos (front : List α) {back : List α} (all : ∀ x ∈ back, p x = true) :
    (front ++ back).rdropWhile p = front.rdropWhile p := by
  rw [List.rdropWhile, List.rdropWhile, List.reverse_append,
    List.dropWhile_append_of_pos fun x member => all x (List.mem_reverse.mp member)]

/-- Nothing is left of what is trimmed twice if it is made of two such stretches. -/
theorem rdropWhile_rdropWhile_eq_nil_iff {q : α → Bool} (list : List α) :
    (list.rdropWhile p).rdropWhile q = [] ↔
      ∃ front back, list = front ++ back ∧ (∀ x ∈ front, q x = true) ∧ ∀ x ∈ back, p x = true := by
  rw [List.rdropWhile_eq_nil_iff]
  constructor
  · intro all
    exact ⟨list.rdropWhile p, list.rtakeWhile p,
      (@List.rdropWhile_append_rtakeWhile _ p list).symm, all,
      fun x member => List.mem_rtakeWhile_imp member⟩
  · rintro ⟨front, back, rfl, first, last⟩ x member
    rw [rdropWhile_append_of_pos front last] at member
    exact first x ((List.rdropWhile_prefix p front).subset member)

/-! ## Pieces between separators -/

/-- The pieces as they show. -/
def shownPieces (p : α → Bool) (pieces : List (List α)) : List (List α) :=
  (pieces.map (trimWith p)).filter (!·.isEmpty)

theorem shownPieces_cons_of_ne_nil {piece : List α} (shows : trimWith p piece ≠ [])
    (pieces : List (List α)) :
    shownPieces p (piece :: pieces) = trimWith p piece :: shownPieces p pieces :=
  List.filter_cons_of_pos (by simpa using shows)

theorem shownPieces_cons_of_eq_nil {piece : List α} (blank : trimWith p piece = [])
    (pieces : List (List α)) : shownPieces p (piece :: pieces) = shownPieces p pieces :=
  List.filter_cons_of_neg (by simpa using blank)

/-- A separator inside a piece has something in front of it. -/
def Guarded (p : α → Bool) (separator : α) (piece : List α) : Prop :=
  ∀ front back, piece = front ++ separator :: back → trimWith p front ≠ []

section

variable {separator : α} {pieces texts : List (List α)}

/-- A piece does not show as one that goes on behind a separator. -/
theorem shownPieces_ne_of_longer (stays : p separator = false) {text more : List α}
    (shows : trimWith p text ≠ []) :
    shownPieces p ((text ++ separator :: more) :: pieces) ≠ shownPieces p (text :: texts) := by
  intro shown
  have longer := trimWith_append_cons_ne shows stays more
  have whole : trimWith p (text ++ separator :: more) ≠ [] := by
    intro nothing
    have inside := trimWith_eq_nil_iff.mp nothing separator
      (List.mem_append_right _ List.mem_cons_self)
    cases stays.symm.trans inside
  rw [shownPieces_cons_of_ne_nil whole, shownPieces_cons_of_ne_nil shows] at shown
  exact longer (List.head_eq_of_cons_eq shown)

/-- Neither does a piece in front of which nothing shows but a separator. -/
theorem shownPieces_ne_of_guarded (stays : p separator = false) {text more : List α}
    (guarded : ∀ text ∈ texts, Guarded p separator text) (blank : trimWith p text = []) :
    shownPieces p ((text ++ separator :: more) :: pieces) ≠ shownPieces p (text :: texts) := by
  intro shown
  have front := trimWith_eq_nil_iff.mp blank
  obtain ⟨rest, starts⟩ := exists_trimWith_cons stays more
  have whole : trimWith p (text ++ separator :: more) = separator :: rest := by
    have dropped := @trimWith_append α p text [] (separator :: more) front (by rintro _ ⟨⟩)
    rwa [List.append_nil, starts] at dropped
  rw [shownPieces_cons_of_ne_nil (by simp [whole]), shownPieces_cons_of_eq_nil blank, whole]
    at shown
  -- the other side shows a text that begins with the separator
  have inside : separator :: rest ∈ shownPieces p texts := by
    rw [← shown]
    exact List.mem_cons_self
  obtain ⟨text', member, trimmed⟩ := List.mem_map.mp (List.mem_filter.mp inside).1
  obtain ⟨front', back, written, first, -⟩ := exists_trimWith p text'
  rw [trimmed, List.append_assoc] at written
  exact guarded text' member front' (rest ++ back) written (trimWith_eq_nil_iff.mpr first)

theorem eq_of_shownPieces_eq (stays : p separator = false) (pieces_ne : pieces ≠ [])
    (texts_ne : texts ≠ []) (guarded : ∀ text ∈ texts, Guarded p separator text)
    (same : [separator].intercalate pieces = [separator].intercalate texts)
    (shown : shownPieces p pieces = shownPieces p texts) : pieces = texts := by
  induction pieces generalizing texts with
  | nil => cases pieces_ne rfl
  | cons piece pieces ih =>
      obtain ⟨text, texts, rfl⟩ := List.exists_cons_of_ne_nil texts_ne
      have longer : ∀ more, text ≠ piece ++ separator :: more := by
        intro more written
        have first := guarded text List.mem_cons_self piece more written
        rw [written] at shown
        exact shownPieces_ne_of_longer stays first shown.symm
      have shorter : ∀ more, piece ≠ text ++ separator :: more := by
        intro more written
        rw [written] at shown
        by_cases blank : trimWith p text = []
        · exact shownPieces_ne_of_guarded stays
            (fun text member => guarded text (List.mem_cons_of_mem _ member)) blank shown
        · exact shownPieces_ne_of_longer stays blank shown
      cases pieces with
      | nil =>
          cases texts with
          | nil =>
              rw [List.intercalate_singleton, List.intercalate_singleton] at same
              rw [same]
          | cons text' texts =>
              rw [List.intercalate_singleton, List.intercalate_cons_cons, List.append_assoc] at same
              exact absurd same (shorter _)
      | cons piece' pieces =>
          cases texts with
          | nil =>
              rw [List.intercalate_singleton, List.intercalate_cons_cons, List.append_assoc] at same
              exact absurd same.symm (longer _)
          | cons text' texts =>
              rw [List.intercalate_cons_cons, List.intercalate_cons_cons, List.append_assoc,
                List.append_assoc, List.singleton_append, List.singleton_append] at same
              obtain ⟨rfl, rest⟩ : piece = text ∧ [separator].intercalate (piece' :: pieces) =
                  [separator].intercalate (text' :: texts) := by
                rcases List.append_eq_append_iff.mp same with ⟨between, rfl, behind⟩ |
                  ⟨between, rfl, behind⟩
                all_goals rcases between with _ | ⟨c, between⟩
                · exact ⟨(List.append_nil _).symm, List.tail_eq_of_cons_eq behind⟩
                · obtain rfl := List.head_eq_of_cons_eq behind
                  exact absurd rfl (longer _)
                · exact ⟨List.append_nil _, (List.tail_eq_of_cons_eq behind).symm⟩
                · obtain rfl := List.head_eq_of_cons_eq behind
                  exact absurd rfl (shorter _)
              have shown' : shownPieces p (piece' :: pieces) = shownPieces p (text' :: texts) := by
                by_cases blank : trimWith p piece = []
                · rwa [shownPieces_cons_of_eq_nil blank, shownPieces_cons_of_eq_nil blank] at shown
                · rw [shownPieces_cons_of_ne_nil blank, shownPieces_cons_of_ne_nil blank] at shown
                  exact List.tail_eq_of_cons_eq shown
              rw [ih (List.cons_ne_nil _ _) (List.cons_ne_nil _ _)
                (fun text member => guarded text (List.mem_cons_of_mem _ member)) rest shown']

end

end Wire
