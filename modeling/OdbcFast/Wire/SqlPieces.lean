import OdbcFast.Wire.Sql

/-!
# Texts that are put together

A text with its tokens is a piece, if what it has begun is complete and ends in front of a blank,
a comma or the like. Pieces that such a character separates are read one behind the other, so a
statement that is put together is read piece by piece.
-/

namespace Wire.Sql

/-- A character that ends a word and a quoted name. -/
def isBoundary (c : Char) : Bool :=
  c == ' ' || c == ',' || c == '.' || c == '(' || c == ')' || c == ';'

/-- The text begins with such a character. -/
def Separates (text : List Char) : Prop := ∃ c rest, text = c :: rest ∧ isBoundary c = true

variable {quotes : Quotes} {front text back : List Char} {before tokens after : List Token}

/-- The tokens of a text, whatever comes behind it. -/
def Reads (quotes : Quotes) (text : List Char) (tokens : List Token) : Prop :=
  ∃ reading done last, readAll quotes .between text = (reading, done) ∧
    finish reading = some last ∧ tokens = done ++ last ∧
    ∀ c, isBoundary c = true →
      read quotes reading c = ((start quotes c).1, last ++ (start quotes c).2)

theorem Reads.tokens_eq (reads : Reads quotes text tokens) :
    Sql.tokens quotes text = some tokens := by
  obtain ⟨reading, done, last, all, finished, rfl, -⟩ := reads
  rw [Sql.tokens, all, finished]
  rfl

/-- A text behind which nothing has begun. -/
theorem reads_of_between (all : readAll quotes .between text = (.between, tokens)) :
    Reads quotes text tokens :=
  ⟨.between, tokens, [], all, rfl, (List.append_nil _).symm, fun _ _ => rfl⟩

theorem reads_nil : Reads quotes [] [] := reads_of_between rfl

/-- A word that the text ends with. -/
theorem reads_of_word {word : List Char}
    (all : readAll quotes .between text = (.word word, before)) :
    Reads quotes text (before ++ [.word word]) := by
  refine ⟨.word word, before, [.word word], all, rfl, rfl, fun c boundary => ?_⟩
  rw [read, if_neg, startBehind, List.singleton_append]
  simp only [isBoundary, Bool.or_eq_true, beq_iff_eq] at boundary
  rcases boundary with ((((rfl | rfl) | rfl) | rfl) | rfl) | rfl <;> decide

/-- A quoted name that the text ends with. -/
theorem reads_of_closing {close : Char} {name : List Char}
    (all : readAll quotes .between text = (.closing close name, before))
    (other : isBoundary close = false) : Reads quotes text (before ++ [.identifier name]) := by
  refine ⟨.closing close name, before, [.identifier name], all, rfl, rfl, fun c boundary => ?_⟩
  rw [read, if_neg, startBehind, List.singleton_append]
  rintro rfl
  cases other.symm.trans boundary

/-- Pieces one behind the other. -/
theorem Reads.append (first : Reads quotes text tokens) (separates : Separates back)
    (second : Reads quotes back after) : Reads quotes (text ++ back) (tokens ++ after) := by
  obtain ⟨reading, done, last, all, -, rfl, ends⟩ := first
  obtain ⟨reading', done', last', all', finished, rfl, ends'⟩ := second
  obtain ⟨c, rest, rfl, boundary⟩ := separates
  have begun : readAll quotes reading (c :: rest) = (reading', last ++ done') := by
    rw [readAll, ends c boundary]
    rw [readAll, read] at all'
    obtain ⟨same, same'⟩ := Prod.mk.inj all'
    rw [same, ← same', List.append_assoc]
  refine ⟨reading', done ++ last ++ done', last', ?_, finished, ?_, ends'⟩
  · rw [readAll_append, all, begun, List.append_assoc]
  · rw [List.append_assoc (done ++ last)]

/-- A piece behind a text that leaves nothing begun. -/
theorem Reads.behind (all : readAll quotes .between front = (.between, before))
    (reads : Reads quotes text tokens) : Reads quotes (front ++ text) (before ++ tokens) := by
  obtain ⟨reading, done, last, all', finished, rfl, ends⟩ := reads
  refine ⟨reading, before ++ done, last, ?_, finished, List.append_assoc .. |>.symm, ends⟩
  rw [readAll_append, all, all']

/-- A piece between two texts. -/
theorem Reads.fill (all : readAll quotes .between front = (.between, before))
    (reads : Reads quotes text tokens) (separates : Separates back)
    (rest : Reads quotes back after) :
    Reads quotes (front ++ (text ++ back)) (before ++ (tokens ++ after)) :=
  (reads.append separates rest).behind all

theorem Separates.append (separates : Separates text) (back : List Char) :
    Separates (text ++ back) := by
  obtain ⟨c, rest, rfl, boundary⟩ := separates
  exact ⟨c, rest ++ back, rfl, boundary⟩

/-- Pieces joined by a text that separates them. -/
theorem reads_intercalate {separator : List Char} {between : List Token} {α : Type}
    {texts : α → List Char} {tokens : α → List Token} (separates : Separates separator)
    (all : readAll quotes .between separator = (.between, between)) {items : List α}
    (each : ∀ item ∈ items, Reads quotes (texts item) (tokens item)) :
    Reads quotes (separator.intercalate (items.map texts)) (between.intercalate (items.map tokens))
    := by
  induction items with
  | nil => exact reads_nil
  | cons item items ih =>
      obtain ⟨first, others⟩ := List.forall_mem_cons.mp each
      cases items with
      | nil =>
          rw [List.map_singleton, List.map_singleton, List.intercalate_singleton,
            List.intercalate_singleton]
          exact first
      | cons next items =>
          rw [List.map_cons, List.map_cons, List.map_cons, List.map_cons,
            List.intercalate_cons_cons, List.intercalate_cons_cons, List.append_assoc,
            List.append_assoc]
          exact first.append (separates.append _) ((ih others).behind all)

section

variable {α β : Type} {separator : List α}

theorem mem_intercalate {lists : List (List α)} {a : α}
    (member : a ∈ separator.intercalate lists) : a ∈ separator ∨ ∃ list ∈ lists, a ∈ list := by
  induction lists with
  | nil => cases member
  | cons list lists ih =>
      cases lists with
      | nil =>
          rw [List.intercalate_singleton] at member
          exact .inr ⟨list, List.mem_cons_self, member⟩
      | cons next lists =>
          rw [List.intercalate_cons_cons, List.append_assoc, List.mem_append,
            List.mem_append] at member
          rcases member with first | between | others
          · exact .inr ⟨list, List.mem_cons_self, first⟩
          · exact .inl between
          · exact (ih others).imp id fun ⟨list, there, member⟩ =>
              ⟨list, List.mem_cons_of_mem _ there, member⟩

theorem mem_intercalate_of_mem {lists : List (List α)} {list : List α} {a : α}
    (there : list ∈ lists) (member : a ∈ list) : a ∈ separator.intercalate lists := by
  induction lists with
  | nil => cases there
  | cons first lists ih =>
      cases lists with
      | nil =>
          rw [List.mem_singleton.mp there] at member
          rw [List.intercalate_singleton]
          exact member
      | cons next lists =>
          rw [List.intercalate_cons_cons, List.append_assoc, List.mem_append, List.mem_append]
          rcases List.mem_cons.mp there with rfl | there
          · exact .inl member
          · exact .inr (.inr (ih there))

theorem map_intercalate (f : α → β) (lists : List (List α)) :
    (separator.intercalate lists).map f =
      (separator.map f).intercalate (lists.map (List.map f)) := by
  induction lists with
  | nil => rfl
  | cons list lists ih =>
      cases lists with
      | nil => rw [List.map_singleton, List.intercalate_singleton, List.intercalate_singleton]
      | cons next lists =>
          rw [List.map_cons, List.map_cons, List.intercalate_cons_cons, List.intercalate_cons_cons,
            ← List.map_cons, ← ih, List.map_append, List.map_append]

end

/-! ## Texts with gaps -/

section

variable {α : Type}

/-- A fixed text, and behind it what stands in the gaps, with the fixed text behind each. -/
def fill (text back : α → List Char) (front : List Char) : List α → List Char
  | [] => front
  | item :: items => front ++ (text item ++ fill text back (back item) items)

@[simp] theorem fill_nil (text back : α → List Char) (front : List Char) :
    fill text back front [] = front := rfl

@[simp] theorem fill_cons (text back : α → List Char) (front : List Char) (item : α)
    (items : List α) : fill text back front (item :: items) =
      front ++ (text item ++ fill text back (back item) items) := rfl

/-- What a text without quotes is read as. -/
def plain (text : List Char) : Reading × List Token := readAll (fun _ => none) .between text

def plainTokens (text : List Char) : List Token :=
  (plain text).2 ++ ((finish (plain text).1).getD [])

def fillTokens (tokens : α → List Token) (back : α → List Char) (front : List Char) :
    List α → List Token
  | [] => plainTokens front
  | item :: items => plainTokens front ++ (tokens item ++ fillTokens tokens back (back item) items)

def Reading.isWhole : Reading → Bool
  | .between | .word _ => true
  | _ => false

/-- A text behind a gap ends what stands there, unless it is the end itself. -/
def endsGap (back : List Char) (isLast : Bool) : Bool :=
  match back with
  | [] => isLast
  | c :: _ => isBoundary c

/-- Nothing has begun in front of a gap, and what stands in it is ended. -/
def isSound (front : List Char) : List (List Char) → Bool
  | [] => (plain front).1.isWhole
  | back :: backs =>
    (plain front).1 == .between && endsGap back backs.isEmpty && isSound back backs

theorem endsGap_iff {back : List Char} : endsGap back false = true ↔ Separates back := by
  cases back with
  | nil => exact iff_of_false (by simp [endsGap]) (by rintro ⟨c, rest, ⟨⟩, -⟩)
  | cons c cs =>
      constructor
      · exact fun boundary => ⟨c, cs, rfl, boundary⟩
      · rintro ⟨c, rest, ⟨⟩, boundary⟩
        exact boundary

/-- Where no quotes are, they do not matter. -/
theorem readAll_of_free {text : List Char} (free : ∀ c ∈ text, quotes c = none)
    (reading : Reading) : readAll quotes reading text = readAll (fun _ => none) reading text := by
  induction text generalizing reading with
  | nil => rfl
  | cons c cs ih =>
      obtain ⟨first, others⟩ := List.forall_mem_cons.mp free
      have begins : start quotes c = start (fun _ => none) c := by rw [start, start, first]
      have same : read quotes reading c = read (fun _ => none) reading c := by
        cases reading with
        | between => exact begins
        | word _ | closing _ _ | literalEnd _ | dash | slash | identifier _ _ | literal _
        | lineComment _ | blockComment _ | star _ => simp only [read, startBehind, begins]
      rw [readAll, readAll, same, ih others]

theorem readAll_plain {text : List Char} (free : ∀ c ∈ text, quotes c = none)
    (begun : (plain text).1 = .between) :
    readAll quotes .between text = (.between, plainTokens text) := by
  rw [readAll_of_free free, plainTokens, ← plain, begun]
  exact Prod.ext begun (List.append_nil _).symm

theorem reads_plain {text : List Char} (free : ∀ c ∈ text, quotes c = none)
    (whole : (plain text).1.isWhole = true) : Reads quotes text (plainTokens text) := by
  have all := readAll_of_free free .between
  rcases done : readAll (fun _ => none) .between text with ⟨reading, tokens⟩
  rw [plain, done] at whole
  rw [plainTokens, plain, done]
  rw [done] at all
  cases reading with
  | between => exact (List.append_nil tokens).symm ▸ reads_of_between all
  | word word => exact reads_of_word all
  | closing _ _ | literalEnd _ | dash | slash | identifier _ _ | literal _
  | lineComment _ | blockComment _ | star _ => cases whole

theorem separates_fill {text back : α → List Char} {items : List α} (separates : Separates front) :
    Separates (fill text back front items) := by
  cases items with
  | nil => exact separates
  | cons item items => exact separates.append _

/-- A text with gaps is read piece by piece. -/
theorem reads_fill {text back : α → List Char} {tokens : α → List Token} {front : List Char}
    {items : List α} (sound : isSound front (items.map back) = true)
    (free : ∀ fixed ∈ front :: items.map back, ∀ c ∈ fixed, quotes c = none)
    (each : ∀ item ∈ items, Reads quotes (text item) (tokens item)) :
    Reads quotes (fill text back front items) (fillTokens tokens back front items) := by
  induction items generalizing front with
  | nil => exact reads_plain (free front List.mem_cons_self) sound
  | cons item items ih =>
      obtain ⟨here, behind⟩ := List.forall_mem_cons.mp free
      obtain ⟨first, others⟩ := List.forall_mem_cons.mp each
      rw [List.map_cons, isSound, Bool.and_eq_true, Bool.and_eq_true, beq_iff_eq] at sound
      obtain ⟨⟨begun, ends⟩, sound⟩ := sound
      have rest := ih sound behind others
      have all := readAll_plain here begun
      rcases between : back item with _ | ⟨c, cs⟩
      · -- Only the last of the fixed texts may be empty.
        rw [between] at ends
        cases List.map_eq_nil_iff.mp (List.isEmpty_iff.mp ends)
        rw [fill, fillTokens, between]
        change Reads quotes (front ++ (text item ++ [])) (plainTokens front ++ (tokens item ++ []))
        rw [List.append_nil, List.append_nil]
        exact first.behind all
      · rw [between] at ends
        exact Reads.fill all first (separates_fill ⟨c, cs, between, ends⟩) rest

/-- A token stands in a fixed text or in a gap. -/
theorem mem_fillTokens {back : α → List Char} {tokens : α → List Token} {front : List Char}
    {items : List α} {token : Token} (member : token ∈ fillTokens tokens back front items) :
    (∃ fixed ∈ front :: items.map back, token ∈ plainTokens fixed) ∨
      ∃ item ∈ items, token ∈ tokens item := by
  induction items generalizing front with
  | nil => exact .inl ⟨front, List.mem_cons_self, member⟩
  | cons item items ih =>
      rw [fillTokens, List.mem_append, List.mem_append] at member
      rcases member with fixed | gap | behind
      · exact .inl ⟨front, List.mem_cons_self, fixed⟩
      · exact .inr ⟨item, List.mem_cons_self, gap⟩
      · exact (ih behind).imp
          (fun ⟨fixed, there, member⟩ => ⟨fixed, List.mem_cons_of_mem _ there, member⟩)
          (fun ⟨item, there, member⟩ => ⟨item, List.mem_cons_of_mem _ there, member⟩)

theorem fillTokens_append {back : α → List Char} {tokens : α → List Token} (front : List Char)
    (before : List α) (item : α) (behind : List α) :
    fillTokens tokens back front (before ++ item :: behind) =
      fillTokens tokens back front before ++
        (tokens item ++ fillTokens tokens back (back item) behind) := by
  induction before generalizing front with
  | nil => rfl
  | cons first before ih =>
      rw [List.cons_append, fillTokens, fillTokens, ih, List.append_assoc, List.append_assoc]

/-- What is seen of the gaps is all that is seen of the whole. -/
theorem map_fillTokens {β : Type} (f : Token → β) {back : α → List Char}
    {tokens tokens' : α → List Token} {front : List Char} {items : List α}
    (same : ∀ item ∈ items, (tokens item).map f = (tokens' item).map f) :
    (fillTokens tokens back front items).map f = (fillTokens tokens' back front items).map f := by
  induction items generalizing front with
  | nil => rfl
  | cons item items ih =>
      obtain ⟨first, others⟩ := List.forall_mem_cons.mp same
      rw [fillTokens, fillTokens, List.map_append, List.map_append, List.map_append,
        List.map_append, first, ih others]

end

end Wire.Sql
