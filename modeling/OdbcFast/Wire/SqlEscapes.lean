import OdbcFast.Wire.Sql

/-!
# Backslashes in literals

In some dialects a backslash in a literal takes the next character as it is, so that a quote behind
it does not end the literal. A text whose quotes are doubled is then one literal only if no quote
in it stands behind such a backslash, and if none is left at its end: it would take one quote of
a pair, or the closing one.
-/

namespace Wire.Sql

/-- Each quote twice. -/
def doubleQuotes (text : List Char) : List Char :=
  text.flatMap fun c => if c = '\'' then ['\'', '\''] else [c]

def Reading.isLiteral : Reading → Bool
  | .literal _ => true
  | _ => false

section

variable (quotes : Quotes) (escapes : Bool)

/-- The character takes the next one as it is. -/
def escapesNext (reading : Reading) (c : Char) : Bool :=
  escapes && c == '\\' && reading.isLiteral

/-- A reading, and whether the next character is taken as it is. -/
def readEscaped : Reading × Bool → Char → (Reading × Bool) × List Token
  | (.literal text, true), c => ((.literal (text ++ [c]), false), [])
  | (reading, _), c =>
    (((read quotes reading c).1, escapesNext escapes reading c), (read quotes reading c).2)

def readAllEscaped : Reading × Bool → List Char → (Reading × Bool) × List Token
  | reading, [] => (reading, [])
  | reading, c :: cs =>
    ((readAllEscaped (readEscaped quotes escapes reading c).1 cs).1,
      (readEscaped quotes escapes reading c).2 ++
        (readAllEscaped (readEscaped quotes escapes reading c).1 cs).2)

/-- The tokens of a text; what is escaped in a literal stays so. -/
def tokensEscaped (text : List Char) : Option (List Token) :=
  (finish (readAllEscaped quotes escapes (.between, false) text).1.1).map
    ((readAllEscaped quotes escapes (.between, false) text).2 ++ ·)

end

/-- No quote is taken as it is, nor the end; behind a backslash if so said. -/
def keepsQuotes : Bool → List Char → Bool
  | escaped, [] => !escaped
  | true, c :: cs => c != '\'' && keepsQuotes false cs
  | false, c :: cs => keepsQuotes (c == '\\') cs

variable {quotes : Quotes} {escapes : Bool}

theorem readAllEscaped_append (reading : Reading × Bool) (first second : List Char) :
    readAllEscaped quotes escapes reading (first ++ second) =
      ((readAllEscaped quotes escapes (readAllEscaped quotes escapes reading first).1 second).1,
        (readAllEscaped quotes escapes reading first).2 ++
          (readAllEscaped quotes escapes (readAllEscaped quotes escapes reading first).1
            second).2) := by
  induction first generalizing reading with
  | nil => rfl
  | cons c cs ih => simp only [List.cons_append, readAllEscaped, ih, List.append_assoc]

theorem readEscaped_false (reading : Reading) (c : Char) :
    readEscaped quotes escapes (reading, false) c =
      (((read quotes reading c).1, escapesNext escapes reading c), (read quotes reading c).2) := by
  cases reading with
  | _ => rfl

/-- Without backslashes nothing is escaped. -/
theorem readAllEscaped_of_not_mem {text : List Char} (none : '\\' ∉ text) (reading : Reading) :
    readAllEscaped quotes escapes (reading, false) text =
      (((readAll quotes reading text).1, false), (readAll quotes reading text).2) := by
  induction text generalizing reading with
  | nil => rfl
  | cons c cs ih =>
      rw [List.mem_cons, not_or] at none
      have next : escapesNext escapes reading c = false := by
        rw [escapesNext, beq_eq_false_iff_ne.mpr (Ne.symm none.1), Bool.and_false, Bool.false_and]
      rw [readAllEscaped, readEscaped_false, next, ih none.2]
      rfl

theorem readEscaped_literal {c : Char} (other : c ≠ '\'') (text : List Char) :
    readEscaped quotes escapes (.literal text, false) c =
      ((.literal (text ++ [c]), escapes && c == '\\'), []) := by
  rw [readEscaped_false, read, if_neg other, escapesNext, Reading.isLiteral, Bool.and_true]

theorem readEscaped_literalEnd_quote (done : List Char) :
    readEscaped quotes escapes (.literalEnd done, false) '\'' =
      ((.literal (done ++ ['\'']), false), []) := by
  have next : escapesNext escapes (.literalEnd done) '\'' = false := Bool.and_false _
  rw [readEscaped_false, read, if_pos rfl, next]

theorem readEscaped_literal_quote (done : List Char) :
    readEscaped quotes escapes (.literal done, false) '\'' = ((.literalEnd done, false), []) := by
  have next : escapesNext escapes (.literal done) '\'' = false := by
    rw [escapesNext, beq_eq_false_iff_ne.mpr (by decide), Bool.and_false, Bool.false_and]
  rw [readEscaped_false, read, if_pos rfl, next]

/-- A text whose quotes are doubled stays in its literal, if no quote is escaped. -/
theorem readAllEscaped_doubleQuotes {text : List Char} {escaped : Bool}
    (keeps : escapes = true → keepsQuotes escaped text = true)
    (known : escaped = true → escapes = true) (done : List Char) :
    readAllEscaped quotes escapes (.literal done, escaped) (doubleQuotes text) =
      ((.literal (done ++ text), false), []) := by
  induction text generalizing escaped done with
  | nil =>
      cases escaped with
      | false =>
          rw [List.append_nil]
          rfl
      | true => cases keeps (known rfl)
  | cons c cs ih =>
      rw [doubleQuotes, List.flatMap_cons, ← doubleQuotes]
      cases escaped with
      | true =>
          have kept := keeps (known rfl)
          rw [keepsQuotes, Bool.and_eq_true, bne_iff_ne] at kept
          rw [if_neg kept.1, List.singleton_append, readAllEscaped, readEscaped]
          dsimp only
          rw [ih (fun _ => kept.2) (fun impossible => by cases impossible), List.append_assoc]
          rfl
      | false =>
          by_cases quote : c = '\''
          · subst quote
            rw [if_pos rfl]
            change readAllEscaped quotes escapes _ ('\'' :: '\'' :: doubleQuotes cs) = _
            have kept : escapes = true → keepsQuotes false cs = true := keeps
            rw [readAllEscaped, readEscaped_literal_quote, readAllEscaped,
              readEscaped_literalEnd_quote]
            dsimp only
            rw [ih kept (fun impossible => by cases impossible), List.append_assoc]
            rfl
          · rw [if_neg quote, List.singleton_append, readAllEscaped, readEscaped_literal quote]
            dsimp only
            rw [ih ?_ ?_, List.append_assoc]
            · rfl
            · intro on
              rw [on, Bool.true_and]
              exact keeps on
            · intro escaped
              exact (Bool.and_eq_true _ _ ▸ escaped).1

/-! ## Quotes that are taken -/

/-- Behind a quote something has begun. -/
theorem readEscaped_quote_ne_between (reading : Reading × Bool) :
    (readEscaped quotes escapes reading '\'').1.1 ≠ .between := by
  obtain ⟨reading, escaped⟩ := reading
  cases reading with
  | literal text =>
      cases escaped with
      | true => simp [readEscaped]
      | false => simp [readEscaped, read]
  | between | word _ | literalEnd _ | dash | slash | lineComment _ | blockComment _ =>
      simp [readEscaped, read, startBehind, start, isBlank, isWordChar]
  | identifier close _ | closing close _ =>
      rw [readEscaped, read]
      · split_ifs with same
        · exact Reading.noConfusion
        · simp [startBehind, start, isBlank, isWordChar]
      · rintro _ ⟨⟩
  | star _ => simp [readEscaped, read]

/-- A text that ends with a quote has a last token. -/
theorem last_ne_nil {text : List Char} {reading : Reading × Bool} {last : List Token}
    (finished : finish (readAllEscaped quotes escapes reading (text ++ ['\''])).1.1 = some last) :
    last ≠ [] := by
  have begun := @readEscaped_quote_ne_between quotes escapes
    (readAllEscaped quotes escapes reading text).1
  rw [readAllEscaped_append] at finished
  change finish (readEscaped quotes escapes _ '\'').1.1 = some last at finished
  rintro rfl
  generalize (readEscaped quotes escapes (readAllEscaped quotes escapes reading text).1 '\'').1.1 =
    reading at begun finished
  cases reading with
  | between => exact begun rfl
  | _ => cases finished

/-- The text is not read as one token. -/
def Splits (quotes : Quotes) (escapes : Bool) (reading : Reading × Bool)
    (text : List Char) : Prop :=
  ∀ last, finish (readAllEscaped quotes escapes reading text).1.1 = some last →
    2 ≤ ((readAllEscaped quotes escapes reading text).2 ++ last).length

theorem Splits.cons {reading next : Reading × Bool} {c : Char} {rest : List Char}
    (step : readEscaped quotes escapes reading c = (next, []))
    (splits : Splits quotes escapes next rest) : Splits quotes escapes reading (c :: rest) := by
  intro last finished
  rw [readAllEscaped, step] at finished ⊢
  exact splits last finished

/-- The literal has ended too early: it goes on behind a doubled quote, and is never closed, or
something comes behind it. -/
theorem splits_literalEnd (text done : List Char) :
    Splits quotes escapes (.literalEnd done, false) (doubleQuotes text ++ ['\'']) := by
  induction text generalizing done with
  | nil =>
      intro last finished
      rw [doubleQuotes, List.flatMap_nil, List.nil_append, readAllEscaped,
        readEscaped_literalEnd_quote] at finished
      cases finished
  | cons c cs ih =>
      rw [doubleQuotes, List.flatMap_cons, ← doubleQuotes, List.append_assoc]
      by_cases quote : c = '\''
      · rw [if_pos quote]
        exact .cons (readEscaped_literalEnd_quote done)
          (.cons (readEscaped_literal_quote _) (ih _))
      · rw [if_neg quote]
        intro last finished
        have ends : last ≠ [] := by
          rw [← List.append_assoc] at finished
          exact last_ne_nil finished
        rw [List.singleton_append, readAllEscaped, readEscaped_false, read, if_neg quote,
          startBehind]
        have some := List.length_pos_of_ne_nil ends
        simp only [List.length_append, List.length_cons]
        omega

theorem splits_literal {text : List Char} {escaped : Bool} (on : escapes = true)
    (taken : keepsQuotes escaped text = false) (done : List Char) :
    Splits quotes escapes (.literal done, escaped) (doubleQuotes text ++ ['\'']) := by
  induction text generalizing escaped done with
  | nil =>
      cases escaped with
      | true =>
          intro last finished
          cases finished
      | false => cases taken
  | cons c cs ih =>
      rw [doubleQuotes, List.flatMap_cons, ← doubleQuotes, List.append_assoc]
      by_cases quote : c = '\''
      · rw [if_pos quote]
        subst quote
        cases escaped with
        | true =>
            -- The first of the two is taken, and the second ends the literal.
            exact .cons rfl (.cons (readEscaped_literal_quote _) (splits_literalEnd cs _))
        | false =>
            exact .cons (readEscaped_literal_quote done)
              (.cons (readEscaped_literalEnd_quote done) (ih taken _))
      · rw [if_neg quote]
        cases escaped with
        | true =>
            rw [keepsQuotes, bne_iff_ne.mpr quote, Bool.true_and] at taken
            exact .cons rfl (ih taken _)
        | false =>
            refine .cons (readEscaped_literal quote done) (ih ?_ _)
            rw [on, Bool.true_and]
            exact taken

/-! ## Texts without quotes -/

def Reading.inLiteral : Reading → Bool
  | .literal _ | .literalEnd _ => true
  | _ => false

def Token.isLiteral : Token → Bool
  | .literal _ => true
  | _ => false

theorem start_no_literal {c : Char} (other : c ≠ '\'') :
    (start quotes c).1.inLiteral = false ∧
      ∀ token ∈ (start quotes c).2, token.isLiteral = false := by
  rw [start]
  split_ifs
  · exact ⟨rfl, by simp⟩
  · exact ⟨rfl, by simp⟩
  · exact ⟨rfl, by simp⟩
  · exact ⟨rfl, by simp⟩
  · cases quotes c with
    | none => exact ⟨rfl, by simp [Token.isLiteral]⟩
    | some close => exact ⟨rfl, by simp⟩

theorem read_no_literal {reading : Reading} {c : Char} (outside : reading.inLiteral = false)
    (other : c ≠ '\'') : (read quotes reading c).1.inLiteral = false ∧
      ∀ token ∈ (read quotes reading c).2, token.isLiteral = false := by
  have begins := @start_no_literal quotes c other
  cases reading with
  | between => exact begins
  | literal _ | literalEnd _ => cases outside
  | word _ | closing _ _ | dash | slash | identifier _ _ | lineComment _ | blockComment _
  | star _ =>
      rw [read]
      split_ifs
      all_goals
        simp only [startBehind, Reading.inLiteral, List.mem_cons, List.not_mem_nil,
          forall_eq_or_imp, Token.isLiteral, true_and, false_imp_iff, implies_true, and_self]
      all_goals exact begins

theorem readAllEscaped_no_literal {text : List Char} (none : '\'' ∉ text) {reading : Reading}
    (outside : reading.inLiteral = false) (escaped : Bool) :
    (readAllEscaped quotes escapes (reading, escaped) text).1.1.inLiteral = false ∧
      ∀ token ∈ (readAllEscaped quotes escapes (reading, escaped) text).2,
        token.isLiteral = false := by
  induction text generalizing reading escaped with
  | nil => exact ⟨outside, by simp [readAllEscaped]⟩
  | cons c cs ih =>
      rw [List.mem_cons, not_or] at none
      obtain ⟨next, emitted⟩ := @read_no_literal quotes reading c outside (Ne.symm none.1)
      have step : readEscaped quotes escapes (reading, escaped) c =
          (((read quotes reading c).1, escapesNext escapes reading c),
            (read quotes reading c).2) := by
        cases reading with
        | literal _ => cases outside
        | _ => rfl
      obtain ⟨last, others⟩ := ih none.2 next (escapesNext escapes reading c)
      rw [readAllEscaped, step]
      refine ⟨last, fun token member => ?_⟩
      rcases List.mem_append.mp member with here | there
      · exact emitted token here
      · exact others token there

/-- A text without quotes has no literal. -/
theorem tokens_no_literal {text : List Char} {written : List Token} (none : '\'' ∉ text)
    (all : tokensEscaped quotes escapes text = some written) :
    ∀ token ∈ written, token.isLiteral = false := by
  obtain ⟨last, finished, rfl⟩ := Option.map_eq_some_iff.mp all
  obtain ⟨outside, emitted⟩ :=
    @readAllEscaped_no_literal quotes escapes text none .between rfl false
  intro token member
  rcases List.mem_append.mp member with here | there
  · exact emitted token here
  · generalize (readAllEscaped quotes escapes (.between, false) text).1.1 = reading
      at finished outside
    cases reading with
    | literal _ | literalEnd _ => cases outside
    | between =>
        cases finished
        cases there
    | identifier _ _ | blockComment _ | star _ => cases finished
    | word _ | closing _ _ | dash | slash | lineComment _ =>
        cases finished
        rw [List.mem_singleton.mp there]
        rfl

/-! ## Texts with a literal -/

theorem tokensEscaped_of_not_mem {text : List Char} (none : '\\' ∉ text) :
    tokensEscaped quotes escapes text = tokens quotes text := by
  rw [tokensEscaped, tokens, readAllEscaped_of_not_mem none]

section

variable {front text back : List Char} {before after : List Token}

theorem readAllEscaped_front (begun : readAll quotes .between front = (.between, before))
    (plain : '\\' ∉ front) (rest : List Char) :
    readAllEscaped quotes escapes (.between, false) (front ++ '\'' :: rest) =
      ((readAllEscaped quotes escapes (.literal [], false) rest).1,
        before ++ (readAllEscaped quotes escapes (.literal [], false) rest).2) := by
  have next : escapesNext escapes .between '\'' = false := Bool.and_false _
  rw [readAllEscaped_append, readAllEscaped_of_not_mem plain, begun, readAllEscaped,
    readEscaped_false, next]
  rfl

/-- A text with its quotes doubled is one literal of the statement. -/
theorem tokensEscaped_literal (begun : readAll quotes .between front = (.between, before))
    (plain : '\\' ∉ front) (plain' : '\\' ∉ back) (behind : tokens quotes back = some after)
    (apart : back.head? ≠ some '\'') (keeps : escapes = true → keepsQuotes false text = true) :
    tokensEscaped quotes escapes (front ++ '\'' :: (doubleQuotes text ++ '\'' :: back)) =
      some (before ++ .literal text :: after) := by
  rw [tokensEscaped, readAllEscaped_front begun plain, readAllEscaped_append,
    readAllEscaped_doubleQuotes keeps (fun impossible => by cases impossible), List.nil_append,
    readAllEscaped, readEscaped_literal_quote]
  dsimp only
  rw [readAllEscaped_of_not_mem plain']
  obtain ⟨last, finished, rfl⟩ := Option.map_eq_some_iff.mp behind
  cases back with
  | nil =>
      cases finished
      simp [readAll, finish]
  | cons c cs =>
      have other : c ≠ '\'' := fun same => apart (congrArg some same)
      rw [readAll, read, if_neg other, startBehind]
      rw [readAll, read] at finished
      dsimp only
      rw [finished]
      simp [readAll, read]

/-- A quote that is taken leaves no single literal there. -/
theorem tokensEscaped_ne (begun : readAll quotes .between front = (.between, before))
    (plain : '\\' ∉ front) (on : escapes = true) (taken : keepsQuotes false text = false)
    (value : List Char) :
    tokensEscaped quotes escapes (front ++ '\'' :: (doubleQuotes text ++ ['\''])) ≠
      some (before ++ [.literal value]) := by
  intro read
  rw [tokensEscaped, readAllEscaped_front begun plain] at read
  obtain ⟨last, finished, same⟩ := Option.map_eq_some_iff.mp read
  have splits := splits_literal on taken [] last finished
  rw [List.append_assoc, List.append_cancel_left_eq] at same
  rw [same] at splits
  simp at splits

end

end Wire.Sql
