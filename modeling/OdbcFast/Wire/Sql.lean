import Mathlib.Data.List.Basic
import Mathlib.Tactic.Common

/-!
# How an SQL text is read

A text is cut into tokens, one character after another: words, delimited identifiers, string
literals, comments, and the other characters one by one. A quote inside quotes is doubled.
Which quotes delimit identifiers is a matter of the dialect, and given as a map from the opening
quote to the closing one.

A text whose quotes or comments are not closed has no tokens. Statements are what stands between
semicolons.
-/

namespace Wire.Sql

inductive Token where
  | word (text : List Char)
  | identifier (name : List Char)
  | literal (text : List Char)
  | comment (text : List Char)
  | symbol (char : Char)
  deriving DecidableEq, Repr

def Token.isComment : Token → Bool
  | .comment _ => true
  | _ => false

/-- The closing quote of each opening one. -/
abbrev Quotes := Char → Option Char

/-- What the characters so far have begun. -/
inductive Reading where
  | between
  | word (text : List Char)
  | identifier (close : Char) (name : List Char)
  /-- A closing quote was read, which may be the first of two. -/
  | closing (close : Char) (name : List Char)
  | literal (text : List Char)
  | literalEnd (text : List Char)
  | dash
  | slash
  | lineComment (text : List Char)
  | blockComment (text : List Char)
  | star (text : List Char)
  deriving DecidableEq, Repr

def isWordChar (c : Char) : Bool := c.isAlphanum || c == '_'

def isBlank (c : Char) : Bool := c.isWhitespace

section

variable (quotes : Quotes)

/-- A character that begins something. -/
def start (c : Char) : Reading × List Token :=
  if isBlank c then (.between, [])
  else if isWordChar c then (.word [c], [])
  else if c = '\'' then (.literal [], [])
  else if c = '-' then (.dash, [])
  else if c = '/' then (.slash, [])
  else
    match quotes c with
    | some close => (.identifier close [], [])
    | none => (.between, [.symbol c])

/-- A token has ended in front of a character. -/
def startBehind (token : Token) (c : Char) : Reading × List Token :=
  ((start quotes c).1, token :: (start quotes c).2)

def read : Reading → Char → Reading × List Token
  | .between, c => start quotes c
  | .word text, c =>
    if isWordChar c then (.word (text ++ [c]), []) else startBehind quotes (.word text) c
  | .identifier close name, c =>
    if c = close then (.closing close name, []) else (.identifier close (name ++ [c]), [])
  | .closing close name, c =>
    if c = close then (.identifier close (name ++ [c]), [])
    else startBehind quotes (.identifier name) c
  | .literal text, c =>
    if c = '\'' then (.literalEnd text, []) else (.literal (text ++ [c]), [])
  | .literalEnd text, c =>
    if c = '\'' then (.literal (text ++ [c]), []) else startBehind quotes (.literal text) c
  | .dash, c => if c = '-' then (.lineComment [], []) else startBehind quotes (.symbol '-') c
  | .slash, c => if c = '*' then (.blockComment [], []) else startBehind quotes (.symbol '/') c
  | .lineComment text, c =>
    if c = '\n' then (.between, [.comment text]) else (.lineComment (text ++ [c]), [])
  | .blockComment text, c =>
    if c = '*' then (.star text, []) else (.blockComment (text ++ [c]), [])
  | .star text, c =>
    if c = '/' then (.between, [.comment text])
    else if c = '*' then (.star (text ++ [c]), [])
    else (.blockComment (text ++ ['*', c]), [])

/-- The end of the text. -/
def finish : Reading → Option (List Token)
  | .between => some []
  | .word text => some [.word text]
  | .closing _ name => some [.identifier name]
  | .literalEnd text => some [.literal text]
  | .dash => some [.symbol '-']
  | .slash => some [.symbol '/']
  | .lineComment text => some [.comment text]
  | .identifier _ _ | .literal _ | .blockComment _ | .star _ => none

def readAll : Reading → List Char → Reading × List Token
  | reading, [] => (reading, [])
  | reading, c :: cs =>
    ((readAll (read quotes reading c).1 cs).1,
      (read quotes reading c).2 ++ (readAll (read quotes reading c).1 cs).2)

/-- The tokens of a text. -/
def tokens (text : List Char) : Option (List Token) :=
  (finish (readAll quotes .between text).1).map ((readAll quotes .between text).2 ++ ·)

/-- What stands between the semicolons. -/
def between (tokens : List Token) : List (List Token) :=
  (tokens.splitOn (.symbol ';')).filter fun statement => ¬ statement.isEmpty

/-- The statements of a text, without its comments. -/
def statements (text : List Char) : Option (List (List Token)) :=
  (tokens quotes text).map fun tokens => between (tokens.filter fun token => ¬ token.isComment)

end

/-! ## Reading on -/

variable {quotes : Quotes}

theorem readAll_append (reading : Reading) (first second : List Char) :
    readAll quotes reading (first ++ second) =
      ((readAll quotes (readAll quotes reading first).1 second).1,
        (readAll quotes reading first).2 ++
          (readAll quotes (readAll quotes reading first).1 second).2) := by
  induction first generalizing reading with
  | nil => rfl
  | cons c cs ih =>
      simp only [List.cons_append, readAll, ih, List.append_assoc]

/-- Inside quotes everything is read up to the closing one. -/
theorem readAll_identifier {close : Char} {name text : List Char} (open' : close ∉ text) :
    readAll quotes (.identifier close name) text = (.identifier close (name ++ text), []) := by
  induction text generalizing name with
  | nil => rw [List.append_nil]; rfl
  | cons c cs ih =>
      rw [List.mem_cons, not_or] at open'
      rw [readAll, read, if_neg (Ne.symm open'.1), ih open'.2, List.append_assoc]
      rfl

/-- A name in quotes that does not contain the closing one. -/
theorem readAll_quoted {reading : Reading} {opening close : Char} {name : List Char}
    {done : List Token} (opens : read quotes reading opening = (.identifier close [], done))
    (clean : close ∉ name) :
    readAll quotes reading (opening :: (name ++ [close])) = (.closing close name, done) := by
  rw [readAll, opens]
  dsimp only
  rw [readAll_append, readAll_identifier clean, List.nil_append]
  dsimp only [readAll, read]
  rw [if_pos rfl]
  simp

/-- Nothing is open in which a blank or a semicolon would be text. -/
def Reading.isOutside : Reading → Bool
  | .between | .word _ | .literalEnd _ | .dash | .slash => true
  | .closing close _ => close != ' ' && close != ';'
  | .identifier _ _ | .literal _ | .lineComment _ | .blockComment _ | .star _ => false

theorem start_semicolon (separates : quotes ';' = none) :
    start quotes ';' = (.between, [.symbol ';']) := by
  rw [start, if_neg (by decide), if_neg (by decide), if_neg (by decide), if_neg (by decide),
    if_neg (by decide), separates]

/-- Outside quotes and comments a blank ends what has begun, and so does a semicolon. -/
theorem read_outside {reading : Reading} (outside : reading.isOutside = true) :
    ∃ done, finish reading = some done ∧ read quotes reading ' ' = (.between, done) ∧
      (quotes ';' = none → read quotes reading ';' = (.between, done ++ [.symbol ';'])) := by
  cases reading with
  | between => exact ⟨[], rfl, rfl, start_semicolon⟩
  | word text =>
      refine ⟨_, rfl, rfl, fun separates => ?_⟩
      rw [read, if_neg (by decide), startBehind, start_semicolon separates]
      rfl
  | closing close name =>
      simp only [Reading.isOutside, Bool.and_eq_true, bne_iff_ne] at outside
      refine ⟨_, rfl, if_neg (Ne.symm outside.1), fun separates => ?_⟩
      rw [read, if_neg (Ne.symm outside.2), startBehind, start_semicolon separates]
      rfl
  | literalEnd text =>
      refine ⟨_, rfl, rfl, fun separates => ?_⟩
      rw [read, if_neg (by decide), startBehind, start_semicolon separates]
      rfl
  | dash =>
      refine ⟨_, rfl, rfl, fun separates => ?_⟩
      rw [read, if_neg (by decide), startBehind, start_semicolon separates]
      rfl
  | slash =>
      refine ⟨_, rfl, rfl, fun separates => ?_⟩
      rw [read, if_neg (by decide), startBehind, start_semicolon separates]
      rfl
  | identifier _ _ | literal _ | lineComment _ | blockComment _ | star _ => cases outside

/-- A blank that leaves nothing open leaves nothing begun. -/
theorem read_blank_eq_between {reading : Reading}
    (outside : (read quotes reading ' ').1.isOutside = true) :
    (read quotes reading ' ').1 = .between := by
  cases reading with
  | identifier close name =>
      rw [read] at outside
      by_cases ends : ' ' = close
      · rw [if_pos ends, ← ends] at outside
        cases outside
      · rw [if_neg ends] at outside
        cases outside
  | closing close name =>
      rw [read] at outside ⊢
      by_cases ends : ' ' = close
      · rw [if_pos ends] at outside
        cases outside
      · rw [if_neg ends]
        rfl
  | between | word _ | literalEnd _ | dash | slash => rfl
  | literal _ | lineComment _ | blockComment _ | star _ => cases outside

/-- What is put in between is read as it is, and everything else as it was. -/
theorem tokens_insert {before clause after : List Char} {more : List Token} {last : List Char}
    (outside : (readAll quotes .between before).1.isOutside = true)
    (reads : readAll quotes .between clause = (.word last, more))
    (separates : quotes ';' = none) (ends : after = [] ∨ ∃ behind, after = ';' :: behind) :
    ∃ (done : List Token) (rest : Option (List Token)),
      tokens quotes (before ++ after) = rest.map (done ++ ·) ∧
      tokens quotes (before ++ ' ' :: clause ++ after) =
        rest.map (done ++ (more ++ [.word last]) ++ ·) ∧
      tokens quotes before = some done := by
  obtain ⟨done, finished, blank, semicolon⟩ := @read_outside quotes _ outside
  have inserted : readAll quotes .between (before ++ ' ' :: clause) =
      (.word last, (readAll quotes .between before).2 ++ (done ++ more)) := by
    rw [readAll_append, readAll, blank, reads]
  refine ⟨(readAll quotes .between before).2 ++ done, ?_⟩
  rcases ends with rfl | ⟨behind, rfl⟩
  · refine ⟨some [], ?_, ?_, ?_⟩
    · simp only [List.append_nil, tokens, finished, Option.map_some]
    · simp only [List.append_nil, tokens, inserted, finish, Option.map_some, List.append_assoc]
    · simp only [tokens, finished, Option.map_some]
  · have semicolon' : read quotes (.word last) ';' = (.between, [.word last, .symbol ';']) := by
      rw [read, if_neg (by decide), startBehind, start_semicolon separates]
    refine ⟨(tokens quotes behind).map (.symbol ';' :: ·), ?_, ?_, ?_⟩
    · simp only [tokens, readAll_append, readAll, semicolon separates, Option.map_map,
        Function.comp_def, List.append_assoc, List.cons_append, List.nil_append]
    · rw [tokens, readAll_append _ (before ++ ' ' :: clause), inserted]
      simp only [tokens, readAll, semicolon', Option.map_map, Function.comp_def,
        List.append_assoc, List.cons_append, List.nil_append]
    · simp only [tokens, finished, Option.map_some]

theorem tokens_append_semicolon {before : List Char} {done : List Token}
    (outside : (readAll quotes .between before).1.isOutside = true)
    (separates : quotes ';' = none) (read : tokens quotes before = some done) :
    tokens quotes (before ++ [';']) = some (done ++ [.symbol ';']) := by
  obtain ⟨last, finished, -, semicolon⟩ := @read_outside quotes _ outside
  rw [tokens, finished, Option.map_some, Option.some_inj] at read
  rw [tokens, readAll_append, readAll, semicolon separates, ← read]
  simp only [readAll, finish, Option.map_some, List.append_nil, List.append_assoc]

/-- The same between two tokens. -/
theorem tokens_insert_between {before clause after : List Char} {more : List Token}
    (outside : (readAll quotes .between before).1 = .between)
    (reads : readAll quotes .between clause = (.between, more)) :
    ∃ (done : List Token) (rest : Option (List Token)),
      tokens quotes (before ++ after) = rest.map (done ++ ·) ∧
      tokens quotes (before ++ clause ++ after) = rest.map (done ++ more ++ ·) ∧
      tokens quotes before = some done := by
  refine ⟨(readAll quotes .between before).2, tokens quotes after, ?_, ?_, ?_⟩
  · simp only [tokens, readAll_append, outside, Option.map_map, Function.comp_def,
      List.append_assoc]
  · simp only [tokens, readAll_append, outside, reads, Option.map_map, Function.comp_def,
      List.append_assoc]
  · simp only [tokens, outside, finish, Option.map_some, List.append_nil]

theorem read_no_semicolon {reading : Reading} {c : Char} (other : c ≠ ';') :
    Token.symbol ';' ∉ (read quotes reading c).2 := by
  have begins : Token.symbol ';' ∉ (start quotes c).2 := by
    rw [start]
    split_ifs
    · simp
    · simp
    · simp
    · simp
    · simp
    · rcases quotes c with _ | close
      · simpa using Ne.symm other
      · simp
  cases reading with
  | between => exact begins
  | word _ | closing _ _ | literalEnd _ | dash | slash | identifier _ _ | literal _
  | lineComment _ | blockComment _ | star _ =>
      rw [read]
      split_ifs <;> simp [startBehind, begins]

theorem finish_no_semicolon {reading : Reading} {last : List Token}
    (finished : finish reading = some last) : Token.symbol ';' ∉ last := by
  cases reading with
  | between | word _ | closing _ _ | literalEnd _ | dash | slash | lineComment _ =>
      cases finished
      simp
  | identifier _ _ | literal _ | blockComment _ | star _ => cases finished

/-- A text without a semicolon has no token for one. -/
theorem tokens_no_semicolon {text : List Char} {written : List Token} (none : ';' ∉ text)
    (read : tokens quotes text = some written) : Token.symbol ';' ∉ written := by
  have during : ∀ (text : List Char) (reading : Reading), ';' ∉ text →
      Token.symbol ';' ∉ (readAll quotes reading text).2 := by
    intro text
    induction text with
    | nil => simp [readAll]
    | cons c text ih =>
        intro reading none
        rw [List.mem_cons, not_or] at none
        rw [readAll, List.mem_append, not_or]
        exact ⟨read_no_semicolon (Ne.symm none.1), ih _ none.2⟩
  obtain ⟨last, finished, rfl⟩ := Option.map_eq_some_iff.mp read
  rw [List.mem_append, not_or]
  exact ⟨during text _ none, finish_no_semicolon finished⟩

/-- Tokens without a semicolon are one statement. -/
theorem between_of_not_mem {tokens : List Token} (some : tokens ≠ [])
    (single : Token.symbol ';' ∉ tokens) : between tokens = [tokens] := by
  have whole : tokens.splitOn (.symbol ';') = [tokens] := by
    refine List.splitOnP_eq_singleton fun token member => ?_
    rw [beq_eq_false_iff_ne]
    rintro rfl
    exact single member
  rw [between, whole, List.filter_singleton]
  simp [some]

/-- A semicolon behind the last statement adds none. -/
theorem between_append_semicolon {tokens : List Token} (some : tokens ≠ [])
    (single : Token.symbol ';' ∉ tokens) : between (tokens ++ [.symbol ';']) = [tokens] := by
  have whole : (tokens ++ [Token.symbol ';']).splitOn (.symbol ';') = [tokens, []] :=
    List.splitOn_append_cons_self_of_not_mem single []
  rw [between, whole]
  simp [some]

/-! ## The outline of a statement

What stands in parentheses is left out of a statement, and its words are taken in upper case.
-/

def depthBehind (depth : Nat) : Token → Nat
  | .symbol '(' => depth + 1
  | .symbol ')' => depth - 1
  | _ => depth

/-- How many parentheses are open behind the tokens. -/
def depth (tokens : List Token) : Nat := tokens.foldl depthBehind 0

/-- The tokens that are not in parentheses; of these the opening ones stay. -/
def outside : Nat → List Token → List Token
  | _, [] => []
  | 0, token :: tokens => token :: outside (depthBehind 0 token) tokens
  | open' + 1, token :: tokens => outside (depthBehind (open' + 1) token) tokens

/-- The word behind such a token does not begin a clause: it is the name of a variable, or the last
of `IS DISTINCT FROM`. -/
def takesWord : Token → Bool
  | .symbol c => c = '@' || c = '#' || c = '$'
  | .word text => text.map Char.toUpper = "DISTINCT".toList
  | _ => false

/-- A word in upper case, or a name. -/
def Token.named (taken : Bool) : Token → Token
  | .word text => if taken then .identifier text else .word (text.map Char.toUpper)
  | token => token

def namedTokens : Bool → List Token → List Token
  | _, [] => []
  | taken, token :: tokens => token.named taken :: namedTokens (takesWord token) tokens

/-- The outer words, names and symbols. -/
def outline (tokens : List Token) : List Token :=
  namedTokens false (outside 0 (tokens.filter fun token => ¬ token.isComment))

/-- The word that a text begins with, in upper case. -/
def firstWord (text : List Char) : List Char :=
  ((text.dropWhile isBlank).takeWhile isWordChar).map Char.toUpper

/-! ## Texts put together from literals

Their characters are read off the literals, without their bytes.
-/

/-- The text is made of literals with these characters. -/
inductive Spelled : String → List Char → Prop where
  | append {front back : String} {chars more : List Char} (first : Spelled front chars)
      (second : Spelled back more) : Spelled (front ++ back) (chars ++ more)
  | literal (chars : List Char) : Spelled (String.ofList chars) chars

theorem Spelled.toList_eq {text : String} {chars : List Char} (spelled : Spelled text chars) :
    text.toList = chars := by
  induction spelled with
  | append first second ih ih' => rw [String.toList_append, ih, ih']
  | literal chars => exact String.toList_ofList

end Wire.Sql
