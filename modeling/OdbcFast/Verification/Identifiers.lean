import OdbcFast.Native.Engine.Transaction
import OdbcFast.Wire.Sql
import OdbcFast.Wire.Utf8

/-!
# Names in statements

The names that are accepted are letters, digits and underscores. Between quotes such a name is
one identifier, so a statement that is built from it says what it says of every name.
-/

namespace OdbcFast.Verification

open Wire OdbcFast.Native OdbcFast.Native.Engine

/-- The names that are accepted. -/
structure AcceptedName (name : String) : Prop where
  short : name.toList.length ≤ maxIdentifierLen
  begins : ∃ first rest, name.toList = first :: rest ∧ (first.isAlpha ∨ first = '_') ∧
    ∀ c ∈ rest, Sql.isWordChar c

/-! ## Bytes -/

theorem continuesIdentifier_ascii :
    ∀ n < 128, continuesIdentifier (UInt8.ofNat n) = Sql.isWordChar (Char.ofNat n) ∧
      startsIdentifier (UInt8.ofNat n) =
        ((Char.ofNat n).isAlpha || Char.ofNat n == '_') := by
  decide

theorem not_continues_high {byte : UInt8} (high : 0x80 ≤ byte.toNat) :
    continuesIdentifier byte = false ∧ startsIdentifier byte = false := by
  simp only [startsIdentifier, continuesIdentifier, isAsciiAlphabetic, isAsciiDigit, underscore,
    UInt8.le_iff_toNat_le, ← UInt8.toNat_inj, beq_eq_decide, Bool.or_eq_false_iff,
    decide_eq_false_iff_not]
  have bounds : (0x5a : UInt8).toNat = 90 ∧ (0x7a : UInt8).toNat = 122 ∧
    (0x39 : UInt8).toNat = 57 ∧ (0x5f : UInt8).toNat = 95 := ⟨rfl, rfl, rfl, rfl⟩
  omega

theorem isWordChar_ascii {c : Char} (word : Sql.isWordChar c = true) : c.toNat < 128 := by
  have listed : (((decide (65 ≤ c.val ∧ c.val ≤ 90) ||
      (decide (97 ≤ c.val) && decide (c.val ≤ 122))) ||
      (decide (48 ≤ c.val) && decide (c.val ≤ 57))) || c == '_') = true := word
  simp only [Bool.or_eq_true, Bool.and_eq_true, decide_eq_true_iff, beq_iff_eq] at listed
  rcases listed with (((⟨-, low⟩ | ⟨-, low⟩) | ⟨-, low⟩) | rfl)
  · exact Nat.lt_of_le_of_lt (UInt32.le_iff_toNat_le.mp low) (by decide)
  · exact Nat.lt_of_le_of_lt (UInt32.le_iff_toNat_le.mp low) (by decide)
  · exact Nat.lt_of_le_of_lt (UInt32.le_iff_toNat_le.mp low) (by decide)
  · decide

/-- The bytes of a character are allowed when the character is. -/
theorem continues_iff (c : Char) :
    (∀ byte ∈ String.utf8EncodeChar c, continuesIdentifier byte = true) ↔
      Sql.isWordChar c = true := by
  by_cases ascii : c.toNat < 128
  · rw [utf8EncodeChar_of_ascii ascii, List.forall_mem_singleton,
      (continuesIdentifier_ascii _ ascii).1, Char.ofNat_toNat]
  · obtain ⟨byte, bytes, encoded, high⟩ := utf8EncodeChar_of_not_ascii ascii
    refine iff_of_false (fun all => ?_) fun word => ascii (isWordChar_ascii word)
    have allowed := all byte (by rw [encoded]; exact List.mem_cons_self)
    rw [(not_continues_high high).1] at allowed
    cases allowed

theorem validateTail_eq_ok_iff {name : String} {bytes : List UInt8} :
    validateTail name bytes = .ok () ↔ ∀ byte ∈ bytes, continuesIdentifier byte = true := by
  induction bytes with
  | nil => exact iff_of_true rfl (by simp)
  | cons byte bytes ih =>
      rw [validateTail, List.forall_mem_cons]
      by_cases allowed : continuesIdentifier byte = true
      · rw [if_pos allowed, ih, and_iff_right allowed]
      · rw [if_neg allowed]
        exact iff_of_false (by rintro ⟨⟩) fun all => allowed all.1

theorem validateTail_flatMap_iff {name : String} {chars : List Char} :
    validateTail name (chars.flatMap String.utf8EncodeChar) = .ok () ↔
      ∀ c ∈ chars, Sql.isWordChar c = true := by
  rw [validateTail_eq_ok_iff]
  simp only [List.mem_flatMap, ← continues_iff]
  exact ⟨fun all c member byte inside => all byte ⟨c, member, inside⟩,
    fun all byte inside => inside.elim fun c found => all c found.1 byte found.2⟩

/-- The bytes of a word are as many as its characters. -/
theorem length_flatMap_word {chars : List Char} (word : ∀ c ∈ chars, Sql.isWordChar c = true) :
    (chars.flatMap String.utf8EncodeChar).length = chars.length := by
  induction chars with
  | nil => rfl
  | cons c chars ih =>
      rw [List.forall_mem_cons] at word
      rw [List.flatMap_cons, utf8EncodeChar_of_ascii (isWordChar_ascii word.1), List.length_append,
        ih word.2, List.length_singleton, List.length_cons, Nat.add_comm]

theorem isWordChar_of_begins {c : Char} (begins : c.isAlpha ∨ c = '_') :
    Sql.isWordChar c = true := by
  rw [Sql.isWordChar, Char.isAlphanum]
  rcases begins with alpha | rfl
  · simp [alpha]
  · rfl

theorem AcceptedName.word {name : String} (accepted : AcceptedName name) :
    ∀ c ∈ name.toList, Sql.isWordChar c = true := by
  obtain ⟨first, rest, same, begins, word⟩ := accepted.begins
  rw [same, List.forall_mem_cons]
  exact ⟨isWordChar_of_begins begins, word⟩

theorem validateIdentifier_eq_ok_iff (name : String) :
    validateIdentifier name = .ok () ↔ AcceptedName name := by
  rw [validateIdentifier, toList_toUTF8, utf8Bytes_eq]
  rcases same : name.toList with _ | ⟨first, rest⟩
  · refine iff_of_false (by rintro ⟨⟩) fun accepted => ?_
    obtain ⟨first, rest, begins, -⟩ := accepted.begins
    cases same.symm.trans begins
  have accepted : AcceptedName name ↔ (first :: rest).length ≤ maxIdentifierLen ∧
      (first.isAlpha ∨ first = '_') ∧ ∀ c ∈ rest, Sql.isWordChar c := by
    constructor
    · rintro ⟨short, first', rest', same', begins⟩
      cases same.symm.trans same'
      exact ⟨by rwa [same] at short, begins⟩
    · rintro ⟨short, begins⟩
      exact ⟨by rwa [same], first, rest, same, begins⟩
  rw [accepted, List.flatMap_cons]
  by_cases ascii : first.toNat < 128
  · rw [utf8EncodeChar_of_ascii ascii]
    obtain ⟨-, starts⟩ := continuesIdentifier_ascii _ ascii
    rw [Char.ofNat_toNat] at starts
    dsimp only [List.cons_append, List.nil_append]
    rw [List.length_cons, List.length_cons]
    by_cases word : ∀ c ∈ rest, Sql.isWordChar c = true
    · rw [length_flatMap_word word]
      by_cases long : rest.length + 1 > maxIdentifierLen
      · rw [if_pos long]
        exact iff_of_false (by rintro ⟨⟩) fun fits => absurd fits.1 (Nat.not_le_of_lt long)
      · rw [if_neg long, and_iff_right (Nat.le_of_not_lt long), and_iff_left word, starts]
        by_cases begins : (first.isAlpha || first == '_') = true
        · rw [if_pos begins, validateTail_flatMap_iff]
          exact iff_of_true word (by simpa using begins)
        · rw [if_neg begins]
          exact iff_of_false (by rintro ⟨⟩) (by simpa using begins)
    · refine iff_of_false (fun valid => word ?_) fun fits => word fits.2.2
      split_ifs at valid
      exact validateTail_flatMap_iff.mp valid
  · obtain ⟨byte, bytes, encoded, high⟩ := utf8EncodeChar_of_not_ascii ascii
    rw [encoded, List.cons_append]
    refine iff_of_false (fun valid => ?_) fun fits => ?_
    · dsimp only at valid
      rw [(not_continues_high high).2, if_neg Bool.false_ne_true] at valid
      split_ifs at valid
    · exact ascii (isWordChar_ascii (isWordChar_of_begins fits.2.1))

theorem validateIdentifier_eq_error {name : String} {error : OdbcError}
    (refused : validateIdentifier name = .error error) : ∃ text, error = .validationError text := by
  have tail : ∀ bytes, validateTail name bytes = .error error →
      ∃ text, error = .validationError text := by
    intro bytes refused
    induction bytes with
    | nil => cases refused
    | cons byte bytes ih =>
        rw [validateTail] at refused
        split_ifs at refused
        · exact ih refused
        · cases refused
          exact ⟨_, rfl⟩
  rw [validateIdentifier] at refused
  generalize name.toUTF8.toList = bytes at refused
  rcases bytes with _ | ⟨first, rest⟩
  · cases refused
    exact ⟨_, rfl⟩
  · dsimp only at refused
    split_ifs at refused
    · cases refused
      exact ⟨_, rfl⟩
    · exact tail rest refused
    · cases refused
      exact ⟨_, rfl⟩

/-! ## Quoted names -/

def opening : IdentifierQuoting → Char
  | .doubleQuote => '"'
  | .brackets => '['
  | .backtick => '\x60'

def closing : IdentifierQuoting → Char
  | .doubleQuote => '"'
  | .brackets => ']'
  | .backtick => '\x60'

/-- How the dialects that quote so read quotes. -/
def quotesOf (style : IdentifierQuoting) : Sql.Quotes := fun c =>
  if c = opening style then some (closing style) else none

/-- A text inside another. -/
@[simp] theorem toString_text (text : String) : toString text = text := rfl

theorem toList_wrap (style : IdentifierQuoting) (name : String) :
    (style.wrap name).toList = opening style :: (name.toList ++ [closing style]) := by
  cases style with
  | doubleQuote | brackets | backtick =>
      simp [IdentifierQuoting.wrap, opening, closing]

theorem closing_not_mem {name : String} (accepted : AcceptedName name) (style : IdentifierQuoting) :
    closing style ∉ name.toList := by
  intro member
  have word := accepted.word _ member
  cases style with
  | _ => revert word; decide

/-- A quoted name behind a text that is complete. -/
theorem readAll_wrap {name : String} (accepted : AcceptedName name) (style : IdentifierQuoting) :
    Sql.readAll (quotesOf style) .between (style.wrap name).toList =
      (.closing (closing style) name.toList, []) := by
  rw [toList_wrap]
  refine Sql.readAll_quoted ?_ (closing_not_mem accepted style)
  cases style with
  | _ => decide

theorem tokens_wrap {name : String} (accepted : AcceptedName name) (style : IdentifierQuoting)
    {front : List Char} {done : List Sql.Token}
    (reads : Sql.readAll (quotesOf style) .between front = (.between, done)) :
    Sql.tokens (quotesOf style) (front ++ (style.wrap name).toList) =
      some (done ++ [.identifier name.toList]) := by
  rw [Sql.tokens, Sql.readAll_append, reads, readAll_wrap accepted style]
  simp [Sql.finish]

/-- The names of a joined text, with the dots between them. -/
def segments (parts : List String) : List Sql.Token :=
  (parts.map fun part => Sql.Token.identifier part.toList).intersperse (.symbol '.')

/-- A dot behind a closing quote. -/
theorem read_dot (style : IdentifierQuoting) (name : List Char) :
    Sql.read (quotesOf style) (.closing (closing style) name) '.' =
      (.between, [.identifier name, .symbol '.']) := by
  cases style with
  | _ => rfl

theorem readAll_joined (style : IdentifierQuoting) {part : String} {parts : List String}
    (accepted : ∀ name ∈ part :: parts, AcceptedName name) : ∃ last done,
      Sql.readAll (quotesOf style) .between
          (".".intercalate ((part :: parts).map style.wrap)).toList =
        (.closing (closing style) last, done) ∧
      done ++ [.identifier last] = segments (part :: parts) := by
  induction parts generalizing part with
  | nil =>
      rw [List.map_singleton, String.intercalate_singleton]
      exact ⟨_, _, readAll_wrap (accepted part List.mem_cons_self) style, rfl⟩
  | cons next parts ih =>
      obtain ⟨first, others⟩ := List.forall_mem_cons.mp accepted
      obtain ⟨last, done, reads, same⟩ := ih others
      have dot : ".".toList = ['.'] := by simp
      rw [List.map_cons, List.map_cons, String.intercalate_cons_cons, String.toList_append,
        String.toList_append, dot, List.append_assoc, Sql.readAll_append,
        readAll_wrap first style, List.singleton_append, Sql.readAll, read_dot]
      rw [List.map_cons] at reads
      dsimp only
      rw [reads]
      refine ⟨last, _, rfl, ?_⟩
      rw [List.nil_append, List.append_assoc, same]
      rfl

/-- Names joined by dots. -/
theorem tokens_joined {parts : List String} (style : IdentifierQuoting) (some : parts ≠ [])
    (accepted : ∀ part ∈ parts, AcceptedName part) :
    Sql.tokens (quotesOf style) (".".intercalate (parts.map style.wrap)).toList =
      Option.some (segments parts) := by
  obtain ⟨part, parts, rfl⟩ := List.exists_cons_of_ne_nil some
  obtain ⟨last, done, reads, same⟩ := readAll_joined style accepted
  rw [Sql.tokens, reads, ← same]
  rfl

theorem quoteIdentifier_eq_ok_iff {name text : String} {style : IdentifierQuoting} :
    quoteIdentifier name style = .ok text ↔ AcceptedName name ∧ text = style.wrap name := by
  rw [quoteIdentifier, ← validateIdentifier_eq_ok_iff]
  rcases validateIdentifier name with error | _
  · exact iff_of_false (by rintro ⟨⟩) (by rintro ⟨⟨⟩, -⟩)
  · rw [and_iff_right rfl]
    exact ⟨by rintro ⟨⟩; rfl, by rintro rfl; rfl⟩

theorem dotParts_ne_nil (qualified : String) : dotParts qualified ≠ [] := by
  rw [dotParts, ne_eq, List.map_eq_nil_iff]
  exact List.splitOnP_ne_nil _ _

/-- The text is these names, each quoted, with dots between them. -/
structure QuotesParts (style : IdentifierQuoting) (parts : List String) (text : String) : Prop where
  accepted : ∀ part ∈ parts, AcceptedName part
  written : text = ".".intercalate (parts.map style.wrap)
  tokens : Sql.tokens (quotesOf style) text.toList = some (segments parts)

theorem quotesParts_iff {style : IdentifierQuoting} {parts : List String} {text : String}
    (some : parts ≠ []) : QuotesParts style parts text ↔
      (∀ part ∈ parts, AcceptedName part) ∧ text = ".".intercalate (parts.map style.wrap) := by
  constructor
  · rintro ⟨accepted, written, -⟩
    exact ⟨accepted, written⟩
  · rintro ⟨accepted, rfl⟩
    exact ⟨accepted, rfl, tokens_joined style some accepted⟩

theorem quoteIdentifier_iff (name text : String) (style : IdentifierQuoting) :
    quoteIdentifier name style = .ok text ↔ QuotesParts style [name] text := by
  rw [quotesParts_iff (List.cons_ne_nil _ _), quoteIdentifier_eq_ok_iff,
    List.forall_mem_singleton, List.map_singleton, String.intercalate_singleton]

/-- Part by part. -/
theorem mapM_quote_iff {quote : String → Except OdbcError String} {style : IdentifierQuoting}
    (each : ∀ name text, quote name = .ok text ↔ AcceptedName name ∧ text = style.wrap name)
    (qualified text : String) :
    ((dotParts qualified).mapM quote >>= fun quoted => pure (".".intercalate quoted)) = .ok text ↔
      QuotesParts style (dotParts qualified) text := by
  rw [quotesParts_iff (dotParts_ne_nil qualified), bind_eq_ok]
  constructor
  · rintro ⟨quoted, all, same⟩
    cases same
    refine ⟨fun part member => ?_, ?_⟩
    · obtain ⟨text, quoted⟩ := exists_of_mapM_eq_ok all member
      exact ((each part text).mp quoted).1
    · rw [eq_map_of_mapM_eq_ok all fun part text quoted => ((each part text).mp quoted).2]
  · rintro ⟨accepted, rfl⟩
    refine ⟨_, mapM_eq_ok fun part member => ?_, rfl⟩
    exact (each part _).mpr ⟨accepted part member, rfl⟩

theorem quoteQualifiedDefault_iff (qualified text : String) :
    quoteQualifiedDefault qualified = .ok text ↔
      QuotesParts .doubleQuote (dotParts qualified) text :=
  mapM_quote_iff (fun _ _ => quoteIdentifier_eq_ok_iff) qualified text

theorem quoteTableBrackets_iff (table text : String) :
    quoteTableBrackets table = .ok text ↔ QuotesParts .brackets (dotParts table) text := by
  refine mapM_quote_iff (fun name text => ?_) table text
  rw [bind_eq_ok]
  constructor
  · rintro ⟨_, -, quoted⟩
    exact quoteIdentifier_eq_ok_iff.mp quoted
  · intro quoted
    exact ⟨(), (validateIdentifier_eq_ok_iff name).mpr quoted.1,
      quoteIdentifier_eq_ok_iff.mpr quoted⟩

/-! ## Savepoints -/

inductive SavepointCall where
  | create
  | rollbackTo
  | release
  deriving DecidableEq, Repr

namespace SavepointCall

def perform (driver : ConnectionDriver) (txn : Engine.Transaction) (name : String) :
    SavepointCall → Fallible Handles OdbcError Unit
  | .create => txn.savepointCreate driver name
  | .rollbackTo => txn.savepointRollbackTo driver name
  | .release => txn.savepointRelease driver name

/-- The words in front of the name; nothing is said to SQL Server about a release. -/
def words : SavepointCall → SavepointDialect → Option (List String)
  | .create, .sqlServer => some ["SAVE", "TRANSACTION"]
  | .create, _ => some ["SAVEPOINT"]
  | .rollbackTo, .sqlServer => some ["ROLLBACK", "TRANSACTION"]
  | .rollbackTo, _ => some ["ROLLBACK", "TO", "SAVEPOINT"]
  | .release, .sqlServer => none
  | .release, _ => some ["RELEASE", "SAVEPOINT"]

/-- The same as a text. -/
def front : SavepointCall → SavepointDialect → String
  | .create, .sqlServer => "SAVE TRANSACTION "
  | .create, _ => "SAVEPOINT "
  | .rollbackTo, .sqlServer => "ROLLBACK TRANSACTION "
  | .rollbackTo, _ => "ROLLBACK TO SAVEPOINT "
  | .release, .sqlServer => ""
  | .release, _ => "RELEASE SAVEPOINT "

theorem readAll_front (call : SavepointCall) (dialect : SavepointDialect) :
    ∀ words ∈ call.words dialect,
      Sql.readAll (quotesOf (Engine.Transaction.quotingFor dialect)) .between
          (call.front dialect).toList =
        (.between, words.map fun word => .word word.toList) := by
  cases call with
  | _ => cases dialect with
    | _ => decide

end SavepointCall

/-- The text is one statement: these words and this name. -/
def Names (style : IdentifierQuoting) (words : List String) (name sql : String) : Prop :=
  Sql.statements (quotesOf style) sql.toList =
    some [(words.map fun word => .word word.toList) ++ [.identifier name.toList]]

theorem names_of_front {style : IdentifierQuoting} {words : List String} {name front : String}
    (accepted : AcceptedName name)
    (reads : Sql.readAll (quotesOf style) .between front.toList =
      (.between, words.map fun word => .word word.toList)) :
    Names style words name (front ++ style.wrap name) := by
  have spoken : ∀ token ∈ (words.map fun word => Sql.Token.word word.toList) ++
      [.identifier name.toList], (∃ text, token = .word text) ∨ ∃ name, token = .identifier name := by
    intro token member
    rcases List.mem_append.mp member with member | member
    · obtain ⟨word, -, rfl⟩ := List.mem_map.mp member
      exact .inl ⟨_, rfl⟩
    · exact .inr ⟨_, List.mem_singleton.mp member⟩
  rw [Names, Sql.statements, String.toList_append, tokens_wrap accepted style reads,
    Option.map_some, List.filter_eq_self.mpr, Sql.between_of_not_mem (by simp)]
  · intro member
    rcases spoken _ member with ⟨text, ⟨⟩⟩ | ⟨name, ⟨⟩⟩
  · intro token member
    rcases spoken token member with ⟨text, rfl⟩ | ⟨name, rfl⟩
    · rfl
    · rfl

section

variable {driver : ConnectionDriver} {txn : Engine.Transaction} {name : String} {handles : Handles}

/-- What a call about a savepoint does: it says one thing of this name to the database, or
nothing where there is nothing to say. -/
def SaysOne (driver : ConnectionDriver) (txn : Engine.Transaction) (call : SavepointCall)
    (name : String) (handles : Handles) : Prop :=
  match call.words txn.savepointDialect with
  | some words => ∃ sql,
      (call.perform driver txn name).perform handles =
        (txn.executeSql driver sql).perform handles ∧
      Names (Engine.Transaction.quotingFor txn.savepointDialect) words name sql
  | none => (call.perform driver txn name).perform handles = (.ok (), handles)

theorem perform_of_accepted (call : SavepointCall) (accepted : AcceptedName name) :
    call.perform driver txn name =
      match call.words txn.savepointDialect with
      | some _ => txn.executeSql driver (call.front txn.savepointDialect ++
          (Engine.Transaction.quotingFor txn.savepointDialect).wrap name)
      | none => pure () := by
  have valid := (validateIdentifier_eq_ok_iff name).mpr accepted
  have quoted : ∀ style, quoteIdentifier name style = .ok (style.wrap name) := fun style =>
    quoteIdentifier_eq_ok_iff.mpr ⟨accepted, rfl⟩
  obtain ⟨connId, state, level, dialect, mode, timeout⟩ := txn
  cases call with
  | create =>
      dsimp only [SavepointCall.perform, Engine.Transaction.savepointCreate]
      rw [valid, quoted]
      cases dialect with
      | _ => rfl
  | rollbackTo =>
      dsimp only [SavepointCall.perform, Engine.Transaction.savepointRollbackTo]
      rw [valid, quoted]
      cases dialect with
      | _ => rfl
  | release =>
      dsimp only [SavepointCall.perform, Engine.Transaction.savepointRelease]
      rw [valid, quoted]
      cases dialect with
      | _ => rfl

/-- A name that is not accepted is refused before anything is said. -/
theorem perform_of_not_accepted (call : SavepointCall) (refused : ¬ AcceptedName name) :
    ∃ text, (call.perform driver txn name).perform handles =
      (.error (.validationError text), handles) := by
  rcases valid : validateIdentifier name with error | _
  · obtain ⟨text, rfl⟩ := validateIdentifier_eq_error valid
    have checked : (Fallible.check (validateIdentifier name) : Fallible Handles _ _).perform
        handles = (.error (.validationError text), handles) := by
      rw [valid]
      rfl
    cases call with
    | create | rollbackTo | release => exact ⟨text, Fallible.perform_bind_error checked⟩
  · exact absurd ((validateIdentifier_eq_ok_iff name).mp valid) refused

theorem saysOne_of_accepted (call : SavepointCall) (accepted : AcceptedName name) :
    SaysOne driver txn call name handles := by
  rw [SaysOne, perform_of_accepted call accepted]
  rcases said : call.words txn.savepointDialect with _ | words
  · rfl
  · exact ⟨_, rfl, names_of_front accepted (call.readAll_front txn.savepointDialect words said)⟩

end

/-- Quoted names are names of letters, digits and underscores between quotes, with dots between
them; what is said about a savepoint is one statement with its name; and nothing is said with
any other name. -/
theorem quoted_names :
    (∀ name, validateIdentifier name = .ok () ↔ AcceptedName name) ∧
      (∀ name text style, quoteIdentifier name style = .ok text ↔ QuotesParts style [name] text) ∧
      (∀ qualified text, quoteQualifiedDefault qualified = .ok text ↔
        QuotesParts .doubleQuote (dotParts qualified) text) ∧
      (∀ table text, quoteTableBrackets table = .ok text ↔
        QuotesParts .brackets (dotParts table) text) ∧
      ∀ driver txn (call : SavepointCall) name handles,
        AcceptedName name ∧ SaysOne driver txn call name handles ∨
          ¬ AcceptedName name ∧ ∃ text, (call.perform driver txn name).perform handles =
            (.error (.validationError text), handles) := by
  refine ⟨validateIdentifier_eq_ok_iff, quoteIdentifier_iff, quoteQualifiedDefault_iff,
    quoteTableBrackets_iff, ?_⟩
  intro driver txn call name handles
  by_cases accepted : AcceptedName name
  · exact .inl ⟨accepted, saysOne_of_accepted call accepted⟩
  · exact .inr ⟨accepted, perform_of_not_accepted call accepted⟩

end OdbcFast.Verification
