import OdbcFast.Native.Plugins.SessionInit
import OdbcFast.Native.Plugins.Upsert
import OdbcFast.Verification.Identifiers
import OdbcFast.Wire.SqlEscapes
import OdbcFast.Wire.SqlPieces

/-!
# Options of a session in statements

What a caller says about a session is to stand in a literal or in a quoted name of one statement.
Quotes are doubled for that, which is enough where a backslash in a literal is a character like any
other. MySQL, MariaDB and Snowflake let it take the next character, and the character set of MySQL
and MariaDB is not put between quotes.
-/

namespace OdbcFast.Verification

open Wire OdbcFast.Native

inductive SessionOption where
  | applicationName
  | timezone
  | charset
  | schema
  deriving DecidableEq, Repr

def SessionOption.text (opts : SessionOptions) : SessionOption → Option String
  | .applicationName => opts.applicationName
  | .timezone => opts.timezone
  | .charset => opts.charset
  | .schema => opts.schema

/-- In front of the option and behind it, where the plugin says something about it. -/
def sessionForm (plugin : Plugin) : SessionOption → Option (String × String)
  | .charset =>
    match plugin with
    | .mySql | .mariaDb => some ("SET NAMES ", "")
    | _ => none
  | .timezone =>
    match plugin with
    | .mySql | .mariaDb => some ("SET time_zone = ", "")
    | .postgres => some ("SET TIME ZONE ", "")
    | .oracle => some ("ALTER SESSION SET TIME_ZONE=", "")
    | .snowflake => some ("ALTER SESSION SET TIMEZONE = ", "")
    | _ => none
  | .schema =>
    match plugin with
    | .mySql | .mariaDb => some ("USE ", "")
    | .postgres => some ("SET search_path TO ", "")
    | .oracle => some ("ALTER SESSION SET CURRENT_SCHEMA = ", "")
    | .db2 => some ("SET CURRENT SCHEMA = ", "")
    | .snowflake => some ("USE SCHEMA ", "")
    | _ => none
  | .applicationName =>
    match plugin with
    | .postgres => some ("SET application_name = ", "")
    | .db2 => some ("CALL SYSPROC.WLM_SET_CLIENT_INFO(", ", NULL, NULL, NULL, NULL)")
    | .snowflake => some ("ALTER SESSION SET QUERY_TAG = ", "")
    | _ => none

/-- The options in the order in which the plugin says something about them. -/
def saidOptions : Plugin → List SessionOption
  | .mySql | .mariaDb => [.charset, .timezone, .schema]
  | .postgres => [.applicationName, .timezone, .schema]
  | .oracle => [.timezone, .schema]
  | .db2 => [.schema, .applicationName]
  | .snowflake => [.timezone, .schema, .applicationName]
  | .sqlServer | .sqlite | .sybase => []

/-- What is said in any case. -/
def fixedSql (opts : SessionOptions) : Plugin → List String
  | .mySql | .mariaDb => if opts.charset = none then ["SET NAMES utf8mb4"] else []
  | .sqlServer => ["SET ARITHABORT ON", "SET CONCAT_NULL_YIELDS_NULL ON"]
  | .oracle => ["ALTER SESSION SET NLS_DATE_FORMAT='YYYY-MM-DD HH24:MI:SS'",
      "ALTER SESSION SET NLS_TIMESTAMP_FORMAT='YYYY-MM-DD HH24:MI:SS.FF'",
      "ALTER SESSION SET NLS_NUMERIC_CHARACTERS='.,'"]
  | .sqlite => ["PRAGMA foreign_keys = ON", "PRAGMA journal_mode = WAL",
      "PRAGMA synchronous = NORMAL"]
  | .sybase => ["SET QUOTED_IDENTIFIER ON", "SET CHAINED OFF"]
  | .postgres | .db2 | .snowflake => []

/-- How the plugin writes an option. -/
def writtenOption (plugin : Plugin) (text : String) : SessionOption → Option String
  | .schema => (quoteIdentifier text plugin.quotingStyle).toOption
  | .charset => some (SessionInit.removed text)
  | .timezone | .applicationName => some ("'" ++ SessionInit.doubled text ++ "'")

/-- The statement about an option. -/
def sessionSql (plugin : Plugin) (opts : SessionOptions) (option : SessionOption) :
    Option String := do
  let text ← option.text opts
  let form ← sessionForm plugin option
  let written ← writtenOption plugin text option
  pure (form.1 ++ written ++ form.2)

/-- A backslash in a literal takes the next character. -/
def backslashEscapes : Plugin → Bool
  | .mySql | .mariaDb | .snowflake => true
  | .sqlServer | .oracle | .postgres | .sybase | .sqlite | .db2 => false

/-- An option as it is to stand in a statement. -/
def SessionOption.token (text : String) : SessionOption → Sql.Token
  | .schema => .identifier text.toList
  | .applicationName | .timezone | .charset => .literal text.toList

/-- One statement of the form of the plugin, with nothing of the option but this token. -/
def SaysOption (plugin : Plugin) (option : SessionOption) (text sql : String) : Prop :=
  ∃ form tokens, sessionForm plugin option = some form ∧
    Sql.tokensEscaped (quotesOf plugin.quotingStyle) (backslashEscapes plugin) sql.toList =
      some tokens ∧
    tokens = Sql.plainTokens form.1.toList ++
      option.token text :: Sql.plainTokens form.2.toList ∧
    Sql.between tokens = [tokens]

/-- The statements about options are as they are meant, and there are no others but fixed ones and
those that the caller has written. -/
structure SessionFits (plugin : Plugin) (opts : SessionOptions) : Prop where
  said : plugin.initializationSql opts = fixedSql opts plugin ++
    (saidOptions plugin).filterMap (sessionSql plugin opts) ++ opts.extraSql
  quoted : ∀ option ∈ saidOptions plugin, ∀ sql, sessionSql plugin opts option = some sql →
    ∃ text, option.text opts = some text ∧ SaysOption plugin option text sql

/-- No quote of the text is taken by a backslash, nor the one behind it. -/
def KeepsQuotes (option : Option String) : Prop :=
  ∀ text, option = some text → Sql.keepsQuotes false text.toList = true

def SessionSafe (opts : SessionOptions) : Plugin → Prop
  | .mySql | .mariaDb => opts.charset = none ∧ KeepsQuotes opts.timezone
  | .snowflake => KeepsQuotes opts.timezone ∧ KeepsQuotes opts.applicationName
  | .sqlServer | .oracle | .postgres | .sybase | .sqlite | .db2 => True

/-! ## What is said -/

section

variable {plugin : Plugin} {opts : SessionOptions} {option : SessionOption} {text sql : String}

theorem filterMap_cons_toList {α β : Type} (f : α → Option β) (a : α) (items : List α) :
    (a :: items).filterMap f = (f a).toList ++ items.filterMap f := by
  rw [List.filterMap_cons]
  cases f a with
  | none => rfl
  | some b => rfl

/-- What is written of an option, with what stands around it. -/
theorem toList_sessionSql {form : String × String} {written item : String → String}
    (said : sessionForm plugin option = some form)
    (writes : ∀ text, writtenOption plugin text option = some (written text))
    (same : ∀ text, item text = form.1 ++ written text ++ form.2) :
    (sessionSql plugin opts option).toList = SessionInit.given (option.text opts) item := by
  rw [sessionSql, SessionInit.given]
  cases option.text opts with
  | none => rfl
  | some text =>
      rw [said, Option.map_some, same]
      change Option.toList ((writtenOption plugin text option).bind _) = _
      rw [writes]
      rfl

theorem toList_schemaSql {form : String × String} {item : String → String}
    (said : sessionForm plugin .schema = some form)
    (same : ∀ q, item q = form.1 ++ q ++ form.2) :
    (sessionSql plugin opts .schema).toList =
      SessionInit.schemaSql opts plugin.quotingStyle item := by
  rw [sessionSql, SessionInit.schemaSql, SessionOption.text]
  cases opts.schema with
  | none => rfl
  | some schema =>
      rw [said]
      change Option.toList ((writtenOption plugin schema .schema).bind _) = _
      rw [writtenOption]
      dsimp only
      cases quoteIdentifier schema plugin.quotingStyle with
      | error _ => rfl
      | ok q => exact congrArg (fun sql => [sql]) (same q).symm

/-- The character set of MySQL and MariaDB, given or not. -/
theorem charset_eq (opts : SessionOptions) (names : plugin = .mySql ∨ plugin = .mariaDb) :
    fixedSql opts plugin ++ (sessionSql plugin opts .charset).toList =
      ["SET NAMES " ++ SessionInit.removed (opts.charset.getD "utf8mb4")] := by
  have plain : "SET NAMES " ++ SessionInit.removed "utf8mb4" = "SET NAMES utf8mb4" := by
    decide
  obtain ⟨applicationName, timezone, charset, schema, extraSql⟩ := opts
  rcases names with rfl | rfl
  · cases charset with
    | none => exact congrArg (fun sql => [sql]) plain.symm
    | some charset => exact congrArg (fun sql => [sql]) (String.append_empty)
  · cases charset with
    | none => exact congrArg (fun sql => [sql]) plain.symm
    | some charset => exact congrArg (fun sql => [sql]) (String.append_empty)

theorem said_eq (plugin : Plugin) (opts : SessionOptions) :
    plugin.initializationSql opts = fixedSql opts plugin ++
      (saidOptions plugin).filterMap (sessionSql plugin opts) ++ opts.extraSql := by
  cases plugin with
  | sqlServer | sqlite | sybase => rfl
  | mySql =>
      have timezone := @toList_sessionSql .mySql opts .timezone _ _
        (fun tz => s!"SET time_zone = '{SessionInit.doubled tz}'")
        rfl (fun _ => rfl) (fun tz => by simp [← String.toList_inj])
      have schema := @toList_schemaSql .mySql opts _ (fun q => s!"USE {q}")
        rfl (fun q => by simp)
      have charset := charset_eq opts (.inl rfl)
      rw [saidOptions, filterMap_cons_toList, filterMap_cons_toList, filterMap_cons_toList,
        timezone, schema, List.filterMap_nil, List.append_nil, ← List.append_assoc, charset,
        ← List.append_assoc]
      rfl
  | mariaDb =>
      have timezone := @toList_sessionSql .mariaDb opts .timezone _ _
        (fun tz => s!"SET time_zone = '{SessionInit.doubled tz}'")
        rfl (fun _ => rfl) (fun tz => by simp [← String.toList_inj])
      have schema := @toList_schemaSql .mariaDb opts _ (fun q => s!"USE {q}")
        rfl (fun q => by simp)
      have charset := charset_eq opts (.inr rfl)
      rw [saidOptions, filterMap_cons_toList, filterMap_cons_toList, filterMap_cons_toList,
        timezone, schema, List.filterMap_nil, List.append_nil, ← List.append_assoc, charset,
        ← List.append_assoc]
      rfl
  | postgres =>
      have applicationName := @toList_sessionSql .postgres opts .applicationName _ _
        (fun name => s!"SET application_name = '{SessionInit.doubled name}'")
        rfl (fun _ => rfl) (fun name => by simp [← String.toList_inj])
      have timezone := @toList_sessionSql .postgres opts .timezone _ _
        (fun tz => s!"SET TIME ZONE '{SessionInit.doubled tz}'")
        rfl (fun _ => rfl) (fun tz => by simp [← String.toList_inj])
      have schema := @toList_schemaSql .postgres opts _
        (fun quoted => s!"SET search_path TO {quoted}")
        rfl (fun quoted => by simp)
      rw [saidOptions, filterMap_cons_toList, filterMap_cons_toList, filterMap_cons_toList,
        applicationName, timezone, schema, List.filterMap_nil, List.append_nil]
      simp only [← List.append_assoc]
      rfl
  | oracle =>
      have timezone := @toList_sessionSql .oracle opts .timezone _ _
        (fun tz => s!"ALTER SESSION SET TIME_ZONE='{SessionInit.doubled tz}'")
        rfl (fun _ => rfl) (fun tz => by simp [← String.toList_inj])
      have schema := @toList_schemaSql .oracle opts _
        (fun q => s!"ALTER SESSION SET CURRENT_SCHEMA = {q}")
        rfl (fun q => by simp)
      rw [saidOptions, filterMap_cons_toList, filterMap_cons_toList, timezone, schema,
        List.filterMap_nil, List.append_nil, ← List.append_assoc]
      rfl
  | db2 =>
      have schema := @toList_schemaSql .db2 opts _ (fun q => s!"SET CURRENT SCHEMA = {q}")
        rfl (fun q => by simp)
      have applicationName := @toList_sessionSql .db2 opts .applicationName _ _
        (fun name =>
          let doubled := SessionInit.doubled name
          s!"CALL SYSPROC.WLM_SET_CLIENT_INFO('{doubled}', NULL, NULL, NULL, NULL)")
        rfl (fun _ => rfl) (fun name => by simp [← String.toList_inj])
      rw [saidOptions, filterMap_cons_toList, filterMap_cons_toList, schema, applicationName,
        List.filterMap_nil, List.append_nil]
      rfl
  | snowflake =>
      have timezone := @toList_sessionSql .snowflake opts .timezone _ _
        (fun tz => s!"ALTER SESSION SET TIMEZONE = '{SessionInit.doubled tz}'")
        rfl (fun _ => rfl) (fun tz => by simp [← String.toList_inj])
      have schema := @toList_schemaSql .snowflake opts _ (fun q => s!"USE SCHEMA {q}")
        rfl (fun q => by simp)
      have applicationName := @toList_sessionSql .snowflake opts .applicationName _ _
        (fun name => s!"ALTER SESSION SET QUERY_TAG = '{SessionInit.doubled name}'")
        rfl (fun _ => rfl) (fun name => by simp [← String.toList_inj])
      rw [saidOptions, filterMap_cons_toList, filterMap_cons_toList, filterMap_cons_toList,
        timezone, schema, applicationName, List.filterMap_nil, List.append_nil]
      simp only [← List.append_assoc]
      rfl

/-! ## How it is read -/

/-- What stands around an option: plain text that is complete, and of one statement. -/
structure PlainForm (plugin : Plugin) (form : String × String) : Prop where
  begun : Sql.readAll (quotesOf plugin.quotingStyle) .between form.1.toList =
    (.between, Sql.plainTokens form.1.toList)
  front : '\\' ∉ form.1.toList
  back : '\\' ∉ form.2.toList
  behind : Sql.tokens (quotesOf plugin.quotingStyle) form.2.toList =
    some (Sql.plainTokens form.2.toList)
  apart : form.2.toList.head? ≠ some '\''
  single : Sql.Token.symbol ';' ∉ Sql.plainTokens form.1.toList ++ Sql.plainTokens form.2.toList
  last : backslashEscapes plugin = true → form.2 = ""
  unquoted : '\'' ∉ form.1.toList ++ form.2.toList

theorem plainForm (plugin : Plugin) (option : SessionOption) :
    ∀ form ∈ sessionForm plugin option, PlainForm plugin form := by
  intro form said
  cases option with
  | _ => cases plugin with
    | _ => cases said <;> constructor <;> decide

/-- A token between texts without semicolons makes one statement. -/
theorem saysOption_of_tokens {form : String × String}
    (said : sessionForm plugin option = some form)
    (read : Sql.tokensEscaped (quotesOf plugin.quotingStyle) (backslashEscapes plugin) sql.toList =
      some (Sql.plainTokens form.1.toList ++
        option.token text :: Sql.plainTokens form.2.toList)) :
    SaysOption plugin option text sql := by
  refine ⟨form, _, said, read, rfl, Sql.between_of_not_mem (by simp) ?_⟩
  have single := (plainForm plugin option form said).single
  rw [List.mem_append, not_or] at single
  rw [List.mem_append, List.mem_cons, not_or, not_or]
  refine ⟨single.1, ?_, single.2⟩
  cases option with
  | _ => exact Sql.Token.noConfusion

theorem toList_doubled (text : String) :
    (SessionInit.doubled text).toList = Sql.doubleQuotes text.toList := by
  rw [SessionInit.doubled, SessionInit.replaceQuotes, String.toList_ofList, Sql.doubleQuotes]
  have twice : "''".toList = ['\'', '\''] := by decide
  rw [twice]

theorem not_mem_removed (text : String) : '\'' ∉ (SessionInit.removed text).toList := by
  rw [SessionInit.removed, SessionInit.replaceQuotes, String.toList_ofList, List.mem_flatMap]
  rintro ⟨c, -, member⟩
  split_ifs at member with quote
  · simp at member
  · exact quote (List.mem_singleton.mp member).symm

/-- The character set is not in a literal. -/
theorem not_saysOption_charset {form : String × String}
    (said : sessionForm plugin .charset = some form) :
    ¬ SaysOption plugin .charset text (form.1 ++ SessionInit.removed text ++ form.2) := by
  rintro ⟨form', tokens, said', read, rfl, -⟩
  cases said.symm.trans said'
  have unquoted := (plainForm plugin .charset form said).unquoted
  rw [List.mem_append, not_or] at unquoted
  have none : '\'' ∉ (form.1 ++ SessionInit.removed text ++ form.2).toList := by
    rw [String.toList_append, String.toList_append, List.mem_append, List.mem_append, not_or,
      not_or]
    exact ⟨⟨unquoted.1, not_mem_removed text⟩, unquoted.2⟩
  cases Sql.tokens_no_literal none read (.literal text.toList) (by simp [SessionOption.token])

/-- A literal is read as it is meant exactly if its quotes are kept. -/
theorem saysOption_literal_iff {form : String × String}
    (literal : option = .timezone ∨ option = .applicationName)
    (said : sessionForm plugin option = some form) :
    SaysOption plugin option text (form.1 ++ ("'" ++ SessionInit.doubled text ++ "'") ++ form.2) ↔
      (backslashEscapes plugin = true → Sql.keepsQuotes false text.toList = true) := by
  have plain := plainForm plugin option form said
  have token : option.token text = .literal text.toList := by
    rcases literal with rfl | rfl
    · rfl
    · rfl
  have written : (form.1 ++ ("'" ++ SessionInit.doubled text ++ "'") ++ form.2).toList =
      form.1.toList ++ '\'' :: (Sql.doubleQuotes text.toList ++ '\'' :: form.2.toList) := by
    simp [toList_doubled]
  constructor
  · rintro ⟨form', tokens, said', read, rfl, -⟩ on
    cases said.symm.trans said'
    by_contra taken
    rw [written, token, plain.last on] at read
    exact Sql.tokensEscaped_ne plain.begun plain.front on (Bool.eq_false_iff.mpr taken) _ read
  · intro keeps
    refine saysOption_of_tokens said ?_
    rw [written, token]
    exact Sql.tokensEscaped_literal plain.begun plain.front plain.back plain.behind plain.apart
      keeps

theorem saysOption_schema {form : String × String} (accepted : AcceptedName text)
    (said : sessionForm plugin .schema = some form) :
    SaysOption plugin .schema text (form.1 ++ plugin.quotingStyle.wrap text ++ form.2) := by
  have plain := plainForm plugin .schema form said
  have last : form.2 = "" := by
    cases plugin with
    | _ => cases said <;> rfl
  have none : '\\' ∉ (form.1 ++ plugin.quotingStyle.wrap text ++ form.2).toList := by
    rw [String.toList_append, String.toList_append, List.mem_append, List.mem_append, not_or,
      not_or, toList_wrap]
    refine ⟨⟨plain.front, fun member => ?_⟩, plain.back⟩
    rw [List.mem_cons, List.mem_append, List.mem_singleton] at member
    rcases member with opens | named | closes
    · revert opens
      cases plugin.quotingStyle with
      | _ => decide
    · have word := accepted.word _ named
      revert word
      decide
    · revert closes
      cases plugin.quotingStyle with
      | _ => decide
  refine saysOption_of_tokens said ?_
  rw [Sql.tokensEscaped_of_not_mem none, last, String.append_empty, String.toList_append,
    tokens_wrap accepted _ plain.begun]
  rfl

theorem sessionSql_eq_some (asked : sessionSql plugin opts option = some sql) :
    ∃ text form written, option.text opts = some text ∧ sessionForm plugin option = some form ∧
      writtenOption plugin text option = some written ∧ sql = form.1 ++ written ++ form.2 := by
  obtain ⟨text, given, asked⟩ := Option.bind_eq_some_iff.mp asked
  obtain ⟨form, said, asked⟩ := Option.bind_eq_some_iff.mp asked
  obtain ⟨written, writes, same⟩ := Option.bind_eq_some_iff.mp asked
  exact ⟨text, form, written, given, said, writes, (Option.some_inj.mp same).symm⟩

/-- What is asked of an option: a character set is not said, and the quotes of a literal are
kept. -/
def OptionSafe (plugin : Plugin) (opts : SessionOptions) : SessionOption → Prop
  | .charset => opts.charset = none
  | .timezone => backslashEscapes plugin = true → KeepsQuotes opts.timezone
  | .applicationName => backslashEscapes plugin = true → KeepsQuotes opts.applicationName
  | .schema => True

theorem sessionForm_of_said (said : option ∈ saidOptions plugin) :
    ∃ form, sessionForm plugin option = some form := by
  cases plugin with
  | _ => cases option with
    | _ => first | exact ⟨_, rfl⟩ | simp [saidOptions] at said

theorem literal_quoted_iff (literal : option = .timezone ∨ option = .applicationName)
    {form : String × String} (said : sessionForm plugin option = some form) :
    (∀ sql, sessionSql plugin opts option = some sql →
      ∃ text, option.text opts = some text ∧ SaysOption plugin option text sql) ↔
    (backslashEscapes plugin = true → KeepsQuotes (option.text opts)) := by
  have writes : ∀ text, writtenOption plugin text option =
      some ("'" ++ SessionInit.doubled text ++ "'") := by
    rcases literal with rfl | rfl
    · exact fun _ => rfl
    · exact fun _ => rfl
  constructor
  · intro quoted on text given
    have asked : sessionSql plugin opts option =
        some (form.1 ++ ("'" ++ SessionInit.doubled text ++ "'") ++ form.2) := by
      rw [sessionSql, given, said]
      change (writtenOption plugin text option).bind _ = _
      rw [writes]
      rfl
    obtain ⟨text', given', stands⟩ := quoted _ asked
    cases given.symm.trans given'
    exact (saysOption_literal_iff literal said).mp stands on
  · intro keeps sql asked
    obtain ⟨text, form', written, given, said', wrote, rfl⟩ := sessionSql_eq_some asked
    cases said.symm.trans said'
    cases (writes text).symm.trans wrote
    exact ⟨text, given, (saysOption_literal_iff literal said).mpr fun on => keeps on text given⟩

/-- An option is said as it is meant exactly if it is safe. -/
theorem quoted_iff (said : option ∈ saidOptions plugin) :
    (∀ sql, sessionSql plugin opts option = some sql →
      ∃ text, option.text opts = some text ∧ SaysOption plugin option text sql) ↔
    OptionSafe plugin opts option := by
  obtain ⟨form, said⟩ := sessionForm_of_said said
  cases option with
  | timezone => exact literal_quoted_iff (.inl rfl) said
  | applicationName => exact literal_quoted_iff (.inr rfl) said
  | charset =>
      constructor
      · intro quoted
        by_contra some
        obtain ⟨text, given⟩ := Option.ne_none_iff_exists'.mp some
        have asked : sessionSql plugin opts .charset =
            Option.some (form.1 ++ SessionInit.removed text ++ form.2) := by
          rw [sessionSql, SessionOption.text, given, said]
          rfl
        obtain ⟨text', given', stands⟩ := quoted _ asked
        cases given.symm.trans given'
        exact not_saysOption_charset said stands
      · intro none sql asked
        obtain ⟨text, _, _, given, -⟩ := sessionSql_eq_some asked
        cases none.symm.trans given
  | schema =>
      refine iff_of_true (fun sql asked => ?_) trivial
      obtain ⟨text, form', written, given, said', wrote, rfl⟩ := sessionSql_eq_some asked
      cases said.symm.trans said'
      have quoted : quoteIdentifier text plugin.quotingStyle = .ok written := by
        rw [writtenOption] at wrote
        cases quotes : quoteIdentifier text plugin.quotingStyle with
        | error _ =>
            rw [quotes] at wrote
            cases wrote
        | ok q =>
            rw [quotes] at wrote
            exact congrArg _ (Option.some_inj.mp wrote)
      obtain ⟨accepted, rfl⟩ := quoteIdentifier_eq_ok_iff.mp quoted
      exact ⟨text, given, saysOption_schema accepted said⟩

theorem sessionFits_iff_options : SessionFits plugin opts ↔
    ∀ option ∈ saidOptions plugin, OptionSafe plugin opts option := by
  constructor
  · rintro ⟨-, quoted⟩ option said
    exact (quoted_iff said).mp (quoted option said)
  · intro safe
    exact ⟨said_eq plugin opts, fun option said => (quoted_iff said).mpr (safe option said)⟩

/-- What is said about a session is as it is meant exactly if no character set is given to MySQL
or MariaDB, and no quote of a literal is taken by a backslash. -/
theorem session_fits_iff (plugin : Plugin) (opts : SessionOptions) :
    SessionFits plugin opts ↔ SessionSafe opts plugin := by
  rw [sessionFits_iff_options]
  cases plugin with
  | _ => simp [saidOptions, OptionSafe, SessionSafe, backslashEscapes]

/-- A character set with a statement behind it. -/
theorem charset_adds_a_statement :
    ¬ SessionFits .mySql ⟨none, none, some "utf8; DROP TABLE t", none, []⟩ := by
  intro fits
  cases sessionFits_iff_options.mp fits .charset List.mem_cons_self

end

end OdbcFast.Verification
