import OdbcFast.Verification.UpsertTemplates

/-!
# Columns of upserts

An upsert is to quote names as its plugin declares, to update supplied columns only, and to update
nothing when there is nothing to update. MySQL and MariaDB declare backticks and quote the table
and its columns otherwise. A caller who says which columns to update may name any.
-/

namespace OdbcFast.Verification

open Wire OdbcFast.Native

def updateWord : Sql.Token := .word "UPDATE".toList

def whenWord : Sql.Token := .word "WHEN".toList

/-- What a statement does with a row that is there. -/
def updatePart (tokens : List Sql.Token) : List Sql.Token :=
  (tokens.dropWhile (· ≠ updateWord)).takeWhile (· ≠ whenWord)

/-- The words of a statement that updates nothing. -/
def upsertWords : List String :=
  ["INSERT", "INTO", "VALUES", "ON", "CONFLICT", "DO", "NOTHING", "MERGE", "USING", "SELECT",
    "FROM", "dual", "AS", "t", "s", "AND", "WHEN", "NOT", "MATCHED", "THEN"]

/-- The token does not name a column that was not supplied. -/
def NamesSupplied (table : String) (columns : List String) : Sql.Token → Prop
  | .identifier name => ∃ given ∈ dotParts table ++ columns, name = given.toList
  | .word word => ∃ known ∈ upsertWords, word = known.toList
  | _ => True

/-- The upsert as it is meant. -/
structure UpsertFits (plugin : Plugin) (table : String) (columns conflictColumns : List String)
    (updateColumns : Option (List String)) (sql : String) : Prop where
  /-- With the quotes that the plugin declares it is read as with those of every style. -/
  quoted : Sql.tokens (quotesOf plugin.quotingStyle) sql.toList = Sql.tokens anyQuotes sql.toList
  supplied : ∀ tokens, Sql.tokens anyQuotes sql.toList = some tokens →
    ∀ name, .identifier name ∈ updatePart tokens → ∃ column ∈ columns, name = column.toList
  nothing : Upsert.effectiveUpdateColumns columns conflictColumns updateColumns = [] →
    ∀ tokens, Sql.tokens anyQuotes sql.toList = some tokens →
      updatePart tokens = [] ∧ ∀ token ∈ tokens, NamesSupplied table columns token

section

variable {names : NameList → List (List Char)}

theorem others_of_not_mem {word : Sql.Token} {tokens : List Sql.Token} (none : word ∉ tokens) :
    ∀ token ∈ tokens, decide (token ≠ word) = true := by
  intro token there
  rw [decide_eq_true_eq]
  rintro rfl
  exact none there

theorem mem_updatePart {before middle behind : List Sql.Token} (first : updateWord ∉ before)
    (during : whenWord ∉ middle) {token : Sql.Token} (member : token ∈ middle) :
    token ∈ updatePart (before ++ updateWord :: (middle ++ behind)) := by
  have dropped : (before ++ updateWord :: (middle ++ behind)).dropWhile (· ≠ updateWord) =
      updateWord :: (middle ++ behind) := by
    rw [List.dropWhile_append_of_pos (others_of_not_mem first),
      List.dropWhile_cons_of_neg (by simp)]
  have kept : ∀ token ∈ updateWord :: middle, decide (token ≠ whenWord) = true := by
    intro token there
    rcases List.mem_cons.mp there with rfl | there
    · decide
    · exact others_of_not_mem during token there
  rw [updatePart, dropped, ← List.cons_append, List.takeWhile_append_of_pos kept]
  exact List.mem_append_left _ (List.mem_cons_of_mem _ member)

theorem updatePart_eq_nil {tokens : List Sql.Token} (none : updateWord ∉ tokens) :
    updatePart tokens = [] := by
  rw [updatePart, List.dropWhile_eq_nil_iff.mpr (others_of_not_mem none), List.takeWhile_nil]

/-- What is updated stands behind the table. -/
theorem mem_of_mem_updatePart {before behind : List Sql.Token} (first : updateWord ∉ before)
    {token : Sql.Token} (member : token ∈ updatePart (before ++ behind)) : token ∈ behind := by
  rw [updatePart, List.dropWhile_append_of_pos (others_of_not_mem first)] at member
  exact (List.dropWhile_suffix _).subset ((List.takeWhile_prefix _).subset member)

/-- What stands behind the table names no part of the table. -/
theorem supplied_of_template {front : String} {table : Sql.Clause NameList}
    {rest : List (Sql.Clause NameList)}
    (first : ∀ text ∈ front :: table.inside, updateWord ∉ Sql.plainTokens text.toList)
    (plain : ∀ text ∈ (⟨table.back, rest⟩ : Sql.Template NameList).fixed,
      ∀ token ∈ Sql.plainTokens text.toList, token.withoutName ≠ .identifier [])
    (others : ∀ clause ∈ rest, clause.names ≠ .table) {name : List Char}
    (member : .identifier name ∈
      updatePart ((⟨front, table :: rest⟩ : Sql.Template NameList).tokens names)) :
    ∃ list, list ≠ .table ∧ name ∈ names list := by
  rw [List.forall_mem_cons] at first
  have before : updateWord ∉ Sql.plainTokens front.toList ++ table.tokens names := by
    rw [List.mem_append, not_or]
    refine ⟨first.1, fun member => ?_⟩
    rcases Sql.Clause.mem_tokens member with ⟨text, inside, there⟩ | ⟨_, -, ⟨⟩⟩
    exact first.2 text inside there
  have behind : .identifier name ∈ (⟨table.back, rest⟩ : Sql.Template NameList).tokens names := by
    refine mem_of_mem_updatePart before ?_
    rw [List.append_assoc]
    exact member
  rcases Sql.Template.mem_tokens behind with
    ⟨text, fixed, there⟩ | ⟨clause, listed, _, given, ⟨⟩⟩
  · exact absurd rfl (plain text fixed _ there)
  · exact ⟨clause.names, others clause listed, given⟩

/-- What stands in the list behind `UPDATE SET` is updated. -/
theorem updated_of_template {template : Sql.Template NameList} (k : Nat) (more : List Sql.Token)
    {keys updates : Sql.Clause NameList} {rest : List (Sql.Clause NameList)}
    (split : template.clauses.drop k = keys :: updates :: rest)
    (sets : Sql.plainTokens keys.back.toList = more ++ [updateWord, .word "SET".toList])
    (first : ∀ text ∈ (⟨template.front, template.clauses.take k⟩ : Sql.Template NameList).fixed,
      updateWord ∉ Sql.plainTokens text.toList)
    (first' : ∀ text ∈ keys.inside, updateWord ∉ Sql.plainTokens text.toList)
    (first'' : updateWord ∉ more)
    (during : ∀ text ∈ updates.inside, whenWord ∉ Sql.plainTokens text.toList)
    {token : Sql.Token} (member : token ∈ updates.tokens names) :
    token ∈ updatePart (template.tokens names) := by
  have whole : template.tokens names =
      ((⟨template.front, template.clauses.take k⟩ : Sql.Template NameList).tokens names ++
        (keys.tokens names ++ more)) ++ updateWord ::
          ((.word "SET".toList :: updates.tokens names) ++
            (⟨updates.back, rest⟩ : Sql.Template NameList).tokens names) := by
    obtain ⟨front, clauses⟩ := template
    have parts : clauses = clauses.take k ++ keys :: updates :: rest := by
      rw [← split, List.take_append_drop]
    have filled := @Sql.fillTokens_append _ (fun clause => clause.back.toList)
      (fun clause => clause.tokens names) front.toList (clauses.take k) keys (updates :: rest)
    rw [← parts, Sql.fillTokens, sets] at filled
    rw [Sql.Template.tokens, filled]
    simp only [Sql.Template.tokens, List.append_assoc, List.cons_append, List.nil_append]
  rw [whole]
  refine mem_updatePart ?_ ?_ (List.mem_cons_of_mem _ member)
  · rw [List.mem_append, List.mem_append, not_or, not_or]
    refine ⟨fun there => ?_, fun there => ?_, first''⟩
    · rcases Sql.Template.mem_tokens there with ⟨text, fixed, there⟩ | ⟨_, -, _, -, ⟨⟩⟩
      exact first text fixed there
    · rcases Sql.Clause.mem_tokens there with ⟨text, inside, there⟩ | ⟨_, -, ⟨⟩⟩
      exact first' text inside there
  · rw [List.mem_cons, not_or]
    refine ⟨by decide, fun there => ?_⟩
    rcases Sql.Clause.mem_tokens there with ⟨text, inside, there⟩ | ⟨_, -, ⟨⟩⟩
    exact during text inside there

theorem supplied_of_updatePart (plugin : Plugin) (updates : Bool) {name : List Char}
    (member : .identifier name ∈ updatePart ((upsertTemplate plugin updates).tokens names)) :
    ∃ list, list ≠ .table ∧ name ∈ names list := by
  cases plugin with
  | _ => cases updates with
    | _ =>
        exact supplied_of_template (by decide) (by decide) (by decide)
          member

theorem updated_of_updatePart {plugin : Plugin} (style : plugin ≠ .mySql ∧ plugin ≠ .mariaDb)
    {name : List Char} (given : name ∈ names .updates) :
    .identifier name ∈ updatePart ((upsertTemplate plugin true).tokens names) := by
  cases plugin with
  | mySql => exact absurd rfl style.1
  | mariaDb => exact absurd rfl style.2
  | postgres | sqlite =>
      exact updated_of_template 3 [.symbol ')', .word "DO".toList] rfl
        (by decide) (by decide) (by decide) (by decide)
        (by decide) (Sql.Clause.identifier_mem_tokens (by decide) given)
  | oracle =>
      exact updated_of_template 2
        [.symbol ')', .word "WHEN".toList, .word "MATCHED".toList, .word "THEN".toList] rfl
        (by decide) (by decide) (by decide) (by decide)
        (by decide) (Sql.Clause.identifier_mem_tokens (by decide) given)
  | db2 =>
      exact updated_of_template 3
        [.word "WHEN".toList, .word "MATCHED".toList, .word "THEN".toList] rfl
        (by decide) (by decide) (by decide) (by decide)
        (by decide) (Sql.Clause.identifier_mem_tokens (by decide) given)
  | snowflake | sqlServer | sybase =>
      exact updated_of_template 2
        [.word "WHEN".toList, .word "MATCHED".toList, .word "THEN".toList] rfl
        (by decide) (by decide) (by decide) (by decide)
        (by decide) (Sql.Clause.identifier_mem_tokens (by decide) given)

/-! ## Quotes of another style -/

theorem symbol_mem_tokens {quotes : Sql.Quotes} {front rest : List Char} {c : Char}
    {tokens : List Sql.Token} (begun : (Sql.readAll quotes .between front).1 = .between)
    (symbol : Sql.start quotes c = (.between, [.symbol c]))
    (read : Sql.tokens quotes (front ++ c :: rest) = some tokens) : .symbol c ∈ tokens := by
  obtain ⟨last, -, rfl⟩ := Option.map_eq_some_iff.mp read
  rw [Sql.readAll_append, begun, Sql.readAll, Sql.read, symbol]
  simp

/-- The table is quoted in front of everything else. -/
theorem text_insertInto (behind : List (Sql.Clause NameList)) (back : String)
    (parts : names .table ≠ []) : ∃ rest,
      (insertInto behind back).text names = "INSERT INTO ".toList ++ '"' :: rest := by
  obtain ⟨first, others, table⟩ := List.exists_cons_of_ne_nil parts
  have quoted : ∃ rest, (tableList .doubleQuote " (").text names = '"' :: rest := by
    rw [Sql.Clause.text]
    change ∃ rest, List.intercalate _ ((names .table).map _) = _
    rw [table, List.map_cons]
    cases others with
    | nil =>
        rw [List.map_nil, List.intercalate_singleton]
        exact ⟨_, rfl⟩
    | cons next others =>
        rw [List.map_cons, List.intercalate_cons_cons]
        exact ⟨_, rfl⟩
  obtain ⟨rest, quoted⟩ := quoted
  rw [insertInto, Sql.Template.text, Sql.fill, quoted]
  exact ⟨_, rfl⟩

theorem no_doubleQuote (plugin : Plugin) (updates : Bool) :
    .symbol '"' ∉ (upsertTemplate plugin updates).tokens names := by
  have plain : ∀ text ∈ (upsertTemplate plugin updates).fixed,
      .symbol '"' ∉ Sql.plainTokens text.toList := by
    cases plugin with
    | _ => cases updates with
      | _ => decide
  intro member
  rcases Sql.Template.mem_tokens member with ⟨text, fixed, there⟩ | ⟨_, -, _, -, ⟨⟩⟩
  exact plain text fixed there

end

section

variable {plugin : Plugin} {table : String} {columns conflictColumns : List String}
  {updateColumns : Option (List String)} {sql : String}

/-- With MySQL and MariaDB the quotes of the table are not those that are declared. -/
theorem not_quoted
    (built : plugin.buildUpsertSql table columns conflictColumns updateColumns = .ok sql)
    (style : plugin = .mySql ∨ plugin = .mariaDb) :
    Sql.tokens (quotesOf plugin.quotingStyle) sql.toList ≠ Sql.tokens anyQuotes sql.toList := by
  obtain ⟨-, written⟩ := buildUpsertSql_written built
  have parts : nameTexts table columns conflictColumns updateColumns .table ≠ [] := by
    rw [nameTexts, ne_eq, List.map_eq_nil_iff]
    exact dotParts_ne_nil table
  have starts : ∃ rest, sql.toList = "INSERT INTO ".toList ++ '"' :: rest := by
    rw [Written] at written
    rw [written]
    rcases style with rfl | rfl
    · rw [upsertTemplate]
      split_ifs
      · exact text_insertInto _ _ parts
      · exact text_insertInto _ _ parts
    · rw [upsertTemplate]
      split_ifs
      · exact text_insertInto _ _ parts
      · exact text_insertInto _ _ parts
  obtain ⟨rest, starts⟩ := starts
  intro same
  rw [tokens_anyQuotes built, starts] at same
  refine no_doubleQuote plugin _ (symbol_mem_tokens ?_ ?_ same)
  · rcases style with rfl | rfl
    · decide
    · decide
  · rcases style with rfl | rfl
    · decide
    · decide

theorem quoted_of_style
    (built : plugin.buildUpsertSql table columns conflictColumns updateColumns = .ok sql)
    (style : plugin ≠ .mySql ∧ plugin ≠ .mariaDb) :
    Sql.tokens (quotesOf plugin.quotingStyle) sql.toList = Sql.tokens anyQuotes sql.toList := by
  rw [tokens_anyQuotes built]
  refine tokens_built built (fun c none => ?_) fun updates => ?_
  · rw [anyQuotes] at none
    split_ifs at none with double bracket back
    rw [quotesOf]
    cases plugin.quotingStyle with
    | doubleQuote => exact if_neg double
    | brackets => exact if_neg bracket
    | backtick => exact if_neg back
  · cases plugin with
    | mySql => exact absurd rfl style.1
    | mariaDb => exact absurd rfl style.2
    | _ => cases updates with
      | _ => decide

/-- A token of a statement that updates nothing, if it is not a name. -/
def saysNothing : Sql.Token → Bool
  | .symbol _ => true
  | .word word => upsertWords.any fun known => word = known.toList
  | _ => false

theorem saysNothing_of_plain (style : plugin ≠ .mySql ∧ plugin ≠ .mariaDb) :
    ∀ text ∈ (upsertTemplate plugin false).fixed, ∀ token ∈ Sql.plainTokens text.toList,
      token ≠ updateWord ∧ saysNothing token = true := by
  cases plugin with
  | mySql => exact absurd rfl style.1
  | mariaDb => exact absurd rfl style.2
  | _ => decide

theorem namesSupplied_of_saysNothing {token : Sql.Token} (known : saysNothing token = true) :
    NamesSupplied table columns token := by
  cases token with
  | symbol c => exact trivial
  | word word =>
      obtain ⟨text, there, same⟩ := List.any_eq_true.mp known
      exact ⟨text, there, of_decide_eq_true same⟩
  | identifier _ | literal _ | comment _ => cases known

theorem nothing_of_style
    (accepted : AcceptedUpsert table columns conflictColumns updateColumns)
    (style : plugin ≠ .mySql ∧ plugin ≠ .mariaDb)
    (none : Upsert.effectiveUpdateColumns columns conflictColumns updateColumns = []) :
    updatePart ((upsertTemplate plugin false).tokens
        (nameTexts table columns conflictColumns updateColumns)) = [] ∧
      ∀ token ∈ (upsertTemplate plugin false).tokens
        (nameTexts table columns conflictColumns updateColumns),
        NamesSupplied table columns token := by
  refine ⟨updatePart_eq_nil fun there => ?_, fun token there => ?_⟩
  · rcases Sql.Template.mem_tokens there with ⟨text, fixed, there⟩ | ⟨_, -, _, -, ⟨⟩⟩
    exact (saysNothing_of_plain style text fixed _ there).1 rfl
  · rcases Sql.Template.mem_tokens there with
      ⟨text, fixed, there⟩ | ⟨clause, -, name, given, rfl⟩
    · exact namesSupplied_of_saysNothing (saysNothing_of_plain style text fixed _ there).2
    · obtain ⟨text, listed, rfl⟩ := List.mem_map.mp given
      refine ⟨text, List.mem_append.mpr ?_, rfl⟩
      generalize clause.names = list at listed
      cases list with
      | table => exact .inl listed
      | columns => exact .inr listed
      | conflicts => exact .inr (accepted.supplied text listed)
      | updates =>
          rw [givenNames, none] at listed
          cases listed

/-- The statement of an accepted upsert is as it is meant exactly if the plugin quotes names as it
declares, and the columns that the caller wants updated are among those supplied. -/
theorem upsert_fits_iff (plugin : Plugin) (table : String) (columns conflictColumns : List String)
    (updateColumns : Option (List String)) (sql : String)
    (built : plugin.buildUpsertSql table columns conflictColumns updateColumns = .ok sql) :
    UpsertFits plugin table columns conflictColumns updateColumns sql ↔
      (plugin ≠ .mySql ∧ plugin ≠ .mariaDb) ∧
        ∀ explicit, updateColumns = some explicit → ∀ column ∈ explicit, column ∈ columns := by
  obtain ⟨accepted, -⟩ := buildUpsertSql_written built
  have read := tokens_anyQuotes built
  constructor
  · rintro ⟨quoted, supplied, -⟩
    have style : plugin ≠ .mySql ∧ plugin ≠ .mariaDb :=
      ⟨fun same => not_quoted built (.inl same) quoted,
        fun same => not_quoted built (.inr same) quoted⟩
    refine ⟨style, ?_⟩
    rintro explicit rfl column member
    have some : (Upsert.effectiveUpdateColumns columns conflictColumns (some explicit)).isEmpty =
        false := List.isEmpty_eq_false_iff.mpr (List.ne_nil_of_mem member)
    rw [some] at read
    obtain ⟨given, there, same⟩ := supplied _ read column.toList
      (updated_of_updatePart style (List.mem_map_of_mem member))
    rwa [String.toList_inj.mp same]
  · rintro ⟨style, named⟩
    refine ⟨quoted_of_style built style, ?_, ?_⟩
    · intro tokens same name member
      rw [read, Option.some_inj] at same
      subst same
      obtain ⟨list, other, given⟩ := supplied_of_updatePart plugin _ member
      obtain ⟨text, there, rfl⟩ := List.mem_map.mp given
      refine ⟨text, ?_, rfl⟩
      cases list with
      | table => exact absurd rfl other
      | columns => exact there
      | conflicts => exact accepted.supplied text there
      | updates =>
          cases updateColumns with
          | none => exact List.mem_of_mem_filter there
          | some explicit => exact named explicit rfl text there
    · intro none tokens same
      rw [read, none, Option.some_inj] at same
      subst same
      exact nothing_of_style accepted style none

theorem upsert_fits_postgres :
    UpsertFits .postgres "t" ["id", "n"] ["id"] none
        ("INSERT INTO \"t\" (\"id\", \"n\") VALUES (?, ?) " ++
          "ON CONFLICT (\"id\") DO UPDATE SET \"n\" = EXCLUDED.\"n\"") ↔
      (Plugin.postgres ≠ .mySql ∧ Plugin.postgres ≠ .mariaDb) ∧
        ∀ explicit : List String, none = some explicit →
          ∀ column ∈ explicit, column ∈ ["id", "n"] :=
  upsert_fits_iff .postgres "t" ["id", "n"] ["id"] none _ (by decide +kernel)

/-- MySQL is given its table and its columns in the quotes of strings. -/
theorem mySql_table_in_double_quotes :
    ∃ sql, Plugin.mySql.buildUpsertSql "t" ["id", "n"] ["id"] none = .ok sql ∧
      ¬ UpsertFits .mySql "t" ["id", "n"] ["id"] none sql := by
  have built : Plugin.mySql.buildUpsertSql "t" ["id", "n"] ["id"] none =
      .ok ("INSERT INTO \"t\" (\"id\", \"n\") VALUES (?, ?) " ++
        "ON DUPLICATE KEY UPDATE \x60n\x60 = VALUES(\x60n\x60)") := by decide +kernel
  exact ⟨_, built, fun fits => not_quoted built (.inl rfl) fits.quoted⟩

end

end OdbcFast.Verification
