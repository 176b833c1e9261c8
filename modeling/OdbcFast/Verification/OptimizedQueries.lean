import OdbcFast.Native.Engine.OptimizeQuery
import OdbcFast.Wire.Sql

/-!
# Queries and the texts that are executed for them

A plugin leaves a text as it is or puts its clause into it, once. Where the clause stands outside
quotes and comments the tokens of the text are kept, and a single query is answered with the first
thousand of its rows.
-/

namespace OdbcFast.Verification

open Wire Wire.Sql OdbcFast.Native

/-! ## What a plugin adds, and where -/

def limitOf : Plugin → Option RowLimit
  | .oracle => some Plugin.oracleLimit
  | .postgres => some Plugin.postgresLimit
  | .mySql => some Plugin.mySqlLimit
  | .mariaDb => some Plugin.mariaDbLimit
  | .db2 => some Plugin.db2Limit
  | .snowflake => some Plugin.snowflakeLimit
  | .sqlServer | .sybase | .sqlite => none

def clauseOf (plugin : Plugin) : List Char :=
  if plugin = .sqlServer then "TOP 1000 ".toList
  else ((limitOf plugin).map fun rule => rule.clause.toList).getD []

/-- The texts in which a plugin puts its clause. -/
def Limits (plugin : Plugin) (sql : List Char) : Prop :=
  (plugin = .sqlServer ∧ contains "SELECT *" sql = true ∧ contains "TOP" sql = false) ∨
    ∃ rule ∈ limitOf plugin, contains "SELECT" sql = true ∧ rule.limited sql = false ∧
      (';' ∈ sql ∨ rule.conditional sql = false)

/-- The clause goes in front of the last semicolon, or behind the text where there is none; that
of SQL Server goes in front of the star of a `SELECT *`. -/
def Place (plugin : Plugin) (before after : List Char) : Prop :=
  if plugin = .sqlServer then
    (∃ front, before = front ++ "SELECT ".toList) ∧ ∃ back, after = '*' :: back
  else (after = [] ∧ ';' ∉ before) ∨ ∃ back, after = ';' :: back ∧ ';' ∉ back

/-- What is executed for a text. -/
def Optimized (plugin : Plugin) (sql : List Char) : Prop :=
  ∃ before after, sql = before ++ after ∧ Place plugin before after ∧
    plugin.optimizeQuery sql = before ++ clauseOf plugin ++ after

theorem contains_eq_true_iff {pattern : String} {text : List Char} :
    contains pattern text = true ↔ pattern.toList <:+: text := decide_eq_true_iff

theorem optimizeQuery_of_limitOf {plugin : Plugin} {rule : RowLimit}
    (limits : limitOf plugin = some rule) (sql : List Char) :
    plugin.optimizeQuery sql = rule.optimizeQuery sql := by
  cases plugin <;> cases limits <;> rfl

theorem not_sqlServer_of_limitOf {plugin : Plugin} {rule : RowLimit}
    (limits : limitOf plugin = some rule) : plugin ≠ .sqlServer := by
  rintro rfl
  cases limits

theorem clauseOf_of_limitOf {plugin : Plugin} {rule : RowLimit}
    (limits : limitOf plugin = some rule) : clauseOf plugin = rule.clause.toList := by
  rw [clauseOf, if_neg (not_sqlServer_of_limitOf limits), limits]
  rfl

theorem optimized_of_limits {plugin : Plugin} {sql : List Char} (limits : Limits plugin sql) :
    Optimized plugin sql := by
  rcases limits with ⟨rfl, selects, none⟩ | ⟨rule, rules, selects, unlimited, place⟩
  · rw [contains_eq_true_iff] at selects
    rcases found : splitFirst "SELECT *".toList sql with _ | ⟨front, back⟩
    · exact absurd selects (splitFirst_eq_none_iff.mp found)
    · have whole := splitFirst_eq_some found
      refine ⟨front ++ "SELECT ".toList, '*' :: back, ?_, ⟨⟨front, rfl⟩, back, rfl⟩, ?_⟩
      · rw [whole, show "SELECT *".toList = "SELECT ".toList ++ ['*'] by decide]
        simp
      · show Plugin.sqlServerOptimizeQuery sql = _
        rw [Plugin.sqlServerOptimizeQuery, contains_eq_true_iff.mpr selects, none,
          if_pos (by rfl), found, clauseOf, if_pos rfl,
          show "SELECT TOP 1000 *".toList = "SELECT ".toList ++ "TOP 1000 ".toList ++ ['*'] by
            decide]
        simp
  · have apart := not_sqlServer_of_limitOf rules
    rw [Optimized, optimizeQuery_of_limitOf rules, clauseOf_of_limitOf rules,
      RowLimit.optimizeQuery, selects, unlimited, if_pos (by rfl)]
    rcases split : rsplit ';' sql with _ | ⟨before, after⟩
    · have free := rsplit_eq_none_iff.mp split
      refine ⟨sql, [], (List.append_nil sql).symm, ?_, ?_⟩
      · rw [Place, if_neg apart]
        exact .inl ⟨rfl, free⟩
      · dsimp only
        rw [place.resolve_left free, if_neg Bool.false_ne_true, List.append_nil]
    · obtain ⟨whole, last⟩ := rsplit_eq_some split
      refine ⟨before, ';' :: after, whole, ?_, rfl⟩
      rw [Place, if_neg apart]
      exact .inr ⟨after, rfl, last⟩

theorem optimizeQuery_of_not_limits {plugin : Plugin} {sql : List Char}
    (unlimited : ¬ Limits plugin sql) : plugin.optimizeQuery sql = sql := by
  rw [Limits, not_or] at unlimited
  rcases rules : limitOf plugin with _ | rule
  · cases plugin with
    | sqlServer =>
        show Plugin.sqlServerOptimizeQuery sql = _
        rw [Plugin.sqlServerOptimizeQuery, if_neg]
        intro limits
        rw [Bool.and_eq_true, Bool.not_eq_true'] at limits
        exact unlimited.1 ⟨rfl, limits⟩
    | sybase | sqlite => rfl
    | oracle | postgres | mySql | mariaDb | db2 | snowflake => cases rules
  · rw [optimizeQuery_of_limitOf rules, RowLimit.optimizeQuery]
    by_cases selects : (contains "SELECT" sql && !rule.limited sql) = true
    · rw [if_pos selects]
      rw [Bool.and_eq_true, Bool.not_eq_true'] at selects
      have conditional : ';' ∉ sql ∧ rule.conditional sql = true := by
        refine ⟨fun member => unlimited.2 ⟨rule, rules, selects.1, selects.2, .inl member⟩, ?_⟩
        by_contra free
        exact unlimited.2
          ⟨rule, rules, selects.1, selects.2, .inr (Bool.eq_false_iff.mpr free)⟩
      rw [rsplit_eq_none_iff.mpr conditional.1]
      exact if_pos conditional.2
    · exact if_neg selects

/-- A text in the middle of another one. -/
theorem contains_insert {pattern : String} {clause : List Char}
    (there : pattern.toList <:+: clause) (before after : List Char) :
    contains pattern (before ++ clause ++ after) = true :=
  contains_eq_true_iff.mpr (there.trans ⟨before, after, rfl⟩)

theorem toUppercase_append (left right : List Char) :
    toUppercase (left ++ right) = toUppercase left ++ toUppercase right := List.flatMap_append

/-- A text with the clause counts as limited. -/
theorem limited_insert {plugin : Plugin} {rule : RowLimit} (rules : limitOf plugin = some rule)
    (before after : List Char) : rule.limited (before ++ rule.clause.toList ++ after) = true := by
  cases plugin with
  | postgres | mySql =>
      cases rules
      exact contains_insert (by decide) before after
  | oracle =>
      cases rules
      refine Bool.or_eq_true_iff.mpr (.inr ?_)
      exact contains_insert (by decide) before after
  | mariaDb | snowflake =>
      cases rules
      show contains " LIMIT" (toUppercase _) = true
      rw [toUppercase_append, toUppercase_append]
      exact contains_insert (by decide) _ _
  | db2 =>
      cases rules
      show contains "FETCH FIRST" (toUppercase _) = true
      rw [toUppercase_append, toUppercase_append]
      exact contains_insert (by decide) _ _
  | sqlServer | sybase | sqlite => cases rules

/-- No text is given the clause twice. -/
theorem optimizeQuery_optimizeQuery (plugin : Plugin) (sql : List Char) :
    plugin.optimizeQuery (plugin.optimizeQuery sql) = plugin.optimizeQuery sql := by
  by_cases limits : Limits plugin sql
  · obtain ⟨before, after, -, -, written⟩ := optimized_of_limits limits
    rw [written]
    refine optimizeQuery_of_not_limits ?_
    rintro (⟨rfl, -, none⟩ | ⟨rule, rules, -, unlimited, -⟩)
    · rw [clauseOf, if_pos rfl, contains_insert (by decide)] at none
      cases none
    · rw [clauseOf_of_limitOf rules, limited_insert rules] at unlimited
      cases unlimited
  · rw [optimizeQuery_of_not_limits limits, optimizeQuery_of_not_limits limits]

/-! ## Tokens -/

/-- The words of the clause. -/
def clauseWords : Plugin → List String
  | .sqlServer => ["TOP", "1000"]
  | .oracle | .db2 => ["FETCH", "FIRST", "1000", "ROWS", "ONLY"]
  | .postgres | .mySql | .mariaDb | .snowflake => ["LIMIT", "1000"]
  | .sybase | .sqlite => []

def clauseTokens (plugin : Plugin) : List Token :=
  (clauseWords plugin).map fun word => .word word.toList

/-- The clause stands where a blank or a semicolon is no part of a name, a literal or a comment. -/
def Outside (quotes : Quotes) (before : List Char) : Prop :=
  (readAll quotes .between before).1.isOutside = true

/-- The clause between other tokens, which are kept. -/
def KeepsTokens (plugin : Plugin) (quotes : Quotes) (before after : List Char) : Prop :=
  ∃ (done : List Token) (rest : Option (List Token)),
    tokens quotes (before ++ after) = rest.map (done ++ ·) ∧
    tokens quotes (before ++ clauseOf plugin ++ after) =
      rest.map (done ++ clauseTokens plugin ++ ·) ∧
    tokens quotes before = some done

/-- How a clause behind a blank is read. -/
theorem readAll_clause {plugin : Plugin} {rule : RowLimit} (rules : limitOf plugin = some rule)
    (quotes : Quotes) : ∃ clause more last, rule.clause.toList = ' ' :: clause ∧
      readAll quotes .between clause = (.word last, more) ∧
      clauseTokens plugin = more ++ [.word last] := by
  cases plugin with
  | postgres | mySql | mariaDb | snowflake =>
      cases rules
      exact ⟨"LIMIT 1000".toList, [.word "LIMIT".toList], "1000".toList, by decide,
        by rfl, by rfl⟩
  | oracle | db2 =>
      cases rules
      exact ⟨"FETCH FIRST 1000 ROWS ONLY".toList, [.word "FETCH".toList, .word "FIRST".toList,
        .word "1000".toList, .word "ROWS".toList], "ONLY".toList, by decide, by rfl,
        by rfl⟩
  | sqlServer | sybase | sqlite => cases rules

section

variable {plugin : Plugin} {quotes : Quotes} {before after : List Char}

theorem keepsTokens_sqlServer (place : Place .sqlServer before after)
    (outside : Outside quotes before) : KeepsTokens .sqlServer quotes before after := by
  obtain ⟨⟨front, rfl⟩, -⟩ := place
  have whole : front ++ "SELECT ".toList = front ++ "SELECT".toList ++ [' '] := by
    rw [show "SELECT ".toList = "SELECT".toList ++ [' '] by decide, List.append_assoc]
  have between : (readAll quotes .between (front ++ "SELECT ".toList)).1 = .between := by
    rw [Outside] at outside
    rw [whole, readAll_append] at outside ⊢
    exact read_blank_eq_between outside
  exact tokens_insert_between between (by rfl)

theorem keepsTokens_limitOf {rule : RowLimit} (rules : limitOf plugin = some rule)
    (place : Place plugin before after) (outside : Outside quotes before)
    (separates : quotes ';' = none) : KeepsTokens plugin quotes before after := by
  obtain ⟨clause, more, last, blank, reads, written⟩ := readAll_clause rules quotes
  have ends : after = [] ∨ ∃ behind, after = ';' :: behind := by
    rw [Place, if_neg (not_sqlServer_of_limitOf rules)] at place
    exact place.imp And.left fun ⟨back, same, _⟩ => ⟨back, same⟩
  rw [KeepsTokens, clauseOf_of_limitOf rules, blank, written]
  exact tokens_insert outside reads separates ends

/-! ## One query -/

/-- A text that is one query, and its tokens: it has no semicolon except one at its end, and that
end stands outside literals, quoted names and comments. -/
structure OneQuery (quotes : Quotes) (sql : List Char) (query : List Token) : Prop where
  filled : query ≠ []
  text : ∃ body, (sql = body ∨ sql = body ++ [';']) ∧ ';' ∉ body ∧ Outside quotes body ∧
    ∃ written, tokens quotes body = some written ∧
      (written.filter fun token => ¬ token.isComment) = query

/-- The query with the clause. -/
def limitedQuery (plugin : Plugin) (query : List Token) : List Token :=
  if plugin = .sqlServer then query.take 1 ++ clauseTokens plugin ++ query.drop 1
  else query ++ clauseTokens plugin

/-- What a database answers to a query, and that it answers with the first thousand rows where
the clause is put into a query that accepts it. -/
structure Database (plugin : Plugin) (Row : Type) where
  rows : List Token → List Row
  accepts : List Token → Prop
  limited : ∀ query, accepts query → rows (limitedQuery plugin query) = (rows query).take 1000

/-- The tokens of one statement, with or without a semicolon behind it. -/
theorem statements_of_tokens {sql : List Char} {written : List Token}
    (read : tokens quotes sql = some written ∨ tokens quotes sql = some (written ++ [.symbol ';']))
    (single : Token.symbol ';' ∉ written)
    (some : (written.filter fun token => ¬ token.isComment) ≠ []) :
    statements quotes sql = .some [written.filter fun token => ¬ token.isComment] := by
  have filtered : Token.symbol ';' ∉ written.filter fun token => ¬ token.isComment :=
    fun member => single (List.mem_filter.mp member).1
  rcases read with read | read
  · rw [statements, read, Option.map_some, between_of_not_mem some filtered]
  · rw [statements, read, Option.map_some, List.filter_append]
    exact congrArg _ (between_append_semicolon some filtered)

theorem filter_words (words : List String) :
    ((words.map fun word => Token.word word.toList).filter fun token => ¬ token.isComment) =
      words.map fun word => Token.word word.toList := by
  rw [List.filter_eq_self, List.forall_mem_map]
  exact fun _ _ => rfl

theorem words_no_semicolon (words : List String) :
    Token.symbol ';' ∉ words.map fun word => Token.word word.toList := by
  intro member
  obtain ⟨word, -, same⟩ := List.mem_map.mp member
  cases same

/-- The tokens of a query as it is written. -/
theorem OneQuery.tokens {sql : List Char} {query : List Token} (one : OneQuery quotes sql query)
    (separates : quotes ';' = none) : ∃ written, Token.symbol ';' ∉ written ∧
      (written.filter fun token => ¬ token.isComment) = query ∧
      (Sql.tokens quotes sql = some written ∨
        Sql.tokens quotes sql = some (written ++ [.symbol ';'])) := by
  obtain ⟨body, written, single, outside, words, read, same⟩ := one.text
  refine ⟨words, tokens_no_semicolon single read, same, ?_⟩
  rcases written with rfl | rfl
  · exact .inl read
  · exact .inr (tokens_append_semicolon outside separates read)

theorem OneQuery.statements {sql : List Char} {query : List Token}
    (one : OneQuery quotes sql query) (separates : quotes ';' = none) :
    Sql.statements quotes sql = some [query] := by
  obtain ⟨written, single, rfl, read⟩ := one.tokens separates
  exact statements_of_tokens read single one.filled

theorem statements_limitOf {rule : RowLimit} {sql : List Char} {query : List Token}
    (rules : limitOf plugin = some rule) (one : OneQuery quotes sql query)
    (separates : quotes ';' = none) (limits : Limits plugin sql) :
    Sql.statements quotes (plugin.optimizeQuery sql) = some [limitedQuery plugin query] := by
  have apart := not_sqlServer_of_limitOf rules
  obtain ⟨before, after, whole, place, optimized⟩ := optimized_of_limits limits
  obtain ⟨body, ended, single, outside, written, read, same⟩ := one.text
  have placed := place
  rw [Place, if_neg apart] at placed
  have here : before = body ∧ (after = [] ∨ after = [';']) := by
    rcases placed with ⟨rfl, free⟩ | ⟨back, rfl, last⟩
    · rw [List.append_nil] at whole
      rcases ended with rfl | rfl
      · exact ⟨whole.symm, .inl rfl⟩
      · rw [← whole] at free
        simp at free
    · rcases ended with rfl | rfl
      · rw [whole] at single
        simp at single
      · obtain ⟨rfl, -, rfl⟩ := (List.append_cons_inj_of_notMem single (by simp)).mp whole
        exact ⟨rfl, .inr rfl⟩
  obtain ⟨rfl, ends⟩ := here
  obtain ⟨done, rest, original, changed, front⟩ :=
    keepsTokens_limitOf rules place outside separates
  rw [read, Option.some_inj] at front
  subst front
  have clean : Token.symbol ';' ∉ written ++ clauseTokens plugin := by
    rw [List.mem_append, not_or]
    exact ⟨tokens_no_semicolon single read, words_no_semicolon _⟩
  have filtered : ((written ++ clauseTokens plugin).filter fun token => ¬ token.isComment) =
      limitedQuery plugin query := by
    rw [List.filter_append, same, limitedQuery, if_neg apart]
    exact congrArg (query ++ ·) (filter_words _)
  have filled : ((written ++ clauseTokens plugin).filter fun token => ¬ token.isComment) ≠ [] := by
    rw [filtered, limitedQuery, if_neg apart]
    simp [one.filled]
  rw [optimized, ← filtered]
  refine statements_of_tokens ?_ clean filled
  rcases ends with rfl | rfl
  · rw [List.append_nil, read] at original
    obtain ⟨words, rfl, none⟩ := Option.map_eq_some_iff.mp original.symm
    rw [List.append_right_eq_self] at none
    rw [changed, none]
    exact .inl (congrArg some (List.append_nil _))
  · rw [tokens_append_semicolon outside separates read] at original
    obtain ⟨words, rfl, same⟩ := Option.map_eq_some_iff.mp original.symm
    rw [List.append_cancel_left_eq] at same
    rw [changed, same]
    exact .inr rfl

theorem statements_sqlServer {sql : List Char} {query : List Token}
    (one : OneQuery quotes sql query) (separates : quotes ';' = none)
    (limits : Limits .sqlServer sql) (begins : "SELECT *".toList <+: sql) :
    Sql.statements quotes (Plugin.sqlServer.optimizeQuery sql) =
      some [limitedQuery .sqlServer query] := by
  obtain ⟨written, single, rfl, read⟩ := one.tokens separates
  obtain ⟨back, rfl⟩ := begins
  have optimized : Plugin.sqlServer.optimizeQuery ("SELECT *".toList ++ back) =
      "SELECT ".toList ++ clauseOf .sqlServer ++ '*' :: back := by
    rcases limits with ⟨-, selects, none⟩ | ⟨rule, rules, -⟩
    · show Plugin.sqlServerOptimizeQuery _ = _
      rw [Plugin.sqlServerOptimizeQuery, selects, none, if_pos (by rfl), splitFirst_append,
        clauseOf, if_pos rfl, show "SELECT TOP 1000 *".toList =
          "SELECT ".toList ++ "TOP 1000 ".toList ++ ['*'] by decide]
      simp
    · cases rules
  have place : Place .sqlServer "SELECT ".toList ('*' :: back) := ⟨⟨[], rfl⟩, back, rfl⟩
  obtain ⟨done, rest, original, changed, front⟩ :=
    @keepsTokens_sqlServer quotes _ _ place (by rfl)
  obtain rfl : [.word "SELECT".toList] = done := Option.some_inj.mp front
  rw [show "SELECT ".toList ++ '*' :: back = "SELECT *".toList ++ back by
    rw [List.append_cons]; congr 1] at original
  -- the first token is the word that the clause goes behind
  have first : ∃ more, written = .word "SELECT".toList :: more ∧
      (rest = some more ∨ rest = some (more ++ [.symbol ';'])) := by
    rcases read with read | read
    · rw [read] at original
      obtain ⟨more, rfl, same⟩ := Option.map_eq_some_iff.mp original.symm
      exact ⟨more, same.symm, .inl rfl⟩
    · rw [read] at original
      obtain ⟨more, rfl, same⟩ := Option.map_eq_some_iff.mp original.symm
      cases written with
      | nil => exact absurd rfl one.filled
      | cons token more' =>
          cases same
          exact ⟨more', rfl, .inr rfl⟩
  obtain ⟨more, rfl, behind⟩ := first
  have clean : Token.symbol ';' ∉
      .word "SELECT".toList :: (clauseTokens .sqlServer ++ more) := by
    rw [List.mem_cons, not_or] at single
    rw [List.mem_cons, List.mem_append, not_or, not_or]
    exact ⟨single.1, words_no_semicolon _, single.2⟩
  have filtered : ((.word "SELECT".toList :: (clauseTokens .sqlServer ++ more)).filter
        fun token => ¬ token.isComment) =
      limitedQuery .sqlServer ((.word "SELECT".toList :: more).filter
        fun token => ¬ token.isComment) := by
    rw [List.filter_cons_of_pos (by rfl), List.filter_cons_of_pos (by rfl), List.filter_append,
      limitedQuery, if_pos rfl, List.take_succ_cons, List.drop_succ_cons]
    exact congrArg (fun words => Token.word "SELECT".toList :: (words ++ _)) (filter_words _)
  rw [optimized, ← filtered]
  refine statements_of_tokens ?_ clean ?_
  · rw [changed]
    rcases behind with rfl | rfl
    · exact .inl rfl
    · exact .inr (congrArg some (List.append_assoc _ _ _).symm)
  · rw [List.filter_cons_of_pos (by rfl)]
    exact List.cons_ne_nil _ _

end

/-- What is executed for a query, and that the rows are those of the query, or the first thousand
of them. -/
def AnswersFirst (plugin : Plugin) (quotes : Quotes) (sql : List Char) (query : List Token) :
    Prop :=
  ∃ query', Sql.statements quotes sql = some [query] ∧
    Sql.statements quotes (plugin.optimizeQuery sql) = some [query'] ∧
    ∀ (Row : Type) (database : Database plugin Row), database.accepts query →
      database.rows query' = database.rows query ∨
        database.rows query' = (database.rows query).take 1000

theorem answersFirst {plugin : Plugin} {quotes : Quotes} {sql : List Char} {query : List Token}
    (one : OneQuery quotes sql query) (separates : quotes ';' = none)
    (begins : plugin = .sqlServer → "SELECT *".toList <+: sql) :
    AnswersFirst plugin quotes sql query := by
  by_cases limits : Limits plugin sql
  · refine ⟨limitedQuery plugin query, one.statements separates, ?_,
      fun Row database accepts => .inr (database.limited query accepts)⟩
    by_cases sqlServer : plugin = .sqlServer
    · subst sqlServer
      exact statements_sqlServer one separates limits (begins rfl)
    · rcases limits with ⟨rfl, -⟩ | ⟨rule, rules, more⟩
      · exact absurd rfl sqlServer
      · exact statements_limitOf rules one separates (.inr ⟨rule, rules, more⟩)
  · refine ⟨query, one.statements separates, ?_, fun Row database _ => .inl rfl⟩
    rw [optimizeQuery_of_not_limits limits]
    exact one.statements separates

/-- The text that is executed: the text itself, or the text with the clause at its place, where
no token is lost and none comes twice. A single query is answered with its rows, or with the
first thousand of them. -/
theorem optimized_queries (plugin : Plugin) (sql : List Char) :
    (¬ Limits plugin sql → plugin.optimizeQuery sql = sql) ∧
    (Limits plugin sql → ∃ before after, sql = before ++ after ∧ Place plugin before after ∧
      plugin.optimizeQuery sql = before ++ clauseOf plugin ++ after ∧
      ∀ quotes, quotes ';' = none → Outside quotes before →
        KeepsTokens plugin quotes before after) ∧
    plugin.optimizeQuery (plugin.optimizeQuery sql) = plugin.optimizeQuery sql ∧
    ∀ quotes query, quotes ';' = none → OneQuery quotes sql query →
      (plugin = .sqlServer → "SELECT *".toList <+: sql) →
        AnswersFirst plugin quotes sql query := by
  refine ⟨optimizeQuery_of_not_limits, fun limits => ?_, optimizeQuery_optimizeQuery plugin sql,
    fun quotes query separates one begins => answersFirst one separates begins⟩
  obtain ⟨before, after, whole, place, optimized⟩ := optimized_of_limits limits
  refine ⟨before, after, whole, place, optimized, fun quotes separates outside => ?_⟩
  rcases limits with ⟨rfl, -⟩ | ⟨rule, rules, -⟩
  · exact keepsTokens_sqlServer place outside
  · exact keepsTokens_limitOf rules place outside separates

/-- A database in which every query finds a thousand and one rows. -/
def thousandAndOne : Database .mySql Nat where
  rows query := if clauseTokens .mySql <:+ query then List.range 1000 else List.range 1001
  accepts _ := True
  limited query _ := by
    have clause : limitedQuery .mySql query = query ++ clauseTokens .mySql := if_neg (by decide)
    rw [clause, if_pos (List.suffix_append _ _)]
    split_ifs <;> rw [List.take_range] <;> rfl

/-- The last of a thousand and one rows is not answered. -/
theorem last_row_cut_off : ¬ ∀ (plugin : Plugin) (sql : List Char) (quotes : Quotes)
    (query query' : List Token), Sql.statements quotes sql = some [query] →
      Sql.statements quotes (plugin.optimizeQuery sql) = some [query'] →
        ∀ database : Database plugin Nat, database.accepts query →
          (database.rows query).length ≤ (database.rows query').length := by
  intro claimed
  have fewer := claimed .mySql "SELECT * FROM users".toList (fun _ => none)
    [.word "SELECT".toList, .symbol '*', .word "FROM".toList, .word "users".toList]
    [.word "SELECT".toList, .symbol '*', .word "FROM".toList, .word "users".toList,
      .word "LIMIT".toList, .word "1000".toList]
    (by decide) (by decide) thousandAndOne trivial
  revert fewer
  decide +kernel

end OdbcFast.Verification
