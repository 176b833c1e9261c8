import OdbcFast.Native.Plugins.Upsert
import OdbcFast.Verification.Identifiers
import OdbcFast.Wire.SqlTemplates

/-!
# Templates of upserts

Each plugin fills a template of its own: once the names are accepted, its statement is that
template with the names between quotes. So the statement is read as the template says.
-/

namespace OdbcFast.Verification

open Wire OdbcFast.Native

/-! ## Templates -/

inductive NameList where
  | table
  | columns
  | conflicts
  | updates
  deriving DecidableEq, Repr

/-- A list of names in these quotes. -/
def quotedList (style : IdentifierQuoting) (front : String) (backs : List String)
    (separator : String) (names : NameList) (back : String) : Sql.Clause NameList :=
  ⟨opening style, closing style, front, backs, separator, names, back⟩

@[simp] def tableList (style : IdentifierQuoting) (back : String) : Sql.Clause NameList :=
  quotedList style "" [""] "." .table back

@[simp] def columnList (style : IdentifierQuoting) (back : String) : Sql.Clause NameList :=
  quotedList style "" [""] ", " .columns back

/-- A placeholder for each column. -/
@[simp] def markList (back : String) : Sql.Clause NameList :=
  quotedList .doubleQuote "?" [] ", " .columns back

@[simp] def sameList (style : IdentifierQuoting) (back : String) : Sql.Clause NameList :=
  quotedList style "t." [" = s.", ""] " AND " .conflicts back

@[simp] def insertInto (behind : List (Sql.Clause NameList)) (back : String) :
    Sql.Template NameList :=
  ⟨"INSERT INTO ", tableList .doubleQuote " (" :: columnList .doubleQuote ") VALUES (" ::
    markList back :: behind⟩

def onConflictTemplate (set : String) (updates : Bool) : Sql.Template NameList :=
  let conflicts := quotedList .doubleQuote "" [""] ", " .conflicts
  insertInto
    (if updates then
      [conflicts ") DO UPDATE SET ", quotedList .doubleQuote "" [set, ""] ", " .updates ""]
    else [conflicts ") DO NOTHING"])
    ") ON CONFLICT ("

/-- A `MERGE` up to the keys that have to be the same; behind them stands `close`. -/
@[simp] def mergeInto (style : IdentifierQuoting) (source : List (Sql.Clause NameList))
    (using' close set : String) (sets : List String) (back : String) (updates : Bool) :
    Sql.Template NameList :=
  ⟨"MERGE INTO ", tableList style using' :: source ++
    (if updates then
      [sameList style (close ++ " WHEN MATCHED THEN UPDATE SET "),
        quotedList style set sets ", " .updates " WHEN NOT MATCHED THEN INSERT ("]
    else [sameList style (close ++ " WHEN NOT MATCHED THEN INSERT (")]) ++
    [columnList style ") VALUES (", quotedList style "s." [""] ", " .columns back]⟩

/-- What a plugin fills, if there are columns to update and if there are none. -/
def upsertTemplate (plugin : Plugin) (updates : Bool) : Sql.Template NameList :=
  match plugin with
  | .postgres => onConflictTemplate " = EXCLUDED." updates
  | .sqlite => onConflictTemplate " = excluded." updates
  | .mySql | .mariaDb =>
    if updates then
      insertInto [quotedList .backtick "" [" = VALUES(", ")"] ", " .updates ""]
        ") ON DUPLICATE KEY UPDATE "
    else insertInto [] ") ON DUPLICATE KEY UPDATE id = id"
  | .oracle =>
    mergeInto .doubleQuote [quotedList .doubleQuote "? " [""] ", " .columns " FROM dual) s ON ("]
      " t USING (SELECT " ")" "t." [" = s.", ""] ")" updates
  | .snowflake =>
    mergeInto .doubleQuote [quotedList .doubleQuote "? AS " [""] ", " .columns ") s ON "]
      " t USING (SELECT " "" "t." [" = s.", ""] ")" updates
  | .db2 =>
    mergeInto .doubleQuote [markList ")) AS s(", columnList .doubleQuote ") ON "]
      " t USING (VALUES (" "" "" [" = s.", ""] ")" updates
  | .sqlServer | .sybase =>
    mergeInto .brackets [quotedList .brackets "? AS " [""] ", " .columns ") AS s ON "]
      " AS t USING (SELECT " "" "t." [" = s.", ""] ");" updates

/-- The names of a call. -/
def givenNames (table : String) (columns conflictColumns : List String)
    (updateColumns : Option (List String)) : NameList → List String
  | .table => dotParts table
  | .columns => columns
  | .conflicts => conflictColumns
  | .updates => Upsert.effectiveUpdateColumns columns conflictColumns updateColumns

/-! ## Accepted names -/

section

variable {table : String} {columns conflictColumns : List String}
  {updateColumns : Option (List String)}

structure AcceptedUpsert (table : String) (columns conflictColumns : List String)
    (updateColumns : Option (List String)) : Prop where
  parts : ∀ name ∈ dotParts table, AcceptedName name
  listed : ∀ name ∈ columns, AcceptedName name
  keys : ∀ name ∈ conflictColumns, AcceptedName name
  updated : ∀ name ∈ Upsert.effectiveUpdateColumns columns conflictColumns updateColumns,
    AcceptedName name
  some : columns ≠ []
  keyed : conflictColumns ≠ []
  supplied : ∀ name ∈ conflictColumns, name ∈ columns

theorem AcceptedUpsert.given
    (accepted : AcceptedUpsert table columns conflictColumns updateColumns) (list : NameList) :
    ∀ name ∈ givenNames table columns conflictColumns updateColumns list, AcceptedName name := by
  cases list with
  | table => exact accepted.parts
  | columns => exact accepted.listed
  | conflicts => exact accepted.keys
  | updates => exact accepted.updated

theorem forall_of_forM {α ε : Type} {f : α → Except ε Unit} {items : List α}
    (ran : items.forM f = .ok ()) : ∀ item ∈ items, f item = .ok () := by
  induction items with
  | nil => simp
  | cons item items ih =>
      rw [List.forM_eq_forM, List.forM_cons, bind_eq_ok] at ran
      obtain ⟨⟨⟩, first, others⟩ := ran
      exact List.forall_mem_cons.mpr ⟨first, ih others⟩

theorem acceptedUpsert_of_validated
    (validated : Upsert.validateUpsertInputs table columns conflictColumns updateColumns = .ok ()) :
    AcceptedUpsert table columns conflictColumns updateColumns := by
  rw [Upsert.validateUpsertInputs] at validated
  by_cases empty : trim table.toList = []
  · rw [if_pos empty] at validated
    cases validated
  rw [if_neg empty, bind_eq_ok] at validated
  obtain ⟨⟨⟩, parts, validated⟩ := validated
  split_ifs at validated with none unkeyed
  obtain ⟨⟨⟩, named, validated⟩ := bind_eq_ok.mp validated
  obtain ⟨⟨⟩, updated, supplied⟩ := bind_eq_ok.mp validated
  have names : ∀ {items : List String}, items.forM validateIdentifier = .ok () →
      ∀ name ∈ items, AcceptedName name := fun valid name member =>
    (validateIdentifier_eq_ok_iff name).mp (forall_of_forM valid name member)
  obtain ⟨listed, keys⟩ := List.forall_mem_append.mp (names named)
  refine ⟨names parts, listed, keys, ?_, by simpa using none, by simpa using unkeyed, ?_⟩
  · cases updateColumns with
    | none => exact fun name member => listed name (List.mem_of_mem_filter member)
    | some explicit => exact names updated
  · intro name member
    have checked := forall_of_forM supplied name member
    by_cases there : columns.contains name
    · exact List.contains_iff_mem.mp there
    · rw [if_neg there] at checked
      cases checked

/-! ## What is written -/

theorem joinQuoted_eq {names : List String} (accepted : ∀ name ∈ names, AcceptedName name)
    (style : IdentifierQuoting) (item : String → String) (separator : String) :
    Upsert.joinQuoted style item separator names =
      .ok (separator.intercalate (names.map fun name => item (style.wrap name))) := by
  have each : ∀ name ∈ names, (do
      let q ← quoteIdentifier name style
      pure (item q) : Except OdbcError String) = .ok (item (style.wrap name)) := by
    intro name member
    rw [quoteIdentifier_eq_ok_iff.mpr ⟨accepted name member, rfl⟩]
    rfl
  rw [Upsert.joinQuoted, mapM_eq_ok each]
  rfl

theorem quoteColumns_eq {names : List String} (some : names ≠ [])
    (accepted : ∀ name ∈ names, AcceptedName name) :
    Upsert.quoteColumns names =
      .ok (", ".intercalate (names.map IdentifierQuoting.doubleQuote.wrap)) := by
  rw [Upsert.quoteColumns, if_neg (by simpa using some), joinQuoted_eq accepted]
  rfl

theorem placeholderList_eq (names : List String) :
    Upsert.placeholderList names.length = ", ".intercalate (names.map fun _ => "?") := by
  rw [Upsert.placeholderList, List.map_const']

theorem quoteTable_eq (accepted : ∀ part ∈ dotParts table, AcceptedName part) :
    quoteQualifiedDefault table =
      .ok (".".intercalate ((dotParts table).map IdentifierQuoting.doubleQuote.wrap)) :=
  (quoteQualifiedDefault_iff table _).mpr
    ((quotesParts_iff (dotParts_ne_nil table)).mpr ⟨accepted, rfl⟩)

theorem quoteTableBrackets_eq (accepted : ∀ part ∈ dotParts table, AcceptedName part) :
    quoteTableBrackets table =
      .ok (".".intercalate ((dotParts table).map IdentifierQuoting.brackets.wrap)) :=
  (quoteTableBrackets_iff table _).mpr
    ((quotesParts_iff (dotParts_ne_nil table)).mpr ⟨accepted, rfl⟩)

/-- The names of a call, character by character. -/
def nameTexts (table : String) (columns conflictColumns : List String)
    (updateColumns : Option (List String)) (list : NameList) : List (List Char) :=
  (givenNames table columns conflictColumns updateColumns list).map String.toList

@[simp] theorem text_quotedList (style : IdentifierQuoting) (front : String) (backs : List String)
    (separator : String) (list : NameList) (back : String) :
    (quotedList style front backs separator list back).text
        (nameTexts table columns conflictColumns updateColumns) =
      separator.toList.intercalate
        ((givenNames table columns conflictColumns updateColumns list).map fun name =>
          Sql.fill (fun _ => (style.wrap name).toList) String.toList front.toList backs) := by
  simp only [Sql.Clause.text, nameTexts, List.map_map, toList_wrap]
  rfl

@[simp] theorem back_quotedList (style : IdentifierQuoting) (front : String) (backs : List String)
    (separator : String) (list : NameList) (back : String) :
    (quotedList style front backs separator list back).back = back := rfl

/-- The call has built its template. -/
def Written (plugin : Plugin) (table : String) (columns conflictColumns : List String)
    (updateColumns : Option (List String)) (sql : String) : Prop :=
  sql.toList = (upsertTemplate plugin
    (¬ (Upsert.effectiveUpdateColumns columns conflictColumns updateColumns).isEmpty)).text
      (nameTexts table columns conflictColumns updateColumns)

theorem onConflict_written
    (accepted : AcceptedUpsert table columns conflictColumns updateColumns) {between : String}
    {set : String → String} (sets : ∀ q, (set q).toList = q.toList ++ (between.toList ++ q.toList))
    {sql : String} (built : Upsert.onConflict set table columns conflictColumns updateColumns =
      .ok sql) :
    sql.toList = (onConflictTemplate between
      (¬ (Upsert.effectiveUpdateColumns columns conflictColumns updateColumns).isEmpty)).text
        (nameTexts table columns conflictColumns updateColumns) := by
  rw [Upsert.onConflict] at built
  obtain ⟨-, -, built⟩ := bind_eq_ok.mp built
  simp only [quoteTable_eq accepted.parts, quoteColumns_eq accepted.some accepted.listed,
    quoteColumns_eq accepted.keyed accepted.keys, placeholderList_eq,
    joinQuoted_eq accepted.updated, ok_bind] at built
  split_ifs at built with none
  · cases built
    simp [none, onConflictTemplate, Sql.Template.text, givenNames, String.toList_intercalate,
      Function.comp_def]
  · cases built
    simp [none, onConflictTemplate, Sql.Template.text, givenNames, String.toList_intercalate,
      Function.comp_def, sets]

theorem postgres_written (accepted : AcceptedUpsert table columns conflictColumns updateColumns)
    {sql : String}
    (built : Upsert.postgres table columns conflictColumns updateColumns = .ok sql) :
    Written .postgres table columns conflictColumns updateColumns sql :=
  onConflict_written accepted (fun q => by simp) built

theorem sqlite_written (accepted : AcceptedUpsert table columns conflictColumns updateColumns)
    {sql : String}
    (built : Upsert.sqlite table columns conflictColumns updateColumns = .ok sql) :
    Written .sqlite table columns conflictColumns updateColumns sql :=
  onConflict_written accepted (fun q => by simp) built

theorem mySql_written (accepted : AcceptedUpsert table columns conflictColumns updateColumns)
    {sql : String}
    (built : Upsert.mySql table columns conflictColumns updateColumns = .ok sql) :
    Written .mySql table columns conflictColumns updateColumns sql := by
  rw [Upsert.mySql] at built
  obtain ⟨-, -, built⟩ := bind_eq_ok.mp built
  simp only [quoteTable_eq accepted.parts, quoteColumns_eq accepted.some accepted.listed,
    placeholderList_eq, joinQuoted_eq accepted.updated, ok_bind] at built
  rw [Written]
  split_ifs at built with none
  · cases built
    simp [none, upsertTemplate, Sql.Template.text, givenNames, String.toList_intercalate,
      Function.comp_def]

theorem mariaDb_written (accepted : AcceptedUpsert table columns conflictColumns updateColumns)
    {sql : String}
    (built : Upsert.mariaDb table columns conflictColumns updateColumns = .ok sql) :
    Written .mariaDb table columns conflictColumns updateColumns sql := by
  rw [Upsert.mariaDb] at built
  obtain ⟨-, -, built⟩ := bind_eq_ok.mp built
  simp only [quoteTable_eq accepted.parts, quoteColumns_eq accepted.some accepted.listed,
    placeholderList_eq, joinQuoted_eq accepted.updated, ok_bind] at built
  rw [Written]
  split_ifs at built with none
  · cases built
    simp [none, upsertTemplate, Sql.Template.text, givenNames, String.toList_intercalate,
      Function.comp_def]
  · cases built
    simp [none, upsertTemplate, Sql.Template.text, givenNames, String.toList_intercalate,
      Function.comp_def]

theorem oracle_written (accepted : AcceptedUpsert table columns conflictColumns updateColumns)
    {sql : String}
    (built : Upsert.oracle table columns conflictColumns updateColumns = .ok sql) :
    Written .oracle table columns conflictColumns updateColumns sql := by
  rw [Upsert.oracle] at built
  obtain ⟨-, -, built⟩ := bind_eq_ok.mp built
  simp only [quoteTable_eq accepted.parts, joinQuoted_eq accepted.listed,
    joinQuoted_eq accepted.keys, joinQuoted_eq accepted.updated, Upsert.whenMatched,
    ok_bind] at built
  rw [Written]
  split_ifs at built with none
  · cases built
    simp [none, upsertTemplate, Sql.Template.text, givenNames, String.toList_intercalate,
      Function.comp_def]
  · cases built
    simp [none, upsertTemplate, Sql.Template.text, givenNames, String.toList_intercalate,
      Function.comp_def]

theorem snowflake_written (accepted : AcceptedUpsert table columns conflictColumns updateColumns)
    {sql : String}
    (built : Upsert.snowflake table columns conflictColumns updateColumns = .ok sql) :
    Written .snowflake table columns conflictColumns updateColumns sql := by
  rw [Upsert.snowflake] at built
  obtain ⟨-, -, built⟩ := bind_eq_ok.mp built
  simp only [quoteTable_eq accepted.parts, joinQuoted_eq accepted.listed,
    joinQuoted_eq accepted.keys, joinQuoted_eq accepted.updated, Upsert.whenMatched,
    ok_bind] at built
  rw [Written]
  split_ifs at built with none
  · cases built
    simp [none, upsertTemplate, Sql.Template.text, givenNames, String.toList_intercalate,
      Function.comp_def]
  · cases built
    simp [none, upsertTemplate, Sql.Template.text, givenNames, String.toList_intercalate,
      Function.comp_def]

theorem db2_written (accepted : AcceptedUpsert table columns conflictColumns updateColumns)
    {sql : String}
    (built : Upsert.db2 table columns conflictColumns updateColumns = .ok sql) :
    Written .db2 table columns conflictColumns updateColumns sql := by
  rw [Upsert.db2] at built
  obtain ⟨-, -, built⟩ := bind_eq_ok.mp built
  simp only [quoteTable_eq accepted.parts, placeholderList_eq, joinQuoted_eq accepted.listed,
    joinQuoted_eq accepted.keys, joinQuoted_eq accepted.updated, Upsert.whenMatched,
    ok_bind] at built
  rw [Written]
  split_ifs at built with none
  · cases built
    simp [none, upsertTemplate, Sql.Template.text, givenNames, String.toList_intercalate,
      Function.comp_def]
  · cases built
    simp [none, upsertTemplate, Sql.Template.text, givenNames, String.toList_intercalate,
      Function.comp_def]

/-- Items that are not empty are joined to nothing only if there are none. -/
theorem isEmpty_joined {item : String → String} (each : ∀ name, (item name).toList ≠ [])
    (separator : String) (names : List String) :
    (separator.intercalate (names.map item)).isEmpty = names.isEmpty := by
  rw [Bool.eq_iff_iff, String.isEmpty_iff, List.isEmpty_iff]
  constructor
  · intro empty
    rw [← String.toList_inj, String.toList_intercalate] at empty
    cases names with
    | nil => rfl
    | cons name names =>
        cases names with
        | nil => simp [each] at empty
        | cons next names => simp [List.intercalate_cons_cons, each] at empty
  · rintro rfl
    rfl

theorem sqlServer_written (accepted : AcceptedUpsert table columns conflictColumns updateColumns)
    {sql : String}
    (built : Upsert.sqlServer table columns conflictColumns updateColumns = .ok sql) :
    Written .sqlServer table columns conflictColumns updateColumns sql := by
  rw [Upsert.sqlServer] at built
  obtain ⟨-, -, built⟩ := bind_eq_ok.mp built
  simp only [quoteTableBrackets_eq accepted.parts, joinQuoted_eq accepted.listed,
    joinQuoted_eq accepted.keys, joinQuoted_eq accepted.updated, ok_bind] at built
  have sets := @isEmpty_joined
    (fun name =>
      let q := IdentifierQuoting.brackets.wrap name
      s!"t.{q} = s.{q}")
    (fun name => by simp) ", "
    (Upsert.effectiveUpdateColumns columns conflictColumns updateColumns)
  rw [Written]
  rw [sets] at built
  split_ifs at built with none
  · cases built
    simp [none, upsertTemplate, Sql.Template.text, givenNames, String.toList_intercalate,
      Function.comp_def]
  · cases built
    simp [none, upsertTemplate, Sql.Template.text, givenNames, String.toList_intercalate,
      Function.comp_def]

theorem buildUpsertSql_written {plugin : Plugin} {sql : String}
    (built : plugin.buildUpsertSql table columns conflictColumns updateColumns = .ok sql) :
    AcceptedUpsert table columns conflictColumns updateColumns ∧
      Written plugin table columns conflictColumns updateColumns sql := by
  have validated : Upsert.validateUpsertInputs table columns conflictColumns updateColumns =
      .ok () := by
    cases plugin with
    | sybase => cases built
    | sqlServer | oracle | postgres | mySql | mariaDb | sqlite | db2 | snowflake =>
        obtain ⟨⟨⟩, validated, -⟩ := bind_eq_ok.mp built
        exact validated
  have accepted := acceptedUpsert_of_validated validated
  refine ⟨accepted, ?_⟩
  cases plugin with
  | sqlServer => exact sqlServer_written accepted built
  | oracle => exact oracle_written accepted built
  | postgres => exact postgres_written accepted built
  | mySql => exact mySql_written accepted built
  | mariaDb => exact mariaDb_written accepted built
  | sybase => cases built
  | sqlite => exact sqlite_written accepted built
  | db2 => exact db2_written accepted built
  | snowflake => exact snowflake_written accepted built

/-! ## What is read -/

/-- Every style's quotes delimit names. -/
def anyQuotes : Sql.Quotes := fun c =>
  if c = '"' then some '"' else if c = '[' then some ']' else if c = '\x60' then some '\x60'
  else none

theorem isSound_upsertTemplate (plugin : Plugin) (updates : Bool) :
    (upsertTemplate plugin updates).isSound = true := by
  cases plugin with
  | _ => cases updates with
    | _ => decide +kernel

theorem fixed_upsertTemplate (plugin : Plugin) (updates : Bool) :
    (∀ text ∈ (upsertTemplate plugin updates).fixed, ∀ c ∈ text.toList, anyQuotes c = none) ∧
      ∀ clause ∈ (upsertTemplate plugin updates).clauses,
        anyQuotes clause.opening = some clause.closing ∧
          Sql.isBoundary clause.closing = false ∧ Sql.isWordChar clause.closing = false := by
  have fixed : ((upsertTemplate plugin updates).fixed.all fun text =>
      text.toList.all fun c => anyQuotes c = none) = true := by
    cases plugin with
    | _ => cases updates with
      | _ => decide +kernel
  constructor
  · intro text member c there
    exact of_decide_eq_true
      (List.all_eq_true.mp (List.all_eq_true.mp fixed text member) c there)
  · cases plugin with
    | _ => cases updates with
      | _ => decide +kernel

theorem read_opening {quotes : Sql.Quotes} {c close : Char} (quote : anyQuotes c ≠ none)
    (opens : quotes c = some close) :
    Sql.read quotes .between c = (.identifier close [], []) := by
  have plain : Sql.isBlank c = false ∧ Sql.isWordChar c = false ∧ c ≠ '\'' ∧ c ≠ '-' ∧ c ≠ '/' := by
    rw [anyQuotes] at quote
    split_ifs at quote with double bracket back
    · subst double
      decide
    · subst bracket
      decide
    · subst back
      decide
    · exact absurd rfl quote
  obtain ⟨blank, word, literal, dash, slash⟩ := plain
  rw [Sql.read, Sql.start, if_neg (by rw [blank]; simp), if_neg (by rw [word]; simp),
    if_neg literal, if_neg dash, if_neg slash, opens]

theorem admits_of_opens (accepted : AcceptedUpsert table columns conflictColumns updateColumns)
    {plugin : Plugin} {updates : Bool} {quotes : Sql.Quotes}
    (free : ∀ c, anyQuotes c = none → quotes c = none)
    (opens : ∀ clause ∈ (upsertTemplate plugin updates).clauses,
      quotes clause.opening = some clause.closing) :
    Sql.Admits quotes (upsertTemplate plugin updates)
      (nameTexts table columns conflictColumns updateColumns) := by
  obtain ⟨fixed, clauses⟩ := fixed_upsertTemplate plugin updates
  refine ⟨fun text member c there => free c (fixed text member c there), ?_, ?_, ?_⟩
  · intro clause member
    exact read_opening (by simp [(clauses clause member).1]) (opens clause member)
  · exact fun clause member => (clauses clause member).2.1
  · intro clause member name given closes
    obtain ⟨text, there, rfl⟩ := List.mem_map.mp given
    have word := (accepted.given _ text there).word _ closes
    rw [(clauses clause member).2.2] at word
    cases word

/-- A statement is read as its template says. -/
theorem tokens_built {plugin : Plugin} {sql : String} {quotes : Sql.Quotes}
    (built : plugin.buildUpsertSql table columns conflictColumns updateColumns = .ok sql)
    (free : ∀ c, anyQuotes c = none → quotes c = none)
    (opens : ∀ updates, ∀ clause ∈ (upsertTemplate plugin updates).clauses,
      quotes clause.opening = some clause.closing) :
    Sql.tokens quotes sql.toList = some ((upsertTemplate plugin
      (¬ (Upsert.effectiveUpdateColumns columns conflictColumns updateColumns).isEmpty)).tokens
        (nameTexts table columns conflictColumns updateColumns)) := by
  obtain ⟨accepted, written⟩ := buildUpsertSql_written built
  rw [Written] at written
  rw [written]
  exact (Sql.Template.reads (isSound_upsertTemplate plugin _)
    (admits_of_opens accepted free (opens _))).tokens_eq

theorem tokens_anyQuotes {plugin : Plugin} {sql : String}
    (built : plugin.buildUpsertSql table columns conflictColumns updateColumns = .ok sql) :
    Sql.tokens anyQuotes sql.toList = some ((upsertTemplate plugin
      (¬ (Upsert.effectiveUpdateColumns columns conflictColumns updateColumns).isEmpty)).tokens
        (nameTexts table columns conflictColumns updateColumns)) :=
  tokens_built built (fun _ none => none) fun updates clause member =>
    ((fixed_upsertTemplate plugin updates).2 clause member).1

end

end OdbcFast.Verification
