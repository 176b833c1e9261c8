import OdbcFast.Native.Engine.Catalog
import OdbcFast.Wire.Sql

/-!
# The table that a catalog query asks for

A query about one table of one schema has a placeholder for each of the two. What a placeholder is
for is read from the statement: it belongs to a column or a function, and that one is about the
schema or about the table. Most statements for keys and indexes have none for the schema, so they
list what all the tables of the name have.
-/

namespace OdbcFast.Verification

open Wire Wire.Sql OdbcFast.Native OdbcFast.Native.Engine

inductive CatalogOperation where
  | columns
  | primaryKeys
  | foreignKeys
  | indexes
  deriving DecidableEq, Repr

namespace CatalogOperation

def list : CatalogOperation → Option (List Char) → List Char → Except OdbcError PipelineCall
  | .columns => listColumns
  | .primaryKeys => listPrimaryKeys
  | .foreignKeys => listForeignKeys
  | .indexes => listIndexes

/-- The statement of a plugin. -/
def sqlOf : CatalogOperation → CatalogProvider → CatalogSql
  | .columns => CatalogProvider.listColumnsSql
  | .primaryKeys => CatalogProvider.listPrimaryKeysSql
  | .foreignKeys => CatalogProvider.listForeignKeysSql
  | .indexes => CatalogProvider.listIndexesSql

end CatalogOperation

/-! ## Placeholders -/

/-- A name may stand in brackets. -/
def catalogQuotes : Quotes := fun c => if c = '[' then some ']' else none

/-- The column that a placeholder is shown as, by the tokens behind it. -/
def shownAs : List Token → Option (List Char)
  | .word keyword :: .word column :: _ => if keyword = "AS".toList then some column else none
  | _ => none

/-- The column that it is compared with, or the function that takes it, by the tokens in front of
it from the last to the first. -/
def comparedWith : List Token → Option (List Char)
  | .symbol '=' :: .word column :: _ => some column
  | .symbol '(' :: .word _ :: .symbol '=' :: .word column :: _ => some column
  | .symbol '(' :: .word function :: _ => some function
  | _ => none

/-- The word of each placeholder. -/
def placeWords (before : List Token) : List Token → List (Option (List Char))
  | [] => []
  | token :: tokens =>
    if token = .symbol '?' then
      (shownAs tokens).or (comparedWith before) :: placeWords (token :: before) tokens
    else placeWords (token :: before) tokens

inductive Subject where
  | schema
  | table
  deriving DecidableEq, Repr

def schemaWords : List String := ["TABLE_SCHEMA", "TABSCHEMA", "OWNER", "INDEX_OWNER"]

/-- `name` is a column of `sys.tables` and of `sysobjects`. -/
def tableWords : List String :=
  ["TABLE_NAME", "TABLENAME", "TABNAME", "NAME", "PRAGMA_TABLE_INFO", "PRAGMA_FOREIGN_KEY_LIST",
    "PRAGMA_INDEX_LIST"]

def subjectOf (word : List Char) : Option Subject :=
  if word.map Char.toUpper ∈ schemaWords.map String.toList then some .schema
  else if word.map Char.toUpper ∈ tableWords.map String.toList then some .table
  else none

def subjectsIn (text : List Char) : Option (List (Option Subject)) :=
  (tokens catalogQuotes text).map fun tokens => (placeWords [] tokens).map (·.bind subjectOf)

/-- What the placeholders of a statement are for, in order. -/
def subjects (sql : String) : Option (List (Option Subject)) := subjectsIn sql.toList

theorem subjects_eq {sql : String} {text : List Char} {places : Option (List (Option Subject))}
    (spelled : Spelled sql text) (read : subjectsIn text = places) : subjects sql = places := by
  rw [subjects, spelled.toList_eq]
  exact read

/-! ## What a query asks for -/

/-- A table of a schema. -/
structure QualifiedTable where
  schema : List Char
  table : List Char
  deriving DecidableEq, Repr

def Subject.of : Subject → QualifiedTable → List Char
  | .schema, owner => owner.schema
  | .table, owner => owner.table

/-- The placeholders are for these subjects, and the parameters are what the wanted table has for
them. -/
structure Binds (q : CatalogQuery) (wanted : QualifiedTable) (order : List Subject) : Prop where
  placed : subjects q.sql = some (order.map some)
  params : q.params = order.map fun subject => textParam (subject.of wanted)

/-- Some engines have their names in upper case. -/
def SameName (name name' : List Char) : Prop := name.map Char.toUpper = name'.map Char.toUpper

def QualifiedTable.Fits (owner : QualifiedTable) : Option Subject → ParamValue → Prop
  | some subject, .string value => SameName (subject.of owner) value.toList
  | _, _ => True

/-- What belongs to this table meets the conditions that have placeholders. -/
def QualifiedTable.Meets (owner : QualifiedTable) (q : CatalogQuery) : Prop :=
  ∀ places, subjects q.sql = some places → ∀ bound ∈ places.zip q.params,
    owner.Fits bound.1 bound.2

/-- Both the schema and the table are bound, and the conditions hold of no other table. -/
structure SelectsOnly (q : CatalogQuery) (wanted : QualifiedTable) : Prop where
  bound : ∃ order, Binds q wanted order ∧ .schema ∈ order ∧ .table ∈ order
  only : ∀ owner, owner.Meets q → ∀ subject : Subject,
    SameName (subject.of owner) (subject.of wanted)

section

variable {q : CatalogQuery} {wanted : QualifiedTable} {order order' : List Subject}

theorem Binds.unique (binds : Binds q wanted order) (binds' : Binds q wanted order') :
    order = order' := by
  have same := binds.placed.symm.trans binds'.placed
  exact List.map_injective_iff.mpr (Option.some_injective _) (Option.some.inj same)

/-- A table is asked for by what is bound of it. -/
theorem Binds.meets_iff (binds : Binds q wanted order) (owner : QualifiedTable) :
    owner.Meets q ↔ ∀ subject ∈ order, SameName (subject.of owner) (subject.of wanted) := by
  have fits : ∀ subject : Subject, owner.Fits (some subject) (textParam (subject.of wanted)) ↔
      SameName (subject.of owner) (subject.of wanted) := by
    intro subject
    rw [textParam, QualifiedTable.Fits, String.toList_ofList]
  have pairs : (order.map some).zip q.params =
      order.map fun subject => (some subject, textParam (subject.of wanted)) := by
    rw [binds.params, List.zip_map']
  constructor
  · intro meets subject member
    refine (fits subject).mp (meets _ binds.placed (some subject, _) ?_)
    rw [pairs]
    exact List.mem_map_of_mem member
  · intro same places placed bound member
    obtain rfl := Option.some.inj (binds.placed.symm.trans placed)
    rw [pairs] at member
    obtain ⟨subject, among, rfl⟩ := List.mem_map.mp member
    exact (fits subject).mpr (same subject among)

theorem Binds.selectsOnly_iff (binds : Binds q wanted order) :
    SelectsOnly q wanted ↔ .schema ∈ order ∧ .table ∈ order := by
  constructor
  · intro selects
    obtain ⟨order', binds', both⟩ := selects.bound
    rwa [binds.unique binds']
  · intro both
    refine ⟨⟨order, binds, both⟩, fun owner meets subject => ?_⟩
    have same := (binds.meets_iff owner).mp meets
    cases subject with
    | schema => exact same .schema both.1
    | table => exact same .table both.2

end

/-! ## The statements of the plugins -/

/-- A wanted table as it is written in a text. -/
structure QualifiedTable.Bare (wanted : QualifiedTable) : Prop where
  schema : Native.trim wanted.schema = wanted.schema
  table : Native.trim wanted.table = wanted.table
  shows : wanted.table ≠ []

/-- For a wanted table the statement has placeholders for these subjects, or for the others if its
schema is blank. -/
def Places (sql : CatalogSql) (qualified unqualified : List Subject) : Prop :=
  ∀ wanted : QualifiedTable, wanted.Bare → ∃ q, sql wanted.table (some wanted.schema) = .ok q ∧
    Binds q wanted (if wanted.schema = [] then unqualified else qualified)

section

variable {sql other : String} {qualified unqualified : List Subject}

theorem places_of_same {sql : CatalogSql} {order : List Subject}
    (binds : ∀ wanted : QualifiedTable, wanted.Bare →
      ∃ q, sql wanted.table (some wanted.schema) = .ok q ∧ Binds q wanted order) :
    Places sql order order := by
  intro wanted bare
  rw [ite_self]
  exact binds wanted bare

theorem places_byTable (placed : subjects sql = some [some .table]) :
    Places (.byTable sql) [.table] [.table] :=
  places_of_same fun _ _ => ⟨_, rfl, placed, rfl⟩

theorem places_byTrimmedTable (placed : subjects sql = some [some .table]) :
    Places (.byTrimmedTable sql) [.table] [.table] := by
  refine places_of_same fun wanted bare => ⟨_, rfl, placed, ?_⟩
  rw [bare.table]
  rfl

theorem places_byTableTwice (placed : subjects sql = some [some .table, some .table]) :
    Places (.byTableTwice sql) [.table, .table] [.table, .table] := by
  refine places_of_same fun wanted bare => ⟨_, rfl, placed, ?_⟩
  rw [bare.table]
  rfl

theorem places_bySchema (placed : subjects sql = some [some .table, some .schema])
    (placed' : subjects other = some [some .table]) :
    Places (.bySchema sql other) [.table, .schema] [.table] := by
  intro wanted bare
  by_cases blank : wanted.schema = []
  · refine ⟨⟨other, [textParam (Native.trim wanted.table)]⟩, ?_, ?_⟩
    · rw [CatalogSql.bySchema, Option.filter_some, bare.schema, blank]
      rfl
    · rw [if_pos blank, bare.table]
      exact ⟨placed', rfl⟩
  · refine ⟨⟨sql, [textParam (Native.trim wanted.table), textParam (Native.trim wanted.schema)]⟩, ?_, ?_⟩
    · rw [CatalogSql.bySchema, Option.filter_some, bare.schema, if_pos (decide_eq_true blank)]
      dsimp only
      rw [bare.schema]
    · rw [if_neg blank, bare.table, bare.schema]
      exact ⟨placed, rfl⟩

theorem Places.checked {sql : CatalogSql} (places : Places sql qualified unqualified) :
    Places sql.checked qualified unqualified := by
  intro wanted bare
  rw [CatalogSql.checked, bare.table, if_neg bare.shows]
  exact places wanted bare

end

/-- The placeholders of a plugin's statement, if the schema is not blank. -/
def placesOf : Plugin → CatalogOperation → List Subject
  | .sqlite, _ => [.table, .table]
  | .snowflake, .indexes => []
  | .sybase, _ | .oracle, .foreignKeys => [.table]
  | .oracle, _ | _, .columns => [.table, .schema]
  | _, _ => [.table]

/-- And if it is blank: then it is never asked for. -/
def placesOfBlank (plugin : Plugin) (operation : CatalogOperation) : List Subject :=
  (placesOf plugin operation).filter (· = .table)

section

-- the texts are taken apart into their characters
set_option maxRecDepth 4000

theorem places_defaults : Places Defaults.listColumns [.table, .schema] [.table] :=
  (places_bySchema (subjects_eq (by repeat constructor) (by decide +kernel))
    (subjects_eq (by repeat constructor) (by decide +kernel))).checked

theorem places_sqlOf (plugin : Plugin) (operation : CatalogOperation) :
    Places (operation.sqlOf plugin.catalogProvider) (placesOf plugin operation)
      (placesOfBlank plugin operation) := by
  cases plugin with
  | sqlServer | postgres | mySql | mariaDb =>
      cases operation with
      | columns => exact places_defaults
      | _ => exact places_byTable (subjects_eq (by repeat constructor) (by decide +kernel))
  | snowflake =>
      cases operation with
      | columns => exact places_defaults
      | indexes =>
          exact places_of_same fun _ _ => ⟨_, rfl, subjects_eq (by repeat constructor) (by decide +kernel), rfl⟩
      | _ => exact places_byTable (subjects_eq (by repeat constructor) (by decide +kernel))
  | oracle =>
      cases operation with
      | foreignKeys => exact places_byTable (subjects_eq (by repeat constructor) (by decide +kernel))
      | columns =>
          exact (places_bySchema (subjects_eq (by repeat constructor) (by decide +kernel))
            (subjects_eq (by repeat constructor) (by decide +kernel))).checked
      | _ =>
          exact places_bySchema (subjects_eq (by repeat constructor) (by decide +kernel))
            (subjects_eq (by repeat constructor) (by decide +kernel))
  | db2 =>
      cases operation with
      | columns =>
          exact places_bySchema (subjects_eq (by repeat constructor) (by decide +kernel))
            (subjects_eq (by repeat constructor) (by decide +kernel))
      | _ => exact places_byTable (subjects_eq (by repeat constructor) (by decide +kernel))
  | sqlite =>
      cases operation with
      | columns => exact (places_byTableTwice (subjects_eq (by repeat constructor) (by decide +kernel))).checked
      | _ => exact places_byTableTwice (subjects_eq (by repeat constructor) (by decide +kernel))
  | sybase =>
      cases operation with
      | columns => exact places_byTrimmedTable (subjects_eq (by repeat constructor) (by decide +kernel))
      | _ => exact places_byTable (subjects_eq (by repeat constructor) (by decide +kernel))

end

/-! ## The statement that is run -/

/-- The schema is asked for if it is not blank. -/
def AsksSchema : Plugin → CatalogOperation → Prop
  | .sqlServer, operation | .postgres, operation | .mySql, operation | .mariaDb, operation
  | .db2, operation | .snowflake, operation => operation = .columns
  | .oracle, operation => operation ≠ .foreignKeys
  | .sqlite, _ | .sybase, _ => False

theorem mem_placesOf_iff (plugin : Plugin) (operation : CatalogOperation) :
    .schema ∈ placesOf plugin operation ∧ .table ∈ placesOf plugin operation ↔
      AsksSchema plugin operation := by
  cases plugin with
  | _ => cases operation with
    | _ => simp [placesOf, AsksSchema]

theorem schema_notMem_placesOfBlank (plugin : Plugin) (operation : CatalogOperation) :
    .schema ∉ placesOfBlank plugin operation := by
  intro member
  cases of_decide_eq_true (List.mem_filter.mp member).2

/-- Each plugin is the one of some system. -/
theorem exists_catalogPlugin (plugin : Plugin) :
    ∃ dbmsName, catalogPlugin dbmsName = some plugin := by
  cases plugin with
  | sqlServer => exact ⟨some "Microsoft SQL Server".toList, by decide⟩
  | oracle => exact ⟨some "Oracle".toList, by decide⟩
  | postgres => exact ⟨some "PostgreSQL".toList, by decide⟩
  | mySql => exact ⟨some "MySQL".toList, by decide⟩
  | mariaDb => exact ⟨some "MariaDB".toList, by decide⟩
  | sybase => exact ⟨some "Adaptive Server Enterprise".toList, by decide⟩
  | sqlite => exact ⟨some "SQLite".toList, by decide⟩
  | db2 => exact ⟨some "DB2/LINUXX8664".toList, by decide⟩
  | snowflake => exact ⟨some "Snowflake".toList, by decide⟩

section

variable {live : CatalogProvider → CatalogSql} {qualified unqualified : String}
variable {dbmsName : Option (List Char)} {front back : List Char} {wanted : QualifiedTable}

theorem listOf_of_none (apart : '.' ∉ back) (shows : Native.trim back ≠ [])
    (none : catalogPlugin dbmsName = none) :
    listOf live qualified unqualified dbmsName (front ++ '.' :: back) =
      .ok (.executeWithParams qualified
        [textParam (Native.trim front), textParam (Native.trim back)]) := by
  rw [listOf, validateAndParseTable_qualified apart shows]
  dsimp only [bind, Except.bind, dispatchCatalog]
  rw [none]
  rfl

theorem listOf_of_some (apart : '.' ∉ back) (shows : Native.trim back ≠ []) {plugin : Plugin}
    (found : catalogPlugin dbmsName = some plugin) {q : CatalogQuery}
    (built : live plugin.catalogProvider (Native.trim back) (some (Native.trim front)) = .ok q) :
    listOf live qualified unqualified dbmsName (front ++ '.' :: back) =
      .ok (executeCatalogQuery q) := by
  rw [listOf, validateAndParseTable_qualified apart shows]
  dsimp only [bind, Except.bind, dispatchCatalog]
  rw [found, Option.map_some, built]
  rfl

theorem bare_of_shows (front : List Char) (shows : Native.trim back ≠ []) :
    QualifiedTable.Bare ⟨Native.trim front, Native.trim back⟩ :=
  ⟨trimWith_trimWith front, trimWith_trimWith back, shows⟩

end

section

set_option maxRecDepth 4000

/-- Without a plugin each statement asks for both. -/
theorem exists_list_of_none (operation : CatalogOperation) {dbmsName : Option (List Char)}
    {front back : List Char} (apart : '.' ∉ back) (shows : Native.trim back ≠ [])
    (none : catalogPlugin dbmsName = none) :
    ∃ call, operation.list dbmsName (front ++ '.' :: back) = .ok call ∧
      Binds call.query ⟨Native.trim front, Native.trim back⟩ [.schema, .table] := by
  cases operation with
  | _ =>
      exact ⟨_, listOf_of_none apart shows none, subjects_eq (by repeat constructor) (by decide +kernel), rfl⟩

end

theorem exists_list_of_some (operation : CatalogOperation) {dbmsName : Option (List Char)}
    {front back : List Char} (apart : '.' ∉ back) (shows : Native.trim back ≠ []) {plugin : Plugin}
    (found : catalogPlugin dbmsName = some plugin) :
    ∃ call, operation.list dbmsName (front ++ '.' :: back) = .ok call ∧
      Binds call.query ⟨Native.trim front, Native.trim back⟩
        (if Native.trim front = [] then placesOfBlank plugin operation
          else placesOf plugin operation) := by
  obtain ⟨q, built, binds⟩ := places_sqlOf plugin operation _ (bare_of_shows front shows)
  refine ⟨executeCatalogQuery q, ?_, ?_⟩
  · cases operation with
    | _ => exact listOf_of_some apart shows found built
  · rw [query_executeCatalogQuery]
    exact binds

/-! ## Both are asked for -/

/-- A list is of one table only if the connection has no plugin, or if its plugin asks for a schema
and that is not blank. -/
theorem catalogQuery_selectsOnly_iff (operation : CatalogOperation)
    (dbmsName : Option (List Char)) {front back : List Char} (apart : '.' ∉ back)
    (shows : Native.trim back ≠ []) :
    ∃ call, operation.list dbmsName (front ++ '.' :: back) = .ok call ∧
      (SelectsOnly call.query ⟨Native.trim front, Native.trim back⟩ ↔
        ∀ plugin, catalogPlugin dbmsName = some plugin →
          AsksSchema plugin operation ∧ Native.trim front ≠ []) := by
  rcases found : catalogPlugin dbmsName with _ | plugin
  · obtain ⟨call, listed, binds⟩ := @exists_list_of_none operation _ front _ apart shows found
    refine ⟨call, listed, binds.selectsOnly_iff.trans ?_⟩
    simp
  · obtain ⟨call, listed, binds⟩ := @exists_list_of_some operation _ front _ apart shows _ found
    refine ⟨call, listed, binds.selectsOnly_iff.trans ?_⟩
    by_cases blank : Native.trim front = []
    · rw [if_pos blank]
      refine iff_of_false (fun both => schema_notMem_placesOfBlank plugin operation both.1) ?_
      exact fun asks => (asks plugin rfl).2 blank
    · rw [if_neg blank, mem_placesOf_iff]
      constructor
      · rintro asks _ ⟨⟩
        exact ⟨asks, blank⟩
      · exact fun asks => (asks plugin rfl).1

theorem columns_selectOnly : ∃ call,
    listColumns (some "PostgreSQL".toList) "public.users".toList = .ok call ∧
      SelectsOnly call.query ⟨"public".toList, "users".toList⟩ := by
  obtain ⟨call, listed, only⟩ := @catalogQuery_selectsOnly_iff .columns (some "PostgreSQL".toList)
    "public".toList "users".toList (by decide) (by decide)
  refine ⟨call, listed, only.mpr fun plugin found => ⟨?_, by decide⟩⟩
  obtain rfl : Plugin.postgres = plugin := by
    rw [← Option.some.injEq, ← found]
    decide
  rfl

/-- The keys of another schema's table of this name are listed as well. -/
theorem key_of_other_schema : ∃ call,
    listPrimaryKeys (some "MySQL".toList) "a.t".toList = .ok call ∧
      call.query.params = [textParam "t".toList] ∧
      ¬ SelectsOnly call.query ⟨"a".toList, "t".toList⟩ ∧
      QualifiedTable.Meets ⟨"b".toList, "t".toList⟩ call.query := by
  obtain ⟨call, listed, binds⟩ := @exists_list_of_some .primaryKeys (some "MySQL".toList)
    "a".toList "t".toList (by decide) (by decide) .mySql (by decide)
  rw [if_neg (by decide)] at binds
  refine ⟨call, listed, binds.params, fun only => ?_, ?_⟩
  · have both := binds.selectsOnly_iff.mp only
    cases both.1 with
    | tail _ member => cases member
  · refine (binds.meets_iff _).mpr fun subject member => ?_
    obtain rfl := List.mem_singleton.mp member
    rfl

end OdbcFast.Verification
