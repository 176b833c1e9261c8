import OdbcFast.Verification.ReturningPlaces
import OdbcFast.Verification.UpsertTemplates
import OdbcFast.Wire.Trim

/-!
# Statements that return rows

A statement is to come back with one clause more, at the place that its engine has for it, and
otherwise as it was but for the semicolons and blanks at its end. Blanks hide the semicolons in
front of them from most plugins, semicolons and blanks in turn from all; and a comment at the end
takes the clause in.
-/

namespace OdbcFast.Verification

open Wire OdbcFast.Native OdbcFast.Native.Returning

/-! ## Statements -/

structure DmlStatement where
  verb : DmlVerb
  body : List Char
  /-- Semicolons and blanks. -/
  ending : List Char
  ends : ∀ c ∈ ending, c = ';' ∨ isWhitespace c = true
  bare : ∀ c, body.getLast? = some c → c ≠ ';' ∧ isWhitespace c = false

def DmlStatement.text (statement : DmlStatement) : List Char := statement.body ++ statement.ending

/-! ## Statements with the clause -/

def quotedColumns (style : IdentifierQuoting) (item : String → String) (columns : List String) :
    String :=
  ", ".intercalate (columns.map fun column => item (style.wrap column))

def returningColumns : List String → String := quotedColumns .doubleQuote id

def outputColumns (verb : DmlVerb) : List String → String :=
  quotedColumns .brackets fun q => s!"{outputTable verb}.{q}"

/-- Oracle gives the columns to variables, one for each. -/
def outVariables (columns : List String) : String :=
  ", ".intercalate ((List.range columns.length).map fun i => s!":ret_{i}")

/-- The text ends where a clause is no part of a name, a literal or a comment. -/
def EndsOutside (plugin : Plugin) (text : List Char) : Prop :=
  (Sql.readAll (quotesOf plugin.quotingStyle) .between text).1.isOutside = true

/-- The statement without its ending and with one clause, which is in no literal, no comment and in
no sub-query: these stand in the statement as they did. -/
def WithClause (plugin : Plugin) (verb : DmlVerb) (columns : List String)
    (body result : List Char) : Prop :=
  match plugin with
  | .sqlServer => ∃ head tail, body = head ++ tail ∧ OutputPlace verb head tail ∧
      result = head ++ s!" OUTPUT {outputColumns verb columns}".toList ++ tail
  | .db2 => EndsOutside .db2 body ∧ result =
      s!"SELECT {returningColumns columns} FROM FINAL TABLE (".toList ++ body ++ ")".toList
  | .oracle => EndsOutside .oracle body ∧ result =
      body ++ s!" RETURNING {returningColumns columns} INTO {outVariables columns}".toList
  | .postgres | .mySql | .mariaDb | .sybase | .sqlite | .snowflake =>
    EndsOutside plugin body ∧ result = body ++ s!" RETURNING {returningColumns columns}".toList

def AppendsReturning (plugin : Plugin) (statement : DmlStatement) (columns : List String) : Prop :=
  columns ≠ [] ∧ ∃ result,
    plugin.appendReturningClause statement.text statement.verb columns = .ok result ∧
    WithClause plugin statement.verb columns statement.body result

def OnlySemicolons (ending : List Char) : Prop := ∀ c ∈ ending, c = ';'

/-- No blank stands behind a semicolon. -/
def BlanksFirst (ending : List Char) : Prop :=
  ∃ blanks semicolons, ending = blanks ++ semicolons ∧ (∀ c ∈ blanks, isWhitespace c = true) ∧
    OnlySemicolons semicolons

def ReturningFits (plugin : Plugin) (statement : DmlStatement) : Prop :=
  match plugin with
  | .sqlServer => BlanksFirst statement.ending ∧ ∃ head tail, statement.body = head ++ tail ∧
      OutputPlace statement.verb head tail ∧ OutputFound head tail
  | .db2 => EndsOutside .db2 statement.body ∧ statement.verb ≠ .delete ∧
      OnlySemicolons statement.ending
  | .oracle | .postgres | .mySql | .mariaDb | .sybase | .sqlite | .snowflake =>
    EndsOutside plugin statement.body ∧ OnlySemicolons statement.ending

/-! ## Endings -/

theorem trimEndMatches_text (statement : DmlStatement) :
    trimEndMatches ';' statement.text =
      statement.body ++ trimEndMatches ';' statement.ending :=
  rdropWhile_append (fun c last => beq_false_of_ne (statement.bare c last).1) statement.ending

theorem trimmed_text (statement : DmlStatement) :
    trimEnd (trimEndMatches ';' statement.text) =
      statement.body ++ trimEnd (trimEndMatches ';' statement.ending) := by
  rw [trimEndMatches_text]
  exact rdropWhile_append (fun c last => (statement.bare c last).2) _

theorem trimEndMatches_eq_nil_iff (ending : List Char) :
    trimEndMatches ';' ending = [] ↔ OnlySemicolons ending := by
  rw [trimEndMatches, List.rdropWhile_eq_nil_iff]
  exact forall₂_congr fun c _ => beq_iff_eq

theorem trimEnd_eq_nil_iff (ending : List Char) :
    trimEnd (trimEndMatches ';' ending) = [] ↔ BlanksFirst ending := by
  rw [trimEnd, trimEndMatches, rdropWhile_rdropWhile_eq_nil_iff]
  simp only [beq_iff_eq]
  rfl

/-! ## The clauses -/

/-- Nothing may be left in front of what is added. -/
theorem exists_ok_append_iff (front rest back : List Char) :
    (∃ result, (Except.ok (front ++ trimEndMatches ';' rest ++ back) : Except OdbcError _) =
      .ok result ∧ result = front ++ back) ↔ OnlySemicolons rest := by
  rw [← trimEndMatches_eq_nil_iff]
  constructor
  · rintro ⟨_, ⟨⟩, same⟩
    rwa [List.append_cancel_right_eq, List.append_right_eq_self] at same
  · intro nothing
    exact ⟨_, rfl, by rw [nothing, List.append_nil]⟩

/-- Where the clause stands is a question of its own. -/
theorem appends_outside_iff {appended : Except OdbcError (List Char)}
    {written : List Char → Prop} {fits outside : Prop}
    (appends_iff : (∃ result, appended = .ok result ∧ written result) ↔ fits) :
    (∃ result, appended = .ok result ∧ outside ∧ written result) ↔ outside ∧ fits := by
  rw [← appends_iff]
  constructor
  · rintro ⟨result, returned, place, shape⟩
    exact ⟨place, result, returned, shape⟩
  · rintro ⟨place, result, returned, shape⟩
    exact ⟨result, returned, place, shape⟩

section

variable {columns : List String} (accepted : ∀ column ∈ columns, AcceptedName column)

include accepted

theorem quoteReturningColumns_eq (some : columns ≠ []) :
    quoteReturningColumns columns = .ok (returningColumns columns) := by
  have each : ∀ column ∈ columns, (do
      validateIdentifier column
      quoteIdentifierDefault column : Except OdbcError String) =
        .ok (IdentifierQuoting.doubleQuote.wrap column) := by
    intro column member
    rw [(validateIdentifier_eq_ok_iff column).mpr (accepted column member)]
    exact quoteIdentifier_eq_ok_iff.mpr ⟨accepted column member, rfl⟩
  rw [quoteReturningColumns, if_neg (by simpa using some), mapM_eq_ok each]
  rfl

theorem sqlServer_eq (sql : List Char) (verb : DmlVerb) :
    Returning.sqlServer sql verb columns =
      .ok (outputAt (trimEnd (trimEndMatches ';' sql)) (outputColumns verb columns)
        (outputPosition (trimEnd (trimEndMatches ';' sql)))) := by
  rw [Returning.sqlServer, joinQuoted_eq accepted, ← insertOutput_eq]
  rfl

theorem appends_atEnd_iff (some : columns ≠ []) (statement : DmlStatement) :
    (∃ result, Returning.atEnd statement.text columns = .ok result ∧
      result = statement.body ++ s!" RETURNING {returningColumns columns}".toList) ↔
      OnlySemicolons statement.ending := by
  rw [Returning.atEnd, quoteReturningColumns_eq accepted some, trimEndMatches_text]
  exact exists_ok_append_iff _ _ _

theorem appends_oracle_iff (some : columns ≠ []) (statement : DmlStatement) :
    (∃ result, Returning.oracle statement.text statement.verb columns = .ok result ∧
      result = statement.body ++
        s!" RETURNING {returningColumns columns} INTO {outVariables columns}".toList) ↔
      OnlySemicolons statement.ending := by
  rw [Returning.oracle, quoteReturningColumns_eq accepted some, trimEndMatches_text]
  exact exists_ok_append_iff _ _ _

theorem appends_db2_iff (statement : DmlStatement) :
    (∃ result, Returning.db2 statement.text statement.verb columns = .ok result ∧
      result = s!"SELECT {returningColumns columns} FROM FINAL TABLE (".toList ++
        statement.body ++ ")".toList) ↔
      statement.verb ≠ .delete ∧ OnlySemicolons statement.ending := by
  rw [Returning.db2]
  by_cases deletes : statement.verb = .delete
  · rw [if_pos deletes]
    refine iff_of_false ?_ fun fits => fits.1 deletes
    rintro ⟨result, ⟨⟩, -⟩
  · rw [if_neg deletes, and_iff_right deletes, joinQuoted_eq accepted, trimEndMatches_text]
    simp only [← List.append_assoc]
    exact exists_ok_append_iff _ _ _

theorem appends_sqlServer_iff (statement : DmlStatement) :
    (∃ result, Returning.sqlServer statement.text statement.verb columns = .ok result ∧
      ∃ head tail, statement.body = head ++ tail ∧ OutputPlace statement.verb head tail ∧
        result = head ++ s!" OUTPUT {outputColumns statement.verb columns}".toList ++ tail) ↔
      BlanksFirst statement.ending ∧ ∃ head tail, statement.body = head ++ tail ∧
        OutputPlace statement.verb head tail ∧ OutputFound head tail := by
  rw [sqlServer_eq accepted, trimmed_text, ← trimEnd_eq_nil_iff]
  generalize trimEnd (trimEndMatches ';' statement.ending) = rest
  constructor
  · rintro ⟨_, ⟨⟩, head, tail, whole, place, same⟩
    have lengths := congrArg List.length same
    rw [length_outputAt, List.length_append, List.length_append, List.length_append, whole,
      List.length_append] at lengths
    obtain rfl : rest = [] := List.length_eq_zero_iff.mp (by omega)
    rw [List.append_nil] at same
    exact ⟨rfl, head, tail, whole, place, outputFound_of_outputAt_eq same whole place.not_output⟩
  · rintro ⟨rfl, head, tail, whole, place, found⟩
    refine ⟨_, rfl, head, tail, whole, place, ?_⟩
    rw [List.append_nil, whole, (outputPosition_eq_iff head tail).mpr found, outputAt,
      List.take_left, List.drop_left]

end

theorem bare_of_last {body : List Char} {c : Char} (last : body.getLast? = some c)
    (bare : c ≠ ';' ∧ isWhitespace c = false) :
    ∀ c, body.getLast? = some c → c ≠ ';' ∧ isWhitespace c = false := by
  intro d last'
  obtain rfl := Option.some_inj.mp (last.symm.trans last')
  exact bare

def idColumn : List String := ["id"]

/-- An insert into a table of notes. -/
def insertNote (note : String) : DmlStatement where
  verb := .insert
  body := "INSERT INTO notes (note) VALUES ('".toList ++ note.toList ++ "')".toList
  ending := ";".toList
  ends := fun _ member => .inl (List.mem_singleton.mp member)
  bare := bare_of_last (by rw [List.getLast?_append]; rfl) (by decide)

theorem accepted_id : ∀ column ∈ idColumn, AcceptedName column := by
  intro column member
  rw [List.mem_singleton.mp member]
  exact (validateIdentifier_eq_ok_iff "id").mp (by decide +kernel)

end OdbcFast.Verification
