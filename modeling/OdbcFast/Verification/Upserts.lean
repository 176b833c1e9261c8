import OdbcFast.Verification.UpsertTemplates

/-!
# What upserts are made of

The statement of a plugin is read as the template of the plugin says. So the names decide neither
what it is made of nor where its placeholders are.
-/

namespace OdbcFast.Verification

open Wire OdbcFast.Native

/-! ## Placeholders -/

def question : Sql.Token := .symbol '?'

/-- Items with commas between them. -/
def commaList (item : List Char → List Sql.Token) (names : List (List Char)) : List Sql.Token :=
  [.symbol ','].intercalate (names.map item)

/-- There is one placeholder for each column, and they come in the order of the columns. -/
inductive PlaceholdersInOrder (columns : List (List Char)) : List Sql.Token → Prop where
  /-- The columns are listed, and behind them the values. -/
  | listed {front back : List Sql.Token} (before : question ∉ front) (behind : question ∉ back)
      (closed : back.head? = some (.symbol ')')) :
      PlaceholdersInOrder columns (front ++ (.symbol '(' ::
        (commaList (fun name => [.identifier name]) columns ++ (.symbol ')' ::
          .word "VALUES".toList :: .symbol '(' ::
            (commaList (fun _ => [question]) columns ++ back)))))
  /-- Each value is selected under the name of its column. -/
  | selected {front named back : List Sql.Token} (before : question ∉ front)
      (between : question ∉ named) (behind : question ∉ back) :
      PlaceholdersInOrder columns (front ++ (.word "SELECT".toList ::
        (commaList (fun name => question :: (named ++ [.identifier name])) columns ++ back)))
  /-- The values are a row, whose columns are named behind it. -/
  | derived {front back : List Sql.Token} (before : question ∉ front) (behind : question ∉ back)
      (closed : back.head? = some (.symbol ')')) :
      PlaceholdersInOrder columns (front ++ (.word "VALUES".toList :: .symbol '(' ::
        (commaList (fun _ => [question]) columns ++ (.symbol ')' :: .symbol ')' ::
          .word "AS".toList :: .word "s".toList :: .symbol '(' ::
            (commaList (fun name => [.identifier name]) columns ++ back)))))

section

variable {names : NameList → List (List Char)}

theorem question_not_mem {template : Sql.Template NameList}
    (plain : ∀ text ∈ template.fixed, question ∉ Sql.plainTokens text.toList) :
    question ∉ template.tokens names := by
  intro member
  rcases Sql.Template.mem_tokens member with ⟨text, fixed, there⟩ | ⟨_, -, _, -, ⟨⟩⟩
  exact plain text fixed there

/-- The tokens of a list with commas. -/
theorem tokens_commaList (style : IdentifierQuoting) (front : String) (backs : List String)
    (list : NameList) (back : String) :
    (quotedList style front backs ", " list back).tokens names =
      commaList (quotedList style front backs ", " list back).itemTokens (names list) := by
  have comma : Sql.plainTokens (", " : String).toList = [.symbol ','] := by decide
  rw [Sql.Clause.tokens, commaList]
  change (Sql.plainTokens (", " : String).toList).intercalate _ = _
  rw [comma]
  rfl

theorem tokens_columnList (style : IdentifierQuoting) (back : String) :
    (columnList style back).tokens names =
      commaList (fun name => [.identifier name]) (names .columns) := tokens_commaList ..

theorem tokens_markList (back : String) :
    (markList back).tokens names = commaList (fun _ => [question]) (names .columns) := by
  have mark : Sql.plainTokens "?".toList = [question] := by decide
  rw [markList, tokens_commaList]
  exact congrArg (commaList · _) (funext fun _ => mark)

theorem tokens_insertInto (behind : List (Sql.Clause NameList)) (back : String) :
    (insertInto behind back).tokens names =
      (⟨"INSERT INTO ", [tableList .doubleQuote ""]⟩ : Sql.Template NameList).tokens names ++
        (.symbol '(' :: (commaList (fun name => [.identifier name]) (names .columns) ++
          (.symbol ')' :: .word "VALUES".toList :: .symbol '(' ::
            (commaList (fun _ => [question]) (names .columns) ++
              (⟨back, behind⟩ : Sql.Template NameList).tokens names)))) := by
  have opens : Sql.plainTokens " (".toList = [.symbol '('] := by decide
  have values : Sql.plainTokens ") VALUES (".toList =
      [.symbol ')', .word "VALUES".toList, .symbol '('] := by decide
  have ends : Sql.plainTokens "".toList = [] := rfl
  have same : (tableList .doubleQuote " (").tokens names =
    (tableList .doubleQuote "").tokens names := rfl
  simp only [insertInto, Sql.Template.tokens, Sql.fillTokens, tokens_columnList,
    tokens_markList, same]
  simp only [tableList, columnList, markList, back_quotedList, opens, values, ends,
    List.append_nil, List.append_assoc, List.cons_append, List.nil_append]

theorem head_tokens {front : String} {clauses : List (Sql.Clause NameList)} {token : Sql.Token}
    (first : (Sql.plainTokens front.toList).head? = some token) :
    ((⟨front, clauses⟩ : Sql.Template NameList).tokens names).head? = some token := by
  cases clauses with
  | nil => exact first
  | cons clause clauses =>
      rw [Sql.Template.tokens, Sql.fillTokens, List.head?_append, first]
      rfl

theorem inOrder_insertInto {behind : List (Sql.Clause NameList)} {back : String}
    (closed : (Sql.plainTokens back.toList).head? = some (.symbol ')'))
    (plain : ∀ text ∈ (⟨back, behind⟩ : Sql.Template NameList).fixed,
      question ∉ Sql.plainTokens text.toList) :
    PlaceholdersInOrder (names .columns) ((insertInto behind back).tokens names) := by
  rw [tokens_insertInto]
  exact .listed (question_not_mem (by decide)) (question_not_mem plain)
    (head_tokens closed)

/-- The table of a `MERGE`, and what stands in front of it and behind it. -/
theorem question_not_mem_mergeInto (style : IdentifierQuoting) {more : List Sql.Token}
    (plain : question ∉ more) : question ∉ Sql.plainTokens "MERGE INTO ".toList ++
      ((tableList style "").tokens names ++ more) := by
  rw [List.mem_append, List.mem_append, not_or, not_or]
  refine ⟨by decide, fun member => ?_, plain⟩
  rcases Sql.Clause.mem_tokens member with ⟨text, fixed, there⟩ | ⟨_, -, ⟨⟩⟩
  revert there
  cases style with
  | _ => revert text; decide

/-- A `MERGE` that selects its values. -/
theorem inOrder_selected (style : IdentifierQuoting) (more named : List Sql.Token)
    {item using' between : String} {rest : List (Sql.Clause NameList)}
    (selects : Sql.plainTokens using'.toList = more ++ [.word "SELECT".toList])
    (marks : Sql.plainTokens item.toList = question :: named) (before : question ∉ more)
    (aliased : question ∉ named)
    (plain : ∀ text ∈ (⟨between, rest⟩ : Sql.Template NameList).fixed,
      question ∉ Sql.plainTokens text.toList) :
    PlaceholdersInOrder (names .columns)
      ((⟨"MERGE INTO ", tableList style using' ::
        quotedList style item [""] ", " .columns between :: rest⟩ :
          Sql.Template NameList).tokens names) := by
  have items : (quotedList style item [""] ", " .columns between).tokens names =
      commaList (fun name => question :: (named ++ [.identifier name])) (names .columns) := by
    rw [tokens_commaList]
    refine congrArg (commaList · _) (funext fun name => ?_)
    change Sql.plainTokens item.toList ++ ([.identifier name] ++ []) = _
    rw [marks]
    rfl
  have same : (⟨"MERGE INTO ", tableList style using' ::
      quotedList style item [""] ", " .columns between :: rest⟩ :
        Sql.Template NameList).tokens names =
      (Sql.plainTokens "MERGE INTO ".toList ++ ((tableList style "").tokens names ++ more)) ++
        (.word "SELECT".toList ::
          (commaList (fun name => question :: (named ++ [.identifier name])) (names .columns) ++
            (⟨between, rest⟩ : Sql.Template NameList).tokens names)) := by
    rw [Sql.Template.tokens, Sql.fillTokens, Sql.fillTokens, items]
    change _ ++ (_ ++ (Sql.plainTokens using'.toList ++ (_ ++ _))) = _
    rw [selects]
    simp only [List.append_assoc, List.cons_append, List.nil_append]
    rfl
  rw [same]
  exact .selected (question_not_mem_mergeInto style before) aliased (question_not_mem plain)

/-- A `MERGE` whose values are a row. -/
theorem inOrder_derived (style : IdentifierQuoting) (more : List Sql.Token)
    {using' between : String} {rest : List (Sql.Clause NameList)}
    (values : Sql.plainTokens using'.toList = more ++ [.word "VALUES".toList, .symbol '('])
    (before : question ∉ more)
    (closed : (Sql.plainTokens between.toList).head? = some (.symbol ')'))
    (plain : ∀ text ∈ (⟨between, rest⟩ : Sql.Template NameList).fixed,
      question ∉ Sql.plainTokens text.toList) :
    PlaceholdersInOrder (names .columns)
      ((⟨"MERGE INTO ", tableList style using' :: markList ")) AS s(" ::
        columnList style between :: rest⟩ : Sql.Template NameList).tokens names) := by
  have alias' : Sql.plainTokens ")) AS s(".toList = [.symbol ')', .symbol ')',
    .word "AS".toList, .word "s".toList, .symbol '('] := by decide
  have same : (⟨"MERGE INTO ", tableList style using' :: markList ")) AS s(" ::
        columnList style between :: rest⟩ : Sql.Template NameList).tokens names =
      (Sql.plainTokens "MERGE INTO ".toList ++ ((tableList style "").tokens names ++ more)) ++
        (.word "VALUES".toList :: .symbol '(' ::
          (commaList (fun _ => [question]) (names .columns) ++ (.symbol ')' :: .symbol ')' ::
            .word "AS".toList :: .word "s".toList :: .symbol '(' ::
              (commaList (fun name => [.identifier name]) (names .columns) ++
                (⟨between, rest⟩ : Sql.Template NameList).tokens names)))) := by
    rw [Sql.Template.tokens, Sql.fillTokens, Sql.fillTokens, Sql.fillTokens, tokens_markList,
      tokens_columnList]
    change _ ++ (_ ++ (Sql.plainTokens using'.toList ++
      (_ ++ (Sql.plainTokens ")) AS s(".toList ++ (_ ++ _))))) = _
    rw [values, alias']
    simp only [List.append_assoc, List.cons_append, List.nil_append]
    rfl
  rw [same]
  exact .derived (question_not_mem_mergeInto style before) (question_not_mem plain)
    (head_tokens closed)

theorem inOrder_upsertTemplate (plugin : Plugin) (updates : Bool) :
    PlaceholdersInOrder (names .columns) ((upsertTemplate plugin updates).tokens names) := by
  cases plugin with
  | postgres | sqlite =>
      refine inOrder_insertInto (by decide) ?_
      cases updates with
      | _ => decide
  | mySql | mariaDb =>
      cases updates with
      | _ => exact inOrder_insertInto (by decide) (by decide)
  | oracle =>
      refine inOrder_selected .doubleQuote [.word "t".toList, .word "USING".toList, .symbol '('] []
        (by decide) (by decide) (by decide) (by decide) ?_
      cases updates with
      | _ => decide
  | snowflake =>
      refine inOrder_selected .doubleQuote [.word "t".toList, .word "USING".toList, .symbol '(']
        [.word "AS".toList] (by decide) (by decide) (by decide)
        (by decide) ?_
      cases updates with
      | _ => decide
  | db2 =>
      refine inOrder_derived .doubleQuote [.word "t".toList, .word "USING".toList, .symbol '(']
        (by decide) (by decide) (by decide) ?_
      cases updates with
      | _ => decide
  | sqlServer | sybase =>
      refine inOrder_selected .brackets [.word "AS".toList, .word "t".toList,
        .word "USING".toList, .symbol '('] [.word "AS".toList] (by decide)
        (by decide) (by decide) (by decide) ?_
      cases updates with
      | _ => decide

end

/-! ## What an upsert is made of -/

section

variable {table : String} {columns conflictColumns : List String}
  {updateColumns : Option (List String)}

/-- So many names in each list, all of them empty. -/
def blankNames (parts columns conflicts updates : Nat) : NameList → List (List Char)
  | .table => List.replicate parts []
  | .columns => List.replicate columns []
  | .conflicts => List.replicate conflicts []
  | .updates => List.replicate updates []

theorem length_nameTexts (list : NameList) :
    (nameTexts table columns conflictColumns updateColumns list).length =
      (blankNames (dotParts table).length columns.length conflictColumns.length
        (Upsert.effectiveUpdateColumns columns conflictColumns updateColumns).length
          list).length := by
  rw [nameTexts, List.length_map]
  cases list with
  | _ => exact (List.length_replicate ..).symm

theorem no_names_in_plain (plugin : Plugin) (updates : Bool) :
    ∀ text ∈ (upsertTemplate plugin updates).fixed, ∀ token ∈ Sql.plainTokens text.toList,
      token.withoutName ≠ .identifier [] := by
  cases plugin with
  | _ => cases updates with
    | _ => decide

/-- No call of a plugin changes what its statement is made of. Every name stands between quotes
and is an accepted one of the caller's, and the placeholders are those of the columns. -/
theorem upserts_are_made_of (plugin : Plugin) :
    ∃ made : Nat → Nat → Nat → Nat → List Sql.Token,
      ∀ table columns conflictColumns updateColumns sql,
        plugin.buildUpsertSql table columns conflictColumns updateColumns = .ok sql →
        ∃ tokens, Sql.tokens anyQuotes sql.toList = some tokens ∧
          tokens.map Sql.Token.withoutName = made (dotParts table).length columns.length
            conflictColumns.length
            (Upsert.effectiveUpdateColumns columns conflictColumns updateColumns).length ∧
          (∀ name, .identifier name ∈ tokens → ∃ list,
            ∃ given ∈ givenNames table columns conflictColumns updateColumns list,
              name = given.toList ∧ AcceptedName given) ∧
          PlaceholdersInOrder (columns.map String.toList) tokens := by
  refine ⟨fun parts columns conflicts updates => ((upsertTemplate plugin (updates ≠ 0)).tokens
    (blankNames parts columns conflicts updates)).map Sql.Token.withoutName, ?_⟩
  intro table columns conflictColumns updateColumns sql built
  obtain ⟨accepted, -⟩ := buildUpsertSql_written built
  refine ⟨_, tokens_anyQuotes built, ?_, fun name member => ?_,
    @inOrder_upsertTemplate (nameTexts table columns conflictColumns updateColumns) plugin _⟩
  · rw [Sql.Template.withoutNames length_nameTexts]
    simp only [List.isEmpty_iff, ← List.length_eq_zero_iff, ne_eq]
  · rcases Sql.Template.mem_tokens member with ⟨text, fixed, there⟩ | ⟨clause, -, name, given, ⟨⟩⟩
    · exact absurd rfl (no_names_in_plain plugin _ text fixed _ there)
    · obtain ⟨text, there, rfl⟩ := List.mem_map.mp given
      exact ⟨clause.names, text, there, rfl, accepted.given _ text there⟩

end

end OdbcFast.Verification
