import Mathlib.Data.List.Infix
import OdbcFast.Native.Engine.ExecutionEngine

/-!
# Queries as they are executed

The engine lets the active plugin rewrite a query before it is executed. Most plugins put a
clause into it that keeps the first thousand rows, unless the text says otherwise. They look for
words in the text as it stands.
-/

namespace OdbcFast.Native

/-! ## Texts -/

/-- `str::contains`. -/
def contains (pattern : String) (text : List Char) : Bool := decide (pattern.toList <:+: text)

/-- What stands in front of the last such character, and what stands behind it. -/
def rsplit (c : Char) : List Char → Option (List Char × List Char)
  | [] => none
  | first :: text =>
    match rsplit c text with
    | some (before, after) => some (first :: before, after)
    | none => if first = c then some ([], text) else none

/-- What stands in front of the first such text, and what stands behind it. -/
def splitFirst (pattern : List Char) : List Char → Option (List Char × List Char)
  | [] => if pattern = [] then some ([], []) else none
  | first :: text =>
    if pattern <+: first :: text then some ([], (first :: text).drop pattern.length)
    else (splitFirst pattern text).map fun found => (first :: found.1, found.2)

/-- The upper case of a character, where it has an ASCII letter in it. The upper case of any
other character has none, and such a character is left as it is. -/
def toUppercaseChar (c : Char) : List Char :=
  match c.toNat with
  | 0xdf => ['S', 'S']
  | 0x131 => ['I']
  | 0x149 => ['\u02bc', 'N']
  | 0x17f => ['S']
  | 0x1f0 => ['J', '\u030c']
  | 0x1e96 => ['H', '\u0331']
  | 0x1e97 => ['T', '\u0308']
  | 0x1e98 => ['W', '\u030a']
  | 0x1e99 => ['Y', '\u030a']
  | 0x1e9a => ['A', '\u02be']
  | 0xfb00 => ['F', 'F']
  | 0xfb01 => ['F', 'I']
  | 0xfb02 => ['F', 'L']
  | 0xfb03 => ['F', 'F', 'I']
  | 0xfb04 => ['F', 'F', 'L']
  | 0xfb05 => ['S', 'T']
  | 0xfb06 => ['S', 'T']
  | _ => [c.toUpper]

/-- `str::to_uppercase`, as far as a search for ASCII words can tell. -/
def toUppercase (text : List Char) : List Char := text.flatMap toUppercaseChar

/-! ## Plugins -/

/-- How a plugin limits the rows of a query: what it adds, which texts it takes for limited ones,
and which it leaves alone where it would have to add behind their end. -/
structure RowLimit where
  clause : String
  limited : List Char → Bool
  conditional : List Char → Bool

def RowLimit.optimizeQuery (rule : RowLimit) (sql : List Char) : List Char :=
  if contains "SELECT" sql && !rule.limited sql then
    match rsplit ';' sql with
    | some (before, after) => before ++ rule.clause.toList ++ ';' :: after
    | none => if rule.conditional sql then sql else sql ++ rule.clause.toList
  else sql

namespace Plugin

def postgresLimit : RowLimit where
  clause := " LIMIT 1000"
  limited := contains "LIMIT"
  conditional sql := contains "WHERE" sql || contains "ORDER BY" sql

def mySqlLimit : RowLimit := postgresLimit

def oracleLimit : RowLimit where
  clause := " FETCH FIRST 1000 ROWS ONLY"
  limited sql := contains "ROWNUM" sql || contains "FETCH" sql
  conditional sql := contains "WHERE" sql || contains "ORDER BY" sql

def mariaDbLimit : RowLimit where
  clause := " LIMIT 1000"
  limited sql := contains " LIMIT" (toUppercase sql)
  conditional sql := contains " WHERE" (toUppercase sql) || contains " ORDER BY" (toUppercase sql)

def snowflakeLimit : RowLimit := mariaDbLimit

def db2Limit : RowLimit where
  clause := " FETCH FIRST 1000 ROWS ONLY"
  limited sql := contains "FETCH FIRST" (toUppercase sql)
  conditional sql := contains " WHERE" (toUppercase sql) || contains " ORDER BY" (toUppercase sql)

/-- The clause of SQL Server stands behind the word. -/
def sqlServerOptimizeQuery (sql : List Char) : List Char :=
  if contains "SELECT *" sql && !contains "TOP" sql then
    match splitFirst "SELECT *".toList sql with
    | some (before, after) => before ++ "SELECT TOP 1000 *".toList ++ after
    | none => sql
  else sql

def optimizeQuery : Plugin → List Char → List Char
  | .sqlServer, sql => sqlServerOptimizeQuery sql
  | .oracle, sql => oracleLimit.optimizeQuery sql
  | .postgres, sql => postgresLimit.optimizeQuery sql
  | .mySql, sql => mySqlLimit.optimizeQuery sql
  | .mariaDb, sql => mariaDbLimit.optimizeQuery sql
  | .sybase, sql => sql
  | .sqlite, sql => sql
  | .db2, sql => db2Limit.optimizeQuery sql
  | .snowflake, sql => snowflakeLimit.optimizeQuery sql

end Plugin

/-- The text that `execute_query` and `execute_query_cached` execute. -/
def ExecutionEngine.optimizedSql (engine : ExecutionEngine) (sql : List Char) : List Char :=
  match engine.activePlugin with
  | some plugin => plugin.optimizeQuery sql
  | none => sql

/-! ## Splitting a text -/

theorem rsplit_eq_none_iff {c : Char} {text : List Char} : rsplit c text = none ↔ c ∉ text := by
  induction text with
  | nil => exact iff_of_true rfl (by simp)
  | cons first text ih =>
      rw [List.mem_cons, not_or, ← ih, rsplit]
      rcases rsplit c text with _ | ⟨before, after⟩
      · by_cases here : first = c
        · simp [here]
        · simp [here, Ne.symm here]
      · simp

theorem rsplit_eq_some {c : Char} {text before after : List Char}
    (split : rsplit c text = some (before, after)) : text = before ++ c :: after ∧ c ∉ after := by
  induction text generalizing before with
  | nil => cases split
  | cons first text ih =>
      rw [rsplit] at split
      rcases behind : rsplit c text with _ | ⟨before', after'⟩
      · rw [behind] at split
        dsimp only at split
        by_cases here : first = c
        · rw [if_pos here] at split
          cases split
          exact ⟨by rw [here]; rfl, rsplit_eq_none_iff.mp behind⟩
        · rw [if_neg here] at split
          cases split
      · rw [behind] at split
        cases split
        obtain ⟨whole, none⟩ := ih behind
        exact ⟨by rw [whole]; rfl, none⟩

theorem splitFirst_eq_none_iff {pattern text : List Char} :
    splitFirst pattern text = none ↔ ¬ pattern <:+: text := by
  induction text with
  | nil =>
      rw [splitFirst, List.infix_nil]
      by_cases empty : pattern = [] <;> simp [empty]
  | cons first text ih =>
      rw [splitFirst, List.infix_cons_iff, not_or, ← ih]
      by_cases here : pattern <+: first :: text
      · simp [here]
      · simp [here]

theorem splitFirst_eq_some {pattern text before after : List Char}
    (split : splitFirst pattern text = some (before, after)) :
    text = before ++ pattern ++ after := by
  induction text generalizing before with
  | nil =>
      rw [splitFirst] at split
      split_ifs at split with empty
      cases split
      rw [empty]
      rfl
  | cons first text ih =>
      rw [splitFirst] at split
      split_ifs at split with here
      · cases split
        obtain ⟨behind, whole⟩ := here
        rw [← whole, List.nil_append, List.drop_left]
      · obtain ⟨⟨before', after'⟩, found, same⟩ := Option.map_eq_some_iff.mp split
        cases same
        rw [ih found]
        rfl

theorem splitFirst_append (pattern back : List Char) :
    splitFirst pattern (pattern ++ back) = some ([], back) := by
  rcases whole : pattern ++ back with _ | ⟨first, text⟩
  · obtain ⟨rfl, rfl⟩ := List.append_eq_nil_iff.mp whole
    rfl
  · rw [splitFirst, ← whole, if_pos (List.prefix_append pattern back), List.drop_left]

end OdbcFast.Native
