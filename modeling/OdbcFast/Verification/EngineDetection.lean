import OdbcFast.Native.Engine.DriverCapabilities
import OdbcFast.Verification.PoolIdentity
import OdbcFast.Wire.Occurrences

/-!
# The engine of a connection string

The driver and the data source of a connection string are to tell its engine. The whole string is
searched for the words, so any other attribute can tell another one, unless the driver or the data
source has the words that are looked for first.
-/

namespace OdbcFast.Verification

open Wire OdbcFast.Native OdbcFast.Native.Engine OdbcFast.Native.Engine.DriverCapabilities

/-- The value of an attribute of this name. -/
def Attribute.valueOf (name : String) : Attribute → Option (List Char)
  | .token _ => none
  | .assigned key value =>
    if lowercase (Native.trim key.text) = name.toList then some value.content else none

/-- The first attribute of a name counts. -/
def attributeValue (name : String) (parts : List Attribute) : Option (List Char) :=
  parts.findSome? (Attribute.valueOf name)

/-- Two connection strings with the same driver and the same data source. -/
structure SameSource (parts parts' : List Attribute) : Prop where
  driver : attributeValue "driver" parts' = attributeValue "driver" parts
  dsn : attributeValue "dsn" parts' = attributeValue "dsn" parts

def engineOf (parts : List Attribute) : EngineId :=
  (detectFromConnectionString (connectionString parts)).engine

/-- No other attribute can change the engine. -/
def DetectedBySource (parts : List Attribute) : Prop :=
  ∀ parts', SameSource parts parts' → engineOf parts' = engineOf parts

/-- The driver, the data source, or both of them have such a word. -/
def SourceHas (word : String) (parts : List Attribute) : Prop :=
  ∃ name ∈ ["driver", "dsn"], ∃ value, attributeValue name parts = some value ∧
    contains word (lowercase value) = true

/-- The words that are looked for first. -/
def SourceNamesAnywhere (parts : List Attribute) : Prop :=
  SourceHas "sql anywhere" parts ∨ SourceHas "adaptive server anywhere" parts ∨
    SourceHas "asa" parts ∧ SourceHas "sybase" parts

/-! ## Words in texts -/

theorem escaped_cons (c : Char) (content : List Char) :
    escaped (c :: content) = (if c = '}' then ['}', '}'] else [c]) ++ escaped content :=
  List.flatMap_cons

theorem prefix_of_prefix_escaped {word content : List Char} (apart : '}' ∉ word)
    (begins : word <+: escaped content) : word <+: content := by
  induction content generalizing word with
  | nil => exact begins
  | cons c content ih =>
      rw [escaped_cons] at begins
      by_cases brace : c = '}'
      · rw [if_pos brace] at begins
        exact (@prefix_of_append_cons Char word [] _ '}' apart begins).trans List.nil_prefix
      · rw [if_neg brace] at begins
        cases word with
        | nil => exact List.nil_prefix
        | cons w word =>
            rw [List.singleton_append, List.cons_prefix_cons] at begins
            exact List.cons_prefix_cons.mpr
              ⟨begins.1, ih (fun there => apart (List.mem_cons_of_mem _ there)) begins.2⟩

/-- Braces that are doubled neither make a word nor break one. -/
theorem infix_escaped_iff {word content : List Char} (apart : '}' ∉ word) :
    word <:+: escaped content ↔ word <:+: content := by
  constructor
  · intro inside
    induction content with
    | nil => exact inside
    | cons c content ih =>
        rw [escaped_cons] at inside
        by_cases brace : c = '}'
        · rw [if_pos brace] at inside
          rcases @infix_of_append_cons Char word [] _ '}' apart inside with none | inside
          · exact none.trans List.nil_infix
          · rcases @infix_of_append_cons Char word [] _ '}' apart inside with none | inside
            · exact none.trans List.nil_infix
            · exact List.infix_cons (ih inside)
        · rw [if_neg brace, List.singleton_append, List.infix_cons_iff] at inside
          rcases inside with begins | behind
          · refine (@prefix_of_prefix_escaped word (c :: content) apart ?_).isInfix
            rw [escaped_cons, if_neg brace]
            exact begins
          · exact List.infix_cons (ih behind)
  · rintro ⟨front, back, rfl⟩
    rw [escaped_append, escaped_append, escaped_eq_self_iff.mpr apart]
    exact List.infix_append _ _ _

theorem lowercase_append (front back : List Char) :
    lowercase (front ++ back) = lowercase front ++ lowercase back := List.flatMap_append

theorem infix_lowercase {text whole : List Char} (inside : text <:+: whole) :
    lowercase text <:+: lowercase whole := by
  obtain ⟨front, back, rfl⟩ := inside
  rw [lowercase_append, lowercase_append]
  exact List.infix_append _ _ _

theorem lowerChar_brace {c : Char} (brace : '}' ∈ lowerChar c) : c = '}' := by
  rw [lowerChar] at brace
  split_ifs at brace with kelvin dotted
  · exact absurd brace (by decide)
  · exact absurd brace (by decide)
  · have same := List.mem_singleton.mp brace
    by_cases upper : c.val ≥ 'A'.val ∧ c.val ≤ 'Z'.val
    · have shifted : c.toLower.val = c.val + 32 :=
        congrArg Char.val (dif_pos upper)
      have code : 125 = (c.val.toNat + 32) % 4294967296 :=
        congrArg UInt32.toNat ((congrArg Char.val same).trans shifted)
      have last : c.val.toNat ≤ 90 := upper.2
      omega
    · exact (same.trans (dif_neg upper)).symm

theorem lowercase_escaped (content : List Char) :
    lowercase (escaped content) = escaped (lowercase content) := by
  induction content with
  | nil => rfl
  | cons c content ih =>
      rw [escaped_cons, lowercase_append, ih]
      change _ = escaped (lowerChar c ++ lowercase content)
      rw [escaped_append]
      by_cases brace : c = '}'
      · rw [if_pos brace, brace]
        rfl
      · rw [if_neg brace, escaped_eq_self_iff.mpr fun there => brace (lowerChar_brace there)]
        exact congrArg (· ++ _) (List.append_nil _)

/-! ## Words of attributes -/

theorem infix_trim (text : List Char) : Native.trim text <:+: text := by
  have behind : text.dropWhile Native.isWhitespace <:+: text :=
    (List.dropWhile_suffix _).isInfix
  refine List.IsInfix.trans ?_ behind
  rw [Native.trim, ← List.reverse_infix, List.reverse_reverse]
  exact (List.dropWhile_suffix _).isInfix

/-- A word of the value stands in the attribute as it is written. -/
theorem infix_text {word : List Char} (apart : '}' ∉ word) {value : AttributeValue}
    (inside : word <:+: lowercase value.content) : word <:+: lowercase value.text := by
  cases value with
  | plain text _ _ => exact inside.trans (infix_lowercase (infix_trim text))
  | braced content =>
      have written : word <:+: lowercase (escaped content) := by
        rw [lowercase_escaped, infix_escaped_iff apart]
        exact inside
      refine written.trans (infix_lowercase ?_)
      exact List.infix_cons (List.infix_append_left)

theorem infix_intercalate {separator text : List Char} {texts : List (List Char)}
    (member : text ∈ texts) : text <:+: separator.intercalate texts := by
  induction texts with
  | nil => cases member
  | cons first texts ih =>
      cases texts with
      | nil =>
          rw [List.intercalate_singleton, List.mem_singleton.mp member]
      | cons next texts =>
          rw [List.intercalate_cons_cons, List.append_assoc]
          rcases List.mem_cons.mp member with rfl | member
          · exact List.infix_append_left
          · exact ((ih member).trans List.infix_append_right).trans List.infix_append_right

theorem infix_connectionString {name : String} {parts : List Attribute} {value word : List Char}
    (apart : '}' ∉ word) (given : attributeValue name parts = some value)
    (inside : word <:+: lowercase value) : word <:+: lowercase (connectionString parts) := by
  obtain ⟨part, member, named⟩ := List.exists_of_findSome?_eq_some given
  cases part with
  | token key => cases named
  | assigned key assigned =>
      rw [Attribute.valueOf] at named
      split_ifs at named
      cases named
      refine (infix_text apart inside).trans (infix_lowercase ?_)
      have text : assigned.text <:+: (Attribute.assigned key assigned).text :=
        (List.infix_cons (List.infix_refl _)).trans List.infix_append_right
      exact text.trans (infix_intercalate (List.mem_map_of_mem member))

/-! ## The first words -/

theorem engine_detectFromConnectionString (connectionString : List Char) :
    (detectFromConnectionString connectionString).engine =
      engineFromName (lowercase connectionString) := by
  rw [detectFromConnectionString]
  generalize engineFromName (lowercase connectionString) = engine
  cases engine with
  | _ => decide

theorem ite_ne {engine one other : EngineId} {p : Prop} [Decidable p] (differs : one ≠ engine)
    (others : other ≠ engine) : (if p then one else other) ≠ engine := by
  by_cases holds : p
  · rwa [if_pos holds]
  · rwa [if_neg holds]

theorem engineFromName_eq_sybaseAsa_iff (lower : List Char) :
    engineFromName lower = .sybaseAsa ↔
      contains "sql anywhere" lower ∨ contains "adaptive server anywhere" lower ∨
        contains "asa" lower ∧ contains "sybase" lower := by
  have first : (contains "sql anywhere" lower ∨ contains "adaptive server anywhere" lower ∨
      contains "asa" lower ∧ (contains "sybase" lower ∨ contains "sql anywhere" lower)) ↔
      (contains "sql anywhere" lower ∨ contains "adaptive server anywhere" lower ∨
        contains "asa" lower ∧ contains "sybase" lower) := by
    tauto
  rw [← first]
  constructor
  · intro same
    by_contra others
    refine absurd same ?_
    rw [engineFromName, if_neg others]
    repeat' apply ite_ne
    all_goals decide
  · intro anywhere
    rw [engineFromName, if_pos anywhere]

/-- What the driver and the data source say first is said of the whole string. -/
theorem sybaseAsa_of_sourceNamesAnywhere {parts : List Attribute}
    (anywhere : SourceNamesAnywhere parts) : engineOf parts = .sybaseAsa := by
  have whole : ∀ word : String, '}' ∉ word.toList → SourceHas word parts →
      contains word (lowercase (connectionString parts)) = true := by
    rintro word apart ⟨name, -, value, given, has⟩
    exact decide_eq_true (infix_connectionString apart given (of_decide_eq_true has))
  rw [engineOf, engine_detectFromConnectionString, engineFromName_eq_sybaseAsa_iff]
  rcases anywhere with one | other | ⟨short, long⟩
  · exact .inl (whole _ (by decide) one)
  · exact .inr (.inl (whole _ (by decide) other))
  · exact .inr (.inr ⟨whole _ (by decide) short, whole _ (by decide) long⟩)

theorem SourceHas.same {word : String} {parts parts' : List Attribute}
    (same : SameSource parts parts') (has : SourceHas word parts) : SourceHas word parts' := by
  obtain ⟨name, known, value, given, has⟩ := has
  refine ⟨name, known, value, ?_, has⟩
  rw [List.mem_pair] at known
  rcases known with rfl | rfl
  · rw [same.driver, given]
  · rw [same.dsn, given]

theorem SourceNamesAnywhere.same {parts parts' : List Attribute} (same : SameSource parts parts')
    (anywhere : SourceNamesAnywhere parts) : SourceNamesAnywhere parts' :=
  anywhere.imp (.same same) (.imp (.same same) (.imp (.same same) (.same same)))

/-! ## The driver and the data source alone -/

def driverKey : AttributeKey := ⟨"DRIVER".toList, List.all_eq_true.mp (by decide)⟩

def dsnKey : AttributeKey := ⟨"DSN".toList, List.all_eq_true.mp (by decide)⟩

/-- The connection string without any other attribute. -/
def sourceParts (parts : List Attribute) : List Attribute :=
  ((attributeValue "driver" parts).map fun value => .assigned driverKey (.braced value)).toList ++
    ((attributeValue "dsn" parts).map fun value => .assigned dsnKey (.braced value)).toList

/-- The same with another server. -/
def anywhereParts (parts : List Attribute) : List Attribute :=
  sourceParts parts ++ [.assigned server (.braced "sql anywhere".toList)]

theorem sameSource_sourceParts (parts : List Attribute) {more : List Attribute}
    (noDriver : attributeValue "driver" more = none) (noDsn : attributeValue "dsn" more = none) :
    SameSource parts (sourceParts parts ++ more) := by
  have driver : ∀ value, Attribute.valueOf "driver" (.assigned driverKey (.braced value)) =
      some value := by
    intro value
    rw [Attribute.valueOf, if_pos (by decide)]
    rfl
  have notDsn : ∀ value, Attribute.valueOf "dsn" (.assigned driverKey (.braced value)) = none := by
    intro value
    rw [Attribute.valueOf, if_neg (by decide)]
  have dsn : ∀ value, Attribute.valueOf "dsn" (.assigned dsnKey (.braced value)) =
      some value := by
    intro value
    rw [Attribute.valueOf, if_pos (by decide)]
    rfl
  have notDriver : ∀ value,
      Attribute.valueOf "driver" (.assigned dsnKey (.braced value)) = none := by
    intro value
    rw [Attribute.valueOf, if_neg (by decide)]
  rw [attributeValue] at noDriver noDsn
  refine ⟨?_, ?_⟩
  · rw [sourceParts]
    generalize attributeValue "driver" parts = first
    generalize attributeValue "dsn" parts = second
    cases first <;> cases second <;>
      simp [attributeValue, driver, notDriver, noDriver]
  · rw [sourceParts]
    generalize attributeValue "driver" parts = first
    generalize attributeValue "dsn" parts = second
    cases first <;> cases second <;>
      simp [attributeValue, dsn, notDsn, noDsn]

/-- A word that cannot come from how the attributes are written. -/
structure Speaks (word : List Char) : Prop where
  noSemicolon : ';' ∉ word
  noEquals : '=' ∉ word
  noOpening : '{' ∉ word
  noClosing : '}' ∉ word
  notDriver : ¬ word <:+: lowercase driverKey.text
  notDsn : ¬ word <:+: lowercase dsnKey.text

theorem Speaks.not_nil {word : List Char} (speaks : Speaks word) : ¬ word <:+: [] := by
  intro inside
  exact speaks.notDsn (inside.trans List.nil_infix)

theorem infix_assigned {word : List Char} (speaks : Speaks word) {key : AttributeKey}
    (notKey : ¬ word <:+: lowercase key.text) {value : List Char}
    (inside : word <:+: lowercase (Attribute.assigned key (.braced value)).text) :
    word <:+: lowercase value := by
  change word <:+: lowercase (key.text ++ '=' :: '{' :: (escaped value ++ ['}'])) at inside
  rw [lowercase_append] at inside
  replace inside := (infix_of_append_cons speaks.noEquals inside).resolve_left notKey
  replace inside := (@infix_of_append_cons Char word [] _ '{' speaks.noOpening inside).resolve_left
    speaks.not_nil
  change word <:+: lowercase (escaped value ++ ['}']) at inside
  rw [lowercase_append] at inside
  replace inside := (infix_of_append_cons speaks.noClosing inside).resolve_right speaks.not_nil
  rwa [lowercase_escaped, infix_escaped_iff speaks.noClosing] at inside

theorem infix_part {word : List Char} (noSemicolon : ';' ∉ word) (notNil : ¬ word <:+: [])
    {parts : List Attribute} (inside : word <:+: lowercase (connectionString parts)) :
    ∃ part ∈ parts, word <:+: lowercase part.text := by
  induction parts with
  | nil => exact absurd inside notNil
  | cons first parts ih =>
      cases parts with
      | nil =>
          refine ⟨first, List.mem_singleton_self first, ?_⟩
          rwa [connectionString, List.map_singleton, List.intercalate_singleton] at inside
      | cons second parts =>
          rw [connectionString, List.map_cons, List.map_cons, List.intercalate_cons_cons,
            List.append_assoc, lowercase_append] at inside
          rcases infix_of_append_cons noSemicolon inside with here | behind
          · exact ⟨first, List.mem_cons_self, here⟩
          · obtain ⟨part, member, inside⟩ := ih behind
            exact ⟨part, List.mem_cons_of_mem _ member, inside⟩

/-- Without other attributes, a word of the string is one of the driver or the data source. -/
theorem sourceHas_of_contains {word : String} (speaks : Speaks word.toList)
    {parts : List Attribute}
    (has : contains word (lowercase (connectionString (sourceParts parts))) = true) :
    SourceHas word parts := by
  obtain ⟨part, member, inside⟩ :=
    infix_part speaks.noSemicolon speaks.not_nil (of_decide_eq_true has)
  rcases List.mem_append.mp member with driver | dsn
  · obtain ⟨value, given, rfl⟩ := Option.map_eq_some_iff.mp (Option.mem_toList.mp driver)
    exact ⟨"driver", List.mem_cons_self, value, given,
      decide_eq_true (infix_assigned speaks speaks.notDriver inside)⟩
  · obtain ⟨value, given, rfl⟩ := Option.map_eq_some_iff.mp (Option.mem_toList.mp dsn)
    exact ⟨"dsn", List.mem_cons_of_mem _ List.mem_cons_self, value, given,
      decide_eq_true (infix_assigned speaks speaks.notDsn inside)⟩

theorem speaks_anywhere : Speaks "sql anywhere".toList := by
  constructor <;> decide

theorem speaks_adaptive : Speaks "adaptive server anywhere".toList := by
  constructor <;> decide

theorem speaks_asa : Speaks "asa".toList := by
  constructor <;> decide

theorem speaks_sybase : Speaks "sybase".toList := by
  constructor <;> decide

theorem sourceNamesAnywhere_of_sybaseAsa {parts : List Attribute}
    (same : engineOf (sourceParts parts) = .sybaseAsa) : SourceNamesAnywhere parts := by
  rw [engineOf, engine_detectFromConnectionString, engineFromName_eq_sybaseAsa_iff] at same
  rcases same with one | other | ⟨short, long⟩
  · exact .inl (sourceHas_of_contains speaks_anywhere one)
  · exact .inr (.inl (sourceHas_of_contains speaks_adaptive other))
  · exact .inr (.inr ⟨sourceHas_of_contains speaks_asa short,
      sourceHas_of_contains speaks_sybase long⟩)

theorem engineOf_anywhereParts (parts : List Attribute) :
    engineOf (anywhereParts parts) = .sybaseAsa := by
  rw [engineOf, engine_detectFromConnectionString, engineFromName_eq_sybaseAsa_iff]
  refine .inl (decide_eq_true ?_)
  have named : "sql anywhere".toList <:+:
      lowercase (Attribute.assigned server (.braced "sql anywhere".toList)).text := by
    decide
  refine named.trans (infix_lowercase (infix_intercalate (List.mem_map_of_mem ?_)))
  exact List.mem_append_right _ (List.mem_singleton_self _)

/-- The driver and the data source decide exactly when they have the words that are looked for
first. -/
theorem detected_by_source_iff (parts : List Attribute) :
    DetectedBySource parts ↔ SourceNamesAnywhere parts := by
  constructor
  · intro bySource
    have alone : SameSource parts (sourceParts parts) := by
      have same := @sameSource_sourceParts parts [] rfl rfl
      rwa [List.append_nil] at same
    have withServer : SameSource parts (anywhereParts parts) :=
      sameSource_sourceParts parts (by decide) (by decide)
    apply sourceNamesAnywhere_of_sybaseAsa
    rw [bySource _ alone, ← bySource _ withServer, engineOf_anywhereParts]
  · intro anywhere parts' same
    rw [sybaseAsa_of_sourceNamesAnywhere anywhere,
      sybaseAsa_of_sourceNamesAnywhere (anywhere.same same)]

def mySqlDriver : Attribute :=
  .assigned driverKey (.braced "MySQL ODBC 8.0 Driver".toList)

/-- A server can be called after another engine. -/
theorem server_changes_the_engine :
    ¬ DetectedBySource
      [mySqlDriver, .assigned server (.plain "localhost".toList
        (List.all_eq_true.mp (by decide)) (by decide))] := by
  intro bySource
  have changed := bySource [mySqlDriver, .assigned server (.plain "postgres.local".toList
    (List.all_eq_true.mp (by decide)) (by decide))]
    ⟨by decide, by decide⟩
  exact absurd changed (by decide)

end OdbcFast.Verification
