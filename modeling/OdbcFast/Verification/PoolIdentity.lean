import OdbcFast.Verification.PoolStrings

/-!
# The attributes that name a pool

The server, the port and the user of a pool are read from what stands between any two semicolons,
those inside a value in braces included.
-/

namespace OdbcFast.Verification

open OdbcFast.Native OdbcFast.Native.Sanitize Wire

/-- What an attribute contributes to the identity of a pool. -/
def Attribute.component : Attribute → Option (PoolKey × List Char)
  | .token _ => none
  | .assigned key value =>
    (poolKey key.text).bind fun k =>
      if trimBraces (trim value.text) ≠ [] then some (k, trimBraces (trim value.text)) else none

/-- Nothing but the attributes contributes to the identity of a pool. -/
structure NamedByAttributes (parts : List Attribute) : Prop where
  components : ((connectionString parts).splitOn ';').filterMap poolComponent =
    parts.filterMap Attribute.component
  poolId : (⟨connectionString parts⟩ : ConnectionPool).getPoolId =
    ((parts.filterMap Attribute.component).foldl PoolComponents.set {}).text (connectionString parts)

/-- A text that assigns something to a server, a port or a user. -/
def NamesPool (text : List Char) : Prop :=
  ∃ key value, text = key ++ '=' :: value ∧ '=' ∉ key ∧ (poolKey key).isSome = true ∧
    trimBraces (trim value) ≠ []

/-- The semicolons inside an attribute neither cut a name off nor make one. -/
def Attribute.Whole (part : Attribute) : Prop :=
  (NamesPool part.text → ';' ∉ part.text) ∧ ∀ piece ∈ (part.text.splitOn ';').tail, ¬ NamesPool piece

/-! ## One piece -/

theorem poolComponent_append {key : List Char} (noEquals : '=' ∉ key) (value : List Char) :
    poolComponent (key ++ '=' :: value) =
      (poolKey key).bind fun k =>
        if trimBraces (trim value) ≠ [] then some (k, trimBraces (trim value)) else none := by
  have same := splitOnceEquals_trim (key ++ '=' :: value)
  rw [splitOnceEquals_append noEquals, Option.map_some, Option.map_eq_some_iff] at same
  obtain ⟨⟨key', value'⟩, read, both⟩ := same
  rw [Prod.map_apply, Prod.map_apply, Prod.mk.injEq] at both
  rw [poolComponent, read]
  simp only [poolKey, both.1, both.2]

theorem poolComponent_eq_none {text : List Char} (noEquals : '=' ∉ text) :
    poolComponent text = none := by
  have same := splitOnceEquals_trim text
  rw [splitOnceEquals_eq_none noEquals, Option.map_none, Option.map_eq_none_iff] at same
  rw [poolComponent, same]

theorem poolComponent_eq_none_iff (text : List Char) : poolComponent text = none ↔ ¬ NamesPool text := by
  by_cases member : '=' ∈ text
  · obtain ⟨key, value, rfl, noEquals⟩ := List.eq_append_cons_of_mem member
    rw [poolComponent_append noEquals]
    constructor
    · rintro none ⟨key', value', same, noEquals', isKey, shows⟩
      have split := splitOnceEquals_append noEquals value
      rw [same, splitOnceEquals_append noEquals'] at split
      cases split
      obtain ⟨k, isKey⟩ := Option.isSome_iff_exists.mp isKey
      rw [isKey, Option.bind_some, if_pos shows] at none
      cases none
    · intro unnamed
      by_cases blank : trimBraces (trim value) = []
      · cases poolKey key with
        | none => rfl
        | some k =>
            rw [Option.bind_some]
            exact if_neg (not_not_intro blank)
      · rcases isKey : poolKey key with _ | k
        · rfl
        · exact absurd ⟨key, value, rfl, noEquals, by rw [isKey]; rfl, blank⟩ unnamed
  · refine iff_of_true (poolComponent_eq_none member) ?_
    rintro ⟨key, value, rfl, -⟩
    exact member (List.mem_append_right _ List.mem_cons_self)

theorem poolComponent_text (part : Attribute) : poolComponent part.text = part.component := by
  cases part with
  | token key => exact poolComponent_eq_none (not_equals_mem_key key)
  | assigned key value => exact poolComponent_append (not_equals_mem_key key) value.text

theorem poolComponent_eq_some {text : List Char} {component : PoolKey × List Char}
    (contributes : poolComponent text = some component) :
    ∃ key value, text = key ++ '=' :: value ∧ component.2 = trimBraces (trim value) := by
  by_cases member : '=' ∈ text
  · obtain ⟨key, value, rfl, noEquals⟩ := List.eq_append_cons_of_mem member
    rw [poolComponent_append noEquals, Option.bind_eq_some_iff] at contributes
    obtain ⟨k, -, component⟩ := contributes
    split_ifs at component with shows
    cases component
    exact ⟨key, value, rfl, rfl⟩
  · rw [poolComponent_eq_none member] at contributes
    cases contributes

theorem not_mem_of_mem_splitOn {c : Char} {text piece : List Char}
    (inside : piece ∈ text.splitOn c) : c ∉ piece := by
  induction text generalizing piece with
  | nil =>
      rw [List.splitOn_nil, List.mem_singleton] at inside
      rw [inside]
      exact List.not_mem_nil
  | cons x text ih =>
      rw [List.splitOn_cons_eq_if_modifyHead] at inside
      split_ifs at inside with separates
      · rcases List.mem_cons.mp inside with rfl | inside
        · exact List.not_mem_nil
        · exact ih inside
      · obtain ⟨first, others, split⟩ := List.exists_cons_of_ne_nil (List.splitOn_ne_nil c text)
        rw [split, List.modifyHead_cons] at inside
        rw [split] at ih
        rcases List.mem_cons.mp inside with rfl | inside
        · have notFirst := ih List.mem_cons_self
          rw [List.mem_cons]
          rintro (rfl | member)
          · exact separates (BEq.refl c)
          · exact notFirst member
        · exact ih (List.mem_cons_of_mem _ inside)

theorem component_noSemicolon {text : List Char} {component : PoolKey × List Char}
    (noSemicolon : ';' ∉ text) (contributes : poolComponent text = some component) :
    ';' ∉ component.2 := by
  obtain ⟨key, value, rfl, written⟩ := poolComponent_eq_some contributes
  intro member
  rw [written] at member
  have inValue : ';' ∈ value := mem_of_mem_trimWith (mem_of_mem_trimWith member)
  exact noSemicolon (List.mem_append_right _ (List.mem_cons_of_mem _ inValue))

/-- A semicolon in an attribute is not trimmed off its value. -/
theorem semicolon_mem_trimmed {key : AttributeKey} {value : List Char}
    (semicolon : ';' ∈ key.text ++ '=' :: value) : ';' ∈ trimBraces (trim value) := by
  have inValue : ';' ∈ value := by
    rcases List.mem_append.mp semicolon with inKey | behind
    · cases key.noSeparator ';' inKey
    · exact (List.mem_cons.mp behind).resolve_left (by decide)
  exact mem_trimWith (mem_trimWith inValue (by decide)) (by decide)


theorem component_semicolon {part : Attribute} {component : PoolKey × List Char}
    (semicolon : ';' ∈ part.text) (contributes : part.component = some component) :
    ';' ∈ component.2 := by
  cases part with
  | token key => cases contributes
  | assigned key value =>
      rw [Attribute.component, Option.bind_eq_some_iff] at contributes
      obtain ⟨k, -, component⟩ := contributes
      split_ifs at component with shows
      cases component
      exact semicolon_mem_trimmed semicolon

/-! ## One attribute -/

/-- What the pieces of an attribute contribute. -/
def piecewise (part : Attribute) : List (PoolKey × List Char) :=
  (part.text.splitOn ';').filterMap poolComponent

theorem filterMap_splitOn (parts : List Attribute) :
    ((connectionString parts).splitOn ';').filterMap poolComponent = parts.flatMap piecewise := by
  induction parts with
  | nil => rfl
  | cons part parts ih =>
      cases parts with
      | nil =>
          rw [connectionString, List.map_singleton, List.intercalate_singleton,
            List.flatMap_singleton]
          rfl
      | cons part' parts =>
          rw [connectionString_cons_cons, List.splitOn_append_cons_self, List.filterMap_append, ih]
          rfl

/-- An attribute that names something in one piece contributes that and what the pieces behind its
first semicolon do. -/
theorem piecewise_eq {part : Attribute} (named : NamesPool part.text → ';' ∉ part.text) :
    piecewise part =
      part.component.toList ++ (part.text.splitOn ';').tail.filterMap poolComponent := by
  by_cases semicolon : ';' ∈ part.text
  · have unnamed : ¬ NamesPool part.text := fun names => named names semicolon
    have none : part.component = none := by
      rwa [← poolComponent_text, poolComponent_eq_none_iff]
    obtain ⟨front, back, whole, noSemicolon⟩ := List.eq_append_cons_of_mem semicolon
    have first : poolComponent front = Option.none := by
      cases part with
      | token key => cases key.noSeparator ';' semicolon
      | assigned key value =>
          obtain ⟨begun, rfl⟩ := exists_front whole
          -- a key that names something would name it with the whole value, which is not blank
          have noKey : poolKey key.text = Option.none := by
            by_contra isKey
            refine unnamed ⟨key.text, value.text, rfl, not_equals_mem_key key,
              Option.isSome_iff_ne_none.mpr isKey, fun blank => ?_⟩
            have inside := semicolon_mem_trimmed semicolon
            rw [blank] at inside
            cases inside
          rw [poolComponent_append (not_equals_mem_key key), noKey]
          rfl
    rw [piecewise, whole, List.splitOn_append_cons_self_of_not_mem noSemicolon, none,
      List.filterMap_cons_none first]
    rfl
  · rw [piecewise, List.splitOn_eq_singleton semicolon, ← poolComponent_text,
      List.filterMap_cons]
    cases poolComponent part.text <;> rfl

/-- The identity of a pool is that of its attributes where each of them is whole. -/
theorem named_by_attributes_iff (parts : List Attribute) :
    NamedByAttributes parts ↔ ∀ part ∈ parts, part.Whole := by
  have own : parts.filterMap Attribute.component =
      parts.flatMap fun part => part.component.toList := List.filterMap_eq_flatMap_toList _ _
  constructor
  · intro named
    have same := named.components
    rw [filterMap_splitOn, own] at same
    have noSemicolon : ∀ part ∈ parts, NamesPool part.text → ';' ∉ part.text := by
      intro part member names semicolon
      rw [← not_not (a := NamesPool part.text), ← poolComponent_eq_none_iff, poolComponent_text] at names
      obtain ⟨component, contributes⟩ := Option.ne_none_iff_exists'.mp names
      have shown : component ∈ parts.flatMap piecewise := by
        rw [same, List.mem_flatMap]
        exact ⟨part, member, by rw [contributes]; exact List.mem_singleton_self _⟩
      obtain ⟨part', -, inside⟩ := List.mem_flatMap.mp shown
      obtain ⟨piece, piece_mem, read⟩ := List.mem_filterMap.mp inside
      exact component_noSemicolon (not_mem_of_mem_splitOn piece_mem) read
        (component_semicolon semicolon contributes)
    have each := forall_mem_eq_of_flatMap_eq (fun part member => by
      rw [piecewise_eq (noSemicolon part member), List.length_append]
      exact Nat.le_add_right _ _) same
    refine fun part member => ⟨noSemicolon part member, fun piece inside => ?_⟩
    have alone := each part member
    rw [piecewise_eq (noSemicolon part member), List.append_right_eq_self,
      List.filterMap_eq_nil_iff] at alone
    exact (poolComponent_eq_none_iff piece).mp (alone piece inside)
  · intro whole
    have same : ((connectionString parts).splitOn ';').filterMap poolComponent =
        parts.filterMap Attribute.component := by
      rw [filterMap_splitOn, own]
      refine List.flatMap_congr fun part member => ?_
      rw [piecewise_eq (whole part member).1, List.append_right_eq_self, List.filterMap_eq_nil_iff]
      exact fun piece inside =>
        (poolComponent_eq_none_iff piece).mpr ((whole part member).2 piece inside)
    exact ⟨same, by rw [ConnectionPool.getPoolId, extractPoolComponents, same]⟩

def server : AttributeKey := ⟨"SERVER".toList, List.all_eq_true.mp (by decide)⟩

def db : AttributeValue :=
  .plain "db".toList (List.all_eq_true.mp (by decide)) (by decide)

/-- A password names the user of a pool. -/
theorem password_names_user : ¬ ∀ parts, NamedByAttributes parts := by
  intro named
  have id := (named [.assigned server db, .assigned pwd (.braced "x;UID=admin;y".toList)]).poolId
  exact absurd id (by decide)

end OdbcFast.Verification
