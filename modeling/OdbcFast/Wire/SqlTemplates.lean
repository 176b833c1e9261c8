import OdbcFast.Wire.SqlPieces

/-!
# Templates of statements

A template is a fixed text with gaps, and each gap takes a list of names. The fixed texts have no
quotes, and the names are written between quotes that they do not contain. So a statement is read
as its template says, whatever the names are: they change neither its structure nor the number of
its placeholders.
-/

namespace Wire.Sql

/-- A list of names in a statement. Each is quoted, and written in the gaps of its item. -/
structure Clause (ι : Type) where
  opening : Char
  closing : Char
  front : String
  backs : List String
  separator : String
  names : ι
  /-- The fixed text behind the list. -/
  back : String

namespace Clause

variable {ι : Type} (clause : Clause ι) (names : ι → List (List Char))

def quoted (name : List Char) : List Char := clause.opening :: (name ++ [clause.closing])

def itemText (name : List Char) : List Char :=
  fill (fun _ => clause.quoted name) String.toList clause.front.toList clause.backs

def itemTokens (name : List Char) : List Token :=
  fillTokens (fun _ => [.identifier name]) String.toList clause.front.toList clause.backs

def text : List Char :=
  clause.separator.toList.intercalate ((names clause.names).map clause.itemText)

def tokens : List Token :=
  (plainTokens clause.separator.toList).intercalate ((names clause.names).map clause.itemTokens)

def isSound : Bool :=
  Sql.isSound clause.front.toList (clause.backs.map String.toList) &&
    endsGap clause.separator.toList false &&
    (plain clause.separator.toList).1 == .between

/-- The fixed texts in a list. -/
def inside : List String := clause.separator :: clause.front :: clause.backs

def fixed : List String := clause.back :: clause.inside

end Clause

structure Template (ι : Type) where
  front : String
  clauses : List (Clause ι)

namespace Template

variable {ι : Type} (template : Template ι) (names : ι → List (List Char))

def text : List Char :=
  fill (fun clause => clause.text names) (fun clause => clause.back.toList)
    template.front.toList template.clauses

def tokens : List Token :=
  fillTokens (fun clause => clause.tokens names) (fun clause => clause.back.toList)
    template.front.toList template.clauses

/-- The texts that do not depend on the names. -/
def fixed : List String := template.front :: template.clauses.flatMap Clause.fixed

def isSound : Bool :=
  Sql.isSound template.front.toList (template.clauses.map fun clause => clause.back.toList) &&
    template.clauses.all Clause.isSound

end Template

section

variable {ι : Type} {quotes : Quotes} {clause : Clause ι} {template : Template ι}
  {names : ι → List (List Char)}

/-- Each quoted name of a template is a name for these quotes. -/
structure Admits (quotes : Quotes) (template : Template ι) (names : ι → List (List Char)) :
    Prop where
  free : ∀ text ∈ template.fixed, ∀ c ∈ text.toList, quotes c = none
  opens : ∀ clause ∈ template.clauses,
    read quotes .between clause.opening = (.identifier clause.closing [], [])
  closes : ∀ clause ∈ template.clauses, isBoundary clause.closing = false
  clean : ∀ clause ∈ template.clauses, ∀ name ∈ names clause.names, clause.closing ∉ name

theorem Clause.reads (sound : clause.isSound = true)
    (free : ∀ text ∈ clause.fixed, ∀ c ∈ text.toList, quotes c = none)
    (opens : read quotes .between clause.opening = (.identifier clause.closing [], []))
    (closes : isBoundary clause.closing = false)
    (clean : ∀ name ∈ names clause.names, clause.closing ∉ name) :
    Reads quotes (clause.text names) (clause.tokens names) := by
  rw [Clause.fixed, Clause.inside, List.forall_mem_cons, List.forall_mem_cons] at free
  obtain ⟨-, separator, item⟩ := free
  rw [Clause.isSound, Bool.and_eq_true, Bool.and_eq_true, beq_iff_eq] at sound
  obtain ⟨⟨sound, separates⟩, begun⟩ := sound
  refine reads_intercalate (endsGap_iff.mp separates) (readAll_plain separator begun) ?_
  intro name member
  refine reads_fill sound ?_ fun _ _ => ?_
  · rw [← List.map_cons, List.forall_mem_map]
    exact item
  · exact reads_of_closing (readAll_quoted opens (clean name member)) closes

/-- Whatever the names are, a template is read as it says. -/
theorem Template.reads (sound : template.isSound = true) (admits : Admits quotes template names) :
    Reads quotes (template.text names) (template.tokens names) := by
  obtain ⟨free, opens, closes, clean⟩ := admits
  rw [Template.isSound, Bool.and_eq_true, List.all_eq_true] at sound
  rw [Template.fixed, List.forall_mem_cons] at free
  have inside : ∀ clause ∈ template.clauses, ∀ text ∈ clause.fixed, ∀ c ∈ text.toList,
      quotes c = none := fun clause member text fixed =>
    free.2 text (List.mem_flatMap.mpr ⟨clause, member, fixed⟩)
  refine reads_fill sound.1 ?_ fun clause member => ?_
  · rw [List.forall_mem_cons, List.forall_mem_map]
    exact ⟨free.1, fun clause member => inside clause member _ List.mem_cons_self⟩
  · exact Clause.reads (sound.2 clause member) (inside clause member) (opens clause member)
      (closes clause member) (clean clause member)

/-- A token, whatever name it is. -/
def Token.withoutName : Token → Token
  | .identifier _ => .identifier []
  | token => token

theorem Clause.withoutNames {names' : ι → List (List Char)}
    (same : (names clause.names).length = (names' clause.names).length) :
    (clause.tokens names).map Token.withoutName = (clause.tokens names').map Token.withoutName := by
  have item : ∀ name, (clause.itemTokens name).map Token.withoutName =
      (clause.itemTokens []).map Token.withoutName := fun name => map_fillTokens _ fun _ _ => rfl
  have items : ∀ names : List (List Char),
      (names.map clause.itemTokens).map (List.map Token.withoutName) =
        List.replicate names.length ((clause.itemTokens []).map Token.withoutName) := by
    intro names
    rw [List.map_map, ← List.map_const']
    exact List.map_congr_left fun name _ => item name
  rw [Clause.tokens, Clause.tokens, map_intercalate, map_intercalate, items, items, same]

/-- What tokens are made of does not depend on the names, only on how many there are. -/
theorem Template.withoutNames {names' : ι → List (List Char)}
    (same : ∀ list, (names list).length = (names' list).length) :
    (template.tokens names).map Token.withoutName =
      (template.tokens names').map Token.withoutName :=
  map_fillTokens _ fun clause _ => Clause.withoutNames (same clause.names)

theorem Clause.mem_tokens {token : Token} (member : token ∈ clause.tokens names) :
    (∃ text ∈ clause.inside, token ∈ plainTokens text.toList) ∨
      ∃ name ∈ names clause.names, token = .identifier name := by
  rcases mem_intercalate member with between | ⟨item, there, member⟩
  · exact .inl ⟨clause.separator, List.mem_cons_self, between⟩
  · obtain ⟨name, given, rfl⟩ := List.mem_map.mp there
    rcases mem_fillTokens member with ⟨fixed, there, member⟩ | ⟨_, -, member⟩
    · rw [← List.map_cons] at there
      obtain ⟨text, written, rfl⟩ := List.mem_map.mp there
      exact .inl ⟨text, List.mem_cons_of_mem _ written, member⟩
    · exact .inr ⟨name, given, List.mem_singleton.mp member⟩

/-- Each name of a list stands in it. -/
theorem Clause.identifier_mem_tokens {name : List Char} (gap : clause.backs ≠ [])
    (given : name ∈ names clause.names) : .identifier name ∈ clause.tokens names := by
  refine mem_intercalate_of_mem (List.mem_map_of_mem given) ?_
  obtain ⟨back, backs, gaps⟩ := List.exists_cons_of_ne_nil gap
  rw [Clause.itemTokens, gaps, fillTokens]
  simp

/-- A token of a template is one of a fixed text or one of the names. -/
theorem Template.mem_tokens {token : Token} (member : token ∈ template.tokens names) :
    (∃ text ∈ template.fixed, token ∈ plainTokens text.toList) ∨
      ∃ clause ∈ template.clauses, ∃ name ∈ names clause.names, token = .identifier name := by
  have fixed : ∀ clause ∈ template.clauses, ∀ text ∈ clause.fixed, text ∈ template.fixed :=
    fun clause there text fixed =>
      List.mem_cons_of_mem _ (List.mem_flatMap.mpr ⟨clause, there, fixed⟩)
  rcases mem_fillTokens member with ⟨fixed, there, member⟩ | ⟨clause, there, member⟩
  · rcases List.mem_cons.mp there with rfl | there
    · exact .inl ⟨template.front, List.mem_cons_self, member⟩
    · obtain ⟨clause, listed, rfl⟩ := List.mem_map.mp there
      exact .inl ⟨clause.back, fixed clause listed _ List.mem_cons_self, member⟩
  · rcases clause.mem_tokens member with ⟨text, inside, member⟩ | named
    · exact .inl ⟨text, fixed clause there text (List.mem_cons_of_mem _ inside), member⟩
    · exact .inr ⟨clause, there, named⟩

end

end Wire.Sql
