import Mathlib.Data.List.DropRight
import OdbcFast.Native.Security.Audit

/-!
# What a connection string gives away

A connection string is written as attributes between semicolons. A value in braces doubles the
closing braces inside it. The reader of such a text ends a value at the first semicolon behind the
first closing brace, so what stands behind that one is read as attributes of their own.

A statement in a log is shown without its literals.
-/

namespace OdbcFast.Verification

open OdbcFast.Native OdbcFast.Native.Sanitize

/-! ## Connection strings -/

structure AttributeKey where
  text : List Char
  noSeparator : ∀ c ∈ text, isKeyChar c = true
  deriving DecidableEq

inductive AttributeValue
  | plain (text : List Char) (noSemicolon : ∀ c ∈ text, isValueChar c = true)
      (noBrace : text.head? ≠ some '{')
  | braced (content : List Char)
  deriving DecidableEq

/-- What stands between two semicolons; a keyword may stand alone, and so may nothing. -/
inductive Attribute
  | token (key : AttributeKey)
  | assigned (key : AttributeKey) (value : AttributeValue)
  deriving DecidableEq

/-- A closing brace inside braces is written twice. -/
def escaped (content : List Char) : List Char :=
  content.flatMap fun c => if c = '}' then ['}', '}'] else [c]

def AttributeValue.text : AttributeValue → List Char
  | .plain text _ _ => text
  | .braced content => '{' :: (escaped content ++ ['}'])

def Attribute.text : Attribute → List Char
  | .token key => key.text
  | .assigned key value => key.text ++ '=' :: value.text

def connectionString (attributes : List Attribute) : List Char :=
  [';'].intercalate (attributes.map Attribute.text)

def stars : AttributeValue :=
  .plain "***".toList (List.all_eq_true.mp (by decide)) (by decide)

/-- The attribute, with stars for a secret value. -/
def Attribute.redacted : Attribute → Attribute
  | .token key => .token key
  | .assigned key value => .assigned key (if isSecretKey key.text then stars else value)

/-- Two connection strings that differ in the values of secret attributes only. -/
def SameOutside (attributes attributes' : List Attribute) : Prop :=
  attributes.map Attribute.redacted = attributes'.map Attribute.redacted

instance (attributes attributes' : List Attribute) :
    Decidable (SameOutside attributes attributes') :=
  inferInstanceAs (Decidable (_ = _))

/-- What stands in braces behind the first semicolon that is behind the first closing brace. -/
def tailOf (content : List Char) : List Char :=
  (content.dropWhile isBraced).dropWhile isValueChar

def headOf (content : List Char) : List Char :=
  content.takeWhile isBraced ++ (content.dropWhile isBraced).takeWhile isValueChar

/-- What the reader takes an attribute for. -/
def pieces : Attribute → List Entry
  | .token key => [⟨key.text, none⟩]
  | .assigned key (.plain text _ _) => [⟨key.text, some text⟩]
  | .assigned key (.braced content) =>
    match tailOf content with
    | [] => [⟨key.text, some ('{' :: (escaped content ++ ['}']))⟩]
    | _ :: tail =>
      ⟨key.text, some ('{' :: escaped (headOf content))⟩ :: entries (escaped tail ++ ['}'])

/-! ## Braces -/

theorem escaped_append (left right : List Char) :
    escaped (left ++ right) = escaped left ++ escaped right := List.flatMap_append

theorem escaped_of_braced {inner : List Char} (noBrace : ∀ c ∈ inner, isBraced c = true) :
    escaped inner = inner := by
  induction inner with
  | nil => rfl
  | cons c inner ih =>
      rw [List.forall_mem_cons] at noBrace
      have other : c ≠ '}' := by simpa [isBraced] using noBrace.1
      rw [escaped, List.flatMap_cons, if_neg other, List.singleton_append]
      exact congrArg _ (ih noBrace.2)

theorem isValueChar_escaped {inner : List Char} (noSemicolon : ∀ c ∈ inner, isValueChar c = true) :
    ∀ c ∈ escaped inner, isValueChar c = true := by
  intro c inside
  obtain ⟨c', member, written⟩ := List.mem_flatMap.mp inside
  split_ifs at written with closes
  · have brace : c = '}' := by simpa using written
    rw [brace]
    rfl
  · rw [List.mem_singleton.mp written]
    exact noSemicolon c' member

theorem headOf_append_tailOf (content : List Char) : headOf content ++ tailOf content = content := by
  rw [headOf, tailOf, List.append_assoc, List.takeWhile_append_dropWhile,
    List.takeWhile_append_dropWhile]

/-- Up to the first semicolon behind the first closing brace the value is one. -/
theorem isValue_headOf {content more : List Char} (closes : '}' ∈ content)
    (noSemicolon : ∀ c ∈ more, isValueChar c = true) :
    IsValue ('{' :: (escaped (headOf content) ++ more)) := by
  rcases behind : content.dropWhile isBraced with _ | ⟨close, trailing⟩
  · have inside := List.dropWhile_eq_nil_iff.mp behind '}' closes
    cases inside
  · have ends := List.head?_dropWhile_not isBraced content
    rw [behind] at ends
    obtain rfl : close = '}' := by simpa [isBraced] using ends
    have written : escaped (headOf content) ++ more = content.takeWhile isBraced ++
        '}' :: ('}' :: escaped (trailing.takeWhile isValueChar) ++ more) := by
      rw [headOf, behind, List.takeWhile_cons_of_pos rfl, escaped_append,
        escaped_of_braced all_takeWhile, List.append_assoc]
      rfl
    rw [written]
    refine .braced all_takeWhile ?_
    rw [List.forall_mem_append, List.forall_mem_cons]
    exact ⟨⟨rfl, isValueChar_escaped all_takeWhile⟩, noSemicolon⟩

theorem isValue_of_tailOf_eq_nil {content : List Char} (noTail : tailOf content = []) :
    IsValue ('{' :: (escaped content ++ ['}'])) := by
  by_cases closes : '}' ∈ content
  · have whole := headOf_append_tailOf content
    rw [noTail, List.append_nil] at whole
    have value := @isValue_headOf content ['}'] closes (by simp [isValueChar])
    rwa [whole] at value
  · rw [@escaped_of_braced content]
    · exact .braced (fun c inside => by
        have other : c ≠ '}' := fun same => closes (same ▸ inside)
        simpa [isBraced] using other) (by simp)
    · intro c inside
      have other : c ≠ '}' := fun same => closes (same ▸ inside)
      simpa [isBraced] using other

theorem tailOf_eq_cons {content tail : List Char} {c : Char} (behind : tailOf content = c :: tail) :
    c = ';' ∧ '}' ∈ content := by
  rw [tailOf] at behind
  have ends := List.head?_dropWhile_not isValueChar (content.dropWhile isBraced)
  rw [behind] at ends
  refine ⟨by simpa [isValueChar] using ends, ?_⟩
  by_contra none
  have all : ∀ c ∈ content, isBraced c = true := by
    intro c inside
    have other : c ≠ '}' := fun same => none (same ▸ inside)
    simpa [isBraced] using other
  rw [List.dropWhile_eq_nil_iff.mpr all] at behind
  cases behind

/-! ## What the reader takes an attribute for -/

theorem closed_append_brace (text : List Char) : (text ++ ['}']).getLast? = some '}' :=
  List.getLast?_concat

theorem complete_pieces (part : Attribute) : ∀ entry ∈ pieces part, entry.Complete := by
  obtain key | ⟨key, value⟩ := part
  · exact List.forall_mem_singleton.mpr ⟨key.noSeparator, by rintro _ ⟨⟩⟩
  · obtain ⟨text, noSemicolon, noBrace⟩ | content := value
    · refine List.forall_mem_singleton.mpr ⟨key.noSeparator, ?_⟩
      rintro _ ⟨⟩
      exact .plain noSemicolon noBrace
    · rw [pieces]
      split
      · next noTail =>
        refine List.forall_mem_singleton.mpr ⟨key.noSeparator, ?_⟩
        rintro _ ⟨⟩
        exact isValue_of_tailOf_eq_nil noTail
      · next c tail behind =>
        rw [List.forall_mem_cons]
        refine ⟨⟨key.noSeparator, ?_⟩, (entries_closed (closed_append_brace _)).1⟩
        rintro _ ⟨⟩
        have value := @isValue_headOf content [] (tailOf_eq_cons behind).2 (by rintro _ ⟨⟩)
        rwa [List.append_nil] at value

theorem pieces_ne_nil (part : Attribute) : pieces part ≠ [] := by
  obtain key | ⟨key, ⟨text, noSemicolon, noBrace⟩ | content⟩ := part
  · exact List.cons_ne_nil _ _
  · exact List.cons_ne_nil _ _
  · rw [pieces]
    split <;> exact List.cons_ne_nil _ _

theorem join_pieces (part : Attribute) : Entry.join (pieces part) = part.text := by
  obtain key | ⟨key, ⟨text, noSemicolon, noBrace⟩ | content⟩ := part
  · exact Entry.join_singleton.trans (List.append_nil _)
  · exact Entry.join_singleton
  · rw [pieces]
    split
    · exact Entry.join_singleton
    · next c tail behind =>
      have read := (entries_closed (closed_append_brace (escaped tail))).2
      have whole := headOf_append_tailOf content
      rw [behind, (tailOf_eq_cons behind).1] at whole
      have written := congrArg escaped whole
      rw [escaped_append] at written
      rw [← List.singleton_append, Entry.join_append (List.cons_ne_nil _ _), read,
        Entry.join_singleton, Attribute.text, AttributeValue.text, ← written]
      · simp [Entry.raw, escaped]
      · intro none
        rw [none] at read
        simp [Entry.join] at read

/-! ## Connection strings as entries -/

/-- Each attribute is read as complete entries, the last of which has text when it has. -/
structure Reading (reads : Attribute → List Entry) : Prop where
  complete : ∀ part, ∀ entry ∈ reads part, entry.Complete
  some : ∀ part, reads part ≠ []
  blank : ∀ part rest last, reads part = rest ++ [last] →
    (last.raw = [] ↔ part.text = []) ∧ (last.raw = [] → rest = [])

theorem text_ends (part : Attribute) : part.text.getLast? ≠ some ';' := by
  intro ends
  obtain key | ⟨key, ⟨text, noSemicolon, noBrace⟩ | content⟩ := part
  · have last := key.noSeparator ';' (List.mem_of_getLast? ends)
    cases last
  · have last := noSemicolon ';' (List.mem_of_getLast? (getLast?_behind ends (by decide)))
    cases last
  · have whole : (Attribute.assigned key (.braced content)).text =
        (key.text ++ '=' :: '{' :: escaped content) ++ ['}'] := by
      simp [Attribute.text, AttributeValue.text]
    rw [whole, closed_append_brace] at ends
    cases ends

theorem reading_pieces : Reading pieces where
  complete := complete_pieces
  some := pieces_ne_nil
  blank part rest last same := by
    have whole := join_pieces part
    have ends := text_ends part
    rw [same] at whole
    rcases rest.eq_nil_or_concat with rfl | ⟨_, _, rfl⟩
    · rw [List.nil_append, Entry.join_singleton] at whole
      exact ⟨by rw [whole], fun _ => rfl⟩
    · rw [Entry.join_append (by simp) (List.cons_ne_nil _ _), Entry.join_singleton] at whole
      have filled : last.raw ≠ [] := by
        intro none
        rw [none] at whole
        rw [← whole, List.getLast?_concat] at ends
        exact ends rfl
      refine ⟨iff_of_false filled ?_, fun none => absurd none filled⟩
      rw [← whole]
      simp

theorem text_redacted_eq_nil_iff (part : Attribute) :
    part.redacted.text = [] ↔ part.text = [] := by
  cases part with
  | token key => rfl
  | assigned key value => simp [Attribute.redacted, Attribute.text]

namespace Reading

variable {reads reads' : Attribute → List Entry}

theorem redacted (reading : Reading reads) : Reading fun part => reads part.redacted where
  complete part := reading.complete part.redacted
  some part := reading.some part.redacted
  blank part rest last same := by
    rw [← text_redacted_eq_nil_iff]
    exact reading.blank part.redacted rest last same

theorem masked (reading : Reading reads) : Reading fun part => (reads part).map Entry.masked where
  complete part := by
    rw [List.forall_mem_map]
    exact fun entry inside => (reading.complete part entry inside).masked
  some part none := reading.some part (List.map_eq_nil_iff.mp none)
  blank part rest last same := by
    obtain ⟨rest', last', read, rfl, shown⟩ := List.map_eq_append_iff.mp same
    obtain ⟨last', rfl, rfl⟩ := List.map_eq_singleton_iff.mp shown
    have blank := reading.blank part rest' last' read
    rw [Entry.raw_eq_nil_iff, Entry.masked_eq_blank_iff, ← Entry.raw_eq_nil_iff,
      List.map_eq_nil_iff]
    exact blank

/-- The entries of a whole connection string. -/
theorem complete_flatMap (reading : Reading reads) (parts : List Attribute) :
    ∀ entry ∈ parts.flatMap reads, entry.Complete := by
  intro entry inside
  obtain ⟨part, -, read⟩ := List.mem_flatMap.mp inside
  exact reading.complete part entry read

theorem flatMap_eq_nil_iff (reading : Reading reads) {parts : List Attribute} :
    parts.flatMap reads = [] ↔ parts = [] := by
  cases parts with
  | nil => exact iff_of_true rfl rfl
  | cons part parts =>
      refine iff_of_false (fun none => ?_) (List.cons_ne_nil _ _)
      exact reading.some part (List.append_eq_nil_iff.mp none).1

end Reading

/-- The written text of entries, of which nothing behind the last semicolon is one. -/
def shownText (entries : List Entry) : List Char := Entry.join (dropBlank entries)

theorem join_flatMap_pieces (parts : List Attribute) :
    Entry.join (parts.flatMap pieces) = connectionString parts := by
  induction parts with
  | nil => rfl
  | cons part parts ih =>
      cases parts with
      | nil =>
          rw [List.flatMap_singleton, join_pieces]
          exact List.intercalate_singleton.symm
      | cons part' parts =>
          rw [List.flatMap_cons, Entry.join_append (pieces_ne_nil part), ih, join_pieces]
          · show _ = [';'].intercalate (part.text :: part'.text :: parts.map Attribute.text)
            rw [List.intercalate_cons_cons, List.append_assoc]
            rfl
          · rw [ne_eq, reading_pieces.flatMap_eq_nil_iff]
            exact List.cons_ne_nil _ _

/-- What is shown of a connection string. -/
theorem sanitize_connectionString (parts : List Attribute) :
    sanitizeConnectionString (connectionString parts) =
      shownText (parts.flatMap fun part => (pieces part).map Entry.masked) := by
  rw [← join_flatMap_pieces,
    sanitizeConnectionString_join (reading_pieces.complete_flatMap parts), List.map_flatMap]
  rfl

/-! ## Comparing two connection strings -/

theorem forall_mem_eq_of_flatMap_eq {α β : Type} {reads reads' : α → List β} {parts : List α}
    (shorter : ∀ part ∈ parts, (reads' part).length ≤ (reads part).length)
    (same : parts.flatMap reads = parts.flatMap reads') :
    ∀ part ∈ parts, reads part = reads' part := by
  have longer : ∀ parts : List α,
      (∀ part ∈ parts, (reads' part).length ≤ (reads part).length) →
        (parts.flatMap reads').length ≤ (parts.flatMap reads).length := by
    intro parts shorter
    induction parts with
    | nil => exact Nat.le_refl _
    | cons part parts ih =>
        rw [List.forall_mem_cons] at shorter
        rw [List.flatMap_cons, List.flatMap_cons, List.length_append, List.length_append]
        exact Nat.add_le_add shorter.1 (ih shorter.2)
  induction parts with
  | nil => rintro _ ⟨⟩
  | cons part parts ih =>
      rw [List.forall_mem_cons] at shorter
      rw [List.flatMap_cons, List.flatMap_cons] at same
      have lengths := congrArg List.length same
      rw [List.length_append, List.length_append] at lengths
      have first := shorter.1
      have others := longer parts shorter.2
      obtain ⟨head, tail⟩ := List.append_inj same (by omega)
      exact List.forall_mem_cons.mpr ⟨head, ih shorter.2 tail⟩

/-- Two readings of the attributes show the same text when they are the same. -/
theorem shownText_eq_iff {reads reads' : Attribute → List Entry} (reading : Reading reads)
    (reading' : Reading reads') (shorter : ∀ part, (reads' part).length ≤ (reads part).length)
    (parts : List Attribute) :
    shownText (parts.flatMap reads) = shownText (parts.flatMap reads') ↔
      ∀ part ∈ parts, reads part = reads' part := by
  refine ⟨?_, fun same => by rw [List.flatMap_def, List.map_congr_left same, ← List.flatMap_def]⟩
  intro same
  refine forall_mem_eq_of_flatMap_eq (fun part _ => shorter part) ?_
  rcases parts.eq_nil_or_concat with rfl | ⟨parts, part, rfl⟩
  · rfl
  have complete := reading.complete_flatMap (parts ++ [part])
  have complete' := reading'.complete_flatMap (parts ++ [part])
  rcases (reads part).eq_nil_or_concat with none | ⟨rest, last, read⟩
  · exact absurd none (reading.some part)
  rcases (reads' part).eq_nil_or_concat with none | ⟨rest', last', read'⟩
  · exact absurd none (reading'.some part)
  rw [List.concat_eq_append] at *
  obtain ⟨blank, alone⟩ := reading.blank part rest last read
  obtain ⟨blank', alone'⟩ := reading'.blank part rest' last' read'
  simp only [List.flatMap_append, List.flatMap_singleton, read, read', ← List.append_assoc]
    at same complete complete' ⊢
  by_cases none : part.text = []
  · -- nothing is read behind the last semicolon, and nothing is there
    have raw := blank.mpr none
    have raw' := blank'.mpr none
    rw [shownText, shownText, dropBlank_append_blank raw, dropBlank_append_blank raw',
      alone raw, alone' raw', List.append_nil, List.append_nil] at same
    rw [alone raw, alone' raw', Entry.raw_eq_nil_iff.mp raw, Entry.raw_eq_nil_iff.mp raw']
    rw [List.append_nil, List.append_nil]
    congr 1
    rcases parts with _ | ⟨first, parts⟩
    · rfl
    · refine Entry.join_inj ?_ ?_ (reading.complete_flatMap _) (reading'.complete_flatMap _) same
      · rw [ne_eq, reading.flatMap_eq_nil_iff]
        exact List.cons_ne_nil _ _
      · rw [ne_eq, reading'.flatMap_eq_nil_iff]
        exact List.cons_ne_nil _ _
  · rw [shownText, shownText, dropBlank_append_singleton (mt blank.mp none),
      dropBlank_append_singleton (mt blank'.mp none)] at same
    exact Entry.join_inj (by simp) (by simp) complete complete' same

/-- The text without a semicolon at its end. -/
def withoutLast (text : List Char) : List Char :=
  if text.getLast? = some ';' then text.dropLast else text

theorem raw_ends {entry : Entry} (complete : entry.Complete) : entry.raw.getLast? ≠ some ';' := by
  intro ends
  obtain ⟨key, value⟩ := entry
  cases value with
  | none =>
      rw [Entry.raw, Option.map_none, Option.getD_none, List.append_nil] at ends
      have last := complete.key ';' (List.mem_of_getLast? ends)
      cases last
  | some value =>
      have behind := getLast?_behind ends (by decide)
      cases complete.value value rfl with
      | plain noSemicolon noBrace =>
          have last := noSemicolon ';' (List.mem_of_getLast? behind)
          cases last
      | @braced inner trailing noBrace noSemicolon =>
          have trails := @getLast?_behind ('{' :: inner) trailing '}' ';' behind (by decide)
          have last := noSemicolon ';' (List.mem_of_getLast? trails)
          cases last

theorem Reading.shownText_eq {reads : Attribute → List Entry} (reading : Reading reads)
    (parts : List Attribute) :
    shownText (parts.flatMap reads) = withoutLast (Entry.join (parts.flatMap reads)) := by
  rcases (parts.flatMap reads).eq_nil_or_concat with none | ⟨rest, last, read⟩
  · rw [none]
    rfl
  · have complete := reading.complete_flatMap parts last (by rw [read]; simp)
    have ends := raw_ends complete
    rw [List.concat_eq_append] at read
    rw [read, shownText]
    by_cases blank : last.raw = []
    · rw [dropBlank_append_blank blank]
      rcases rest.eq_nil_or_concat with rfl | ⟨rest, before, rfl⟩
      · rw [List.nil_append, Entry.join_singleton, blank]
        rfl
      · rw [Entry.join_append (by simp) (List.cons_ne_nil _ _), Entry.join_singleton, blank,
          withoutLast, if_pos List.getLast?_concat, List.dropLast_concat]
    · rw [dropBlank_append_singleton blank, withoutLast, if_neg]
      rcases rest.eq_nil_or_concat with rfl | ⟨rest, before, rfl⟩
      · rwa [List.nil_append, Entry.join_singleton]
      · obtain ⟨c, raw, same⟩ := List.exists_cons_of_ne_nil blank
        rw [same, List.getLast?_cons] at ends
        rwa [Entry.join_append (by simp) (List.cons_ne_nil _ _), Entry.join_singleton, same,
          List.getLast?_append, List.getLast?_cons_cons, List.getLast?_cons, Option.some_or]

theorem redacted_redacted (part : Attribute) : part.redacted.redacted = part.redacted := by
  cases part with
  | token key => rfl
  | assigned key value =>
      simp only [Attribute.redacted]
      split_ifs <;> rfl

theorem length_pieces_redacted (part : Attribute) :
    (pieces part.redacted).length ≤ (pieces part).length := by
  cases part with
  | token key => exact Nat.le_refl _
  | assigned key value =>
      rw [Attribute.redacted]
      split_ifs with secret
      · exact List.length_pos_iff.mpr (pieces_ne_nil _)
      · exact Nat.le_refl _

/-! ## What holds of which values -/

/-- A secret value that is read as one. -/
def Sealed : Attribute → Prop
  | .assigned key (.braced content) => isSecretKey key.text = true → tailOf content = []
  | _ => True

/-- A secret value that is written without braces. -/
def PlainSecret : Attribute → Prop
  | .assigned key (.braced _) => isSecretKey key.text = false
  | _ => True

/-- However the text is divided, no secret attribute stands in it. -/
def NothingSecret (text : List Char) : Prop :=
  ∀ written : List Entry, (∀ entry ∈ written, entry.Complete) → Entry.join written = text →
    ∀ entry ∈ written, isSecretKey entry.key = true →
      entry.value = none ∨ entry.value = some "***".toList

/-- A value that is read as one, or that is no secret and behind which nothing secret is read. -/
def Harmless : Attribute → Prop
  | .assigned key (.braced content) => tailOf content = [] ∨ isSecretKey key.text = false ∧
      NothingSecret (escaped (tailOf content).tail ++ ['}'])
  | _ => True

/-- The secrets could have been any others. -/
def Hides (parts : List Attribute) : Prop :=
  ∀ parts', SameOutside parts parts' → (∀ part ∈ parts', PlainSecret part) →
    sanitizeConnectionString (connectionString parts) =
      sanitizeConnectionString (connectionString parts')

/-- All attributes are shown as they are and in their order, the secret ones with stars. -/
def Redacts (parts : List Attribute) : Prop :=
  sanitizeConnectionString (connectionString parts) =
    withoutLast (connectionString (parts.map Attribute.redacted))

theorem masked_eq_self_iff {entry : Entry} :
    entry.masked = entry ↔ (isSecretKey entry.key = true →
      entry.value = none ∨ entry.value = some "***".toList) := by
  obtain ⟨key, value⟩ := entry
  by_cases secret : isSecretKey key = true
  · rw [Entry.masked, if_pos secret, imp_iff_right secret]
    cases value with
    | none => exact iff_of_true rfl (.inl rfl)
    | some value => simp [eq_comm]
  · rw [Entry.masked, if_neg secret]
    exact iff_of_true rfl fun found => absurd found secret

theorem nothingSecret_iff {text : List Char} (closed : text.getLast? = some '}') :
    NothingSecret text ↔ (entries text).map Entry.masked = entries text := by
  obtain ⟨complete, whole⟩ := entries_closed closed
  have one : NothingSecret text ↔ ∀ entry ∈ entries text, isSecretKey entry.key = true →
      entry.value = none ∨ entry.value = some "***".toList := by
    refine ⟨fun none => none _ complete whole, fun none written complete' same => ?_⟩
    have filled : ∀ some : List Entry, Entry.join some = text → some ≠ [] := by
      rintro _ empty rfl
      rw [← empty] at closed
      cases closed
    rwa [Entry.join_inj (filled _ same) (filled _ whole) complete' complete (same.trans whole.symm)]
  have each := List.map_inj_left (l := entries text) (f := Entry.masked) (g := id)
  rw [List.map_id] at each
  rw [one, each]
  exact forall₂_congr fun entry inside => masked_eq_self_iff.symm

/-- What is read of a secret attribute whose value is sealed. -/
theorem masked_pieces_iff_sealed (part : Attribute) :
    (pieces part).map Entry.masked = (pieces part.redacted).map Entry.masked ↔ Sealed part := by
  obtain key | ⟨key, ⟨text, noSemicolon, noBrace⟩ | content⟩ := part
  · exact iff_of_true rfl trivial
  · refine iff_of_true ?_ trivial
    by_cases secret : isSecretKey key.text = true
    · rw [Attribute.redacted, if_pos secret, stars, pieces, pieces, List.map_singleton,
        List.map_singleton, Entry.masked_secret secret, Entry.masked_secret secret]
    · rw [Attribute.redacted, if_neg secret]
  · by_cases secret : isSecretKey key.text = true
    · rw [Attribute.redacted, if_pos secret, Sealed, imp_iff_right secret, stars, pieces, pieces]
      rcases behind : tailOf content with _ | ⟨c, tail⟩
      · rw [List.map_singleton, List.map_singleton, Entry.masked_secret secret,
          Entry.masked_secret secret]
        exact iff_of_true rfl rfl
      · refine iff_of_false (fun same => ?_) (List.cons_ne_nil _ _)
        have read := (entries_closed (closed_append_brace (escaped tail))).2
        have none := congrArg List.length same
        simp only [List.map_cons, List.map_nil, List.length_cons, List.length_map,
          List.length_nil, Nat.add_right_cancel_iff, List.length_eq_zero_iff] at none
        rw [none] at read
        simp [Entry.join] at read
    · rw [Attribute.redacted, if_neg secret]
      exact iff_of_true rfl fun found => absurd found secret

theorem masked_pieces_iff_harmless (part : Attribute) :
    (pieces part).map Entry.masked = pieces part.redacted ↔ Harmless part := by
  obtain key | ⟨key, ⟨text, noSemicolon, noBrace⟩ | content⟩ := part
  · refine iff_of_true ?_ trivial
    exact congrArg (fun entry => [entry]) (masked_eq_self_iff.mpr fun _ => .inl rfl)
  · refine iff_of_true ?_ trivial
    by_cases secret : isSecretKey key.text = true
    · rw [Attribute.redacted, if_pos secret, stars, pieces, pieces, List.map_singleton,
        Entry.masked_secret secret]
    · rw [Attribute.redacted, if_neg secret, pieces, List.map_singleton,
        Entry.masked_of_not_secret (Bool.eq_false_iff.mpr secret)]
  · have filled : pieces (.assigned key (.braced content)) ≠ [] := pieces_ne_nil _
    rcases behind : tailOf content with _ | ⟨c, tail⟩
    · refine iff_of_true ?_ (.inl behind)
      rw [Attribute.redacted, pieces, behind, List.map_singleton]
      by_cases secret : isSecretKey key.text = true
      · rw [if_pos secret, stars, pieces, Entry.masked_secret secret]
      · rw [if_neg secret, Entry.masked_of_not_secret (Bool.eq_false_iff.mpr secret), pieces,
          behind]
    · rw [Harmless, behind, List.tail_cons, or_iff_right (List.cons_ne_nil _ _)]
      by_cases secret : isSecretKey key.text = true
      · refine iff_of_false (fun same => ?_) fun found => ?_
        · have sealed : tailOf content = [] := by
            refine (masked_pieces_iff_sealed (.assigned key (.braced content))).mp ?_ secret
            rw [same, Attribute.redacted, if_pos secret, stars, pieces, List.map_singleton,
              Entry.masked_secret secret]
          rw [sealed] at behind
          cases behind
        · rw [found.1] at secret
          cases secret
      · have shown := Bool.eq_false_iff.mpr secret
        rw [Attribute.redacted, if_neg secret, and_iff_right shown,
          nothingSecret_iff (closed_append_brace _), pieces, behind, List.map_cons,
          Entry.masked_of_not_secret shown, List.cons_inj_right]

/-! ## Connection strings and their secrets -/

theorem sealed_of_plainSecret {part : Attribute} (plain : PlainSecret part) : Sealed part := by
  obtain key | ⟨key, ⟨text, noSemicolon, noBrace⟩ | content⟩ := part
  · trivial
  · trivial
  · intro secret
    rw [show isSecretKey key.text = false from plain] at secret
    cases secret

theorem plainSecret_redacted (part : Attribute) : PlainSecret part.redacted := by
  cases part with
  | token key => trivial
  | assigned key value =>
      rw [Attribute.redacted]
      by_cases secret : isSecretKey key.text = true
      · rw [if_pos secret]
        trivial
      · rw [if_neg secret]
        cases value with
        | plain text noSemicolon noBrace => trivial
        | braced content => exact Bool.eq_false_iff.mpr secret

theorem harmless_sealed {part : Attribute} (harmless : Harmless part) : Sealed part := by
  obtain key | ⟨key, ⟨text, noSemicolon, noBrace⟩ | content⟩ := part
  · trivial
  · trivial
  · intro secret
    rcases harmless with noTail | ⟨shown, -⟩
    · exact noTail
    · rw [shown] at secret
      cases secret

theorem sanitize_redacted (parts : List Attribute) :
    sanitizeConnectionString (connectionString (parts.map Attribute.redacted)) =
      shownText (parts.flatMap fun part => (pieces part.redacted).map Entry.masked) := by
  rw [sanitize_connectionString, List.flatMap_map]

/-- Sealed secrets are as good as stars. -/
theorem sanitize_eq_redacted_iff (parts : List Attribute) :
    sanitizeConnectionString (connectionString parts) =
        sanitizeConnectionString (connectionString (parts.map Attribute.redacted)) ↔
      ∀ part ∈ parts, Sealed part := by
  rw [sanitize_connectionString, sanitize_redacted,
    shownText_eq_iff reading_pieces.masked reading_pieces.masked.redacted]
  · exact forall₂_congr fun part _ => masked_pieces_iff_sealed part
  · intro part
    rw [List.length_map, List.length_map]
    exact length_pieces_redacted part

theorem hides_iff (parts : List Attribute) : Hides parts ↔ ∀ part ∈ parts, Sealed part := by
  rw [← sanitize_eq_redacted_iff]
  refine ⟨fun hides => hides _ ?_ ?_, fun same parts' outside plain => ?_⟩
  · rw [SameOutside, List.map_map]
    exact List.map_congr_left fun part _ => (redacted_redacted part).symm
  · rw [List.forall_mem_map]
    exact fun part _ => plainSecret_redacted part
  · rw [same, outside, (sanitize_eq_redacted_iff parts').mpr]
    exact fun part inside => sealed_of_plainSecret (plain part inside)

theorem redacts_iff (parts : List Attribute) : Redacts parts ↔ ∀ part ∈ parts, Harmless part := by
  rw [Redacts, ← join_flatMap_pieces (parts.map _), List.flatMap_map, sanitize_connectionString,
    ← reading_pieces.redacted.shownText_eq,
    shownText_eq_iff reading_pieces.masked reading_pieces.redacted]
  · exact forall₂_congr fun part _ => masked_pieces_iff_harmless part
  · intro part
    rw [List.length_map]
    exact length_pieces_redacted part

/-- What holds of which connection strings: that the secrets could have been any others, and that
everything else is shown as it is. Where it holds the audit log and the messages are the same for
two connection strings that differ in their secrets. -/
theorem secrets_hidden_iff (parts : List Attribute) :
    (Hides parts ↔ ∀ part ∈ parts, Sealed part) ∧
    ((Hides parts ∧ Redacts parts) ↔ ∀ part ∈ parts, Harmless part) ∧
    ∀ parts', SameOutside parts parts' → (∀ part ∈ parts, Sealed part) →
      (∀ part ∈ parts', Sealed part) →
        sanitizeConnectionString (connectionString parts) =
            sanitizeConnectionString (connectionString parts') ∧
          (∀ (logger : AuditLogger) now connectionId,
            logger.logConnection now connectionId (connectionString parts) =
              logger.logConnection now connectionId (connectionString parts')) ∧
          ∀ action, connectionMessage action (connectionString parts) =
            connectionMessage action (connectionString parts') := by
  refine ⟨hides_iff parts, ?_, fun parts' outside sealed sealed' => ?_⟩
  · rw [hides_iff, redacts_iff, and_iff_right_iff_imp]
    exact fun harmless part inside => harmless_sealed (harmless part inside)
  · have same : sanitizeConnectionString (connectionString parts) =
        sanitizeConnectionString (connectionString parts') := by
      rw [(sanitize_eq_redacted_iff parts).mpr sealed, outside,
        (sanitize_eq_redacted_iff parts').mpr sealed']
    refine ⟨same, fun logger now connectionId => ?_, fun action => ?_⟩
    · simp only [AuditLogger.logConnection, same]
    · exact congrArg (fun shown => "Connection ".toList ++ action ++ ": ".toList ++ shown) same

def pwd : AttributeKey := ⟨"PWD".toList, List.all_eq_true.mp (by decide)⟩

/-- Behind a doubled closing brace a semicolon gives the rest of a password away. -/
theorem password_tail_shown : ¬ ∀ parts parts', SameOutside parts parts' →
    sanitizeConnectionString (connectionString parts) =
      sanitizeConnectionString (connectionString parts') := by
  intro hidden
  have same := hidden [.assigned pwd (.braced "a\x7d;b".toList)] [.assigned pwd stars]
    (by decide)
  exact absurd same (by decide)

/-! ## Statements in logs -/

section

open Wire

/-- A part of a statement as the log tells them apart, and a byte of what is left. -/
inductive SqlPart where
  | plain (byte : UInt8)
  | number (first : UInt8) (more : Bytes)
  | literal (content : Bytes)
  /-- A literal without an end takes all that is behind it. -/
  | unclosed (content : Bytes)

namespace SqlPart

/-- The content of a literal as it is written. -/
def doubled (content : Bytes) : Bytes :=
  content.flatMap fun b => if b = 0x27 then [0x27, 0x27] else [b]

/-- The parts of a text. No number and no literal goes on behind its end. -/
inductive Cuts : List SqlPart → Bytes → Prop
  | nil : Cuts [] []
  | plain {byte : UInt8} {parts : List SqlPart} {back : Bytes} (noQuote : byte ≠ 0x27)
      (noDigit : isDigitByte byte = false) (rest : Cuts parts back) :
      Cuts (.plain byte :: parts) (byte :: back)
  | number {first : UInt8} {more back : Bytes} {parts : List SqlPart}
      (digit : isDigitByte first = true) (goesOn : ∀ b ∈ more, isNumberByte b = true)
      (ends : back.dropWhile isNumberByte = back) (rest : Cuts parts back) :
      Cuts (.number first more :: parts) (first :: (more ++ back))
  | literal {content back : Bytes} {parts : List SqlPart} (ends : back.head? ≠ some 0x27)
      (rest : Cuts parts back) :
      Cuts (.literal content :: parts) (0x27 :: (doubled content ++ 0x27 :: back))
  | unclosed (content : Bytes) : Cuts [.unclosed content] (0x27 :: doubled content)

/-- What is logged of a part. -/
def shown : SqlPart → Char
  | .plain byte => Char.ofNat byte.toNat
  | .number _ _ | .literal _ | .unclosed _ => '?'

theorem doubled_cons (b : UInt8) (content : Bytes) :
    doubled (b :: content) = (if b = 0x27 then [0x27, 0x27] else [b]) ++ doubled content :=
  List.flatMap_cons

theorem skipLiteral_cons {b : UInt8} (other : b ≠ 0x27) (rest : Bytes) :
    skipLiteral (b :: rest) = skipLiteral rest := by
  cases rest with
  | nil => rfl
  | cons c rest => rw [skipLiteral, if_neg other]

theorem skipLiteral_doubled (content : Bytes) {back : Bytes} (ends : back.head? ≠ some 0x27) :
    skipLiteral (doubled content ++ 0x27 :: back) = back := by
  induction content with
  | nil =>
      cases back with
      | nil => rfl
      | cons c back =>
          have other : c ≠ 0x27 := fun same => ends (congrArg some same)
          show skipLiteral (0x27 :: c :: back) = c :: back
          rw [skipLiteral, if_pos rfl, if_neg other]
  | cons b content ih =>
      rw [doubled_cons, List.append_assoc]
      split_ifs with quote
      · show skipLiteral (0x27 :: 0x27 :: (doubled content ++ 0x27 :: back)) = back
        rw [skipLiteral, if_pos rfl, if_pos rfl, ih]
      · rw [List.singleton_append, skipLiteral_cons quote, ih]

theorem skipLiteral_unclosed (content : Bytes) : skipLiteral (doubled content) = [] := by
  induction content with
  | nil => rfl
  | cons b content ih =>
      rw [doubled_cons]
      split_ifs with quote
      · show skipLiteral (0x27 :: 0x27 :: doubled content) = []
        rw [skipLiteral, if_pos rfl, if_pos rfl, ih]
      · rw [List.singleton_append, skipLiteral_cons quote, ih]

/-- What stands behind an apostrophe is a literal with or without an end. -/
theorem exists_doubled (rest : Bytes) :
    (∃ content back, rest = doubled content ++ 0x27 :: back ∧ back.head? ≠ some 0x27) ∨
      ∃ content, rest = doubled content := by
  induction rest using skipLiteral.induct with
  | case1 => exact .inr ⟨[], rfl⟩
  | case2 b =>
      by_cases quote : b = 0x27
      · exact .inl ⟨[], [], by rw [quote]; rfl, by simp⟩
      · exact .inr ⟨[b], by rw [doubled_cons, if_neg quote]; rfl⟩
  | case3 rest ih =>
      rcases ih with ⟨content, back, rfl, ends⟩ | ⟨content, rfl⟩
      · exact .inl ⟨0x27 :: content, back, rfl, ends⟩
      · exact .inr ⟨0x27 :: content, rfl⟩
  | case4 c rest other =>
      exact .inl ⟨[], c :: rest, rfl, fun same => other (Option.some.inj same)⟩
  | case5 b c rest other ih =>
      rcases ih with ⟨content, back, same, ends⟩ | ⟨content, same⟩
      · refine .inl ⟨b :: content, back, ?_, ends⟩
        rw [doubled_cons, if_neg other, same]
        rfl
      · refine .inr ⟨b :: content, ?_⟩
        rw [doubled_cons, if_neg other, same]
        rfl

/-- A log shows the parts of a statement, however it is cut. -/
theorem Cuts.sanitize_eq {parts : List SqlPart} {text : Bytes} (cuts : Cuts parts text) :
    sanitizeSqlBytes text = parts.map shown := by
  induction cuts with
  | nil => rw [sanitizeSqlBytes]; rfl
  | @plain byte parts back noQuote noDigit _ ih =>
      rw [sanitizeSqlBytes, if_neg noQuote, if_neg (Bool.eq_false_iff.mp noDigit), ih]
      rfl
  | @number first more back parts digit goesOn ends _ ih =>
      have noQuote : first ≠ 0x27 := by
        rintro rfl
        cases digit
      rw [sanitizeSqlBytes, if_neg noQuote, if_pos digit, List.dropWhile_append_of_pos goesOn, ends,
        ih]
      rfl
  | @literal content back parts ends _ ih =>
      rw [sanitizeSqlBytes, if_pos rfl, skipLiteral_doubled content ends, ih]
      rfl
  | unclosed content =>
      rw [sanitizeSqlBytes, if_pos rfl, skipLiteral_unclosed, sanitizeSqlBytes]
      rfl

theorem exists_cuts (text : Bytes) : ∃ parts, Cuts parts text := by
  induction text using sanitizeSqlBytes.induct with
  | case1 => exact ⟨[], .nil⟩
  | case2 rest ih =>
      rcases exists_doubled rest with ⟨content, back, rfl, ends⟩ | ⟨content, rfl⟩
      · rw [skipLiteral_doubled content ends] at ih
        obtain ⟨parts, cuts⟩ := ih
        exact ⟨_, .literal ends cuts⟩
      · exact ⟨_, .unclosed content⟩
  | case3 b rest noQuote digit ih =>
      obtain ⟨parts, cuts⟩ := ih
      have goesOn : ∀ c ∈ rest.takeWhile isNumberByte, isNumberByte c = true :=
        fun c inside => List.mem_takeWhile_imp inside
      have numbered := Cuts.number digit goesOn (List.dropWhile_idempotent _ rest) cuts
      rw [List.takeWhile_append_dropWhile] at numbered
      exact ⟨_, numbered⟩
  | case4 b rest noQuote noDigit ih =>
      obtain ⟨parts, cuts⟩ := ih
      exact ⟨_, .plain noQuote (Bool.eq_false_iff.mpr noDigit) cuts⟩

theorem harmless_byte : ∀ n < 256, n ≠ 0x27 → ¬ (0x30 ≤ n ∧ n ≤ 0x39) →
    (Char.ofNat n).toNat ≠ 0x27 ∧ (Char.ofNat n).isDigit = false := by
  decide +kernel

/-- Neither an apostrophe nor a digit is pushed. -/
theorem Cuts.harmless {parts : List SqlPart} {text : Bytes} (cuts : Cuts parts text) :
    ∀ c ∈ parts.map shown, c.toNat ≠ 0x27 ∧ c.isDigit = false := by
  have mark : ('?' : Char).toNat ≠ 0x27 ∧ ('?' : Char).isDigit = false := by decide
  induction cuts with
  | nil => rintro _ ⟨⟩
  | @plain byte parts back noQuote noDigit _ ih =>
      rw [List.map_cons, List.forall_mem_cons]
      refine ⟨harmless_byte _ byte.toNat_lt (fun same => ?_) fun digit => ?_, ih⟩
      · exact noQuote (UInt8.toNat_inj.mp same)
      · have listed : isDigitByte byte = true := decide_eq_true
          ⟨UInt8.le_iff_toNat_le.mpr digit.1, UInt8.le_iff_toNat_le.mpr digit.2⟩
        cases listed.symm.trans noDigit
  | number _ _ _ _ ih | literal _ _ ih =>
      rw [List.map_cons, List.forall_mem_cons]
      exact ⟨mark, ih⟩
  | unclosed content =>
      rw [List.map_singleton, List.forall_mem_singleton]
      exact mark

end SqlPart

/-- However a statement is cut into literals, numbers and other bytes, the log shows a question
mark for each of the first two and no digit and no apostrophe; so statements that differ in them
only are logged alike. -/
theorem statement_log_hides {logRawSql : Option String} (hidden : logRawSql ≠ some "1")
    (sql : String) :
    (∃ parts, SqlPart.Cuts parts (utf8Bytes sql)) ∧
      ∀ parts, SqlPart.Cuts parts (utf8Bytes sql) →
        sanitizeSqlForLog logRawSql sql = String.ofList (parts.map SqlPart.shown) ∧
        (∀ c ∈ parts.map SqlPart.shown, c.toNat ≠ 0x27 ∧ c.isDigit = false) ∧
        ∀ (sql' : String) (parts' : List SqlPart), SqlPart.Cuts parts' (utf8Bytes sql') →
          parts'.map SqlPart.shown = parts.map SqlPart.shown → ∀ metadata,
            queryMessage logRawSql sql' metadata = queryMessage logRawSql sql metadata := by
  refine ⟨SqlPart.exists_cuts _, fun parts cuts => ?_⟩
  have logged {text : String} {parts : List SqlPart} (cuts : SqlPart.Cuts parts (utf8Bytes text)) :
      sanitizeSqlForLog logRawSql text = String.ofList (parts.map SqlPart.shown) := by
    rw [sanitizeSqlForLog, if_neg hidden, cuts.sanitize_eq]
  refine ⟨logged cuts, cuts.harmless, fun sql' parts' cuts' same metadata => ?_⟩
  rw [queryMessage, queryMessage, logged cuts, logged cuts', same]

/-- Two names, one with an apostrophe. -/
theorem statement_log_hides_name :
    queryMessage none "a='c''d'" [("ms", "3")] = queryMessage none "a='b'" [("ms", "3")] := by
  have long : SqlPart.Cuts [.plain 0x61, .plain 0x3d, .literal [0x63, 0x27, 0x64]]
      (utf8Bytes "a='c''d'") :=
    .plain (by decide) rfl (.plain (by decide) rfl (.literal (by decide) .nil))
  have short : SqlPart.Cuts [.plain 0x61, .plain 0x3d, .literal [0x62]] (utf8Bytes "a='b'") :=
    .plain (by decide) rfl (.plain (by decide) rfl (.literal (by decide) .nil))
  exact ((statement_log_hides (by decide : none ≠ some "1") "a='b'").2 _ short).2.2 _ _ long rfl _

end

end OdbcFast.Verification
