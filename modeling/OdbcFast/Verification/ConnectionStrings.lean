import OdbcFast.Dart.ConnectionStringBuilder
import OdbcFast.Verification.PoolStrings

/-!
# Attributes that read back

The builder writes values as they are, so a value is read back exactly if the reader finds its end
where the builder has put it. The reader cuts at semicolons that are in no braces. What shows
secrets as stars knows braces only around a whole value, and only up to the first closing one.
-/

namespace OdbcFast.Verification

open Wire OdbcFast.Native OdbcFast.Native.Sanitize OdbcFast.Dart

/-! ## What was set and what is read -/

/-- An attribute, if it was set. -/
def assign (key : List Char) (value : Option (List Char)) : List (List Char × List Char) :=
  value.toList.map (key, ·)

/-- The attributes that were set, in the order they are written in. -/
def setAttributes (builder : ConnectionStringBuilder) : List (List Char × List Char) :=
  (assign "Driver".toList builder.driver ++ assign "Server".toList builder.server ++
    assign "Port".toList (builder.port.map fun port => (toString port).toList) ++
    assign "Database".toList builder.database ++ assign "Uid".toList builder.uid) ++
  (assign "Pwd".toList builder.pwd ++
    (assign "Trusted_Connection".toList
        (if builder.trustedConnection then some "yes".toList else none) ++
      builder.options))

/-- A part is cut at its first equals sign. -/
def readAttribute (part : List Char) : List Char × Option (List Char) :=
  match splitOnceEquals part with
  | some (key, value) => (key, some value)
  | none => (part, none)

/-- The attributes in a connection string. Blank parts are none. -/
def readAttributes (text : List Char) : List (List Char × Option (List Char)) :=
  ((splitConnectionStringParts text).filter (trim · ≠ [])).map readAttribute

/-- What is shown of the string does not depend on the password. -/
def HidesPassword (builder : ConnectionStringBuilder) : Prop :=
  ∀ password, builder.pwd = some password →
    sanitizeConnectionString builder.build =
      sanitizeConnectionString { builder with pwd := some "***".toList }.build

def writtenPart (assigned : List Char × List Char) : List Char :=
  assigned.1 ++ '=' :: assigned.2

/-- Nothing is trimmed off the values, no key has an equals sign, and the reader finds no end but
those that the builder has put. -/
structure Writable (attributes : List (List Char × List Char)) : Prop where
  bare : ∀ assigned ∈ attributes, trimWith isTrimmed assigned.2 = assigned.2 ∧ assigned.2 ≠ []
  key : ∀ assigned ∈ attributes, '=' ∉ assigned.1
  right : ReadsRight (attributes.map writtenPart)

/-! ## What is written -/

/-- The parts of the attributes. -/
def writtenParts (attributes : List (List Char × List Char)) : List (List Char) :=
  attributes.flatMap fun assigned => ConnectionStringBuilder.add assigned.1 (some assigned.2)

theorem add_eq (key : List Char) (value : Option (List Char)) :
    ConnectionStringBuilder.add key value = writtenParts (assign key value) := by
  cases value with
  | none => rfl
  | some value => exact (List.append_nil _).symm

theorem writtenParts_append (front back : List (List Char × List Char)) :
    writtenParts (front ++ back) = writtenParts front ++ writtenParts back :=
  List.flatMap_append

theorem build_eq (builder : ConnectionStringBuilder) :
    builder.build = [';'].intercalate (writtenParts (setAttributes builder)) := by
  have trusted : writtenParts (assign "Trusted_Connection".toList
      (if builder.trustedConnection then some "yes".toList else none)) =
      if builder.trustedConnection then ["Trusted_Connection=yes".toList] else [] := by
    split_ifs <;> decide
  have options : writtenParts builder.options =
    builder.options.flatMap fun e => ConnectionStringBuilder.add e.1 (some e.2) := rfl
  simp only [ConnectionStringBuilder.build, setAttributes, writtenParts_append, trusted, options,
    add_eq, List.append_assoc]

/-! ## Reading back -/

variable {attributes : List (List Char × List Char)} {texts : List (List Char)}

theorem splitOnceEquals_eq_some_iff {text key value : List Char} :
    splitOnceEquals text = some (key, value) ↔ text = key ++ '=' :: value ∧ '=' ∉ key := by
  constructor
  · intro split
    by_cases member : '=' ∈ text
    · obtain ⟨key', value', rfl, noEquals⟩ := List.eq_append_cons_of_mem member
      rw [splitOnceEquals_append noEquals] at split
      obtain ⟨rfl, rfl⟩ := Prod.mk.inj (Option.some.inj split)
      exact ⟨rfl, noEquals⟩
    · rw [splitOnceEquals_eq_none member] at split
      cases split
  · rintro ⟨rfl, noEquals⟩
    exact splitOnceEquals_append noEquals value

/-- A part reads as an attribute exactly if it was written as that one. -/
theorem readAttribute_eq_iff {text key value : List Char} :
    readAttribute text = (key, some value) ↔ text = key ++ '=' :: value ∧ '=' ∉ key := by
  rw [← splitOnceEquals_eq_some_iff, readAttribute]
  cases splitOnceEquals text with
  | none =>
      refine ⟨fun read => ?_, fun split => ?_⟩
      · cases (Prod.mk.inj read).2
      · cases split
  | some pair =>
      obtain ⟨key', value'⟩ := pair
      simp only [Prod.mk.injEq, Option.some.injEq]

/-- How much room texts take, with a semicolon behind each. -/
def room (texts : List (List Char)) : Nat := (texts.map fun text => text.length + 1).sum

theorem room_cons (text : List Char) (texts : List (List Char)) :
    room (text :: texts) = text.length + 1 + room texts := List.sum_cons

theorem length_intercalate (nonempty : texts ≠ []) :
    ([';'].intercalate texts).length + 1 = room texts := by
  induction texts with
  | nil => cases nonempty rfl
  | cons text texts ih =>
      cases texts with
      | nil =>
          rw [List.intercalate_singleton]
          exact (Nat.add_zero _).symm
      | cons text' texts =>
          have rest := ih (List.cons_ne_nil _ _)
          rw [List.intercalate_cons_cons, List.length_append, List.length_append, room_cons, ← rest,
            List.length_singleton]
          omega

/-- Texts that are left out leave room. -/
theorem room_filter (keeps : List Char → Bool) (texts : List (List Char)) :
    room (texts.filter keeps) ≤ room texts ∧
      (room (texts.filter keeps) = room texts → texts.filter keeps = texts) := by
  induction texts with
  | nil => exact ⟨Nat.le_refl _, fun _ => rfl⟩
  | cons text texts ih =>
      by_cases keep : keeps text = true
      · rw [List.filter_cons_of_pos keep, room_cons, room_cons]
        refine ⟨by omega, fun same => ?_⟩
        rw [ih.2 (by omega)]
      · rw [List.filter_cons_of_neg keep, room_cons]
        exact ⟨by omega, fun same => by omega⟩

/-- What is trimmed off leaves room, too. -/
theorem room_writtenParts (attributes : List (List Char × List Char)) :
    room (writtenParts attributes) ≤ room (attributes.map writtenPart) ∧
      (room (writtenParts attributes) = room (attributes.map writtenPart) →
        ∀ assigned ∈ attributes,
          trimWith isTrimmed assigned.2 = assigned.2 ∧ assigned.2 ≠ []) := by
  induction attributes with
  | nil => exact ⟨Nat.le_refl _, fun _ => List.forall_mem_nil _⟩
  | cons assigned attributes ih =>
      have shorter := length_trimWith_le isTrimmed assigned.2
      have width : (writtenPart assigned).length = assigned.1.length + (assigned.2.length + 1) :=
        List.length_append
      rw [List.map_cons, room_cons, writtenParts, List.flatMap_cons, ← writtenParts, width]
      by_cases blank : trimWith isTrimmed assigned.2 = []
      · rw [ConnectionStringBuilder.add, if_pos blank, List.nil_append]
        exact ⟨by omega, fun same => by omega⟩
      · rw [ConnectionStringBuilder.add, if_neg blank, List.singleton_append, room_cons,
          List.length_append, List.length_cons]
        refine ⟨by omega, fun same => List.forall_mem_cons.mpr ⟨?_, ih.2 (by omega)⟩⟩
        have trimmed : trimWith isTrimmed assigned.2 = assigned.2 :=
          trimWith_of_length_le (by omega)
        rw [trimmed] at blank
        exact ⟨trimmed, blank⟩

/-- What was set and reads back was written as it is. -/
theorem writtenParts_of_bare
    (bare : ∀ assigned ∈ attributes,
      trimWith isTrimmed assigned.2 = assigned.2 ∧ assigned.2 ≠ []) :
    writtenParts attributes = attributes.map writtenPart := by
  induction attributes with
  | nil => rfl
  | cons assigned attributes ih =>
      obtain ⟨⟨trimmed, shows⟩, rest⟩ := List.forall_mem_cons.mp bare
      have added : ConnectionStringBuilder.add assigned.1 (some assigned.2) =
          [writtenPart assigned] := by
        rw [ConnectionStringBuilder.add]
        simp only [trimmed, if_neg shows, writtenPart]
      rw [writtenParts, List.flatMap_cons, added, List.map_cons, ← ih rest]
      rfl

theorem map_readAttribute_iff :
    texts.map readAttribute = attributes.map (fun assigned => (assigned.1, some assigned.2)) ↔
      texts = attributes.map writtenPart ∧ ∀ assigned ∈ attributes, '=' ∉ assigned.1 := by
  induction attributes generalizing texts with
  | nil =>
      rw [List.map_nil, List.map_nil, List.map_eq_nil_iff]
      exact (and_iff_left (List.forall_mem_nil _)).symm
  | cons assigned attributes ih =>
      cases texts with
      | nil =>
          refine iff_of_false ?_ ?_
          · rintro ⟨⟩
          · rintro ⟨⟨⟩, -⟩
      | cons text texts =>
          rw [List.map_cons, List.map_cons, List.map_cons, List.cons_eq_cons, List.cons_eq_cons,
            readAttribute_eq_iff, ih, List.forall_mem_cons]
          exact and_and_and_comm

/-- A part that has been written is not blank. -/
theorem shows_writtenPart (assigned : List Char × List Char) :
    trim (writtenPart assigned) ≠ [] := by
  intro blank
  have equals : '=' ∈ writtenPart assigned :=
    List.mem_append_right _ List.mem_cons_self
  cases trimWith_eq_nil_iff.mp blank '=' equals

theorem readAttributes_iff (attributes : List (List Char × List Char)) :
    readAttributes ([';'].intercalate (writtenParts attributes)) =
      attributes.map (fun assigned => (assigned.1, some assigned.2)) ↔ Writable attributes := by
  constructor
  · intro read
    obtain ⟨kept, key⟩ := map_readAttribute_iff.mp read
    obtain ⟨right, whole⟩ := @splitParts_spec 0 [] rfl ([';'].intercalate (writtenParts attributes))
    change ReadsRight (splitConnectionStringParts _) at right
    change [';'].intercalate (splitConnectionStringParts _) = _ at whole
    generalize splitConnectionStringParts ([';'].intercalate (writtenParts attributes)) = split at *
    rw [List.nil_append] at whole
    rcases eq_or_ne attributes [] with rfl | some
    · exact ⟨List.forall_mem_nil _, List.forall_mem_nil _, trivial⟩
    obtain ⟨narrow, all⟩ := room_filter (trim · ≠ []) split
    obtain ⟨narrow', bare⟩ := room_writtenParts attributes
    rw [kept] at narrow all
    have some' : split ≠ [] := by
      rintro rfl
      exact some (List.map_eq_nil_iff.mp kept.symm)
    have same : room split ≤ room (writtenParts attributes) := by
      rw [← length_intercalate some', whole]
      rcases eq_or_ne (writtenParts attributes) [] with nothing | written
      · -- no text has room for an attribute then
        obtain ⟨assigned, others, rfl⟩ := List.exists_cons_of_ne_nil some
        have width : (writtenPart assigned).length = assigned.1.length + (assigned.2.length + 1) :=
          List.length_append
        rw [← length_intercalate some', whole, nothing, List.map_cons, room_cons, width] at narrow
        change _ ≤ 0 + 1 at narrow
        omega
      · exact Nat.le_of_eq (length_intercalate written)
    have stays := all (by omega)
    rw [← stays] at right
    exact ⟨bare (by omega), key, right⟩
  · rintro ⟨bare, key, right⟩
    refine map_readAttribute_iff.mpr ⟨?_, key⟩
    rw [writtenParts_of_bare bare]
    rcases eq_or_ne attributes [] with rfl | some
    · decide
    obtain ⟨assigned, attributes, rfl⟩ := List.exists_cons_of_ne_nil some
    rw [List.map_cons, split_intercalate right, List.filter_eq_self]
    intro text member
    rw [← List.map_cons] at member
    obtain ⟨assigned', -, rfl⟩ := List.mem_map.mp member
    exact decide_eq_true (shows_writtenPart assigned')

/-! ## What is shown -/

variable {text more : List Char} {depth depth' : Nat}

theorem takeWhile_separated {p : Char → Bool} {c : Char} (stops : p c = false)
    (text more : List Char) :
    (text ++ c :: more).takeWhile p = text.takeWhile p ∧
      (text ++ c :: more).dropWhile p = text.dropWhile p ++ c :: more := by
  induction text with
  | nil =>
      rw [List.nil_append, List.takeWhile_cons_of_neg (by simp [stops]),
        List.dropWhile_cons_of_neg (by simp [stops])]
      exact ⟨rfl, rfl⟩
  | cons c' text ih =>
      rw [List.cons_append]
      by_cases keep : p c' = true
      · rw [List.takeWhile_cons_of_pos keep, List.takeWhile_cons_of_pos keep,
          List.dropWhile_cons_of_pos keep, List.dropWhile_cons_of_pos keep, ih.1, ih.2]
        exact ⟨rfl, rfl⟩
      · rw [List.takeWhile_cons_of_neg keep, List.takeWhile_cons_of_neg keep,
          List.dropWhile_cons_of_neg keep, List.dropWhile_cons_of_neg keep]
        exact ⟨rfl, rfl⟩

/-- An open brace stays open without a closing one. -/
theorem closing_mem_of_scanned (opened : 0 < depth) (scanned : scanDepth depth text = some 0) :
    '}' ∈ text := by
  by_contra none
  have stays : ∀ {text : List Char} {depth : Nat}, '}' ∉ text → 0 < depth →
      ∀ depth', scanDepth depth text = some depth' → 0 < depth' := by
    intro text
    induction text with
    | nil =>
        rintro depth - positive depth' ⟨⟩
        exact positive
    | cons ch rest ih =>
        intro depth none positive depth' scanned
        rw [List.mem_cons, not_or] at none
        rw [scanDepth, if_neg (Ne.symm none.1)] at scanned
        split_ifs at scanned
        · have opened : 0 < braceDepthBehind depth :=
            Nat.lt_min.mpr ⟨Nat.succ_pos depth, by decide⟩
          exact ih none.2 opened depth' scanned
        · exact ih none.2 positive depth' scanned
  exact Nat.lt_irrefl 0 (stays none opened 0 scanned)

/-- A semicolon inside a text that is read right is not its end. -/
theorem scanned_behind {front : List Char}
    (scanned : scanDepth depth (front ++ ';' :: text) = some 0) :
    text ≠ [] ∧ ∃ depth', scanDepth depth' text = some 0 := by
  rw [scanDepth_append] at scanned
  obtain ⟨depth', -, behind⟩ := Option.bind_eq_some_iff.mp scanned
  rw [scanDepth, if_neg (by decide), if_neg (by decide)] at behind
  split_ifs at behind with outside
  refine ⟨?_, depth', behind⟩
  rintro rfl
  obtain rfl := Option.some.inj behind
  exact outside ⟨rfl, rfl⟩

theorem readValue_of_plain (plain : text.head? ≠ some '{') :
    readValue text = (text.takeWhile isValueChar, text.dropWhile isValueChar) := by
  unfold readValue
  split
  · exact absurd rfl plain
  · rfl

theorem readValue_of_braced {inner : List Char} (open' : '}' ∉ inner) (trailing : List Char) :
    readValue ('{' :: (inner ++ '}' :: trailing)) =
      ('{' :: (inner ++ '}' :: trailing.takeWhile isValueChar),
        trailing.dropWhile isValueChar) := by
  have all : ∀ c ∈ inner, isBraced c = true := by
    intro c member
    refine bne_iff_ne.mpr ?_
    rintro rfl
    exact open' member
  have stops : ∀ c ∈ ('}' :: trailing).head?, isBraced c = false := by
    intro c head
    cases head
    rfl
  simp only [readValue, dropWhile_stops all stops, takeWhile_stops all stops]

/-- How a value is read that is read right. -/
theorem readValue_cases (scanned : scanDepth depth text = some 0) :
    text.head? ≠ some '{' ∨ ∃ inner trailing, text = '{' :: (inner ++ '}' :: trailing) ∧
      '}' ∉ inner := by
  by_cases braced : text.head? = some '{'
  · obtain ⟨rest, rfl⟩ := List.head?_eq_some_iff.mp braced
    rw [scanDepth, if_pos rfl] at scanned
    have opened : 0 < braceDepthBehind depth := Nat.lt_min.mpr ⟨Nat.succ_pos depth, by decide⟩
    obtain ⟨inner, trailing, rfl, open'⟩ :=
      List.eq_append_cons_of_mem (closing_mem_of_scanned opened scanned)
    exact .inr ⟨inner, trailing, rfl, open'⟩
  · exact .inl braced

/-- It is read as if nothing came behind it. -/
theorem readValue_separated (scanned : scanDepth depth text = some 0) (more : List Char) :
    readValue (text ++ ';' :: more) = ((readValue text).1, (readValue text).2 ++ ';' :: more) := by
  obtain plain | ⟨inner, trailing, rfl, open'⟩ := readValue_cases scanned
  · have plain' : (text ++ ';' :: more).head? ≠ some '{' := by
      cases text with
      | nil => exact fun head => absurd (Option.some.inj head) (by decide)
      | cons c text => exact plain
    obtain ⟨taken, left⟩ := takeWhile_separated (p := isValueChar) (c := ';') rfl text more
    rw [readValue_of_plain plain, readValue_of_plain plain', taken, left]
  · obtain ⟨taken, left⟩ := takeWhile_separated (p := isValueChar) (c := ';') rfl trailing more
    rw [List.cons_append, List.append_assoc, List.cons_append, readValue_of_braced open',
      readValue_of_braced open', taken, left]

/-- What is left is nothing, or it is behind a semicolon and read right. -/
theorem readValue_rest (scanned : scanDepth depth text = some 0) :
    (readValue text).2 = [] ∨ ∃ rest depth', (readValue text).2 = ';' :: rest ∧ rest ≠ [] ∧
      scanDepth depth' rest = some 0 := by
  have split : (readValue text).1 ++ (readValue text).2 = text ∧ Stops (readValue text).2 := by
    obtain plain | ⟨inner, trailing, rfl, open'⟩ := readValue_cases scanned
    · rw [readValue_of_plain plain]
      exact ⟨List.takeWhile_append_dropWhile, stops_dropWhile text⟩
    · rw [readValue_of_braced open']
      refine ⟨?_, stops_dropWhile trailing⟩
      rw [List.cons_append, List.append_assoc, List.cons_append, List.takeWhile_append_dropWhile]
  obtain ⟨whole, nothing | ⟨rest, behind⟩⟩ := split
  · exact .inl nothing
  · rw [← whole, behind] at scanned
    obtain ⟨shows, depth', scanned'⟩ := scanned_behind scanned
    exact .inr ⟨rest, depth', behind, shows, scanned'⟩

theorem readEntry_of_end (behind : text.dropWhile isKeyChar = []) :
    readEntry text = (⟨text.takeWhile isKeyChar, none⟩, []) := by
  rw [readEntry, behind]
  rfl

theorem readEntry_of_bare {rest : List Char} (behind : text.dropWhile isKeyChar = ';' :: rest) :
    readEntry text = (⟨text.takeWhile isKeyChar, none⟩, rest) := by
  rw [readEntry, behind]
  rfl

theorem readEntry_of_value {rest : List Char} (behind : text.dropWhile isKeyChar = '=' :: rest) :
    readEntry text =
      (⟨text.takeWhile isKeyChar, some (readValue rest).1⟩, (readValue rest).2.drop 1) := by
  rw [readEntry, behind]
  rfl

/-- One turn over a text that is read right, with more behind it. -/
theorem readEntry_separated (scanned : scanDepth depth text = some 0) (more : List Char) :
    (readEntry text).2 = [] ∧ readEntry (text ++ ';' :: more) = ((readEntry text).1, more) ∨
      (readEntry text).2 ≠ [] ∧ (∃ depth', scanDepth depth' (readEntry text).2 = some 0) ∧
        readEntry (text ++ ';' :: more) =
          ((readEntry text).1, (readEntry text).2 ++ ';' :: more) := by
  obtain ⟨taken, left⟩ := takeWhile_separated (p := isKeyChar) (c := ';') rfl text more
  have whole := List.takeWhile_append_dropWhile (p := isKeyChar) (l := text)
  cases behind : text.dropWhile isKeyChar with
  | nil =>
      rw [behind, List.nil_append] at left
      rw [readEntry_of_end behind, readEntry_of_bare left, taken]
      exact .inl ⟨rfl, rfl⟩
  | cons c rest =>
      rw [behind, List.cons_append] at left
      rw [behind] at whole
      have ends := List.head?_dropWhile_not isKeyChar text
      rw [behind] at ends
      have separator : c = '=' ∨ c = ';' := by
        simpa [isKeyChar, Classical.or_iff_not_imp_left] using ends
      rw [← whole] at scanned
      obtain rfl | rfl := separator
      · -- a value
        rw [scanDepth_append] at scanned
        obtain ⟨depth', -, scanned'⟩ := Option.bind_eq_some_iff.mp scanned
        have inside : ¬ ('=' = ';' ∧ depth' = 0) := fun both => absurd both.1 (by decide)
        rw [scanDepth, if_neg (by decide), if_neg (by decide), if_neg inside] at scanned'
        rw [readEntry_of_value behind, readEntry_of_value left, taken,
          readValue_separated scanned' more]
        obtain nothing | ⟨rest', depth'', behind', shows, scanned''⟩ := readValue_rest scanned'
        · rw [nothing]
          exact .inl ⟨rfl, rfl⟩
        · rw [behind']
          exact .inr ⟨shows, ⟨depth'', scanned''⟩, rfl⟩
      · -- a bare token
        obtain ⟨shows, depth', scanned'⟩ := scanned_behind scanned
        rw [readEntry_of_bare behind, readEntry_of_bare left, taken]
        exact .inr ⟨shows, ⟨depth', scanned'⟩, rfl⟩

/-- The entries of a text that is read right and those behind it. -/
theorem entries_separated (scanned : scanDepth depth text = some 0) (shows : text ≠ [])
    (more : List Char) : entries (text ++ ';' :: more) = entries text ++ entries more := by
  induction size : text.length using Nat.strong_induction_on generalizing text depth with
  | _ length ih =>
      have shorter := length_readEntry shows
      have shows' : text ++ ';' :: more ≠ [] := List.append_ne_nil_of_left_ne_nil shows _
      rw [entries_of_ne_nil shows, entries_of_ne_nil shows', List.cons_append]
      rw [size] at shorter
      obtain ⟨nothing, read⟩ | ⟨shows'', ⟨depth', scanned'⟩, read⟩ :=
        readEntry_separated scanned more
      · rw [read, nothing, entries_nil, List.nil_append]
      · rw [read, ih _ shorter scanned' shows'' rfl]

theorem sanitize_separated (scanned : scanDepth 0 text = some 0) (shows : text ≠ [])
    (shows' : more ≠ []) :
    sanitizeConnectionString (text ++ ';' :: more) =
      sanitizeConnectionString text ++ ';' :: sanitizeConnectionString more := by
  have some {text : List Char} (shows : text ≠ []) :
      (entries text).map Entry.masked ≠ [] := by
    rw [entries_of_ne_nil shows]
    exact List.cons_ne_nil _ _
  rw [sanitizeConnectionString, entries_separated scanned shows, List.map_append,
    Entry.join_append (some shows) (some shows')]
  rfl

theorem join_cons (nonempty : texts ≠ []) (text : List Char) :
    [';'].intercalate (text :: texts) = text ++ ';' :: [';'].intercalate texts := by
  obtain ⟨text', texts, rfl⟩ := List.exists_cons_of_ne_nil nonempty
  rw [List.intercalate_cons_cons, List.append_assoc, List.singleton_append]

theorem intercalate_ne_nil (nonempty : texts ≠ []) (shows : ∀ text ∈ texts, text ≠ []) :
    [';'].intercalate texts ≠ [] := by
  obtain ⟨text, texts, rfl⟩ := List.exists_cons_of_ne_nil nonempty
  have width := length_intercalate nonempty
  have positive := List.length_pos_iff.mpr (shows text List.mem_cons_self)
  rw [room_cons] at width
  exact List.ne_nil_of_length_pos (by omega)

/-- Texts that are read right are shown one by one. -/
theorem sanitize_intercalate (right : ReadsRight texts) (shows : ∀ text ∈ texts, text ≠ []) :
    sanitizeConnectionString ([';'].intercalate texts) =
      [';'].intercalate (texts.map sanitizeConnectionString) := by
  induction texts with
  | nil => rfl
  | cons text texts ih =>
      rcases eq_or_ne texts [] with rfl | nonempty
      · rw [List.intercalate_singleton, List.map_singleton, List.intercalate_singleton]
      · obtain ⟨shows', rest⟩ := List.forall_mem_cons.mp shows
        have closed : scanDepth 0 text = some 0 := by
          obtain ⟨text', texts, rfl⟩ := List.exists_cons_of_ne_nil nonempty
          exact right.1
        have nonempty' : texts.map sanitizeConnectionString ≠ [] :=
          fun nothing => nonempty (List.map_eq_nil_iff.mp nothing)
        rw [join_cons nonempty, List.map_cons, join_cons nonempty',
          sanitize_separated closed shows' (intercalate_ne_nil nonempty rest), ih right.tail rest]

/-! ## The password -/

/-- One text among others, where it is exchanged. -/
theorem exists_intercalate (front back : List (List Char)) :
    ∃ left right, ∀ text, [';'].intercalate (front ++ text :: back) = left ++ text ++ right := by
  induction front with
  | nil =>
      rcases eq_or_ne back [] with rfl | nonempty
      · refine ⟨[], [], fun text => ?_⟩
        rw [List.nil_append, List.intercalate_singleton, List.nil_append, List.append_nil]
      · refine ⟨[], ';' :: [';'].intercalate back, fun text => ?_⟩
        rw [List.nil_append, join_cons nonempty, List.nil_append]
  | cons first front ih =>
      obtain ⟨left, right, exchanged⟩ := ih
      refine ⟨first ++ ';' :: left, right, fun text => ?_⟩
      have nonempty : front ++ text :: back ≠ [] :=
        List.append_ne_nil_of_right_ne_nil front (List.cons_ne_nil text back)
      rw [List.cons_append, join_cons nonempty, exchanged, List.append_assoc,
        List.append_assoc, List.append_assoc, List.cons_append]

theorem intercalate_exchange_iff {front back : List (List Char)} {text text' : List Char} :
    [';'].intercalate (front ++ text :: back) = [';'].intercalate (front ++ text' :: back) ↔
      text = text' := by
  obtain ⟨left, right, exchanged⟩ := exists_intercalate front back
  rw [exchanged, exchanged]
  exact List.append_left_inj _ |>.trans (List.append_right_inj _)

/-- A text that is closed may stand for any other. -/
theorem ReadsRight.exchange {front back : List (List Char)} {text text' : List Char}
    (right : ReadsRight (front ++ text :: back)) (closed : scanDepth 0 text' = some 0) :
    ReadsRight (front ++ text' :: back) := by
  induction front with
  | nil => exact readsRight_cons closed right.tail
  | cons first front ih =>
      have nonempty : front ++ text :: back ≠ [] :=
        List.append_ne_nil_of_right_ne_nil front (List.cons_ne_nil text back)
      obtain ⟨second, others, whole⟩ := List.exists_cons_of_ne_nil nonempty
      rw [List.cons_append, whole] at right
      refine readsRight_cons right.1 (ih ?_)
      rw [whole]
      exact right.2

/-- The whole password is read as the value: there is at most a semicolon behind it. -/
def PasswordReadWhole (password : List Char) : Prop := (readValue password).2.drop 1 = []

/-- The stars stand for the whole password exactly if it is read whole. -/
theorem sanitize_pwd_iff (password : List Char) :
    sanitizeConnectionString (writtenPart ("Pwd".toList, password)) =
        sanitizeConnectionString (writtenPart ("Pwd".toList, "***".toList)) ↔
      PasswordReadWhole password := by
  have key : ∀ c ∈ "Pwd".toList, isKeyChar c = true := List.all_eq_true.mp (by decide)
  have secret : isSecretKey "Pwd".toList = true := by decide
  have ends (value : List Char) : ∀ c ∈ ('=' :: value).head?, isKeyChar c = false := by
    intro c head
    cases head
    rfl
  have read (value : List Char) : readEntry (writtenPart ("Pwd".toList, value)) =
      (⟨"Pwd".toList, some (readValue value).1⟩, (readValue value).2.drop 1) := by
    have taken := takeWhile_stops key (ends value)
    rw [writtenPart, readEntry_of_value (dropWhile_stops key (ends value)), taken]
  have shows (value : List Char) : writtenPart ("Pwd".toList, value) ≠ [] :=
    List.append_ne_nil_of_right_ne_nil _ (List.cons_ne_nil _ _)
  have masked (value : List Char) :
      (entries (writtenPart ("Pwd".toList, value))).map Entry.masked =
        ⟨"Pwd".toList, some "***".toList⟩ ::
          (entries ((readValue value).2.drop 1)).map Entry.masked := by
    rw [entries_of_ne_nil (shows value), read, List.map_cons, Entry.masked_secret secret]
  have stars : (readValue "***".toList).2.drop 1 = [] := by decide
  rw [sanitizeConnectionString, sanitizeConnectionString, masked, masked, stars, PasswordReadWhole]
  constructor
  · intro same
    by_contra more
    rw [entries_of_ne_nil more, entries_nil, List.map_nil, List.map_cons, Entry.join_cons_cons,
      Entry.join_singleton] at same
    cases List.append_right_eq_self.mp same
  · intro whole
    rw [whole]

theorem exists_setAttributes {builder : ConnectionStringBuilder} {password : List Char}
    (known : builder.pwd = some password) : ∃ front back,
      setAttributes builder = front ++ ("Pwd".toList, password) :: back ∧
      setAttributes { builder with pwd := some "***".toList } =
        front ++ ("Pwd".toList, "***".toList) :: back := by
  refine ⟨_, _, ?_, rfl⟩
  rw [setAttributes, known]
  rfl

theorem sanitize_written {attributes : List (List Char × List Char)}
    (writable : Writable attributes) :
    sanitizeConnectionString ([';'].intercalate (writtenParts attributes)) =
      [';'].intercalate (attributes.map fun assigned =>
        sanitizeConnectionString (writtenPart assigned)) := by
  have shows : ∀ text ∈ attributes.map writtenPart, text ≠ [] := by
    intro text member
    obtain ⟨assigned, -, rfl⟩ := List.mem_map.mp member
    exact List.append_ne_nil_of_right_ne_nil _ (List.cons_ne_nil _ _)
  rw [writtenParts_of_bare writable.bare, sanitize_intercalate writable.right shows, List.map_map]
  rfl

/-- Stars may stand for any value. -/
theorem Writable.exchange {front back : List (List Char × List Char)} {key value : List Char}
    (writable : Writable (front ++ (key, value) :: back))
    (closed : scanDepth 0 (writtenPart (key, "***".toList)) = some 0) :
    Writable (front ++ (key, "***".toList) :: back) := by
  obtain ⟨bare, noEquals, right⟩ := writable
  rw [List.forall_mem_append, List.forall_mem_cons] at bare noEquals
  rw [List.map_append, List.map_cons] at right
  refine ⟨?_, ?_, ?_⟩
  · have stars : trimWith isTrimmed "***".toList = "***".toList ∧ "***".toList ≠ [] := by decide
    rw [List.forall_mem_append, List.forall_mem_cons]
    exact ⟨bare.1, stars, bare.2.2⟩
  · rw [List.forall_mem_append, List.forall_mem_cons]
    exact noEquals
  · rw [List.map_append, List.map_cons]
    exact right.exchange closed

theorem hidesPassword_iff {builder : ConnectionStringBuilder}
    (writable : Writable (setAttributes builder)) :
    HidesPassword builder ↔
      ∀ password, builder.pwd = some password → PasswordReadWhole password := by
  refine forall_congr' fun password => imp_congr_right fun known => ?_
  obtain ⟨front, back, was, stars⟩ := exists_setAttributes known
  rw [was] at writable
  rw [build_eq, build_eq, was, stars, sanitize_written writable,
    sanitize_written (writable.exchange (by decide)), List.map_append, List.map_append,
    List.map_cons, List.map_cons, intercalate_exchange_iff, sanitize_pwd_iff]

/-- The attributes read back with their values and the password is hidden exactly if everything
is written where the readers look for it. -/
theorem builder_reads_back_iff (builder : ConnectionStringBuilder) :
    readAttributes builder.build =
        (setAttributes builder).map (fun assigned => (assigned.1, some assigned.2)) ∧
      HidesPassword builder ↔
    Writable (setAttributes builder) ∧
      ∀ password, builder.pwd = some password → PasswordReadWhole password := by
  rw [build_eq, readAttributes_iff]
  exact and_congr_right fun writable => hidesPassword_iff writable

/-- A password with a semicolon brings a server of its own. -/
theorem password_sets_server :
    ¬ ∀ builder : ConnectionStringBuilder, readAttributes builder.build =
        (setAttributes builder).map (fun assigned => (assigned.1, some assigned.2)) ∧
      HidesPassword builder := by
  intro always
  have read := (always { server := some "a".toList, pwd := some "p;Server=b".toList }).1
  exact absurd read (by decide)

end OdbcFast.Verification
