import Mathlib.Data.List.TakeWhile
import Mathlib.Tactic.Common

/-!
# Secrets in connection strings

A connection string is shown without the values of its secret attributes. The text is read from
left to right: a key up to an equals sign or a semicolon, then a value up to a semicolon. A value
that begins with a brace goes on at least up to the first closing brace.
-/

namespace OdbcFast.Native

def secretKeys : List String :=
  ["pwd", "password", "passwd", "secret", "token", "apikey", "api_key", "accesstoken",
    "access_token", "authorization", "auth", "sas", "sastoken", "sas_token", "connectionstring",
    "primarykey", "secondarykey"]

/-- `char::is_whitespace`. -/
def isWhitespace (c : Char) : Bool :=
  let code := c.toNat
  (9 ≤ code && code ≤ 13) || (0x2000 ≤ code && code ≤ 0x200A) ||
    code ∈ [0x20, 0x85, 0xA0, 0x1680, 0x2028, 0x2029, 0x202F, 0x205F, 0x3000]

/-- `str::trim`. -/
def trim (text : List Char) : List Char :=
  ((text.dropWhile isWhitespace).reverse.dropWhile isWhitespace).reverse

def isSecretKey (key : List Char) : Bool :=
  secretKeys.any fun secret => secret.toList = (trim key).map Char.toLower

namespace Sanitize

/-- What is read between two semicolons; a bare token has no value. -/
structure Entry where
  key : List Char
  value : Option (List Char)
  deriving DecidableEq, Repr

def isKeyChar (c : Char) : Bool := c != '=' && c != ';'

def isValueChar (c : Char) : Bool := c != ';'

def isBraced (c : Char) : Bool := c != '}'

/-- A value, and the text from the semicolon behind it. -/
def readValue : List Char → List Char × List Char
  | '{' :: text =>
    match text.dropWhile isBraced with
    | [] => ('{' :: text.takeWhile isBraced, [])
    | close :: trailing =>
      ('{' :: (text.takeWhile isBraced ++ close :: trailing.takeWhile isValueChar),
        trailing.dropWhile isValueChar)
  | text => (text.takeWhile isValueChar, text.dropWhile isValueChar)

/-- One turn of the loop: what it has read, and the text behind its semicolon. -/
def readEntry (text : List Char) : Entry × List Char :=
  match text.dropWhile isKeyChar with
  | '=' :: rest =>
    (⟨text.takeWhile isKeyChar, some (readValue rest).1⟩, (readValue rest).2.drop 1)
  | rest => (⟨text.takeWhile isKeyChar, none⟩, rest.drop 1)

def readEntries : Nat → List Char → List Entry
  | 0, _ => []
  | fuel + 1, text =>
    if text = [] then [] else (readEntry text).1 :: readEntries fuel (readEntry text).2

def entries (text : List Char) : List Entry := readEntries text.length text

/-- An entry as it was. -/
def Entry.raw (entry : Entry) : List Char :=
  entry.key ++ (entry.value.map ('=' :: ·)).getD []

/-- An entry as it is shown. -/
def Entry.masked (entry : Entry) : Entry :=
  if isSecretKey entry.key then { entry with value := entry.value.map fun _ => "***".toList }
  else entry

def Entry.join (entries : List Entry) : List Char :=
  [';'].intercalate (entries.map Entry.raw)

/-! ## What one turn reads -/

variable {text more : List Char}

theorem length_readValue (text : List Char) : (readValue text).2.length ≤ text.length := by
  have shorter : ∀ (p : Char → Bool) (text : List Char), (text.dropWhile p).length ≤ text.length :=
    fun p text => (List.dropWhile_sublist p).length_le
  unfold readValue
  split
  · next text =>
    split
    · exact Nat.zero_le _
    · next close trailing braced =>
      have inner := shorter isBraced text
      have outer := shorter isValueChar trailing
      rw [braced] at inner
      simp only [List.length_cons] at inner ⊢
      omega
  · exact shorter isValueChar _

/-- A turn reads something. -/
theorem length_readEntry (some : text ≠ []) : (readEntry text).2.length < text.length := by
  have whole := congrArg List.length (List.takeWhile_append_dropWhile (p := isKeyChar) (l := text))
  have positive := List.length_pos_iff.mpr some
  rw [List.length_append] at whole
  unfold readEntry
  split
  · next rest behind =>
    have shorter := length_readValue rest
    rw [behind, List.length_cons] at whole
    rw [List.length_drop]
    omega
  · rw [List.length_drop]
    omega

/-- Any fuel that covers the text reads it. -/
theorem readEntries_congr {fuel fuel' : Nat} (enough : text.length ≤ fuel)
    (enough' : text.length ≤ fuel') : readEntries fuel text = readEntries fuel' text := by
  induction fuel generalizing text fuel' with
  | zero =>
      rw [List.length_eq_zero_iff.mp (Nat.le_zero.mp enough)]
      cases fuel' <;> rfl
  | succ fuel ih =>
      by_cases none : text = []
      · subst none
        cases fuel' <;> rfl
      · obtain ⟨fuel', rfl⟩ := Nat.exists_eq_succ_of_ne_zero
          (Nat.ne_of_gt (Nat.lt_of_lt_of_le (List.length_pos_iff.mpr none) enough'))
        have shorter := length_readEntry none
        rw [readEntries, readEntries, if_neg none, if_neg none,
          @ih (readEntry text).2 fuel' (by omega) (by omega)]

theorem readEntries_eq {fuel : Nat} (enough : text.length ≤ fuel) :
    readEntries fuel text = entries text :=
  readEntries_congr enough (Nat.le_refl _)

theorem entries_nil : entries [] = [] := rfl

theorem entries_of_ne_nil (some : text ≠ []) :
    entries text = (readEntry text).1 :: entries (readEntry text).2 := by
  have shorter := length_readEntry some
  rw [entries, ← readEntries_eq (Nat.le_refl (readEntry text).2.length),
    readEntries_congr (Nat.le_refl _) (Nat.le_succ text.length), readEntries, if_neg some,
    readEntries_congr (Nat.le_of_lt shorter) (Nat.le_refl _)]

/-! ## What stands between semicolons -/

/-- Behind an entry the text is over or a semicolon stands. -/
def Stops (more : List Char) : Prop := more = [] ∨ ∃ behind, more = ';' :: behind

/-- A value that ends where the next semicolon stands. -/
inductive IsValue : List Char → Prop
  | plain {text : List Char} (noSemicolon : ∀ c ∈ text, isValueChar c = true)
      (noBrace : text.head? ≠ some '{') : IsValue text
  | braced {inner trailing : List Char} (noBrace : ∀ c ∈ inner, isBraced c = true)
      (noSemicolon : ∀ c ∈ trailing, isValueChar c = true) :
      IsValue ('{' :: (inner ++ '}' :: trailing))

structure Entry.Complete (entry : Entry) : Prop where
  key : ∀ c ∈ entry.key, isKeyChar c = true
  value : ∀ value ∈ entry.value, IsValue value

theorem takeWhile_stops {p : Char → Bool} (all : ∀ c ∈ text, p c = true)
    (stops : ∀ c ∈ more.head?, p c = false) : (text ++ more).takeWhile p = text := by
  rw [List.takeWhile_append_of_pos all]
  cases more with
  | nil => exact List.append_nil text
  | cons c more =>
      rw [List.takeWhile_cons_of_neg (by simp [stops c rfl]), List.append_nil]

theorem dropWhile_stops {p : Char → Bool} (all : ∀ c ∈ text, p c = true)
    (stops : ∀ c ∈ more.head?, p c = false) : (text ++ more).dropWhile p = more := by
  rw [List.dropWhile_append_of_pos all]
  cases more with
  | nil => rfl
  | cons c more => exact List.dropWhile_cons_of_neg (by simp [stops c rfl])

theorem Stops.value (stops : Stops more) : ∀ c ∈ more.head?, isValueChar c = false := by
  rcases stops with rfl | ⟨behind, rfl⟩
  · intro c none
    cases none
  · intro c head
    cases head
    rfl

theorem Stops.key (stops : Stops more) : ∀ c ∈ more.head?, isKeyChar c = false := by
  rcases stops with rfl | ⟨behind, rfl⟩
  · intro c none
    cases none
  · intro c head
    cases head
    rfl

theorem readValue_append {value : List Char} (isValue : IsValue value) (stops : Stops more) :
    readValue (value ++ more) = (value, more) := by
  cases isValue with
  | plain noSemicolon noBrace =>
      have opens : ∀ text, value ++ more ≠ '{' :: text := by
        intro text same
        cases value with
        | nil =>
            rcases stops with rfl | ⟨behind, rfl⟩ <;> cases same
        | cons c value =>
            cases same
            exact noBrace rfl
      have read : readValue (value ++ more) =
          ((value ++ more).takeWhile isValueChar, (value ++ more).dropWhile isValueChar) := by
        unfold readValue
        split
        · next text same => exact absurd same (opens text)
        · rfl
      rw [read, takeWhile_stops noSemicolon stops.value, dropWhile_stops noSemicolon stops.value]
  | @braced inner trailing noBrace noSemicolon =>
      have closed : ∀ c ∈ ('}' :: (trailing ++ more)).head?, isBraced c = false := by
        intro c head
        cases head
        rfl
      simp only [List.cons_append, List.append_assoc, readValue,
        takeWhile_stops noBrace closed, dropWhile_stops noBrace closed,
        takeWhile_stops noSemicolon stops.value, dropWhile_stops noSemicolon stops.value]

theorem readEntry_append {entry : Entry} (complete : entry.Complete) (stops : Stops more) :
    readEntry (entry.raw ++ more) = (entry, more.drop 1) := by
  obtain ⟨key, value⟩ := entry
  cases value with
  | none =>
      rw [Entry.raw, Option.map_none, Option.getD_none, List.append_nil, readEntry,
        takeWhile_stops complete.key stops.key, dropWhile_stops complete.key stops.key]
      rcases stops with rfl | ⟨behind, rfl⟩ <;> rfl
  | some value =>
      have ends : ∀ c ∈ ('=' :: (value ++ more)).head?, isKeyChar c = false := by
        intro c head
        cases head
        rfl
      have read := readValue_append (complete.value value rfl) stops
      rw [Entry.raw, Option.map_some, Option.getD_some, List.append_assoc, List.cons_append,
        readEntry, takeWhile_stops complete.key ends, dropWhile_stops complete.key ends]
      show ((⟨key, some (readValue (value ++ more)).1⟩, (readValue (value ++ more)).2.drop 1) : Entry × List Char) = _
      rw [read]

/-! ## Texts as entries -/

/-- Nothing is read behind the last semicolon. -/
def dropBlank : List Entry → List Entry
  | [] => []
  | [entry] => if entry.raw = [] then [] else [entry]
  | entry :: entry' :: more => entry :: dropBlank (entry' :: more)

theorem Entry.join_cons_cons {entry entry' : Entry} {more : List Entry} :
    join (entry :: entry' :: more) = entry.raw ++ ';' :: join (entry' :: more) := by
  rw [join, List.map_cons, List.map_cons, List.intercalate_cons_cons, List.append_assoc]
  rfl

theorem Entry.join_singleton {entry : Entry} : join [entry] = entry.raw :=
  List.intercalate_singleton

theorem Entry.join_append {some more : List Entry} (left : some ≠ []) (right : more ≠ []) :
    join (some ++ more) = join some ++ ';' :: join more := by
  induction some with
  | nil => cases left rfl
  | cons entry some ih =>
      cases some with
      | nil =>
          obtain ⟨entry', more, rfl⟩ := List.exists_cons_of_ne_nil right
          rw [join_singleton]
          exact join_cons_cons
      | cons entry' some =>
          rw [List.cons_append, List.cons_append, join_cons_cons, join_cons_cons,
            ← List.cons_append, ih (List.cons_ne_nil _ _), List.append_assoc, List.cons_append]

/-- Complete entries are read back. -/
theorem entries_join {written : List Entry} (complete : ∀ entry ∈ written, entry.Complete) :
    entries (Entry.join written) = dropBlank written := by
  induction written with
  | nil => rfl
  | cons entry written ih =>
      rw [List.forall_mem_cons] at complete
      cases written with
      | nil =>
          rw [Entry.join_singleton, dropBlank]
          by_cases blank : entry.raw = []
          · rw [if_pos blank, blank]
            rfl
          · have read := readEntry_append complete.1 (.inl rfl)
            rw [List.append_nil] at read
            rw [if_neg blank, entries_of_ne_nil blank, read]
            rfl
      | cons entry' written =>
          have read := @readEntry_append (';' :: Entry.join (entry' :: written)) entry complete.1
            (.inr ⟨_, rfl⟩)
          rw [Entry.join_cons_cons, entries_of_ne_nil (by simp), read, dropBlank, ← ih complete.2]
          rfl

theorem dropBlank_append_singleton {written : List Entry} {last : Entry} (some : last.raw ≠ []) :
    dropBlank (written ++ [last]) = written ++ [last] := by
  induction written with
  | nil => exact if_neg some
  | cons entry written ih =>
      cases written with
      | nil => exact congrArg _ (if_neg some)
      | cons entry' written => exact congrArg (entry :: ·) ih

/-- A text is divided into complete entries in one way. -/
theorem Entry.join_inj {some more : List Entry} (left : some ≠ []) (right : more ≠ [])
    (complete : ∀ entry ∈ some, entry.Complete) (complete' : ∀ entry ∈ more, entry.Complete)
    (same : join some = join more) : some = more := by
  let last : Entry := ⟨['.'], none⟩
  have whole : last.Complete := ⟨List.all_eq_true.mp (by decide), by rintro value ⟨⟩⟩
  have ended : ∀ written : List Entry, (∀ entry ∈ written, entry.Complete) → written ≠ [] →
      entries (join written ++ ';' :: join [last]) = written ++ [last] := by
    intro written complete notEmpty
    rw [← join_append notEmpty (List.cons_ne_nil _ _), entries_join,
      dropBlank_append_singleton (by decide)]
    exact List.forall_mem_append.mpr ⟨complete, List.forall_mem_singleton.mpr whole⟩
  have appended := ended some complete left
  rw [same, ended more complete' right] at appended
  exact (List.append_cancel_right appended).symm

theorem stops_dropWhile (text : List Char) : Stops (text.dropWhile isValueChar) := by
  rcases behind : text.dropWhile isValueChar with _ | ⟨c, more⟩
  · exact .inl rfl
  · have ends := List.head?_dropWhile_not isValueChar text
    rw [behind] at ends
    have separator : c = ';' := by simpa [isValueChar] using ends
    exact .inr ⟨more, by rw [separator]⟩

theorem all_takeWhile {p : Char → Bool} : ∀ c ∈ text.takeWhile p, p c = true :=
  fun _ => List.mem_takeWhile_imp

/-- A value is closed where the text ends with a closing brace. -/
theorem readValue_closed (closed : text.getLast? = some '}') :
    Stops (readValue text).2 ∧ text = (readValue text).1 ++ (readValue text).2 ∧
      IsValue (readValue text).1 := by
  unfold readValue
  split
  · next text =>
    have whole := List.takeWhile_append_dropWhile (p := isBraced) (l := text)
    split
    · next none =>
      -- without a closing brace the text would not end with one
      rw [none, List.append_nil] at whole
      rw [List.getLast?_cons, Option.some_inj] at closed
      rcases last : text.getLast? with _ | c
      · rw [last] at closed
        cases closed
      · rw [last, Option.getD_some] at closed
        have inside := @all_takeWhile text isBraced c
          (by rw [whole]; exact List.mem_of_getLast? last)
        rw [closed] at inside
        cases inside
    · next close trailing braced =>
      have ends := List.head?_dropWhile_not isBraced text
      rw [braced] at ends
      obtain rfl : close = '}' := by simpa [isBraced] using ends
      refine ⟨stops_dropWhile trailing, ?_, .braced all_takeWhile all_takeWhile⟩
      simp only [List.cons_append, List.append_assoc, List.takeWhile_append_dropWhile]
      rw [← braced, whole]
  · next plain =>
    refine ⟨stops_dropWhile text, List.takeWhile_append_dropWhile.symm, .plain all_takeWhile ?_⟩
    intro opens
    cases text with
    | nil => cases closed
    | cons c text =>
        by_cases more : isValueChar c = true
        · rw [List.takeWhile_cons_of_pos more] at opens
          cases opens
          exact plain text rfl
        · rw [List.takeWhile_cons_of_neg more] at opens
          cases opens

/-- The last character of a text stands behind every other one. -/
theorem getLast?_behind {left right : List Char} {c last : Char}
    (ends : (left ++ c :: right).getLast? = some last) (other : c ≠ last) :
    right.getLast? = some last := by
  rw [List.getLast?_append, List.getLast?_cons, Option.some_or, Option.some_inj] at ends
  rcases behind : right.getLast? with _ | c'
  · rw [behind, Option.getD_none] at ends
    exact absurd ends other
  · rw [behind, Option.getD_some] at ends
    rw [ends]

/-- An entry is complete where the text ends with a closing brace. -/
theorem readEntry_closed (closed : text.getLast? = some '}') :
    ∃ more, Stops more ∧ text = (readEntry text).1.raw ++ more ∧ (readEntry text).2 = more.drop 1 ∧
      (readEntry text).1.Complete := by
  have whole := List.takeWhile_append_dropWhile (p := isKeyChar) (l := text)
  unfold readEntry
  split
  · next rest behind =>
    rw [behind] at whole
    have last := closed
    rw [← whole] at last
    obtain ⟨stops, value, isValue⟩ := readValue_closed (getLast?_behind last (by decide))
    refine ⟨(readValue rest).2, stops, ?_, rfl, all_takeWhile, ?_⟩
    · rw [Entry.raw, Option.map_some, Option.getD_some, List.append_assoc, List.cons_append,
        ← value, whole]
    · rintro _ ⟨⟩
      exact isValue
  · next bare =>
    refine ⟨text.dropWhile isKeyChar, ?_, ?_, rfl, all_takeWhile, by rintro _ ⟨⟩⟩
    · rcases behind : text.dropWhile isKeyChar with _ | ⟨c, more⟩
      · exact .inl rfl
      · have ends := List.head?_dropWhile_not isKeyChar text
        rw [behind] at ends
        have separator : c = '=' ∨ c = ';' := by
          simpa [isKeyChar, Classical.or_iff_not_imp_left] using ends
        rcases separator with rfl | rfl
        · exact absurd behind (bare more)
        · exact .inr ⟨more, rfl⟩
    · rw [Entry.raw, Option.map_none, Option.getD_none, List.append_nil, whole]

/-- A text that ends with a closing brace is divided into complete entries. -/
theorem entries_closed (closed : text.getLast? = some '}') :
    (∀ entry ∈ entries text, entry.Complete) ∧ Entry.join (entries text) = text := by
  induction size : text.length using Nat.strong_induction_on generalizing text with
  | _ length ih =>
      have notEmpty : text ≠ [] := by
        rintro rfl
        cases closed
      have shorter := length_readEntry notEmpty
      obtain ⟨more, stops, whole, behind, complete⟩ := readEntry_closed closed
      rw [entries_of_ne_nil notEmpty, List.forall_mem_cons]
      rw [size] at shorter
      rcases stops with rfl | ⟨more, rfl⟩
      · rw [behind, List.drop_nil, entries_nil, Entry.join_singleton, ← List.append_nil (Entry.raw _),
          ← whole]
        exact ⟨⟨complete, by rintro _ ⟨⟩⟩, rfl⟩
      · have last : more.getLast? = some '}' := by
          rw [whole] at closed
          exact getLast?_behind closed (by decide)
        rw [behind, List.drop_one, List.tail_cons] at shorter ⊢
        obtain ⟨all, joined⟩ := ih _ shorter last rfl
        refine ⟨⟨complete, all⟩, ?_⟩
        rcases read : entries more with _ | ⟨entry, written⟩
        · rw [read] at joined
          rw [← joined] at last
          cases last
        · rw [Entry.join_cons_cons, ← read, joined, ← whole]

/-! ## What is shown -/

theorem Entry.masked_of_not_secret {entry : Entry} (shown : isSecretKey entry.key = false) :
    entry.masked = entry := by
  rw [masked, shown, if_neg Bool.false_ne_true]

theorem Entry.masked_secret {key : List Char} {value : List Char} (secret : isSecretKey key = true) :
    (⟨key, some value⟩ : Entry).masked = ⟨key, some "***".toList⟩ :=
  if_pos secret

theorem Entry.Complete.masked {entry : Entry} (complete : entry.Complete) :
    entry.masked.Complete := by
  rw [Entry.masked]
  by_cases secret : isSecretKey entry.key = true
  · rw [if_pos secret]
    refine ⟨complete.key, fun value stars => ?_⟩
    obtain ⟨-, -, rfl⟩ := Option.map_eq_some_iff.mp stars
    exact .plain (List.all_eq_true.mp (by decide)) (by decide)
  · rwa [if_neg secret]

theorem Entry.raw_eq_nil_iff {entry : Entry} : entry.raw = [] ↔ entry = ⟨[], none⟩ := by
  obtain ⟨key, value⟩ := entry
  cases value <;> simp [raw]

theorem Entry.masked_eq_blank_iff {entry : Entry} :
    entry.masked = ⟨[], none⟩ ↔ entry = ⟨[], none⟩ := by
  obtain ⟨key, value⟩ := entry
  rw [masked]
  split_ifs <;> simp

theorem dropBlank_append_blank {written : List Entry} {last : Entry} (blank : last.raw = []) :
    dropBlank (written ++ [last]) = written := by
  induction written with
  | nil => exact if_pos blank
  | cons entry written ih =>
      cases written with
      | nil => exact congrArg _ (if_pos blank)
      | cons entry' written => exact congrArg (entry :: ·) ih

theorem dropBlank_map_masked (written : List Entry) :
    dropBlank (written.map Entry.masked) = (dropBlank written).map Entry.masked := by
  rcases List.eq_nil_or_concat written with rfl | ⟨written, last, rfl⟩
  · rfl
  · rw [List.concat_eq_append, List.map_append, List.map_singleton]
    by_cases blank : last.raw = []
    · rw [dropBlank_append_blank blank, dropBlank_append_blank]
      rwa [Entry.raw_eq_nil_iff, Entry.masked_eq_blank_iff, ← Entry.raw_eq_nil_iff]
    · rw [dropBlank_append_singleton blank, dropBlank_append_singleton, List.map_append,
        List.map_singleton]
      rwa [ne_eq, Entry.raw_eq_nil_iff, Entry.masked_eq_blank_iff, ← Entry.raw_eq_nil_iff]

end Sanitize

/-- `sanitize_connection_string`. -/
def sanitizeConnectionString (text : List Char) : List Char :=
  Sanitize.Entry.join ((Sanitize.entries text).map Sanitize.Entry.masked)

/-- Complete entries are shown one by one. -/
theorem sanitizeConnectionString_join {written : List Sanitize.Entry}
    (complete : ∀ entry ∈ written, entry.Complete) :
    sanitizeConnectionString (Sanitize.Entry.join written) =
      Sanitize.Entry.join (Sanitize.dropBlank (written.map Sanitize.Entry.masked)) := by
  rw [sanitizeConnectionString, Sanitize.entries_join complete, Sanitize.dropBlank_map_masked]

example : sanitizeConnectionString "Driver=\x7bSQL Server\x7d;Pwd=\x7bse;cret\x7d;Server=h".toList =
    "Driver=\x7bSQL Server\x7d;Pwd=***;Server=h".toList := by decide

end OdbcFast.Native
