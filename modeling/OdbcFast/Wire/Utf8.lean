import OdbcFast.Wire.Bytes

/-!
# UTF-8 with and without replacement

One byte string can be read as text in three ways: strictly, where the first
ill-formed sequence is an error; with replacement, where every maximal ill-formed
subsequence becomes U+FFFD; and as Latin-1, one character per byte. The text of a
string is recovered from its own UTF-8 bytes by the first two, and by the third
exactly when every character is ASCII.

`first` reads one scalar value by the table of well-formed sequences (no overlong
form, no surrogate, nothing above U+10FFFF). Both decoders walk the bytes with a
count of bytes already consumed, so they recurse on the list itself.
-/

namespace Wire

/-- The UTF-8 bytes of a string. -/
def utf8Bytes (s : String) : Bytes := s.toByteArray.data.toList

theorem toList_loop (bytes : ByteArray) (i : Nat) (before : Bytes) (inside : i ≤ bytes.size) :
    ByteArray.toList.loop bytes i before = before.reverse ++ bytes.data.toList.drop i := by
  induction left : bytes.size - i generalizing i before with
  | zero =>
      rw [ByteArray.toList.loop, if_neg (by omega), List.drop_of_length_le, List.append_nil]
      change bytes.size ≤ i
      omega
  | succ left ih =>
      have more : i < bytes.size := by omega
      have here : i < bytes.data.toList.length := more
      have same : bytes.get! i = bytes.data.toList[i] := getElem!_pos bytes.data i more
      rw [ByteArray.toList.loop, if_pos more, ih (i + 1) _ more (by omega), List.reverse_cons,
        List.append_assoc, List.drop_eq_getElem_cons here, same]
      rfl

/-- `as_bytes`, read into a list. -/
theorem toList_toUTF8 (s : String) : s.toUTF8.toList = utf8Bytes s := by
  rw [ByteArray.toList, toList_loop _ _ _ (Nat.zero_le _)]
  rfl

theorem utf8Bytes_eq (s : String) : utf8Bytes s = s.toList.flatMap String.utf8EncodeChar := by
  rw [utf8Bytes, ← String.utf8Encode_toList]
  simp [List.utf8Encode]

namespace Utf8

def isTail (b : UInt8) : Bool := 0x80 ≤ b.toNat && b.toNat ≤ 0xBF

/-- Length of the sequence a lead byte opens, with the range of its second byte. -/
def lead? (b : UInt8) : Option (Nat × Nat × Nat) :=
  if 0xC2 ≤ b.toNat ∧ b.toNat ≤ 0xDF then some (2, 0x80, 0xBF)
  else if b.toNat = 0xE0 then some (3, 0xA0, 0xBF)
  else if b.toNat = 0xED then some (3, 0x80, 0x9F)
  else if 0xE1 ≤ b.toNat ∧ b.toNat ≤ 0xEF then some (3, 0x80, 0xBF)
  else if b.toNat = 0xF0 then some (4, 0x90, 0xBF)
  else if 0xF1 ≤ b.toNat ∧ b.toNat ≤ 0xF3 then some (4, 0x80, 0xBF)
  else if b.toNat = 0xF4 then some (4, 0x80, 0x8F)
  else none

/-- The scalar value that starts at `b`, or `none` with the length of the maximal
ill-formed subsequence there. -/
def first (b : UInt8) (rest : Bytes) : Option Char × Nat :=
  if b.toNat < 0x80 then (some (Char.ofNat b.toNat), 1)
  else match lead? b, rest with
    | none, _ => (none, 1)
    | some _, [] => (none, 1)
    | some (length, low, high), b₁ :: rest =>
      if low ≤ b₁.toNat ∧ b₁.toNat ≤ high then
        if length = 2 then
          (some (Char.ofNat ((b.toNat - 0xC0) * 64 + (b₁.toNat - 0x80))), 2)
        else match rest with
          | [] => (none, 2)
          | b₂ :: rest =>
            if isTail b₂ then
              if length = 3 then
                (some (Char.ofNat ((b.toNat - 0xE0) * 4096 + (b₁.toNat - 0x80) * 64 +
                  (b₂.toNat - 0x80))), 3)
              else match rest with
                | [] => (none, 3)
                | b₃ :: _ =>
                  if isTail b₃ then
                    (some (Char.ofNat ((b.toNat - 0xF0) * 262144 + (b₁.toNat - 0x80) * 4096 +
                      (b₂.toNat - 0x80) * 64 + (b₃.toNat - 0x80))), 4)
                  else (none, 3)
            else (none, 2)
      else (none, 1)

/-- Decoding with U+FFFD in place of every maximal ill-formed subsequence. The
first argument counts the bytes of the current sequence still to be passed over. -/
def lossyFrom : Nat → Bytes → List Char
  | _, [] => []
  | skip + 1, _ :: rest => lossyFrom skip rest
  | 0, b :: rest => (first b rest).1.getD '\uFFFD' :: lossyFrom ((first b rest).2 - 1) rest

/-- Why a byte string is not UTF-8: the length of its well-formed prefix, and the
length of the bad sequence unless the input simply ends inside one. -/
structure Fault where
  validUpTo : Nat
  errorLen : Option Nat
  deriving DecidableEq, Repr

/-- Decoding that stops at the first ill-formed sequence; `index` is the number of
bytes already read. -/
def strictFrom : Nat → Nat → Bytes → Except Fault (List Char)
  | _, _, [] => .ok []
  | index, skip + 1, _ :: rest => strictFrom (index + 1) skip rest
  | index, 0, b :: rest =>
    match first b rest with
    | (some c, n) => (strictFrom (index + 1) (n - 1) rest).map (c :: ·)
    | (none, n) =>
      .error ⟨index, if n = rest.length + 1 ∧ (lead? b).isSome then none else some n⟩

end Utf8

/-- Text of a byte string, with ill-formed sequences replaced. -/
def decodeLossy (bytes : Bytes) : String := String.ofList (Utf8.lossyFrom 0 bytes)

/-- Text of a byte string that must be UTF-8. -/
def decodeStrict (bytes : Bytes) : Except Utf8.Fault String :=
  (Utf8.strictFrom 0 0 bytes).map String.ofList

/-- The byte order mark U+FEFF in UTF-8. -/
def bom : Bytes := [0xEF, 0xBB, 0xBF]

/-- Decoding that drops one leading byte order mark, as platform text decoders
do by default. -/
def decodeDroppingBom (bytes : Bytes) : String :=
  decodeLossy (if bytes.take 3 = bom then bytes.drop 3 else bytes)

/-- The text starts with a byte order mark. -/
def StartsWithBom (s : String) : Prop := s.toList.head? = some '\uFEFF'

instance (s : String) : Decidable (StartsWithBom s) :=
  inferInstanceAs (Decidable (s.toList.head? = some '\uFEFF'))

/-- One character per byte, whatever the bytes encode. -/
def decodeLatin1 (bytes : Bytes) : String :=
  String.ofList (bytes.map fun b => Char.ofNat b.toNat)

def IsAscii (s : String) : Prop := ∀ c ∈ s.toList, c.toNat < 128

instance (s : String) : Decidable (IsAscii s) :=
  inferInstanceAs (Decidable (∀ c ∈ s.toList, c.toNat < 128))

namespace Utf8

theorem toNat_ofNat_of_lt {n : Nat} (h : n < 256) : (UInt8.ofNat n).toNat = n := by
  rw [UInt8.toNat_ofNat']
  omega

theorem ofNat_val_toNat (c : Char) : Char.ofNat c.val.toNat = c := Char.ofNat_toNat c

theorem scalar (c : Char) :
    c.val.toNat < 0xd800 ∨ (0xdfff < c.val.toNat ∧ c.val.toNat < 0x110000) := c.valid

private theorem not_ascii {b : UInt8} {shape : Nat × Nat × Nat} (h : lead? b = some shape) :
    ¬ b.toNat < 0x80 := by
  intro ascii
  rw [lead?, if_neg (by omega), if_neg (by omega), if_neg (by omega), if_neg (by omega),
    if_neg (by omega), if_neg (by omega), if_neg (by omega)] at h
  cases h

theorem first_two {b b₁ : UInt8} {low high : Nat} {rest : Bytes}
    (opens : lead? b = some (2, low, high)) (second : low ≤ b₁.toNat ∧ b₁.toNat ≤ high) :
    first b (b₁ :: rest) =
      (some (Char.ofNat ((b.toNat - 0xC0) * 64 + (b₁.toNat - 0x80))), 2) := by
  simp only [first, opens]
  rw [if_neg (not_ascii opens), if_pos second, if_pos trivial]

theorem first_three {b b₁ b₂ : UInt8} {low high : Nat} {rest : Bytes}
    (opens : lead? b = some (3, low, high)) (second : low ≤ b₁.toNat ∧ b₁.toNat ≤ high)
    (third : isTail b₂) :
    first b (b₁ :: b₂ :: rest) =
      (some (Char.ofNat ((b.toNat - 0xE0) * 4096 + (b₁.toNat - 0x80) * 64 +
        (b₂.toNat - 0x80))), 3) := by
  simp only [first, opens, third, if_true]
  rw [if_neg (not_ascii opens), if_pos second, if_neg (by decide)]

theorem first_four {b b₁ b₂ b₃ : UInt8} {low high : Nat} {rest : Bytes}
    (opens : lead? b = some (4, low, high)) (second : low ≤ b₁.toNat ∧ b₁.toNat ≤ high)
    (third : isTail b₂) (fourth : isTail b₃) :
    first b (b₁ :: b₂ :: b₃ :: rest) =
      (some (Char.ofNat ((b.toNat - 0xF0) * 262144 + (b₁.toNat - 0x80) * 4096 +
        (b₂.toNat - 0x80) * 64 + (b₃.toNat - 0x80))), 4) := by
  simp only [first, opens, third, fourth, if_true]
  rw [if_neg (not_ascii opens), if_pos second, if_neg (by decide), if_neg (by decide)]

theorem toNat_tail (n : Nat) : (UInt8.ofNat (n % 0x40 + 0x80)).toNat = n % 64 + 0x80 :=
  toNat_ofNat_of_lt (by omega)

theorem isTail_tail (n : Nat) : isTail (UInt8.ofNat (n % 0x40 + 0x80)) := by
  simp only [isTail, toNat_tail, Bool.and_eq_true, decide_eq_true_eq]
  omega

/-- The second byte of a three-byte character lies in the range its lead allows:
an overlong form would start below, a surrogate above. -/
theorem lead?_three {v : Nat} (long : 0x7ff < v) (short : v ≤ 0xffff)
    (valid : v < 0xd800 ∨ 0xdfff < v) :
    ∃ low high, lead? (UInt8.ofNat (v / 4096 % 0x10 + 0xe0)) = some (3, low, high) ∧
      low ≤ v / 64 % 64 + 0x80 ∧ v / 64 % 64 + 0x80 ≤ high := by
  have value : (UInt8.ofNat (v / 4096 % 0x10 + 0xe0)).toNat = v / 4096 + 0xe0 := by
    rw [toNat_ofNat_of_lt (by omega)]
    omega
  simp only [lead?, value]
  rw [if_neg (by omega)]
  split_ifs with h₁ h₂ h₃
  · exact ⟨_, _, rfl, by omega, by omega⟩
  · exact ⟨_, _, rfl, by omega, by omega⟩
  · exact ⟨_, _, rfl, by omega, by omega⟩
  all_goals omega

theorem lead?_four {v : Nat} (long : 0xffff < v) (valid : v < 0x110000) :
    ∃ low high, lead? (UInt8.ofNat (v / 262144 % 0x08 + 0xf0)) = some (4, low, high) ∧
      low ≤ v / 4096 % 64 + 0x80 ∧ v / 4096 % 64 + 0x80 ≤ high := by
  have value : (UInt8.ofNat (v / 262144 % 0x08 + 0xf0)).toNat = v / 262144 + 0xf0 := by
    rw [toNat_ofNat_of_lt (by omega)]
    omega
  simp only [lead?, value]
  rw [if_neg (by omega), if_neg (by omega), if_neg (by omega), if_neg (by omega)]
  split_ifs with h₁ h₂ h₃
  · exact ⟨_, _, rfl, by omega, by omega⟩
  · exact ⟨_, _, rfl, by omega, by omega⟩
  · exact ⟨_, _, rfl, by omega, by omega⟩
  all_goals omega

/-- Reading where a character was written gives that character and its length. -/
theorem first_utf8EncodeChar (c : Char) (rest : Bytes) :
    ∃ b tail, String.utf8EncodeChar c = b :: tail ∧
      first b (tail ++ rest) = (some c, tail.length + 1) := by
  have valid := scalar c
  have value := ofNat_val_toNat c
  generalize hv : c.val.toNat = v at valid value
  unfold String.utf8EncodeChar
  simp only [hv]
  split_ifs with h₁ h₂ h₃
  · refine ⟨_, _, rfl, ?_⟩
    simp only [first, toNat_ofNat_of_lt (show v < 256 by omega)]
    rw [if_pos (by omega), value]
    rfl
  · refine ⟨_, _, rfl, ?_⟩
    have lead : (UInt8.ofNat (v / 64 % 0x20 + 0xc0)).toNat = v / 64 + 0xc0 := by
      rw [toNat_ofNat_of_lt (by omega)]
      omega
    have opens : lead? (UInt8.ofNat (v / 64 % 0x20 + 0xc0)) = some (2, 0x80, 0xBF) := by
      rw [lead?, lead, if_pos (by omega)]
    have sum : (v / 64 + 0xc0 - 0xC0) * 64 + (v % 64 + 0x80 - 0x80) = v := by omega
    rw [List.cons_append, first_two opens (by rw [toNat_tail]; omega), lead, toNat_tail,
      sum, value]
    rfl
  · refine ⟨_, _, rfl, ?_⟩
    obtain ⟨low, high, opens, second⟩ :=
      lead?_three (v := v) (by omega) (by omega) (by omega)
    have lead : (UInt8.ofNat (v / 4096 % 0x10 + 0xe0)).toNat = v / 4096 + 0xe0 := by
      rw [toNat_ofNat_of_lt (by omega)]
      omega
    have sum : (v / 4096 + 0xe0 - 0xE0) * 4096 + (v / 64 % 64 + 0x80 - 0x80) * 64 +
        (v % 64 + 0x80 - 0x80) = v := by omega
    simp only [List.cons_append]
    rw [first_three opens (by rw [toNat_tail]; exact second) (isTail_tail _), lead,
      toNat_tail, toNat_tail, sum, value]
    rfl
  · refine ⟨_, _, rfl, ?_⟩
    obtain ⟨low, high, opens, second⟩ := lead?_four (v := v) (by omega) (by omega)
    have lead : (UInt8.ofNat (v / 262144 % 0x08 + 0xf0)).toNat = v / 262144 + 0xf0 := by
      rw [toNat_ofNat_of_lt (by omega)]
      omega
    have sum : (v / 262144 + 0xf0 - 0xF0) * 262144 + (v / 4096 % 64 + 0x80 - 0x80) * 4096 +
        (v / 64 % 64 + 0x80 - 0x80) * 64 + (v % 64 + 0x80 - 0x80) = v := by omega
    simp only [List.cons_append]
    rw [first_four opens (by rw [toNat_tail]; exact second) (isTail_tail _) (isTail_tail _),
      lead, toNat_tail, toNat_tail, toNat_tail, sum, value]
    rfl

theorem lossyFrom_length (skipped rest : Bytes) :
    lossyFrom skipped.length (skipped ++ rest) = lossyFrom 0 rest := by
  induction skipped with
  | nil => rfl
  | cons b skipped ih => exact ih

theorem strictFrom_length (index : Nat) (skipped rest : Bytes) :
    strictFrom index skipped.length (skipped ++ rest) =
      strictFrom (index + skipped.length) 0 rest := by
  induction skipped generalizing index with
  | nil => rfl
  | cons b skipped ih =>
      rw [List.length_cons, List.cons_append, strictFrom, ih]
      congr 1
      omega

theorem lossyFrom_char (c : Char) (rest : Bytes) :
    lossyFrom 0 (String.utf8EncodeChar c ++ rest) = c :: lossyFrom 0 rest := by
  obtain ⟨b, tail, spelled, read⟩ := first_utf8EncodeChar c rest
  rw [spelled, List.cons_append, lossyFrom, read]
  simp only [Option.getD_some, Nat.add_sub_cancel, lossyFrom_length]

theorem strictFrom_char (index : Nat) (c : Char) (rest : Bytes) :
    ∃ next, strictFrom index 0 (String.utf8EncodeChar c ++ rest) =
      (strictFrom next 0 rest).map (c :: ·) := by
  obtain ⟨b, tail, spelled, read⟩ := first_utf8EncodeChar c rest
  refine ⟨index + 1 + tail.length, ?_⟩
  rw [spelled, List.cons_append, strictFrom, read]
  simp only [Nat.add_sub_cancel, strictFrom_length]

end Utf8

/-- The characters of a string are read back from its UTF-8 bytes. -/
theorem lossyFrom_flatMap (cs : List Char) :
    Utf8.lossyFrom 0 (cs.flatMap String.utf8EncodeChar) = cs := by
  induction cs with
  | nil => rfl
  | cons c cs ih => rw [List.flatMap_cons, Utf8.lossyFrom_char, ih]

theorem decodeLossy_utf8Bytes (s : String) : decodeLossy (utf8Bytes s) = s := by
  rw [decodeLossy, utf8Bytes_eq, lossyFrom_flatMap, String.ofList_toList]

theorem decodeStrict_utf8Bytes (s : String) : decodeStrict (utf8Bytes s) = .ok s := by
  have chars : ∀ (cs : List Char) (index : Nat),
      Utf8.strictFrom index 0 (cs.flatMap String.utf8EncodeChar) = .ok cs := by
    intro cs
    induction cs with
    | nil => intro index; rfl
    | cons c cs ih =>
        intro index
        obtain ⟨next, read⟩ :=
          Utf8.strictFrom_char index c (cs.flatMap String.utf8EncodeChar)
        rw [List.flatMap_cons, read, ih]
        rfl
  rw [decodeStrict, utf8Bytes_eq, chars]
  simp [Except.map]

/-! ## The byte order mark -/

theorem StartsWithBom.exists_cons {s : String} (marked : StartsWithBom s) :
    ∃ rest, s.toList = '\uFEFF' :: rest := by
  rw [StartsWithBom] at marked
  cases hs : s.toList with
  | nil => simp [hs] at marked
  | cons c rest => exact ⟨rest, by simpa [hs] using marked⟩

theorem take_bom_iff (s : String) : (utf8Bytes s).take 3 = bom ↔ StartsWithBom s := by
  rw [utf8Bytes_eq]
  constructor
  · intro marked
    have read : Utf8.lossyFrom 0 (s.toList.flatMap String.utf8EncodeChar) = s.toList :=
      lossyFrom_flatMap _
    have split := List.take_append_drop 3 (s.toList.flatMap String.utf8EncodeChar)
    rw [marked] at split
    rw [← split, show bom = String.utf8EncodeChar '\uFEFF' from rfl, Utf8.lossyFrom_char] at read
    rw [StartsWithBom, ← read]
    rfl
  · intro marked
    obtain ⟨rest, hs⟩ := marked.exists_cons
    rw [hs, List.flatMap_cons, show String.utf8EncodeChar '\uFEFF' = bom from rfl]
    rfl

/-- A string survives a decoder that drops the mark exactly when it has none. -/
theorem decodeDroppingBom_utf8Bytes_iff (s : String) :
    decodeDroppingBom (utf8Bytes s) = s ↔ ¬ StartsWithBom s := by
  by_cases marked : StartsWithBom s
  · have front := (take_bom_iff s).mpr marked
    obtain ⟨rest, hs⟩ := marked.exists_cons
    have back : (utf8Bytes s).drop 3 = rest.flatMap String.utf8EncodeChar := by
      rw [utf8Bytes_eq, hs, List.flatMap_cons]
      rfl
    rw [decodeDroppingBom, if_pos front, back, decodeLossy, lossyFrom_flatMap]
    simp only [marked, not_true_eq_false, iff_false]
    intro same
    have chars := congrArg (fun t : String => t.toList.length) same
    simp [hs] at chars
  · rw [decodeDroppingBom, if_neg (mt (take_bom_iff s).mp marked), decodeLossy_utf8Bytes]
    simp [marked]

/-! ## Cut texts -/

namespace Utf8

theorem not_isTail_lead {n : Nat} (low : n < 256) (outside : n < 0x80 ∨ 0xBF < n) :
    ¬ isTail (UInt8.ofNat n) := by
  simp only [isTail, toNat_ofNat_of_lt low, Bool.and_eq_true, decide_eq_true_eq]
  omega

/-- Only the first byte of a character is no tail. -/
theorem tails_of_utf8EncodeChar (c : Char) :
    ∃ b tail, String.utf8EncodeChar c = b :: tail ∧ ¬ isTail b ∧ ∀ t ∈ tail, isTail t := by
  have valid := scalar c
  unfold String.utf8EncodeChar
  generalize c.val.toNat = v at valid
  dsimp only
  split_ifs with h₁ h₂ h₃
  · exact ⟨_, _, rfl, not_isTail_lead (by omega) (by omega), List.forall_mem_nil _⟩
  · refine ⟨_, _, rfl, not_isTail_lead (by omega) (by omega), ?_⟩
    exact List.forall_mem_singleton.mpr (isTail_tail _)
  · refine ⟨_, _, rfl, not_isTail_lead (by omega) (by omega), ?_⟩
    exact List.forall_mem_cons.mpr ⟨isTail_tail _, List.forall_mem_singleton.mpr (isTail_tail _)⟩
  · refine ⟨_, _, rfl, not_isTail_lead (by omega) (by omega), ?_⟩
    exact List.forall_mem_cons.mpr ⟨isTail_tail _,
      List.forall_mem_cons.mpr ⟨isTail_tail _, List.forall_mem_singleton.mpr (isTail_tail _)⟩⟩

/-- The bytes of a text that are cut off are those of a prefix exactly when the first one that is
missing is no tail. -/
theorem exists_isPrefix_take_iff {text : List Char} {count : Nat}
    (inside : count ≤ (text.flatMap String.utf8EncodeChar).length) :
    (∃ front, front <+: text ∧
      front.flatMap String.utf8EncodeChar = (text.flatMap String.utf8EncodeChar).take count) ↔
      ∀ b ∈ (text.flatMap String.utf8EncodeChar)[count]?, ¬ isTail b := by
  induction text generalizing count with
  | nil =>
      obtain rfl := Nat.le_zero.mp inside
      exact iff_of_true ⟨[], List.nil_prefix, rfl⟩ (by simp)
  | cons c text ih =>
      obtain ⟨b, tail, spelled, starts, tails⟩ := tails_of_utf8EncodeChar c
      rw [List.flatMap_cons] at inside ⊢
      by_cases whole : (String.utf8EncodeChar c).length ≤ count
      · -- the first character is whole on both sides
        rw [List.length_append] at inside
        rw [List.getElem?_append_right whole, ← ih (by omega), List.take_append,
          List.take_of_length_le whole]
        constructor
        · rintro ⟨front, inText, same⟩
          cases front with
          | nil =>
              rw [spelled] at same
              cases same
          | cons d front =>
              obtain ⟨rfl, later⟩ := List.cons_prefix_cons.mp inText
              exact ⟨front, later, List.append_cancel_left same⟩
        · rintro ⟨front, inText, same⟩
          exact ⟨c :: front, List.cons_prefix_cons.mpr ⟨rfl, inText⟩, congrArg (_ ++ ·) same⟩
      · rw [List.getElem?_append_left (Nat.not_le.mp whole),
          List.take_append_of_le_length (Nat.le_of_not_le whole)]
        cases count with
        | zero =>
            refine iff_of_true ⟨[], List.nil_prefix, rfl⟩ ?_
            rw [spelled]
            rintro _ ⟨⟩
            exact starts
        | succ count =>
            apply iff_of_false
            · rintro ⟨front, inText, same⟩
              have lengths := congrArg List.length same
              rw [List.length_take, Nat.min_eq_left (Nat.le_of_not_le whole)] at lengths
              cases front with
              | nil => cases lengths
              | cons d front =>
                  obtain ⟨rfl, -⟩ := List.cons_prefix_cons.mp inText
                  rw [List.flatMap_cons, List.length_append] at lengths
                  omega
            · intro boundary
              rw [spelled, List.getElem?_cons_succ] at boundary
              rw [spelled, List.length_cons] at whole
              have there : count < tail.length := by omega
              exact boundary _ (List.getElem?_eq_getElem there) (tails _ (List.getElem_mem there))

theorem lead?_utf8EncodeChar {c : Char} {b : UInt8} {tail : Bytes}
    (spelled : String.utf8EncodeChar c = b :: tail) (long : tail ≠ []) :
    ∃ low high, lead? b = some (tail.length + 1, low, high) := by
  have valid := scalar c
  unfold String.utf8EncodeChar at spelled
  generalize c.val.toNat = v at valid spelled
  dsimp only at spelled
  split_ifs at spelled with h₁ h₂ h₃
  · obtain ⟨-, rfl⟩ := List.cons.inj spelled
    exact absurd rfl long
  · obtain ⟨rfl, rfl⟩ := List.cons.inj spelled
    refine ⟨0x80, 0xBF, ?_⟩
    rw [lead?, toNat_ofNat_of_lt (by omega), if_pos (by omega)]
    rfl
  · obtain ⟨rfl, rfl⟩ := List.cons.inj spelled
    obtain ⟨low, high, opens, -⟩ := lead?_three (v := v) (by omega) (by omega) (by omega)
    exact ⟨low, high, opens⟩
  · obtain ⟨rfl, rfl⟩ := List.cons.inj spelled
    obtain ⟨low, high, opens, -⟩ := lead?_four (v := v) (by omega) (by omega)
    exact ⟨low, high, opens⟩

theorem lead?_length_le {b : UInt8} {length low high : Nat}
    (opens : lead? b = some (length, low, high)) : length ≤ 4 := by
  rw [lead?] at opens
  split_ifs at opens <;> cases opens <;> decide

/-- A character whose bytes end too early is not read. -/
theorem first_short {b : UInt8} {rest : Bytes} {length low high : Nat}
    (opens : lead? b = some (length, low, high)) (short : rest.length + 1 < length) :
    (first b rest).1 = none := by
  have above := not_ascii opens
  have most := lead?_length_le opens
  obtain - | ⟨b₁, - | ⟨b₂, - | ⟨b₃, rest⟩⟩⟩ := rest
  · simp only [first, opens, if_neg above]
  · simp only [List.length_cons, List.length_nil] at short
    simp only [first, opens, if_neg above, if_neg (show length ≠ 2 by omega)]
    split_ifs
    · rfl
    · rfl
  · simp only [List.length_cons, List.length_nil] at short
    simp only [first, opens, if_neg above, if_neg (show length ≠ 2 by omega),
      if_neg (show length ≠ 3 by omega)]
    split_ifs
    · rfl
    · rfl
    · rfl
  · simp only [List.length_cons] at short
    omega

/-- A text whose bytes are cut inside a character is not read. -/
theorem strictFrom_take_of_isTail {text : List Char} {count : Nat} {b : UInt8}
    (there : b ∈ (text.flatMap String.utf8EncodeChar)[count]?) (tail : isTail b) (index : Nat) :
    ∃ fault, strictFrom index 0 ((text.flatMap String.utf8EncodeChar).take count) =
      .error fault := by
  induction text generalizing count index with
  | nil => cases there
  | cons c text ih =>
      obtain ⟨b₀, rest, spelled, starts, -⟩ := tails_of_utf8EncodeChar c
      rw [List.flatMap_cons] at there ⊢
      by_cases whole : (String.utf8EncodeChar c).length ≤ count
      · rw [List.getElem?_append_right whole] at there
        rw [List.take_append, List.take_of_length_le whole]
        obtain ⟨next, read⟩ := strictFrom_char index c _
        obtain ⟨fault, failed⟩ := ih there next
        exact ⟨fault, by rw [read, failed]; rfl⟩
      · rw [List.getElem?_append_left (Nat.not_le.mp whole), spelled] at there
        rw [List.take_append_of_le_length (Nat.le_of_not_le whole), spelled]
        rw [spelled, List.length_cons] at whole
        cases count with
        | zero =>
            cases there
            exact absurd tail starts
        | succ count =>
            have long : rest ≠ [] := by
              rintro rfl
              exact whole (Nat.succ_le_succ (Nat.zero_le count))
            obtain ⟨low, high, opens⟩ := lead?_utf8EncodeChar spelled long
            have cut : (first b₀ (rest.take count)).1 = none := by
              refine first_short opens ?_
              rw [List.length_take]
              omega
            rw [List.take_succ_cons, strictFrom]
            generalize first b₀ (rest.take count) = read at cut
            obtain ⟨character, length⟩ := read
            obtain rfl : character = none := cut
            exact ⟨_, rfl⟩

end Utf8

/-! ## Latin-1 -/

theorem length_utf8EncodeChar_eq_one_iff (c : Char) :
    (String.utf8EncodeChar c).length = 1 ↔ c.toNat < 128 := by
  rw [String.length_utf8EncodeChar, Char.utf8Size_eq_one_iff, UInt32.le_iff_toNat_le]
  exact Nat.lt_succ_iff.symm

theorem utf8EncodeChar_of_ascii {c : Char} (ascii : c.toNat < 128) :
    String.utf8EncodeChar c = [UInt8.ofNat c.toNat] := by
  have low : c.val.toNat ≤ 0x7f := Nat.lt_succ_iff.mp ascii
  simp only [String.utf8EncodeChar, if_pos low]
  rfl

/-- A character above ASCII begins with a byte above ASCII. -/
theorem utf8EncodeChar_of_not_ascii {c : Char} (high : ¬ c.toNat < 128) :
    ∃ byte bytes, String.utf8EncodeChar c = byte :: bytes ∧ 0x80 ≤ byte.toNat := by
  have above : ¬ c.val.toNat ≤ 0x7f := fun low => high (Nat.lt_succ_of_le low)
  simp only [String.utf8EncodeChar, if_neg above]
  split_ifs with two three
  · refine ⟨_, _, rfl, ?_⟩
    rw [UInt8.toNat_ofNat']
    omega
  · refine ⟨_, _, rfl, ?_⟩
    rw [UInt8.toNat_ofNat']
    omega
  · refine ⟨_, _, rfl, ?_⟩
    rw [UInt8.toNat_ofNat']
    omega

/-- A longer character makes the byte string longer than the text. -/
theorem length_le_length_flatMap (cs : List Char) :
    cs.length ≤ (cs.flatMap String.utf8EncodeChar).length := by
  induction cs with
  | nil => exact Nat.le_refl _
  | cons c cs ih =>
      have := Char.utf8Size_pos c
      simp only [List.flatMap_cons, List.length_append, List.length_cons,
        String.length_utf8EncodeChar]
      omega

theorem ascii_of_length_eq {cs : List Char}
    (same : (cs.flatMap String.utf8EncodeChar).length = cs.length) :
    ∀ c ∈ cs, c.toNat < 128 := by
  induction cs with
  | nil => simp
  | cons c cs ih =>
      have pos := Char.utf8Size_pos c
      have rest := length_le_length_flatMap cs
      simp only [List.flatMap_cons, List.length_append, List.length_cons,
        String.length_utf8EncodeChar] at same
      intro x member
      rcases List.mem_cons.mp member with rfl | later
      · apply (length_utf8EncodeChar_eq_one_iff x).mp
        rw [String.length_utf8EncodeChar]
        omega
      · exact ih (by omega) x later

/-- Reading UTF-8 bytes as Latin-1 gives the text back exactly on ASCII. -/
theorem decodeLatin1_utf8Bytes_iff (s : String) :
    decodeLatin1 (utf8Bytes s) = s ↔ IsAscii s := by
  rw [decodeLatin1, utf8Bytes_eq]
  constructor
  · intro same
    apply ascii_of_length_eq
    have chars := congrArg (fun t : String => t.toList.length) same
    simpa using chars
  · intro ascii
    have chars : ∀ cs : List Char, (∀ c ∈ cs, c.toNat < 128) →
        (cs.flatMap String.utf8EncodeChar).map (fun b => Char.ofNat b.toNat) = cs := by
      intro cs
      induction cs with
      | nil => simp
      | cons c cs ih =>
          intro all
          have head := all c List.mem_cons_self
          rw [List.flatMap_cons, utf8EncodeChar_of_ascii head, List.map_append,
            ih fun x later => all x (List.mem_cons_of_mem _ later)]
          simp only [List.map_cons, List.map_nil, List.cons_append, List.nil_append,
            Utf8.toNat_ofNat_of_lt (show c.toNat < 256 by omega), Char.ofNat_toNat]
    rw [chars _ ascii, String.ofList_toList]

end Wire
