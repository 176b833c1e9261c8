import OdbcFast.Wire.Utf8

/-!
# Hexadecimal texts

A byte string is written with two digits for each byte, the high half first, in an
alphabet of the writer's choice. Digits are read in either case, so a text written in
any alphabet that the reader knows reads back as the bytes it came from.
-/

namespace Wire

namespace Hex

/-- The value of a digit. -/
def nibble? (c : UInt8) : Option UInt8 :=
  if 0x30 ≤ c ∧ c ≤ 0x39 then some (c - 0x30)
  else if 0x61 ≤ c ∧ c ≤ 0x66 then some (c - 0x61 + 10)
  else if 0x41 ≤ c ∧ c ≤ 0x46 then some (c - 0x41 + 10)
  else none

/-- Sixteen digits that read back as their values. -/
structure Alphabet where
  digits : List Char
  ascii : ∀ c ∈ digits, c.toNat < 128
  reads : ∀ n < 16, nibble? (UInt8.ofNat (digits.getD n '0').toNat) = some (UInt8.ofNat n)
  sixteen : digits.length = 16

def lower : Alphabet where
  digits := "0123456789abcdef".toList
  ascii := by simp
  reads := by decide
  sixteen := rfl

def upper : Alphabet where
  digits := "0123456789ABCDEF".toList
  ascii := by simp
  reads := by decide
  sixteen := rfl

variable (alphabet : Alphabet)

def pair (b : UInt8) : List Char :=
  [alphabet.digits.getD (b >>> 4).toNat '0', alphabet.digits.getD (b &&& 0x0F).toNat '0']

def encode (bytes : Bytes) : String := String.ofList (bytes.flatMap (pair alphabet))

/-- Digits two at a time; a single one at the end is left over. -/
def decodePairs : Bytes → Option Bytes
  | high :: low :: rest => do
    let high ← nibble? high
    let low ← nibble? low
    let bytes ← decodePairs rest
    pure ((high <<< 4 ||| low) :: bytes)
  | _ => some []

def decode (s : String) : Option Bytes :=
  let bytes := utf8Bytes s
  if bytes.length % 2 = 0 then decodePairs bytes else none

/-! ## What was written reads back -/

theorem high_lt (b : UInt8) : (b >>> 4).toNat < 16 := by
  have value : (b >>> 4).toNat = b.toNat / 16 := by
    rw [UInt8.toNat_shiftRight, Nat.shiftRight_eq_div_pow]
    rfl
  have := b.toNat_lt
  omega

theorem low_lt (b : UInt8) : (b &&& 0x0F).toNat < 16 := by
  rw [UInt8.toNat_and]
  exact Nat.lt_of_le_of_lt Nat.and_le_right (by decide)

theorem halves (b : UInt8) : (b >>> 4) <<< 4 ||| (b &&& 0x0F) = b := by
  have all : ∀ n : Fin 256, (UInt8.ofNat n >>> 4) <<< 4 ||| (UInt8.ofNat n &&& 0x0F) =
      UInt8.ofNat n := by
    decide +kernel
  have this := all ⟨b.toNat, b.toNat_lt⟩
  rwa [UInt8.ofNat_toNat] at this

variable {alphabet}

theorem getD_mem {n : Nat} (small : n < 16) : alphabet.digits.getD n '0' ∈ alphabet.digits := by
  rw [← alphabet.sixteen] at small
  rw [List.getD_eq_getElem?_getD, List.getElem?_eq_getElem small]
  exact List.getElem_mem small

theorem mem_encode {bytes : Bytes} {c : Char} (written : c ∈ (encode alphabet bytes).toList) :
    c ∈ alphabet.digits := by
  rw [encode, String.toList_ofList, List.mem_flatMap] at written
  obtain ⟨b, -, digit⟩ := written
  simp only [pair, List.mem_cons, List.not_mem_nil, or_false] at digit
  rcases digit with rfl | rfl
  · exact getD_mem (high_lt b)
  · exact getD_mem (low_lt b)

/-- The two bytes of the digits of a byte. -/
theorem utf8_pair (b : UInt8) : (pair alphabet b).flatMap String.utf8EncodeChar =
    [UInt8.ofNat (alphabet.digits.getD (b >>> 4).toNat '0').toNat,
      UInt8.ofNat (alphabet.digits.getD (b &&& 0x0F).toNat '0').toNat] := by
  have high := alphabet.ascii _ (getD_mem (high_lt b))
  have low := alphabet.ascii _ (getD_mem (low_lt b))
  simp only [pair, List.flatMap_cons, List.flatMap_nil, utf8EncodeChar_of_ascii high,
    utf8EncodeChar_of_ascii low, List.append_nil, List.cons_append, List.nil_append]

theorem utf8Bytes_encode (bytes : Bytes) : utf8Bytes (encode alphabet bytes) =
    bytes.flatMap fun b => (pair alphabet b).flatMap String.utf8EncodeChar := by
  rw [utf8Bytes_eq, encode, String.toList_ofList, List.flatMap_assoc]

theorem length_utf8Bytes_encode (bytes : Bytes) :
    (utf8Bytes (encode alphabet bytes)).length = 2 * bytes.length := by
  rw [utf8Bytes_encode]
  induction bytes with
  | nil => rfl
  | cons b bytes ih =>
      rw [List.flatMap_cons, List.length_append, ih, utf8_pair, List.length_cons, List.length_cons,
        List.length_cons, List.length_nil]
      omega

theorem decodePairs_encode (bytes : Bytes) :
    decodePairs (utf8Bytes (encode alphabet bytes)) = some bytes := by
  rw [utf8Bytes_encode]
  induction bytes with
  | nil => rfl
  | cons b bytes ih =>
      have high := alphabet.reads _ (high_lt b)
      have low := alphabet.reads _ (low_lt b)
      rw [UInt8.ofNat_toNat] at high low
      rw [List.flatMap_cons, utf8_pair, List.cons_append, List.cons_append, List.nil_append,
        decodePairs, high, low, ih]
      simp only [Option.bind_eq_bind, Option.bind_some, Option.pure_def, halves]

theorem decode_encode (bytes : Bytes) : decode (encode alphabet bytes) = some bytes := by
  rw [decode, length_utf8Bytes_encode, if_pos (Nat.mul_mod_right 2 bytes.length), decodePairs_encode]

end Hex

end Wire
