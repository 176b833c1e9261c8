import Mathlib.Data.List.TakeDrop
import OdbcFast.Dart.ErrorBuffer
import OdbcFast.Dart.FfiBuffer

/-!
# Data and errors through buffers

Data of any size fit some buffer, but a caller that doubles its buffer tries a few sizes
only, and the largest of them may lie far below the limit. The text of an error is cut
where the buffer ends, which is between two characters or inside one.
-/

namespace OdbcFast.Verification

open Dart Wire

/-! ## Doubled buffers -/

/-- A native function that has so much data. It counts what it has written in 32 bits. -/
def answerOf (data : Bytes) (bufLen : Nat) : FfiAnswer :=
  if data.length ≤ bufLen then .written (data.take (data.length % 4294967296)) else .tooSmall

/-- The loop tries a size that holds the data. -/
def Reaches (initialSize maxSize length : Nat) : Prop :=
  ∃ doublings, length ≤ initialSize * 2 ^ doublings ∧ initialSize * 2 ^ doublings ≤ maxSize

theorem reaches_double_iff {size maxSize length : Nat} (small : size < length) :
    Reaches size maxSize length ↔ Reaches (size * 2) maxSize length := by
  have doubled (n : Nat) : size * 2 * 2 ^ n = size * 2 ^ (n + 1) := by
    rw [Nat.mul_assoc, Nat.pow_succ']
  simp only [Reaches, doubled]
  constructor
  · rintro ⟨doublings, holds, allowed⟩
    cases doublings with
    | zero =>
        rw [Nat.pow_zero, Nat.mul_one] at holds
        exact absurd holds (Nat.not_le.mpr small)
    | succ doublings => exact ⟨doublings, holds, allowed⟩
  · rintro ⟨doublings, holds, allowed⟩
    exact ⟨doublings + 1, holds, allowed⟩

/-- What the loop returns: what the function says it has written, if any size is enough. -/
theorem callWithSizes_answerOf {data received : Bytes} {maxSize size : Nat} (positive : 0 < size) :
    callWithSizes (answerOf data) maxSize size = some received ↔
      received = data.take (data.length % 4294967296) ∧ Reaches size maxSize data.length := by
  rw [callWithSizes]
  split_ifs with within
  · by_cases fits : data.length ≤ size
    · rw [answerOf, if_pos fits]
      have reaches : Reaches size maxSize data.length := by
        refine ⟨0, ?_, ?_⟩
        · rwa [Nat.pow_zero, Nat.mul_one]
        · rw [Nat.pow_zero, Nat.mul_one]
          exact Int.ofNat_le.mp within.2
      rw [and_iff_left reaches, Option.some.injEq]
      exact eq_comm
    · rw [answerOf, if_neg fits, reaches_double_iff (Nat.lt_of_not_le fits)]
      exact callWithSizes_answerOf (Nat.mul_pos positive Nat.two_pos)
  · apply iff_of_false
    · rintro ⟨⟩
    · rintro ⟨-, doublings, -, allowed⟩
      have grown : size ≤ size * 2 ^ doublings := Nat.le_mul_of_pos_right size (Nat.two_pow_pos _)
      omega
termination_by (maxSize + 1 - size : Int).toNat
decreasing_by omega

/-- The data if they fit the limit, and nothing else. -/
def ReceivesWithin (data : Bytes) (initialSize maxSize : Nat) : Prop :=
  callWithSizes (answerOf data) maxSize initialSize =
    if data.length ≤ maxSize then some data else none

/-- For every first size and every limit: what arrives is right exactly for data that are above the
limit, and for data that fit a size which the loop tries and whose count fits 32 bits. -/
theorem receivesWithin_iff {data : Bytes} {initialSize maxSize : Nat} (positive : 1 ≤ initialSize) :
    ReceivesWithin data initialSize maxSize ↔
      maxSize < data.length ∨
        data.length < 4294967296 ∧ Reaches initialSize maxSize data.length := by
  rw [ReceivesWithin]
  by_cases fits : data.length ≤ maxSize
  · have counted : data = data.take (data.length % 4294967296) ↔ data.length < 4294967296 := by
      rw [eq_comm, List.take_eq_self_iff]
      omega
    rw [if_pos fits, callWithSizes_answerOf positive, counted, or_iff_right (Nat.not_lt.mpr fits)]
  · rw [if_neg fits, Option.eq_none_iff_forall_ne_some]
    refine iff_of_true (fun received => ?_) (.inl (Nat.lt_of_not_le fits))
    rw [Ne, callWithSizes_answerOf positive]
    rintro ⟨-, doublings, holds, allowed⟩
    exact fits (holds.trans allowed)

theorem receivesWithin_iff_three : 1 ≤ 2 ∧ (ReceivesWithin [0, 0, 0] 2 4 ↔
    4 < 3 ∨ 3 < 4294967296 ∧ Reaches 2 4 3) :=
  ⟨by decide, receivesWithin_iff (by decide)⟩

/-- Three bytes are within the limit, but the sizes that are tried are two and four. -/
theorem three_bytes_are_lost : ¬ ReceivesWithin [0, 0, 0] 2 3 := by
  have lost : callWithSizes (answerOf [0, 0, 0]) (3 : Nat) 2 = none := by
    rw [callWithSizes, if_pos (by decide)]
    change callWithSizes (answerOf [0, 0, 0]) (3 : Nat) 4 = none
    rw [callWithSizes, if_neg (by decide)]
  intro received
  cases lost.symm.trans received

/-! ## Error texts -/

/-- How many bytes of the text are copied. -/
def copied (message : String) (bufferLen : UInt32) : Nat :=
  min ((utf8Bytes message).length % 4294967296) (bufferLen.toNat - 1)

/-- What is written is a prefix of the text with a terminator. -/
def WritesPrefix (message : String) (bufferLen : UInt32) : Prop :=
  ∀ code written, Native.odbcGetError false bufferLen ⟨some message, false⟩ = (code, some written) →
    ∃ front, front <+: message.toList ∧ written = front.flatMap String.utf8EncodeChar ++ [0]

/-- Dart returns the prefix that was written for it. -/
def ReturnsPrefix (wording : Utf8.Fault → String) (message : String) : Prop :=
  ∃ front, front <+: message.toList ∧
    (Native.odbcGetError false errorBufferSize ⟨some message, false⟩).2 =
      some (front.flatMap String.utf8EncodeChar ++ [0]) ∧
    getError wording ⟨some message, false⟩ = .ok (String.ofList front)

/-- The first byte that is not copied, if there is one, begins a character. -/
def CutsBetween (message : String) (count : Nat) : Prop :=
  ∀ b ∈ (utf8Bytes message)[count]?, ¬ Utf8.isTail b

theorem odbcGetError_eq {message : String} {bufferLen : UInt32} (asked : bufferLen ≠ 0) :
    Native.odbcGetError false bufferLen ⟨some message, false⟩ =
      ((BitVec.ofNat 32 (copied message bufferLen)).toInt,
        some ((utf8Bytes message).take (copied message bufferLen) ++ [0])) := by
  rw [Native.odbcGetError, if_neg, if_neg]
  · rfl
  · exact Bool.false_ne_true
  · simpa using asked

theorem copied_le (message : String) (bufferLen : UInt32) :
    copied message bufferLen ≤ (utf8Bytes message).length :=
  (Nat.min_le_left _ _).trans (Nat.mod_le _ _)

theorem cutsBetween_iff {message : String} {count : Nat} (inside : count ≤ (utf8Bytes message).length) :
    CutsBetween message count ↔ ∃ front, front <+: message.toList ∧
      front.flatMap String.utf8EncodeChar = (utf8Bytes message).take count := by
  rw [CutsBetween, utf8Bytes_eq] at *
  exact (Utf8.exists_isPrefix_take_iff inside).symm

theorem writesPrefix_iff {message : String} {bufferLen : UInt32} : WritesPrefix message bufferLen ↔
    bufferLen = 0 ∨ CutsBetween message (copied message bufferLen) := by
  by_cases asked : bufferLen = 0
  · refine iff_of_true ?_ (.inl asked)
    rintro code written answered
    rw [asked] at answered
    cases answered
  · rw [or_iff_right asked, cutsBetween_iff (copied_le message bufferLen), WritesPrefix,
      odbcGetError_eq asked]
    constructor
    · intro writes
      obtain ⟨front, inText, same⟩ := writes _ _ rfl
      exact ⟨front, inText, (List.append_cancel_right same).symm⟩
    · rintro ⟨front, inText, same⟩ code written ⟨⟩
      exact ⟨front, inText, congrArg (· ++ [0]) same.symm⟩

theorem utf8Bytes_ofList (text : List Char) :
    utf8Bytes (String.ofList text) = text.flatMap String.utf8EncodeChar := by
  rw [utf8Bytes_eq, String.toList_ofList]

/-- A text in UTF-8 is read back without a byte order mark in front. -/
theorem utf8Decode_flatMap (wording : Utf8.Fault → String) (text : List Char) :
    utf8Decode wording (text.flatMap String.utf8EncodeChar) =
      .ok (String.ofList (if text.head? = some '\uFEFF' then text.tail else text)) := by
  have marked := take_bom_iff (String.ofList text)
  rw [StartsWithBom, String.toList_ofList, utf8Bytes_ofList] at marked
  by_cases starts : text.head? = some '\uFEFF'
  · obtain ⟨rest, rfl⟩ : ∃ rest, text = '\uFEFF' :: rest :=
      ⟨_, (List.head?_eq_some_iff.mp starts).choose_spec⟩
    have back : (('\uFEFF' :: rest).flatMap String.utf8EncodeChar).drop 3 =
        utf8Bytes (String.ofList rest) := by
      rw [utf8Bytes_ofList]
      rfl
    rw [utf8Decode, if_pos (marked.mpr starts), back, decodeStrict_utf8Bytes, if_pos starts]
    rfl
  · rw [utf8Decode, if_neg (mt marked.mp starts), ← utf8Bytes_ofList, decodeStrict_utf8Bytes,
      if_neg starts]

/-- Dart decodes what was copied for it. -/
theorem getError_eq (wording : Utf8.Fault → String) (message : String) :
    getError wording ⟨some message, false⟩ = utf8Decode wording
      ((utf8Bytes message).take (copied message errorBufferSize)) := by
  have few : copied message errorBufferSize ≤ 4095 := Nat.min_le_right _ _
  have inside := copied_le message errorBufferSize
  rw [getError, odbcGetError_eq (by decide)]
  generalize copied message errorBufferSize = count at few inside
  have number : (BitVec.ofNat 32 count).toInt = count := by
    have unsigned : (BitVec.ofNat 32 count).toNat = count := by
      rw [BitVec.toNat_ofNat]
      omega
    rw [BitVec.toInt_eq_toNat_of_lt (by omega), unsigned]
  have lengths : ((utf8Bytes message).take count).length = count := by
    rw [List.length_take, Nat.min_eq_left inside]
  simp only [number, Int.toNat_natCast, Option.getD_some]
  rw [if_neg (by omega), List.take_append_of_le_length (by omega), List.take_take, Nat.min_self]
  split_ifs with nothing
  · obtain rfl : count = 0 := by omega
    rfl
  · rfl

/-- The prefix survives the decoder exactly when it is empty or the text has no mark in front. -/
theorem utf8Decode_eq_self_iff (wording : Utf8.Fault → String) {message : String}
    {front : List Char} (inText : front <+: message.toList) :
    utf8Decode wording (front.flatMap String.utf8EncodeChar) = .ok (String.ofList front) ↔
      (StartsWithBom message → front = []) := by
  rw [utf8Decode_flatMap, Except.ok.injEq, String.ofList_inj, StartsWithBom]
  obtain ⟨back, same⟩ := inText
  rw [← same]
  cases front with
  | nil => exact iff_of_true rfl fun _ => rfl
  | cons c front =>
      rw [List.cons_append, List.head?_cons, List.head?_cons, List.tail_cons]
      by_cases marked : some c = some '\uFEFF'
      · rw [if_pos marked]
        apply iff_of_false
        · exact (List.cons_ne_self c front).symm
        · exact fun empty => List.cons_ne_nil c front (empty marked)
      · rw [if_neg marked]
        exact iff_of_true rfl fun marked' => absurd marked' marked

theorem returnsPrefix_iff (wording : Utf8.Fault → String) (message : String) :
    ReturnsPrefix wording message ↔
      CutsBetween message (copied message errorBufferSize) ∧
        (StartsWithBom message → copied message errorBufferSize = 0) := by
  have inside := copied_le message errorBufferSize
  have empty_iff : ∀ front : List Char, front.flatMap String.utf8EncodeChar =
      (utf8Bytes message).take (copied message errorBufferSize) →
        (front = [] ↔ copied message errorBufferSize = 0) := by
    intro front same
    have lengths := congrArg List.length same
    rw [List.length_take, Nat.min_eq_left inside] at lengths
    rw [← lengths, List.length_eq_zero_iff]
    constructor
    · rintro rfl
      rfl
    · intro none
      rw [← List.length_eq_zero_iff]
      have short := length_le_length_flatMap front
      rw [none] at short
      exact Nat.le_zero.mp short
  rw [cutsBetween_iff inside, ReturnsPrefix, getError_eq, odbcGetError_eq (by decide)]
  constructor
  · rintro ⟨front, inText, written, returned⟩
    have same := (List.append_cancel_right (Option.some.inj written)).symm
    rw [← same, utf8Decode_eq_self_iff wording inText, empty_iff front same] at returned
    exact ⟨⟨front, inText, same⟩, returned⟩
  · rintro ⟨⟨front, inText, same⟩, unmarked⟩
    refine ⟨front, inText, congrArg (fun bytes => some (bytes ++ [0])) same.symm, ?_⟩
    rw [← same, utf8Decode_eq_self_iff wording inText, empty_iff front same]
    exact unmarked

/-- For every text, every size of the buffer and every wording of the decoder: a prefix is written
and Dart returns the one that is written for it exactly when both cuts fall between characters and
the text that Dart reads does not start with a byte order mark. -/
theorem error_prefixes_iff (wording : Utf8.Fault → String) (message : String)
    (bufferLen : UInt32) :
    WritesPrefix message bufferLen ∧ ReturnsPrefix wording message ↔
      (bufferLen = 0 ∨ CutsBetween message (copied message bufferLen)) ∧
      CutsBetween message (copied message errorBufferSize) ∧
      (StartsWithBom message → copied message errorBufferSize = 0) := by
  rw [writesPrefix_iff, returnsPrefix_iff]

/-- Letters with a character of two bytes behind them. -/
def accented (letters : Nat) : String := String.ofList (List.replicate letters 'a' ++ ['é'])

theorem utf8Bytes_accented (letters : Nat) :
    utf8Bytes (accented letters) = List.replicate letters 0x61 ++ [0xC3, 0xA9] := by
  have letter : String.utf8EncodeChar 'a' = [0x61] := rfl
  have accent : [ 'é'].flatMap String.utf8EncodeChar = [0xC3, 0xA9] := rfl
  rw [accented, utf8Bytes_ofList, List.flatMap_append, List.flatMap_replicate, letter, accent,
    List.flatten_replicate_singleton]

theorem getElem?_accented (letters : Nat) :
    (utf8Bytes (accented letters))[letters + 1]? = some 0xA9 := by
  rw [utf8Bytes_accented, List.getElem?_append_right]
  · rw [List.length_replicate, Nat.add_sub_cancel_left]
    rfl
  · rw [List.length_replicate]
    exact Nat.le_succ letters

/-- So many letters that there is room for the first of the two bytes only: what is copied is cut
inside the character, and its decoding fails. -/
theorem accented_throws {letters : Nat} (long : 3 ≤ letters)
    (room : copied (accented letters) errorBufferSize = letters + 1)
    (wording : Utf8.Fault → String) :
    ¬ CutsBetween (accented letters) (copied (accented letters) errorBufferSize) ∧
      ∃ fault, getError wording ⟨some (accented letters), false⟩ =
        .error (.exception (.format (wording fault))) := by
  rw [room]
  refine ⟨fun between => between 0xA9 (getElem?_accented letters) (by decide), ?_⟩
  have unmarked : ((utf8Bytes (accented letters)).take (letters + 1)).take 3 ≠ bom := by
    have front : min 3 (letters + 1) ≤ (List.replicate letters (0x61 : UInt8)).length := by
      rw [List.length_replicate]
      omega
    rw [List.take_take, utf8Bytes_accented, List.take_append_of_le_length front,
      List.take_replicate, Nat.min_eq_left (show 3 ≤ letters + 1 by omega), Nat.min_eq_left long]
    decide
  rw [getError_eq, room, utf8Decode, if_neg unmarked, decodeStrict]
  have there := getElem?_accented letters
  rw [utf8Bytes_eq] at there ⊢
  obtain ⟨fault, failed⟩ := Utf8.strictFrom_take_of_isTail there (by decide) 0
  rw [failed]
  exact ⟨fault, rfl⟩

theorem copied_accented : copied (accented 4094) errorBufferSize = 4094 + 1 := by
  rw [copied, utf8Bytes_accented, List.length_append, List.length_replicate, List.length_cons,
    List.length_singleton]
  decide

/-- A text of 4096 bytes whose last character has two: Dart throws instead of returning it. -/
theorem accented_is_cut :
    ¬ WritesPrefix (accented 4094) errorBufferSize ∧
      ¬ ReturnsPrefix (fun _ => "Unfinished UTF-8 octet sequence") (accented 4094) ∧
      getError (fun _ => "Unfinished UTF-8 octet sequence") ⟨some (accented 4094), false⟩ =
        .error (.exception (.format "Unfinished UTF-8 octet sequence")) := by
  obtain ⟨inside, fault, throws⟩ := accented_throws (by decide) copied_accented
    fun _ => "Unfinished UTF-8 octet sequence"
  refine ⟨?_, fun returns => inside ((returnsPrefix_iff _ _).mp returns).1, throws⟩
  rw [writesPrefix_iff, or_iff_right (by decide)]
  exact inside

end OdbcFast.Verification
