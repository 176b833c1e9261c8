import OdbcFast.Dart.ParamValue
import OdbcFast.Verification.NativeBuffers

/-!
# Structured errors from the engine to the application

The engine writes an error as a SQLSTATE, a code and a text. Both decoders read back what it
writes and accept the same bytes, except that Dart throws for a text that is not UTF-8 and drops
a byte order mark. The engine keeps one error for each connection and the last of all. What an
application is told after a failed call is the last of all, so another call that fails in between
is told instead; the question for a connection is not disturbed.
-/

namespace OdbcFast.Verification

open Wire Dart

/-! ## Round trip -/

section

variable {error : Native.StructuredError}

theorem length_serialize (error : Native.StructuredError) :
    error.serialize.length = 13 + (utf8Bytes error.message).length := by
  simp only [Native.StructuredError.serialize, List.length_append, error.length_sqlstate,
    Native.length_i32Bytes, length_toLeBytes]
  omega

/-- The fields of an error that is written somewhere. -/
theorem serialize_fields (small : (utf8Bytes error.message).length < 256 ^ 4) (more : Bytes) :
    (error.serialize ++ more).take 5 = error.sqlstate ∧
      readLe 4 (error.serialize ++ more) 5 = error.nativeCode.toBitVec.toNat ∧
      readLe 4 (error.serialize ++ more) 9 = (utf8Bytes error.message).length ∧
      ((error.serialize ++ more).drop 13).take (utf8Bytes error.message).length =
        utf8Bytes error.message := by
  have five := error.length_sqlstate
  obtain ⟨state, rest⟩ := OccursAt.append_iff.mp (OccursAt.self_append error.serialize more)
  obtain ⟨code, rest⟩ := OccursAt.append_iff.mp rest
  obtain ⟨length, text⟩ := OccursAt.append_iff.mp rest
  rw [five, Nat.zero_add] at code length text
  rw [Native.length_i32Bytes] at length text
  rw [length_toLeBytes] at text
  refine ⟨?_, code.readLe error.nativeCode.toBitVec.isLt, length.readLe small, text.take_drop⟩
  have front := state.take_drop
  rwa [five] at front

theorem ofBitVec_toNat (n : Int32) : Int32.ofBitVec (BitVec.ofNat 32 n.toBitVec.toNat) = n := by
  rw [BitVec.ofNat_toNat, BitVec.setWidth_eq]
  rfl

theorem deserialize_serialize_append (small : (utf8Bytes error.message).length < 256 ^ 4)
    (more : Bytes) :
    Native.StructuredError.deserialize (error.serialize ++ more) = some error := by
  obtain ⟨state, code, length, text⟩ := serialize_fields small more
  have long := length_serialize error
  have whole : (error.serialize ++ more).length = error.serialize.length + more.length :=
    List.length_append
  rw [Native.StructuredError.deserialize, dif_neg (by omega), length, if_neg (by omega), text,
    decodeStrict_utf8Bytes]
  simp only [state, code, ofBitVec_toNat]

/-- A text without its last bytes. -/
theorem deserialize_front (small : (utf8Bytes error.message).length < 256 ^ 4) {front : Bytes}
    (begins : front <+: error.serialize) (proper : front ≠ error.serialize) :
    Native.StructuredError.deserialize front = none := by
  obtain ⟨rest, whole⟩ := begins
  have missing : 0 < rest.length := by
    rw [List.length_pos_iff]
    rintro rfl
    exact proper (by rw [← whole, List.append_nil])
  have long := length_serialize error
  have lengths : front.length + rest.length = error.serialize.length := by
    rw [← whole, List.length_append]
  rw [Native.StructuredError.deserialize]
  by_cases short : front.length < 13
  · rw [dif_pos short]
  · obtain ⟨-, -, length, -⟩ := serialize_fields small []
    rw [List.append_nil, ← whole, readLe_append rest (by omega)] at length
    rw [dif_neg short, length, if_pos (by omega)]

end

/-- The engine reads back the error that it has written, whatever stands behind it, and nothing
that is cut off. -/
theorem structuredError_roundTrip (error : Native.StructuredError)
    (small : (utf8Bytes error.message).length < 256 ^ 4) :
    (∀ more, Native.StructuredError.deserialize (error.serialize ++ more) = some error) ∧
      ∀ front, front <+: error.serialize → front ≠ error.serialize →
        Native.StructuredError.deserialize front = none :=
  ⟨deserialize_serialize_append small, fun _ => deserialize_front small⟩

/-- 42S02 with the number of SQL Server and a text that is not ASCII. -/
def unknownTable : Native.StructuredError where
  sqlstate := [0x34, 0x32, 0x53, 0x30, 0x32]
  nativeCode := 208
  message := "é?"
  length_sqlstate := rfl

theorem structuredError_roundTrip_unknownTable :
    Native.StructuredError.deserialize (unknownTable.serialize ++ [0]) = some unknownTable ∧
      Native.StructuredError.deserialize (unknownTable.serialize.take 15) = none := by
  obtain ⟨whole, front⟩ := structuredError_roundTrip unknownTable (by decide)
  exact ⟨whole [0], front _ (List.take_prefix _ _) (by decide)⟩

/-! ## Two decoders -/

/-- A text as Dart decodes it. -/
def unmarked (text : String) : String :=
  String.ofList (if text.toList.head? = some '\uFEFF' then text.toList.tail else text.toList)

/-- An error as Dart shows it. -/
def shownError (error : Native.StructuredError) : StructuredError where
  sqlStateString := decodeLatin1 error.sqlstate
  nativeCode := error.nativeCode.toInt
  message := unmarked error.message

/-- What is decoded does not depend on where in the input it stands. -/
theorem strictFrom_index {index skip : Nat} {bytes : Bytes} {text : List Char} (other : Nat)
    (decoded : Utf8.strictFrom index skip bytes = .ok text) :
    Utf8.strictFrom other skip bytes = .ok text := by
  induction bytes generalizing index other skip text with
  | nil =>
      cases skip <;> exact decoded
  | cons b bytes ih =>
      cases skip with
      | succ skip => exact ih _ decoded
      | zero =>
          rw [Utf8.strictFrom] at decoded ⊢
          generalize Utf8.first b bytes = one at decoded
          obtain ⟨found, length⟩ := one
          cases found with
          | none => cases decoded
          | some c =>
              obtain ⟨rest, later, rfl⟩ := map_eq_ok.mp decoded
              exact map_eq_ok.mpr ⟨rest, ih _ later, rfl⟩

theorem eq_of_ofNat_eq_mark {n : Nat} (same : Char.ofNat n = '\uFEFF') : n = 0xFEFF := by
  have value : (Char.ofNat n).toNat = 0xFEFF := congrArg Char.toNat same
  rw [Char.ofNat] at value
  by_cases valid : n.isValidChar
  · rw [dif_pos valid] at value
    exact value
  · rw [dif_neg valid] at value
    cases value

/-- The range of the second byte, and of the first by the length. -/
theorem lead?_bounds {b : UInt8} {length low high : Nat}
    (opens : Utf8.lead? b = some (length, low, high)) : 0x80 ≤ low ∧ high ≤ 0xBF ∧
      (length = 2 ∧ b.toNat ≤ 0xDF ∨ length = 3 ∧ 0xE0 ≤ b.toNat ∧ b.toNat ≤ 0xEF ∨
        length = 4 ∧ 0xF0 ≤ b.toNat ∧ (b.toNat = 0xF0 → 0x90 ≤ low)) := by
  rw [Utf8.lead?] at opens
  split_ifs at opens <;> cases opens <;> omega

/-- The mark has one spelling. -/
theorem take_bom_of_first {b : UInt8} {rest : Bytes} {length : Nat}
    (read : Utf8.first b rest = (some '\uFEFF', length)) : (b :: rest).take 3 = bom := by
  unfold Utf8.first at read
  by_cases ascii : b.toNat < 0x80
  · rw [if_pos ascii] at read
    have value := eq_of_ofNat_eq_mark (Option.some.inj (Prod.mk.inj read).1)
    omega
  rw [if_neg ascii] at read
  cases opens : Utf8.lead? b with
  | none =>
      rw [opens] at read
      cases read
  | some shape =>
      obtain ⟨size, low, high⟩ := shape
      obtain ⟨least, most, sizes⟩ := lead?_bounds opens
      rw [opens] at read
      cases rest with
      | nil => cases read
      | cons b₁ rest =>
          dsimp only at read
          by_cases second : low ≤ b₁.toNat ∧ b₁.toNat ≤ high
          swap
          · rw [if_neg second] at read
            cases read
          rw [if_pos second] at read
          by_cases two : size = 2
          · rw [if_pos two] at read
            have value := eq_of_ofNat_eq_mark (Option.some.inj (Prod.mk.inj read).1)
            omega
          rw [if_neg two] at read
          cases rest with
          | nil => cases read
          | cons b₂ rest =>
              dsimp only at read
              by_cases third : Utf8.isTail b₂ = true
              swap
              · rw [if_neg third] at read
                cases read
              rw [if_pos third] at read
              simp only [Utf8.isTail, Bool.and_eq_true, decide_eq_true_eq] at third
              by_cases three : size = 3
              · rw [if_pos three] at read
                have value := eq_of_ofNat_eq_mark (Option.some.inj (Prod.mk.inj read).1)
                have first : b = 0xEF := UInt8.toNat_inj.mp (show b.toNat = 0xEF by omega)
                have next : b₁ = 0xBB := UInt8.toNat_inj.mp (show b₁.toNat = 0xBB by omega)
                have last : b₂ = 0xBF := UInt8.toNat_inj.mp (show b₂.toNat = 0xBF by omega)
                rw [first, next, last]
                rfl
              rw [if_neg three] at read
              cases rest with
              | nil => cases read
              | cons b₃ rest =>
                  dsimp only at read
                  split_ifs at read
                  · have value := eq_of_ofNat_eq_mark (Option.some.inj (Prod.mk.inj read).1)
                    omega
                  · cases read

/-- What the engine takes for a text Dart takes for the same without a mark in front. -/
theorem utf8Decode_of_decodeStrict (wording : Utf8.Fault → String) {bytes : Bytes} {text : String}
    (decoded : decodeStrict bytes = .ok text) : utf8Decode wording bytes = .ok (unmarked text) := by
  obtain ⟨chars, strict, rfl⟩ := map_eq_ok.mp decoded
  rw [unmarked, String.toList_ofList, utf8Decode]
  by_cases marked : bytes.take 3 = bom
  · obtain ⟨next, read⟩ := Utf8.strictFrom_char 0 '\uFEFF' (bytes.drop 3)
    have split : String.utf8EncodeChar '\uFEFF' ++ bytes.drop 3 = bytes := by
      rw [show String.utf8EncodeChar '\uFEFF' = bom from rfl, ← marked, List.take_append_drop]
    rw [split, strict] at read
    obtain ⟨rest, behind, rfl⟩ := map_eq_ok.mp read.symm
    rw [if_pos marked, decodeStrict, strictFrom_index 0 behind]
    rfl
  · have plain : chars.head? ≠ some '\uFEFF' := by
      intro mark
      cases bytes with
      | nil =>
          rw [Utf8.strictFrom, Except.ok.injEq] at strict
          rw [← strict] at mark
          cases mark
      | cons b bytes =>
          rw [Utf8.strictFrom] at strict
          cases read : Utf8.first b bytes with
          | mk found length =>
              rw [read] at strict
              cases found with
              | none => cases strict
              | some c =>
                  obtain ⟨rest, -, rfl⟩ := map_eq_ok.mp strict
                  obtain rfl := Option.some.inj mark
                  exact marked (take_bom_of_first read)
    rw [if_neg marked, if_neg plain, decoded]

/-- What the engine does not take for a text Dart throws for. -/
theorem utf8Decode_of_error (wording : Utf8.Fault → String) {bytes : Bytes} {fault : Utf8.Fault}
    (failed : decodeStrict bytes = .error fault) :
    ∃ message, utf8Decode wording bytes = .error (.exception (.format message)) := by
  rw [utf8Decode]
  by_cases marked : bytes.take 3 = bom
  · rw [if_pos marked]
    cases decoded : decodeStrict (bytes.drop 3) with
    | error fault => exact ⟨_, rfl⟩
    | ok text =>
        obtain ⟨chars, decoded, -⟩ := map_eq_ok.mp decoded
        obtain ⟨next, read⟩ := Utf8.strictFrom_char 0 '\uFEFF' (bytes.drop 3)
        have split : String.utf8EncodeChar '\uFEFF' ++ bytes.drop 3 = bytes := by
          rw [show String.utf8EncodeChar '\uFEFF' = bom from rfl, ← marked, List.take_append_drop]
        rw [decodeStrict, ← split, read, strictFrom_index next decoded] at failed
        cases failed
  · rw [if_neg marked, failed]
    exact ⟨_, rfl⟩

theorem deserialize_of_some (wording : Utf8.Fault → String) {data : Bytes}
    {error : Native.StructuredError}
    (decoded : Native.StructuredError.deserialize data = some error) :
    StructuredError.deserialize wording data = .ok (some (shownError error)) := by
  rw [Native.StructuredError.deserialize] at decoded
  split_ifs at decoded with short cut
  cases text : decodeStrict ((data.drop 13).take (readLe 4 data 9)) with
  | error fault =>
      rw [text] at decoded
      cases decoded
  | ok message =>
      rw [text] at decoded
      cases decoded
      have code : signed 4 (readLe 4 data 5) =
          (Int32.ofBitVec (.ofNat 32 (readLe 4 data 5))).toInt := by
        have small : readLe 4 data 5 < 256 ^ 4 := by
          refine Nat.lt_of_lt_of_le (ofLeBytes_lt _) (Nat.pow_le_pow_right (Nat.succ_pos 255) ?_)
          exact List.length_take_le _ _
        have value := signed_toNat 4 (by decide) (BitVec.ofNat 32 (readLe 4 data 5))
        rwa [BitVec.toNat_ofNat, show (2 : Nat) ^ (8 * 4) = 256 ^ 4 by decide,
          Nat.mod_eq_of_lt small] at value
      rw [StructuredError.deserialize, if_neg short, if_neg cut,
        utf8Decode_of_decodeStrict wording text, ok_bind, code]
      rfl

theorem deserialize_of_none (wording : Utf8.Fault → String) {data : Bytes}
    (refused : Native.StructuredError.deserialize data = none) :
    StructuredError.deserialize wording data = .ok none ∨
      ∃ message, StructuredError.deserialize wording data =
        .error (.exception (.format message)) := by
  rw [Native.StructuredError.deserialize] at refused
  rw [StructuredError.deserialize]
  split_ifs at refused with short cut
  · exact .inl (if_pos short)
  · exact .inl (by rw [if_neg short, if_pos cut])
  · cases text : decodeStrict ((data.drop 13).take (readLe 4 data 9)) with
    | ok message =>
        rw [text] at refused
        cases refused
    | error fault =>
        obtain ⟨message, thrown⟩ := utf8Decode_of_error wording text
        refine .inr ⟨message, ?_⟩
        rw [if_neg short, if_neg cut, thrown]
        rfl

/-- Both decoders accept the same bytes, for the same error up to a byte order mark in front of
its text. What Dart throws for, if it does, is the text. -/
theorem structuredError_decoders_agree (wording : Utf8.Fault → String) (data : Bytes) :
    (∀ shown, StructuredError.deserialize wording data = .ok (some shown) ↔
      ∃ error, Native.StructuredError.deserialize data = some error ∧ shownError error = shown) ∧
    ∀ thrown, StructuredError.deserialize wording data = .error thrown →
      Native.StructuredError.deserialize data = none ∧
        ∃ message, thrown = .exception (.format message) := by
  cases decoded : Native.StructuredError.deserialize data with
  | some error =>
      rw [deserialize_of_some wording decoded]
      refine ⟨fun shown => ?_, fun thrown failed => by cases failed⟩
      constructor
      · intro same
        exact ⟨error, rfl, Option.some.inj (Except.ok.inj same)⟩
      · rintro ⟨_, same, rfl⟩
        rw [Option.some.inj same]
  | none =>
      obtain gaveUp | ⟨message, throws⟩ := deserialize_of_none wording decoded
      · rw [gaveUp]
        refine ⟨fun shown => ⟨fun same => ?_, ?_⟩, fun thrown failed => by cases failed⟩
        · cases Except.ok.inj same
        · rintro ⟨_, same, -⟩
          cases same
      · rw [throws]
        refine ⟨fun shown => ⟨fun same => ?_, ?_⟩, fun thrown failed => ?_⟩
        · cases same
        · rintro ⟨_, same, -⟩
          cases same
        · exact ⟨rfl, message, (Except.error.inj failed).symm⟩

/-! ## What is asked -/

/-- What Dart is told of an error: nothing, if the largest buffer is too small for it. -/
def told (found : Option Native.StructuredError) : Option StructuredError :=
  found.bind fun error =>
    if (error.serialize.length : Int) ≤ maxBufferSize then some (shownError error) else none

section

variable {registry : Native.ErrorRegistry} (wording : Utf8.Fault → String)

theorem callWithBuffer_none :
    callWithBuffer (fun _ => FfiAnswer.ofCode (1, [])) none = none := by
  rw [callWithBuffer, callWithSizes, if_pos (by decide)]
  rfl

/-- The question is answered from the first buffer that is large enough. -/
theorem callWithBuffer_serialize (error : Native.StructuredError) :
    callWithBuffer (fun size => FfiAnswer.ofCode
        (if error.serialize.length > size then (-2, []) else (0, error.serialize))) none =
      if (error.serialize.length : Int) ≤ maxBufferSize then some error.serialize else none := by
  have answers : (fun size => FfiAnswer.ofCode
      (if error.serialize.length > size then (-2, []) else (0, error.serialize))) =
      fun size => (Execution.produced error.serialize).answer size := by
    funext size
    by_cases fits : error.serialize.length ≤ size
    · rw [if_neg (Nat.not_lt.mpr fits), Execution.answer, if_pos fits]
      rfl
    · rw [if_pos (Nat.lt_of_not_le fits), Execution.answer, if_neg fits]
      rfl
  rw [answers]
  exact NativeCall.receive_produced error.serialize

theorem getStructuredErrorForConnection_eq (sound : registry.poisoned = false)
    (connectionId : Nat) :
    getStructuredErrorForConnection wording connectionId registry =
      .ok (told (registry.getConnectionStructuredError
        (if connectionId = 0 then none else some connectionId))) := by
  rw [getStructuredErrorForConnection]
  simp only [Native.ErrorRegistry.odbcGetStructuredErrorForConnection, sound, Bool.false_eq_true,
    if_false]
  cases registry.getConnectionStructuredError
      (if connectionId = 0 then none else some connectionId) with
  | none =>
      dsimp only
      rw [callWithBuffer_none]
      rfl
  | some error =>
      dsimp only
      rw [callWithBuffer_serialize, told, Option.bind_some]
      split_ifs with fits
      · have long := length_serialize error
        have some : error.serialize ≠ [] := by
          rw [← List.length_pos_iff]
          omega
        have small : (utf8Bytes error.message).length < 256 ^ 4 := by
          simp only [maxBufferSize] at fits
          omega
        have read := deserialize_of_some wording (deserialize_serialize_append small [])
        rw [List.append_nil] at read
        dsimp only
        rw [if_neg some, read]
      · rfl

theorem getStructuredError_eq (sound : registry.poisoned = false) :
    getStructuredError wording registry = .ok (told registry.lastStructuredError) :=
  getStructuredErrorForConnection_eq wording sound 0

/-- The fields travel from the worker one by one and are put together again. -/
theorem asyncGetStructuredError_worker (shown : Thrown → String) (requestId : Nat)
    (found : Option Native.StructuredError) :
    asyncGetStructuredError ⟨requestId, workerStructuredError shown (.ok (told found))⟩ =
      .ok (told found) := by
  cases asked : told found with
  | none => rfl
  | some se =>
      obtain ⟨error, rfl⟩ : ∃ error, shownError error = se := by
        obtain ⟨error, -, asked⟩ := Option.bind_eq_some_iff.mp asked
        split_ifs at asked
        exact ⟨error, Option.some.inj asked⟩
      have units : sqlStateUnits (some (decodeLatin1 error.sqlstate)) =
          (decodeLatin1 error.sqlstate).toList.map Char.toNat := by
        refine if_pos fun none => ?_
        have length := congrArg List.length none
        rw [List.length_map, Option.getD_some, decodeLatin1, String.toList_ofList, List.length_map,
          error.length_sqlstate] at length
        cases length
      have back : String.ofList (((decodeLatin1 error.sqlstate).toList.map Char.toNat).map
          Char.ofNat) = decodeLatin1 error.sqlstate := by
        have same : Char.ofNat ∘ Char.toNat = id := funext Char.ofNat_toNat
        rw [List.map_map, same, List.map_id, String.ofList_toList]
      have answered : interpret .getStructuredError (.structuredError (unmarked error.message)
          (some (decodeLatin1 error.sqlstate)) (some error.nativeCode.toInt) none) =
          .ok (.structuredError (some (unmarked error.message,
            (decodeLatin1 error.sqlstate).toList.map Char.toNat, error.nativeCode.toInt))) := by
        simp [interpret, units]
      show (interpret .getStructuredError (.structuredError (unmarked error.message)
        (some (decodeLatin1 error.sqlstate)) (some error.nativeCode.toInt) none) >>= _) = _
      rw [answered, ok_bind]
      show (Except.ok (some { message := unmarked error.message, nativeCode := error.nativeCode.toInt
                              sqlStateString := String.ofList (((decodeLatin1
                                error.sqlstate).toList.map Char.toNat).map Char.ofNat) }) :
        Completion (Option StructuredError)) = _
      rw [back]
      rfl

end

/-! ## Errors of several connections -/

/-- What changes the errors that are kept. -/
inductive ErrorEvent where
  | failed (connId : Nat) (error : String)
  | failedStructured (connId : Nat) (error : Native.StructuredError)
  | failedGlobally (error : String)
  | failedGloballyStructured (error : Native.StructuredError)
  | disconnected (connId : Nat)

namespace ErrorEvent

def apply (registry : Native.ErrorRegistry) : ErrorEvent → Native.ErrorRegistry
  | failed connId error => registry.setConnectionError connId error
  | failedStructured connId error => registry.setConnectionStructuredError connId error
  | failedGlobally error => registry.setError error
  | failedGloballyStructured error => registry.setStructuredError error
  | disconnected connId => registry.disconnect connId

def run (events : List ErrorEvent) (registry : Native.ErrorRegistry) : Native.ErrorRegistry :=
  events.foldl apply registry

/-- The connection that an event is about. -/
def connection : ErrorEvent → Option Nat
  | failed connId _ | failedStructured connId _ | disconnected connId => some connId
  | failedGlobally _ | failedGloballyStructured _ => none

/-- What the failure of a call says; a disconnect is none. -/
def failure : ErrorEvent → Option (Option Native.StructuredError)
  | failed _ _ | failedGlobally _ => some none
  | failedStructured _ error | failedGloballyStructured error => some (some error)
  | disconnected _ => none

variable {registry : Native.ErrorRegistry} {id : Nat}

theorem poisoned_apply (event : ErrorEvent) :
    (event.apply registry).poisoned = registry.poisoned := by
  cases event <;> rfl

theorem lookup_apply (event : ErrorEvent) (other : event.connection ≠ some id) :
    (event.apply registry).connectionErrors.lookup id = registry.connectionErrors.lookup id := by
  cases event with
  | failed connId error =>
      exact AList.lookup_insert_ne fun same => other (congrArg some same.symm)
  | failedStructured connId error =>
      exact AList.lookup_insert_ne fun same => other (congrArg some same.symm)
  | failedGlobally error => rfl
  | failedGloballyStructured error => rfl
  | disconnected connId =>
      exact AList.lookup_erase_ne fun same => other (congrArg some same.symm)

theorem lastStructuredError_apply (event : ErrorEvent) :
    (event.apply registry).lastStructuredError =
      event.failure.getD registry.lastStructuredError := by
  cases event <;> rfl

theorem poisoned_run (events : List ErrorEvent) :
    (run events registry).poisoned = registry.poisoned := by
  induction events generalizing registry with
  | nil => rfl
  | cons event events ih => rw [run, List.foldl_cons, ← run, ih, poisoned_apply]

theorem lookup_run {events : List ErrorEvent}
    (others : ∀ event ∈ events, event.connection ≠ some id) :
    (run events registry).connectionErrors.lookup id = registry.connectionErrors.lookup id := by
  induction events generalizing registry with
  | nil => rfl
  | cons event events ih =>
      obtain ⟨other, others⟩ := List.forall_mem_cons.mp others
      rw [run, List.foldl_cons, ← run, ih others, lookup_apply event other]

theorem lastStructuredError_run (events : List ErrorEvent) :
    (run events registry).lastStructuredError =
      (events.filterMap failure).getLast?.getD registry.lastStructuredError := by
  induction events generalizing registry with
  | nil => rfl
  | cons event events ih =>
      rw [run, List.foldl_cons, ← run, ih, lastStructuredError_apply]
      cases said : event.failure with
      | none => rw [List.filterMap_cons_none said]; rfl
      | some failure =>
          rw [List.filterMap_cons_some said, List.getLast?_cons]
          rfl

end ErrorEvent

/-- A failure on a connection is kept as the connection's own, with or without a state. -/
theorem getConnectionStructuredError_apply {event : ErrorEvent} {registry : Native.ErrorRegistry}
    {id : Nat} {said : Option Native.StructuredError} (about : event.connection = some id)
    (fails : event.failure = some said) :
    (event.apply registry).getConnectionStructuredError (some id) = said := by
  cases event with
  | failed connId error =>
      cases about
      cases fails
      rw [Native.ErrorRegistry.getConnectionStructuredError, ErrorEvent.apply,
        Native.ErrorRegistry.setConnectionError, AList.lookup_insert]
      rfl
  | failedStructured connId error =>
      cases about
      cases fails
      rw [Native.ErrorRegistry.getConnectionStructuredError, ErrorEvent.apply,
        Native.ErrorRegistry.setConnectionStructuredError, AList.lookup_insert]
      rfl
  | failedGlobally error => cases about
  | failedGloballyStructured error => cases about
  | disconnected connId => cases fails

/-- Behind a failure on a connection, whatever happens on others: the question for the connection
is answered with its own error, and the question of all with the last failure. -/
theorem errors_are_isolated (wording : Utf8.Fault → String) {registry : Native.ErrorRegistry}
    (sound : registry.poisoned = false) {id : Nat} (numbered : id ≠ 0) {first : ErrorEvent}
    {said : Option Native.StructuredError} (about : first.connection = some id)
    (fails : first.failure = some said) {later : List ErrorEvent}
    (others : ∀ event ∈ later, event.connection ≠ some id) :
    getStructuredErrorForConnection wording id (ErrorEvent.run (first :: later) registry) =
      .ok (told said) ∧
    getStructuredError wording (ErrorEvent.run (first :: later) registry) =
      .ok (told ((later.filterMap ErrorEvent.failure).getLast?.getD said)) := by
  have behind : ErrorEvent.run (first :: later) registry =
      ErrorEvent.run later (first.apply registry) := rfl
  have still : (ErrorEvent.run later (first.apply registry)).poisoned = false := by
    rw [ErrorEvent.poisoned_run, ErrorEvent.poisoned_apply]
    exact sound
  have own := @getConnectionStructuredError_apply _ registry _ _ about fails
  rw [behind]
  constructor
  · rw [getStructuredErrorForConnection_eq wording still, if_neg numbered, ← own]
    simp only [Native.ErrorRegistry.getConnectionStructuredError, ErrorEvent.lookup_run others]
  · rw [getStructuredError_eq wording still, ErrorEvent.lastStructuredError_run,
      ErrorEvent.lastStructuredError_apply, fails]
    rfl

/-- A second connection fails without a state, and a third is disconnected. -/
theorem errors_are_isolated_two :
    getStructuredErrorForConnection (fun _ => "malformed") 1 (ErrorEvent.run
        [.failedStructured 1 unknownTable, .failed 2 "lost", .disconnected 3] {}) =
      .ok (some ⟨"42S02", 208, "é?"⟩) ∧
    getStructuredError (fun _ => "malformed") (ErrorEvent.run
        [.failedStructured 1 unknownTable, .failed 2 "lost", .disconnected 3] {}) = .ok none := by
  have others : ∀ event ∈ [ErrorEvent.failed 2 "lost", .disconnected 3],
      event.connection ≠ some 1 := by
    simp [ErrorEvent.connection]
  have fails : (ErrorEvent.failedStructured 1 unknownTable).failure =
      some (some unknownTable) := rfl
  exact errors_are_isolated (fun _ => "malformed") rfl (by decide) rfl fails others

/-! ## What an application is told -/

/-- The failure that the repository makes of an engine's error. -/
def toldFailure (errorClass : ErrorClass) (error : Native.StructuredError) : OdbcError where
  errorClass := errorClass
  message := unmarked error.message
  sqlState := some (decodeLatin1 error.sqlstate)
  nativeCode := some error.nativeCode.toInt

/-- The engine's category in Dart. -/
def sameCategory : Native.ErrorCategory → ErrorCategory
  | .transient => .transient
  | .fatal => .fatal
  | .validation => .validation
  | .connectionLost => .connectionLost

/-- The errors whose category the SQLSTATE alone tells. -/
def KeepsCategory : Native.OdbcError → Prop
  | .validationError _ | .emptyConnectionString | .environmentNotInitialized | .poolError _ => False
  | .internalError msg => ¬ ("timeout".toList <:+: msg.toList ∨ "Timeout".toList <:+: msg.toList)
  | _ => True

section

variable {α : Type} {registry : Native.ErrorRegistry} (wording : Utf8.Fault → String)
  (shown : Thrown → String) (requestId : Nat) (errorClass : ErrorClass) (fallback : String)

theorem convertNativeErrorToFailure_told {errors : NativeErrors} {error : Native.StructuredError}
    (fits : (error.serialize.length : Int) ≤ maxBufferSize)
    (asked : errors.getStructuredError = .ok (told (some error))) :
    convertNativeErrorToFailure (α := α) errorClass fallback errors =
      .ok (.failure (toldFailure errorClass error)) := by
  rw [told, Option.bind_some, if_pos fits] at asked
  rw [convertNativeErrorToFailure, asked]
  rfl

end

theorem toNat_ofNat_byte (b : UInt8) : (Char.ofNat b.toNat).toNat = b.toNat := by
  have small : b.toNat < 256 := b.toNat_lt
  have valid : b.toNat.isValidChar := .inl (by omega)
  rw [Char.ofNat, dif_pos valid]
  rfl

theorem ofNat_byte_eq_iff (b : UInt8) (c : Char) : Char.ofNat b.toNat = c ↔ b.toNat = c.toNat := by
  constructor
  · rintro rfl
    exact (toNat_ofNat_byte b).symm
  · intro same
    rw [same, Char.ofNat_toNat]

/-- Both sides look for the same class of states. -/
theorem isRetryable_toldFailure (errorClass : ErrorClass) (error : Native.StructuredError) :
    (toldFailure errorClass error).isRetryable =
      Native.OdbcError.isConnectionState error.sqlstate := by
  have five := error.length_sqlstate
  rw [Bool.eq_iff_iff]
  show List.isPrefixOf ['0', '8'] (decodeLatin1 error.sqlstate).toList = true ↔ _
  rw [decodeLatin1, String.toList_ofList, Native.OdbcError.isConnectionState, decide_eq_true_eq]
  cases bytes : error.sqlstate with
  | nil =>
      rw [bytes] at five
      cases five
  | cons a rest =>
      cases rest with
      | nil =>
          rw [bytes] at five
          cases five
      | cons b rest =>
          simp only [List.map_cons, List.isPrefixOf, Bool.and_true, Bool.and_eq_true, beq_iff_eq,
            List.getElem?_cons_zero, List.getElem?_cons_succ, Option.some.injEq]
          rw [eq_comm, ofNat_byte_eq_iff, eq_comm (a := '8'), ofNat_byte_eq_iff,
            ← UInt8.toNat_inj, ← UInt8.toNat_inj]
          rfl

theorem category_toldFailure (error : Native.StructuredError) :
    (toldFailure .query error).category =
      if Native.OdbcError.isConnectionState error.sqlstate then .connectionLost else .fatal := by
  have state := isRetryable_toldFailure .query error
  have lost : (toldFailure .query error).isConnectionError =
      Native.OdbcError.isConnectionState error.sqlstate := state
  show (if (toldFailure .query error).isConnectionError then ErrorCategory.connectionLost
    else if (toldFailure .query error).isRetryable then .transient else .fatal) = _
  rw [lost, state]
  cases Native.OdbcError.isConnectionState error.sqlstate <;> rfl

theorem category_told_iff (err : Native.OdbcError) (five : err.sqlstate.length = 5) :
    (toldFailure .query (err.toStructured five)).category = sameCategory err.errorCategory ↔
      KeepsCategory err := by
  rw [category_toldFailure]
  show (if Native.OdbcError.isConnectionState err.sqlstate then _ else _) = _ ↔ _
  cases err with
  | structured sqlstate nativeCode message =>
      refine iff_of_true ?_ trivial
      show (if Native.OdbcError.isConnectionState sqlstate then ErrorCategory.connectionLost
        else .fatal) = sameCategory (if Native.OdbcError.isConnectionState sqlstate
          then .connectionLost else if Native.OdbcError.isConnectionState sqlstate
            then .transient else .fatal)
      cases Native.OdbcError.isConnectionState sqlstate <;> rfl
  | internalError msg =>
      show ErrorCategory.fatal = sameCategory (if decide ("timeout".toList <:+: msg.toList ∨
        "Timeout".toList <:+: msg.toList) = true then .transient else .fatal) ↔
          ¬ ("timeout".toList <:+: msg.toList ∨ "Timeout".toList <:+: msg.toList)
      split_ifs with late
      · exact iff_of_false (by decide) (not_not.mpr (of_decide_eq_true late))
      · exact iff_of_true rfl (of_decide_eq_false (Bool.eq_false_iff.mpr late))
  | validationError message =>
      exact iff_of_false (show ErrorCategory.fatal ≠ .validation by decide) id
  | poolError message => exact iff_of_false (show ErrorCategory.fatal ≠ .transient by decide) id
  | emptyConnectionString => exact iff_of_false (by decide) id
  | environmentNotInitialized => exact iff_of_false (by decide) id
  | _ => exact iff_of_true rfl trivial

/-- Whatever happens on other connections without failing, and through a worker or not, the
failure of a query is told with the engine's state, code and text. Its category is the engine's
exactly for the errors that the SQLSTATE tells apart. -/
theorem failed_query_is_told {α : Type} (wording : Utf8.Fault → String) (shown : Thrown → String)
    (requestId : Nat) (fallback : String) {registry : Native.ErrorRegistry}
    (sound : registry.poisoned = false) (connId : Nat) (err : Native.OdbcError)
    (five : err.sqlstate.length = 5) {later : List ErrorEvent}
    (quiet : ∀ event ∈ later, event.failure = none)
    (fits : ((err.toStructured five).serialize.length : Int) ≤ maxBufferSize) :
    (∀ errors ∈ [nativeErrors wording (ErrorEvent.run later
          (registry.setConnectionStructuredError connId (err.toStructured five))),
        workerErrors wording shown requestId (ErrorEvent.run later
          (registry.setConnectionStructuredError connId (err.toStructured five)))],
      convertNativeErrorToFailure (α := α) .query fallback errors =
        .ok (.failure (toldFailure .query (err.toStructured five)))) ∧
    ((toldFailure .query (err.toStructured five)).category = sameCategory err.errorCategory ↔
      KeepsCategory err) := by
  have still : (ErrorEvent.run later
      (registry.setConnectionStructuredError connId (err.toStructured five))).poisoned = false := by
    rw [ErrorEvent.poisoned_run]
    exact sound
  have asked : getStructuredError wording (ErrorEvent.run later
      (registry.setConnectionStructuredError connId (err.toStructured five))) =
      .ok (told (some (err.toStructured five))) := by
    rw [getStructuredError_eq wording still, ErrorEvent.lastStructuredError_run,
      List.filterMap_eq_nil_iff.mpr quiet]
    rfl
  constructor
  · rw [List.forall_mem_cons, List.forall_mem_singleton]
    refine ⟨convertNativeErrorToFailure_told .query fallback fits asked,
      convertNativeErrorToFailure_told .query fallback fits ?_⟩
    rw [workerErrors, asked, asyncGetStructuredError_worker]
  · exact category_told_iff err five

/-- A lost connection, behind which another one is closed. -/
theorem failed_query_is_told_lost :
    convertNativeErrorToFailure (α := Unit) .query "Query failed"
        (workerErrors (fun _ => "malformed") (fun _ => "thrown") 4
          (ErrorEvent.run [.disconnected 3]
            (({} : Native.ErrorRegistry).setConnectionStructuredError 1
              ⟨[0x30, 0x38, 0x53, 0x30, 0x31], 10054, "link", rfl⟩))) =
      .ok (.failure { errorClass := .query, message := "link", sqlState := some "08S01"
                      nativeCode := some 10054 }) := by
  have quiet : ∀ event ∈ [ErrorEvent.disconnected 3], event.failure = none := by
    simp [ErrorEvent.failure]
  obtain ⟨both, -⟩ := failed_query_is_told (fun _ => "malformed") (fun _ => "thrown") 4
    "Query failed"
    (show ({} : Native.ErrorRegistry).poisoned = false from rfl) 1
    (.structured [0x30, 0x38, 0x53, 0x30, 0x31] 10054 "link") rfl quiet (by decide)
  exact both _ (List.mem_cons_of_mem _ (List.mem_singleton_self _))

end OdbcFast.Verification
