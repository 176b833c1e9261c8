import OdbcFast.Dart.DirectedParam

/-!
# Parameters across the boundary

Both sides write a parameter value in one format, and what either of them writes is read
back by the engine. Only the engine knows the limits: Dart writes a list of any length and
a value of any size, which the engine then refuses, and cuts a number down to the width
of its tag.
-/

namespace OdbcFast.Verification

open Wire Native

/-- A value the engine accepts and Dart does not cut. -/
def Carried (pv : Dart.ParamValue) : Prop :=
  pv.InRange ∧ (Dart.toNative pv).payload.length ≤ maxParamValuePayloadLen

section

variable {δ : Type} (toParamValue : δ → Except Dart.ArgumentError Dart.ParamValue)

/-- Dart converts the value and accepts it with its direction, and the value is carried. -/
def ParamAccepted (d : Dart.DirectedParam δ) : Prop :=
  ∃ pv, toParamValue d.value = .ok pv ∧
    Dart.validateDirectedOutInOut d.direction pv = .ok () ∧ Carried pv

/-- The engine sees the direction that was given and the value that was meant. -/
def ParamArrives (d : Dart.DirectedParam δ) (b : BoundParam) : Prop :=
  b.direction = d.direction.toNative ∧ toParamValue d.value = .ok (Dart.ofNative b.value)

end

theorem deserializeParams_serializeParams {ps : List ParamValue}
    (few : ps.length ≤ maxParamCount) (small : WithinLimits ps) :
    deserializeParams (Dart.serializeParams (ps.map Dart.ofNative)) = .ok ps := by
  have same : (ps.map Dart.ofNative).map Dart.toNative = ps := by
    rw [List.map_map]
    exact (List.map_congr_left fun p _ => Dart.toNative_ofNative p).trans (List.map_id ps)
  rw [Dart.serializeParams_eq_wireParams, same]
  exact deserializeParams_wireParams few small

section

variable {δ : Type} {toParamValue : δ → Except Dart.ArgumentError Dart.ParamValue}
  {params : List (Dart.DirectedParam δ)}
  {converted : List (Dart.ParamDirection × Dart.ParamValue)}

/-- What is converted is written. -/
theorem serializeDirectedParams_of_converted
    (each : params.mapM (Dart.convertDirected toParamValue) = .ok converted) :
    Dart.serializeDirectedParams toParamValue params =
      .ok (wireDirected (converted.map Dart.boundParam)) := by
  have written : ∃ bytes, Dart.serializeDirectedParams toParamValue params = .ok bytes := by
    rw [Dart.serializeDirectedParams, each]
    exact ⟨_, rfl⟩
  obtain ⟨bytes, written⟩ := written
  obtain ⟨converted', each', -, rfl⟩ := Dart.serializeDirectedParams_eq_ok written
  obtain rfl := Except.ok.inj (each.symm.trans each')
  exact written

theorem convertDirected_eq_ok {d : Dart.DirectedParam δ}
    {one : Dart.ParamDirection × Dart.ParamValue}
    (made : Dart.convertDirected toParamValue d = .ok one) :
    one.1 = d.direction ∧ toParamValue d.value = .ok one.2 := by
  obtain ⟨pv, valued, made⟩ := bind_eq_ok.mp made
  obtain ⟨-, -, same⟩ := bind_eq_ok.mp made
  cases same
  exact ⟨rfl, valued⟩

/-- So it is the parameter that was meant. -/
theorem ParamArrives.eq {d : Dart.DirectedParam δ} {b : BoundParam} {pv : Dart.ParamValue}
    (arrives : ParamArrives toParamValue d b) (valued : toParamValue d.value = .ok pv) :
    b = ⟨d.direction.toNative, Dart.toNative pv⟩ := by
  obtain ⟨direction, value⟩ := b
  obtain ⟨same, arrived⟩ := arrives
  have meant : pv = Dart.ofNative value := Except.ok.inj (valued.symm.trans arrived)
  rw [BoundParam.mk.injEq, meant, Dart.toNative_ofNative]
  exact ⟨same, rfl⟩

/-- What is accepted one by one is converted as a list. -/
theorem exists_converted (accepted : ∀ d ∈ params, ParamAccepted toParamValue d) :
    ∃ converted, (∀ one ∈ converted, Carried one.2) ∧ List.Forall₂ (fun d one =>
      Dart.convertDirected toParamValue d = .ok one ∧ Carried one.2) params converted := by
  induction params with
  | nil => exact ⟨[], List.forall_mem_nil _, .nil⟩
  | cons d params ih =>
      obtain ⟨⟨pv, valued, valid, carried⟩, others⟩ := List.forall_mem_cons.mp accepted
      obtain ⟨converted, sizes, each⟩ := ih others
      have one : Dart.convertDirected toParamValue d = .ok (d.direction, pv) := by
        rw [Dart.convertDirected, valued, ok_bind, valid]
        rfl
      exact ⟨(d.direction, pv) :: converted, List.forall_mem_cons.mpr ⟨carried, sizes⟩,
        .cons ⟨one, carried⟩ each⟩

theorem directed_arrives (few : params.length ≤ maxParamCount)
    (accepted : ∀ d ∈ params, ParamAccepted toParamValue d) :
    ∃ bytes bound, Dart.serializeDirectedParams toParamValue params = .ok bytes ∧
      isDirectedParamBuffer bytes = true ∧
      deserializeParamBuffer bytes = .ok (.directed bound) ∧
      List.Forall₂ (ParamArrives toParamValue) params bound := by
  obtain ⟨converted, sizes, each⟩ := exists_converted accepted
  have made := mapM_eq_ok_iff.mpr (each.imp fun _ _ one => one.1)
  refine ⟨_, converted.map Dart.boundParam, serializeDirectedParams_of_converted made,
    isDirectedParamBuffer_wireDirected _, deserializeParamBuffer_wireDirected ?_ ?_, ?_⟩
  · rwa [List.length_map, ← each.length_eq]
  · intro p member
    rw [List.map_map] at member
    obtain ⟨one, there, rfl⟩ := List.mem_map.mp member
    exact (sizes one there).2
  · rw [List.forall₂_map_right_iff]
    refine each.imp fun d one ⟨made, carried⟩ => ?_
    obtain ⟨direction, valued⟩ := convertDirected_eq_ok made
    refine ⟨congrArg Dart.ParamDirection.toNative direction, valued.trans ?_⟩
    rw [Dart.boundParam, Dart.ofNative_toNative carried.1]

end

/-- A buffer that starts with the magic is never read as a plain list. -/
theorem not_legacy_of_magic {data : Bytes} (magic : data.take 4 = drt1)
    (params : List ParamValue) : deserializeParamBuffer data ≠ .ok (.legacy params) := by
  by_cases directed : isDirectedParamBuffer data = true
  · exact deserializeParamBuffer_ne_legacy directed params
  · intro read
    cases data with
    | nil => cases magic
    | cons byte data =>
        rw [deserializeParamBuffer] at read
        simp only [List.isEmpty_cons, Bool.false_eq_true, if_false, directed] at read
        obtain ⟨params', plain, -⟩ := bind_eq_ok.mp read
        exact deserializeParams_ne_ok_of_magic magic params' plain

/-- Plain lists within the limits are read back from either writer, directed lists within them
arrive with their directions and values, and neither kind of buffer is taken for the other. -/
theorem params_arrive :
    (∀ ps : List ParamValue, ps.length ≤ maxParamCount → WithinLimits ps →
      ∃ bytes, trySerializeParams ps = .ok bytes ∧ deserializeParams bytes = .ok ps ∧
        deserializeParams (Dart.serializeParams (ps.map Dart.ofNative)) = .ok ps) ∧
    (∀ (δ : Type) (toParamValue : δ → Except Dart.ArgumentError Dart.ParamValue)
        (params : List (Dart.DirectedParam δ)),
      params.length ≤ maxParamCount → (∀ d ∈ params, ParamAccepted toParamValue d) →
        ∃ bytes bound, Dart.serializeDirectedParams toParamValue params = .ok bytes ∧
          isDirectedParamBuffer bytes = true ∧
          deserializeParamBuffer bytes = .ok (.directed bound) ∧
          List.Forall₂ (ParamArrives toParamValue) params bound) ∧
    (∀ data ps, deserializeParams data = .ok ps →
      isDirectedParamBuffer data = false ∧ deserializeParamBuffer data = .ok (.legacy ps)) ∧
    (∀ data : Bytes, data.take 4 = drt1 → ∀ ps,
      deserializeParams data ≠ .ok ps ∧ deserializeParamBuffer data ≠ .ok (.legacy ps)) := by
  refine ⟨?_, ?_, ?_, ?_⟩
  · intro ps few small
    exact ⟨_, trySerializeParams_eq_wireParams few small, deserializeParams_wireParams few small,
      deserializeParams_serializeParams few small⟩
  · intro δ toParamValue params few accepted
    exact directed_arrives few accepted
  · intro data ps read
    exact ⟨isDirectedParamBuffer_eq_false_of_deserializeParams read,
      deserializeParamBuffer_of_deserializeParams read⟩
  · intro data magic ps
    exact ⟨deserializeParams_ne_ok_of_magic magic ps, not_legacy_of_magic magic ps⟩

/-- A plain list, and a directed one with both directions in it. -/
theorem params_arrive_two :
    (∃ bytes, trySerializeParams [.string "é", .integer (-1)] = .ok bytes ∧
      deserializeParams bytes = .ok [.string "é", .integer (-1)]) ∧
    ∃ bytes, Dart.serializeDirectedParams .ok
        [⟨.string "é", .inOut⟩, ⟨.int64 (-1), .input⟩] = .ok bytes ∧
      deserializeParamBuffer bytes =
        .ok (.directed [⟨.inOut, .string "é"⟩, ⟨.input, .bigInt (-1)⟩]) := by
  obtain ⟨plain, directed, -⟩ := params_arrive
  have small : WithinLimits [.string "é", .integer (-1)] := by decide
  obtain ⟨bytes, written, read, -⟩ := plain [.string "é", .integer (-1)] (by decide) small
  have accepted : ∀ d ∈ [(⟨.string "é", .inOut⟩ : Dart.DirectedParam Dart.ParamValue),
      ⟨.int64 (-1), .input⟩], ParamAccepted .ok d := by
    simp only [List.mem_cons, List.not_mem_nil, or_false, forall_eq_or_imp, forall_eq]
    exact ⟨⟨_, rfl, rfl, trivial, by decide⟩, ⟨_, rfl, rfl, by decide, by decide⟩⟩
  obtain ⟨bytes', bound, written', -, read', arrives⟩ := directed Dart.ParamValue .ok _
    (by decide) accepted
  refine ⟨⟨bytes, written, read⟩, bytes', written', read'.trans ?_⟩
  obtain _ | ⟨first, _ | ⟨second, _ | _⟩⟩ := arrives
  rw [first.eq rfl, second.eq rfl]
  rfl

/-- A list of nulls is written however long it is. -/
theorem convert_nulls (n : Nat) :
    (List.replicate n (⟨.null, .input⟩ : Dart.DirectedParam Dart.ParamValue)).mapM
      (Dart.convertDirected .ok) = .ok (List.replicate n (.input, .null)) := by
  have same : List.replicate n (Dart.ParamDirection.input, Dart.ParamValue.null) =
      (List.replicate n ⟨.null, .input⟩).map
        fun d : Dart.DirectedParam Dart.ParamValue => (d.direction, d.value) := by
    rw [List.map_replicate]
  rw [same]
  refine mapM_eq_ok fun d member => ?_
  obtain rfl := List.eq_of_mem_replicate member
  rfl

/-- Binary data is written however large it is. -/
theorem convert_binary (b : Bytes) :
    [(⟨.binary b, .input⟩ : Dart.DirectedParam Dart.ParamValue)].mapM
      (Dart.convertDirected .ok) = .ok [(.input, .binary b)] := rfl

/-- Dart writes a directed list with one parameter too many and one with a value too large, which
the engine refuses, and one with a number that is too wide, which arrives as another one. -/
theorem directed_beyond_limits :
    (∃ bytes, Dart.serializeDirectedParams .ok
          (List.replicate 4097 (⟨.null, .input⟩ : Dart.DirectedParam Dart.ParamValue)) = .ok bytes ∧
      deserializeParamBuffer bytes =
        .error (.validationError "DRT1 parameter count 4097 exceeds limit 4096")) ∧
    (∃ bytes, Dart.serializeDirectedParams .ok
          [⟨Dart.ParamValue.binary (List.replicate 16777217 0), .input⟩] = .ok bytes ∧
      deserializeParamBuffer bytes = .error (.validationError
        "ParamValue payload length 16777217 exceeds limit 16777216")) ∧
    ∃ bytes, Dart.serializeDirectedParams .ok [⟨Dart.ParamValue.int32 (2 ^ 31), .input⟩] =
          .ok bytes ∧
      deserializeParamBuffer bytes = .ok (.directed [⟨.input, .integer (-2147483648)⟩]) := by
  refine ⟨?_, ?_, ⟨_, rfl, rfl⟩⟩
  · refine ⟨_, serializeDirectedParams_of_converted (convert_nulls 4097), ?_⟩
    have length : ((List.replicate 4097 (Dart.ParamDirection.input, Dart.ParamValue.null)).map
        Dart.boundParam).length = 4097 := by
      rw [List.length_map, List.length_replicate]
    rw [deserializeParamBuffer_of_many (by rw [length]; decide) (by rw [length]; decide), length]
    rfl
  · refine ⟨_, serializeDirectedParams_of_converted
      (convert_binary (List.replicate 16777217 0)), ?_⟩
    have length : (Dart.boundParam (.input, .binary (List.replicate 16777217 0))).value.payload.length
        = 16777217 := List.length_replicate
    rw [List.map_singleton, deserializeParamBuffer_of_large (by rw [length]; decide)
      (by rw [length]; decide), length]
    rfl

end OdbcFast.Verification
