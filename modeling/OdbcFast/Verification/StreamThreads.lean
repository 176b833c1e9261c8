import OdbcFast.Native.Ffi.Clients

/-!
# Streams that several threads use

A fetch takes its stream out of the map, works without the lock and puts it back. In
between the stream is known to nobody: another call on it is answered as if it did not
exist, and a disconnect of its connection misses it, so that the fetch puts back what
was to be dropped. A disconnect that fails has dropped the streams of its connection all
the same. `openAfter` says which streams the answers so far leave open: only a close and
a disconnect that succeed end a stream. Where nobody else touches a stream that is out,
and no disconnect fails on a connection with streams, every open stream is known and a
closed one has left every map.
-/

namespace OdbcFast.Verification

open Wire Native Threads

variable {system next : Threads.System} {log : List Threads.Output} {output : Threads.Output}
  {streamId connId thread bufLen : Nat}

/-- The streams that are open behind an answer, each with its connection. -/
def openBehind (opened : Nat → Option Nat) : Threads.Output → Nat → Option Nat
  | .started connId (some streamId) => Function.update opened streamId (some connId)
  | .closed streamId 0 => Function.update opened streamId none
  | .disconnected connId .disconnected => fun streamId =>
      if opened streamId = some connId then none else opened streamId
  | _ => opened

/-- The streams that were opened and not closed, by the answers so far. -/
def openAfter (log : List Threads.Output) : Nat → Option Nat := log.foldl openBehind fun _ => none

@[simp] theorem openAfter_append (log : List Threads.Output) (output : Threads.Output) :
    openAfter (log ++ [output]) = openBehind (openAfter log) output := by
  rw [openAfter, List.foldl_append]
  rfl

/-- The call names a stream and is told that there is none. -/
def AnsweredInvalid (output : Threads.Output) (streamId : Nat) : Prop :=
  output = .fetched streamId .invalidStream ∨ output = .polled streamId none ∨
    output = .cancelled streamId 1 ∨ output = .closed streamId 1

/-- An open stream is never unknown, and one that is not open is in no map. -/
structure StreamsKnown (log : List Threads.Output) (state : GlobalState) : Prop where
  answered : ∀ before output after streamId, log = before ++ output :: after →
    AnsweredInvalid output streamId → openAfter before streamId = none
  gone : ∀ streamId, openAfter log streamId = none →
    state.streams.lookup streamId = none ∧ state.streamConnections.lookup streamId = none ∧
      state.pendingStreamChunks.lookup streamId = none

/-- A fetch has the stream out of the map. -/
def Out (system : Threads.System) (streamId : Nat) : Prop :=
  ∃ thread call, system.fetching.lookup thread = some call ∧ call.streamId = streamId

/-- Nobody names a stream that is out, disconnects its connection or gets its identifier, and no
disconnect of a connection with streams fails. -/
def OutRule : Threads.Event → Threads.System → Prop
  | .fetchBegin _ streamId _, system => ¬ Out system streamId
  | .poll streamId, system => ¬ Out system streamId
  | .cancel streamId, system => ¬ Out system streamId
  | .close streamId, system => ¬ Out system streamId
  | .disconnect connId known, system => system.global.connections.lookup connId ≠ none →
      ∀ streamId, system.global.streamConnections.lookup streamId = some connId →
        known = true ∧ ¬ Out system streamId
  | .streamStart connId live, system => ∀ streamId,
      (system.global.streamStart connId live).1 = some streamId → ¬ Out system streamId
  | _, _ => True

/-- Where an open stream and its chunk are. -/
structure OutInv (opened : Nat → Option Nat) (system : Threads.System) : Prop where
  closed : ∀ streamId, opened streamId = none →
    system.global.streams.lookup streamId = none ∧
      system.global.streamConnections.lookup streamId = none ∧
      system.global.pendingStreamChunks.lookup streamId = none ∧ ¬ Out system streamId
  known : ∀ streamId connId, opened streamId = some connId →
    system.global.streamConnections.lookup streamId = some connId ∧
      (system.global.streams.lookup streamId = none ↔ Out system streamId)
  alone : ∀ thread thread' call call', system.fetching.lookup thread = some call →
    system.fetching.lookup thread' = some call' → call.streamId = call'.streamId →
      thread = thread'

theorem outInv_initial : OutInv (fun _ => none) {} := by
  refine ⟨?_, ?_, ?_⟩
  · intro streamId _
    refine ⟨rfl, rfl, rfl, ?_⟩
    rintro ⟨thread, call, out, -⟩
    cases out
  · intro streamId connId there
    cases there
  · intro thread thread' call call' out
    cases out

namespace OutInv

variable {opened : Nat → Option Nat}

/-- A stream that is not in the map and not out is not open. -/
theorem closed_of_missing (inv : OutInv opened system) (inside : ¬ Out system streamId)
    (missing : system.global.streams.lookup streamId = none) : opened streamId = none := by
  by_contra there
  obtain ⟨connId, there⟩ := Option.ne_none_iff_exists'.mp there
  exact inside ((inv.known streamId connId there).2.mp missing)

/-- A step that leaves streams and fetches alone. -/
theorem frame (inv : OutInv opened system) (same : system.global.SameStreams next.global)
    (fetches : next.fetching = system.fetching) : OutInv opened next := by
  obtain ⟨streams, connections, pending⟩ := same
  have out (streamId : Nat) : Out next streamId ↔ Out system streamId := by rw [Out, fetches, Out]
  refine ⟨?_, ?_, ?_⟩
  · simp only [streams, connections, pending, out]
    exact inv.closed
  · simp only [streams, connections, out]
    exact inv.known
  · rw [fetches]
    exact inv.alone

/-- Putting back, in the map, a stream that is in the map. -/
theorem update {live live' : LiveStream} (inv : OutInv opened system)
    (found : system.global.streams.lookup streamId = some live) :
    OutInv opened { system with global := { system.global with
      streams := system.global.streams.insert streamId live' } } := by
  have missing (streamId' : Nat) :
      (system.global.streams.insert streamId live').lookup streamId' = none ↔
        system.global.streams.lookup streamId' = none := by
    by_cases same : streamId' = streamId
    · subst same
      simp [found]
    · rw [AList.lookup_insert_ne same]
  refine ⟨?_, ?_, inv.alone⟩
  · intro streamId' none
    obtain ⟨absent, rest⟩ := inv.closed streamId' none
    exact ⟨(missing streamId').mpr absent, rest⟩
  · intro streamId' connId there
    obtain ⟨connection, absent⟩ := inv.known streamId' connId there
    exact ⟨connection, (missing streamId').trans absent⟩

/-- Taking a stream out of the map. -/
theorem takeOut {live : LiveStream} (inv : OutInv opened system)
    (idle : system.fetching.lookup thread = none) (inside : ¬ Out system streamId)
    (found : system.global.streams.lookup streamId = some live) :
    OutInv opened { system with
      global := { system.global with streams := system.global.streams.erase streamId }
      fetching := system.fetching.insert thread ⟨streamId, bufLen, live⟩ } := by
  have out (streamId' : Nat) :
      Out { system with
        global := { system.global with streams := system.global.streams.erase streamId }
        fetching := system.fetching.insert thread ⟨streamId, bufLen, live⟩ } streamId' ↔
        streamId' = streamId ∨ Out system streamId' := by
    constructor
    · rintro ⟨thread', call, out, rfl⟩
      rcases HashMap.lookup_insert_eq_some.mp out with ⟨-, rfl⟩ | ⟨-, out⟩
      · exact .inl rfl
      · exact .inr ⟨thread', call, out, rfl⟩
    · rintro (rfl | ⟨thread', call, out, rfl⟩)
      · exact ⟨thread, _, AList.lookup_insert _, rfl⟩
      · refine ⟨thread', call, HashMap.lookup_insert_eq_some.mpr (.inr ⟨?_, out⟩), rfl⟩
        rintro rfl
        cases idle.symm.trans out
  refine ⟨?_, ?_, ?_⟩
  · intro streamId' none
    obtain ⟨absent, connection, pending, notOut⟩ := inv.closed streamId' none
    have other : streamId' ≠ streamId := by
      rintro rfl
      cases absent.symm.trans found
    refine ⟨(AList.lookup_erase_ne other).trans absent, connection, pending, ?_⟩
    rw [out]
    rintro (same | isOut)
    · exact other same
    · exact notOut isOut
  · intro streamId' connId there
    obtain ⟨connection, absent⟩ := inv.known streamId' connId there
    refine ⟨connection, ?_⟩
    rw [out]
    by_cases same : streamId' = streamId
    · subst same
      simp [AList.lookup_erase]
    · rw [AList.lookup_erase_ne same, absent]
      simp [same]
  · intro thread₁ thread₂ call₁ call₂ out₁ out₂ same
    rcases HashMap.lookup_insert_eq_some.mp out₁ with ⟨rfl, rfl⟩ | ⟨-, old₁⟩
    · rcases HashMap.lookup_insert_eq_some.mp out₂ with ⟨rfl, -⟩ | ⟨-, old₂⟩
      · rfl
      · exact absurd ⟨thread₂, call₂, old₂, same.symm⟩ inside
    · rcases HashMap.lookup_insert_eq_some.mp out₂ with ⟨-, rfl⟩ | ⟨-, old₂⟩
      · exact absurd ⟨thread₁, call₁, old₁, same⟩ inside
      · exact inv.alone thread₁ thread₂ call₁ call₂ old₁ old₂ same

/-- Putting it back, with a chunk that did not fit. -/
theorem putBack {call : FetchCall} {live : LiveStream} (inv : OutInv opened system)
    (isOut : system.fetching.lookup thread = some call)
    (pending : HashMap Nat PendingStreamChunk)
    (kept : ∀ streamId, streamId ≠ call.streamId →
      pending.lookup streamId = system.global.pendingStreamChunks.lookup streamId) :
    OutInv opened { system with
      global := { system.global with
        streams := system.global.streams.insert call.streamId live
        pendingStreamChunks := pending }
      fetching := system.fetching.erase thread } := by
  have out (streamId : Nat) :
      Out { system with
        global := { system.global with
          streams := system.global.streams.insert call.streamId live
          pendingStreamChunks := pending }
        fetching := system.fetching.erase thread } streamId ↔
        streamId ≠ call.streamId ∧ Out system streamId := by
    constructor
    · rintro ⟨thread', call', out, rfl⟩
      obtain ⟨other, out⟩ := HashMap.lookup_erase_eq_some.mp out
      refine ⟨?_, thread', call', out, rfl⟩
      intro same
      exact other (inv.alone thread' thread call' call out isOut same)
    · rintro ⟨other, thread', call', out, rfl⟩
      refine ⟨thread', call', HashMap.lookup_erase_eq_some.mpr ⟨?_, out⟩, rfl⟩
      rintro rfl
      cases isOut.symm.trans out
      exact other rfl
  refine ⟨?_, ?_, ?_⟩
  · intro streamId none
    obtain ⟨absent, connection, noChunk, notOut⟩ := inv.closed streamId none
    have other : streamId ≠ call.streamId := by
      rintro rfl
      exact notOut ⟨thread, call, isOut, rfl⟩
    refine ⟨(AList.lookup_insert_ne other).trans absent, connection,
      (kept streamId other).trans noChunk, ?_⟩
    rw [out]
    exact fun isOut' => notOut isOut'.2
  · intro streamId connId there
    obtain ⟨connection, absent⟩ := inv.known streamId connId there
    refine ⟨connection, ?_⟩
    rw [out]
    by_cases same : streamId = call.streamId
    · subst same
      simp
    · rw [AList.lookup_insert_ne same, absent]
      simp [same]
  · intro thread₁ thread₂ call₁ call₂ out₁ out₂ same
    exact inv.alone thread₁ thread₂ call₁ call₂ (HashMap.lookup_erase_eq_some.mp out₁).2
      (HashMap.lookup_erase_eq_some.mp out₂).2 same

/-- Delivering a chunk that waited. -/
theorem deliver (inv : OutInv opened system) (streamId : Nat) :
    OutInv opened { system with global := { system.global with
      pendingStreamChunks := system.global.pendingStreamChunks.erase streamId } } := by
  refine ⟨?_, inv.known, inv.alone⟩
  intro streamId' none
  obtain ⟨absent, connection, noChunk, notOut⟩ := inv.closed streamId' none
  refine ⟨absent, connection, ?_, notOut⟩
  by_cases same : streamId' = streamId
  · subst same
    exact AList.lookup_erase _ _
  · exact (AList.lookup_erase_ne same).trans noChunk

/-- The output of a call that names a stream. -/
def NamesStream : Threads.Output → Prop
  | .fetched _ _ | .polled _ _ | .cancelled _ _ | .closed _ _ => True
  | _ => False

theorem not_answeredInvalid_of_unnamed (unnamed : ¬ NamesStream output) (streamId : Nat) :
    ¬ AnsweredInvalid output streamId := by
  rintro (rfl | rfl | rfl | rfl) <;> exact unnamed trivial

theorem not_answeredInvalid_fetched {answer : FetchAnswer} (known : answer ≠ .invalidStream)
    (id streamId : Nat) : ¬ AnsweredInvalid (.fetched id answer) streamId := by
  rintro (invalid | invalid | invalid | invalid)
  · exact known (Threads.Output.fetched.inj invalid).2
  · cases invalid
  · cases invalid
  · cases invalid

/-- No stream was said to be unknown. -/
theorem quiet (known : ∀ streamId, ¬ AnsweredInvalid output streamId)
    (after : OutInv (openBehind opened output) next) :
    OutInv (openBehind opened output) next ∧
      ∀ streamId, AnsweredInvalid output streamId → opened streamId = none :=
  ⟨after, fun streamId invalid => absurd invalid (known streamId)⟩

theorem fetchBegin (inv : OutInv opened system) (inside : ¬ Out system streamId)
    (stepped : Threads.step (.fetchBegin thread streamId bufLen) system = some (next, output)) :
    OutInv (openBehind opened output) next ∧
      ∀ streamId, AnsweredInvalid output streamId → opened streamId = none := by
  rw [Threads.step] at stepped
  split_ifs at stepped with idle
  have free : system.fetching.lookup thread = none := by
    simp only [System.idle, decide_eq_true_eq, Option.isNone_iff_eq_none] at idle
    exact idle.1
  rw [GlobalState.fetchBegin] at stepped
  cases waiting : system.global.pendingStreamChunks.lookup streamId with
  | some pending =>
      rw [waiting] at stepped
      simp only at stepped
      split_ifs at stepped with large
      · cases stepped
        exact quiet (not_answeredInvalid_fetched (by simp) streamId) inv
      · cases stepped
        exact quiet (not_answeredInvalid_fetched (by simp) streamId) (inv.deliver streamId)
  | none =>
      rw [waiting] at stepped
      cases found : system.global.streams.lookup streamId with
      | some live =>
          rw [found] at stepped
          cases stepped
          exact quiet (not_answeredInvalid_of_unnamed id) (inv.takeOut free inside found)
      | none =>
          rw [found] at stepped
          cases stepped
          refine ⟨inv, ?_⟩
          rintro _ (invalid | invalid | invalid | invalid) <;> cases invalid
          exact inv.closed_of_missing inside found

theorem fetchFinish (inv : OutInv opened system)
    (stepped : Threads.step (.fetchFinish thread) system = some (next, output)) :
    OutInv (openBehind opened output) next ∧
      ∀ streamId, AnsweredInvalid output streamId → opened streamId = none := by
  simp only [Threads.step, Option.bind_eq_bind, Option.bind_eq_some_iff] at stepped
  obtain ⟨call, out, ⟨answer, global⟩, finished, same⟩ := stepped
  cases same
  obtain ⟨⟨result, kind⟩, -, finished⟩ := Option.map_eq_some_iff.mp finished
  simp only at finished
  split at finished
  · split_ifs at finished
    · cases finished
      exact quiet (not_answeredInvalid_fetched (by simp) call.streamId)
        (inv.putBack out _ fun streamId other => AList.lookup_insert_ne other)
    · cases finished
      exact quiet (not_answeredInvalid_fetched (by simp) call.streamId)
        (inv.putBack out _ fun _ _ => rfl)
  · cases finished
    exact quiet (not_answeredInvalid_fetched (by simp) call.streamId)
      (inv.putBack out _ fun _ _ => rfl)
  · cases finished
    exact quiet (not_answeredInvalid_fetched (by simp) call.streamId)
      (inv.putBack out _ fun _ _ => rfl)

/-- Closing a stream takes it out of every map. -/
theorem close (inv : OutInv opened system) (inside : ¬ Out system streamId) :
    OutInv (openBehind opened (.closed streamId (system.global.odbcStreamClose streamId).1))
        { system with global := (system.global.odbcStreamClose streamId).2 } ∧
      ((system.global.odbcStreamClose streamId).1 = 1 → opened streamId = none) := by
  rw [GlobalState.odbcStreamClose]
  split
  · refine ⟨⟨?_, ?_, inv.alone⟩, by rintro ⟨⟩⟩
    · intro streamId' none
      by_cases same : streamId' = streamId
      · subst same
        exact ⟨AList.lookup_erase _ _, AList.lookup_erase _ _, AList.lookup_erase _ _, inside⟩
      · simp only [openBehind, Function.update_of_ne same] at none
        obtain ⟨absent, connection, noChunk, notOut⟩ := inv.closed streamId' none
        exact ⟨(AList.lookup_erase_ne same).trans absent,
          (AList.lookup_erase_ne same).trans connection,
          (AList.lookup_erase_ne same).trans noChunk, notOut⟩
    · intro streamId' connId there
      have same : streamId' ≠ streamId := by
        rintro rfl
        simp [openBehind] at there
      simp only [openBehind, Function.update_of_ne same] at there
      obtain ⟨connection, absent⟩ := inv.known streamId' connId there
      refine ⟨(AList.lookup_erase_ne same).trans connection, ?_⟩
      rw [AList.lookup_erase_ne same]
      exact absent
  · next missing => exact ⟨inv, fun _ => inv.closed_of_missing inside missing⟩

/-- A disconnect that succeeds finds every stream of its connection, and one that fails has none
to drop. -/
theorem disconnect (inv : OutInv opened system) (known : Bool)
    (inside : system.global.connections.lookup connId ≠ none →
      ∀ streamId, system.global.streamConnections.lookup streamId = some connId →
        known = true ∧ ¬ Out system streamId) :
    OutInv (openBehind opened (.disconnected connId
        (system.global.odbcDisconnect connId known).1))
      { system with global := (system.global.odbcDisconnect connId known).2 } := by
  rw [GlobalState.odbcDisconnect]
  split
  · exact inv
  · next found =>
    have inside := inside (by simp [found])
    -- the streams of the connection are those the maps give for it
    have owned (streamId : Nat) : system.global.streamConnections.lookup streamId = some connId ↔
        opened streamId = some connId := by
      cases there : opened streamId with
      | none => simp [(inv.closed streamId there).2.1]
      | some connId' => rw [(inv.known streamId connId' there).1]
    have behind : openBehind opened (.disconnected connId
        (if known then .disconnected else .failed)) = fun streamId =>
          if opened streamId = some connId then none else opened streamId := by
      cases known with
      | true => rfl
      | false =>
          funext streamId
          have other : opened streamId ≠ some connId := by
            intro mine
            cases (inside streamId ((owned streamId).mpr mine)).1
          exact (if_neg other).symm
    rw [behind]
    refine ⟨?_, ?_, inv.alone⟩
    · intro streamId none
      simp only [HashMap.lookup_retain_eq_none, owned]
      by_cases mine : opened streamId = some connId
      · refine ⟨by simp [mine], by simp [mine], by simp [mine], ?_⟩
        exact (inside streamId ((owned streamId).mpr mine)).2
      · rw [if_neg mine] at none
        obtain ⟨absent, connection, noChunk, notOut⟩ := inv.closed streamId none
        simp only [absent, connection, noChunk, reduceCtorEq, false_implies, implies_true,
          true_and]
        exact notOut
    · intro streamId connId' there
      have other : opened streamId ≠ some connId := by
        intro mine
        simp [mine] at there
      rw [if_neg other] at there
      obtain ⟨connection, absent⟩ := inv.known streamId connId' there
      refine ⟨HashMap.lookup_retain_eq_some.mpr ⟨connection, by simp [owned, other]⟩, ?_⟩
      rw [HashMap.lookup_retain_eq_none]
      simp only [owned, other, decide_false, Bool.false_eq_true, not_false_eq_true, decide_true,
        Bool.true_eq_false, imp_false]
      rw [← Option.eq_none_iff_forall_ne_some]
      exact absent

/-- A new stream gets an identifier that is free in every map. -/
theorem streamStart {live : LiveStream} (inv : OutInv opened system)
    (inside : ∀ streamId, (system.global.streamStart connId live).1 = some streamId →
      ¬ Out system streamId) :
    OutInv (openBehind opened (.started connId (system.global.streamStart connId live).1))
      { system with global := (system.global.streamStart connId live).2 } := by
  rw [GlobalState.streamStart] at inside ⊢
  simp only at inside ⊢
  split
  · exact inv.frame ⟨rfl, rfl, rfl⟩ rfl
  · next streamId allocated =>
      obtain ⟨-, free⟩ := allocateFrom_spec allocated
      have missing : system.global.streams.lookup streamId = none := by simpa using free
      have notOut : ¬ Out system streamId := inside streamId (by rw [allocated])
      refine ⟨?_, ?_, inv.alone⟩
      · intro streamId' none
        have same : streamId' ≠ streamId := by
          rintro rfl
          simp [openBehind] at none
        simp only [openBehind, Function.update_of_ne same] at none
        obtain ⟨absent, connection, noChunk', notOut'⟩ := inv.closed streamId' none
        exact ⟨(AList.lookup_insert_ne same).trans absent,
          (AList.lookup_insert_ne same).trans connection, noChunk', notOut'⟩
      · intro streamId' connId' there
        by_cases same : streamId' = streamId
        · subst same
          simp only [openBehind, Function.update_self, Option.some.injEq] at there
          subst there
          refine ⟨AList.lookup_insert _, ?_⟩
          rw [AList.lookup_insert]
          exact ⟨by rintro ⟨⟩, fun out => absurd out notOut⟩
        · simp only [openBehind, Function.update_of_ne same] at there
          obtain ⟨connection, absent⟩ := inv.known streamId' connId' there
          refine ⟨(AList.lookup_insert_ne same).trans connection, ?_⟩
          rw [AList.lookup_insert_ne same]
          exact absent

/-- A worker moves while a fetch has its stream. -/
theorem workFetching {call : FetchCall} {live : LiveStream} (inv : OutInv opened system)
    (isOut : system.fetching.lookup thread = some call) :
    OutInv opened { system with
      fetching := system.fetching.insert thread { call with live } } := by
  -- the entry of the thread still names the same stream
  have named {thread' : Nat} {call' : FetchCall}
      (out : (system.fetching.insert thread { call with live }).lookup thread' = some call') :
      ∃ call₀, system.fetching.lookup thread' = some call₀ ∧ call₀.streamId = call'.streamId := by
    rcases HashMap.lookup_insert_eq_some.mp out with ⟨rfl, rfl⟩ | ⟨-, out⟩
    · exact ⟨call, isOut, rfl⟩
    · exact ⟨call', out, rfl⟩
  have out (streamId : Nat) :
      Out { system with fetching := system.fetching.insert thread { call with live } } streamId ↔
        Out system streamId := by
    constructor
    · rintro ⟨thread', call', out, rfl⟩
      obtain ⟨call₀, out₀, same⟩ := named out
      exact ⟨thread', call₀, out₀, same⟩
    · rintro ⟨thread', call', out, rfl⟩
      by_cases same : thread' = thread
      · subst same
        cases isOut.symm.trans out
        exact ⟨thread', _, AList.lookup_insert _, rfl⟩
      · exact ⟨thread', call', (AList.lookup_insert_ne same).trans out, rfl⟩
  refine ⟨?_, ?_, ?_⟩
  · simp only [out]
    exact inv.closed
  · simp only [out]
    exact inv.known
  · intro thread₁ thread₂ call₁ call₂ out₁ out₂ same
    obtain ⟨_, old₁, same₁⟩ := named out₁
    obtain ⟨_, old₂, same₂⟩ := named out₂
    exact inv.alone thread₁ thread₂ _ _ old₁ old₂ (same₁.trans (same.trans same₂.symm))

/-- An output that neither opens nor closes a stream nor denies one. -/
theorem step {event : Threads.Event} (inv : OutInv opened system) (rule : OutRule event system)
    (stepped : Threads.step event system = some (next, output)) :
    OutInv (openBehind opened output) next ∧
      ∀ streamId, AnsweredInvalid output streamId → opened streamId = none := by
  cases event with
  | connect connId =>
      cases stepped
      exact quiet (not_answeredInvalid_of_unnamed id) (inv.frame ⟨rfl, rfl, rfl⟩ rfl)
  | disconnect connId known =>
      cases stepped
      exact quiet (not_answeredInvalid_of_unnamed id) (inv.disconnect known rule)
  | streamStart connId live =>
      cases stepped
      exact quiet (not_answeredInvalid_of_unnamed id) (inv.streamStart rule)
  | work streamId event =>
      obtain ⟨global, worked, same⟩ := Option.map_eq_some_iff.mp stepped
      cases same
      simp only [StreamClient.work, Option.bind_eq_bind, Option.bind_eq_some_iff] at worked
      obtain ⟨live, found, live', -, same⟩ := worked
      cases same
      exact quiet (not_answeredInvalid_of_unnamed id) (inv.update found)
  | workFetching thread event =>
      simp only [Threads.step, Option.bind_eq_bind, Option.bind_eq_some_iff] at stepped
      obtain ⟨call, isOut, live, -, same⟩ := stepped
      cases same
      exact quiet (not_answeredInvalid_of_unnamed id) (inv.workFetching isOut)
  | fetchBegin thread streamId bufLen => exact inv.fetchBegin rule stepped
  | fetchFinish thread => exact inv.fetchFinish stepped
  | poll streamId =>
      rw [Threads.step, GlobalState.odbcStreamPollAsync] at stepped
      cases found : system.global.streams.lookup streamId with
      | none =>
          rw [found] at stepped
          cases stepped
          refine ⟨inv, ?_⟩
          rintro _ (invalid | invalid | invalid | invalid) <;> cases invalid
          exact inv.closed_of_missing rule found
      | some live =>
          rw [found] at stepped
          cases stepped
          refine ⟨inv.update found, ?_⟩
          rintro _ (invalid | invalid | invalid | invalid) <;> cases invalid
  | cancel streamId =>
      cases stepped
      rw [GlobalState.odbcStreamCancel]
      cases found : system.global.streams.lookup streamId with
      | none =>
          refine ⟨inv, ?_⟩
          rintro _ (invalid | invalid | invalid | invalid) <;> cases invalid
          exact inv.closed_of_missing rule found
      | some live =>
          refine ⟨inv, ?_⟩
          rintro _ (invalid | invalid | invalid | invalid) <;> cases invalid
  | close streamId =>
      cases stepped
      obtain ⟨after, missing⟩ := inv.close rule
      refine ⟨after, ?_⟩
      rintro streamId' (invalid | invalid | invalid | invalid)
      · cases invalid
      · cases invalid
      · cases invalid
      · obtain ⟨rfl, code⟩ := Threads.Output.closed.inj invalid
        exact missing code
  | transactionCheck thread connId isolationLevel =>
      rw [Threads.step] at stepped
      split_ifs at stepped
      split at stepped
      · cases stepped
        exact quiet (not_answeredInvalid_of_unnamed id) inv
      · cases stepped
        exact quiet (not_answeredInvalid_of_unnamed id) (inv.frame ⟨rfl, rfl, rfl⟩ rfl)
  | transactionStore thread txnResult =>
      simp only [Threads.step, Option.bind_eq_bind, Option.bind_eq_some_iff] at stepped
      obtain ⟨connId, -, same⟩ := stepped
      cases same
      exact quiet (not_answeredInvalid_of_unnamed id)
        (inv.frame (system.global.transactionStore_sameStreams connId txnResult) rfl)
  | transactionEnd txnId =>
      cases stepped
      exact quiet (not_answeredInvalid_of_unnamed id) (inv.frame ⟨rfl, rfl, rfl⟩ rfl)

end OutInv

/-- In every run that keeps the rule an open stream is known to every call, and a stream that
was closed, or lost its connection, is in no map until its identifier is given again. -/
theorem streamsKnown_of_run (events : List Threads.Event)
    (along : Along Threads.step OutRule events {})
    (ran : run Threads.step events {} = some (system, log)) :
    StreamsKnown log system.global := by
  have reached {events : List Threads.Event} {system : Threads.System}
      {log : List Threads.Output} (along : Along Threads.step OutRule events {})
      (ran : run Threads.step events {} = some (system, log)) : OutInv (openAfter log) system := by
    refine run_invariant_along (fun log system => OutInv (openAfter log) system) ?_ []
      outInv_initial along ran
    intro log event system next output inv rule stepped
    rw [openAfter_append]
    exact (inv.step rule stepped).1
  refine ⟨?_, ?_⟩
  · rintro before output after streamId rfl invalid
    obtain ⟨_, event, middle, next, ran, along, rule, stepped⟩ := run_split_along along ran
    exact ((reached along ran).step rule stepped).2 streamId invalid
  · intro streamId none
    obtain ⟨absent, connection, noChunk, -⟩ := (reached along ran).closed streamId none
    exact ⟨absent, connection, noChunk⟩

/-- A stream of a complete result. -/
def completeResult (data : Bytes) : LiveStream := ⟨[], .buffer (.inMemory { data, chunkSize := 2 })⟩

/-- A stream is fetched from, then closed, and then unknown; another one is gone when its
connection is. -/
theorem streamsKnown_of_run_closed :
    ∃ system log, run Threads.step [.connect 1, .streamStart 1 (completeResult [1, 2]),
        .fetchBegin 10 1 8, .fetchFinish 10, .close 1, .poll 1,
        .streamStart 1 (completeResult [3]), .disconnect 1 true, .poll 2] {} =
          some (system, log) ∧
      log = [.worked, .started 1 (some 1), .worked, .fetched 1 (.delivered [1, 2] false),
        .closed 1 0, .polled 1 none, .started 1 (some 2), .disconnected 1 .disconnected,
        .polled 2 none] ∧
      StreamsKnown log system.global := by
  have inside {system : Threads.System} (empty : system.fetching.entries = []) (streamId : Nat) :
      ¬ Out system streamId := by
    rintro ⟨thread, call, out, -⟩
    have member := AList.mem_lookup_iff.mp out
    rw [empty] at member
    cases member
  have along : Along Threads.step OutRule [.connect 1, .streamStart 1 (completeResult [1, 2]),
      .fetchBegin 10 1 8, .fetchFinish 10, .close 1, .poll 1,
      .streamStart 1 (completeResult [3]), .disconnect 1 true, .poll 2] {} :=
    (along_cons_iff rfl).mpr ⟨trivial, (along_cons_iff rfl).mpr ⟨fun _ _ => inside rfl _,
      (along_cons_iff rfl).mpr ⟨inside rfl _, (along_cons_iff rfl).mpr ⟨trivial,
        (along_cons_iff rfl).mpr ⟨inside rfl _, (along_cons_iff rfl).mpr ⟨inside rfl _,
          (along_cons_iff rfl).mpr ⟨fun _ _ => inside rfl _,
            (along_cons_iff rfl).mpr ⟨fun _ _ _ => ⟨rfl, inside rfl _⟩,
              (along_cons_iff rfl).mpr ⟨inside rfl _, trivial⟩⟩⟩⟩⟩⟩⟩⟩⟩
  exact ⟨_, _, rfl, rfl, streamsKnown_of_run _ along rfl⟩

/-- A poll is told that there is no such stream while a fetch has it. -/
theorem fetch_hides_stream :
    ¬ ∀ (events : List Threads.Event) (system : Threads.System) (log : List Threads.Output),
      run Threads.step events {} = some (system, log) → StreamsKnown log system.global := by
  intro always
  have known := always [.connect 1, .streamStart 1 (completeResult [1, 2]), .fetchBegin 10 1 8,
    .poll 1] _ _ rfl
  have closed := known.answered [.worked, .started 1 (some 1), .worked] (.polled 1 none) [] 1 rfl
    (.inr (.inl rfl))
  cases closed

end OdbcFast.Verification
