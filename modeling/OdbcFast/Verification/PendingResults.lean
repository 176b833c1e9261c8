import OdbcFast.Native.Ffi.PendingResults
import OdbcFast.Wire.Machine

/-!
# Where a kept result comes from

The key under which a result is kept tells the entry points apart, with one exception:
`odbc_exec_query_multi_params` builds the key of `odbc_exec_query_params`, so each of the two
is served with what the other has left. No other pair of calls shares a key unless two texts
share their hash.
-/

namespace OdbcFast.Verification

open Wire Native Native.PendingCalls

/-! ## What is promised -/

/-- Whatever is written from the map was left there by the same call. -/
def ServesOwn (log : List Output) : Prop :=
  ∀ before call data after, log = before ++ .answered call (.served (.written data)) :: after →
    ∃ need got, .answered call (.executed (.ok data) (.tooSmall need got)) ∈ before

/-! ## When it holds -/

/-- The text of a call; a statement has none of its own. -/
def sqlOf : ExecCall → Option String
  | .execQuery _ sql | .execQueryParams _ sql _ | .execQueryMulti _ sql
  | .execQueryMultiParams _ sql _ => some sql
  | .execute _ _ _ _ => none

def paramsOf : ExecCall → Bytes
  | .execQueryParams _ _ params | .execQueryMultiParams _ _ params | .execute _ params _ _ => params
  | .execQuery _ _ | .execQueryMulti _ _ => []

/-- The hash tells the texts and the parameters of the two calls apart. -/
structure Distinguished (hashBytes : Bytes → UInt64) (call call' : ExecCall) : Prop where
  sql : ∀ sql ∈ sqlOf call, ∀ sql' ∈ sqlOf call',
    sqlHash hashBytes sql = sqlHash hashBytes sql' → sql = sql'
  params : paramsHash hashBytes (paramsOf call) = paramsHash hashBytes (paramsOf call') →
    paramsOf call = paramsOf call'

/-- One call is `odbc_exec_query_params`, the other `odbc_exec_query_multi_params`. -/
def Swapped : ExecCall → ExecCall → Prop
  | .execQueryParams _ _ _, .execQueryMultiParams _ _ _ => True
  | .execQueryMultiParams _ _ _, .execQueryParams _ _ _ => True
  | _, _ => False

/-- What is kept under the key of a call that is made now. -/
def Meets (hashBytes : Bytes → UInt64) (rule : ExecCall → ExecCall → Prop) :
    Event → System → Prop
  | .exec call _ _, system => ∀ entry,
      system.state.buffers.lookup (call.pendingKey hashBytes) = some entry → rule call entry.call
  | .beginExecQuery _ connId sql _, system => ∀ entry,
      system.state.buffers.lookup ((ExecCall.execQuery connId sql).pendingKey hashBytes) =
        some entry → rule (.execQuery connId sql) entry.call
  | _, _ => True

/-- A call with parameters is not made while the other entry point's result is kept under its
key; the hash is assumed not to collide. -/
def ServeRule (hashBytes : Bytes → UInt64) : Event → System → Prop :=
  Meets hashBytes fun call kept => Distinguished hashBytes call kept ∧ ¬ Swapped call kept

/-- The key determines the call, but for the one pair of entry points. -/
theorem eq_of_pendingKey_eq {hashBytes : Bytes → UInt64} {call call' : ExecCall}
    (distinguished : Distinguished hashBytes call call') (apart : ¬ Swapped call call')
    (same : call.pendingKey hashBytes = call'.pendingKey hashBytes) : call = call' := by
  obtain ⟨sql, params⟩ := distinguished
  cases call with
  | execQuery connId text =>
      cases call' with
      | execQuery connId' text' =>
          obtain ⟨rfl, hash⟩ := PendingResultKey.execQuery.inj same
          rw [sql text rfl text' rfl hash]
      | execQueryParams | execQueryMulti | execQueryMultiParams | execute => cases same
  | execQueryParams connId text values =>
      cases call' with
      | execQueryParams connId' text' values' =>
          obtain ⟨rfl, hash, hash'⟩ := PendingResultKey.execQueryParams.inj same
          rw [sql text rfl text' rfl hash, show values = values' from params hash']
      | execQueryMultiParams => exact absurd trivial apart
      | execQuery | execQueryMulti | execute => cases same
  | execQueryMulti connId text =>
      cases call' with
      | execQueryMulti connId' text' =>
          obtain ⟨rfl, hash⟩ := PendingResultKey.execQueryMulti.inj same
          rw [sql text rfl text' rfl hash]
      | execQuery | execQueryParams | execQueryMultiParams | execute => cases same
  | execQueryMultiParams connId text values =>
      cases call' with
      | execQueryMultiParams connId' text' values' =>
          obtain ⟨rfl, hash, hash'⟩ := PendingResultKey.execQueryParams.inj same
          rw [sql text rfl text' rfl hash, show values = values' from params hash']
      | execQueryParams => exact absurd trivial apart
      | execQuery | execQueryMulti | execute => cases same
  | execute stmtId values timeoutOverrideMs fetchSize =>
      cases call' with
      | execute stmtId' values' timeoutOverrideMs' fetchSize' =>
          obtain ⟨rfl, hash, rfl, rfl⟩ := PendingResultKey.execute.inj same
          rw [show values = values' from params hash]
      | execQuery | execQueryParams | execQueryMulti | execQueryMultiParams => cases same

/-! ## One step -/

/-- What is kept lies under the key of the call that left it. -/
def KeptInv (hashBytes : Bytes → UInt64) (log : List Output) (state : PendingResults) : Prop :=
  ∀ key entry, state.buffers.lookup key = some entry →
    entry.call.pendingKey hashBytes = key ∧
      ∃ need got, .answered entry.call (.executed (.ok entry.data) (.tooSmall need got)) ∈ log

structure ServeInv (hashBytes : Bytes → UInt64) (log : List Output) (system : System) : Prop where
  kept : KeptInv hashBytes log system.state
  serves : ServesOwn log

variable {hashBytes : Bytes → UInt64} {log : List Output} {output : Output}
  {state next : PendingResults}

theorem KeptInv.only (kept : KeptInv hashBytes log state) (only : next.KeepsOnly state)
    (output : Output) : KeptInv hashBytes (log ++ [output]) next := by
  intro key entry found
  obtain ⟨keyed, need, got, told⟩ := kept key entry (only key entry found)
  exact ⟨keyed, need, got, List.mem_append_left _ told⟩

/-- A result is delivered, or kept under the key of its call. -/
theorem KeptInv.deliver (kept : KeptInv hashBytes log state) (call : ExecCall) (bufferLen : Nat)
    (result : Except OdbcError Bytes) :
    KeptInv hashBytes
      (log ++ [.answered call (.executed result
        (state.deliver hashBytes call bufferLen result).2)])
      (state.deliver hashBytes call bufferLen result).1 := by
  rcases PendingResults.deliver_cases hashBytes call bufferLen result state with
    ⟨data, rfl, answer, stashed⟩ | ⟨same, -⟩
  · rw [answer, stashed]
    intro key entry found
    rw [PendingResults.stashPendingResult, HashMap.lookup_insert_eq_some] at found
    obtain ⟨rfl, rfl⟩ | ⟨-, found⟩ := found
    · exact ⟨rfl, data.length, bufferLen, List.mem_append_right _ List.mem_cons_self⟩
    · obtain ⟨keyed, need, got, told⟩ := kept key entry found
      exact ⟨keyed, need, got, List.mem_append_left _ told⟩
  · rw [same]
    exact kept.only (fun _ _ found => found) _

/-- The log grows by an answer that is not written from the map, or was left by the same call. -/
theorem ServesOwn.append (serves : ServesOwn log)
    (own : ∀ call data, output = .answered call (.served (.written data)) →
      ∃ need got, .answered call (.executed (.ok data) (.tooSmall need got)) ∈ log) :
    ServesOwn (log ++ [output]) := by
  intro before call data after split
  rcases append_singleton_split split with ⟨rfl, last⟩ | ⟨earlier, rfl⟩
  · exact own call data last
  · exact serves before call data earlier rfl

/-- What the map writes was left by the call that the rule allows. -/
theorem KeptInv.served (kept : KeptInv hashBytes log state) {call : ExecCall} {bufferLen : Nat}
    {answer : Answer}
    (meets : ∀ entry, state.buffers.lookup (call.pendingKey hashBytes) = some entry →
      Distinguished hashBytes call entry.call ∧ ¬ Swapped call entry.call)
    (served : state.tryWritePendingResult (call.pendingKey hashBytes) bufferLen =
      some (next, answer)) {data : Bytes} (written : answer = .written data) :
    ∃ need got, .answered call (.executed (.ok data) (.tooSmall need got)) ∈ log := by
  obtain ⟨entry, found, answered⟩ := PendingResults.tryWritePendingResult_eq_some served
  obtain ⟨keyed, told⟩ := kept _ entry found
  obtain ⟨distinguished, apart⟩ := meets entry found
  obtain rfl := eq_of_pendingKey_eq distinguished apart keyed.symm
  rcases answered with ⟨_, rfl, -⟩ | ⟨rfl, -⟩ | ⟨rfl, -⟩
  · cases written
  · cases written
  · obtain rfl := Answer.written.inj written
    exact told

namespace ServeInv

variable {system nextSystem : System}

/-- A step whose answer does not come from the map. -/
theorem only (inv : ServeInv hashBytes log system)
    (only : nextSystem.state.KeepsOnly system.state)
    (unserved : ∀ call data, output ≠ .answered call (.served (.written data))) :
    ServeInv hashBytes (log ++ [output]) nextSystem where
  kept := inv.kept.only only output
  serves := inv.serves.append fun call data same => absurd same (unserved call data)

/-- A step that answers from the map. -/
theorem served (inv : ServeInv hashBytes log system) {call : ExecCall} {bufferLen : Nat}
    {answer : Answer}
    (meets : ∀ entry, system.state.buffers.lookup (call.pendingKey hashBytes) = some entry →
      Distinguished hashBytes call entry.call ∧ ¬ Swapped call entry.call)
    (served : system.state.tryWritePendingResult (call.pendingKey hashBytes) bufferLen =
      some (nextSystem.state, answer)) :
    ServeInv hashBytes (log ++ [.answered call (.served answer)]) nextSystem where
  kept := inv.kept.only (PendingResults.keepsOnly_tryWritePendingResult served) _
  serves := inv.serves.append fun call' data same => by
    obtain ⟨rfl, outcome⟩ := Output.answered.inj same
    exact inv.kept.served meets served (PendingResults.Outcome.served.inj outcome)

/-- A step that hands over what the driver answered. -/
theorem executed (inv : ServeInv hashBytes log system) {call : ExecCall} {bufferLen : Nat}
    {result : Except OdbcError Bytes} {middle : PendingResults}
    (same : middle.buffers = system.state.buffers)
    (delivered : nextSystem.state = (middle.deliver hashBytes call bufferLen result).1) :
    ServeInv hashBytes
      (log ++ [.answered call (.executed result
        (middle.deliver hashBytes call bufferLen result).2)]) nextSystem where
  kept := by
    have kept : KeptInv hashBytes log middle := by
      intro key entry found
      rw [same] at found
      exact inv.kept key entry found
    rw [delivered]
    exact kept.deliver call bufferLen result
  serves := inv.serves.append fun _ _ same => by
    obtain ⟨-, same⟩ := Output.answered.inj same
    cases same

theorem exec (inv : ServeInv hashBytes log system) {call : ExecCall} {bufferLen : Nat}
    {result : Except OdbcError Bytes}
    (allowed : ServeRule hashBytes (.exec call bufferLen result) system) :
    ServeInv hashBytes
      (log ++ [.answered call (system.state.exec hashBytes call bufferLen result).2])
      { system with state := (system.state.exec hashBytes call bufferLen result).1 } := by
  generalize done : system.state.exec hashBytes call bufferLen result = answer
  obtain ⟨next, outcome⟩ := answer
  rcases PendingResults.exec_cases done with ⟨reason, rfl, rfl⟩ | ⟨answer, rfl, -, served⟩ |
    ⟨-, rfl, rfl⟩
  · exact inv.only (fun _ _ kept => kept) (by rintro _ _ ⟨⟩)
  · exact inv.served allowed served
  · exact inv.executed rfl rfl

theorem beginExecQuery (inv : ServeInv hashBytes log system) {thread connId bufferLen : Nat}
    {sql : String}
    (allowed : ServeRule hashBytes (.beginExecQuery thread connId sql bufferLen) system)
    (begun : system.beginExecQuery hashBytes thread connId sql bufferLen = (nextSystem, output)) :
    ServeInv hashBytes (log ++ [output]) nextSystem := by
  rw [System.beginExecQuery] at begun
  dsimp only at begun
  split at begun
  · next served =>
      obtain ⟨rfl, rfl⟩ := Prod.mk.inj begun
      exact inv.served allowed served
  · split_ifs at begun
    · obtain ⟨rfl, rfl⟩ := Prod.mk.inj begun
      exact inv.only (fun _ _ kept => kept) (by rintro _ _ ⟨⟩)
    · split at begun
      · obtain ⟨rfl, rfl⟩ := Prod.mk.inj begun
        exact inv.only (fun _ _ kept => kept) (by rintro _ _ ⟨⟩)
      · obtain ⟨rfl, rfl⟩ := Prod.mk.inj begun
        exact inv.only (fun _ _ kept => kept) (by rintro _ _ ⟨⟩)

end ServeInv

theorem step_serves {system nextSystem : System} {event : Event}
    (inv : ServeInv hashBytes log system) (allowed : ServeRule hashBytes event system)
    (stepped : step hashBytes event system = some (nextSystem, output)) :
    ServeInv hashBytes (log ++ [output]) nextSystem := by
  cases event with
  | exec call bufferLen result =>
      have done : step hashBytes (.exec call bufferLen result) system = none ∨
          step hashBytes (.exec call bufferLen result) system =
            some ({ system with state := (system.state.exec hashBytes call bufferLen result).1 },
              .answered call (system.state.exec hashBytes call bufferLen result).2) := by
        cases call with
        | execQuery => exact .inl rfl
        | execQueryParams | execQueryMulti | execQueryMultiParams | execute => exact .inr rfl
      rcases done with none | done
      · cases none.symm.trans stepped
      · obtain ⟨rfl, rfl⟩ := Prod.mk.inj (Option.some.inj (done.symm.trans stepped))
        exact inv.exec allowed
  | beginExecQuery thread connId sql bufferLen =>
      rw [step] at stepped
      split at stepped
      · cases stepped
      · exact inv.beginExecQuery allowed (Option.some.inj stepped)
  | endExecQuery thread result =>
      rw [step] at stepped
      split at stepped
      · cases stepped
      · obtain ⟨rfl, rfl⟩ := Prod.mk.inj (Option.some.inj stepped)
        exact inv.executed rfl rfl
  | wait elapsed =>
      obtain ⟨rfl, rfl⟩ := Prod.mk.inj (Option.some.inj stepped)
      exact inv.only (fun _ _ kept => kept) (by rintro _ _ ⟨⟩)
  | session call =>
      obtain ⟨rfl, rfl⟩ := Prod.mk.inj (Option.some.inj stepped)
      exact inv.only (fun _ _ kept => kept) (by rintro _ _ ⟨⟩)
  | disconnect connId closed =>
      obtain ⟨rfl, rfl⟩ := Prod.mk.inj (Option.some.inj stepped)
      exact inv.only (PendingResults.keepsOnly_disconnect connId closed _) (by rintro _ _ ⟨⟩)
  | closeStatement stmtId =>
      obtain ⟨rfl, rfl⟩ := Prod.mk.inj (Option.some.inj stepped)
      exact inv.only (PendingResults.keepsOnly_closeStatement stmtId _) (by rintro _ _ ⟨⟩)
  | clearAllStatements =>
      obtain ⟨rfl, rfl⟩ := Prod.mk.inj (Option.some.inj stepped)
      exact inv.only (PendingResults.keepsOnly_clearAllStatements _) (by rintro _ _ ⟨⟩)

/-! ## Every run -/

theorem serveInv_initial (hashBytes : Bytes → UInt64) : ServeInv hashBytes [] {} where
  kept := by rintro _ _ ⟨⟩
  serves := by
    intro before call data after split
    cases before <;> cases split

/-- In every run that keeps to the rule, whatever is written from the map was left by the same
entry point with the same connection or statement, text and parameters. -/
theorem servesOwn_of_run (hashBytes : Bytes → UInt64) {events : List Event} {system : System}
    {log : List Output} (along : Along (step hashBytes) (ServeRule hashBytes) events {})
    (ran : run (step hashBytes) events {} = some (system, log)) : ServesOwn log :=
  (run_invariant_along (ServeInv hashBytes)
    (fun inv allowed stepped => step_serves inv allowed stepped) [] (serveInv_initial hashBytes)
    along ran).serves

/-- A query is refused for its buffer and called again with a larger one. -/
def retriedQuery : List Event :=
  [.session (.connect true), .beginExecQuery 0 1 "Q" 1, .endExecQuery 0 (.ok [1, 2]),
    .beginExecQuery 0 1 "Q" 2]

/-- A hash for the example. -/
def sumOfBytes (bytes : Bytes) : UInt64 := UInt64.ofNat (ofLeBytes bytes)

theorem servesOwn_of_run_retried :
    ∃ system, run (step sumOfBytes) retriedQuery {} = some (system, [.silent, .silent,
          .answered (.execQuery 1 "Q") (.executed (.ok [1, 2]) (.tooSmall 2 1)),
          .answered (.execQuery 1 "Q") (.served (.written [1, 2]))]) ∧
      Along (step sumOfBytes) (ServeRule sumOfBytes) retriedQuery {} ∧
      ServesOwn [.silent, .silent,
        .answered (.execQuery 1 "Q") (.executed (.ok [1, 2]) (.tooSmall 2 1)),
        .answered (.execQuery 1 "Q") (.served (.written [1, 2]))] := by
  have along : Along (step sumOfBytes) (ServeRule sumOfBytes) retriedQuery {} := by
    refine ⟨trivial, ?_⟩
    rintro _ _ ⟨⟩
    refine ⟨?_, ?_⟩
    · rintro _ ⟨⟩
    rintro _ _ ⟨⟩
    refine ⟨trivial, ?_⟩
    rintro _ _ ⟨⟩
    refine ⟨?_, fun _ _ _ => trivial⟩
    rintro _ ⟨⟩
    exact ⟨⟨by rintro _ ⟨⟩ _ ⟨⟩ _; rfl, fun _ => rfl⟩, id⟩
  exact ⟨_, rfl, along, servesOwn_of_run sumOfBytes along rfl⟩

/-- A call with parameters has been refused on the first connection. -/
def afterParamsRefused (hashBytes : Bytes → UInt64) : PendingResults where
  sessions := { connections := AList.insert 1 () ∅, nextConnId := 2 }
  buffers := AList.insert ((ExecCall.execQueryParams 1 "Q" []).pendingKey hashBytes)
    ⟨[1, 2], 0, .execQueryParams 1 "Q" []⟩ ∅

/-- Whatever the hash is, a call of `odbc_exec_query_multi_params` is served with the single
result that `odbc_exec_query_params` was refused. -/
theorem multi_params_served_with_params_result :
    ¬ ∃ hashBytes : Bytes → UInt64, ∀ events system log,
      run (step hashBytes) events {} = some (system, log) → ServesOwn log := by
  rintro ⟨hashBytes, serves⟩
  have second : step hashBytes (.exec (.execQueryParams 1 "Q" []) 1 (.ok [1, 2]))
      { state := { sessions := { connections := AList.insert 1 () ∅, nextConnId := 2 } } } =
      some ({ state := afterParamsRefused hashBytes },
        .answered (.execQueryParams 1 "Q" []) (.executed (.ok [1, 2]) (.tooSmall 2 1))) := rfl
  have third : ∃ next, step hashBytes (.exec (.execQueryMultiParams 1 "Q" []) 2 (.ok [9]))
      { state := afterParamsRefused hashBytes } = some (next,
        .answered (.execQueryMultiParams 1 "Q" []) (.served (.written [1, 2]))) := by
    -- the key of the first call is also the key of the second
    have served := PendingResults.exec_of_found (afterParamsRefused hashBytes)
      (.execQueryMultiParams 1 "Q" []) (.ok [9]) ⟨[1, 2], 0, .execQueryParams 1 "Q" []⟩ rfl
      (AList.lookup_insert ∅) (Nat.zero_le _) (Nat.le_refl 2)
    rw [step, served]
    · exact ⟨_, rfl⟩
    · rintro _ _ ⟨⟩
  obtain ⟨next, third⟩ := third
  have ran : run (step hashBytes) [.session (.connect true),
        .exec (.execQueryParams 1 "Q" []) 1 (.ok [1, 2]),
        .exec (.execQueryMultiParams 1 "Q" []) 2 (.ok [9])] {} =
      some (next, [.silent,
        .answered (.execQueryParams 1 "Q" []) (.executed (.ok [1, 2]) (.tooSmall 2 1)),
        .answered (.execQueryMultiParams 1 "Q" []) (.served (.written [1, 2]))]) :=
    run_cons_eq_some.mpr ⟨_, rfl, run_cons_eq_some.mpr ⟨_, second,
      run_cons_eq_some.mpr ⟨_, third, rfl⟩⟩⟩
  obtain ⟨_, _, told⟩ := serves _ _ _ ran [_, _] _ _ [] rfl
  simp at told

end OdbcFast.Verification
