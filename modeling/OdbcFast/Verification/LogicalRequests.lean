import OdbcFast.Dart.Queries
import OdbcFast.Native.Ffi.PendingResults
import OdbcFast.Wire.Machine

/-!
# Requests that are retried

A request whose result did not fit is called again with a larger buffer, and the retries
are served with the result of the first call. The map cannot tell a retry from a new
request with the same text: what a caller has left behind when it gave up goes to the next
request, which is then never executed. Where each new request finds nothing under its key,
each is executed once and receives its own result.

The methods that a Dart program calls repeat a request by themselves, with buffers that become
larger, up to a limit.
-/

namespace OdbcFast.Verification

open Wire Native Native.LogicalRequests

/-! ## What is promised -/

/-- How the request was answered, if the output is about it. -/
def outcome? (number : Nat) : Output → Option PendingResults.Outcome
  | .answered other outcome => if other = number then some outcome else none
  | .waited => none

/-- The answers to the calls of one request. -/
def history (number : Nat) (log : List Output) : List PendingResults.Outcome :=
  log.filterMap (outcome? number)

def isExecuted : PendingResults.Outcome → Bool
  | .executed _ _ => true
  | _ => false

/-- A request that is answered with -2 or 0 is executed exactly once, by its first call, so behind
everything that was executed before the request was made; what it receives is the result of that
execution. -/
structure OwnResult (history : List PendingResults.Outcome) : Prop where
  once : (∃ outcome ∈ history, outcome.answer.code ≠ -1) → history.countP isExecuted = 1
  first : ∀ outcome ∈ history.tail, isExecuted outcome = false
  own : ∀ outcome ∈ history, ∀ data, outcome.answer = .written data →
    ∃ answer, history.head? = some (.executed (.ok data) answer)

/-! ## When it holds -/

/-- A new request that is looked up finds nothing under its key. -/
def FirstRule (hashBytes : Bytes → UInt64) : Event → System → Prop
  | .first call _ _, system => PendingResults.precheck call system.state.sessions = none →
      system.state.buffers.lookup (call.pendingKey hashBytes) = none
  | _, _ => True

/-! ## One request -/

namespace OwnResult

variable {answers : List PendingResults.Outcome} {outcome : PendingResults.Outcome}

theorem nil : OwnResult [] where
  once := by rintro ⟨_, ⟨⟩, -⟩
  first := by rintro _ ⟨⟩
  own := by rintro _ ⟨⟩

theorem refused (reason : Failure) : OwnResult [.refused reason] where
  once := by
    rintro ⟨_, member, answered⟩
    rw [List.mem_singleton.mp member] at answered
    exact absurd rfl answered
  first := by rintro _ ⟨⟩
  own := by
    intro _ member data written
    rw [List.mem_singleton.mp member] at written
    cases written

/-- The first call was executed. -/
theorem executed {result : Except OdbcError Bytes} {answer : Answer}
    (written : ∀ data, answer = .written data → result = .ok data) :
    OwnResult [.executed result answer] where
  once _ := rfl
  first := by rintro _ ⟨⟩
  own := by
    intro _ member data answered
    rw [List.mem_singleton.mp member] at answered
    exact ⟨answer, by rw [written data answered]; rfl⟩

/-- A further call is answered without an execution, with nothing but the first one's result. -/
theorem append (own : OwnResult answers) {data : Bytes} {answer : Answer}
    (first : answers.head? = some (.executed (.ok data) answer))
    (unexecuted : isExecuted outcome = false)
    (written : ∀ data', outcome.answer = .written data' → data' = data) :
    OwnResult (answers ++ [outcome]) := by
  obtain ⟨rest, rfl⟩ : ∃ rest, answers = .executed (.ok data) answer :: rest := by
    cases answers with
    | nil => cases first
    | cons head rest =>
        obtain rfl := Option.some.inj first
        exact ⟨rest, rfl⟩
  have later : ∀ other ∈ rest ++ [outcome], isExecuted other = false := by
    intro other member
    rcases List.mem_append.mp member with member | member
    · exact own.first other member
    · rwa [List.mem_singleton.mp member]
  refine ⟨fun _ => ?_, later, ?_⟩
  · have none : (rest ++ [outcome]).countP isExecuted = 0 :=
      List.countP_eq_zero.mpr fun other member => by simp [later other member]
    rw [List.cons_append, List.countP_cons, none]
    rfl
  · intro other member data' answered
    rcases List.mem_append.mp member with member | member
    · exact own.own other member data' answered
    · rw [List.mem_singleton.mp member] at answered
      rw [written data' answered]
      exact ⟨answer, rfl⟩

end OwnResult

theorem history_append (number : Nat) (log : List Output) (output : Output) :
    history number (log ++ [output]) = history number log ++ (outcome? number output).toList := by
  rw [history, List.filterMap_append, ← history]
  cases found : outcome? number output with
  | none => rw [List.filterMap_cons_none found]; rfl
  | some outcome => rw [List.filterMap_cons_some found]; rfl

theorem history_self (number : Nat) (log : List Output) (outcome : PendingResults.Outcome) :
    history number (log ++ [.answered number outcome]) = history number log ++ [outcome] := by
  rw [history_append, outcome?, if_pos rfl]
  rfl

theorem history_other {number other : Nat} (log : List Output) (outcome : PendingResults.Outcome)
    (apart : other ≠ number) :
    history number (log ++ [.answered other outcome]) = history number log := by
  rw [history_append, outcome?, if_neg apart]
  exact List.append_nil _

/-! ## One step -/

/-- The first call of the request left the entry that its key leads to. -/
def Left (hashBytes : Bytes → UInt64) (log : List Output) (state : PendingResults) (number : Nat)
    (call : ExecCall) : Prop :=
  ∃ entry answer, state.buffers.lookup (call.pendingKey hashBytes) = some entry ∧
    (history number log).head? = some (.executed (.ok entry.data) answer)

structure RequestInv (hashBytes : Bytes → UInt64) (log : List Output) (system : System) : Prop where
  histories : ∀ number, OwnResult (history number log)
  waiting : ∀ number call, system.waiting.lookup number = some call →
    number < system.next ∧ Left hashBytes log system.state number call
  apart : ∀ number number' call call', system.waiting.lookup number = some call →
    system.waiting.lookup number' = some call' →
    call.pendingKey hashBytes = call'.pendingKey hashBytes → number = number'
  unborn : ∀ number, system.next ≤ number → history number log = []

variable {hashBytes : Bytes → UInt64} {log : List Output} {system next : System}
  {number bufferLen : Nat} {call : ExecCall} {outcome : PendingResults.Outcome}

/-- An entry under another key is not touched. -/
theorem Left.other {state state' : PendingResults} {number' : Nat} {call' : ExecCall}
    (left : Left hashBytes log state number' call')
    (kept : state'.buffers.lookup (call'.pendingKey hashBytes) =
      state.buffers.lookup (call'.pendingKey hashBytes))
    (apart : number ≠ number') :
    Left hashBytes (log ++ [.answered number outcome]) state' number' call' := by
  obtain ⟨entry, answer, found, first⟩ := left
  exact ⟨entry, answer, kept.trans found, by rwa [history_other log outcome apart]⟩

namespace RequestInv

/-- No other request that waits has the key of the call. -/
def Alone (hashBytes : Bytes → UInt64) (system : System) (number : Nat) (call : ExecCall) : Prop :=
  ∀ number' call', number' ≠ number → system.waiting.lookup number' = some call' →
    call.pendingKey hashBytes ≠ call'.pendingKey hashBytes

/-- One call of a request: the others keep their entries, and this one waits with its own or not
at all. -/
theorem answer (inv : RequestInv hashBytes log system) (call : ExecCall)
    (later : system.next ≤ next.next) (made : number < next.next)
    (own : OwnResult (history number log ++ [outcome]))
    (kept : ∀ number' call', number' ≠ number → system.waiting.lookup number' = some call' →
      next.state.buffers.lookup (call'.pendingKey hashBytes) =
        system.state.buffers.lookup (call'.pendingKey hashBytes))
    (waiting : next.waiting = system.waiting.erase number ∨
      next.waiting = system.waiting.insert number call ∧ Alone hashBytes system number call ∧
        Left hashBytes (log ++ [.answered number outcome]) next.state number call) :
    RequestInv hashBytes (log ++ [.answered number outcome]) next := by
  have waits : ∀ number' call', next.waiting.lookup number' = some call' →
      number' ≠ number ∧ system.waiting.lookup number' = some call' ∨
      number' = number ∧ call' = call ∧ Alone hashBytes system number call ∧
        Left hashBytes (log ++ [.answered number outcome]) next.state number call := by
    intro number' call' found
    rcases waiting with erased | ⟨inserted, own⟩
    · rw [erased, HashMap.lookup_erase_eq_some] at found
      exact .inl found
    · rw [inserted, HashMap.lookup_insert_eq_some] at found
      exact found.symm.imp id fun same => ⟨same.1, same.2, own⟩
  refine ⟨?_, ?_, ?_, ?_⟩
  · intro number'
    by_cases same : number = number'
    · subst same
      rwa [history_self]
    · rw [history_other log outcome same]
      exact inv.histories number'
  · intro number' call' found
    rcases waits number' call' found with ⟨other, found⟩ | ⟨rfl, rfl, -, left⟩
    · obtain ⟨small, left⟩ := inv.waiting number' call' found
      exact ⟨Nat.lt_of_lt_of_le small later,
        left.other (kept number' call' other found) other.symm⟩
    · exact ⟨made, left⟩
  · intro number₁ number₂ call₁ call₂ found₁ found₂ same
    rcases waits number₁ call₁ found₁ with ⟨other₁, found₁⟩ | ⟨rfl, rfl, alone, -⟩
    · rcases waits number₂ call₂ found₂ with ⟨-, found₂⟩ | ⟨rfl, rfl, alone, -⟩
      · exact inv.apart number₁ number₂ call₁ call₂ found₁ found₂ same
      · exact absurd same.symm (alone number₁ call₁ other₁ found₁)
    · rcases waits number₂ call₂ found₂ with ⟨other₂, found₂⟩ | ⟨rfl, rfl, -⟩
      · exact absurd same (alone number₂ call₂ other₂ found₂)
      · rfl
  · intro number' unborn
    have apart : number ≠ number' := by omega
    rw [history_other log outcome apart]
    exact inv.unborn number' (Nat.le_trans later unborn)

/-- An execution finds nothing under its key, so every request that waits has another one. -/
theorem alone_of_none (inv : RequestInv hashBytes log system)
    (none : system.state.buffers.lookup (call.pendingKey hashBytes) = none) :
    Alone hashBytes system number call := by
  intro number' call' _ found same
  obtain ⟨-, entry, answer, there, -⟩ := inv.waiting number' call' found
  rw [← same, none] at there
  cases there

/-- A new request finds nothing under its key. -/
theorem first (inv : RequestInv hashBytes log system) {result : Except OdbcError Bytes}
    {output : Output} (allowed : FirstRule hashBytes (.first call bufferLen result) system)
    (done : { system with next := system.next + 1 }.exec hashBytes system.next call bufferLen
      result = (next, output)) :
    RequestInv hashBytes (log ++ [output]) next := by
  have empty := inv.unborn system.next (Nat.le_refl _)
  have later : system.next ≤ system.next + 1 := Nat.le_succ _
  have made : system.next < system.next + 1 := Nat.lt_succ_self _
  rw [System.exec] at done
  generalize answered : PendingResults.exec hashBytes call bufferLen result _ = answer at done
  obtain ⟨state, outcome⟩ := answer
  obtain ⟨rfl, rfl⟩ := Prod.mk.inj done
  rcases PendingResults.exec_cases answered with ⟨reason, rfl, rfl⟩ |
    ⟨answer, rfl, admitted, served⟩ | ⟨none, rfl, rfl⟩
  · refine inv.answer call later made ?_ (fun _ _ _ _ => rfl) (.inl rfl)
    rw [empty]
    exact .refused reason
  · obtain ⟨entry, found, -⟩ := PendingResults.tryWritePendingResult_eq_some served
    cases (allowed admitted).symm.trans found
  · rcases PendingResults.deliver_cases hashBytes call bufferLen result system.state with
      ⟨data, rfl, answer, stashed⟩ | ⟨same, delivered⟩
    · rw [answer, stashed]
      refine inv.answer call later made ?_ ?_ (.inr ⟨rfl, inv.alone_of_none none, ?_⟩)
      · rw [empty]
        exact .executed (by rintro _ ⟨⟩)
      · intro number' call' other found
        exact AList.lookup_insert_ne (inv.alone_of_none none number' call' other found).symm
      · refine ⟨⟨data, system.state.now, call⟩, .tooSmall data.length bufferLen,
          AList.lookup_insert _, ?_⟩
        rw [history_self, empty]
        rfl
    · rw [same]
      refine inv.answer call later made ?_ (fun _ _ _ _ => rfl) (.inl ?_)
      · rw [empty]
        refine .executed fun data written => ?_
        rcases delivered with ⟨data', rfl, answer⟩ | ⟨reason, answer⟩
        · rw [← Answer.written.inj (answer.symm.trans written)]
        · cases answer.symm.trans written
      · rcases delivered with ⟨data', -, answer⟩ | ⟨reason, answer⟩
        · rw [PendingResults.Outcome.answer, answer]
        · rw [PendingResults.Outcome.answer, answer]

/-- A retry finds what its first call has left. -/
theorem retry (inv : RequestInv hashBytes log system) {result : Except OdbcError Bytes}
    {output : Output} (waits : system.waiting.lookup number = some call)
    (done : system.exec hashBytes number call bufferLen result = (next, output)) :
    RequestInv hashBytes (log ++ [output]) next := by
  obtain ⟨made, entry, answer₀, left, first⟩ := inv.waiting number call waits
  have own := inv.histories number
  have alone : Alone hashBytes system number call := by
    intro number' call' other found same
    exact other (inv.apart number number' call call' waits found same).symm
  rw [System.exec] at done
  generalize answered : PendingResults.exec hashBytes call bufferLen result _ = answer at done
  obtain ⟨state, outcome⟩ := answer
  obtain ⟨rfl, rfl⟩ := Prod.mk.inj done
  rcases PendingResults.exec_cases answered with ⟨reason, rfl, rfl⟩ |
    ⟨answer, rfl, -, served⟩ | ⟨none, -, -⟩
  · exact inv.answer call (Nat.le_refl _) made (own.append first rfl (by rintro _ ⟨⟩))
      (fun _ _ _ _ => rfl) (.inl rfl)
  · obtain ⟨entry', found, answered⟩ := PendingResults.tryWritePendingResult_eq_some served
    obtain rfl := Option.some.inj (left.symm.trans found)
    have erased : ∀ number' call', number' ≠ number →
        system.waiting.lookup number' = some call' →
        (system.state.buffers.erase (call.pendingKey hashBytes)).lookup
            (call'.pendingKey hashBytes) =
          system.state.buffers.lookup (call'.pendingKey hashBytes) :=
      fun number' call' other found => AList.lookup_erase_ne (alone number' call' other found).symm
    rcases answered with ⟨reason, rfl, rfl⟩ | ⟨rfl, rfl⟩ | ⟨rfl, rfl⟩
    · exact inv.answer call (Nat.le_refl _) made (own.append first rfl (by rintro _ ⟨⟩)) erased
        (.inl rfl)
    · refine inv.answer call (Nat.le_refl _) made (own.append first rfl (by rintro _ ⟨⟩))
        (fun _ _ _ _ => rfl) (.inr ⟨rfl, alone, entry, answer₀, left, ?_⟩)
      rw [history_self, List.head?_append, first]
      rfl
    · refine inv.answer call (Nat.le_refl _) made (own.append first rfl ?_) erased (.inl rfl)
      rintro _ ⟨⟩
      rfl
  · cases none.symm.trans left

end RequestInv

theorem step_requests {event : Event} {output : Output} (inv : RequestInv hashBytes log system)
    (allowed : FirstRule hashBytes event system)
    (stepped : step hashBytes event system = some (next, output)) :
    RequestInv hashBytes (log ++ [output]) next := by
  cases event with
  | first call bufferLen result => exact inv.first allowed (Option.some.inj stepped)
  | retry number bufferLen result =>
      rw [step] at stepped
      split at stepped
      · cases stepped
      · next waits => exact inv.retry waits (Option.some.inj stepped)
  | wait elapsed =>
      obtain ⟨rfl, rfl⟩ := Prod.mk.inj (Option.some.inj stepped)
      have same : ∀ number, history number (log ++ [.waited]) = history number log := by
        intro number
        rw [history_append]
        exact List.append_nil _
      refine ⟨fun number => ?_, fun number call waits => ?_, inv.apart, fun number unborn => ?_⟩
      · rw [same]
        exact inv.histories number
      · obtain ⟨small, entry, answer, found, first⟩ := inv.waiting number call waits
        exact ⟨small, entry, answer, found, by rwa [same]⟩
      · rw [same]
        exact inv.unborn number unborn

/-! ## Every run -/

theorem requestInv_initial (hashBytes : Bytes → UInt64) (sessions : Sessions) :
    RequestInv hashBytes [] { state := { sessions } } where
  histories _ := .nil
  waiting := by rintro _ _ ⟨⟩
  apart := by rintro _ _ _ _ ⟨⟩
  unborn _ _ := rfl

/-- In every run of calls in which each new request finds nothing under its key, every request is
executed once and receives its own result. -/
theorem ownResult_of_run (hashBytes : Bytes → UInt64) (sessions : Sessions) {events : List Event}
    {final : System} {log : List Output}
    (along : Along (step hashBytes) (FirstRule hashBytes) events { state := { sessions } })
    (ran : run (step hashBytes) events { state := { sessions } } = some (final, log))
    (number : Nat) : OwnResult (history number log) :=
  (run_invariant_along (RequestInv hashBytes)
    (fun inv allowed stepped => step_requests inv allowed stepped) []
    (requestInv_initial hashBytes sessions) along ran).histories number

/-- The first connection is open. -/
def oneConnection : Sessions := { connections := AList.insert 1 () ∅, nextConnId := 2 }

/-- A hash for the example. -/
def firstByte (bytes : Bytes) : UInt64 := UInt64.ofNat (ofLeBytes (bytes.take 1))

/-- Two requests take turns, and the first is retried. -/
def queryAndUpdate : List Event :=
  [.first (.execQuery 1 "Q") 1 (.ok [1, 2]), .first (.execQuery 1 "U") 9 (.ok []),
    .retry 0 2 (.ok [3])]

theorem ownResult_of_run_queryAndUpdate :
    ∃ final, run (step firstByte) queryAndUpdate { state := { sessions := oneConnection } } =
        some (final, [.answered 0 (.executed (.ok [1, 2]) (.tooSmall 2 1)),
          .answered 1 (.executed (.ok []) (.written [])), .answered 0 (.served (.written [1, 2]))]) ∧
      Along (step firstByte) (FirstRule firstByte) queryAndUpdate
        { state := { sessions := oneConnection } } ∧
      OwnResult [.executed (.ok [1, 2]) (.tooSmall 2 1), .served (.written [1, 2])] := by
  have along : Along (step firstByte) (FirstRule firstByte) queryAndUpdate
      { state := { sessions := oneConnection } } := by
    refine ⟨fun _ => rfl, ?_⟩
    rintro _ _ ⟨⟩
    refine ⟨fun _ => rfl, ?_⟩
    rintro _ _ ⟨⟩
    exact ⟨trivial, fun _ _ _ => trivial⟩
  exact ⟨_, rfl, along, ownResult_of_run firstByte oneConnection along rfl 0⟩

/-- A query was refused, its caller has given up, and another statement was executed. -/
def afterGivingUp (hashBytes : Bytes → UInt64) : PendingResults where
  sessions := oneConnection
  buffers := AList.insert ((ExecCall.execQuery 1 "Q").pendingKey hashBytes)
    ⟨[1, 2], 0, .execQuery 1 "Q"⟩ ∅

/-- Whatever the hash is, a new request with the same text receives the old result and is never
executed. -/
theorem abandoned_result_served :
    ¬ ∃ hashBytes : Bytes → UInt64, ∀ sessions events final log,
      run (step hashBytes) events { state := { sessions } } = some (final, log) →
        ∀ number, OwnResult (history number log) := by
  rintro ⟨hashBytes, own⟩
  have third : ∃ next, step hashBytes (.first (.execQuery 1 "Q") 9 (.ok [3]))
      { state := afterGivingUp hashBytes, waiting := AList.insert 0 (.execQuery 1 "Q") ∅, next := 2 } =
        some (next, .answered 2 (.served (.written [1, 2]))) := by
    have served := PendingResults.exec_of_found (afterGivingUp hashBytes) (.execQuery 1 "Q")
      (.ok [3]) ⟨[1, 2], 0, .execQuery 1 "Q"⟩ rfl (AList.lookup_insert ∅) (Nat.zero_le _)
      (show 2 ≤ 9 by decide)
    rw [step, System.exec, served]
    exact ⟨_, rfl⟩
  obtain ⟨next, third⟩ := third
  have ran : run (step hashBytes) [.first (.execQuery 1 "Q") 1 (.ok [1, 2]),
        .first (.execQueryMulti 1 "U") 9 (.ok [0]), .first (.execQuery 1 "Q") 9 (.ok [3])]
      { state := { sessions := oneConnection } } =
      some (next, [.answered 0 (.executed (.ok [1, 2]) (.tooSmall 2 1)),
        .answered 1 (.executed (.ok [0]) (.written [0])),
        .answered 2 (.served (.written [1, 2]))]) :=
    run_cons_eq_some.mpr ⟨_, rfl, run_cons_eq_some.mpr ⟨_, rfl,
      run_cons_eq_some.mpr ⟨_, third, rfl⟩⟩⟩
  obtain ⟨answer, first⟩ := (own _ _ _ _ ran 2).own (.served (.written [1, 2]))
    (List.mem_singleton.mpr rfl) [1, 2] rfl
  cases first

/-! ## A caller with larger and larger buffers -/

section

open Dart (Requests HoldsData ReachesBuffer initialBufferSize maxBufferSize callWithSizesOn_ends
  callWithSizesOn_of_holds)

variable (hashBytes : Bytes → UInt64) (requests : Requests) (call : ExecCall) (data : Bytes)

/-- The result that waits for a retry. -/
def pendingEntry : PendingResultBuffer := ⟨data, requests.clock initialBufferSize, call⟩

/-- What is known before the call with a buffer of some size: it is the first, or the statement was
executed once and every answer was -2. -/
def BeforeCall (sessions : Sessions) (size : Nat)
    (made : PendingResults × List PendingResults.Outcome) : Prop :=
  made.1.sessions = sessions ∧
    (size = initialBufferSize ∧ made.2 = [] ∧
        made.1.buffers.lookup (call.pendingKey hashBytes) = none ∨
      made.2.countP isExecuted = 1 ∧ (∀ outcome ∈ made.2, outcome.answer.code = -2) ∧
        made.1.buffers.lookup (call.pendingKey hashBytes) =
          some (pendingEntry requests call data))

/-- What is known behind the last call. -/
def BehindCalls (made : PendingResults × List PendingResults.Outcome) : Prop :=
  made.2.countP isExecuted = 1 ∧
    (made.1.buffers.lookup (call.pendingKey hashBytes) = none ∨
      made.1.buffers.lookup (call.pendingKey hashBytes) =
          some (pendingEntry requests call data) ∧
        ∀ outcome ∈ made.2, outcome.answer.code = -2)

/-- The result is not too old for a retry with a buffer of some size. -/
def InTime (size : Nat) : Prop :=
  requests.clock size ≤ requests.clock initialBufferSize + pendingResultTtl

variable {hashBytes requests call data} {sessions : Sessions} {size : Nat}
  {made : PendingResults × List PendingResults.Outcome}

theorem countP_append_executed (outcomes : List PendingResults.Outcome)
    (outcome : PendingResults.Outcome) :
    (outcomes ++ [outcome]).countP isExecuted =
      outcomes.countP isExecuted + if isExecuted outcome = true then 1 else 0 := by
  rw [List.countP_append, List.countP_singleton]

/-- The first call is executed. -/
theorem execWith_new (admitted : PendingResults.precheck call made.1.sessions = none)
    (resolved : PendingResults.resolve call made.1.sessions = none)
    (new : made.1.buffers.lookup (call.pendingKey hashBytes) = none)
    (succeeds : requests.results size = .ok data) :
    Dart.OdbcNative.execWith hashBytes requests call size made =
      if data.length > size then
        (({ made.1 with
            now := requests.clock size
            buffers := made.1.buffers.insert (call.pendingKey hashBytes)
              ⟨data, requests.clock size, call⟩ },
          made.2 ++ [.executed (.ok data) (.tooSmall data.length size)]), .tooSmall)
      else (({ made.1 with now := requests.clock size },
        made.2 ++ [.executed (.ok data) (.written data)]), .written data) := by
  have unserved : PendingResults.tryWritePendingResult (call.pendingKey hashBytes) size
      { made.1 with now := requests.clock size } = none := by
    rw [PendingResults.tryWritePendingResult, new]
  rw [Dart.OdbcNative.execWith, PendingResults.exec, admitted]
  dsimp only
  rw [unserved, resolved]
  dsimp only
  rw [succeeds, PendingResults.deliver]
  split_ifs <;> rfl

/-- A retry is answered from the map. -/
theorem execWith_pending (admitted : PendingResults.precheck call made.1.sessions = none)
    (found : made.1.buffers.lookup (call.pendingKey hashBytes) =
      some (pendingEntry requests call data)) :
    Dart.OdbcNative.execWith hashBytes requests call size made =
      if requests.clock size - requests.clock initialBufferSize > pendingResultTtl then
        (({ made.1 with
            now := requests.clock size
            buffers := made.1.buffers.erase (call.pendingKey hashBytes) },
          made.2 ++ [.served (.failed (.message
            "Pending result expired; retry the query with a larger initial buffer"))]), .failed)
      else if data.length > size then
        (({ made.1 with now := requests.clock size },
          made.2 ++ [.served (.tooSmall data.length size)]), .tooSmall)
      else
        (({ made.1 with
            now := requests.clock size
            buffers := made.1.buffers.erase (call.pendingKey hashBytes) },
          made.2 ++ [.served (.written data)]), .written data) := by
  rw [Dart.OdbcNative.execWith, PendingResults.exec, admitted]
  dsimp only
  rw [PendingResults.tryWritePendingResult, found]
  dsimp only [pendingEntry]
  split_ifs <;> rfl

/-- A call that is not the last but one of those that may be made. -/
theorem execWith_cases (before : BeforeCall hashBytes requests call data sessions size made)
    (admitted : PendingResults.precheck call sessions = none)
    (resolved : PendingResults.resolve call sessions = none)
    (succeeds : requests.results initialBufferSize = .ok data) :
    (InTime requests size ∧ size < data.length ∧
        (Dart.OdbcNative.execWith hashBytes requests call size made).2 = .tooSmall ∧
        BeforeCall hashBytes requests call data sessions (size * 2)
          (Dart.OdbcNative.execWith hashBytes requests call size made).1) ∨
      (InTime requests size ∧ data.length ≤ size ∧
        (Dart.OdbcNative.execWith hashBytes requests call size made).2 = .written data ∧
        BehindCalls hashBytes requests call data
          (Dart.OdbcNative.execWith hashBytes requests call size made).1) ∨
      ¬ InTime requests size ∧
        (Dart.OdbcNative.execWith hashBytes requests call size made).2 = .failed ∧
        BehindCalls hashBytes requests call data
          (Dart.OdbcNative.execWith hashBytes requests call size made).1 := by
  obtain ⟨rfl, ⟨rfl, fresh, new⟩ | ⟨once, refused, found⟩⟩ := before
  · rw [execWith_new admitted resolved new succeeds]
    have first : InTime requests initialBufferSize := Nat.le_add_right _ _
    split_ifs with large
    · refine .inl ⟨first, large, rfl, rfl, .inr ⟨?_, ?_, AList.lookup_insert _⟩⟩
      · rw [fresh]
        rfl
      · rw [fresh]
        intro outcome member
        rw [List.mem_singleton.mp member]
        rfl
    · refine .inr (.inl ⟨first, Nat.le_of_not_lt large, rfl, ?_, .inl new⟩)
      rw [fresh]
      rfl
  · rw [execWith_pending admitted found]
    have erased := AList.lookup_erase (call.pendingKey hashBytes) made.1.buffers
    split_ifs with old large
    · refine .inr (.inr ⟨?_, rfl, ?_, .inl erased⟩)
      · rw [InTime]
        omega
      · rw [countP_append_executed, once]
        rfl
    · refine .inl ⟨?_, large, rfl, rfl, .inr ⟨?_, ?_, found⟩⟩
      · rw [InTime]
        omega
      · rw [countP_append_executed, once]
        rfl
      · intro outcome member
        rcases List.mem_append.mp member with member | member
        · exact refused outcome member
        · rw [List.mem_singleton.mp member]
          rfl
    · refine .inr (.inl ⟨?_, Nat.le_of_not_lt large, rfl, ?_, .inl erased⟩)
      · rw [InTime]
        omega
      · rw [countP_append_executed, once]
        rfl

end

/-- A statement that a caller executes with larger and larger buffers is executed exactly once,
whatever passes between the calls. Its result arrives exactly when a buffer within the limit holds
it and the call for that buffer comes before it is too old. Nothing stays in the map unless every
buffer was too small; then the result does. -/
theorem query_executed_once (hashBytes : Bytes → UInt64) (requests : Dart.Requests)
    (maxBufferBytes : Option Int) {call : ExecCall} {state : PendingResults} {data : Bytes}
    (admitted : PendingResults.precheck call state.sessions = none)
    (resolved : PendingResults.resolve call state.sessions = none)
    (new : state.buffers.lookup (call.pendingKey hashBytes) = none)
    (forward : ∀ size, requests.clock size ≤ requests.clock (size * 2))
    (allowed : (Dart.initialBufferSize : Int) ≤ maxBufferBytes.getD Dart.maxBufferSize)
    (succeeds : requests.results Dart.initialBufferSize = .ok data) :
    BehindCalls hashBytes requests call data
        (Dart.OdbcNative.execRepeatedly hashBytes requests maxBufferBytes call state).1 ∧
      ∀ received,
        (Dart.OdbcNative.execRepeatedly hashBytes requests maxBufferBytes call state).2 =
            some received ↔
          received = data ∧ Dart.ReachesBuffer (InTime requests)
            (maxBufferBytes.getD Dart.maxBufferSize) Dart.initialBufferSize data := by
  have before : BeforeCall hashBytes requests call data state.sessions Dart.initialBufferSize
      (state, []) := ⟨rfl, .inl ⟨rfl, rfl, new⟩⟩
  refine ⟨Dart.callWithSizesOn_ends ?_ ?_ (by decide) before, ?_⟩
  · rintro size made ⟨-, ⟨rfl, -⟩ | ⟨once, refused, found⟩⟩ beyond
    · omega
    · exact ⟨once, .inr ⟨found, refused⟩⟩
  · intro size made before _
    obtain ⟨-, -, answer, later⟩ | ⟨-, -, answer, ended⟩ | ⟨-, answer, ended⟩ :=
      execWith_cases before admitted resolved succeeds
    · exact .inl ⟨answer, later⟩
    · exact .inr ⟨by rw [answer]; simp, ended⟩
    · exact .inr ⟨by rw [answer]; simp, ended⟩
  · intro received
    refine Dart.callWithSizesOn_of_holds ⟨?_, ?_, ?_, ?_⟩ (by decide) before
    · intro size made before _ live fits
      obtain ⟨-, large, -⟩ | ⟨-, -, answer, -⟩ | ⟨late, -⟩ :=
        execWith_cases before admitted resolved succeeds
      · exact absurd fits (Nat.not_le.mpr large)
      · exact answer
      · exact absurd live late
    · intro size made before _ live large
      obtain ⟨-, -, answer, later⟩ | ⟨-, fits, -⟩ | ⟨late, -⟩ :=
        execWith_cases before admitted resolved succeeds
      · exact ⟨answer, later⟩
      · exact absurd fits (Nat.not_le.mpr large)
      · exact absurd live late
    · intro size made before _ late
      obtain ⟨live, -⟩ | ⟨live, -⟩ | ⟨-, answer, -⟩ :=
        execWith_cases before admitted resolved succeeds
      · exact absurd live late
      · exact absurd live late
      · exact answer
    · intro size live
      exact (forward size).trans live

/-- A result for the second buffer; the clock counts with the buffers. -/
theorem query_executed_once_retried :
    (Dart.OdbcNative.execRepeatedly firstByte ⟨id, fun _ => .ok (List.replicate 70000 7)⟩ none
        (.execQuery 1 "Q") { sessions := oneConnection }).1.2.countP isExecuted = 1 ∧
      (Dart.OdbcNative.execRepeatedly firstByte ⟨id, fun _ => .ok (List.replicate 70000 7)⟩ none
        (.execQuery 1 "Q") { sessions := oneConnection }).2 = some (List.replicate 70000 7) := by
  let state : PendingResults := { sessions := oneConnection }
  obtain ⟨behind, received⟩ := query_executed_once firstByte
    ⟨id, fun _ => .ok (List.replicate 70000 7)⟩ none
    (rfl : PendingResults.precheck (.execQuery 1 "Q") state.sessions = none) rfl
    (rfl : state.buffers.lookup _ = none)
    (fun size => Nat.le_mul_of_pos_right size Nat.two_pos) (by decide) rfl
  refine ⟨behind.1, (received _).mpr ⟨rfl, 1, by decide, ?_, ?_⟩⟩
  · show 131072 ≤ 65536 + 2000000000
    decide
  · rw [List.length_replicate]
    decide

end OdbcFast.Verification
