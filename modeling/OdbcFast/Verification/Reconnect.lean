import OdbcFast.Dart.QueryResult
import OdbcFast.Dart.Reconnect

/-!
# Queries that reconnect

A query method keeps the native identifier it found before the loop. A reconnect opens
another native connection and maps the connection's text to it, but the operation runs
again on the identifier it kept; and a reconnect that fails ends the call with a failed
cast. The method does what it promises exactly when no reconnect is needed, or each
one that is needed succeeds and is given the old identifier back.
-/

namespace OdbcFast.Verification

open Wire Dart

variable {α : Type} {connectionId connectionString : String} {options : ConnectionOptions}
  {operation : Operation α} {turns : Nat → ReconnectTurn} {world : World}

/-- The last run, when the first one and the attempts behind it are known. -/
def lastOutcome (first : Option (Completion (Result α))) :
    List (Attempt α) → Option (Completion (Result α))
  | [] => first
  | attempt :: attempts => lastOutcome ((attempt.reran.map Prod.snd).or first) attempts

/-- The run succeeded, or failed for another reason than a lost connection. -/
def Settles (outcome : Completion (Result α)) : Prop :=
  ∃ result, outcome = .ok result ∧ result.lost = false

/-- The text is mapped to a native connection that is open. -/
def MapsLive (connectionId : String) (world : World) : Prop :=
  ∃ nativeId, world.repository.connectionIds.lookup connectionId = some nativeId ∧
    world.live.lookup nativeId = some ()

/-- A call that reconnects as often as it may and needs to, each time runs the operation on the
new connection, and completes with a result. -/
structure ReconnectsProperly (connectionId : String) (max : Nat) (call : Call α) : Prop where
  reruns : ∀ attempt ∈ call.attempts, ∀ nativeId outcome,
    attempt.reran = some (nativeId, outcome) →
      attempt.reconnected = .ok (.success ()) ∧ attempt.created = some nativeId
  bounded : call.attempts.length ≤ max
  persists : call.attempts.length < max → ∀ outcome,
    lastOutcome call.first call.attempts = some outcome → Settles outcome
  result : ∃ result, call.completion = .ok result ∧
    (lastOutcome call.first call.attempts = some (.ok result) ∨ ∃ error, result = .failure error)
  mapped : ∀ attempt, call.attempts.getLast? = some attempt →
    attempt.reconnected = .ok (.success ()) → MapsLive connectionId call.world

/-! ## When the calls do -/

/-- Both native calls of a reconnect are answered, the second with a new connection. -/
def Reopens (nativeId connId : Nat) (turn : ReconnectTurn) : Prop :=
  (∃ answer, turn.replies.disconnect nativeId = .ok answer) ∧
    turn.replies.connect = .ok connId ∧ connId ≠ 0

/-- The new connection has the old identifier. -/
def Restores (nativeId : Nat) (turn : ReconnectTurn) : Prop := Reopens nativeId nativeId turn

/-- The run completes, and when it lost its connection while attempts are left, a reconnect
restores it and the next run does as much. -/
def Resumes (turns : Nat → ReconnectTurn) (options : Option ConnectionOptions)
    (operation : Operation α) : Nat → Nat → Prop
  | 0, k => ∃ result, operation.run options k = .ok result
  | remaining + 1, k => ∃ result, operation.run options k = .ok result ∧
      (result.lost = true → Restores operation.nativeId (turns k) ∧
        Resumes turns options operation remaining (k + 1))

theorem Resumes.completes {settings : Option ConnectionOptions} {remaining k : Nat}
    (resumes : Resumes turns settings operation remaining k) :
    ∃ result, operation.run settings k = .ok result := by
  cases remaining with
  | zero => exact resumes
  | succ remaining =>
      obtain ⟨result, ran, -⟩ := resumes
      exact ⟨result, ran⟩

theorem resumes_of_settled {settings : Option ConnectionOptions} {remaining k : Nat}
    {result : Result α} (ran : operation.run settings k = .ok result) (lost : result.lost = false) :
    Resumes turns settings operation remaining k := by
  cases remaining with
  | zero => exact ⟨result, ran⟩
  | succ remaining =>
      refine ⟨result, ran, ?_⟩
      intro lost'
      cases lost.symm.trans lost'

/-! ## One reconnect -/

/-- What a reconnect that succeeds has been answered, and what it leaves. -/
structure Reconnected (turn : ReconnectTurn) (connectionId : String) (options : ConnectionOptions)
    (connId : Nat) (world next : World) : Prop where
  nonzero : connId ≠ 0
  disconnected : ∀ nativeId, world.repository.connectionIds.lookup connectionId = some nativeId →
    ∃ answer, turn.replies.disconnect nativeId = .ok answer
  connected : turn.replies.connect = .ok connId
  mapped : next.repository.connectionIds.lookup connectionId = some connId
  live : next.live.lookup connId = some ()
  options_kept : next.optionsOf connectionId = some options

theorem reopen_eq_success {repository next : Repository} {replies : Repository.ReconnectReplies}
    (opened : repository.reopen replies connectionId connectionString (some options) =
      (.ok (.success ()), next)) :
    ∃ connId, connId ≠ 0 ∧ replies.connect = .ok connId ∧
      next = repository.remember connectionId connId (some options) connectionString := by
  rw [Repository.reopen] at opened
  split at opened
  · cases opened
  · -- the native library refused: what is converted is never a success
    have converted := (Prod.mk.inj opened).1
    obtain ⟨error, failed⟩ | ⟨thrown, failed⟩ :=
      convertNativeErrorToFailure_cases (α := Unit) .connection "Reconnect failed" replies.errors
    · cases failed.symm.trans converted
    · cases failed.symm.trans converted
  · next connId nonzero connected =>
      cases opened
      exact ⟨connId, fun zero => nonzero (zero ▸ rfl), connected, rfl⟩

theorem repository_reconnect_eq_success {repository next : Repository}
    {replies : Repository.ReconnectReplies}
    (reconnected : repository.reconnect replies connectionId connectionString (some options) =
      (.ok (.success ()), next)) :
    (∀ nativeId, repository.connectionIds.lookup connectionId = some nativeId →
      ∃ answer, replies.disconnect nativeId = .ok answer) ∧
    ∃ before connId, connId ≠ 0 ∧ replies.connect = .ok connId ∧
      next = Repository.remember connectionId connId (some options) connectionString before := by
  rw [Repository.reconnect] at reconnected
  split at reconnected
  · next unmapped =>
      refine ⟨?_, repository, reopen_eq_success reconnected⟩
      intro nativeId mapped
      cases unmapped.symm.trans mapped
  · next nativeId mapped =>
      split at reconnected
      · cases reconnected
      · next answer answered =>
          refine ⟨?_, _, reopen_eq_success reconnected⟩
          intro nativeId' mapped'
          cases mapped.symm.trans mapped'
          exact ⟨answer, answered⟩

theorem reconnect_eq_success {turn : ReconnectTurn} {created : Option Nat} {next : World}
    (reconnected : world.reconnect turn connectionId connectionString options =
      (.ok (.success ()), created, next)) :
    ∃ connId, created = some connId ∧ Reconnected turn connectionId options connId world next := by
  rw [World.reconnect] at reconnected
  generalize tried : world.repository.reconnect turn.replies connectionId connectionString
    (some options) = outcome at reconnected
  obtain ⟨completion, repository⟩ := outcome
  dsimp only at reconnected
  split at reconnected
  · next connId connected =>
      cases reconnected
      obtain ⟨disconnected, before, connId', nonzero, connected', rfl⟩ :=
        repository_reconnect_eq_success tried
      cases connected.symm.trans connected'
      refine ⟨connId, rfl, nonzero, disconnected, connected, ?_, ?_, ?_⟩
      · rw [Repository.remember, AList.lookup_insert]
      · rw [AList.lookup_insert]
      · rw [World.optionsOf, Repository.remember, AList.lookup_insert]
        rfl
  · next unanswered =>
      -- a reconnect succeeds only on an answered connect
      cases reconnected
      obtain ⟨-, _, connId, -, connected, -⟩ := repository_reconnect_eq_success tried
      cases unanswered _ rfl connected

/-- Where both native calls are answered, the reconnect succeeds. -/
theorem reconnect_of_reopens {turn : ReconnectTurn} {nativeId connId : Nat}
    (mapped : world.repository.connectionIds.lookup connectionId = some nativeId)
    (reopens : Reopens nativeId connId turn) :
    (world.reconnect turn connectionId connectionString options).1 = .ok (.success ()) := by
  obtain ⟨⟨answer, disconnected⟩, connected, nonzero⟩ := reopens
  have reconnected : (world.repository.reconnect turn.replies connectionId connectionString
      (some options)).1 = .ok (.success ()) := by
    rw [Repository.reconnect, mapped]
    dsimp only
    rw [disconnected]
    dsimp only
    rw [Repository.reopen, connected]
    split
    · next failed => cases failed
    · next zero => cases zero; cases nonzero rfl
    · rfl
  rw [World.reconnect]
  split
  · next tried =>
      rw [tried] at reconnected
      cases reconnected
      rw [connected]

/-- A reconnect that succeeds opens what its connect was answered. -/
theorem Reconnected.reopens_iff {turn : ReconnectTurn} {connId nativeId other : Nat} {next : World}
    (reconnected : Reconnected turn connectionId options connId world next)
    (mapped : world.repository.connectionIds.lookup connectionId = some nativeId) :
    Reopens nativeId other turn ↔ connId = other := by
  constructor
  · rintro ⟨-, connected, -⟩
    cases reconnected.connected.symm.trans connected
    rfl
  · rintro rfl
    exact ⟨reconnected.disconnected _ mapped, reconnected.connected, reconnected.nonzero⟩

/-! ## The loop -/

/-- However a loop ends, it keeps to its bound, changes nothing without an attempt, and leaves
the text mapped to what the last reconnect opened. -/
structure LoopFrame (connectionId : String) (max : Nat) (world : World) (call : Call α) : Prop where
  bounded : call.attempts.length ≤ max
  unchanged : call.attempts = [] → call.world = world
  mapped : ∀ attempt, call.attempts.getLast? = some attempt →
    attempt.reconnected = .ok (.success ()) → MapsLive connectionId call.world

theorem loopFrame_single {attempt : Attempt α} {call : Call α} {max : Nat}
    (attempts : call.attempts = [attempt])
    (mapped : attempt.reconnected = .ok (.success ()) → MapsLive connectionId call.world) :
    LoopFrame connectionId (max + 1) world call where
  bounded := by
    rw [attempts]
    exact Nat.le_add_left 1 max
  unchanged := by
    intro none
    cases attempts.symm.trans none
  mapped := by
    intro attempt' last
    rw [attempts] at last
    cases last
    exact mapped

theorem reconnectLoop_frame (remaining k : Nat) (result : Result α) (world : World) :
    LoopFrame connectionId remaining world (reconnectLoop turns connectionId connectionString
      options operation remaining k result world) := by
  induction remaining generalizing k result world with
  | zero => exact ⟨Nat.le_refl 0, fun _ => rfl, by rintro _ ⟨⟩⟩
  | succ remaining ih =>
      rw [reconnectLoop]
      split
      · exact loopFrame_single rfl (by rintro ⟨⟩)
      · exact loopFrame_single rfl (by rintro ⟨⟩)
      · next created next reconnected =>
          obtain ⟨connId, -, kept⟩ := reconnect_eq_success reconnected
          have mapsLive : MapsLive connectionId next := ⟨connId, kept.mapped, kept.live⟩
          dsimp only
          split
          · exact loopFrame_single rfl fun _ => mapsLive
          · next result _ =>
              split_ifs
              · have later := ih (k + 1) result next
                generalize reconnectLoop turns connectionId connectionString options operation
                  remaining (k + 1) result next = call at later
                refine ⟨Nat.succ_le_succ later.bounded, by rintro ⟨⟩, ?_⟩
                intro attempt last succeeded
                cases attempts : call.attempts with
                | nil =>
                    -- the attempts ran out right behind this reconnect
                    rw [later.unchanged attempts]
                    exact mapsLive
                | cons first rest =>
                    rw [attempts, List.getLast?_cons_cons, ← attempts] at last
                    exact later.mapped attempt last succeeded
              · exact loopFrame_single rfl fun _ => mapsLive

/-! ## Attempts one by one -/

theorem not_properly_of_thrown {call : Call α} {max : Nat} {thrown : Thrown}
    (failed : call.completion = .error thrown) : ¬ ReconnectsProperly connectionId max call := by
  intro proper
  obtain ⟨result, completed, -⟩ := proper.result
  cases failed.symm.trans completed

/-- A run that settles the call needs no attempt behind it. -/
theorem properly_of_settled {call : Call α} {max : Nat} {result : Result α}
    (completed : call.completion = .ok result) (first : call.first = some (.ok result))
    (attempts : call.attempts = []) (settled : max = 0 ∨ result.lost = false) :
    ReconnectsProperly connectionId max call where
  reruns := by
    intro attempt member
    rw [attempts] at member
    cases member
  bounded := by
    rw [attempts]
    exact Nat.zero_le max
  persists := by
    intro short outcome last
    rw [attempts] at short last
    cases first.symm.trans last
    rcases settled with rfl | notLost
    · cases short
    · exact ⟨result, rfl, notLost⟩
  result := by
    rw [attempts]
    exact ⟨result, completed, .inl first⟩
  mapped := by
    intro attempt last
    rw [attempts] at last
    cases last

/-- An attempt with a run in front of a call: the run has to be on the new connection, and the
rest is judged as if that run had been the first one. -/
theorem properly_cons_iff {call : Call α} {tried : Attempt α} {max nativeId : Nat}
    {first : Option (Completion (Result α))} {outcome : Completion (Result α)}
    (reconnected : tried.reconnected = .ok (.success ()))
    (reran : tried.reran = some (nativeId, outcome))
    (frame : LoopFrame connectionId (max + 1) world
      { call with attempts := tried :: call.attempts }) :
    ReconnectsProperly connectionId (max + 1)
        { call with attempts := tried :: call.attempts, first } ↔
      tried.created = some nativeId ∧
        ReconnectsProperly connectionId max { call with first := some outcome } := by
  have last : lastOutcome first (tried :: call.attempts) = lastOutcome (some outcome) call.attempts := by
    rw [lastOutcome, reran]
    rfl
  constructor
  · intro proper
    obtain ⟨-, created⟩ := proper.reruns tried List.mem_cons_self nativeId outcome reran
    refine ⟨created, ?_, ?_, ?_, ?_, ?_⟩
    · intro attempt member
      exact proper.reruns attempt (List.mem_cons_of_mem _ member)
    · exact Nat.le_of_succ_le_succ proper.bounded
    · intro short
      rw [← last]
      exact proper.persists (Nat.succ_lt_succ short)
    · rw [← last]
      exact proper.result
    · intro attempt final
      apply proper.mapped attempt
      dsimp only at final ⊢
      rw [List.getLast?_cons, final]
      rfl
  · rintro ⟨created, proper⟩
    refine ⟨?_, frame.bounded, ?_, ?_, frame.mapped⟩
    · intro attempt member nativeId' outcome' reran'
      rcases List.mem_cons.mp member with rfl | member
      · cases reran.symm.trans reran'
        exact ⟨reconnected, created⟩
      · exact proper.reruns attempt member nativeId' outcome' reran'
    · intro short
      dsimp only at short ⊢
      rw [last]
      exact proper.persists (Nat.lt_of_succ_lt_succ short)
    · dsimp only
      rw [last]
      exact proper.result

/-- The loop, entered behind a run that lost its connection. -/
theorem reconnectLoop_properly_iff {remaining k : Nat} {result : Result α}
    (mapped : world.repository.connectionIds.lookup connectionId = some operation.nativeId)
    (ran : operation.run (some options) k = .ok result) (lost : result.lost = true) :
    ReconnectsProperly connectionId remaining
        { reconnectLoop turns connectionId connectionString options operation remaining k result
            world with first := some (.ok result) } ↔
      Resumes turns (some options) operation remaining k := by
  induction remaining generalizing k result world with
  | zero => exact iff_of_true (properly_of_settled rfl rfl rfl (.inl rfl)) ⟨result, ran⟩
  | succ remaining ih =>
      have unfolded : Resumes turns (some options) operation (remaining + 1) k ↔
          Restores operation.nativeId (turns k) ∧
            Resumes turns (some options) operation remaining (k + 1) := by
        simp only [Resumes, ran, Except.ok.injEq, exists_eq_left', lost, true_implies]
      rw [unfolded]
      have frame : LoopFrame connectionId (remaining + 1) world
          (reconnectLoop turns connectionId connectionString options operation (remaining + 1) k
            result world) := reconnectLoop_frame (remaining + 1) k result world
      have restored (restores : Restores operation.nativeId (turns k)) :
          (world.reconnect (turns k) connectionId connectionString options).1 = .ok (.success ()) :=
        reconnect_of_reopens mapped restores
      rw [reconnectLoop] at frame ⊢
      generalize tried : world.reconnect (turns k) connectionId connectionString options = outcome
        at frame restored ⊢
      obtain ⟨reconnected, created, next⟩ := outcome
      cases reconnected with
      | error thrown =>
          refine iff_of_false (not_properly_of_thrown rfl) ?_
          rintro ⟨restores, -⟩
          cases restored restores
      | ok reopened =>
          cases reopened with
          | failure error =>
              refine iff_of_false (not_properly_of_thrown rfl) ?_
              rintro ⟨restores, -⟩
              cases restored restores
          | success opened =>
              obtain ⟨connId, rfl, kept⟩ := reconnect_eq_success tried
              rw [Restores, kept.reopens_iff mapped]
              dsimp only at frame ⊢
              rw [kept.options_kept] at frame ⊢
              cases ran' : operation.run (some options) (k + 1) with
              | error thrown =>
                  refine iff_of_false (not_properly_of_thrown rfl) ?_
                  rintro ⟨-, resumes⟩
                  obtain ⟨result', completed⟩ := resumes.completes
                  cases ran'.symm.trans completed
              | ok result' =>
                  rw [ran'] at frame
                  dsimp only at frame ⊢
                  split_ifs at frame ⊢ with lost'
                  · rw [properly_cons_iff rfl rfl frame, Option.some.injEq]
                    refine and_congr_right fun same => ih ?_ ran' lost'
                    rw [kept.mapped, same]
                  · rw [Bool.not_eq_true] at lost'
                    let settled : Call α := { completion := .ok result', world := next }
                    have frame : LoopFrame connectionId (remaining + 1) world { settled with
                        attempts := ⟨.ok (.success ()), some connId,
                          some (operation.nativeId, .ok result')⟩ :: settled.attempts } := frame
                    refine (properly_cons_iff rfl rfl frame).trans ?_
                    rw [Option.some.injEq]
                    refine and_congr_right fun _ => iff_of_true ?_ (resumes_of_settled ran' lost')
                    exact properly_of_settled rfl rfl rfl (.inr lost')

/-! ## Whole calls -/

theorem optionsOf_of_settings
    (settings : world.repository.reconnectSettings connectionId = some (options, connectionString)) :
    world.optionsOf connectionId = some options := by
  rw [Repository.reconnectSettings] at settings
  split at settings
  · next found _ =>
      split_ifs at settings
      cases settings
      rw [World.optionsOf, found]
      rfl
  · cases settings

theorem withReconnect_properly_iff
    (mapped : world.repository.connectionIds.lookup connectionId = some operation.nativeId) :
    ReconnectsProperly connectionId (world.repository.maxAttempts connectionId)
        (withReconnect turns connectionId operation world) ↔
      Resumes turns (world.optionsOf connectionId) operation
        (world.repository.maxAttempts connectionId) 0 := by
  rw [withReconnect]
  cases ran : operation.run (world.optionsOf connectionId) 0 with
  | error thrown =>
      refine iff_of_false (not_properly_of_thrown rfl) ?_
      intro resumes
      obtain ⟨result, completed⟩ := resumes.completes
      cases ran.symm.trans completed
  | ok result =>
      dsimp only
      split_ifs with lost
      · rw [Repository.maxAttempts]
        cases settings : world.repository.reconnectSettings connectionId with
        | none =>
            exact iff_of_true (properly_of_settled rfl rfl rfl (.inl rfl)) ⟨result, ran⟩
        | some found =>
            obtain ⟨options, connectionString⟩ := found
            rw [optionsOf_of_settings settings] at ran ⊢
            exact reconnectLoop_properly_iff mapped ran lost
      · rw [Bool.not_eq_true] at lost
        exact iff_of_true (properly_of_settled rfl rfl rfl (.inr lost))
          (resumes_of_settled ran lost)

/-- A query method does what it promises exactly when every run it makes completes, and every
reconnect it needs is answered with the native identifier that the method found. -/
theorem reconnectsProperly_iff (turns : Nat → ReconnectTurn) (connectionId : String)
    (operation : Nat → Option ConnectionOptions → Nat → Completion (Result α)) (world : World) :
    ReconnectsProperly connectionId (world.repository.maxAttempts connectionId)
        (queryMethod turns connectionId operation world) ↔
      ∀ nativeId, world.repository.connectionIds.lookup connectionId = some nativeId →
        Resumes turns (world.optionsOf connectionId) ⟨nativeId, operation nativeId⟩
          (world.repository.maxAttempts connectionId) 0 := by
  rw [queryMethod]
  cases mapped : world.repository.connectionIds.lookup connectionId with
  | none =>
      refine iff_of_true ?_ (by rintro _ ⟨⟩)
      refine ⟨by rintro _ ⟨⟩, Nat.zero_le _, by rintro _ _ ⟨⟩, ?_, by rintro _ ⟨⟩⟩
      exact ⟨_, rfl, .inr ⟨_, rfl⟩⟩
  | some nativeId =>
      simp only [Option.some.injEq, forall_eq']
      exact withReconnect_properly_iff mapped

/-- A connection that reconnects, on the native connection 1. -/
def lostWorld : World where
  repository := Repository.remember "1" 1 (some { autoReconnectOnConnectionLost := true }) "DSN=db" {}
  live := AList.singleton 1 ()

/-- The link is down: every run reports SQLSTATE 08S01. -/
def linkFailure : OdbcError :=
  { errorClass := .query, message := "Communication link failure", sqlState := some "08S01" }

/-- The native library gives the new connection the next identifier. -/
def nextIdentifier (attempt : Nat) : ReconnectTurn where
  replies :=
    { disconnect := fun _ => .ok true
      connect := .ok (attempt + 2)
      errors := ⟨.ok none, .ok ""⟩ }
  closed := true

/-- The reconnect opens the native connection 2, and the query runs again on 1, which was closed. -/
theorem rerun_on_closed_connection :
    ¬ ReconnectsProperly "1" (lostWorld.repository.maxAttempts "1")
      (queryMethod nextIdentifier "1" (fun _ _ _ => (.ok (.failure linkFailure) :
        Completion (Result QueryResult))) lostWorld) := by
  intro proper
  obtain ⟨-, created⟩ := proper.reruns
    ⟨.ok (.success ()), some 2, some (1, .ok (.failure linkFailure))⟩
    (List.mem_of_mem_head? (by rfl)) 1 _ rfl
  cases created

end OdbcFast.Verification
