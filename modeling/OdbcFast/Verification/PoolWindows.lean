import OdbcFast.Native.Ffi.PoolThreads
import OdbcFast.Wire.Machine

/-!
# Pools between the sections of a call

A checkout that waits and a query that runs are not seen by the calls that resize, close and
release: a pool can be gone when the checkout or the query comes back, a pool is resized while
a query runs on one of its connections, and a connection cannot be released then. Each step
that does none of this keeps what is claimed, and only those do.
-/

namespace OdbcFast.Verification

open Wire OdbcFast.Native OdbcFast.Native.PoolSystem

/-- Every pooled connection belongs to a pool that exists. -/
def EntriesHavePools (system : PoolSystem) : Prop :=
  ∀ connId poolId, system.sessions.pooledConnections.lookup connId = some poolId →
    (system.sessions.pools.lookup poolId).isSome

/-- What is claimed of a step: the state it leaves is good, a pool is resized only while no
caller has a connection of it in hand, and a connection in hand can be released. -/
structure StepKept (event : Event) (code : Option Int) (system next : PoolSystem) : Prop where
  pools : EntriesHavePools next
  resized : ∀ poolId newMaxSize built, event = .setSize poolId newMaxSize built →
    code = some 0 → ∀ connId, system.held.lookup connId ≠ some poolId
  released : ∀ connId, event = .release connId → (system.held.lookup connId).isSome →
    code = some 0

def WindowsKept (event : Event) (system : PoolSystem) : Prop :=
  ∀ next code, step event system = some (next, code) → StepKept event code system next

/-- No call comes back to a pool that is gone, resizes a pool that a query is using or releases
a connection that one is using. -/
def KeepsClear : Event → PoolSystem → Prop
  | .getEnd thread true, system => ∀ poolId, system.waiting.lookup thread = some poolId →
      (system.sessions.nextPooledId poolId).1.isSome → (system.sessions.pools.lookup poolId).isSome
  | .queryEnd thread, system => ∀ query, system.running.lookup thread = some query →
      (system.sessions.pools.lookup query.poolId).isSome
  | .release connId, system => (system.held.lookup connId).isSome → ¬ system.Runs connId
  | .setSize poolId newMaxSize true, system => newMaxSize ≠ 0 →
      (system.sessions.pools.lookup poolId).isSome →
      (∀ connId, system.sessions.pooledConnections.lookup connId ≠ some poolId) →
        ∀ connId, system.Runs connId → system.held.lookup connId ≠ some poolId
  | _, _ => True

section

variable {system next : PoolSystem} {event : Event} {code : Option Int}

/-- What is claimed of one outcome, when an event has no other. -/
theorem windowsKept_iff (stepped : step event system = some (next, code)) :
    WindowsKept event system ↔ StepKept event code system next := by
  refine ⟨fun kept => kept next code stepped, fun kept next' code' stepped' => ?_⟩
  cases stepped.symm.trans stepped'
  exact kept

/-- A step that neither resizes nor releases. -/
theorem stepKept_plain (unsized : ∀ poolId newMaxSize built,
      event ≠ .setSize poolId newMaxSize built) (unreleased : ∀ connId, event ≠ .release connId) :
    StepKept event code system next ↔ EntriesHavePools next :=
  ⟨StepKept.pools, fun pools => ⟨pools, fun _ _ _ same => absurd same (unsized _ _ _),
    fun _ same => absurd same (unreleased _)⟩⟩

/-- Connections that were there before, with pools that were there before. -/
theorem pools_of_kept (pools : EntriesHavePools system)
    (kept : ∀ connId poolId, next.sessions.pooledConnections.lookup connId = some poolId →
      system.sessions.pooledConnections.lookup connId = some poolId)
    (there : ∀ poolId, (system.sessions.pools.lookup poolId).isSome →
      (next.sessions.pools.lookup poolId).isSome) : EntriesHavePools next :=
  fun connId poolId found => there poolId (pools connId poolId (kept connId poolId found))

/-- A connection is put into the map. -/
theorem pools_insert_iff {connId poolId : Nat} (pools : EntriesHavePools system)
    (pooledConnections : next.sessions.pooledConnections =
      system.sessions.pooledConnections.insert connId poolId)
    (same : next.sessions.pools = system.sessions.pools) :
    EntriesHavePools next ↔ (system.sessions.pools.lookup poolId).isSome := by
  constructor
  · intro pools
    rw [← same]
    exact pools connId poolId (by rw [pooledConnections]; exact AList.lookup_insert _)
  · intro there other pool found
    rw [same]
    rw [pooledConnections] at found
    rcases HashMap.lookup_insert_eq_some.mp found with ⟨-, rfl⟩ | ⟨-, found⟩
    · exact there
    · exact pools other pool found

theorem stepKept_iff (pools : EntriesHavePools system) (apart : QueriesApart system)
    (stepped : Stepped system event next code) :
    StepKept event code system next ↔ KeepsClear event system := by
  cases stepped with
  | quiet plain same =>
      have clear : KeepsClear event system := by
        cases event with
        | getEnd _ _ => exact plain.elim
        | queryEnd _ => exact plain.elim
        | release _ => exact plain.elim
        | setSize _ _ _ => exact plain.elim
        | _ => trivial
      rw [stepKept_plain (by rintro _ _ _ rfl; exact plain) (by rintro _ rfl; exact plain)]
      refine iff_of_true (pools_of_kept pools ?_ ?_) clear
      · exact fun connId poolId found => same.pooledConnections ▸ found
      · exact fun poolId there => by rwa [same.pools]
  | connected _ =>
      rw [stepKept_plain (by rintro _ _ _ ⟨⟩) (by rintro _ ⟨⟩)]
      exact iff_of_true pools trivial
  | disconnected =>
      rw [stepKept_plain (by rintro _ _ _ ⟨⟩) (by rintro _ ⟨⟩)]
      exact iff_of_true pools trivial
  | created =>
      rw [stepKept_plain (by rintro _ _ _ ⟨⟩) (by rintro _ ⟨⟩)]
      refine iff_of_true (pools_of_kept pools (fun _ _ found => found) fun poolId there => ?_) trivial
      exact HashMap.isSome_lookup_insert there
  | @gaveNothing thread poolId available _ waits nothing same =>
      rw [stepKept_plain (by rintro _ _ _ ⟨⟩) (by rintro _ ⟨⟩)]
      refine iff_of_true (pools_of_kept pools ?_ ?_) ?_
      · exact fun connId poolId found => same.pooledConnections ▸ found
      · exact fun poolId there => by rwa [same.pools]
      · cases available with
        | false => trivial
        | true =>
            intro poolId' waits' found
            cases waits.symm.trans waits'
            rw [nothing rfl] at found
            cases found
  | @gave thread poolId connId _ _ _ waits found _ =>
      rw [stepKept_plain (by rintro _ _ _ ⟨⟩) (by rintro _ ⟨⟩)]
      refine Iff.trans (pools_insert_iff pools rfl rfl) ⟨?_, ?_⟩
      · intro there poolId' waits' _
        cases waits.symm.trans waits'
        exact there
      · exact fun clear => clear poolId waits (by rw [found]; rfl)
  | took _ _ _ =>
      rw [stepKept_plain (by rintro _ _ _ ⟨⟩) (by rintro _ ⟨⟩)]
      refine iff_of_true (pools_of_kept pools ?_ fun _ there => there) trivial
      exact fun _ _ found => (HashMap.lookup_erase_eq_some.mp found).2
  | @returned thread query runs =>
      rw [stepKept_plain (by rintro _ _ _ ⟨⟩) (by rintro _ ⟨⟩)]
      refine Iff.trans (pools_insert_iff pools rfl rfl) ⟨?_, ?_⟩
      · intro there query' runs'
        cases runs.symm.trans runs'
        exact there
      · exact fun clear => clear query runs
  | @notReleased connId missing =>
      -- What is in hand and not in the map is in use by a query.
      have runs : (system.held.lookup connId).isSome → system.Runs connId := by
        intro inHand
        obtain ⟨poolId, inHand⟩ := Option.isSome_iff_exists.mp inHand
        rcases apart.held connId poolId inHand with there | ⟨thread, runs⟩
        · cases missing.symm.trans there
        · exact ⟨thread, _, runs, rfl⟩
      constructor
      · intro kept inHand _
        cases kept.released connId rfl inHand
      · refine fun clear => ⟨pools, by rintro _ _ _ ⟨⟩, ?_⟩
        rintro _ ⟨⟩ inHand
        exact absurd (runs inHand) (clear inHand)
  | @released connId poolId _ pooled =>
      refine iff_of_true ⟨pools_of_kept pools ?_ fun _ there => there, by rintro _ _ _ ⟨⟩,
        fun _ _ _ => rfl⟩ fun _ runs => ?_
      · exact fun _ _ found => (HashMap.lookup_erase_eq_some.mp found).2
      · cases (apart.taken connId runs).symm.trans pooled
  | @notResized poolId newMaxSize built refused =>
      refine iff_of_true ⟨pools, by rintro _ _ _ - ⟨⟩, by rintro _ ⟨⟩⟩ ?_
      cases built with
      | false => trivial
      | true =>
          intro positive there unused
          rcases refused with zero | missing | ⟨connId, pooled⟩
          · exact absurd zero positive
          · rw [missing] at there
            cases there
          · exact absurd pooled (unused connId)
  | @lost poolId _ unused =>
      refine iff_of_true ⟨fun connId pool found => ?_, by rintro _ _ _ - ⟨⟩, by rintro _ ⟨⟩⟩ trivial
      have other : pool ≠ poolId := by
        rintro rfl
        exact unused connId found
      change ((system.sessions.pools.erase poolId).lookup pool).isSome
      rw [AList.lookup_erase_ne other]
      exact pools connId pool found
  | @resized poolId newMaxSize positive there unused =>
      have good : EntriesHavePools { system with sessions := { system.sessions with
          pools := (system.sessions.pools.erase poolId).insert poolId () } } := by
        intro connId pool found
        have other : pool ≠ poolId := by
          rintro rfl
          exact unused connId found
        change (((system.sessions.pools.erase poolId).insert poolId ()).lookup pool).isSome
        rw [AList.lookup_insert_ne other, AList.lookup_erase_ne other]
        exact pools connId pool found
      constructor
      · exact fun kept _ _ _ connId _ => kept.resized poolId newMaxSize true rfl rfl connId
      · refine fun clear => ⟨good, ?_, by rintro _ ⟨⟩⟩
        rintro _ _ _ ⟨⟩ - connId inHand
        rcases apart.held connId poolId inHand with pooled | ⟨thread, runs⟩
        · exact unused connId pooled
        · exact clear positive there unused connId ⟨thread, _, runs, rfl⟩ inHand
  | @closed poolId _ =>
      rw [stepKept_plain (by rintro _ _ _ ⟨⟩) (by rintro _ ⟨⟩)]
      refine iff_of_true (fun connId pool found => ?_) trivial
      obtain ⟨found, other⟩ := HashMap.lookup_retain_eq_some.mp found
      change ((system.sessions.pools.erase poolId).lookup pool).isSome
      rw [AList.lookup_erase_ne (of_decide_eq_true other)]
      exact pools connId pool found

/-- A call that cannot go on has nothing to keep. -/
theorem keepsClear_of_stuck (stuck : step event system = none) : KeepsClear event system := by
  cases event with
  | getEnd thread available =>
      cases available with
      | false => trivial
      | true =>
          intro poolId waits _
          rw [step, waits] at stuck
          cases stuck
  | queryEnd thread =>
      intro query runs
      rw [step, runs] at stuck
      cases stuck
  | release connId =>
      rw [step] at stuck
      cases stuck
  | setSize poolId newMaxSize built =>
      rw [step] at stuck
      cases stuck
  | _ => trivial

theorem windowsKept_iff_keepsClear (pools : EntriesHavePools system)
    (apart : QueriesApart system) : WindowsKept event system ↔ KeepsClear event system := by
  rcases stepped : step event system with _ | ⟨next, code⟩
  · refine iff_of_true (fun next code stepped' => ?_) (keepsClear_of_stuck stepped)
    cases stepped.symm.trans stepped'
  · rw [windowsKept_iff stepped]
    exact stepKept_iff pools apart (stepped_of_step stepped)

end

/-- Whatever the interleaving, as long as no identifier is given out that a query has taken out:
every step keeps what is claimed exactly when every step keeps clear of the windows. -/
theorem windows_kept_iff {events : List Event} (unrun : Along step NotRunning events {}) :
    Along step WindowsKept events {} ↔ Along step KeepsClear events {} := by
  refine along_congr_along (fun system => EntriesHavePools system ∧ QueriesApart system)
    ?_ (fun good _ => windowsKept_iff_keepsClear good.1 good.2) ?_ unrun
  · rintro event system next code ⟨-, apart⟩ unrun kept stepped
    exact ⟨(kept next code stepped).pools,
      queriesApart_of_stepped apart unrun (stepped_of_step stepped)⟩
  · exact ⟨by rintro connId poolId ⟨⟩, queriesApart_empty⟩

/-- A query that comes back before the connection is released and its pool resized and
closed. -/
def queryReturns : List Event :=
  [.poolCreate true, .getBegin 0 1, .getEnd 0 true, .queryBegin 0 1000000, .queryEnd 0,
    .release 1000000, .setSize 1 2 true, .close 1]

theorem windows_kept_iff_sample : Along step WindowsKept queryReturns {} := by
  have unrun : Along step NotRunning queryReturns {} := by
    refine (along_cons_iff rfl).mpr ⟨trivial, (along_cons_iff rfl).mpr ⟨trivial,
      (along_cons_iff rfl).mpr ⟨?_, (along_cons_iff rfl).mpr ⟨trivial, (along_cons_iff rfl).mpr
        ⟨trivial, (along_cons_iff rfl).mpr ⟨trivial, (along_cons_iff rfl).mpr ⟨trivial,
          (along_cons_iff rfl).mpr ⟨trivial, trivial⟩⟩⟩⟩⟩⟩⟩⟩
    rintro poolId connId - - ⟨thread, query, ⟨⟩, -⟩
  have ended : ∀ thread query, ((AList.insert 0 ⟨1000000, 1⟩ ∅ :
      HashMap Nat PooledQuery).erase 0).lookup thread ≠ some query := by
    intro thread query runs
    obtain ⟨other, runs⟩ := HashMap.lookup_erase_eq_some.mp runs
    rw [AList.lookup_insert_ne other] at runs
    cases runs
  have clear : Along step KeepsClear queryReturns {} := by
    refine (along_cons_iff rfl).mpr ⟨trivial, (along_cons_iff rfl).mpr ⟨trivial,
      (along_cons_iff rfl).mpr ⟨?_, (along_cons_iff rfl).mpr ⟨trivial, (along_cons_iff rfl).mpr
        ⟨?_, (along_cons_iff rfl).mpr ⟨?_, (along_cons_iff rfl).mpr ⟨?_,
          (along_cons_iff rfl).mpr ⟨trivial, trivial⟩⟩⟩⟩⟩⟩⟩⟩
    · rintro poolId ⟨⟩ -
      rfl
    · rintro query ⟨⟩
      rfl
    · rintro - ⟨thread, query, runs, -⟩
      exact ended thread query runs
    · rintro - - - connId ⟨thread, query, runs, -⟩
      exact absurd runs (ended thread query)
  exact (windows_kept_iff unrun).mpr clear

/-- The pool is resized, the connection not released and the pool closed while a query runs,
which then puts its connection back. -/
def queryOutlivesPool : List Event :=
  [.poolCreate true, .getBegin 0 1, .getEnd 0 true, .queryBegin 0 1000000, .setSize 1 2 true,
    .release 1000000, .close 1, .queryEnd 0]

theorem query_outlives_pool :
    (∃ system log, run step queryOutlivesPool {} = some (system, log) ∧
      log = [some 1, none, some 1000000, none, some 0, some 1, some 0, none] ∧
        ¬ EntriesHavePools system) ∧
      ¬ ∀ events : List Event, Along step WindowsKept events {} := by
  constructor
  · refine ⟨_, _, rfl, rfl, fun pools => ?_⟩
    cases pools 1000000 1 rfl
  · intro claimed
    have kept := claimed queryOutlivesPool
    iterate 4 replace kept := ((along_cons_iff rfl).mp kept).2
    have resized := (windowsKept_iff rfl).mp ((along_cons_iff rfl).mp kept).1
    exact resized.resized 1 2 true rfl rfl 1000000 rfl

end OdbcFast.Verification
