import OdbcFast.Native.Ffi.PoolThreads
import OdbcFast.Wire.Machine

/-!
# Identifiers of direct and pooled connections

Direct connections are numbered from 1 and pooled ones from 1000000, and neither counter looks
at what the other has given out or at the identifiers that were released. As long as no
identifier is given out that is in use elsewhere, each has one holder and a call reaches the
holder's connection. A million direct connections, opened one after another, are enough to
meet a pooled one.
-/

namespace OdbcFast.Verification

open Wire OdbcFast.Native OdbcFast.Native.PoolSystem

/-- What is claimed of a state: a live identifier is direct or pooled, one that waits in a list
is in no other and not live, and what a pool gave is what its holder reaches, except while the
holder's own query has it. -/
structure OneHolder (system : PoolSystem) : Prop where
  direct : ∀ connId, (system.sessions.connections.lookup connId).isSome →
    system.sessions.pooledConnections.lookup connId = none
  free : ∀ poolId connId, system.sessions.FreeIn poolId connId →
    system.sessions.pooledConnections.lookup connId = none ∧
      ∀ other, system.sessions.FreeIn other connId → other = poolId
  reaches : ∀ connId poolId, system.held.lookup connId = some poolId →
    system.sessions.resolve connId = some (.pooled poolId) ∨
      system.sessions.resolve connId = none ∧ system.Runs connId

/-- The identifier that is given out next is in use nowhere else. -/
def FreshId : Event → PoolSystem → Prop
  | .connect true, system => ∀ connId, system.sessions.nextDirectId = some connId →
      system.sessions.pooledConnections.lookup connId = none ∧ ¬ system.Runs connId
  | .getEnd thread true, system => ∀ poolId connId, system.waiting.lookup thread = some poolId →
      (system.sessions.nextPooledId poolId).1 = some connId →
        system.sessions.connections.lookup connId = none ∧ ¬ system.Runs connId ∧
          ∀ other, other ≠ poolId → ¬ system.sessions.FreeIn other connId
  | _, _ => True

/-! ## Where an identifier is -/

/-- An identifier is in one place. -/
structure IdsApart (system : PoolSystem) : Prop where
  queries : QueriesApart system
  direct : ∀ connId, (system.sessions.connections.lookup connId).isSome →
    system.sessions.pooledConnections.lookup connId = none ∧ ¬ system.Runs connId
  free : ∀ poolId connId, system.sessions.FreeIn poolId connId →
    system.sessions.pooledConnections.lookup connId = none ∧ ¬ system.Runs connId ∧
      ∀ other, system.sessions.FreeIn other connId → other = poolId
  nodup : ∀ poolId ids, system.sessions.pooledFreeIds.lookup poolId = some ids → ids.Nodup

section

variable {system next : PoolSystem} {connId poolId : Nat}

theorem oneHolder_of_idsApart (apart : IdsApart system) : OneHolder system where
  direct connId live := (apart.direct connId live).1
  free poolId connId there :=
    ⟨(apart.free poolId connId there).1, (apart.free poolId connId there).2.2⟩
  reaches connId poolId held := by
    rcases direct : system.sessions.connections.lookup connId with _ | _
    · rcases apart.queries.held connId poolId held with pooled | ⟨thread, runs⟩
      · exact .inl (resolve_eq_pooled.mpr ⟨direct, pooled⟩)
      · have taken : system.Runs connId := ⟨thread, _, runs, rfl⟩
        refine .inr ⟨?_, taken⟩
        rw [Sessions.resolve, direct, apart.queries.taken connId taken]
        rfl
    · obtain ⟨unpooled, untaken⟩ := apart.direct connId (by rw [direct]; rfl)
      rcases apart.queries.held connId poolId held with pooled | ⟨thread, runs⟩
      · cases unpooled.symm.trans pooled
      · exact absurd ⟨thread, _, runs, rfl⟩ untaken

theorem notRunning_of_freshId {event : Event} (fresh : FreshId event system) :
    NotRunning event system := by
  cases event with
  | getEnd thread available =>
      cases available with
      | true => exact fun poolId connId waits found => (fresh poolId connId waits found).2.1
      | false => trivial
  | _ => trivial

/-- The lists are as they were, no direct connection is new, and what has come into the map
was in it or taken out before. -/
theorem idsApart_of_lists (apart : IdsApart system) (queries : QueriesApart next)
    (direct : ∀ connId, (next.sessions.connections.lookup connId).isSome →
      (system.sessions.connections.lookup connId).isSome)
    (pooled : ∀ connId, (next.sessions.pooledConnections.lookup connId).isSome ∨ next.Runs connId →
      (system.sessions.pooledConnections.lookup connId).isSome ∨ system.Runs connId)
    (free : ∀ poolId ids, next.sessions.pooledFreeIds.lookup poolId = some ids →
      system.sessions.pooledFreeIds.lookup poolId = some ids) : IdsApart next := by
  have unused : ∀ connId, system.sessions.pooledConnections.lookup connId = none ∧
      ¬ system.Runs connId → next.sessions.pooledConnections.lookup connId = none ∧
        ¬ next.Runs connId := by
    rintro connId ⟨unpooled, untaken⟩
    have used := mt (pooled connId)
    rw [unpooled] at used
    have unused := not_or.mp (used (not_or.mpr ⟨by simp, untaken⟩))
    rw [Bool.not_eq_true, Option.isSome_eq_false_iff, Option.isNone_iff_eq_none] at unused
    exact unused
  have listed : ∀ poolId connId, next.sessions.FreeIn poolId connId →
      system.sessions.FreeIn poolId connId := by
    rintro poolId connId ⟨ids, found, member⟩
    exact ⟨ids, free poolId ids found, member⟩
  refine ⟨queries, fun connId live => unused connId (apart.direct connId (direct connId live)),
    fun poolId connId there => ?_, fun poolId ids found => apart.nodup poolId ids (free poolId ids found)⟩
  obtain ⟨unpooled, untaken, alone⟩ := apart.free poolId connId (listed poolId connId there)
  obtain ⟨unpooled, untaken⟩ := unused connId ⟨unpooled, untaken⟩
  exact ⟨unpooled, untaken, fun other there => alone other (listed other connId there)⟩

/-- An identifier that has just been given out is in no list any more. -/
theorem free_behind_nextId {pooledFreeIds : HashMap Nat (List Nat)} (apart : IdsApart system)
    (fresh : ∀ other, other ≠ poolId → ¬ system.sessions.FreeIn other connId)
    (source : NextId system.sessions poolId connId pooledFreeIds) :
    (∀ pool ids, pooledFreeIds.lookup pool = some ids → ids.Nodup) ∧
      ∀ pool other ids, pooledFreeIds.lookup pool = some ids → other ∈ ids →
        system.sessions.FreeIn pool other ∧ other ≠ connId := by
  cases source with
  | fresh _ nothing =>
      refine ⟨apart.nodup, fun pool other ids found member => ⟨⟨ids, found, member⟩, ?_⟩⟩
      rintro rfl
      by_cases own : pool = poolId
      · subst own
        exact nothing ⟨other, ids, found, member⟩
      · exact fresh pool own ⟨ids, found, member⟩
  | @released rest first =>
      have nodup := apart.nodup poolId _ first
      rw [List.nodup_cons] at nodup
      constructor
      · intro pool ids found
        rcases HashMap.lookup_insert_eq_some.mp found with ⟨-, rfl⟩ | ⟨-, found⟩
        · exact nodup.2
        · exact apart.nodup pool ids found
      · intro pool other ids found member
        rcases HashMap.lookup_insert_eq_some.mp found with ⟨rfl, rfl⟩ | ⟨own, found⟩
        · refine ⟨⟨_, first, List.mem_cons_of_mem _ member⟩, ?_⟩
          rintro rfl
          exact nodup.1 member
        · refine ⟨⟨ids, found, member⟩, ?_⟩
          rintro rfl
          exact fresh pool own ⟨ids, found, member⟩

/-- A connection is released, and its identifier waits in the list of its pool. -/
theorem idsApart_released {statements : HashMap Nat StatementHandle} (apart : IdsApart system)
    (pooled : system.sessions.pooledConnections.lookup connId = some poolId)
    (queries : QueriesApart { system with
      sessions := { system.sessions with
        statements
        pooledConnections := system.sessions.pooledConnections.erase connId
        pooledFreeIds := system.sessions.pooledFreeIds.insert poolId
          (connId :: (system.sessions.pooledFreeIds.lookup poolId).getD []) }
      held := system.held.erase connId }) :
    IdsApart { system with
      sessions := { system.sessions with
        statements
        pooledConnections := system.sessions.pooledConnections.erase connId
        pooledFreeIds := system.sessions.pooledFreeIds.insert poolId
          (connId :: (system.sessions.pooledFreeIds.lookup poolId).getD []) }
      held := system.held.erase connId } := by
  have live : ∀ other, system.sessions.pooledConnections.lookup other = none → other ≠ connId := by
    rintro other unpooled rfl
    cases unpooled.symm.trans pooled
  have erased : ∀ other, system.sessions.pooledConnections.lookup other = none →
      (system.sessions.pooledConnections.erase connId).lookup other = none :=
    fun other unpooled => HashMap.lookup_erase_eq_none.mpr (.inr unpooled)
  have unlisted : ∀ pool, ¬ system.sessions.FreeIn pool connId :=
    fun pool there => live connId (apart.free pool connId there).1 rfl
  -- The list of the pool as it was.
  have before : ∀ other, other ∈ (system.sessions.pooledFreeIds.lookup poolId).getD [] →
      system.sessions.FreeIn poolId other := by
    intro other member
    rcases found : system.sessions.pooledFreeIds.lookup poolId with _ | ids
    · rw [found] at member
      cases member
    · rw [found] at member
      exact ⟨ids, found, member⟩
  have listed : ∀ pool ids other, (system.sessions.pooledFreeIds.insert poolId
      (connId :: (system.sessions.pooledFreeIds.lookup poolId).getD [])).lookup pool = some ids →
        other ∈ ids → pool = poolId ∧ other = connId ∨ system.sessions.FreeIn pool other := by
    intro pool ids other found member
    rcases HashMap.lookup_insert_eq_some.mp found with ⟨rfl, rfl⟩ | ⟨-, found⟩
    · rcases List.mem_cons.mp member with rfl | member
      · exact .inl ⟨rfl, rfl⟩
      · exact .inr (before other member)
    · exact .inr ⟨ids, found, member⟩
  refine ⟨queries, fun other direct => ?_, ?_, fun pool ids found => ?_⟩
  · obtain ⟨unpooled, unrun⟩ := apart.direct other direct
    exact ⟨erased other unpooled, unrun⟩
  · rintro pool other ⟨ids, found, member⟩
    rcases listed pool ids other found member with ⟨rfl, rfl⟩ | there
    · refine ⟨AList.lookup_erase _ _, fun runs => live _ (apart.queries.taken _ runs) rfl, ?_⟩
      rintro pool' ⟨ids', found', member'⟩
      rcases listed pool' ids' other found' member' with ⟨rfl, -⟩ | there
      · rfl
      · exact absurd there (unlisted pool')
    · obtain ⟨unpooled, unrun, alone⟩ := apart.free pool other there
      refine ⟨erased other unpooled, unrun, ?_⟩
      rintro pool' ⟨ids', found', member'⟩
      rcases listed pool' ids' other found' member' with ⟨-, rfl⟩ | there'
      · exact absurd there (unlisted pool)
      · exact alone pool' there'
  · rcases HashMap.lookup_insert_eq_some.mp found with ⟨rfl, rfl⟩ | ⟨-, found⟩
    · refine List.nodup_cons.mpr ⟨fun member => unlisted _ (before connId member), ?_⟩
      rcases found : system.sessions.pooledFreeIds.lookup pool with _ | ids
      · exact List.nodup_nil
      · exact apart.nodup pool ids found
    · exact apart.nodup pool ids found

theorem idsApart_of_stepped {event : Event} {code : Option Int} (apart : IdsApart system)
    (fresh : FreshId event system) (stepped : Stepped system event next code) :
    IdsApart next := by
  have queries := queriesApart_of_stepped apart.queries (notRunning_of_freshId fresh) stepped
  cases stepped with
  | quiet _ same =>
      obtain ⟨connections, -, pooledConnections, pooledFreeIds, running, -⟩ := same
      refine idsApart_of_lists apart queries ?_ ?_ ?_
      · exact fun connId live => connections ▸ live
      · exact fun connId used => by rwa [pooledConnections, Runs, running] at used
      · exact fun poolId ids found => pooledFreeIds ▸ found
  | gaveNothing _ _ same =>
      obtain ⟨connections, -, pooledConnections, pooledFreeIds, running, -⟩ := same
      refine idsApart_of_lists apart queries ?_ ?_ ?_
      · exact fun connId live => connections ▸ live
      · exact fun connId used => by rwa [pooledConnections, Runs, running] at used
      · exact fun poolId ids found => pooledFreeIds ▸ found
  | created => exact ⟨queries, apart.direct, apart.free, apart.nodup⟩
  | lost _ => exact ⟨queries, apart.direct, apart.free, apart.nodup⟩
  | resized _ _ _ => exact ⟨queries, apart.direct, apart.free, apart.nodup⟩
  | notReleased _ => exact apart
  | notResized _ => exact apart
  | @connected connId _ allocated =>
      refine ⟨queries, fun other live => ?_, apart.free, apart.nodup⟩
      by_cases own : other = connId
      · exact own ▸ fresh connId allocated
      · rw [AList.lookup_insert_ne own] at live
        exact apart.direct other live
  | disconnected =>
      refine ⟨queries, fun other live => ?_, apart.free, apart.nodup⟩
      obtain ⟨_, found⟩ := Option.isSome_iff_exists.mp live
      exact apart.direct other (by rw [(HashMap.lookup_erase_eq_some.mp found).2]; rfl)
  | @gave thread poolId connId _ waiting pooledFreeIds waits found source =>
      obtain ⟨undirected, untaken, unlisted⟩ := fresh poolId connId waits found
      obtain ⟨nodup, free⟩ := free_behind_nextId apart unlisted source
      refine ⟨queries, fun other live => ?_, fun pool other there => ?_, nodup⟩
      · obtain ⟨unpooled, unrun⟩ := apart.direct other live
        refine ⟨AList.lookup_insert_eq_none.mpr ⟨?_, unpooled⟩, unrun⟩
        rintro rfl
        rw [undirected] at live
        cases live
      · obtain ⟨ids, listed, member⟩ := there
        obtain ⟨before, different⟩ := free pool other ids listed member
        obtain ⟨unpooled, unrun, alone⟩ := apart.free pool other before
        refine ⟨AList.lookup_insert_eq_none.mpr ⟨different, unpooled⟩, unrun, ?_⟩
        rintro pool' ⟨ids', listed', member'⟩
        exact alone pool' (free pool' other ids' listed' member').1
  | @took thread connId poolId idle _ pooled =>
      refine idsApart_of_lists apart queries (fun _ live => live) (fun other used => ?_)
        fun _ _ found => found
      rcases used with there | runs
      · obtain ⟨pool, there⟩ := Option.isSome_iff_exists.mp there
        rw [(HashMap.lookup_erase_eq_some.mp there).2]
        exact .inl rfl
      · rcases (runs_insert rfl idle.2 other).mp runs with rfl | runs
        · rw [pooled]
          exact .inl rfl
        · exact .inr runs
  | @returned thread query runs =>
      refine idsApart_of_lists apart queries (fun _ live => live) (fun other used => ?_)
        fun _ _ found => found
      rcases used with there | ⟨thread', query', runs', same⟩
      · obtain ⟨pool, there⟩ := Option.isSome_iff_exists.mp there
        rcases HashMap.lookup_insert_eq_some.mp there with ⟨rfl, -⟩ | ⟨-, there⟩
        · exact .inr ⟨thread, query, runs, rfl⟩
        · rw [there]
          exact .inl rfl
      · exact .inr ⟨thread', query', (HashMap.lookup_erase_eq_some.mp runs').2, same⟩
  | released pooled => exact idsApart_released apart pooled queries
  | closed =>
      refine idsApart_of_lists apart queries (fun _ live => live) (fun other used => ?_)
        fun _ _ found => (HashMap.lookup_erase_eq_some.mp found).2
      refine used.imp_left fun there => ?_
      obtain ⟨pool, there⟩ := Option.isSome_iff_exists.mp there
      rw [(HashMap.lookup_retain_eq_some.mp there).1]
      rfl

end

theorem idsApart_empty : IdsApart {} := by
  refine ⟨queriesApart_empty, ?_, ?_, ?_⟩
  · rintro connId ⟨⟩
  · rintro poolId connId ⟨ids, ⟨⟩, -⟩
  · rintro poolId ids ⟨⟩

/-- Whatever the calls and their order: as long as no identifier is given out that is in use
elsewhere, every identifier has one holder. -/
theorem oneHolder_of_run {events : List Event} {system : PoolSystem} {log : List (Option Int)}
    (ran : run step events {} = some (system, log)) (fresh : Along step FreshId events {}) :
    OneHolder system := by
  refine oneHolder_of_idsApart ?_
  exact run_invariant_along (fun _ system => IdsApart system)
    (fun apart fresh stepped => idsApart_of_stepped apart fresh (stepped_of_step stepped)) []
    idsApart_empty fresh ran

/-- A direct connection beside a pooled one that a query has taken out. -/
def directAndPooled : List Event :=
  [.connect true, .poolCreate true, .getBegin 0 1, .getEnd 0 true, .queryBegin 0 1000000]

theorem oneHolder_of_run_sample :
    ∃ system log, run step directAndPooled {} = some (system, log) ∧
      log = [some 1, some 1, none, some 1000000, none] ∧ OneHolder system := by
  obtain ⟨system, log, ran, told⟩ : ∃ system log,
      run step directAndPooled {} = some (system, log) ∧
        log = [some 1, some 1, none, some 1000000, none] := ⟨_, _, rfl, rfl⟩
  have fresh : Along step FreshId directAndPooled {} := by
    refine (along_cons_iff rfl).mpr ⟨?_, (along_cons_iff rfl).mpr ⟨trivial, (along_cons_iff rfl).mpr
      ⟨trivial, (along_cons_iff rfl).mpr ⟨?_, (along_cons_iff rfl).mpr ⟨trivial, trivial⟩⟩⟩⟩⟩
    · rintro connId -
      exact ⟨rfl, by rintro ⟨thread, query, ⟨⟩, -⟩⟩
    · rintro poolId connId ⟨⟩ ⟨⟩
      refine ⟨rfl, by rintro ⟨thread, query, ⟨⟩, -⟩, ?_⟩
      rintro other - ⟨ids, ⟨⟩, -⟩
  exact ⟨system, log, ran, told, oneHolder_of_run ran fresh⟩

/-! ## A million connections -/

/-- Direct connections, each closed before the next is opened. -/
def connects : Nat → Nat → List Event
  | _, 0 => []
  | connId, count + 1 =>
    .connect true :: .disconnect connId true :: connects (connId + 1) count

/-- Without direct connections the next identifier is the counter's. -/
theorem odbcConnect_counter {sessions : Sessions} {connId : Nat}
    (none : sessions.connections = ∅) (next : sessions.nextConnId = connId) (positive : connId ≠ 0) :
    sessions.odbcConnect true = (connId, { sessions with
      connections := AList.insert connId () ∅, nextConnId := (connId + 1) % 2 ^ 32 }) := by
  have allocated : allocateFrom (fun id => (sessions.connections.lookup id).isSome)
      maxIdAllocAttempts sessions.nextConnId = (some connId, (connId + 1) % 2 ^ 32) := by
    rw [show maxIdAllocAttempts = 999 + 1 from rfl, allocateFrom, none, next]
    simp [positive]
  rw [Sessions.odbcConnect, if_neg (by simp), allocated, none]

theorem run_connects {count connId : Nat} {system : PoolSystem}
    (none : system.sessions.connections = ∅) (next : system.sessions.nextConnId = connId)
    (positive : connId ≠ 0) (small : connId + count < 2 ^ 32) :
    ∃ final log, run step (connects connId count) system = some (final, log) ∧
      final.sessions.connections = ∅ ∧ final.sessions.nextConnId = connId + count ∧
      final.sessions.pooledConnections = system.sessions.pooledConnections := by
  induction count generalizing connId system with
  | zero => exact ⟨system, [], rfl, none, next, rfl⟩
  | succ count ih =>
      have opened : step (.connect true) system = some ({ system with sessions := {
          system.sessions with
            connections := AList.insert connId () ∅, nextConnId := connId + 1 } },
          some (connId : Int)) := by
        rw [step, odbcConnect_counter none next positive, Nat.mod_eq_of_lt (by omega)]
      have closing : (AList.insert connId () (∅ : HashMap Nat Unit)).erase connId = ∅ := by
        apply AList.ext
        rw [AList.insert_empty]
        exact List.kerase_cons_eq rfl
      have closed := fun system' : PoolSystem => fun
          (open_ : system'.sessions.connections = AList.insert connId () ∅) =>
        show step (.disconnect connId true) system' = some ({ system' with sessions := {
            system'.sessions.dropStatements connId with connections := ∅ } }, some 0) by
          rw [step, Sessions.odbcDisconnect, open_, AList.lookup_insert, closing]
          rfl
      obtain ⟨final, log, ran, none', next', pooled⟩ := @ih (connId + 1)
        { system with sessions := { system.sessions.dropStatements connId with
          connections := ∅, nextConnId := connId + 1 } } rfl rfl (Nat.succ_ne_zero connId)
        (by omega)
      refine ⟨final, some (connId : Int) :: some 0 :: log, ?_, none', by rw [next']; omega, pooled⟩
      exact run_cons_eq_some.mpr ⟨_, opened, run_cons_eq_some.mpr ⟨_, closed _ rfl, ran⟩⟩

/-- A pooled connection is out while a million direct ones come and go; the next direct one
gets its identifier. -/
theorem direct_meets_pooled :
    ¬ ∀ (events : List Event) (system : PoolSystem) (log : List (Option Int)),
      run step events {} = some (system, log) → OneHolder system := by
  intro claimed
  obtain ⟨system, log, ran, none, next, pooled⟩ : ∃ system log,
      run step [.poolCreate true, .getBegin 0 1, .getEnd 0 true] {} = some (system, log) ∧
        system.sessions.connections = ∅ ∧ system.sessions.nextConnId = 1 ∧
          (system.sessions.pooledConnections.lookup 1000000).isSome :=
    ⟨_, _, rfl, rfl, rfl, rfl⟩
  obtain ⟨final, log', ran', none', next', pooled'⟩ :=
    @run_connects 999999 1 system none next (by decide) (by decide)
  have opened : step (.connect true) final = some ({ final with sessions := {
      final.sessions with
        connections := AList.insert 1000000 () ∅, nextConnId := (1000000 + 1) % 2 ^ 32 } },
      some ((1000000 : Nat) : Int)) := by
    rw [step, odbcConnect_counter none' next' (by decide)]
  have whole := run_append (run_append ran ran') (run_cons_eq_some.mpr
    ⟨_, opened, (rfl : run step [] _ = some (_, []))⟩)
  have live := (claimed _ _ _ whole).direct 1000000 (by rw [AList.lookup_insert]; rfl)
  rw [show final.sessions.pooledConnections = _ from pooled'] at live
  rw [live] at pooled
  cases pooled

end OdbcFast.Verification
