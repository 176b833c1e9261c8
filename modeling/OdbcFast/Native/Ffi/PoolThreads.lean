import OdbcFast.Native.Ffi.Sessions

/-!
# Pools used by several threads

A checkout looks its pool up, waits for a connection without the lock of the global state and
then stores the connection under an identifier. A query on a pooled connection takes the
connection out of its map and puts it back when it has run. The other calls hold the lock
throughout. Each section that holds the lock is one step; calls that are not listed leave
connections and pools alone, and so does a query whose result was kept from an earlier one.

What callers have in hand is part of the system: the identifiers that a pool gave them and
that they have not released, with the pool, as long as it is not closed.
-/

namespace OdbcFast.Native

open Wire

namespace Sessions

/-- What a query finds under an identifier. -/
inductive Target where
  | direct
  | pooled (poolId : Nat)
  deriving DecidableEq, Repr

/-- Direct connections are looked for first. -/
def resolve (connId : Nat) (sessions : Sessions) : Option Target :=
  match sessions.connections.lookup connId with
  | some _ => some .direct
  | none => (sessions.pooledConnections.lookup connId).map .pooled

/-- The second section of `odbc_pool_get_connection`, with whether the pool had a connection.
The pool is not looked for again. -/
def poolInstall (poolId : Nat) (available : Bool) (sessions : Sessions) :
    Option Nat × Sessions :=
  if ¬ available then (none, sessions)
  else
    match sessions.nextPooledId poolId with
    | (none, sessions) => (none, sessions)
    | (some id, sessions) => (some id, { sessions with
        pooledConnections := sessions.pooledConnections.insert id poolId })

/-- Without a pause between its sections the checkout is one call. -/
theorem odbcPoolGetConnection_eq (poolId : Nat) (available : Bool) (sessions : Sessions) :
    sessions.odbcPoolGetConnection poolId available =
      if (sessions.pools.lookup poolId).isNone then (0, sessions)
      else ((sessions.poolInstall poolId available).1.getD 0,
        (sessions.poolInstall poolId available).2) := by
  rw [odbcPoolGetConnection, poolInstall]
  by_cases missing : (sessions.pools.lookup poolId).isNone
  · rw [if_pos (.inl missing), if_pos missing]
  · rw [if_neg missing]
    by_cases refused : ¬ available
    · rw [if_pos (.inr refused), if_pos refused]
      rfl
    · rw [if_neg (not_or.mpr ⟨missing, refused⟩), if_neg refused]
      rcases sessions.nextPooledId poolId with ⟨_ | id, next⟩
      · rfl
      · rfl

/-- `odbc_pool_set_size`, with whether the pool could be built anew. The old pool is gone
before that. -/
def odbcPoolSetSize (poolId newMaxSize : Nat) (built : Bool) (sessions : Sessions) :
    Int × Sessions :=
  if newMaxSize = 0 then (-1, sessions)
  else
    match sessions.pools.lookup poolId with
    | none => (-1, sessions)
    | some _ =>
      if sessions.pooledConnections.anyValue fun pool => pool = poolId then (-1, sessions)
      else
        let sessions := { sessions with pools := sessions.pools.erase poolId }
        if built then (0, { sessions with pools := sessions.pools.insert poolId () })
        else (-1, sessions)

/-- The identifier that `odbc_connect` gives out next. -/
def nextDirectId (sessions : Sessions) : Option Nat :=
  (allocateFrom (fun id => (sessions.connections.lookup id).isSome) maxIdAllocAttempts
    sessions.nextConnId).1

/-- The identifier was released into the list of the pool. -/
def FreeIn (sessions : Sessions) (poolId connId : Nat) : Prop :=
  ∃ ids, sessions.pooledFreeIds.lookup poolId = some ids ∧ connId ∈ ids

end Sessions

/-- A query that has taken its connection out of the map. -/
structure PooledQuery where
  connId : Nat
  poolId : Nat
  deriving DecidableEq, Repr

structure PoolSystem where
  sessions : Sessions := {}
  /-- The pool of each checkout that waits, by its thread. -/
  waiting : HashMap Nat Nat := ∅
  running : HashMap Nat PooledQuery := ∅
  /-- What callers have in hand, with its pool. -/
  held : HashMap Nat Nat := ∅

namespace PoolSystem

inductive Event where
  | connect (opened : Bool)
  | disconnect (connId : Nat) (closed : Bool)
  | poolCreate (built : Bool)
  | getBegin (thread poolId : Nat)
  | getEnd (thread : Nat) (available : Bool)
  | queryBegin (thread connId : Nat)
  | queryEnd (thread : Nat)
  | release (connId : Nat)
  | setSize (poolId newMaxSize : Nat) (built : Bool)
  | close (poolId : Nat)

/-- The thread is not in the middle of a call. -/
def Idle (thread : Nat) (system : PoolSystem) : Prop :=
  system.waiting.lookup thread = none ∧ system.running.lookup thread = none

instance (thread : Nat) (system : PoolSystem) : Decidable (system.Idle thread) :=
  inferInstanceAs (Decidable (_ ∧ _))

/-- A query has taken the connection out of the map. -/
def Runs (system : PoolSystem) (connId : Nat) : Prop :=
  ∃ thread query, system.running.lookup thread = some query ∧ query.connId = connId

/-- What a call returns, if it does and the driver does not decide it. -/
def step : Event → PoolSystem → Option (PoolSystem × Option Int)
  | .connect opened, system =>
    let (id, sessions) := system.sessions.odbcConnect opened
    some ({ system with sessions }, some id)
  | .disconnect connId closed, system =>
    let (success, sessions) := system.sessions.odbcDisconnect connId closed
    some ({ system with sessions }, some (if success then 0 else 1))
  | .poolCreate built, system =>
    let (id, sessions) := system.sessions.odbcPoolCreate built
    some ({ system with sessions }, some id)
  | .getBegin thread poolId, system =>
    if ¬ system.Idle thread then none
    else if (system.sessions.pools.lookup poolId).isNone then some (system, some 0)
    else some ({ system with waiting := system.waiting.insert thread poolId }, none)
  | .getEnd thread available, system => do
    let poolId ← system.waiting.lookup thread
    let (id, sessions) := system.sessions.poolInstall poolId available
    let waiting := system.waiting.erase thread
    let held := id.elim system.held fun id => system.held.insert id poolId
    some ({ system with sessions, waiting, held }, some (id.getD 0))
  | .queryBegin thread connId, system =>
    if ¬ system.Idle thread then none
    else match system.sessions.resolve connId with
      | none => some (system, some (-1))
      | some .direct => some (system, none)
      | some (.pooled poolId) =>
        let pooledConnections := system.sessions.pooledConnections.erase connId
        some ({ system with
          sessions := { system.sessions with pooledConnections }
          running := system.running.insert thread ⟨connId, poolId⟩ }, none)
  | .queryEnd thread, system => do
    let query ← system.running.lookup thread
    let pooledConnections := system.sessions.pooledConnections.insert query.connId query.poolId
    some ({ system with
      sessions := { system.sessions with pooledConnections }
      running := system.running.erase thread }, none)
  | .release connId, system =>
    let (success, sessions) := system.sessions.odbcPoolReleaseConnection connId
    let held := if success then system.held.erase connId else system.held
    some ({ system with sessions, held }, some (if success then 0 else 1))
  | .setSize poolId newMaxSize built, system =>
    let (code, sessions) := system.sessions.odbcPoolSetSize poolId newMaxSize built
    some ({ system with sessions }, some code)
  | .close poolId, system =>
    let (success, sessions) := system.sessions.odbcPoolClose poolId
    let held := if success then system.held.retain fun _ pool => pool ≠ poolId else system.held
    some ({ system with sessions, held }, some (if success then 0 else 1))

/-! ## What a step does -/

/-- Connections, pools, queries and what is in hand are as they were. -/
structure Same (system next : PoolSystem) : Prop where
  connections : next.sessions.connections = system.sessions.connections
  pools : next.sessions.pools = system.sessions.pools
  pooledConnections : next.sessions.pooledConnections = system.sessions.pooledConnections
  pooledFreeIds : next.sessions.pooledFreeIds = system.sessions.pooledFreeIds
  running : next.running = system.running
  held : next.held = system.held

/-- The events that have a case of their own when nothing comes of them. -/
def Plain : Event → Prop
  | .getEnd _ _ | .queryEnd _ | .release _ | .setSize _ _ _ => False
  | _ => True

/-- Where the next identifier of a pool comes from. -/
inductive NextId (sessions : Sessions) (poolId connId : Nat) : HashMap Nat (List Nat) → Prop
  | released {ids : List Nat} (first : sessions.pooledFreeIds.lookup poolId = some (connId :: ids)) :
      NextId sessions poolId connId (sessions.pooledFreeIds.insert poolId ids)
  | fresh (unused : sessions.pooledConnections.lookup connId = none)
      (none : ¬ ∃ other, sessions.FreeIn poolId other) :
      NextId sessions poolId connId sessions.pooledFreeIds

/-- One case for each way through a section. -/
inductive Stepped (system : PoolSystem) : Event → PoolSystem → Option Int → Prop
  | quiet {event : Event} {next : PoolSystem} {code : Option Int} (plain : Plain event)
      (same : Same system next) : Stepped system event next code
  | connected {connId nextConnId : Nat}
      (allocated : system.sessions.nextDirectId = some connId) :
      Stepped system (.connect true)
        { system with sessions := { system.sessions with
            nextConnId, connections := system.sessions.connections.insert connId () } }
        (some connId)
  | disconnected {connId : Nat} {closed : Bool} {code : Option Int}
      {statements : HashMap Nat StatementHandle} :
      Stepped system (.disconnect connId closed)
        { system with sessions := { system.sessions with
            statements, connections := system.sessions.connections.erase connId } } code
  | created {built : Bool} {poolId nextPoolId : Nat} :
      Stepped system (.poolCreate built)
        { system with sessions := { system.sessions with
            nextPoolId, pools := system.sessions.pools.insert poolId () } } (some poolId)
  | gaveNothing {thread poolId : Nat} {available : Bool} {next : PoolSystem}
      (waits : system.waiting.lookup thread = some poolId)
      (nothing : available = true → (system.sessions.nextPooledId poolId).1 = none)
      (same : Same system next) : Stepped system (.getEnd thread available) next (some 0)
  | gave {thread poolId connId nextPooledConnId : Nat} {waiting : HashMap Nat Nat}
      {pooledFreeIds : HashMap Nat (List Nat)}
      (waits : system.waiting.lookup thread = some poolId)
      (found : (system.sessions.nextPooledId poolId).1 = some connId)
      (source : NextId system.sessions poolId connId pooledFreeIds) :
      Stepped system (.getEnd thread true)
        { system with
          sessions := { system.sessions with
            nextPooledConnId, pooledFreeIds
            pooledConnections := system.sessions.pooledConnections.insert connId poolId }
          waiting, held := system.held.insert connId poolId }
        (some connId)
  | took {thread connId poolId : Nat} (idle : system.Idle thread)
      (undirected : system.sessions.connections.lookup connId = none)
      (pooled : system.sessions.pooledConnections.lookup connId = some poolId) :
      Stepped system (.queryBegin thread connId)
        { system with
          sessions := { system.sessions with
            pooledConnections := system.sessions.pooledConnections.erase connId }
          running := system.running.insert thread ⟨connId, poolId⟩ } none
  | returned {thread : Nat} {query : PooledQuery} (runs : system.running.lookup thread = some query) :
      Stepped system (.queryEnd thread)
        { system with
          sessions := { system.sessions with
            pooledConnections :=
              system.sessions.pooledConnections.insert query.connId query.poolId }
          running := system.running.erase thread } none
  | notReleased {connId : Nat} (missing : system.sessions.pooledConnections.lookup connId = none) :
      Stepped system (.release connId) system (some 1)
  | released {connId poolId : Nat} {statements : HashMap Nat StatementHandle}
      (pooled : system.sessions.pooledConnections.lookup connId = some poolId) :
      Stepped system (.release connId)
        { system with
          sessions := { system.sessions with
            statements
            pooledConnections := system.sessions.pooledConnections.erase connId
            pooledFreeIds := system.sessions.pooledFreeIds.insert poolId
              (connId :: (system.sessions.pooledFreeIds.lookup poolId).getD []) }
          held := system.held.erase connId } (some 0)
  | notResized {poolId newMaxSize : Nat} {built : Bool}
      (refused : newMaxSize = 0 ∨ system.sessions.pools.lookup poolId = none ∨
        ∃ connId, system.sessions.pooledConnections.lookup connId = some poolId) :
      Stepped system (.setSize poolId newMaxSize built) system (some (-1))
  | lost {poolId newMaxSize : Nat}
      (unused : ∀ connId, system.sessions.pooledConnections.lookup connId ≠ some poolId) :
      Stepped system (.setSize poolId newMaxSize false)
        { system with sessions := { system.sessions with
            pools := system.sessions.pools.erase poolId } } (some (-1))
  | resized {poolId newMaxSize : Nat} (positive : newMaxSize ≠ 0)
      (there : (system.sessions.pools.lookup poolId).isSome)
      (unused : ∀ connId, system.sessions.pooledConnections.lookup connId ≠ some poolId) :
      Stepped system (.setSize poolId newMaxSize true)
        { system with sessions := { system.sessions with
            pools := (system.sessions.pools.erase poolId).insert poolId () } } (some 0)
  | closed {poolId : Nat} {statements : HashMap Nat StatementHandle} :
      Stepped system (.close poolId)
        { system with
          sessions := { system.sessions with
            statements
            pooledConnections :=
              system.sessions.pooledConnections.retain fun _ pool => pool ≠ poolId
            pooledFreeIds := system.sessions.pooledFreeIds.erase poolId
            pools := system.sessions.pools.erase poolId }
          held := system.held.retain fun _ pool => pool ≠ poolId } (some 0)

section

variable {system next : PoolSystem}

theorem resolve_eq_pooled {sessions : Sessions} {connId poolId : Nat} :
    sessions.resolve connId = some (.pooled poolId) ↔
      sessions.connections.lookup connId = none ∧
        sessions.pooledConnections.lookup connId = some poolId := by
  rw [Sessions.resolve]
  rcases sessions.connections.lookup connId with _ | _
  · simp
  · simp

theorem same_refl (system : PoolSystem) : Same system system := ⟨rfl, rfl, rfl, rfl, rfl, rfl⟩

/-- The next identifier of a pool was released into its list, or comes from the counter. -/
theorem nextPooledId_cases (sessions : Sessions) (poolId : Nat) :
    ((sessions.nextPooledId poolId).1 = none ∧ ∃ nextPooledConnId,
      (sessions.nextPooledId poolId).2 = { sessions with nextPooledConnId }) ∨
    ∃ connId pooledFreeIds nextPooledConnId,
      sessions.nextPooledId poolId =
        (some connId, { sessions with pooledFreeIds, nextPooledConnId }) ∧
      NextId sessions poolId connId pooledFreeIds := by
  rw [Sessions.nextPooledId]
  split
  · next connId ids released =>
      exact .inr ⟨connId, _, _, rfl, .released released⟩
  · next unreleased =>
      have none : ¬ ∃ other, sessions.FreeIn poolId other := by
        rintro ⟨other, ids, found, member⟩
        cases ids with
        | nil => cases member
        | cons connId ids => exact unreleased connId ids found
      rcases allocated : allocateFrom
        (fun id => (sessions.pooledConnections.lookup id).isSome) maxIdAllocAttempts
        sessions.nextPooledConnId with ⟨_ | connId, nextPooledConnId⟩
      · exact .inl ⟨rfl, _, rfl⟩
      · have unused := (allocateFrom_spec (by rw [allocated])).2
        rw [Option.isSome_eq_false_iff, Option.isNone_iff_eq_none] at unused
        exact .inr ⟨connId, _, _, rfl, .fresh unused none⟩

theorem stepped_getEnd {thread : Nat} {available : Bool} {code : Option Int}
    (stepped : step (.getEnd thread available) system = some (next, code)) :
    Stepped system (.getEnd thread available) next code := by
  rw [step] at stepped
  rcases waits : system.waiting.lookup thread with _ | poolId
  · rw [waits] at stepped
    cases stepped
  · rw [waits] at stepped
    cases available with
    | false =>
        cases stepped
        exact .gaveNothing waits (by rintro ⟨⟩) ⟨rfl, rfl, rfl, rfl, rfl, rfl⟩
    | true =>
        rcases nextPooledId_cases system.sessions poolId with
          ⟨nothing, nextPooledConnId, same⟩ | ⟨connId, pooledFreeIds, nextPooledConnId, found, source⟩
        · have refused : system.sessions.poolInstall poolId true =
              (none, { system.sessions with nextPooledConnId }) := by
            rw [Sessions.poolInstall]
            generalize system.sessions.nextPooledId poolId = allocated at nothing same ⊢
            obtain ⟨_ | _, _⟩ := allocated
            · rw [← same]
              rfl
            · cases nothing
          simp only [Option.bind_eq_bind, Option.bind_some, refused] at stepped
          cases stepped
          exact .gaveNothing waits (fun _ => nothing) ⟨rfl, rfl, rfl, rfl, rfl, rfl⟩
        · have installed : system.sessions.poolInstall poolId true =
              (some connId, { system.sessions with
                pooledFreeIds, nextPooledConnId
                pooledConnections := system.sessions.pooledConnections.insert connId poolId }) := by
            rw [Sessions.poolInstall, found]
            rfl
          simp only [Option.bind_eq_bind, Option.bind_some, installed] at stepped
          cases stepped
          exact .gave waits (by rw [found]) source

theorem stepped_setSize {poolId newMaxSize : Nat} {built : Bool} {code : Option Int}
    (stepped : step (.setSize poolId newMaxSize built) system = some (next, code)) :
    Stepped system (.setSize poolId newMaxSize built) next code := by
  rw [step, Sessions.odbcPoolSetSize] at stepped
  by_cases zero : newMaxSize = 0
  · rw [if_pos zero] at stepped
    cases stepped
    exact .notResized (.inl zero)
  rw [if_neg zero] at stepped
  rcases found : system.sessions.pools.lookup poolId with _ | _
  · rw [found] at stepped
    cases stepped
    exact .notResized (.inr (.inl found))
  rw [found] at stepped
  dsimp only at stepped
  by_cases taken : system.sessions.pooledConnections.anyValue fun pool => pool = poolId
  · rw [if_pos taken] at stepped
    cases stepped
    obtain ⟨connId, pool, pooled, same⟩ := HashMap.anyValue_iff.mp taken
    exact .notResized (.inr (.inr ⟨connId, of_decide_eq_true same ▸ pooled⟩))
  rw [if_neg taken] at stepped
  rw [HashMap.anyValue_iff] at taken
  have unused : ∀ connId, system.sessions.pooledConnections.lookup connId ≠ some poolId :=
    fun connId pooled => taken ⟨connId, poolId, pooled, decide_eq_true rfl⟩
  cases built with
  | true =>
      cases stepped
      exact .resized zero (by rw [found]; rfl) unused
  | false =>
      cases stepped
      exact .lost unused

theorem stepped_of_step {event : Event} {code : Option Int}
    (stepped : step event system = some (next, code)) : Stepped system event next code := by
  cases event with
  | getEnd thread available => exact stepped_getEnd stepped
  | setSize poolId newMaxSize built => exact stepped_setSize stepped
  | connect opened =>
      rw [step, Sessions.odbcConnect] at stepped
      cases opened with
      | false =>
          cases stepped
          exact .quiet trivial (same_refl system)
      | true =>
          rcases allocated : allocateFrom
            (fun id => (system.sessions.connections.lookup id).isSome) maxIdAllocAttempts
            system.sessions.nextConnId with ⟨_ | connId, nextConnId⟩
          · rw [if_neg (by simp), allocated] at stepped
            cases stepped
            exact .quiet trivial ⟨rfl, rfl, rfl, rfl, rfl, rfl⟩
          · rw [if_neg (by simp), allocated] at stepped
            cases stepped
            exact .connected (by rw [Sessions.nextDirectId, allocated])
  | disconnect connId closed =>
      rw [step, Sessions.odbcDisconnect] at stepped
      rcases found : system.sessions.connections.lookup connId with _ | _
      · rw [found] at stepped
        cases stepped
        exact .quiet trivial (same_refl system)
      · rw [found] at stepped
        cases stepped
        exact .disconnected
  | poolCreate built =>
      rw [step, Sessions.odbcPoolCreate] at stepped
      cases built with
      | false =>
          cases stepped
          exact .quiet trivial (same_refl system)
      | true =>
          rcases allocated : allocateFrom
            (fun id => (system.sessions.pools.lookup id).isSome) maxIdAllocAttempts
            system.sessions.nextPoolId with ⟨_ | poolId, nextPoolId⟩
          · rw [if_neg (by simp), allocated] at stepped
            cases stepped
            exact .quiet trivial ⟨rfl, rfl, rfl, rfl, rfl, rfl⟩
          · rw [if_neg (by simp), allocated] at stepped
            cases stepped
            exact .created
  | getBegin thread poolId =>
      rw [step] at stepped
      split_ifs at stepped
      · cases stepped
        exact .quiet trivial (same_refl system)
      · cases stepped
        exact .quiet trivial ⟨rfl, rfl, rfl, rfl, rfl, rfl⟩
  | queryBegin thread connId =>
      rw [step] at stepped
      split_ifs at stepped with idle
      rcases found : system.sessions.resolve connId with _ | _ | poolId
      · rw [found] at stepped
        cases stepped
        exact .quiet trivial (same_refl system)
      · rw [found] at stepped
        cases stepped
        exact .quiet trivial (same_refl system)
      · rw [found] at stepped
        cases stepped
        obtain ⟨undirected, pooled⟩ := resolve_eq_pooled.mp found
        exact .took idle undirected pooled
  | queryEnd thread =>
      rw [step] at stepped
      rcases runs : system.running.lookup thread with _ | query
      · rw [runs] at stepped
        cases stepped
      · rw [runs] at stepped
        cases stepped
        exact .returned runs
  | release connId =>
      rw [step, Sessions.odbcPoolReleaseConnection] at stepped
      rcases pooled : system.sessions.pooledConnections.lookup connId with _ | poolId
      · rw [pooled] at stepped
        cases stepped
        exact .notReleased pooled
      · rw [pooled] at stepped
        cases stepped
        exact .released pooled
  | close poolId =>
      rw [step, Sessions.odbcPoolClose] at stepped
      rcases found : system.sessions.pools.lookup poolId with _ | _
      · rw [found] at stepped
        cases stepped
        exact .quiet trivial (same_refl system)
      · rw [found] at stepped
        cases stepped
        exact .closed

/-- A query that begins. -/
theorem runs_insert {thread : Nat} {query : PooledQuery}
    (running : next.running = system.running.insert thread query)
    (idle : system.running.lookup thread = none) (connId : Nat) :
    next.Runs connId ↔ connId = query.connId ∨ system.Runs connId := by
  rw [Runs, running]
  constructor
  · rintro ⟨thread', query', runs, rfl⟩
    rcases HashMap.lookup_insert_eq_some.mp runs with ⟨-, rfl⟩ | ⟨-, runs⟩
    · exact .inl rfl
    · exact .inr ⟨thread', query', runs, rfl⟩
  · rintro (rfl | ⟨thread', query', runs, rfl⟩)
    · exact ⟨thread, query, AList.lookup_insert _, rfl⟩
    · refine ⟨thread', query', HashMap.lookup_insert_eq_some.mpr (.inr ⟨?_, runs⟩), rfl⟩
      rintro rfl
      cases idle.symm.trans runs

/-- A query that ends, and was the only one on its connection. -/
theorem runs_erase {thread : Nat} {query : PooledQuery}
    (running : next.running = system.running.erase thread)
    (runs : system.running.lookup thread = some query)
    (once : ∀ thread' query', system.running.lookup thread' = some query' →
      query.connId = query'.connId → thread = thread') (connId : Nat) :
    next.Runs connId ↔ connId ≠ query.connId ∧ system.Runs connId := by
  rw [Runs, running]
  constructor
  · rintro ⟨thread', query', runs', rfl⟩
    obtain ⟨other, runs'⟩ := HashMap.lookup_erase_eq_some.mp runs'
    refine ⟨fun same => other (once thread' query' runs' same.symm).symm, ?_⟩
    exact ⟨thread', query', runs', rfl⟩
  · rintro ⟨different, thread', query', runs', rfl⟩
    refine ⟨thread', query', HashMap.lookup_erase_eq_some.mpr ⟨?_, runs'⟩, rfl⟩
    rintro rfl
    cases runs.symm.trans runs'
    exact different rfl

/-! ## Connections that queries have taken out -/

/-- A connection that a query has taken out is not in the map, and no other query has it. What
is in hand is in the map or taken out by a query. -/
structure QueriesApart (system : PoolSystem) : Prop where
  taken : ∀ connId, system.Runs connId → system.sessions.pooledConnections.lookup connId = none
  once : ∀ thread thread' query query', system.running.lookup thread = some query →
    system.running.lookup thread' = some query' → query.connId = query'.connId → thread = thread'
  held : ∀ connId poolId, system.held.lookup connId = some poolId →
    system.sessions.pooledConnections.lookup connId = some poolId ∨
      ∃ thread, system.running.lookup thread = some ⟨connId, poolId⟩

/-- The identifier that is given out next is not one that a query has taken out. -/
def NotRunning : Event → PoolSystem → Prop
  | .getEnd thread true, system => ∀ poolId connId, system.waiting.lookup thread = some poolId →
      (system.sessions.nextPooledId poolId).1 = some connId → ¬ system.Runs connId
  | _, _ => True

variable {connId poolId thread : Nat} {query : PooledQuery}

theorem queriesApart_empty : QueriesApart {} := by
  refine ⟨?_, ?_, ?_⟩
  · rintro connId ⟨thread, query, ⟨⟩, -⟩
  · rintro thread thread' query query' ⟨⟩
  · rintro connId poolId ⟨⟩

theorem queriesApart_of_same (apart : QueriesApart system)
    (pooledConnections : next.sessions.pooledConnections = system.sessions.pooledConnections)
    (running : next.running = system.running) (held : next.held = system.held) :
    QueriesApart next := by
  have runs : ∀ connId, next.Runs connId ↔ system.Runs connId := by
    intro connId
    rw [Runs, running, Runs]
  refine ⟨?_, ?_, ?_⟩
  · simpa only [pooledConnections, runs] using apart.taken
  · simpa only [running] using apart.once
  · simpa only [pooledConnections, running, held] using apart.held

theorem queriesApart_took (apart : QueriesApart system) (idle : system.Idle thread)
    (pooled : system.sessions.pooledConnections.lookup connId = some poolId)
    (pooledConnections : next.sessions.pooledConnections =
      system.sessions.pooledConnections.erase connId)
    (running : next.running = system.running.insert thread ⟨connId, poolId⟩)
    (held : next.held = system.held) : QueriesApart next := by
  have untaken : ¬ system.Runs connId := fun runs => by
    cases (apart.taken connId runs).symm.trans pooled
  refine ⟨fun other runs => ?_, ?_, fun other pool inHand => ?_⟩
  · rw [pooledConnections, HashMap.lookup_erase_eq_none]
    exact ((runs_insert running idle.2 other).mp runs).imp_right (apart.taken other)
  · intro first second query query' found found' own
    rw [running] at found found'
    rcases HashMap.lookup_insert_eq_some.mp found with ⟨rfl, rfl⟩ | ⟨-, before⟩
    · rcases HashMap.lookup_insert_eq_some.mp found' with ⟨rfl, rfl⟩ | ⟨-, before'⟩
      · rfl
      · exact absurd ⟨second, query', before', own.symm⟩ untaken
    · rcases HashMap.lookup_insert_eq_some.mp found' with ⟨rfl, rfl⟩ | ⟨-, before'⟩
      · exact absurd ⟨first, query, before, own⟩ untaken
      · exact apart.once first second query query' before before' own
  · rw [held] at inHand
    rw [running, pooledConnections]
    rcases apart.held other pool inHand with there | ⟨thread', query⟩
    · by_cases own : other = connId
      · subst own
        cases there.symm.trans pooled
        exact .inr ⟨thread, AList.lookup_insert _⟩
      · exact .inl (HashMap.lookup_erase_eq_some.mpr ⟨own, there⟩)
    · refine .inr ⟨thread', HashMap.lookup_insert_eq_some.mpr (.inr ⟨?_, query⟩)⟩
      rintro rfl
      cases idle.2.symm.trans query

theorem queriesApart_returned (apart : QueriesApart system)
    (runs : system.running.lookup thread = some query)
    (pooledConnections : next.sessions.pooledConnections =
      system.sessions.pooledConnections.insert query.connId query.poolId)
    (running : next.running = system.running.erase thread) (held : next.held = system.held) :
    QueriesApart next := by
  have others := runs_erase running runs fun thread' query' =>
    apart.once thread thread' query query' runs
  have taken : system.Runs query.connId := ⟨thread, query, runs, rfl⟩
  refine ⟨fun other still => ?_, ?_, fun other pool inHand => ?_⟩
  · obtain ⟨different, before⟩ := (others other).mp still
    rw [pooledConnections, AList.lookup_insert_eq_none]
    exact ⟨different, apart.taken other before⟩
  · intro first second query query' found found' own
    rw [running] at found found'
    exact apart.once first second query query' (HashMap.lookup_erase_eq_some.mp found).2
      (HashMap.lookup_erase_eq_some.mp found').2 own
  · rw [held] at inHand
    rw [running, pooledConnections]
    by_cases own : other = query.connId
    · subst own
      rcases apart.held _ pool inHand with there | ⟨thread', runs'⟩
      · cases (apart.taken _ taken).symm.trans there
      · obtain rfl := apart.once thread thread' query _ runs runs' rfl
        have own : query = ⟨query.connId, pool⟩ := Option.some.inj (runs.symm.trans runs')
        left
        rw [← show query.poolId = pool from congrArg PooledQuery.poolId own]
        exact AList.lookup_insert _
    · rcases apart.held other pool inHand with there | ⟨thread', runs'⟩
      · exact .inl (HashMap.lookup_insert_eq_some.mpr (.inr ⟨own, there⟩))
      · refine .inr ⟨thread', HashMap.lookup_erase_eq_some.mpr ⟨?_, runs'⟩⟩
        rintro rfl
        cases runs.symm.trans runs'
        exact own rfl

/-- Connections leave the map with what is in hand. -/
theorem queriesApart_left {gone : Nat → Nat → Prop} (apart : QueriesApart system)
    (pooledConnections : ∀ other pool, next.sessions.pooledConnections.lookup other = some pool ↔
      system.sessions.pooledConnections.lookup other = some pool ∧ ¬ gone other pool)
    (running : next.running = system.running)
    (held : ∀ other pool, next.held.lookup other = some pool →
      system.held.lookup other = some pool ∧ ¬ gone other pool) : QueriesApart next := by
  refine ⟨fun other runs => ?_, ?_, fun other pool inHand => ?_⟩
  · rw [Option.eq_none_iff_forall_ne_some]
    intro pool there
    rw [Runs, running] at runs
    cases (apart.taken other runs).symm.trans ((pooledConnections other pool).mp there).1
  · simpa only [running] using apart.once
  · obtain ⟨inHand, stays⟩ := held other pool inHand
    rw [running]
    exact (apart.held other pool inHand).imp_left fun there =>
      (pooledConnections other pool).mpr ⟨there, stays⟩

theorem queriesApart_of_stepped {event : Event} {code : Option Int} (apart : QueriesApart system)
    (unrun : NotRunning event system) (stepped : Stepped system event next code) :
    QueriesApart next := by
  cases stepped with
  | quiet _ same => exact queriesApart_of_same apart same.pooledConnections same.running same.held
  | gaveNothing _ _ same =>
      exact queriesApart_of_same apart same.pooledConnections same.running same.held
  | connected _ => exact queriesApart_of_same apart rfl rfl rfl
  | disconnected => exact queriesApart_of_same apart rfl rfl rfl
  | created => exact queriesApart_of_same apart rfl rfl rfl
  | lost _ => exact queriesApart_of_same apart rfl rfl rfl
  | resized _ _ _ => exact queriesApart_of_same apart rfl rfl rfl
  | notReleased _ => exact apart
  | notResized _ => exact apart
  | @gave thread poolId connId _ _ _ waits found _ =>
      have untaken := unrun poolId connId waits found
      refine ⟨fun other runs => ?_, apart.once, fun other pool inHand => ?_⟩
      · refine AList.lookup_insert_eq_none.mpr ⟨?_, apart.taken other runs⟩
        rintro rfl
        exact untaken runs
      · rcases HashMap.lookup_insert_eq_some.mp inHand with ⟨rfl, rfl⟩ | ⟨different, inHand⟩
        · exact .inl (AList.lookup_insert _)
        · refine (apart.held other pool inHand).imp_left fun pooled => ?_
          exact HashMap.lookup_insert_eq_some.mpr (.inr ⟨different, pooled⟩)
  | took idle _ pooled => exact queriesApart_took apart idle pooled rfl rfl rfl
  | returned runs => exact queriesApart_returned apart runs rfl rfl rfl
  | @released connId poolId _ pooled =>
      refine @queriesApart_left _ _ (fun other _ => other = connId) apart (fun other pool => ?_) rfl
        fun other pool inHand => (HashMap.lookup_erase_eq_some.mp inHand).symm
      exact HashMap.lookup_erase_eq_some.trans and_comm
  | @closed poolId _ =>
      refine @queriesApart_left _ _ (fun _ pool => pool = poolId) apart (fun other pool => ?_) rfl
        fun other pool inHand => ?_
      · rw [HashMap.lookup_retain_eq_some, decide_eq_true_iff]
      · rw [HashMap.lookup_retain_eq_some, decide_eq_true_iff] at inHand
        exact inHand

end

end PoolSystem

end OdbcFast.Native
