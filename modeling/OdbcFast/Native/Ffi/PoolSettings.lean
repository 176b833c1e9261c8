import OdbcFast.Native.Ffi.PoolThreads
import OdbcFast.Native.PoolOptions

/-!
# The settings of a pool

A pool is built from a connection string, its size and some times. What the string and the times
leave open is taken from the environment and from defaults. The pool keeps the string without its
options, and gets another size by being built anew from that.
-/

namespace OdbcFast.Native

open Wire

/-- `PoolOptions`, in milliseconds. -/
structure PoolOptions where
  idleTimeout : Option Nat := none
  maxLifetime : Option Nat := none
  connectionTimeout : Option Nat := none
  deriving DecidableEq, Repr

/-- The variables of the environment that say how connections are tested. -/
structure PoolEnvironment where
  testOnCheckout : Option (List Char) := none
  healthCheckQuery : Option (List Char) := none
  deriving DecidableEq, Repr

def readCheckoutValidationFromEnv (env : PoolEnvironment) : Option Bool :=
  env.testOnCheckout.bind parseBoolFlag

def resolveCheckoutValidation (connOverride envOverride : Option Bool) : Bool :=
  (connOverride.or envOverride).getD true

def readHealthCheckQueryFromEnv (env : PoolEnvironment) : Option (List Char) :=
  env.healthCheckQuery.filter fun query => trim query ≠ []

def resolveHealthCheckQuery (connOverride envOverride : Option (List Char)) : List Char :=
  (((connOverride.or envOverride).map trim).filter fun query => query ≠ []).getD
    "SELECT 1".toList

structure PoolConfig where
  sanitizedConnectionString : List Char
  testOnCheckOut : Bool
  healthCheckQuery : List Char
  deriving DecidableEq, Repr

def PoolConfig.fromConnectionString (env : PoolEnvironment) (connectionString : List Char) :
    PoolConfig :=
  let (sanitizedConnectionString, connOverride, healthCheckQuery) :=
    parsePoolOptionsFromConnectionString connectionString
  { sanitizedConnectionString
    testOnCheckOut := resolveCheckoutValidation connOverride (readCheckoutValidationFromEnv env)
    healthCheckQuery :=
      resolveHealthCheckQuery healthCheckQuery (readHealthCheckQueryFromEnv env) }

/-- A pool with what its manager and its builder were told. The string that it keeps has been
through the parser of the options. -/
structure ConfiguredPool extends ConnectionPool where
  maxSize : Nat
  testOnCheckOut : Bool
  healthCheckQuery : List Char
  connectionTimeout : Nat
  idleTimeout : Nat
  maxLifetime : Nat
  sanitized : ∃ text, connectionString = (parsePoolOptionsFromConnectionString text).1

namespace ConfiguredPool

/-- `new_with_options`, up to the build. A time that is not given is the builder's default: 30
seconds to wait, 10 minutes to be idle, 30 minutes to live. -/
def newWithOptions (env : PoolEnvironment) (connectionString : List Char) (maxSize : Nat)
    (options : PoolOptions) : ConfiguredPool :=
  let config := PoolConfig.fromConnectionString env connectionString
  { connectionString := config.sanitizedConnectionString
    maxSize
    testOnCheckOut := config.testOnCheckOut
    healthCheckQuery := config.healthCheckQuery
    connectionTimeout := options.connectionTimeout.getD 30000
    idleTimeout := options.idleTimeout.getD 600000
    maxLifetime := options.maxLifetime.getD 1800000
    sanitized := ⟨connectionString, rfl⟩ }

def new (env : PoolEnvironment) (connectionString : List Char) (maxSize : Nat) :
    ConfiguredPool :=
  newWithOptions env connectionString maxSize {}

end ConfiguredPool

/-- The tables that a change of size reads and writes, and the last error. -/
structure PoolTables where
  pools : HashMap Nat ConfiguredPool := ∅
  pooledConnections : HashMap Nat Nat := ∅
  lastError : Option String := none

namespace PoolTables

/-- `odbc_pool_set_size`. The lock of the state may be poisoned, and the pool may not be built. -/
def odbcPoolSetSize (env : PoolEnvironment) (locked : Bool) (built : Except OdbcError Unit)
    (poolId newMaxSize : Nat) (tables : PoolTables) : Int × PoolTables :=
  if newMaxSize = 0 then (-1, tables)
  else if ¬ locked then (-1, tables)
  else
    match tables.pools.lookup poolId with
    | none => (-1, { tables with lastError := s!"Invalid pool ID: {poolId}" })
    | some pool =>
      if tables.pooledConnections.anyValue fun pool => pool = poolId then
        (-1, { tables with
          lastError := "Cannot resize pool while connections are checked out" })
      else
        let connStr := pool.connectionString
        let tables := { tables with pools := tables.pools.erase poolId }
        match built with
        | .ok () =>
          (0, { tables with
            pools := tables.pools.insert poolId (.new env connStr newMaxSize) })
        | .error error =>
          let text := error.display
          (-1, { tables with lastError := s!"odbc_pool_set_size failed: {text}" })

/-- The same pools and the same connections of them. -/
structure Shows (tables : PoolTables) (sessions : Sessions) : Prop where
  pools : ∀ id, (tables.pools.lookup id).isSome = (sessions.pools.lookup id).isSome
  pooledConnections : tables.pooledConnections = sessions.pooledConnections

theorem Shows.erase {tables : PoolTables} {sessions : Sessions} (shows : tables.Shows sessions)
    (poolId id : Nat) : ((tables.pools.erase poolId).lookup id).isSome =
      ((sessions.pools.erase poolId).lookup id).isSome := by
  by_cases same : id = poolId
  · rw [same, AList.lookup_erase, AList.lookup_erase]
    rfl
  · rw [AList.lookup_erase_ne same, AList.lookup_erase_ne same]
    exact shows.pools id

/-- Without the settings this is the change of size of the sessions. -/
theorem shows_odbcPoolSetSize {tables : PoolTables} {sessions : Sessions}
    (shows : tables.Shows sessions) (env : PoolEnvironment) (built : Except OdbcError Unit)
    (poolId newMaxSize : Nat) :
    (tables.odbcPoolSetSize env true built poolId newMaxSize).1 =
      (sessions.odbcPoolSetSize poolId newMaxSize built.isOk).1 ∧
    (tables.odbcPoolSetSize env true built poolId newMaxSize).2.Shows
      (sessions.odbcPoolSetSize poolId newMaxSize built.isOk).2 := by
  have there := shows.pools poolId
  have erased := shows.erase poolId
  rw [odbcPoolSetSize, Sessions.odbcPoolSetSize]
  by_cases zero : newMaxSize = 0
  · rw [if_pos zero, if_pos zero]
    exact ⟨rfl, shows⟩
  rw [if_neg zero, if_neg zero, if_neg (not_not_intro rfl)]
  cases found : tables.pools.lookup poolId with
  | none =>
      rw [found, eq_comm, Option.isSome_none, Option.isSome_eq_false_iff,
        Option.isNone_iff_eq_none] at there
      rw [there]
      exact ⟨rfl, shows.pools, shows.pooledConnections⟩
  | some pool =>
      rw [found, eq_comm, Option.isSome_some, Option.isSome_iff_exists] at there
      obtain ⟨entry, held⟩ := there
      rw [held]
      dsimp only
      have same := congrArg (HashMap.anyValue fun pool => pool = poolId) shows.pooledConnections
      by_cases busy : (tables.pooledConnections.anyValue fun pool => pool = poolId) = true
      · rw [if_pos busy, if_pos (same ▸ busy)]
        exact ⟨rfl, shows.pools, shows.pooledConnections⟩
      rw [if_neg busy, if_neg (same ▸ busy)]
      cases built with
      | error error => exact ⟨rfl, erased, shows.pooledConnections⟩
      | ok =>
          refine ⟨rfl, fun id => ?_, shows.pooledConnections⟩
          by_cases same : id = poolId
          · rw [same]
            exact (congrArg Option.isSome (AList.lookup_insert _)).trans
              (congrArg Option.isSome (AList.lookup_insert _)).symm
          · exact (congrArg Option.isSome (AList.lookup_insert_ne same)).trans
              ((erased id).trans (congrArg Option.isSome (AList.lookup_insert_ne same)).symm)

end PoolTables

end OdbcFast.Native
