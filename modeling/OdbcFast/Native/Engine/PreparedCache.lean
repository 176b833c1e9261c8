import OdbcFast.Wire.Recency

/-!
# The cache of prepared statements

The engine counts which texts it has seen: a lookup is a hit when the text is in the cache, and
puts it there otherwise.
-/

namespace OdbcFast.Native

open Wire

structure PreparedStatementMetrics where
  cacheSize : Nat
  cacheMaxSize : Nat
  cacheHits : UInt64
  cacheMisses : UInt64
  totalPrepares : UInt64
  totalExecutions : UInt64
  memoryUsageBytes : Nat
  deriving DecidableEq, Repr

structure PreparedStatementCache (lru : LruCache String) where
  cache : lru.State
  maxSize : Nat
  cacheHits : UInt64 := 0
  cacheMisses : UInt64 := 0
  totalPrepares : UInt64 := 0
  totalExecutions : UInt64 := 0

namespace PreparedStatementCache

variable {lru : LruCache String}

/-- A cache for no text holds a hundred. -/
def capacityFor (maxSize : Nat) : Nat := if maxSize = 0 then 100 else maxSize

def new (lru : LruCache String) (maxSize : Nat) : PreparedStatementCache lru where
  cache := lru.new (capacityFor maxSize)
  maxSize

/-- `get_or_insert`: whether the text was there. -/
def getOrInsert (sql : String) (cache : PreparedStatementCache lru) :
    Bool × PreparedStatementCache lru :=
  if lru.contains sql cache.cache then
    (true, { cache with cacheHits := cache.cacheHits + 1 })
  else
    (false, { cache with
      cacheMisses := cache.cacheMisses + 1
      totalPrepares := cache.totalPrepares + 1
      cache := lru.put sql cache.cache })

def recordExecution (cache : PreparedStatementCache lru) : PreparedStatementCache lru :=
  { cache with totalExecutions := cache.totalExecutions + 1 }

def clear (cache : PreparedStatementCache lru) : PreparedStatementCache lru :=
  { cache with cache := lru.clear cache.cache }

def len (cache : PreparedStatementCache lru) : Nat := lru.len cache.cache

def getMetrics (cache : PreparedStatementCache lru) : PreparedStatementMetrics where
  cacheSize := cache.len
  cacheMaxSize := cache.maxSize
  cacheHits := cache.cacheHits
  cacheMisses := cache.cacheMisses
  totalPrepares := cache.totalPrepares
  totalExecutions := cache.totalExecutions
  memoryUsageBytes := cache.len * 64

end PreparedStatementCache

end OdbcFast.Native
