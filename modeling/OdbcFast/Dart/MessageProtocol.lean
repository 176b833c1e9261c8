import OdbcFast.Wire.Bytes

/-!
# Messages between the isolates

A request is known by its number and its type. What else a request carries is read by the
handler of its type alone, and no answer to a failure depends on it. Each answer carries
the number of the request it is for, whatever its class.
-/

namespace OdbcFast.Dart

open Wire

inductive RequestType where
  | initializeEnvironment
  | setLogLevel
  | validateConnectionString
  | getDriverCapabilities
  | getConnectionDbmsInfo
  | connect
  | disconnect
  | executeQueryParams
  | executeQueryMulti
  | executeQueryMultiParams
  | beginTransaction
  | commitTransaction
  | rollbackTransaction
  | savepointCreate
  | savepointRollback
  | savepointRelease
  | prepare
  | executePrepared
  | cancelStatement
  | closeStatement
  | streamStart
  | streamStartBatched
  | streamStartAsync
  | streamMultiStartBatched
  | streamMultiStartAsync
  | streamPollAsync
  | streamFetch
  | streamCancel
  | streamClose
  | clearAllStatements
  | poolCreate
  | poolGetConnection
  | poolReleaseConnection
  | poolHealthCheck
  | poolGetState
  | poolGetStateJson
  | poolSetSize
  | poolClose
  | bulkInsertArray
  | bulkInsertParallel
  | getVersion
  | getMetrics
  | getCacheMetrics
  | clearCache
  | metadataCacheEnable
  | metadataCacheStats
  | metadataCacheClear
  | catalogTables
  | catalogColumns
  | catalogTypeInfo
  | catalogPrimaryKeys
  | catalogForeignKeys
  | catalogIndexes
  | getError
  | getStructuredError
  | detectDriver
  | auditEnable
  | auditGetEvents
  | auditGetStatus
  | auditClear
  | executeAsyncStart
  | asyncPoll
  | asyncGetResult
  | asyncCancel
  | asyncFree
  deriving DecidableEq, Repr

structure WorkerRequest where
  requestId : Nat
  type : RequestType
  deriving DecidableEq, Repr

structure MetricsData where
  queryCount : Int := 0
  errorCount : Int := 0
  uptimeSecs : Int := 0
  totalLatencyMillis : Int := 0
  avgLatencyMillis : Int := 0
  deriving DecidableEq, Repr

/-- The average is a double, known by its bits. -/
structure CacheMetricsData where
  cacheSize : Int := 0
  cacheMaxSize : Int := 0
  cacheHits : Int := 0
  cacheMisses : Int := 0
  totalPrepares : Int := 0
  totalExecutions : Int := 0
  memoryUsageBytes : Int := 0
  avgExecutionsPerStmt : BitVec 64 := 0
  deriving DecidableEq, Repr

/-- The subclasses of `WorkerResponse`, each with its own fields. -/
inductive ResponseBody where
  | initialized (success : Bool)
  | connect (connectionId : Int) (error : Option String)
  | bool (value : Bool)
  | query (data : Option Bytes) (error : Option String)
  | int (value : Int)
  | poolState (size idle : Option Int) (error : Option String)
  | metrics (metrics : MetricsData) (error : Option String)
  | cacheMetrics (metrics : CacheMetricsData) (error : Option String)
  | clearCache (error : Option String)
  | version (api abi : String)
  | getError (message : String)
  | structuredError (message : String) (sqlStateString : Option String) (nativeCode : Option Int)
      (error : Option String)
  | detectDriver (driverName : Option String)
  | auditPayload (payload error : Option String)
  | validateConnectionString (isValid : Bool) (errorMessage : Option String)
  | streamFetch (success : Bool) (data : Option Bytes) (hasMore : Bool) (error : Option String)
  deriving DecidableEq, Repr

/-- The class of an answer. -/
inductive ResponseType where
  | initialized
  | connect
  | bool
  | query
  | int
  | poolState
  | metrics
  | cacheMetrics
  | clearCache
  | version
  | getError
  | structuredError
  | detectDriver
  | auditPayload
  | validateConnectionString
  | streamFetch
  deriving DecidableEq, Repr

def ResponseBody.type : ResponseBody → ResponseType
  | .initialized _ => .initialized
  | .connect _ _ => .connect
  | .bool _ => .bool
  | .query _ _ => .query
  | .int _ => .int
  | .poolState _ _ _ => .poolState
  | .metrics _ _ => .metrics
  | .cacheMetrics _ _ => .cacheMetrics
  | .clearCache _ => .clearCache
  | .version _ _ => .version
  | .getError _ => .getError
  | .structuredError _ _ _ _ => .structuredError
  | .detectDriver _ => .detectDriver
  | .auditPayload _ _ => .auditPayload
  | .validateConnectionString _ _ => .validateConnectionString
  | .streamFetch _ _ _ _ => .streamFetch

structure WorkerResponse where
  requestId : Nat
  body : ResponseBody
  deriving DecidableEq, Repr

end OdbcFast.Dart
