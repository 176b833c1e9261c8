import OdbcFast.Dart.ConnectionStringBuilder
import OdbcFast.Dart.NativeStream
import OdbcFast.Dart.StreamAsync
import OdbcFast.Dart.Telemetry
import OdbcFast.Native.Engine.Catalog
import OdbcFast.Native.Engine.DriverCapabilities
import OdbcFast.Native.Engine.OutputAwareParams
import OdbcFast.Native.Engine.ParamQueries
import OdbcFast.Native.Engine.StreamingBatched
import OdbcFast.Native.Ffi.MetadataCache
import OdbcFast.Native.Plugins.CatalogProvider
import OdbcFast.Native.Plugins.Returning
import OdbcFast.Native.Plugins.Upsert
import OdbcFast.Native.Protocol.Arena
import OdbcFast.Verification.Arenas
import OdbcFast.Verification.ArrayBinding
import OdbcFast.Verification.AsyncRequests
import OdbcFast.Verification.BulkChunks
import OdbcFast.Verification.BulkInsert
import OdbcFast.Verification.BulkInsertBuilder
import OdbcFast.Verification.CachedQueries
import OdbcFast.Verification.Cancellation
import OdbcFast.Verification.CatalogCache
import OdbcFast.Verification.CatalogQueries
import OdbcFast.Verification.Columnar
import OdbcFast.Verification.ConnectionStrings
import OdbcFast.Verification.DirectedCalls
import OdbcFast.Verification.Disconnection
import OdbcFast.Verification.DiskSpill
import OdbcFast.Verification.EngineDetection
import OdbcFast.Verification.FallbackExecution
import OdbcFast.Verification.GlobalLock
import OdbcFast.Verification.Handles
import OdbcFast.Verification.Identifiers
import OdbcFast.Verification.IntegerCells
import OdbcFast.Verification.Intervals
import OdbcFast.Verification.JsonRows
import OdbcFast.Verification.LockTimeouts
import OdbcFast.Verification.LogicalRequests
import OdbcFast.Verification.MultiResult
import OdbcFast.Verification.MultiResultDrivers
import OdbcFast.Verification.MultiResultStream
import OdbcFast.Verification.NamedParameters
import OdbcFast.Verification.NativeBuffers
import OdbcFast.Verification.OptimizedQueries
import OdbcFast.Verification.ParallelInsert
import OdbcFast.Verification.Params
import OdbcFast.Verification.PendingResults
import OdbcFast.Verification.PoolIdentity
import OdbcFast.Verification.PoolIds
import OdbcFast.Verification.PoolResize
import OdbcFast.Verification.PoolReturns
import OdbcFast.Verification.PoolStrings
import OdbcFast.Verification.PoolWindows
import OdbcFast.Verification.PreparedBranches
import OdbcFast.Verification.PreparedCache
import OdbcFast.Verification.QueryMetrics
import OdbcFast.Verification.QueryResults
import OdbcFast.Verification.Reconnect
import OdbcFast.Verification.RefCursors
import OdbcFast.Verification.RequestCorrelation
import OdbcFast.Verification.Retries
import OdbcFast.Verification.ReturningClauses
import OdbcFast.Verification.ReturningPlaces
import OdbcFast.Verification.RowMajor
import OdbcFast.Verification.Secrets
import OdbcFast.Verification.ServiceTransactions
import OdbcFast.Verification.SessionStatements
import OdbcFast.Verification.SpillStreams
import OdbcFast.Verification.StatementOwnership
import OdbcFast.Verification.StreamChunks
import OdbcFast.Verification.StreamFetch
import OdbcFast.Verification.StreamThreads
import OdbcFast.Verification.StreamedRows
import OdbcFast.Verification.StreamingState
import OdbcFast.Verification.StructuredErrors
import OdbcFast.Verification.Telemetry
import OdbcFast.Verification.Trailers
import OdbcFast.Verification.TransactionHandles
import OdbcFast.Verification.TransactionThreads
import OdbcFast.Verification.Transactions
import OdbcFast.Verification.UpsertColumns
import OdbcFast.Verification.Upserts
import OdbcFast.Verification.WorkerCrash
import OdbcFast.Verification.WorkerErrors
import OdbcFast.Verification.XaBranches
import OdbcFast.Verification.XaHelpers
import OdbcFast.Verification.XaRetries
import OdbcFast.Verification.XaStart
import OdbcFast.Verification.XidEncodings
import OdbcFast.Wire.Alignment
import OdbcFast.Wire.Occurrences
import OdbcFast.Wire.Portions
import OdbcFast.Wire.SqlPieces
import OdbcFast.Wire.SqlTemplates
