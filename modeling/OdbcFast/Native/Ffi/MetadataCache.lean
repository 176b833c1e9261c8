import OdbcFast.Native.Ffi.PendingResults
import OdbcFast.Wire.Recency

/-!
# The cache of catalog answers

What a server says about the columns of a table is kept for some time under the number of the
connection and the name of the table, so that a call with a larger buffer, and every later one,
is answered without asking again. The cache is put to use by `odbc_catalog_columns` alone. Calls
replace, empty and describe it.
-/

namespace OdbcFast.Native

open Wire

structure MetadataCache.ColumnMetadata where
  name : String
  odbcType : Int16
  nullable : Bool
  deriving DecidableEq, Repr

structure TableSchema where
  tableName : String
  columns : List MetadataCache.ColumnMetadata
  cachedAt : Nat
  deriving DecidableEq, Repr

structure CachedPayload where
  data : Bytes
  cachedAt : Nat
  deriving DecidableEq, Repr

structure MetadataCacheStats where
  maxSize : Nat
  ttlSecs : Nat
  schemaEntries : Nat
  payloadEntries : Nat
  deriving DecidableEq, Repr

/-- What is written for it as JSON. -/
def MetadataCacheStats.json (stats : MetadataCacheStats) : String :=
  "\x7b\"max_size\":" ++ toString stats.maxSize ++ ",\"ttl_secs\":" ++ toString stats.ttlSecs ++
    ",\"schema_entries\":" ++ toString stats.schemaEntries ++
    ",\"payload_entries\":" ++ toString stats.payloadEntries ++ "\x7d"

/-- Times are in nanoseconds. -/
structure MetadataCache (lru : ∀ ν : Type, LruMap String ν) where
  schemas : (lru TableSchema).State
  payloads : (lru CachedPayload).State
  ttl : Nat
  maxSize : Nat

namespace MetadataCache

variable {lru : ∀ ν : Type, LruMap String ν}

def new (lru : ∀ ν : Type, LruMap String ν) (maxSize ttl : Nat) : MetadataCache lru where
  schemas := (lru TableSchema).new (max maxSize 1)
  payloads := (lru CachedPayload).new (max maxSize 1)
  ttl
  maxSize := max maxSize 1

/-- The schema, if it is not too old, at some time. -/
def getSchema (table : String) (now : Nat) (cache : MetadataCache lru) :
    Option TableSchema × MetadataCache lru :=
  let (found, schemas) := (lru TableSchema).get table cache.schemas
  match found with
  | none => (none, { cache with schemas })
  | some schema =>
    if now - schema.cachedAt > cache.ttl then
      (none, { cache with schemas := (lru TableSchema).pop table schemas })
    else (some schema, { cache with schemas })

def cacheSchema (table : String) (schema : TableSchema) (cache : MetadataCache lru) :
    MetadataCache lru :=
  { cache with schemas := (lru TableSchema).put table schema cache.schemas }

/-- The data, if they are not too old, at some time. -/
def getPayload (key : String) (now : Nat) (cache : MetadataCache lru) :
    Option Bytes × MetadataCache lru :=
  let (found, payloads) := (lru CachedPayload).get key cache.payloads
  match found with
  | none => (none, { cache with payloads })
  | some payload =>
    if now - payload.cachedAt > cache.ttl then
      (none, { cache with payloads := (lru CachedPayload).pop key payloads })
    else (some payload.data, { cache with payloads })

def cachePayload (key : String) (data : Bytes) (now : Nat) (cache : MetadataCache lru) :
    MetadataCache lru :=
  { cache with payloads := (lru CachedPayload).put key ⟨data, now⟩ cache.payloads }

def clear (cache : MetadataCache lru) : MetadataCache lru :=
  { cache with
    schemas := (lru TableSchema).clear cache.schemas
    payloads := (lru CachedPayload).clear cache.payloads }

def stats (cache : MetadataCache lru) : MetadataCacheStats where
  maxSize := cache.maxSize
  ttlSecs := cache.ttl / 1000000000
  schemaEntries := (lru TableSchema).len cache.schemas
  payloadEntries := (lru CachedPayload).len cache.payloads

/-- Everything but the answers that are kept is as it was. -/
structure SameShape (next cache : MetadataCache lru) : Prop where
  schemas : next.schemas = cache.schemas
  ttl : next.ttl = cache.ttl
  maxSize : next.maxSize = cache.maxSize
  capacity : (lru CachedPayload).capacity next.payloads = (lru CachedPayload).capacity cache.payloads

/-- A look may drop an answer that is too old. What it finds was kept and is not. -/
theorem getPayload_cases {key : String} {now : Nat} {cache next : MetadataCache lru}
    {found : Option Bytes} (looked : cache.getPayload key now = (found, next)) :
    SameShape next cache ∧
      (next.payloads = ((lru CachedPayload).get key cache.payloads).2 ∨
        found = none ∧
          next.payloads =
            (lru CachedPayload).pop key ((lru CachedPayload).get key cache.payloads).2) ∧
      ∀ data, found = some data → ∃ cachedAt,
        (key, ⟨data, cachedAt⟩) ∈ (lru CachedPayload).entries cache.payloads ∧
          now ≤ cachedAt + cache.ttl := by
  have capacity := (lru CachedPayload).capacity_get key cache.payloads
  have member := (lru CachedPayload).get_eq_some key
  rw [getPayload] at looked
  generalize answered : (lru CachedPayload).get key cache.payloads = answer at looked capacity ⊢
  obtain ⟨value, payloads⟩ := answer
  cases value with
  | none =>
      obtain ⟨rfl, rfl⟩ := Prod.mk.inj looked
      exact ⟨⟨rfl, rfl, rfl, capacity⟩, .inl rfl, by rintro _ ⟨⟩⟩
  | some payload =>
      dsimp only at looked
      split_ifs at looked with old
      · obtain ⟨rfl, rfl⟩ := Prod.mk.inj looked
        refine ⟨⟨rfl, rfl, rfl, ?_⟩, .inr ⟨rfl, rfl⟩, by rintro _ ⟨⟩⟩
        exact ((lru CachedPayload).capacity_pop _ _).trans capacity
      · obtain ⟨rfl, rfl⟩ := Prod.mk.inj looked
        refine ⟨⟨rfl, rfl, rfl, capacity⟩, .inl rfl, ?_⟩
        rintro _ ⟨⟩
        exact ⟨payload.cachedAt, (member payload _).mp (congrArg Prod.fst answered), by omega⟩

/-- An answer that is kept and not too old is found. -/
theorem getPayload_of_kept {key : String} {now : Nat} {cache : MetadataCache lru}
    {payload : CachedPayload}
    (kept : (key, payload) ∈ (lru CachedPayload).entries cache.payloads)
    (young : now ≤ payload.cachedAt + cache.ttl) :
    cache.getPayload key now =
      (some payload.data,
        { cache with payloads := ((lru CachedPayload).get key cache.payloads).2 }) := by
  have got := ((lru CachedPayload).get_eq_some _ _ _).mpr kept
  rw [getPayload]
  generalize (lru CachedPayload).get key cache.payloads = answer at got ⊢
  obtain ⟨value, payloads⟩ := answer
  obtain rfl : value = some payload := got
  exact if_neg (by omega)

end MetadataCache

/-! ## Calls -/

/-- Why a connection that is in the table cannot be used. -/
inductive HandleFault where
  | handles
  | notFound (err : OdbcError)
  | connection
  deriving DecidableEq, Repr

def HandleFault.message : HandleFault → String
  | .handles => "Failed to lock handles mutex"
  | .notFound err => s!"Failed to get connection: {err.display}"
  | .connection => "Failed to lock connection"

/-- A call of `odbc_catalog_columns`, with what the server says if it is asked and how long that
takes. -/
structure ColumnsCall where
  connId : Nat
  table : String
  bufferLen : Nat
  fault : Option HandleFault
  result : Except OdbcError Bytes
  took : Nat

def ColumnsCall.cacheKey (call : ColumnsCall) : String := s!"{call.connId}:{call.table}"

/-- How a call was answered. A failed one leaves its reason on the connection, except that a
poisoned lock leaves nothing. -/
inductive ColumnsOutcome where
  | poisoned
  | refused (reason : Failure)
  /-- From the cache. -/
  | cached (answer : Answer)
  /-- By the server. -/
  | asked (result : Except OdbcError Bytes) (answer : Answer)

/-- The returned number and the bytes that are written. -/
def ColumnsOutcome.reply : ColumnsOutcome → Int × Bytes
  | .cached (.written data) | .asked _ (.written data) => (0, data)
  | .cached (.tooSmall _ _) | .asked _ (.tooSmall _ _) => (-2, [])
  | _ => (-1, [])

def ColumnsOutcome.isAsked : ColumnsOutcome → Bool
  | .asked _ _ => true
  | _ => false

/-- Data for a buffer of some size. -/
def Answer.fill (bufferLen : Nat) (data : Bytes) : Answer :=
  if data.length > bufferLen then .tooSmall data.length bufferLen else .written data

/-- The part of what is behind the global lock that these calls see. -/
structure CatalogState (lru : ∀ ν : Type, LruMap String ν) where
  sessions : Sessions := {}
  metadataCache : MetadataCache lru
  now : Nat := 0
  poisoned : Bool := false

namespace CatalogState

variable {lru : ∀ ν : Type, LruMap String ν}

/-- The rest of a call for which the cache has nothing. -/
def askServer (call : ColumnsCall) (state : CatalogState lru) :
    CatalogState lru × ColumnsOutcome :=
  match call.fault with
  | some fault => (state, .refused (.message fault.message))
  | none =>
    let now := state.now + call.took
    match call.result with
    | .error err => ({ state with now }, .asked (.error err) (.failed (.execution err)))
    | .ok data =>
      -- kept before it is known to fit
      let metadataCache := state.metadataCache.cachePayload call.cacheKey data now
      ({ state with now, metadataCache }, .asked (.ok data) (.fill call.bufferLen data))

def odbcCatalogColumns (call : ColumnsCall) (state : CatalogState lru) :
    CatalogState lru × ColumnsOutcome :=
  if state.poisoned then (state, .poisoned)
  else if (state.sessions.connections.lookup call.connId).isNone then
    (state, .refused (.message s!"Invalid connection ID: {call.connId}"))
  else
    let (found, metadataCache) := state.metadataCache.getPayload call.cacheKey state.now
    let state := { state with metadataCache }
    match found with
    | some data => (state, .cached (.fill call.bufferLen data))
    | none => state.askServer call

/-- What a call does: it is refused before the cache is asked, answered from the cache, or asks the
server. -/
theorem odbcCatalogColumns_cases {call : ColumnsCall} {state next : CatalogState lru}
    {outcome : ColumnsOutcome} (done : state.odbcCatalogColumns call = (next, outcome)) :
    (next = state ∧ (outcome = .poisoned ∨ ∃ reason, outcome = .refused reason)) ∨
      ∃ found metadataCache,
        state.metadataCache.getPayload call.cacheKey state.now = (found, metadataCache) ∧
          ((∃ data, found = some data ∧ next = { state with metadataCache } ∧
              outcome = .cached (.fill call.bufferLen data)) ∨
            found = none ∧ { state with metadataCache }.askServer call = (next, outcome)) := by
  rw [odbcCatalogColumns] at done
  split_ifs at done
  · obtain ⟨rfl, rfl⟩ := Prod.mk.inj done
    exact .inl ⟨rfl, .inl rfl⟩
  · obtain ⟨rfl, rfl⟩ := Prod.mk.inj done
    exact .inl ⟨rfl, .inr ⟨_, rfl⟩⟩
  · generalize state.metadataCache.getPayload call.cacheKey state.now = answer at done ⊢
    obtain ⟨found, metadataCache⟩ := answer
    refine .inr ⟨_, _, rfl, ?_⟩
    cases found with
    | none => exact .inr ⟨rfl, done⟩
    | some data =>
        obtain ⟨rfl, rfl⟩ := Prod.mk.inj done
        exact .inl ⟨data, rfl, rfl, rfl⟩

theorem askServer_cases {call : ColumnsCall} {state next : CatalogState lru}
    {outcome : ColumnsOutcome} (done : state.askServer call = (next, outcome)) :
    (∃ reason, next = state ∧ outcome = .refused reason) ∨
      (∃ err, call.result = .error err ∧ next = { state with now := state.now + call.took } ∧
        outcome = .asked (.error err) (.failed (.execution err))) ∨
      ∃ data, call.result = .ok data ∧
        next = { state with
          now := state.now + call.took
          metadataCache :=
            state.metadataCache.cachePayload call.cacheKey data (state.now + call.took) } ∧
        outcome = .asked (.ok data) (.fill call.bufferLen data) := by
  rw [askServer] at done
  split at done
  · obtain ⟨rfl, rfl⟩ := Prod.mk.inj done
    exact .inl ⟨_, rfl, rfl⟩
  · dsimp only at done
    split at done
    · next err failed =>
        obtain ⟨rfl, rfl⟩ := Prod.mk.inj done
        exact .inr (.inl ⟨err, failed, rfl, rfl⟩)
    · next data answered =>
        obtain ⟨rfl, rfl⟩ := Prod.mk.inj done
        exact .inr (.inr ⟨data, answered, rfl, rfl⟩)

def odbcMetadataCacheEnable (maxSize ttlSecs : Nat) (state : CatalogState lru) :
    Int × CatalogState lru :=
  if state.poisoned then (-1, state)
  else (0, { state with metadataCache := .new lru maxSize (ttlSecs * 1000000000) })

def odbcMetadataCacheClear (state : CatalogState lru) : Int × CatalogState lru :=
  if state.poisoned then (-1, state)
  else (0, { state with metadataCache := state.metadataCache.clear })

/-- `odbc_metadata_cache_stats`: the returned number and the bytes that are written. -/
def odbcMetadataCacheStats (bufferLen : Nat) (state : CatalogState lru) : Int × Bytes :=
  if bufferLen = 0 ∨ state.poisoned then (-1, [])
  else
    let data := utf8Bytes state.metadataCache.stats.json
    if data.length > bufferLen then (-2, []) else (0, data)

/-- What a call that opens or closes something does to the connections; the cache stays. -/
def withSessions (sessions : Sessions) (state : CatalogState lru) : CatalogState lru :=
  if state.poisoned then state else { state with sessions }

end CatalogState

/-! ## Runs -/

namespace CatalogCalls

variable {lru : ∀ ν : Type, LruMap String ν}

inductive Event where
  | columns (call : ColumnsCall)
  | enable (maxSize ttlSecs : Nat)
  | clear
  | disconnect (connId : Nat) (closed : Bool)
  /-- The calls that open and close everything else. -/
  | session (call : PendingCalls.SessionCall)
  | wait (elapsed : Nat)
  /-- A panic while the lock is held. -/
  | panic

inductive Output where
  /-- The time is that of the answer. -/
  | answered (call : ColumnsCall) (outcome : ColumnsOutcome) (time : Nat)
  | enabled (maxSize ttlSecs : Nat)
  | cleared
  | silent

/-- No event is refused; behind a poisoned lock nothing changes any more. -/
def step : Event → CatalogState lru → Option (CatalogState lru × Output)
  | .columns call, state =>
    let (next, outcome) := state.odbcCatalogColumns call
    some (next, .answered call outcome next.now)
  | .enable maxSize ttlSecs, state =>
    let (code, next) := state.odbcMetadataCacheEnable maxSize ttlSecs
    some (next, if code = 0 then .enabled maxSize ttlSecs else .silent)
  | .clear, state =>
    let (code, next) := state.odbcMetadataCacheClear
    some (next, if code = 0 then .cleared else .silent)
  | .disconnect connId closed, state =>
    some (state.withSessions (state.sessions.odbcDisconnect connId closed).2, .silent)
  | .session call, state => some (state.withSessions (call.apply state.sessions), .silent)
  | .wait elapsed, state => some ({ state with now := state.now + elapsed }, .silent)
  | .panic, state => some ({ state with poisoned := true }, .silent)

/-- Whether it empties the cache. -/
def Event.resets : Event → Bool
  | .enable _ _ | .clear => true
  | _ => false

/-- The connection and the table whose columns it asks for. -/
def Event.asksFor : Event → Option (Nat × String)
  | .columns call => some (call.connId, call.table)
  | _ => none

/-- A cache that was made when the library was loaded. -/
def start (lru : ∀ ν : Type, LruMap String ν) (maxSize ttl : Nat) : CatalogState lru where
  metadataCache := .new lru maxSize ttl

end CatalogCalls

end OdbcFast.Native
