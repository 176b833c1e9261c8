import OdbcFast.Dart.Queries
import OdbcFast.Native.Ffi.MetadataCache
import OdbcFast.Wire.Machine

/-!
# Cached catalog answers

What is kept for a connection and a table is what the server said last about it since the cache
was made or emptied, and it is passed on for as long as the cache is told to keep it. The server
is not asked again in that time while fewer other tables are asked for than the cache has room
for, however small the buffer of the first call was.
-/

namespace OdbcFast.Verification

open Wire Native Native.CatalogCalls

/-! ## What the server said -/

/-- By the number of the connection and the table. -/
abbrev Said := Nat → String → Option CachedPayload

def saidAfter (said : Said) : Output → Said
  | .answered call (.asked (.ok data) _) time => fun connId table =>
    if connId = call.connId ∧ table = call.table then some ⟨data, time⟩ else said connId table
  | .enabled _ _ | .cleared => fun _ _ => none
  | _ => said

/-- What it said last since the cache was made or emptied. -/
def remembered (log : List Output) : Said := log.foldl saidAfter fun _ _ => none

theorem remembered_append (log : List Output) (output : Output) :
    remembered (log ++ [output]) = saidAfter (remembered log) output := by
  rw [remembered, List.foldl_append]
  rfl

/-- How many answers are kept, and for how long. -/
structure CacheLimits where
  maxSize : Nat
  ttl : Nat

def CacheLimits.after (limits : CacheLimits) : Output → CacheLimits
  | .enabled maxSize ttlSecs => ⟨max maxSize 1, ttlSecs * 1000000000⟩
  | _ => limits

/-- The limits that are in force. -/
def limitsAfter (maxSize ttl : Nat) (log : List Output) : CacheLimits :=
  log.foldl CacheLimits.after ⟨max maxSize 1, ttl⟩

theorem limitsAfter_append (maxSize ttl : Nat) (log : List Output) (output : Output) :
    limitsAfter maxSize ttl (log ++ [output]) = (limitsAfter maxSize ttl log).after output := by
  rw [limitsAfter, List.foldl_append]
  rfl

/-! ## Keys -/

/-- The key under which an answer is kept. -/
def catalogKey (connId : Nat) (table : String) : String := s!"{connId}:{table}"

theorem toList_catalogKey (connId : Nat) (table : String) :
    (catalogKey connId table).toList = Nat.toDigits 10 connId ++ ':' :: table.toList := by
  rw [show catalogKey connId table = toString connId ++ ":" ++ table by rfl, String.toList_append,
    String.toList_append, Nat.toString_eq_repr, Nat.toList_repr]
  exact List.append_assoc _ _ _

theorem ne_colon_of_mem_toDigits {n : Nat} {c : Char} (digit : c ∈ Nat.toDigits 10 n) :
    c ≠ ':' := by
  have isDigit := Nat.isDigit_of_mem_toDigits (by decide) (by decide) digit
  rintro rfl
  cases isDigit

/-- Digits end before the first colon. -/
theorem catalogKey_inj {connId connId' : Nat} {table table' : String} :
    catalogKey connId table = catalogKey connId' table' ↔ connId = connId' ∧ table = table' := by
  constructor
  · intro same
    have chars := congrArg String.toList same
    rw [toList_catalogKey, toList_catalogKey] at chars
    have front := congrArg (List.takeWhile fun c => c ≠ ':') chars
    rw [List.takeWhile_append_of_pos (by simpa using fun c => ne_colon_of_mem_toDigits),
      List.takeWhile_append_of_pos (by simpa using fun c => ne_colon_of_mem_toDigits)] at front
    rw [List.takeWhile_cons_of_neg (by decide), List.takeWhile_cons_of_neg (by decide),
      List.append_nil, List.append_nil] at front
    rw [front] at chars
    have back := List.append_cancel_left chars
    refine ⟨?_, String.toList_inj.mp (List.cons.inj back).2⟩
    calc
      connId = Nat.ofDigitChars 10 (Nat.toDigits 10 connId) 0 := Nat.ofDigitChars_ten_toDigits.symm
      _ = Nat.ofDigitChars 10 (Nat.toDigits 10 connId') 0 := by rw [front]
      _ = connId' := Nat.ofDigitChars_ten_toDigits
  · rintro ⟨rfl, rfl⟩
    rfl

/-! ## What is kept -/

section

variable {lru : ∀ ν : Type, LruMap String ν}

/-- The answers that are kept, the newest first. -/
def kept (state : CatalogState lru) : List (String × CachedPayload) :=
  (lru CachedPayload).entries state.metadataCache.payloads

/-- Only what the server said last is kept, and not more of it than the limit. -/
structure CacheInv (limits : CacheLimits) (said : Said) (state : CatalogState lru) : Prop where
  said : ∀ entry ∈ kept state, ∃ connId table,
    entry.1 = catalogKey connId table ∧ said connId table = some entry.2
  ttl : state.metadataCache.ttl = limits.ttl
  maxSize : state.metadataCache.maxSize = limits.maxSize
  room : (lru CachedPayload).capacity state.metadataCache.payloads = limits.maxSize
  positive : 0 < limits.maxSize
  few : (kept state).length ≤ limits.maxSize
  noSchemas : (lru TableSchema).entries state.metadataCache.schemas = []

variable {limits : CacheLimits} {said : Said} {state next : CatalogState lru} {call : ColumnsCall}
  {outcome : ColumnsOutcome} {event : Event} {output : Output}

theorem CacheInv.of_empty (empty : kept state = [])
    (noSchemas : (lru TableSchema).entries state.metadataCache.schemas = [])
    (ttl : state.metadataCache.ttl = limits.ttl)
    (maxSize : state.metadataCache.maxSize = limits.maxSize)
    (room : (lru CachedPayload).capacity state.metadataCache.payloads = limits.maxSize)
    (positive : 0 < limits.maxSize) : CacheInv limits (fun _ _ => none) state := by
  refine ⟨?_, ttl, maxSize, room, positive, ?_, noSchemas⟩
  · intro entry member
    rw [empty] at member
    cases member
  · rw [empty]
    exact Nat.zero_le _

theorem CacheInv.new (maxSize ttl : Nat)
    (made : state.metadataCache = .new lru maxSize ttl) :
    CacheInv ⟨max maxSize 1, ttl⟩ (fun _ _ => none) state := by
  refine .of_empty ?_ ?_ (by rw [made]; rfl) (by rw [made]; rfl) ?_ (Nat.le_max_right _ _)
  · rw [kept, made]
    exact (lru CachedPayload).entries_new _
  · rw [made]
    exact (lru TableSchema).entries_new _
  · rw [made]
    exact (lru CachedPayload).capacity_new _

theorem CacheInv.clear (inv : CacheInv limits said state) :
    CacheInv limits (fun _ _ => none)
      { state with metadataCache := state.metadataCache.clear } :=
  .of_empty ((lru CachedPayload).entries_clear _) ((lru TableSchema).entries_clear _) inv.ttl
    inv.maxSize (((lru CachedPayload).capacity_clear _).trans inv.room) inv.positive

/-- The same cache among other connections and at another time. -/
theorem CacheInv.of_cache (inv : CacheInv limits said state)
    (same : next.metadataCache = state.metadataCache) : CacheInv limits said next := by
  obtain ⟨sessions, metadataCache, now, poisoned⟩ := next
  obtain rfl : metadataCache = state.metadataCache := same
  exact ⟨inv.said, inv.ttl, inv.maxSize, inv.room, inv.positive, inv.few, inv.noSchemas⟩

/-- A look into the cache. -/
theorem CacheInv.looked (inv : CacheInv limits said state) {key : String} {now : Nat}
    {found : Option Bytes} {metadataCache : MetadataCache lru}
    (looked : state.metadataCache.getPayload key now = (found, metadataCache)) :
    CacheInv limits said { state with metadataCache } := by
  obtain ⟨shape, payloads, -⟩ := MetadataCache.getPayload_cases looked
  have fewer : (∀ entry ∈ (lru CachedPayload).entries metadataCache.payloads, entry ∈ kept state) ∧
      ((lru CachedPayload).entries metadataCache.payloads).length ≤ (kept state).length := by
    have promoted := (lru CachedPayload).len_get key state.metadataCache.payloads
    rw [(lru CachedPayload).len_eq, (lru CachedPayload).len_eq] at promoted
    rcases payloads with same | ⟨-, same⟩
    · rw [same]
      exact ⟨fun entry => LruMap.mem_entries_get.mp, promoted.le⟩
    · have shorter := LruMap.len_pop_le key
        ((lru CachedPayload).get key state.metadataCache.payloads).2
      rw [(lru CachedPayload).len_eq, (lru CachedPayload).len_eq] at shorter
      rw [same]
      refine ⟨?_, shorter.trans promoted.le⟩
      intro entry member
      rw [(lru CachedPayload).entries_pop] at member
      exact LruMap.mem_entries_get.mp (mem_without.mp member).1
  exact ⟨fun entry member => inv.said entry (fewer.1 entry member), shape.ttl.trans inv.ttl,
    shape.maxSize.trans inv.maxSize, shape.capacity.trans inv.room, inv.positive,
    fewer.2.trans inv.few, shape.schemas ▸ inv.noSchemas⟩

/-- The server's answer takes the place of what it said before. -/
theorem CacheInv.answered (inv : CacheInv limits said state) (data : Bytes) (answer : Answer)
    (now : Nat) :
    CacheInv limits (saidAfter said (.answered call (.asked (.ok data) answer) now))
      { state with
        now, metadataCache := state.metadataCache.cachePayload call.cacheKey data now } := by
  have capacity := (lru CachedPayload).capacity_put call.cacheKey ⟨data, now⟩
    state.metadataCache.payloads
  refine ⟨?_, inv.ttl, inv.maxSize, capacity.trans inv.room, inv.positive, ?_, inv.noSchemas⟩
  · intro entry member
    rw [kept, MetadataCache.cachePayload, (lru CachedPayload).entries_put] at member
    rcases List.mem_cons.mp (List.mem_of_mem_take member) with rfl | member
    · exact ⟨call.connId, call.table, rfl, if_pos ⟨rfl, rfl⟩⟩
    · obtain ⟨member, other⟩ := mem_without.mp member
      obtain ⟨connId, table, key, found⟩ := inv.said entry member
      refine ⟨connId, table, key, (if_neg ?_).trans found⟩
      rintro ⟨rfl, rfl⟩
      exact other key
  · have short := LruMap.len_put_le call.cacheKey ⟨data, now⟩ state.metadataCache.payloads
    rw [(lru CachedPayload).len_eq, capacity, inv.room] at short
    exact short

/-- A call, with what it may be answered. -/
theorem CacheInv.columns (inv : CacheInv limits said state)
    (done : state.odbcCatalogColumns call = (next, outcome)) :
    CacheInv limits (saidAfter said (.answered call outcome next.now)) next ∧
      ∀ answer, outcome = .cached answer → ∃ payload,
        said call.connId call.table = some payload ∧ next.now ≤ payload.cachedAt + limits.ttl ∧
          answer = .fill call.bufferLen payload.data := by
  obtain ⟨rfl, ended⟩ | ⟨found, metadataCache, looked, ended⟩ :=
    CatalogState.odbcCatalogColumns_cases done
  · obtain rfl | ⟨reason, rfl⟩ := ended
    · exact ⟨inv, by rintro _ ⟨⟩⟩
    · exact ⟨inv, by rintro _ ⟨⟩⟩
  · have after := inv.looked looked
    obtain ⟨data, rfl, rfl, rfl⟩ | ⟨rfl, done⟩ := ended
    · refine ⟨after, ?_⟩
      rintro _ ⟨⟩
      obtain ⟨-, -, here⟩ := MetadataCache.getPayload_cases looked
      obtain ⟨cachedAt, member, young⟩ := here data rfl
      obtain ⟨connId, table, key, found⟩ := inv.said _ member
      obtain ⟨rfl, rfl⟩ := catalogKey_inj.mp key
      exact ⟨⟨data, cachedAt⟩, found, inv.ttl ▸ young, rfl⟩
    · obtain ⟨reason, rfl, rfl⟩ | ⟨err, -, rfl, rfl⟩ | ⟨data, -, rfl, rfl⟩ :=
        CatalogState.askServer_cases done
      · exact ⟨after, by rintro _ ⟨⟩⟩
      · exact ⟨after.of_cache rfl, by rintro _ ⟨⟩⟩
      · exact ⟨after.answered data _ _, by rintro _ ⟨⟩⟩

/-- Every step keeps it. -/
theorem CacheInv.step (inv : CacheInv limits said state)
    (stepped : CatalogCalls.step event state = some (next, output)) :
    CacheInv (limits.after output) (saidAfter said output) next := by
  cases event with
  | columns call =>
      obtain ⟨rfl, rfl⟩ := Prod.mk.inj (Option.some.inj stepped)
      exact (inv.columns rfl).1
  | enable maxSize ttlSecs =>
      rw [CatalogCalls.step, CatalogState.odbcMetadataCacheEnable] at stepped
      split_ifs at stepped
      · obtain ⟨rfl, rfl⟩ := Prod.mk.inj (Option.some.inj stepped)
        exact inv
      · obtain ⟨rfl, rfl⟩ := Prod.mk.inj (Option.some.inj stepped)
        exact .new maxSize (ttlSecs * 1000000000) rfl
  | clear =>
      rw [CatalogCalls.step, CatalogState.odbcMetadataCacheClear] at stepped
      split_ifs at stepped
      · obtain ⟨rfl, rfl⟩ := Prod.mk.inj (Option.some.inj stepped)
        exact inv
      · obtain ⟨rfl, rfl⟩ := Prod.mk.inj (Option.some.inj stepped)
        exact inv.clear
  | disconnect connId closed =>
      obtain ⟨rfl, rfl⟩ := Prod.mk.inj (Option.some.inj stepped)
      refine inv.of_cache ?_
      rw [CatalogState.withSessions]
      split_ifs <;> rfl
  | session call =>
      obtain ⟨rfl, rfl⟩ := Prod.mk.inj (Option.some.inj stepped)
      refine inv.of_cache ?_
      rw [CatalogState.withSessions]
      split_ifs <;> rfl
  | wait | panic =>
      obtain ⟨rfl, rfl⟩ := Prod.mk.inj (Option.some.inj stepped)
      exact inv.of_cache rfl

/-- Every run leads to it. -/
theorem cacheInv_of_run {maxSize ttl : Nat} {events : List Event} {final : CatalogState lru}
    {log : List Output} (ran : run CatalogCalls.step events (start lru maxSize ttl) =
      some (final, log)) :
    CacheInv (limitsAfter maxSize ttl log) (remembered log) final := by
  refine run_invariant (fun log state => CacheInv (limitsAfter maxSize ttl log) (remembered log)
    state) ?_ [] (.new maxSize ttl rfl) ran
  intro log event state next output inv stepped
  rw [limitsAfter_append, remembered_append]
  exact inv.step stepped

end

/-- A call that is answered from the cache is answered with what the server said last about that
connection and table, and not longer ago than the cache is told to keep it. Whatever the calls
were, the cache describes itself as within its limit and without schemas. -/
theorem catalog_answers_are_fresh {lru : ∀ ν : Type, LruMap String ν} {maxSize ttl : Nat}
    {events : List Event} {final : CatalogState lru} {log : List Output}
    (ran : run CatalogCalls.step events (start lru maxSize ttl) = some (final, log)) :
    (∀ earlier later call answer time,
      log = earlier ++ .answered call (.cached answer) time :: later →
        ∃ payload, remembered earlier call.connId call.table = some payload ∧
          time ≤ payload.cachedAt + (limitsAfter maxSize ttl earlier).ttl ∧
          answer = .fill call.bufferLen payload.data) ∧
      final.metadataCache.stats.maxSize = (limitsAfter maxSize ttl log).maxSize ∧
      final.metadataCache.stats.payloadEntries ≤ (limitsAfter maxSize ttl log).maxSize ∧
      final.metadataCache.stats.schemaEntries = 0 := by
  have inv := cacheInv_of_run ran
  refine ⟨?_, inv.maxSize, ?_, ?_⟩
  · rintro earlier later call answer time rfl
    obtain ⟨events, event, middle, next, ran, stepped⟩ := run_split ran
    have before := cacheInv_of_run ran
    cases event with
    | columns call =>
        obtain ⟨rfl, same⟩ := Prod.mk.inj (Option.some.inj stepped)
        obtain ⟨rfl, outcome, rfl⟩ := Output.answered.inj same
        exact (before.columns rfl).2 answer outcome
    | enable maxSize ttlSecs =>
        obtain ⟨-, same⟩ := Prod.mk.inj (Option.some.inj stepped)
        split_ifs at same
    | clear =>
        obtain ⟨-, same⟩ := Prod.mk.inj (Option.some.inj stepped)
        split_ifs at same
    | disconnect | session | wait | panic => cases stepped
  · exact ((lru CachedPayload).len_eq _).trans_le inv.few
  · exact ((lru TableSchema).len_eq _).trans (congrArg List.length inv.noSchemas)

/-- The columns of `t` on the first connection, into a buffer of some size; the server takes its
time for two bytes. -/
def askForT (bufferLen : Nat) : ColumnsCall := ⟨1, "t", bufferLen, none, .ok [1, 2], 3⟩

/-- The second call is answered from the cache. -/
theorem catalog_answers_are_fresh_small :
    ∃ payload, remembered [.silent, .answered (askForT 1)
        (.asked (.ok [1, 2]) (.tooSmall 2 1)) 3, .silent] 1 "t" = some payload ∧
      8 ≤ payload.cachedAt + 10 ∧ Answer.written [1, 2] = .fill 4 payload.data := by
  have ran : ∃ final, run CatalogCalls.step
      [.session (.connect true), .columns (askForT 1), .wait 5, .columns (askForT 4)]
      (start (fun ν => LruMap.ofList String ν) 1 10) = some (final,
        [.silent, .answered (askForT 1) (.asked (.ok [1, 2]) (.tooSmall 2 1)) 3, .silent,
          .answered (askForT 4) (.cached (.written [1, 2])) 8]) := ⟨_, rfl⟩
  obtain ⟨final, ran⟩ := ran
  exact (catalog_answers_are_fresh ran).1 [_, _, _] [] (askForT 4) _ 8 rfl

/-! ## How long the server is not asked again -/

section

variable {lru : ∀ ν : Type, LruMap String ν} {limits : CacheLimits} {said : Said}
  {state next final : CatalogState lru} {call : ColumnsCall} {outcome : ColumnsOutcome}
  {event : Event} {events : List Event} {output : Output} {log : List Output}
  {used : Finset String} {key : String} {payload : CachedPayload}

theorem now_le_askServer (done : state.askServer call = (next, outcome)) :
    state.now ≤ next.now := by
  obtain ⟨reason, rfl, -⟩ | ⟨err, -, rfl, -⟩ | ⟨data, -, rfl, -⟩ :=
    CatalogState.askServer_cases done
  · exact Nat.le_refl _
  · exact Nat.le_add_right _ _
  · exact Nat.le_add_right _ _

theorem now_le_columns (done : state.odbcCatalogColumns call = (next, outcome)) :
    state.now ≤ next.now := by
  obtain ⟨rfl, -⟩ | ⟨found, metadataCache, -, ⟨data, -, rfl, -⟩ | ⟨-, done⟩⟩ :=
    CatalogState.odbcCatalogColumns_cases done
  · exact Nat.le_refl _
  · exact Nat.le_refl _
  · have later := now_le_askServer done
    exact later

theorem now_withSessions (sessions : Sessions) (state : CatalogState lru) :
    (state.withSessions sessions).now = state.now ∧
      (state.withSessions sessions).metadataCache = state.metadataCache := by
  rw [CatalogState.withSessions]
  split_ifs <;> exact ⟨rfl, rfl⟩

theorem step_columns (stepped : CatalogCalls.step (.columns call) state = some (next, output)) :
    ∃ outcome, state.odbcCatalogColumns call = (next, outcome) ∧
      output = .answered call outcome next.now := by
  obtain ⟨rfl, rfl⟩ := Prod.mk.inj (Option.some.inj stepped)
  exact ⟨_, rfl, rfl⟩

theorem now_le_step (stepped : CatalogCalls.step event state = some (next, output)) :
    state.now ≤ next.now := by
  cases event with
  | columns call =>
      obtain ⟨rfl, -⟩ := Prod.mk.inj (Option.some.inj stepped)
      exact now_le_columns rfl
  | enable maxSize ttlSecs =>
      rw [CatalogCalls.step, CatalogState.odbcMetadataCacheEnable] at stepped
      split_ifs at stepped <;>
        (obtain ⟨rfl, -⟩ := Prod.mk.inj (Option.some.inj stepped); exact Nat.le_refl _)
  | clear =>
      rw [CatalogCalls.step, CatalogState.odbcMetadataCacheClear] at stepped
      split_ifs at stepped <;>
        (obtain ⟨rfl, -⟩ := Prod.mk.inj (Option.some.inj stepped); exact Nat.le_refl _)
  | disconnect | session =>
      obtain ⟨rfl, -⟩ := Prod.mk.inj (Option.some.inj stepped)
      exact (now_withSessions _ state).1.ge
  | wait elapsed =>
      obtain ⟨rfl, -⟩ := Prod.mk.inj (Option.some.inj stepped)
      exact Nat.le_add_right _ _
  | panic =>
      obtain ⟨rfl, -⟩ := Prod.mk.inj (Option.some.inj stepped)
      exact Nat.le_refl _

/-- Time does not run back. -/
theorem now_le_of_run (ran : run CatalogCalls.step events state = some (final, log)) :
    state.now ≤ final.now :=
  run_invariant (fun _ other => state.now ≤ other.now)
    (fun before stepped => before.trans (now_le_step stepped)) [] (Nat.le_refl _) ran

/-- A call for something else. -/
theorem keeps_other (inv : CacheInv limits said state) (keeps : LruMap.Keeps used key payload
    (kept state)) (done : state.odbcCatalogColumns call = (next, outcome))
    (other : key ≠ call.cacheKey) (counted : call.cacheKey ∈ used)
    (room : used.card < limits.maxSize) : LruMap.Keeps used key payload (kept next) := by
  obtain ⟨rfl, -⟩ | ⟨found, metadataCache, looked, ended⟩ :=
    CatalogState.odbcCatalogColumns_cases done
  · exact keeps
  · have after : LruMap.Keeps used key payload (kept { state with metadataCache }) := by
      obtain ⟨-, same | ⟨-, same⟩, -⟩ := MetadataCache.getPayload_cases looked
      · rw [kept, same]
        exact keeps.get other counted
      · rw [kept, same]
        exact (keeps.get other counted).pop other
    obtain ⟨data, -, rfl, -⟩ | ⟨-, done⟩ := ended
    · exact after
    · obtain ⟨reason, rfl, -⟩ | ⟨err, -, rfl, -⟩ | ⟨data, -, rfl, -⟩ :=
        CatalogState.askServer_cases done
      · exact after
      · exact after
      · exact after.put other counted (room.trans_eq (inv.looked looked).room.symm)

/-- A call for the same that comes in time is answered with what is kept. -/
theorem columns_of_kept (there : (call.cacheKey, payload) ∈ kept state)
    (young : state.now ≤ payload.cachedAt + state.metadataCache.ttl)
    (connected : (state.sessions.connections.lookup call.connId).isSome)
    (unpoisoned : state.poisoned = false) :
    state.odbcCatalogColumns call =
      ({ state with metadataCache := { state.metadataCache with
          payloads := ((lru CachedPayload).get call.cacheKey state.metadataCache.payloads).2 } },
        .cached (.fill call.bufferLen payload.data)) := by
  have open' : ¬ (state.sessions.connections.lookup call.connId).isNone = true := by
    rw [Option.isNone_iff_eq_none, ← Option.not_isSome_iff_eq_none]
    exact not_not.mpr connected
  rw [CatalogState.odbcCatalogColumns, unpoisoned, if_neg Bool.false_ne_true, if_neg open',
    MetadataCache.getPayload_of_kept there young]

/-- A call that is refused before the cache is asked changes nothing. -/
theorem columns_of_refused
    (refused : state.poisoned = true ∨ (state.sessions.connections.lookup call.connId).isNone)
    (done : state.odbcCatalogColumns call = (next, outcome)) : next = state := by
  rw [CatalogState.odbcCatalogColumns] at done
  split_ifs at done with poisoned closed
  · exact (Prod.mk.inj done).1.symm
  · exact (Prod.mk.inj done).1.symm
  · rcases refused with poisoned' | closed'
    · exact absurd poisoned' poisoned
    · exact absurd closed' closed

/-- No step that leaves the cache in place loses the answer while it is young, as far as the other
keys have room. -/
theorem keeps_step (inv : CacheInv limits said state)
    (keeps : LruMap.Keeps used key payload (kept state))
    (stepped : CatalogCalls.step event state = some (next, output))
    (unreset : event.resets = false)
    (counted : ∀ call, event = .columns call → call.cacheKey ≠ key → call.cacheKey ∈ used)
    (room : used.card < limits.maxSize) (young : next.now ≤ payload.cachedAt + limits.ttl) :
    LruMap.Keeps used key payload (kept next) ∧ limits.after output = limits := by
  have earlier := now_le_step stepped
  cases event with
  | columns call =>
      obtain ⟨outcome, done, rfl⟩ := step_columns stepped
      refine ⟨?_, rfl⟩
      by_cases same : call.cacheKey = key
      · subst same
        by_cases refused :
          state.poisoned = true ∨ (state.sessions.connections.lookup call.connId).isNone
        · rwa [columns_of_refused refused done]
        · obtain ⟨unpoisoned, closed⟩ := not_or.mp refused
          rw [Option.isNone_iff_eq_none, ← ne_eq, Option.ne_none_iff_isSome] at closed
          rw [← inv.ttl] at young
          rw [columns_of_kept keeps.mem (earlier.trans young) closed
            (Bool.eq_false_of_not_eq_true unpoisoned)] at done
          rw [← (Prod.mk.inj done).1]
          exact LruMap.keeps_get keeps.mem
      · exact keeps_other inv keeps done (Ne.symm same) (counted call rfl same) room
  | enable | clear => cases unreset
  | disconnect | session =>
      obtain ⟨rfl, rfl⟩ := Prod.mk.inj (Option.some.inj stepped)
      refine ⟨?_, rfl⟩
      rw [kept, (now_withSessions _ state).2]
      exact keeps
  | wait | panic =>
      obtain ⟨rfl, rfl⟩ := Prod.mk.inj (Option.some.inj stepped)
      exact ⟨keeps, rfl⟩

/-- Nor does a run. -/
theorem keeps_run (inv : CacheInv limits said state)
    (keeps : LruMap.Keeps used key payload (kept state))
    (ran : run CatalogCalls.step events state = some (final, log))
    (unreset : ∀ event ∈ events, event.resets = false)
    (counted : ∀ call, .columns call ∈ events → call.cacheKey ≠ key → call.cacheKey ∈ used)
    (room : used.card < limits.maxSize) (young : final.now ≤ payload.cachedAt + limits.ttl) :
    LruMap.Keeps used key payload (kept final) ∧ final.metadataCache.ttl = limits.ttl := by
  induction events generalizing state said log with
  | nil =>
      obtain ⟨rfl, -⟩ := Prod.mk.inj (Option.some.inj ran)
      exact ⟨keeps, inv.ttl⟩
  | cons event events ih =>
      obtain ⟨output, later, rfl⟩ := exists_cons_of_run ran
      obtain ⟨next, stepped, ran⟩ := run_cons_eq_some.mp ran
      obtain ⟨kept, same⟩ := keeps_step inv keeps stepped (unreset event List.mem_cons_self)
        (fun call here => counted call (here ▸ List.mem_cons_self)) room
        ((now_le_of_run ran).trans young)
      have inv := inv.step stepped
      rw [same] at inv
      exact ih inv kept ran (fun event member => unreset event (List.mem_cons_of_mem _ member))
        (fun call member => counted call (List.mem_cons_of_mem _ member))

/-- How a call was answered that was not answered with -1. -/
def AnsweredWith (data : Bytes) (bufferLen : Nat) (outcome : ColumnsOutcome) : Prop :=
  outcome = .cached (.fill bufferLen data) ∨ outcome = .asked (.ok data) (.fill bufferLen data)

/-- A call that is not answered with -1 leaves its answer in front. -/
theorem keeps_of_answered (inv : CacheInv limits said state)
    (done : state.odbcCatalogColumns call = (next, outcome)) (answered : outcome.reply.1 ≠ -1) :
    ∃ payload, saidAfter said (.answered call outcome next.now) call.connId call.table =
        some payload ∧ AnsweredWith payload.data call.bufferLen outcome ∧
      next.now ≤ payload.cachedAt + limits.ttl ∧
      ∀ used, LruMap.Keeps used call.cacheKey payload (kept next) := by
  obtain ⟨-, rfl | ⟨reason, rfl⟩⟩ | ⟨found, metadataCache, looked, ended⟩ :=
    CatalogState.odbcCatalogColumns_cases done
  · exact absurd rfl answered
  · exact absurd rfl answered
  · obtain ⟨data, rfl, rfl, rfl⟩ | ⟨rfl, done⟩ := ended
    · obtain ⟨-, same | ⟨impossible, -⟩, here⟩ := MetadataCache.getPayload_cases looked
      · obtain ⟨cachedAt, member, young⟩ := here data rfl
        obtain ⟨connId, table, key, found⟩ := inv.said _ member
        obtain ⟨rfl, rfl⟩ := catalogKey_inj.mp key
        refine ⟨⟨data, cachedAt⟩, found, .inl rfl, inv.ttl ▸ young, fun used => ?_⟩
        rw [kept, same]
        exact LruMap.keeps_get member
      · cases impossible
    · obtain ⟨reason, rfl, rfl⟩ | ⟨err, -, rfl, rfl⟩ | ⟨data, -, rfl, rfl⟩ :=
        CatalogState.askServer_cases done
      · exact absurd rfl answered
      · exact absurd rfl answered
      · refine ⟨⟨data, _⟩, if_pos ⟨rfl, rfl⟩, .inr rfl, Nat.le_add_right _ _,
          fun used => LruMap.keeps_put ?_⟩
        rw [(inv.looked looked).room]
        exact inv.positive

/-- Connections stay, and so does a lock that was not poisoned. -/
theorem columns_open (done : state.odbcCatalogColumns call = (next, outcome))
    (answered : outcome.reply.1 ≠ -1) :
    (next.sessions.connections.lookup call.connId).isSome ∧ next.poisoned = false := by
  have same : next.sessions = state.sessions ∧ next.poisoned = state.poisoned := by
    obtain ⟨rfl, -⟩ | ⟨found, metadataCache, -, ⟨data, -, rfl, -⟩ | ⟨-, done⟩⟩ :=
      CatalogState.odbcCatalogColumns_cases done
    · exact ⟨rfl, rfl⟩
    · exact ⟨rfl, rfl⟩
    · obtain ⟨reason, rfl, -⟩ | ⟨err, -, rfl, -⟩ | ⟨data, -, rfl, -⟩ :=
        CatalogState.askServer_cases done <;> exact ⟨rfl, rfl⟩
  rw [same.1, same.2]
  rw [CatalogState.odbcCatalogColumns] at done
  split_ifs at done with poisoned closed
  · rw [← (Prod.mk.inj done).2] at answered
    exact absurd rfl answered
  · rw [← (Prod.mk.inj done).2] at answered
    exact absurd rfl answered
  · rw [Option.isNone_iff_eq_none, ← ne_eq, Option.ne_none_iff_isSome] at closed
    exact ⟨closed, Bool.eq_false_of_not_eq_true poisoned⟩

end

/-- The other tables that are asked for. -/
def otherTables (call : ColumnsCall) (events : List Event) : Finset (Nat × String) :=
  (events.filterMap Event.asksFor).toFinset.erase (call.connId, call.table)

/-- Their keys. -/
def otherKeys (call : ColumnsCall) (events : List Event) : Finset String :=
  (otherTables call events).image fun asked => catalogKey asked.1 asked.2

theorem mem_otherKeys {call asked : ColumnsCall} {events : List Event}
    (member : .columns asked ∈ events) (other : asked.cacheKey ≠ call.cacheKey) :
    asked.cacheKey ∈ otherKeys call events := by
  refine Finset.mem_image.mpr ⟨(asked.connId, asked.table), Finset.mem_erase.mpr ⟨?_, ?_⟩, rfl⟩
  · intro same
    obtain ⟨conn, table⟩ := Prod.mk.inj same
    exact other (catalogKey_inj.mpr ⟨conn, table⟩)
  · exact List.mem_toFinset.mpr (List.mem_filterMap.mpr ⟨_, member, rfl⟩)

/-- After a call that was answered with data or with -2 the server is not asked again about that
table for as long as its answer may be kept: whatever is called in between, as long as the cache is
not emptied and fewer other tables are asked for than it has room for, and whatever the size of the
buffers, every later call is answered with what it said. -/
theorem catalog_asks_once {lru : ∀ ν : Type, LruMap String ν} {maxSize ttl : Nat}
    {before between : List Event} {state next final : CatalogState lru} {log log' : List Output}
    {call : ColumnsCall} {outcome : ColumnsOutcome}
    (ran : run CatalogCalls.step before (start lru maxSize ttl) = some (state, log))
    (done : state.odbcCatalogColumns call = (next, outcome)) (answered : outcome.reply.1 ≠ -1)
    (ran' : run CatalogCalls.step between next = some (final, log'))
    (unreset : ∀ event ∈ between, event.resets = false)
    (few : (otherTables call between).card < (limitsAfter maxSize ttl log).maxSize) :
    ∃ payload, remembered (log ++ [.answered call outcome next.now]) call.connId call.table =
        some payload ∧
      (final.now ≤ payload.cachedAt + (limitsAfter maxSize ttl log).ttl →
        ∀ again : ColumnsCall, again.connId = call.connId → again.table = call.table →
          (final.sessions.connections.lookup call.connId).isSome → final.poisoned = false →
            (final.odbcCatalogColumns again).2 = .cached (.fill again.bufferLen payload.data)) := by
  have inv := cacheInv_of_run ran
  obtain ⟨payload, said, -, -, front⟩ := keeps_of_answered inv done answered
  refine ⟨payload, by rw [remembered_append]; exact said, ?_⟩
  intro young again conn table connected unpoisoned
  have key : again.cacheKey = call.cacheKey := catalogKey_inj.mpr ⟨conn, table⟩
  obtain ⟨held, same⟩ := keeps_run (inv.columns done).1 (front (otherKeys call between)) ran'
    unreset (fun asked => mem_otherKeys) (Finset.card_image_le.trans_lt few) young
  rw [← key] at held
  rw [← conn] at connected
  rw [← same] at young
  rw [columns_of_kept held.mem young connected unpoisoned]

/-- Asked for with a buffer that is too small; then another connection is closed and another table
is asked for, in a cache for two. -/
theorem catalog_asks_once_small : ∃ final log,
    run CatalogCalls.step [.session (.connect true), .columns (askForT 1), .disconnect 7 true,
        .columns ⟨1, "u", 8, none, .ok [], 4⟩] (start (fun ν => LruMap.ofList String ν) 2 10) =
      some (final, log) ∧
    (final.odbcCatalogColumns ⟨1, "t", 4, none, .ok [9], 1⟩).2 = .cached (.written [1, 2]) := by
  refine ⟨_, _, rfl, ?_⟩
  obtain ⟨payload, said, again⟩ := catalog_asks_once
    (rfl : run CatalogCalls.step [.session (.connect true)]
      (start (fun ν => LruMap.ofList String ν) 2 10) = some (_, [.silent]))
    (rfl : CatalogState.odbcCatalogColumns (askForT 1) _ =
      (_, .asked (.ok [1, 2]) (.tooSmall 2 1)))
    (by decide)
    (rfl : run CatalogCalls.step [.disconnect 7 true, .columns ⟨1, "u", 8, none, .ok [], 4⟩] _ =
      some (_, _))
    (by decide) (by decide)
  cases said
  exact again (by decide) ⟨1, "t", 4, none, .ok [9], 1⟩ rfl rfl rfl rfl

/-! ## A caller with larger and larger buffers -/

section

open Dart.OdbcNative (ColumnsTurn columnsWith catalogColumns)

variable {lru : ∀ ν : Type, LruMap String ν} {connId : Nat} {table : String}
  {turns : Nat → ColumnsTurn} {payload : CachedPayload} {size ttl : Nat}
  {made : CatalogState lru × List ColumnsOutcome}

/-- What is known between two calls: the answer is kept and not too old, and only the first call
can have asked for it. -/
structure BetweenCalls (connId : Nat) (table : String) (ttl : Nat) (payload : CachedPayload)
    (made : CatalogState lru × List ColumnsOutcome) : Prop where
  kept : (catalogKey connId table, payload) ∈ kept made.1
  young : made.1.now ≤ payload.cachedAt + made.1.metadataCache.ttl
  connected : (made.1.sessions.connections.lookup connId).isSome
  unpoisoned : made.1.poisoned = false
  ttl : made.1.metadataCache.ttl = ttl
  unasked : ∀ outcome ∈ made.2.tail, outcome.isAsked = false
  called : made.2 ≠ []

theorem isAsked_tail_append {outcomes : List ColumnsOutcome} {outcome : ColumnsOutcome}
    (unasked : ∀ outcome ∈ outcomes.tail, outcome.isAsked = false)
    (answered : outcome.isAsked = false) :
    ∀ other ∈ (outcomes ++ [outcome]).tail, other.isAsked = false := by
  intro other member
  cases outcomes with
  | nil => cases member
  | cons first later =>
      rcases List.mem_append.mp member with member | member
      · exact unasked other member
      · rwa [List.mem_singleton.mp member]

/-- The answer to a buffer of some size. -/
theorem AnsweredWith.ofCode {data : Bytes} {bufferLen : Nat} {outcome : ColumnsOutcome}
    (answered : AnsweredWith data bufferLen outcome) :
    Dart.FfiAnswer.ofCode outcome.reply =
      if data.length > bufferLen then .tooSmall else .written data := by
  rcases answered with rfl | rfl
  · rw [Answer.fill]
    split_ifs <;> rfl
  · rw [Answer.fill]
    split_ifs <;> rfl

/-- A call that comes in time. -/
theorem BetweenCalls.call (between : BetweenCalls connId table ttl payload made)
    (inTime : (turns size).time ≤ payload.cachedAt + ttl) :
    (columnsWith connId table turns size made).2 =
        (if payload.data.length > size then .tooSmall else .written payload.data) ∧
      BetweenCalls connId table ttl payload (columnsWith connId table turns size made).1 := by
  obtain ⟨state, outcomes⟩ := made
  have young : max state.now (turns size).time ≤ payload.cachedAt + state.metadataCache.ttl :=
    Nat.max_le.mpr ⟨between.young, between.ttl.symm ▸ inTime⟩
  let later : CatalogState lru := { state with now := max state.now (turns size).time }
  have hit : later.odbcCatalogColumns ((turns size).call connId table size) = _ :=
    columns_of_kept between.kept young between.connected between.unpoisoned
  rw [columnsWith]
  dsimp only
  rw [hit]
  refine ⟨AnsweredWith.ofCode (.inl rfl),
    ⟨?_, young, between.connected, between.unpoisoned, between.ttl, ?_, ?_⟩⟩
  · exact LruMap.mem_entries_get.mpr between.kept
  · exact isAsked_tail_append between.unasked rfl
  · exact List.append_ne_nil_of_right_ne_nil _ (List.cons_ne_nil _ _)

end

/-- However many buffers `catalogColumns` needs, the server is asked by its first call or not at
all, and what arrives is what it said, if it fits, as long as the calls for larger buffers come
before it is too old. -/
theorem catalogColumns_asks_once {lru : ∀ ν : Type, LruMap String ν} {maxSize ttl connId : Nat}
    {table : String} {turns : Nat → Dart.OdbcNative.ColumnsTurn} {events : List Event}
    {state next : CatalogState lru} {log : List Output} {outcome : ColumnsOutcome}
    (ran : run CatalogCalls.step events (start lru maxSize ttl) = some (state, log))
    (done : CatalogState.odbcCatalogColumns
        ((turns Dart.initialBufferSize).call connId table Dart.initialBufferSize)
        { state with now := max state.now (turns Dart.initialBufferSize).time } = (next, outcome))
    (answered : outcome.reply.1 ≠ -1) :
    ∃ payload, saidAfter (remembered log) (.answered
          ((turns Dart.initialBufferSize).call connId table Dart.initialBufferSize) outcome
            next.now)
          connId table = some payload ∧
      ((∀ size : Nat, (size : Int) ≤ Dart.maxBufferSize →
          (turns size).time ≤ payload.cachedAt + (limitsAfter maxSize ttl log).ttl) →
        (∀ received, (Dart.OdbcNative.catalogColumns connId table turns state).2 = some received ↔
          received = payload.data ∧ (payload.data.length : Int) ≤ Dart.maxBufferSize) ∧
        ∀ later ∈ (Dart.OdbcNative.catalogColumns connId table turns state).1.2.tail,
          later.isAsked = false) := by
  have inv := (cacheInv_of_run ran).of_cache
    (rfl : CatalogState.metadataCache { state with
      now := max state.now (turns Dart.initialBufferSize).time } = state.metadataCache)
  obtain ⟨payload, said, answer, young, front⟩ := keeps_of_answered inv done answered
  obtain ⟨connected, unpoisoned⟩ := columns_open done answered
  have same := (inv.columns done).1.ttl
  refine ⟨payload, said, fun inTime => ?_⟩
  have first : Dart.OdbcNative.columnsWith connId table turns Dart.initialBufferSize (state, []) =
      ((next, [outcome]), if payload.data.length > Dart.initialBufferSize then .tooSmall
        else .written payload.data) := by
    rw [Dart.OdbcNative.columnsWith]
    dsimp only
    rw [done]
    exact congrArg (Prod.mk (next, [outcome])) answer.ofCode
  have between : BetweenCalls connId table (limitsAfter maxSize ttl log).ttl payload
      (next, [outcome]) :=
    ⟨(front ∅).mem, same.symm ▸ young, connected, unpoisoned, same, by rintro _ ⟨⟩,
      List.cons_ne_nil _ _⟩
  let holding (size : Nat) (made : CatalogState lru × List ColumnsOutcome) : Prop :=
    size = Dart.initialBufferSize ∧ made = (state, []) ∨
      BetweenCalls connId table (limitsAfter maxSize ttl log).ttl payload made
  have one {size made} (held : holding size made) (allowed : (size : Int) ≤ Dart.maxBufferSize) :
      (Dart.OdbcNative.columnsWith connId table turns size made).2 =
          (if payload.data.length > size then .tooSmall else .written payload.data) ∧
        BetweenCalls connId table (limitsAfter maxSize ttl log).ttl payload
          (Dart.OdbcNative.columnsWith connId table turns size made).1 := by
    rcases held with ⟨rfl, rfl⟩ | between
    · rw [first]
      exact ⟨rfl, between⟩
    · exact between.call (inTime size allowed)
  have before : holding Dart.initialBufferSize (state, []) := .inl ⟨rfl, rfl⟩
  constructor
  · intro received
    rw [← Dart.reachesBuffer_iff]
    refine Dart.callWithSizesOn_of_holds ⟨?_, ?_, ?_, fun _ _ => trivial⟩ (by decide) before
    · intro size made held allowed _ fits
      rw [(one held allowed).1, if_neg (Nat.not_lt.mpr fits)]
    · intro size made held allowed _ large
      exact ⟨by rw [(one held allowed).1, if_pos large], .inr (one held allowed).2⟩
    · intro size made _ _ gone
      exact absurd trivial gone
  · let unasked (made : CatalogState lru × List ColumnsOutcome) : Prop :=
      ∀ later ∈ made.2.tail, later.isAsked = false
    show unasked _
    refine Dart.callWithSizesOn_ends ?_ ?_ (by decide) before
    · rintro size made (⟨rfl, rfl⟩ | between) beyond
      · rintro _ ⟨⟩
      · exact between.unasked
    · intro size made held allowed
      obtain ⟨answer, between⟩ := one held allowed
      rw [answer]
      split_ifs
      · exact .inl ⟨rfl, .inr between⟩
      · exact .inr ⟨by simp, between.unasked⟩

/-- One byte more than the first buffer has. -/
def longAnswer : Bytes := List.replicate (Dart.initialBufferSize + 1) 7

/-- The server takes its time for it, in every call. -/
def slowTurns : Nat → Dart.OdbcNative.ColumnsTurn := fun _ => ⟨5, none, .ok longAnswer, 3⟩

theorem catalogColumns_asks_once_long : ∃ state log,
    run CatalogCalls.step [.session (.connect true)]
        (start (fun ν => LruMap.ofList String ν) 2 10) =
      some (state, log) ∧ Dart.initialBufferSize < longAnswer.length ∧
    (Dart.OdbcNative.catalogColumns 1 "t" slowTurns state).2 = some longAnswer ∧
    ∀ later ∈ (Dart.OdbcNative.catalogColumns 1 "t" slowTurns state).1.2.tail,
      later.isAsked = false := by
  have length : longAnswer.length = Dart.initialBufferSize + 1 := List.length_replicate
  have refilled : (ColumnsOutcome.asked (.ok longAnswer)
      (.fill Dart.initialBufferSize longAnswer)).reply.1 ≠ -1 := by
    rw [Answer.fill, if_pos (by omega)]
    decide
  refine ⟨_, _, rfl, by omega, ?_⟩
  obtain ⟨payload, said, arrives⟩ := catalogColumns_asks_once
    (rfl : run CatalogCalls.step [.session (.connect true)]
      (start (fun ν => LruMap.ofList String ν) 2 10) = some (_, [.silent]))
    (rfl : CatalogState.odbcCatalogColumns
      ((slowTurns Dart.initialBufferSize).call 1 "t" Dart.initialBufferSize) _ =
        (_, .asked (.ok longAnswer) (.fill Dart.initialBufferSize longAnswer)))
    refilled
  cases said
  obtain ⟨received, once⟩ := arrives fun _ _ => Nat.le_of_ble_eq_true rfl
  refine ⟨(received longAnswer).mpr ⟨rfl, ?_⟩, once⟩
  show (longAnswer.length : Int) ≤ Dart.maxBufferSize
  rw [length]
  decide

end OdbcFast.Verification
