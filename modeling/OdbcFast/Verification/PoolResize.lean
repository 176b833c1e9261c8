import OdbcFast.Native.Ffi.PoolSettings
import OdbcFast.Verification.PoolStrings

/-!
# A pool of another size

A pool gets another size by being built anew from the string that it keeps. The old pool is taken
out of the table first, so it is gone when the new one cannot be built. What was set for it apart
from the string, or by an option that the string has lost, is what the defaults give.
-/

namespace OdbcFast.Verification

open Wire OdbcFast.Native

/-! ## The string once more -/

theorem readsRight_concat_iff {texts : List (List Char)} {text : List Char} :
    ReadsRight (texts ++ [text]) ↔
      (∀ text' ∈ texts, scanDepth 0 text' = some 0) ∧ (scanDepth 0 text).isSome = true := by
  refine ⟨fun right => ?_, fun right => readsRight_concat right.1 right.2⟩
  induction texts with
  | nil => exact ⟨List.forall_mem_nil _, right⟩
  | cons text' texts ih =>
      obtain ⟨closed, last⟩ := ih right.tail
      refine ⟨List.forall_mem_cons.mpr ⟨?_, closed⟩, last⟩
      cases texts with
      | nil => exact right.1
      | cons text'' texts => exact right.1

/-- The part behind the last semicolon that cuts. -/
def lastPart (text : List Char) : List Char :=
  (splitConnectionStringParts text).getLast (splitParts_ne_nil 0 [] text)

/-- A semicolon behind a part that is kept is a part of its value. -/
theorem partFate_semicolon {text : List Char} (kept : partFate text = .kept) :
    partFate (text ++ [';']) = .kept := by
  have shows : trim (text ++ [';']) ≠ [] := by
    intro blank
    cases trimWith_eq_nil_iff.mp blank ';' (List.mem_append_right _ List.mem_cons_self)
  rw [partFate, if_neg (shows_of_kept kept)] at kept
  rw [partFate, if_neg shows]
  by_cases member : '=' ∈ text
  · obtain ⟨key, value, rfl, noEquals⟩ := List.eq_append_cons_of_mem member
    rw [splitOnceEquals_append noEquals] at kept
    rw [List.append_assoc, List.cons_append, splitOnceEquals_append noEquals]
    dsimp only at kept ⊢
    split_ifs at kept ⊢
    rfl
  · rw [splitOnceEquals_eq_none]
    simp [member]

theorem intercalate_concat_append (texts : List (List Char)) (text more : List Char) :
    [';'].intercalate (texts ++ [text ++ more]) = [';'].intercalate (texts ++ [text]) ++ more := by
  rcases eq_or_ne texts [] with rfl | nonempty
  · rw [List.nil_append, List.nil_append, List.intercalate_singleton, List.intercalate_singleton]
  · rw [intercalate_concat nonempty, intercalate_concat nonempty, List.append_assoc,
      List.cons_append]

/-- The string ends with a semicolon exactly if its last part does. -/
theorem endsWithSemicolon_intercalate_concat (texts : List (List Char)) {text : List Char}
    (shows : trim text ≠ []) :
    endsWithSemicolon ([';'].intercalate (texts ++ [text])) = endsWithSemicolon text := by
  rcases eq_or_ne texts [] with rfl | nonempty
  · rw [List.nil_append, List.intercalate_singleton]
  · rw [intercalate_concat nonempty, Bool.eq_iff_iff, endsWithSemicolon_append, or_iff_right shows]

/-- What parsing a string does that has been parsed before: it holds no option any more, and it
stays as it is unless it ends with a semicolon that does not cut. -/
structure ParsedAgain (text : List Char) : Prop where
  options : (parsePoolOptionsFromConnectionString text).2 = (none, none)
  stays : (parsePoolOptionsFromConnectionString text).1 = text ↔
    endsWithSemicolon (lastPart text) = false

theorem lastPart_intercalate {texts : List (List Char)} {text : List Char}
    (right : ReadsRight (texts ++ [text])) :
    lastPart ([';'].intercalate (texts ++ [text])) = text := by
  have split : splitConnectionStringParts ([';'].intercalate (texts ++ [text])) =
      texts ++ [text] := by
    obtain ⟨first, others, whole⟩ := List.exists_cons_of_ne_nil
      (List.append_ne_nil_of_right_ne_nil texts (List.cons_ne_nil text []))
    rw [whole] at right ⊢
    exact split_intercalate right
  unfold lastPart
  simp only [split, List.getLast_append_of_ne_nil, List.getLast_singleton, ne_eq,
    List.cons_ne_self, not_false_eq_true]

theorem parsedAgain_of_kept {texts : List (List Char)} {text : List Char}
    (kept : ∀ text' ∈ texts ++ [text], partFate text' = .kept)
    (trimmed : ∀ text' ∈ texts ++ [text], trim text' = text')
    (right : ReadsRight (texts ++ [text])) :
    ParsedAgain ([';'].intercalate (texts ++ [text])) := by
  have nonempty : texts ++ [text] ≠ [] :=
    List.append_ne_nil_of_right_ne_nil texts (List.cons_ne_nil text [])
  have parsed := parse_of_kept kept trimmed nonempty right
  have shows := shows_of_kept (kept text List.mem_concat_self)
  have ends := @endsWithSemicolon_intercalate_concat texts text shows
  refine ⟨congrArg Prod.snd parsed, ?_⟩
  rw [lastPart_intercalate right, ← ends, parsed]
  dsimp only
  cases endsWithSemicolon ([';'].intercalate (texts ++ [text])) with
  | false => exact iff_of_true (if_neg Bool.false_ne_true) rfl
  | true =>
      apply iff_of_false
      · rw [if_pos rfl]
        exact fun same => List.cons_ne_nil _ _ (List.append_right_eq_self.mp same)
      · exact Bool.noConfusion

theorem parsedAgain_of_ended {texts : List (List Char)}
    (kept : ∀ text ∈ texts, partFate text = .kept) (trimmed : ∀ text ∈ texts, trim text = text)
    (nonempty : texts ≠ []) (closed : ∀ text ∈ texts, scanDepth 0 text = some 0) :
    ParsedAgain ([';'].intercalate texts ++ [';']) := by
  have parsed := parse_of_kept_ended kept trimmed nonempty closed
  refine ⟨congrArg Prod.snd parsed, iff_of_true (congrArg Prod.fst parsed) ?_⟩
  have right := @readsRight_concat texts closed [] rfl
  rw [← intercalate_concat nonempty, lastPart_intercalate right]
  rfl

/-- A last part with an open brace takes the semicolon that is set behind it for its own. -/
theorem parsedAgain_of_open {texts : List (List Char)} {text : List Char} {depth : Nat}
    (kept : ∀ text' ∈ texts ++ [text], partFate text' = .kept)
    (trimmed : ∀ text' ∈ texts ++ [text], trim text' = text')
    (closed : ∀ text' ∈ texts, scanDepth 0 text' = some 0)
    (opened : scanDepth 0 text = some (depth + 1)) :
    ParsedAgain ([';'].intercalate (texts ++ [text]) ++ [';']) := by
  rw [← intercalate_concat_append]
  rw [List.forall_mem_append, List.forall_mem_singleton] at kept trimmed
  have bare := @bare_trimWith _ isWhitespace text
  apply parsedAgain_of_kept
  · rw [List.forall_mem_append, List.forall_mem_singleton]
    exact ⟨kept.1, partFate_semicolon kept.2⟩
  · rw [List.forall_mem_append, List.forall_mem_singleton]
    refine ⟨trimmed.1, trim_of_bare ⟨?_, ?_⟩⟩
    · have first := bare.1
      rw [show trimWith isWhitespace text = text from trimmed.2] at first
      have shows := shows_of_kept kept.2
      rw [trimmed.2] at shows
      obtain ⟨c, rest, rfl⟩ := List.exists_cons_of_ne_nil shows
      exact first
    · intro c last
      rw [List.getLast?_concat] at last
      cases last
      decide
  · apply readsRight_concat closed
    rw [scanDepth_append, opened]
    rfl

/-- Every string that has been parsed. -/
theorem parsedAgain (text : List Char) :
    ParsedAgain (parsePoolOptionsFromConnectionString text).1 := by
  obtain ⟨right, -⟩ := @splitParts_spec 0 [] rfl text
  have texts : ReadsRight (((splitConnectionStringParts text).filter
    (partFate · = .kept)).map trim) := right.kept _
  have kept : ∀ part ∈ ((splitConnectionStringParts text).filter (partFate · = .kept)).map trim,
      partFate part = .kept := by
    rw [List.forall_mem_map]
    exact fun part inside => (partFate_trim part).trans (of_decide_eq_true (List.mem_filter.mp inside).2)
  have trimmed : ∀ part ∈ ((splitConnectionStringParts text).filter (partFate · = .kept)).map trim,
      trim part = part := by
    rw [List.forall_mem_map]
    exact fun part _ => trimWith_trimWith part
  rw [parse_eq, keptOf]
  dsimp only
  generalize ((splitConnectionStringParts text).filter (partFate · = .kept)).map trim = parts
    at texts kept trimmed ⊢
  rcases parts.eq_nil_or_concat' with rfl | ⟨front, part, rfl⟩
  · rw [if_neg (fun ended => ended.2 rfl)]
    exact ⟨by decide, by decide⟩
  · split_ifs
    · obtain ⟨closed, scanned⟩ := readsRight_concat_iff.mp texts
      obtain ⟨depth, scanned⟩ := Option.isSome_iff_exists.mp scanned
      cases depth with
      | zero =>
          apply parsedAgain_of_ended kept trimmed
          · exact List.append_ne_nil_of_right_ne_nil front (List.cons_ne_nil part [])
          · rw [List.forall_mem_append, List.forall_mem_singleton]
            exact ⟨closed, scanned⟩
      | succ depth => exact parsedAgain_of_open kept trimmed closed scanned
    · exact parsedAgain_of_kept kept trimmed texts

/-! ## Resizing -/

/-- A call that fails changes no pool. One that succeeds changes the size of the pool, and nothing
else about it or about another. -/
structure Resizes (poolId newMaxSize : Nat) (before : PoolTables) (ran : Int × PoolTables) :
    Prop where
  failed : ran.1 ≠ 0 → ran.2.pools = before.pools
  succeeded : ran.1 = 0 → ∃ pool, before.pools.lookup poolId = some pool ∧
    ran.2.pools.lookup poolId = some { pool with maxSize := newMaxSize } ∧
    ∀ id ≠ poolId, ran.2.pools.lookup id = before.pools.lookup id

/-- The call is refused before it touches the pool. -/
def RefusedEarly (locked : Bool) (poolId newMaxSize : Nat) (tables : PoolTables) : Prop :=
  newMaxSize = 0 ∨ locked = false ∨ tables.pools.lookup poolId = none ∨
    tables.pooledConnections.anyValue (fun pool => pool = poolId) = true

/-- All that was set for the pool is what the environment and the defaults give, and no semicolon
inside an open brace ends its string. -/
structure SetByDefault (env : PoolEnvironment) (pool : ConfiguredPool) : Prop where
  testOnCheckOut : pool.testOnCheckOut =
    resolveCheckoutValidation none (readCheckoutValidationFromEnv env)
  healthCheckQuery : pool.healthCheckQuery =
    resolveHealthCheckQuery none (readHealthCheckQueryFromEnv env)
  connectionTimeout : pool.connectionTimeout = 30000
  idleTimeout : pool.idleTimeout = 600000
  maxLifetime : pool.maxLifetime = 1800000
  string : endsWithSemicolon (lastPart pool.connectionString) = false

theorem new_eq (env : PoolEnvironment) (text : List Char) (newMaxSize : Nat) :
    ConfiguredPool.new env text newMaxSize =
      { connectionString := (parsePoolOptionsFromConnectionString text).1
        maxSize := newMaxSize
        testOnCheckOut := resolveCheckoutValidation (parsePoolOptionsFromConnectionString text).2.1
          (readCheckoutValidationFromEnv env)
        healthCheckQuery := resolveHealthCheckQuery (parsePoolOptionsFromConnectionString text).2.2
          (readHealthCheckQueryFromEnv env)
        connectionTimeout := 30000
        idleTimeout := 600000
        maxLifetime := 1800000
        sanitized := ⟨text, rfl⟩ } := rfl

/-- The pool that takes the place of another. -/
theorem new_eq_iff {env : PoolEnvironment} {pool : ConfiguredPool} {newMaxSize : Nat} :
    ConfiguredPool.new env pool.connectionString newMaxSize = { pool with maxSize := newMaxSize } ↔
      SetByDefault env pool := by
  obtain ⟨⟨connectionString⟩, maxSize, testOnCheckOut, healthCheckQuery, connectionTimeout,
    idleTimeout, maxLifetime, sanitized⟩ := pool
  have again : ParsedAgain connectionString := by
    obtain ⟨text, same⟩ := sanitized
    change connectionString = _ at same
    rw [same]
    exact parsedAgain text
  obtain ⟨options, stays⟩ := again
  rw [new_eq, ConfiguredPool.mk.injEq, ConnectionPool.mk.injEq, options, stays]
  constructor
  · rintro ⟨string, -, test, query, timeout, idle, lifetime⟩
    exact ⟨test.symm, query.symm, timeout.symm, idle.symm, lifetime.symm, string⟩
  · rintro ⟨test, query, timeout, idle, lifetime, string⟩
    exact ⟨string, rfl, test.symm, query.symm, timeout.symm, idle.symm, lifetime.symm⟩

theorem resizes_of_refused {poolId newMaxSize : Nat} {before after : PoolTables}
    (same : after.pools = before.pools) : Resizes poolId newMaxSize before (-1, after) :=
  ⟨fun _ => same, fun zero => absurd zero (Int.negSucc_ne_zero 0)⟩

/-- A change of size does what it should exactly if it is refused early, or if the new pool can be
built and the old one had nothing set that the defaults do not give. -/
theorem resizes_iff (env : PoolEnvironment) (locked : Bool) (built : Except OdbcError Unit)
    (poolId newMaxSize : Nat) (tables : PoolTables) :
    Resizes poolId newMaxSize tables
        (tables.odbcPoolSetSize env locked built poolId newMaxSize) ↔
      RefusedEarly locked poolId newMaxSize tables ∨
        built = .ok () ∧ ∀ pool ∈ tables.pools.lookup poolId, SetByDefault env pool := by
  rw [PoolTables.odbcPoolSetSize, RefusedEarly]
  by_cases zero : newMaxSize = 0
  · rw [if_pos zero]
    exact iff_of_true (resizes_of_refused rfl) (.inl (.inl zero))
  rw [if_neg zero]
  cases locked with
  | false => exact iff_of_true (resizes_of_refused rfl) (.inl (.inr (.inl rfl)))
  | true =>
      rw [if_neg (not_not_intro rfl)]
      cases found : tables.pools.lookup poolId with
      | none => exact iff_of_true (resizes_of_refused rfl) (.inl (.inr (.inr (.inl rfl))))
      | some pool =>
          dsimp only
          by_cases busy : (tables.pooledConnections.anyValue fun pool => pool = poolId) = true
          · rw [if_pos busy]
            exact iff_of_true (resizes_of_refused rfl) (.inl (.inr (.inr (.inr busy))))
          rw [if_neg busy, or_iff_right (by simp [zero, busy])]
          cases built with
          | error error =>
              -- the pool is not there any more
              apply iff_of_false
              · intro resizes
                have kept : tables.pools.erase poolId = tables.pools :=
                  resizes.failed (Int.negSucc_ne_zero 0)
                have gone := AList.lookup_erase poolId tables.pools
                rw [kept, found] at gone
                cases gone
              · rintro ⟨⟨⟩, -⟩
          | ok =>
              have others : ∀ id ≠ poolId, ((tables.pools.erase poolId).insert poolId
                  (.new env pool.connectionString newMaxSize)).lookup id =
                    tables.pools.lookup id := fun id other =>
                (AList.lookup_insert_ne other).trans (AList.lookup_erase_ne other)
              have there := @AList.lookup_insert _ _ _ poolId
                (ConfiguredPool.new env pool.connectionString newMaxSize)
                (tables.pools.erase poolId)
              constructor
              · intro resizes
                obtain ⟨old, held, new, -⟩ := resizes.succeeded rfl
                cases found.symm.trans held
                refine ⟨rfl, fun pool' member => ?_⟩
                cases member
                exact new_eq_iff.mp (Option.some.inj (there.symm.trans new))
              · rintro ⟨-, byDefault⟩
                refine ⟨fun failed => absurd rfl failed, fun _ => ⟨pool, found, ?_, others⟩⟩
                exact there.trans (congrArg some (new_eq_iff.mpr (byDefault pool rfl)))

/-- One pool, for which nothing was set. -/
def onePool : PoolTables where
  pools := (∅ : HashMap Nat ConfiguredPool).insert 1 (.new {} "DSN=a".toList 4)

/-- The server is away for a moment, and the pool is lost. -/
theorem pool_is_lost : ¬ Resizes 1 8 onePool
    (onePool.odbcPoolSetSize {} true (.error (.poolError "timed out")) 1 8) := by
  intro resizes
  have kept : onePool.pools.erase 1 = onePool.pools := resizes.failed (Int.negSucc_ne_zero 0)
  have gone := AList.lookup_erase 1 onePool.pools
  rw [kept] at gone
  cases gone

end OdbcFast.Verification
