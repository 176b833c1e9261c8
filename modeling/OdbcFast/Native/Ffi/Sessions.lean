import OdbcFast.Native.Ffi.GlobalState

/-!
# Connections, pools and prepared statements

A prepared statement is kept under an identifier of its own together with the
connection it was prepared on. Connections that are opened directly and connections
checked out of a pool are kept apart, and a pool keeps the identifiers that were
released to hand them out again. Every call that takes a connection away takes its
statements along.

An identifier is the first free one from a counter of 32 bits.
-/

namespace OdbcFast.Native

open Wire

/-- A statement as it was handed over; it reaches the driver when it is executed. -/
structure StatementHandle where
  connId : Nat
  sql : String
  deriving DecidableEq, Repr

structure Sessions where
  connections : HashMap Nat Unit := ∅
  nextConnId : Nat := 1
  statements : HashMap Nat StatementHandle := ∅
  nextStmtId : Nat := 1
  pools : HashMap Nat Unit := ∅
  nextPoolId : Nat := 1
  /-- The pool each connection was checked out of. -/
  pooledConnections : HashMap Nat Nat := ∅
  /-- For each pool the released identifiers, the last one first. -/
  pooledFreeIds : HashMap Nat (List Nat) := ∅
  nextPooledConnId : Nat := 1000000

/-- The text behind a C string: what follows a zero byte is not seen. -/
def cText (text : String) : String := String.ofList (text.toList.takeWhile fun char => char.toNat ≠ 0)

namespace Sessions

/-- A connection that was opened or checked out. -/
def knows (connId : Nat) (sessions : Sessions) : Bool :=
  (sessions.connections.lookup connId).isSome || (sessions.pooledConnections.lookup connId).isSome

/-- The statements without those of the connection. -/
def dropStatements (connId : Nat) (sessions : Sessions) : Sessions :=
  { sessions with
    statements := sessions.statements.retain fun _ statement => statement.connId ≠ connId }

/-- `odbc_connect`, with whether the driver opened the connection; 0 when it is refused. -/
def odbcConnect (opened : Bool) (sessions : Sessions) : Nat × Sessions :=
  if ¬ opened then (0, sessions)
  else
    let (id, nextConnId) := allocateFrom (fun id => (sessions.connections.lookup id).isSome)
      maxIdAllocAttempts sessions.nextConnId
    let sessions := { sessions with nextConnId }
    match id with
    | none => (0, sessions)
    | some id => (id, { sessions with connections := sessions.connections.insert id () })

/-- `odbc_disconnect`, with whether the driver closed the connection without an error. -/
def odbcDisconnect (connId : Nat) (closed : Bool) (sessions : Sessions) : Bool × Sessions :=
  match sessions.connections.lookup connId with
  | none => (false, sessions)
  | some _ => (closed, { sessions.dropStatements connId with
      connections := sessions.connections.erase connId })

/-- `odbc_prepare`; 0 when it is refused. -/
def odbcPrepare (connId : Nat) (sql : String) (sessions : Sessions) : Nat × Sessions :=
  if ¬ sessions.knows connId then (0, sessions)
  else
    let (id, nextStmtId) := allocateFrom (fun id => (sessions.statements.lookup id).isSome)
      maxIdAllocAttempts sessions.nextStmtId
    let sessions := { sessions with nextStmtId }
    match id with
    | none => (0, sessions)
    | some id => (id, { sessions with
        statements := sessions.statements.insert id ⟨connId, cText sql⟩ })

def odbcCloseStatement (stmtId : Nat) (sessions : Sessions) : Bool × Sessions :=
  match sessions.statements.lookup stmtId with
  | none => (false, sessions)
  | some _ => (true, { sessions with statements := sessions.statements.erase stmtId })

def odbcClearAllStatements (sessions : Sessions) : Int × Sessions :=
  (0, { sessions with statements := ∅ })

/-- `odbc_pool_create`, with whether the pool could be built. -/
def odbcPoolCreate (built : Bool) (sessions : Sessions) : Nat × Sessions :=
  if ¬ built then (0, sessions)
  else
    let (id, nextPoolId) := allocateFrom (fun id => (sessions.pools.lookup id).isSome)
      maxIdAllocAttempts sessions.nextPoolId
    let sessions := { sessions with nextPoolId }
    match id with
    | none => (0, sessions)
    | some id => (id, { sessions with pools := sessions.pools.insert id () })

/-- The identifier of the next connection of a pool: one that was released, or a new one. -/
def nextPooledId (poolId : Nat) (sessions : Sessions) : Option Nat × Sessions :=
  match sessions.pooledFreeIds.lookup poolId with
  | some (id :: ids) =>
    (some id, { sessions with pooledFreeIds := sessions.pooledFreeIds.insert poolId ids })
  | _ =>
    let (id, nextPooledConnId) :=
      allocateFrom (fun id => (sessions.pooledConnections.lookup id).isSome)
        maxIdAllocAttempts sessions.nextPooledConnId
    (id, { sessions with nextPooledConnId })

/-- `odbc_pool_get_connection`, with whether the pool had a connection; 0 when it is refused. -/
def odbcPoolGetConnection (poolId : Nat) (available : Bool) (sessions : Sessions) :
    Nat × Sessions :=
  if (sessions.pools.lookup poolId).isNone ∨ ¬ available then (0, sessions)
  else
    match sessions.nextPooledId poolId with
    | (none, sessions) => (0, sessions)
    | (some id, sessions) => (id, { sessions with
        pooledConnections := sessions.pooledConnections.insert id poolId })

def odbcPoolReleaseConnection (connId : Nat) (sessions : Sessions) : Bool × Sessions :=
  match sessions.pooledConnections.lookup connId with
  | none => (false, sessions)
  | some poolId =>
    let free := (sessions.pooledFreeIds.lookup poolId).getD []
    (true, { sessions.dropStatements connId with
      pooledConnections := sessions.pooledConnections.erase connId
      pooledFreeIds := sessions.pooledFreeIds.insert poolId (connId :: free) })

/-- `odbc_pool_close`: the checked-out connections of the pool go first, each with its
statements. -/
def odbcPoolClose (poolId : Nat) (sessions : Sessions) : Bool × Sessions :=
  match sessions.pools.lookup poolId with
  | none => (false, sessions)
  | some _ => (true, { sessions with
      statements := sessions.statements.retain fun _ statement =>
        sessions.pooledConnections.lookup statement.connId ≠ some poolId
      pooledConnections := sessions.pooledConnections.retain fun _ pool => pool ≠ poolId
      pooledFreeIds := sessions.pooledFreeIds.erase poolId
      pools := sessions.pools.erase poolId })

/-! ## What the calls take away -/

/-- Exactly the taken statements go, and a connection that still has one stays. -/
structure Drops (taken : Nat → StatementHandle → Prop) (sessions next : Sessions) : Prop where
  statements : ∀ stmtId statement, next.statements.lookup stmtId = some statement ↔
    sessions.statements.lookup stmtId = some statement ∧ ¬ taken stmtId statement
  knows : ∀ stmtId statement, next.statements.lookup stmtId = some statement →
    sessions.knows statement.connId → next.knows statement.connId

theorem knows_iff {sessions : Sessions} {connId : Nat} :
    sessions.knows connId = true ↔
      (sessions.connections.lookup connId).isSome ∨
        (sessions.pooledConnections.lookup connId).isSome := by
  rw [knows, Bool.or_eq_true]

/-- A call that takes nothing and keeps every connection. -/
theorem drops_of_kept {sessions next : Sessions} (statements : next.statements = sessions.statements)
    (knows : ∀ connId, sessions.knows connId → next.knows connId) :
    Drops (fun _ _ => False) sessions next where
  statements := by
    intro stmtId statement
    rw [statements]
    simp
  knows := fun _ statement _ => knows statement.connId

theorem Drops.kept {taken : Nat → StatementHandle → Prop} {sessions middle next : Sessions}
    (first : Drops taken sessions middle) (second : Drops (fun _ _ => False) middle next) :
    Drops taken sessions next where
  statements := by
    intro stmtId statement
    rw [second.statements, not_false_eq_true, and_true, first.statements]
  knows := by
    intro stmtId statement there known
    have there' := ((second.statements stmtId statement).mp there).1
    exact second.knows stmtId statement there (first.knows stmtId statement there' known)

theorem drops_refl (sessions : Sessions) : Drops (fun _ _ => False) sessions sessions :=
  drops_of_kept rfl fun _ known => known

variable (sessions : Sessions)

theorem drops_odbcConnect (opened : Bool) :
    Drops (fun _ _ => False) sessions (sessions.odbcConnect opened).2 := by
  rw [odbcConnect]
  split_ifs
  · dsimp only
    split
    · exact drops_of_kept rfl fun _ known => known
    · refine drops_of_kept rfl fun connId known => ?_
      rw [knows_iff] at known ⊢
      exact known.imp HashMap.isSome_lookup_insert id
  · exact drops_refl sessions

theorem drops_odbcPoolCreate (built : Bool) :
    Drops (fun _ _ => False) sessions (sessions.odbcPoolCreate built).2 := by
  rw [odbcPoolCreate]
  split_ifs
  · dsimp only
    split <;> exact drops_of_kept rfl fun _ known => known
  · exact drops_refl sessions

theorem nextPooledId_kept (poolId : Nat) :
    (sessions.nextPooledId poolId).2.statements = sessions.statements ∧
      (sessions.nextPooledId poolId).2.connections = sessions.connections ∧
      (sessions.nextPooledId poolId).2.pooledConnections = sessions.pooledConnections := by
  rw [nextPooledId]
  split <;> exact ⟨rfl, rfl, rfl⟩

theorem drops_odbcPoolGetConnection (poolId : Nat) (available : Bool) :
    Drops (fun _ _ => False) sessions (sessions.odbcPoolGetConnection poolId available).2 := by
  obtain ⟨statements, connections, pooledConnections⟩ := sessions.nextPooledId_kept poolId
  rw [odbcPoolGetConnection]
  split_ifs
  · exact drops_refl sessions
  · split
    · next allocated =>
        rw [allocated] at statements connections pooledConnections
        refine drops_of_kept statements fun connId known => ?_
        rwa [knows_iff, connections, pooledConnections, ← knows_iff]
    · next allocated =>
        rw [allocated] at statements connections pooledConnections
        refine drops_of_kept statements fun connId known => ?_
        rw [knows_iff] at known ⊢
        refine known.imp (fun there => ?_) (fun there => HashMap.isSome_lookup_insert ?_)
        · exact connections ▸ there
        · exact pooledConnections ▸ there

/-- A connection is taken away, from one of the two maps, with its statements. -/
theorem drops_dropStatements {connId : Nat} {next : Sessions}
    (statements : next.statements = (sessions.dropStatements connId).statements)
    (knows : ∀ connId', connId' ≠ connId → sessions.knows connId' → next.knows connId') :
    Drops (fun _ statement => statement.connId = connId) sessions next where
  statements := by
    intro stmtId statement
    rw [statements, dropStatements, HashMap.lookup_retain_eq_some, decide_eq_true_iff]
  knows := by
    intro stmtId statement found
    rw [statements, dropStatements, HashMap.lookup_retain_eq_some, decide_eq_true_iff] at found
    exact knows statement.connId found.2

theorem drops_odbcDisconnect (connId : Nat) (closed : Bool) :
    Drops (fun _ statement => statement.connId = connId ∧ (sessions.connections.lookup connId).isSome)
      sessions (sessions.odbcDisconnect connId closed).2 := by
  rw [odbcDisconnect]
  split
  · next missing =>
      simp only [missing, Option.isSome_none, Bool.false_eq_true, and_false]
      exact drops_refl sessions
  · next found =>
      simp only [found, Option.isSome_some, and_true]
      refine drops_dropStatements sessions rfl fun connId' other known => ?_
      rw [knows_iff] at known ⊢
      refine known.imp (fun there => ?_) id
      dsimp only
      rwa [AList.lookup_erase_ne other]

theorem odbcDisconnect_fst {connId : Nat} (closed : Bool)
    (opened : (sessions.connections.lookup connId).isSome) :
    (sessions.odbcDisconnect connId closed).1 = closed := by
  obtain ⟨_, found⟩ := Option.isSome_iff_exists.mp opened
  rw [odbcDisconnect, found]

theorem drops_odbcPoolReleaseConnection (connId : Nat) :
    Drops
      (fun _ statement => statement.connId = connId ∧
        (sessions.pooledConnections.lookup connId).isSome)
      sessions (sessions.odbcPoolReleaseConnection connId).2 := by
  rw [odbcPoolReleaseConnection]
  split
  · next missing =>
      simp only [missing, Option.isSome_none, Bool.false_eq_true, and_false]
      exact drops_refl sessions
  · next found =>
      simp only [found, Option.isSome_some, and_true]
      refine drops_dropStatements sessions rfl fun connId' other known => ?_
      rw [knows_iff] at known ⊢
      refine known.imp id (fun there => ?_)
      dsimp only
      rwa [AList.lookup_erase_ne other]

theorem pooled_of_released {connId : Nat}
    (released : (sessions.odbcPoolReleaseConnection connId).1 = true) :
    (sessions.pooledConnections.lookup connId).isSome := by
  rw [odbcPoolReleaseConnection] at released
  split at released
  · cases released
  · next found => exact Option.isSome_iff_exists.mpr ⟨_, found⟩

theorem drops_odbcPoolClose (poolId : Nat) :
    Drops
      (fun _ statement => sessions.pooledConnections.lookup statement.connId = some poolId ∧
        (sessions.pools.lookup poolId).isSome)
      sessions (sessions.odbcPoolClose poolId).2 := by
  rw [odbcPoolClose]
  split
  · next missing =>
      simp only [missing, Option.isSome_none, Bool.false_eq_true, and_false]
      exact drops_refl sessions
  · next found =>
      simp only [found, Option.isSome_some, and_true]
      constructor
      · intro stmtId statement
        rw [HashMap.lookup_retain_eq_some, decide_eq_true_iff]
      · intro stmtId statement kept known
        rw [HashMap.lookup_retain_eq_some, decide_eq_true_iff] at kept
        rw [knows_iff] at known ⊢
        refine known.imp id (fun there => ?_)
        -- a checked-out connection of another pool stays
        obtain ⟨pool, pooled⟩ := Option.isSome_iff_exists.mp there
        refine Option.isSome_iff_exists.mpr ⟨pool, HashMap.lookup_retain_eq_some.mpr ⟨pooled, ?_⟩⟩
        rw [decide_eq_true_iff]
        rintro rfl
        exact kept.2 pooled

theorem drops_odbcClearAllStatements :
    Drops (fun _ _ => True) sessions sessions.odbcClearAllStatements.2 where
  statements := by
    intro stmtId statement
    rw [odbcClearAllStatements, AList.lookup_empty]
    simp
  knows := by
    intro stmtId statement found
    rw [odbcClearAllStatements, AList.lookup_empty] at found
    cases found

theorem drops_odbcCloseStatement (stmtId : Nat) :
    Drops (fun stmtId' _ => stmtId' = stmtId) sessions (sessions.odbcCloseStatement stmtId).2 := by
  rw [odbcCloseStatement]
  split
  · next missing =>
      refine ⟨fun stmtId' statement => ?_, fun _ _ _ known => known⟩
      refine (and_iff_left_of_imp ?_).symm
      rintro found rfl
      cases missing.symm.trans found
  · refine ⟨fun stmtId' statement => ?_, fun _ _ _ known => known⟩
    rw [HashMap.lookup_erase_eq_some, and_comm]

/-- A prepare that is answered stores the text under an identifier that was free. -/
theorem odbcPrepare_spec {connId : Nat} {sql : String}
    (accepted : (sessions.odbcPrepare connId sql).1 ≠ 0) :
    sessions.knows connId ∧
      sessions.statements.lookup (sessions.odbcPrepare connId sql).1 = none ∧
      (sessions.odbcPrepare connId sql).2.statements =
        sessions.statements.insert (sessions.odbcPrepare connId sql).1 ⟨connId, cText sql⟩ ∧
      ∀ connId', (sessions.odbcPrepare connId sql).2.knows connId' = sessions.knows connId' := by
  generalize prepared : sessions.odbcPrepare connId sql = answer at accepted ⊢
  obtain ⟨stmtId, next⟩ := answer
  rw [odbcPrepare] at prepared
  split_ifs at prepared with known
  · dsimp only at prepared
    split at prepared
    · cases prepared
      cases accepted rfl
    · next id allocated =>
        cases prepared
        obtain ⟨-, free⟩ := allocateFrom_spec allocated
        exact ⟨known, by simpa using free, rfl, fun _ => rfl⟩
  · cases prepared
    cases accepted rfl

/-- Statements are only added, on connections that are known. -/
structure Grows (sessions next : Sessions) : Prop where
  statements : ∀ stmtId statement, sessions.statements.lookup stmtId = some statement →
    next.statements.lookup stmtId = some statement
  added : ∀ stmtId statement, next.statements.lookup stmtId = some statement →
    sessions.statements.lookup stmtId = some statement ∨ sessions.knows statement.connId
  knows : ∀ connId, next.knows connId = sessions.knows connId

theorem grows_of_kept {next : Sessions} (statements : next.statements = sessions.statements)
    (knows : ∀ connId, next.knows connId = sessions.knows connId) : Grows sessions next where
  statements := by
    intro stmtId statement found
    rwa [statements]
  added := by
    intro stmtId statement found
    rw [statements] at found
    exact .inl found
  knows := knows

theorem grows_odbcPrepare (connId : Nat) (sql : String) :
    Grows sessions (sessions.odbcPrepare connId sql).2 := by
  by_cases refused : (sessions.odbcPrepare connId sql).1 = 0
  · rw [odbcPrepare] at refused ⊢
    split_ifs at refused ⊢
    · dsimp only at refused ⊢
      split at refused
      · exact grows_of_kept sessions rfl fun _ => rfl
      · next allocated => cases (allocateFrom_spec allocated).1 refused
    · exact grows_of_kept sessions rfl fun _ => rfl
  · obtain ⟨known, free, inserted, same⟩ := sessions.odbcPrepare_spec refused
    refine ⟨?_, ?_, same⟩
    · intro stmtId statement found
      rw [inserted, HashMap.lookup_insert_eq_some]
      refine .inr ⟨?_, found⟩
      rintro rfl
      cases free.symm.trans found
    · intro stmtId statement found
      rw [inserted, HashMap.lookup_insert_eq_some] at found
      obtain ⟨-, rfl⟩ | ⟨-, found⟩ := found
      · exact .inr known
      · exact .inl found

end Sessions

end OdbcFast.Native
