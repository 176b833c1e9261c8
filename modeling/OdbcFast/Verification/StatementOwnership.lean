import OdbcFast.Dart.RepositorySessions

/-!
# Statements and their connections

The repository decides from two maps of its own whether a statement may be used on a
connection. Several calls take the native statements of a connection away, or map its
text to another native connection, without touching these maps; a statement that is
still listed is then accepted although it is gone, or belongs to a connection that the
text no longer stands for. Where no such call meets a listed statement, everything the
repository accepts is alive, belongs to the connection and has the order of names of
the SQL it was prepared from.
-/

namespace OdbcFast.Verification

open Wire Dart SessionCalls
open Native (Sessions StatementHandle cText)

variable {system next : SessionCalls.System} {log : List SessionCalls.Output}
  {output : SessionCalls.Output}

/-! ## What is claimed -/

/-- What the output tells about the statement. -/
def preparation? (stmtId : Nat) : SessionCalls.Output → Option Preparation
  | .prepared stmtId' preparation => if stmtId' = stmtId then some preparation else none
  | _ => none

/-- The last preparation that returned the statement. -/
def preparedFrom (stmtId : Nat) : List SessionCalls.Output → Option Preparation
  | [] => none
  | output :: log => (preparedFrom stmtId log).or (preparation? stmtId output)

/-- Every method that uses a statement lets it pass. -/
def Accepts (repository : Repository) (connectionId : String) (stmtId : Nat) : Prop :=
  ∀ operationName, repository.validateStatementOwnership connectionId stmtId operationName = none

/-- The statement is alive, was prepared on the native connection, and the stored order is that of
its SQL. -/
def LiveOn (log : List SessionCalls.Output) (system : SessionCalls.System) (stmtId nativeId : Nat) :
    Prop :=
  ∃ statement preparation, system.sessions.statements.lookup stmtId = some statement ∧
    statement.connId = nativeId ∧ system.sessions.knows nativeId ∧
    preparedFrom stmtId log = some preparation ∧ statement.sql = cText preparation.text ∧
    system.repository.namedParamOrderByStmtId.lookup stmtId = preparation.order

/-- What the repository accepts for a connection is alive on the native connection that the
text is mapped to. -/
def AcceptsLive (log : List SessionCalls.Output) (system : SessionCalls.System) : Prop :=
  ∀ connectionId stmtId, Accepts system.repository connectionId stmtId →
    ∃ nativeId, system.repository.connectionIds.lookup connectionId = some nativeId ∧
      LiveOn log system stmtId nativeId

/-! ## The rule -/

/-- The repository lists a statement for the connection. -/
def Lists (repository : Repository) (connectionId : String) : Prop :=
  ∃ stmtId, repository.statementConnectionByStmtId.lookup stmtId = some connectionId

/-- No statement is listed for another connection that is mapped to the same native one. -/
def Alone (repository : Repository) (connectionId : String) : Prop :=
  ∀ nativeId other, repository.connectionIds.lookup connectionId = some nativeId →
    repository.connectionIds.lookup other = some nativeId → other ≠ connectionId →
      ¬ Lists repository other

/-- The native connection of the text is open under the given map. -/
def OpenIn {α : Type} (opened : HashMap Nat α) (repository : Repository) (connectionId : String) :
    Prop :=
  ∃ nativeId, repository.connectionIds.lookup connectionId = some nativeId ∧
    (opened.lookup nativeId).isSome

/-- A call that takes a connection's statements away, or maps its text anew, meets no statement
that stays listed. -/
def SessionRule : SessionCalls.Event → SessionCalls.System → Prop
  | .connect delivery opened _ _ _, system => delivery = .served →
      ¬ Lists system.repository (toString (system.sessions.odbcConnect opened).1)
  | .disconnect delivery closed _ connectionId, system => delivery.performed →
      OpenIn system.sessions.connections system.repository connectionId →
        (delivery = .served ∧ closed = true ∨ ¬ Lists system.repository connectionId) ∧
          Alone system.repository connectionId
  | .reconnect disconnecting _ _ _ _ connectionId, system =>
      (∃ thrown, disconnecting = .undelivered thrown) ∨
        ¬ Lists system.repository connectionId ∧ Alone system.repository connectionId
  | .poolGetConnection delivery available _ poolId, system => delivery = .served →
      ¬ Lists system.repository
        (toString (system.sessions.odbcPoolGetConnection poolId available).1)
  | .poolReleaseConnection delivery _ connectionId, system => delivery.performed →
      OpenIn system.sessions.pooledConnections system.repository connectionId →
        ¬ Lists system.repository connectionId ∧ Alone system.repository connectionId
  | .poolClose delivery _ poolId, system => delivery.performed →
      (system.sessions.pools.lookup poolId).isSome → ∀ connectionId nativeId,
        system.repository.connectionIds.lookup connectionId = some nativeId →
        system.sessions.pooledConnections.lookup nativeId = some poolId →
          ¬ Lists system.repository connectionId
  | .clearAllStatements delivery _, system => delivery.performed →
      ∀ connectionId, ¬ Lists system.repository connectionId
  | _, _ => True

/-! ## The invariant -/

/-- What is listed is alive; names are stored only for what is listed; no native statement has
lost its connection. -/
structure OwnershipInv (log : List SessionCalls.Output) (system : SessionCalls.System) : Prop where
  listed : ∀ stmtId connectionId,
    system.repository.statementConnectionByStmtId.lookup stmtId = some connectionId →
      ∃ nativeId, system.repository.connectionIds.lookup connectionId = some nativeId ∧
        LiveOn log system stmtId nativeId
  unlisted : ∀ stmtId, system.repository.statementConnectionByStmtId.lookup stmtId = none →
    system.repository.namedParamOrderByStmtId.lookup stmtId = none
  connected : ∀ stmtId statement, system.sessions.statements.lookup stmtId = some statement →
    system.sessions.knows statement.connId

theorem ownershipInv_initial : OwnershipInv [] {} where
  listed := by rintro _ _ ⟨⟩
  unlisted := fun _ _ => rfl
  connected := by rintro _ _ ⟨⟩

theorem accepts_iff {repository : Repository} {connectionId : String} {stmtId : Nat} :
    Accepts repository connectionId stmtId ↔
      (repository.connectionIds.lookup connectionId).isSome ∧
        repository.statementConnectionByStmtId.lookup stmtId = some connectionId := by
  constructor
  · intro accepts
    have passed := accepts "executePrepared"
    rw [Repository.validateStatementOwnership] at passed
    split_ifs at passed with missing
    split at passed
    · cases passed
    · next owner found =>
        split_ifs at passed with other
        rw [not_not] at other
        exact ⟨by simpa [Option.isSome_iff_ne_none] using missing, other ▸ found⟩
  · rintro ⟨mapped, found⟩ operationName
    rw [Repository.validateStatementOwnership, if_neg (by simpa [Option.isSome_iff_ne_none] using mapped), found]
    exact if_neg (not_not.mpr rfl)

theorem OwnershipInv.acceptsLive (inv : OwnershipInv log system) : AcceptsLive log system := by
  intro connectionId stmtId accepts
  exact inv.listed stmtId connectionId (accepts_iff.mp accepts).2

theorem preparedFrom_append (stmtId : Nat) :
    preparedFrom stmtId (log ++ [output]) =
      (preparation? stmtId output).or (preparedFrom stmtId log) := by
  induction log with
  | nil => cases h : preparation? stmtId output <;> simp [preparedFrom, h]
  | cons first log ih =>
      rw [List.cons_append, preparedFrom, ih, preparedFrom]
      cases preparation? stmtId output <;> rfl

namespace OwnershipInv

/-- A call keeps the invariant when nothing new is listed and whatever stays listed keeps its
mapping, its order and its native statement. -/
theorem keep {taken : Nat → StatementHandle → Prop} (inv : OwnershipInv log system)
    (drops : Sessions.Drops taken system.sessions next.sessions)
    (stays : ∀ stmtId connectionId,
      next.repository.statementConnectionByStmtId.lookup stmtId = some connectionId →
        system.repository.statementConnectionByStmtId.lookup stmtId = some connectionId ∧
        next.repository.connectionIds.lookup connectionId =
          system.repository.connectionIds.lookup connectionId ∧
        next.repository.namedParamOrderByStmtId.lookup stmtId =
          system.repository.namedParamOrderByStmtId.lookup stmtId)
    (spared : ∀ stmtId connectionId statement,
      next.repository.statementConnectionByStmtId.lookup stmtId = some connectionId →
        system.repository.connectionIds.lookup connectionId = some statement.connId →
          ¬ taken stmtId statement)
    (unlisted : ∀ stmtId, next.repository.statementConnectionByStmtId.lookup stmtId = none →
      next.repository.namedParamOrderByStmtId.lookup stmtId = none)
    (quiet : ∀ stmtId, preparation? stmtId output = none) :
    OwnershipInv (log ++ [output]) next where
  listed := by
    intro stmtId connectionId found
    obtain ⟨found', sameMapping, sameOrder⟩ := stays stmtId connectionId found
    obtain ⟨nativeId, mapped, statement, preparation, there, rfl, known, prepared, text, order⟩ :=
      inv.listed stmtId connectionId found'
    have there' : next.sessions.statements.lookup stmtId = some statement :=
      (drops.statements stmtId statement).mpr
        ⟨there, spared stmtId connectionId statement found mapped⟩
    refine ⟨statement.connId, sameMapping.trans mapped, statement, preparation, there', rfl,
      drops.knows stmtId statement there' known, ?_, text, sameOrder.trans order⟩
    rw [preparedFrom_append, quiet, Option.none_or, prepared]
  unlisted := unlisted
  connected := by
    intro stmtId statement there
    obtain ⟨before, -⟩ := (drops.statements stmtId statement).mp there
    exact drops.knows stmtId statement there (inv.connected stmtId statement before)

/-- A call that leaves the statements' maps alone. -/
theorem keepMaps {taken : Nat → StatementHandle → Prop} (inv : OwnershipInv log system)
    (drops : Sessions.Drops taken system.sessions next.sessions)
    (owners : next.repository.statementConnectionByStmtId =
      system.repository.statementConnectionByStmtId)
    (orders : next.repository.namedParamOrderByStmtId = system.repository.namedParamOrderByStmtId)
    (mapping : ∀ connectionId, Lists system.repository connectionId →
      next.repository.connectionIds.lookup connectionId =
        system.repository.connectionIds.lookup connectionId)
    (spared : ∀ stmtId connectionId statement,
      system.repository.statementConnectionByStmtId.lookup stmtId = some connectionId →
        system.repository.connectionIds.lookup connectionId = some statement.connId →
          ¬ taken stmtId statement)
    (quiet : ∀ stmtId, preparation? stmtId output = none) :
    OwnershipInv (log ++ [output]) next := by
  apply inv.keep drops
  · intro stmtId connectionId found
    rw [owners] at found
    exact ⟨found, mapping connectionId ⟨stmtId, found⟩, by rw [orders]⟩
  · rw [owners]
    exact spared
  · rw [owners, orders]
    exact inv.unlisted
  · exact quiet

/-! ### Connections -/

/-- A new entry for a text that has no statements. -/
theorem mapping_insert {repository : Repository} {ids : HashMap String Nat} {connectionId : String}
    {connId : Nat} (free : ¬ Lists repository connectionId) (other : String)
    (listed : Lists repository other) :
    (ids.insert connectionId connId).lookup other = ids.lookup other := by
  apply AList.lookup_insert_ne
  rintro rfl
  exact free listed

theorem connect {delivery : Delivery} {opened : Bool} {errors : NativeErrors}
    {connectionString : String} {options : Option ConnectionOptions} (inv : OwnershipInv log system)
    (rule : SessionRule (.connect delivery opened errors connectionString options) system)
    (stepped : step (.connect delivery opened errors connectionString options) system =
      some (next, output)) : OwnershipInv (log ++ [output]) next := by
  have drops : Sessions.Drops (fun _ _ => False) system.sessions next.sessions := by
    obtain ⟨rfl, -⟩ := Prod.mk.inj (Option.some.inj stepped)
    dsimp only
    split
    · exact Sessions.drops_refl _
    · exact delivery.drops_request_kept 0 (system.sessions.drops_odbcConnect opened)
  obtain ⟨rfl, rfl⟩ := Prod.mk.inj (Option.some.inj stepped)
  obtain same | ⟨connId, nonzero, answered, same⟩ := system.repository.connect_snd
    (delivery.request 0 (Sessions.odbcConnect opened) system.sessions).1 errors connectionString
    options
  · refine inv.keepMaps drops ?_ ?_ ?_ (fun _ _ _ _ _ => id) (fun _ => rfl)
    all_goals simp only [same, implies_true]
  · -- only a call that was served is answered with an identifier
    obtain ⟨rfl, rfl⟩ | ⟨-, rfl⟩ := Delivery.request_eq_ok answered
    · refine inv.keepMaps drops ?_ ?_ ?_ (fun _ _ _ _ _ => id) (fun _ => rfl)
      · simp only [same, Repository.remember]
      · simp only [same, Repository.remember]
      · simp only [same, Repository.remember]
        exact mapping_insert (rule rfl)
    · cases nonzero rfl

/-- Taken with the native connection of the text, when that is open and the call is done. -/
def TakenBy {α : Type} (opened : HashMap Nat α) (performed : Bool) (repository : Repository)
    (connectionId : String) (_ : Nat) (statement : StatementHandle) : Prop :=
  ∃ nativeId, repository.connectionIds.lookup connectionId = some nativeId ∧ performed = true ∧
    statement.connId = nativeId ∧ (opened.lookup nativeId).isSome

section Taken

variable {α : Type} {opened : HashMap Nat α} {performed : Bool} {repository : Repository}
  {connectionId other : String} {stmtId : Nat} {statement : StatementHandle}

theorem TakenBy.openIn
    (taken : TakenBy opened performed repository connectionId stmtId statement) :
    performed = true ∧ OpenIn opened repository connectionId := by
  obtain ⟨nativeId, mapped, done, -, there⟩ := taken
  exact ⟨done, nativeId, mapped, there⟩

/-- A listed statement that is taken is listed for the connection itself. -/
theorem TakenBy.owner (taken : TakenBy opened performed repository connectionId stmtId statement)
    (alone : Alone repository connectionId)
    (found : repository.statementConnectionByStmtId.lookup stmtId = some other)
    (mapped : repository.connectionIds.lookup other = some statement.connId) :
    other = connectionId := by
  obtain ⟨nativeId, mapped', -, rfl, -⟩ := taken
  by_contra different
  exact alone _ other mapped' mapped different ⟨stmtId, found⟩

end Taken

theorem disconnect {delivery : Delivery} {closed : Bool} {errors : NativeErrors}
    {connectionId : String} (inv : OwnershipInv log system)
    (rule : SessionRule (.disconnect delivery closed errors connectionId) system)
    (stepped : step (.disconnect delivery closed errors connectionId) system =
      some (next, output)) : OwnershipInv (log ++ [output]) next := by
  obtain ⟨rfl, rfl⟩ := Prod.mk.inj (Option.some.inj stepped)
  let ask (nativeId : Nat) :=
    delivery.request false (Sessions.odbcDisconnect nativeId closed) system.sessions
  have drops : Sessions.Drops
      (TakenBy system.sessions.connections delivery.performed system.repository connectionId)
      system.sessions (system.sessionsAfter connectionId ask) :=
    System.drops_sessionsAfter connectionId fun nativeId =>
      delivery.drops_request false (system.sessions.drops_odbcDisconnect nativeId closed)
  obtain ⟨same, unanswered⟩ | ⟨nativeId, mapped, answered, same⟩ :=
    system.repository.disconnect_snd (fun id => (ask id).1) errors connectionId
  · refine inv.keepMaps drops ?_ ?_ ?_ ?_ (fun _ => rfl)
    · rw [same]
    · rw [same]
    · intro _ _
      rw [same]
    · intro stmtId other statement found mapped taken
      obtain ⟨done, opened⟩ := taken.openIn
      obtain ⟨⟨rfl, rfl⟩ | free, alone⟩ := rule done opened
      · -- then the disconnect would have been answered with success
        obtain ⟨nativeId, mapped', there⟩ := opened
        exact unanswered nativeId mapped'
          (congrArg Except.ok (system.sessions.odbcDisconnect_fst true there))
      · obtain rfl := taken.owner alone found mapped
        exact free ⟨stmtId, found⟩
  · have removed := congrArg Repository.statementConnectionByStmtId same
    have orders := congrArg Repository.namedParamOrderByStmtId same
    have ids := congrArg Repository.connectionIds same
    rw [Repository.removeStatements_eq] at removed orders ids
    dsimp only [Repository.forget] at removed orders ids
    -- what stays listed is listed for another connection
    have stays {stmtId : Nat} {other : String}
        (found : (system.repository.disconnect (fun id => (ask id).1) errors
          connectionId).2.statementConnectionByStmtId.lookup stmtId = some other) :
        stmtId ∉ system.repository.statementsOf connectionId ∧
          system.repository.statementConnectionByStmtId.lookup stmtId = some other := by
      rw [removed, HashMap.lookup_foldl_erase] at found
      split_ifs at found with listed
      exact ⟨listed, found⟩
    have different {stmtId : Nat} {other : String}
        (found : (system.repository.disconnect (fun id => (ask id).1) errors
          connectionId).2.statementConnectionByStmtId.lookup stmtId = some other) :
        other ≠ connectionId := by
      rintro rfl
      exact (stays found).1 (Repository.mem_statementsOf.mpr (stays found).2)
    refine inv.keep drops ?_ ?_ ?_ (fun _ => rfl)
    · intro stmtId other found
      obtain ⟨unlisted, found'⟩ := stays found
      refine ⟨found', ?_, ?_⟩
      · dsimp only
        rw [ids, AList.lookup_erase_ne (different found)]
      · dsimp only
        rw [orders, HashMap.lookup_foldl_erase, if_neg unlisted]
    · intro stmtId other statement found mapped' taken
      obtain ⟨done, opened⟩ := taken.openIn
      exact different found (taken.owner (rule done opened).2 (stays found).2 mapped')
    · intro stmtId missing
      dsimp only at missing ⊢
      rw [removed, HashMap.lookup_foldl_erase] at missing
      rw [orders, HashMap.lookup_foldl_erase]
      split_ifs at missing ⊢
      · rfl
      · exact inv.unlisted stmtId missing

theorem reconnect {disconnecting connecting : Delivery} {closed opened : Bool}
    {errors : NativeErrors} {connectionId : String} (inv : OwnershipInv log system)
    (rule : SessionRule (.reconnect disconnecting connecting closed opened errors connectionId)
      system)
    (stepped : step (.reconnect disconnecting connecting closed opened errors connectionId) system =
      some (next, output)) : OwnershipInv (log ++ [output]) next := by
  rw [step] at stepped
  split at stepped
  · cases stepped
  · next options connectionString _ =>
      obtain ⟨rfl, rfl⟩ := Prod.ext_iff.mp (Option.some.inj stepped)
      let ask (nativeId : Nat) :=
        disconnecting.request false (Sessions.odbcDisconnect nativeId closed) system.sessions
      have drops : Sessions.Drops
          (TakenBy system.sessions.connections disconnecting.performed system.repository
            connectionId)
          system.sessions (system.reconnect disconnecting connecting closed opened errors
            connectionId connectionString options).1.sessions := by
        have first := System.drops_sessionsAfter connectionId fun nativeId =>
          disconnecting.drops_request false
            (system.sessions.drops_odbcDisconnect nativeId closed)
        rw [System.reconnect]
        dsimp only
        split_ifs
        · exact first.kept (connecting.drops_request_kept 0 (Sessions.drops_odbcConnect _ opened))
        · exact first
      obtain ⟨unchanged, owners, orders, others⟩ := system.repository.reconnect_snd
        ⟨fun id => (ask id).1, (connecting.request 0 (Sessions.odbcConnect opened)
          (system.sessionsAfter connectionId ask)).1, errors⟩ connectionId connectionString
        (some options)
      refine inv.keepMaps drops owners orders ?_ ?_ (fun _ => rfl)
      · rintro other ⟨stmtId, found⟩
        by_cases same : other = connectionId
        · -- a listed connection is left alone only by a disconnect that throws
          subst same
          obtain ⟨thrown, rfl⟩ | ⟨free, -⟩ := rule
          · obtain ⟨nativeId, mapped, -⟩ := inv.listed stmtId other found
            obtain same | answers := unchanged
            · exact congrArg (fun repository => repository.connectionIds.lookup other) same
            · cases answers nativeId thrown mapped rfl
          · cases free ⟨stmtId, found⟩
        · exact others other same
      · intro stmtId other statement found mapped taken
        obtain ⟨thrown, rfl⟩ | ⟨free, alone⟩ := rule
        · cases taken.openIn.1
        · obtain rfl := taken.owner alone found mapped
          exact free ⟨stmtId, found⟩

/-! ### Pools -/

theorem poolGetConnection {delivery : Delivery} {available : Bool} {errors : NativeErrors}
    {poolId : Nat} (inv : OwnershipInv log system)
    (rule : SessionRule (.poolGetConnection delivery available errors poolId) system)
    (stepped : step (.poolGetConnection delivery available errors poolId) system =
      some (next, output)) : OwnershipInv (log ++ [output]) next := by
  obtain ⟨rfl, rfl⟩ := Prod.mk.inj (Option.some.inj stepped)
  have drops := delivery.drops_request_kept 0
    (system.sessions.drops_odbcPoolGetConnection poolId available)
  obtain same | ⟨connId, nonzero, answered, same⟩ := system.repository.poolGetConnection_snd
    (delivery.request 0 (Sessions.odbcPoolGetConnection poolId available) system.sessions).1 errors
  · refine inv.keepMaps drops ?_ ?_ ?_ (fun _ _ _ _ _ => id) (fun _ => rfl)
    all_goals simp only [same, implies_true]
  · obtain ⟨rfl, rfl⟩ | ⟨-, rfl⟩ := Delivery.request_eq_ok answered
    · refine inv.keepMaps drops ?_ ?_ ?_ (fun _ _ _ _ _ => id) (fun _ => rfl)
      · simp only [same]
      · simp only [same]
      · simp only [same]
        exact mapping_insert (rule rfl)
    · cases nonzero rfl

theorem poolReleaseConnection {delivery : Delivery} {errors : NativeErrors} {connectionId : String}
    (inv : OwnershipInv log system)
    (rule : SessionRule (.poolReleaseConnection delivery errors connectionId) system)
    (stepped : step (.poolReleaseConnection delivery errors connectionId) system =
      some (next, output)) : OwnershipInv (log ++ [output]) next := by
  obtain ⟨rfl, rfl⟩ := Prod.mk.inj (Option.some.inj stepped)
  let ask (nativeId : Nat) :=
    delivery.request false (Sessions.odbcPoolReleaseConnection nativeId) system.sessions
  have drops : Sessions.Drops
      (TakenBy system.sessions.pooledConnections delivery.performed system.repository connectionId)
      system.sessions (system.sessionsAfter connectionId ask) :=
    System.drops_sessionsAfter connectionId fun nativeId =>
      delivery.drops_request false (system.sessions.drops_odbcPoolReleaseConnection nativeId)
  have spared : ∀ stmtId other statement,
      system.repository.statementConnectionByStmtId.lookup stmtId = some other →
        system.repository.connectionIds.lookup other = some statement.connId →
          ¬ TakenBy system.sessions.pooledConnections delivery.performed system.repository
            connectionId stmtId statement := by
    intro stmtId other statement found mapped taken
    obtain ⟨done, opened⟩ := taken.openIn
    obtain ⟨free, alone⟩ := rule done opened
    obtain rfl := taken.owner alone found mapped
    exact free ⟨stmtId, found⟩
  obtain same | ⟨nativeId, mapped, answered, same⟩ :=
    system.repository.poolReleaseConnection_snd (fun id => (ask id).1) errors connectionId
  · refine inv.keepMaps drops ?_ ?_ ?_ spared (fun _ => rfl)
    · rw [same]
    · rw [same]
    · intro _ _
      rw [same]
  · refine inv.keepMaps drops ?_ ?_ ?_ spared (fun _ => rfl)
    · rw [same]
    · rw [same]
    · intro other listed
      rw [same]
      apply AList.lookup_erase_ne
      rintro rfl
      obtain ⟨rfl, released⟩ | ⟨-, ⟨⟩⟩ := Delivery.request_eq_ok answered
      exact (rule rfl ⟨nativeId, mapped, system.sessions.pooled_of_released released⟩).1 listed

theorem poolClose {delivery : Delivery} {errors : NativeErrors} {poolId : Nat}
    (inv : OwnershipInv log system)
    (rule : SessionRule (.poolClose delivery errors poolId) system)
    (stepped : step (.poolClose delivery errors poolId) system = some (next, output)) :
    OwnershipInv (log ++ [output]) next := by
  obtain ⟨rfl, rfl⟩ := Prod.mk.inj (Option.some.inj stepped)
  refine inv.keepMaps (delivery.drops_request false (system.sessions.drops_odbcPoolClose poolId)) rfl rfl
    (fun _ _ => rfl) ?_ (fun _ => rfl)
  rintro stmtId connectionId statement found mapped ⟨done, pooled, opened⟩
  exact rule done opened connectionId statement.connId mapped pooled ⟨stmtId, found⟩

/-! ### Statements -/

theorem clearAllStatements {delivery : Delivery} {errors : NativeErrors}
    (inv : OwnershipInv log system)
    (rule : SessionRule (.clearAllStatements delivery errors) system)
    (stepped : step (.clearAllStatements delivery errors) system = some (next, output)) :
    OwnershipInv (log ++ [output]) next := by
  obtain ⟨rfl, rfl⟩ := Prod.mk.inj (Option.some.inj stepped)
  refine inv.keepMaps (delivery.drops_request (-1) system.sessions.drops_odbcClearAllStatements) rfl rfl
    (fun _ _ => rfl) ?_ (fun _ => rfl)
  rintro stmtId connectionId statement found - ⟨done, -⟩
  exact rule done connectionId ⟨stmtId, found⟩

theorem closeStatement {delivery : Delivery} {errors : NativeErrors} {connectionId : String}
    {stmtId : Nat} (inv : OwnershipInv log system)
    (stepped : step (.closeStatement delivery errors connectionId stmtId) system =
      some (next, output)) : OwnershipInv (log ++ [output]) next := by
  obtain ⟨rfl, rfl⟩ := Prod.mk.inj (Option.some.inj stepped)
  rw [Repository.closeStatement]
  cases system.repository.validateStatementOwnership connectionId stmtId "closeStatement" with
  | some error =>
      exact inv.keepMaps (Sessions.drops_refl _) rfl rfl (fun _ _ => rfl) (fun _ _ _ _ _ => id)
        (fun _ => rfl)
  | none =>
      refine inv.keep (delivery.drops_request false (system.sessions.drops_odbcCloseStatement stmtId))
        ?_ ?_ ?_ (fun _ => rfl)
      · intro stmtId' connectionId' found
        obtain ⟨different, found⟩ := HashMap.lookup_erase_eq_some.mp found
        exact ⟨found, rfl, AList.lookup_erase_ne different⟩
      · rintro stmtId' connectionId' statement found - ⟨-, rfl⟩
        exact (HashMap.lookup_erase_eq_some.mp found).1 rfl
      · intro stmtId' missing
        dsimp only [Repository.removeStatement] at missing ⊢
        by_cases same : stmtId' = stmtId
        · rw [same, AList.lookup_erase]
        · rw [AList.lookup_erase_ne same] at missing ⊢
          exact inv.unlisted stmtId' missing

/-- Statements that the repository never hears of do no harm. -/
theorem grow (inv : OwnershipInv log system)
    (grows : Sessions.Grows system.sessions next.sessions)
    (same : next.repository = system.repository)
    (quiet : ∀ stmtId, preparation? stmtId output = none) :
    OwnershipInv (log ++ [output]) next where
  listed := by
    intro stmtId connectionId found
    rw [same] at found ⊢
    obtain ⟨nativeId, mapped, statement, preparation, there, rfl, known, prepared, text, order⟩ :=
      inv.listed stmtId connectionId found
    refine ⟨statement.connId, mapped, statement, preparation,
      grows.statements stmtId statement there, rfl, ?_, ?_, text, ?_⟩
    · rw [grows.knows]
      exact known
    · rw [preparedFrom_append, quiet, Option.none_or, prepared]
    · rw [same]
      exact order
  unlisted := by
    rw [same]
    exact inv.unlisted
  connected := by
    intro stmtId statement there
    rw [grows.knows]
    obtain before | known := grows.added stmtId statement there
    · exact inv.connected stmtId statement before
    · exact known

/-- A statement that is listed for the connection it was prepared on, under an identifier that was
free. -/
theorem list {connectionId : String} {nativeId stmtId : Nat} {preparation : Preparation}
    (inv : OwnershipInv log system)
    (accepted : (system.sessions.odbcPrepare nativeId preparation.text).1 = stmtId)
    (nonzero : stmtId ≠ 0)
    (mapped : system.repository.connectionIds.lookup connectionId = some nativeId)
    (sessions : next.sessions = (system.sessions.odbcPrepare nativeId preparation.text).2)
    (ids : next.repository.connectionIds = system.repository.connectionIds)
    (owners : next.repository.statementConnectionByStmtId =
      system.repository.statementConnectionByStmtId.insert stmtId connectionId)
    (own : system.repository.namedParamOrderByStmtId.lookup stmtId = none →
      next.repository.namedParamOrderByStmtId.lookup stmtId = preparation.order)
    (others : ∀ other, other ≠ stmtId → next.repository.namedParamOrderByStmtId.lookup other =
      system.repository.namedParamOrderByStmtId.lookup other) :
    OwnershipInv (log ++ [.prepared stmtId preparation]) next := by
  subst accepted
  obtain ⟨known, free, inserted, knows⟩ := system.sessions.odbcPrepare_spec nonzero
  have grows := system.sessions.grows_odbcPrepare nativeId preparation.text
  rw [← sessions] at inserted knows grows
  refine ⟨?_, ?_, ?_⟩
  · intro stmtId connectionId' found
    rw [owners, HashMap.lookup_insert_eq_some] at found
    rw [ids]
    obtain ⟨rfl, rfl⟩ | ⟨different, found⟩ := found
    · refine ⟨nativeId, mapped, ⟨nativeId, cText preparation.text⟩, preparation, ?_, rfl, ?_, ?_,
        rfl, own ?_⟩
      · rw [inserted, AList.lookup_insert]
      · rw [knows]
        exact known
      · rw [preparedFrom_append, preparation?, if_pos rfl, Option.some_or]
      · -- a listed statement would be alive, and this identifier was free
        apply inv.unlisted
        rw [Option.eq_none_iff_forall_ne_some]
        intro owner listed
        obtain ⟨_, _, statement, _, there, -⟩ := inv.listed _ owner listed
        cases free.symm.trans there
    · obtain ⟨nativeId', mapped', statement, preparation', there, rfl, known', prepared, text,
        order⟩ := inv.listed stmtId connectionId' found
      refine ⟨statement.connId, mapped', statement, preparation',
        grows.statements stmtId statement there, rfl, ?_, ?_, text, ?_⟩
      · rw [knows]
        exact known'
      · rw [preparedFrom_append, preparation?, if_neg (Ne.symm different), Option.none_or, prepared]
      · rw [others stmtId different]
        exact order
  · intro stmtId missing
    rw [owners] at missing
    have different : stmtId ≠ (system.sessions.odbcPrepare nativeId preparation.text).1 := by
      rintro rfl
      rw [AList.lookup_insert] at missing
      cases missing
    rw [AList.lookup_insert_ne different] at missing
    rw [others stmtId different]
    exact inv.unlisted stmtId missing
  · intro stmtId statement there
    rw [knows]
    obtain before | known := grows.added stmtId statement there
    · exact inv.connected stmtId statement before
    · exact known

/-- What the repository makes of a prepare: it lists the statement with its order of names, or
tells of no success and changes nothing. -/
def Prepares (connectionId : String) (preparation : Preparation) (repository : Repository)
    (reply : Nat → Completion Nat) (call : Completion (Result Nat) × Repository) : Prop :=
  (∃ nativeId stmtId, repository.connectionIds.lookup connectionId = some nativeId ∧
    reply nativeId = .ok stmtId ∧ stmtId ≠ 0 ∧ call.1 = .ok (.success stmtId) ∧
    call.2.connectionIds = repository.connectionIds ∧
    call.2.statementConnectionByStmtId =
      repository.statementConnectionByStmtId.insert stmtId connectionId ∧
    (repository.namedParamOrderByStmtId.lookup stmtId = none →
      call.2.namedParamOrderByStmtId.lookup stmtId = preparation.order) ∧
    ∀ other, other ≠ stmtId → call.2.namedParamOrderByStmtId.lookup other =
      repository.namedParamOrderByStmtId.lookup other) ∨
  (∀ stmtId, call.1 ≠ .ok (.success stmtId)) ∧ call.2 = repository

theorem prepares_prepare (reply : Nat → Completion Nat) (errors : NativeErrors)
    (connectionId sql : String) (repository : Repository) :
    Prepares connectionId ⟨sql, false⟩ repository reply
      (repository.prepare reply errors connectionId) := by
  obtain ⟨nativeId, stmtId, mapped, answered, nonzero, call⟩ | ⟨completion, failed, call⟩ :=
    repository.prepare_cases reply errors connectionId
  · rw [call]
    exact .inl ⟨nativeId, stmtId, mapped, answered, nonzero, rfl, rfl, rfl, id, fun _ _ => rfl⟩
  · rw [call]
    exact .inr ⟨failed, rfl⟩

theorem prepares_prepareNamed (reply : Nat → Completion Nat) (errors : NativeErrors)
    (connectionId sql : String) (repository : Repository) :
    Prepares connectionId ⟨sql, true⟩ repository reply
      (repository.prepareNamed (fun _ => reply) errors connectionId sql) := by
  rw [Repository.prepareNamed]
  obtain ⟨nativeId, stmtId, mapped, answered, nonzero, call⟩ | ⟨completion, failed, call⟩ :=
    repository.prepare_cases reply errors connectionId
  · rw [call]
    dsimp only
    rw [if_pos (Nat.pos_of_ne_zero nonzero)]
    exact .inl ⟨nativeId, stmtId, mapped, answered, nonzero, rfl, rfl, rfl,
      fun _ => AList.lookup_insert _, fun _ => AList.lookup_insert_ne⟩
  · rw [call]
    split
    · next succeeded =>
        cases succeeded
        cases failed _ rfl
    · next other =>
        cases other
        exact .inr ⟨failureOnException_ne_success failed, rfl⟩

theorem quiet_ofPrepare {preparation : Preparation} {completion : Completion (Result Nat)}
    (failed : ∀ stmtId, completion ≠ .ok (.success stmtId)) (stmtId : Nat) :
    preparation? stmtId (.ofPrepare preparation completion) = none := by
  unfold SessionCalls.Output.ofPrepare
  split
  · cases failed _ rfl
  · rfl

theorem prepare {delivery : Delivery} {connectionId : String} {preparation : Preparation}
    {prepares : (Nat → Completion Nat) → Completion (Result Nat) × Repository}
    (inv : OwnershipInv log system)
    (spec : ∀ reply, Prepares connectionId preparation system.repository reply (prepares reply))
    (stepped : some (system.prepare delivery connectionId preparation prepares) =
      some (next, output)) : OwnershipInv (log ++ [output]) next := by
  obtain ⟨rfl, rfl⟩ := Prod.mk.inj (Option.some.inj stepped)
  let ask (nativeId : Nat) :=
    delivery.request 0 (Sessions.odbcPrepare nativeId preparation.text) system.sessions
  obtain ⟨nativeId, stmtId, mapped, answered, nonzero, succeeded, ids, owners, own, others⟩ |
    ⟨failed, same⟩ := spec fun id => (ask id).1
  · obtain ⟨rfl, accepted⟩ | ⟨-, rfl⟩ := Delivery.request_eq_ok answered
    · rw [succeeded]
      refine inv.list accepted nonzero mapped ?_ ids owners own others
      dsimp only
      rw [System.sessionsAfter, mapped]
      rfl
    · cases nonzero rfl
  · refine inv.grow ?_ same (quiet_ofPrepare failed)
    have refl := Sessions.grows_of_kept system.sessions rfl fun _ => rfl
    dsimp only
    rw [System.sessionsAfter]
    split
    · exact refl
    · next nativeId _ =>
        exact delivery.request_cases 0 refl (system.sessions.grows_odbcPrepare nativeId _)

theorem poolCreate {delivery : Delivery} {built : Bool} (inv : OwnershipInv log system)
    (stepped : step (.poolCreate delivery built) system = some (next, output)) :
    OwnershipInv (log ++ [output]) next := by
  obtain ⟨rfl, rfl⟩ := Prod.mk.inj (Option.some.inj stepped)
  exact inv.keepMaps (delivery.drops_request_kept 0 (system.sessions.drops_odbcPoolCreate built))
    rfl rfl (fun _ _ => rfl) (fun _ _ _ _ _ => id) (fun _ => rfl)

theorem step {event : SessionCalls.Event} (inv : OwnershipInv log system)
    (rule : SessionRule event system)
    (stepped : SessionCalls.step event system = some (next, output)) :
    OwnershipInv (log ++ [output]) next := by
  cases event with
  | connect => exact inv.connect rule stepped
  | disconnect => exact inv.disconnect rule stepped
  | reconnect => exact inv.reconnect rule stepped
  | poolCreate => exact inv.poolCreate stepped
  | poolGetConnection => exact inv.poolGetConnection rule stepped
  | poolReleaseConnection => exact inv.poolReleaseConnection rule stepped
  | poolClose => exact inv.poolClose rule stepped
  | prepare _ errors connectionId sql =>
      exact inv.prepare (fun reply => prepares_prepare reply errors connectionId sql _) stepped
  | prepareNamed _ errors connectionId sql =>
      exact inv.prepare (fun reply => prepares_prepareNamed reply errors connectionId sql _) stepped
  | closeStatement => exact inv.closeStatement stepped
  | clearAllStatements => exact inv.clearAllStatements rule stepped

end OwnershipInv

/-! ## Whole runs -/

/-- In every run that keeps to the rule, whatever the repository accepts for a connection is alive
on the native connection its text is mapped to, with the order of names of its SQL. -/
theorem acceptsLive_of_run {events : List SessionCalls.Event} {final : SessionCalls.System}
    (along : Along SessionCalls.step SessionRule events {})
    (ran : run SessionCalls.step events {} = some (final, log)) : AcceptsLive log final :=
  (run_invariant_along OwnershipInv (fun inv rule stepped => inv.step rule stepped) []
    ownershipInv_initial along ran).acceptsLive

def noErrors : NativeErrors := ⟨.ok none, .ok ""⟩

/-- A connection is opened, and a statement with names is prepared on it. -/
def prepareOnConnection : List SessionCalls.Event :=
  [.connect .served true noErrors "DSN=db" none,
    .prepareNamed .served noErrors "1" "SELECT @id"]

theorem acceptsLive_of_run_prepared :
    ∃ final log, run SessionCalls.step prepareOnConnection {} = some (final, log) ∧
      Along SessionCalls.step SessionRule prepareOnConnection {} ∧
      Accepts final.repository "1" 1 ∧ AcceptsLive log final := by
  have along : Along SessionCalls.step SessionRule prepareOnConnection {} := by
    refine ⟨?_, ?_⟩
    · rintro - ⟨_, ⟨⟩⟩
    · rintro _ _ ⟨⟩
      exact ⟨trivial, fun _ _ _ => trivial⟩
  exact ⟨_, _, rfl, along, accepts_iff.mpr ⟨rfl, rfl⟩, acceptsLive_of_run along rfl⟩

/-- A statement is prepared on a pooled connection, which goes back to its pool and comes out
again under the same identifier. -/
def prepareThenRelease : List SessionCalls.Event :=
  [.poolCreate .served true,
    .poolGetConnection .served true noErrors 1,
    .prepare .served noErrors "1000000" "DELETE FROM t",
    .poolReleaseConnection .served noErrors "1000000",
    .poolGetConnection .served true noErrors 1]

/-- The next holder of the connection is let through with a statement that is gone. -/
theorem released_statement_accepted :
    ∃ final log, run SessionCalls.step prepareThenRelease {} = some (final, log) ∧
      ¬ AcceptsLive log final := by
  refine ⟨_, _, rfl, ?_⟩
  intro live
  obtain ⟨nativeId, -, statement, _, there, -⟩ :=
    live "1000000" 1 (accepts_iff.mpr ⟨rfl, rfl⟩)
  cases there

end OdbcFast.Verification
