import OdbcFast.Native.Ffi.Clients

/-!
# One transaction for a connection

The begin of a transaction looks for another one on the same connection, lets the lock
go to contact the database, and stores the transaction without looking again. Two
begins on one connection, or a begin and a disconnect, may meet between the two
sections. Where they do not, a connection has at most one transaction at every moment
and no transaction outlives its connection.
-/

namespace OdbcFast.Verification

open Wire Native Threads

variable {system next : Threads.System} {state : GlobalState} {output : Threads.Output}

/-- At most one transaction belongs to a connection, and the connection is there. -/
structure OnePerConnection (state : GlobalState) : Prop where
  unique : ∀ id id' txn txn', state.transactions.lookup id = some txn →
    state.transactions.lookup id' = some txn' → txn.connId = txn'.connId → id = id'
  connected : ∀ id txn, state.transactions.lookup id = some txn →
    state.connections.lookup txn.connId = some ()

/-- A begin on the connection is between its two sections. -/
def Beginning (system : Threads.System) (connId : Nat) : Prop :=
  ∃ thread, system.beginning.lookup thread = some connId

/-- No begin and no disconnect runs on a connection while a begin on it is under way. -/
def BeginRule : Threads.Event → Threads.System → Prop
  | .transactionCheck _ connId _, system => ¬ Beginning system connId
  | .disconnect connId _, system => ¬ Beginning system connId
  | _, _ => True

/-- A begin under way has its connection to itself. -/
structure BeginInv (system : Threads.System) : Prop where
  one : OnePerConnection system.global
  reserved : ∀ thread connId, system.beginning.lookup thread = some connId →
    system.global.connections.lookup connId = some () ∧
      ∀ id txn, system.global.transactions.lookup id = some txn → txn.connId ≠ connId
  alone : ∀ thread thread' connId, system.beginning.lookup thread = some connId →
    system.beginning.lookup thread' = some connId → thread = thread'

theorem beginInv_initial : BeginInv {} where
  one := ⟨by rintro _ _ _ _ ⟨⟩, by rintro _ _ ⟨⟩⟩
  reserved := by rintro _ _ ⟨⟩
  alone := by rintro _ _ _ ⟨⟩

namespace BeginInv

/-- A step that leaves transactions and begins alone. -/
theorem frame (inv : BeginInv system) (same : system.global.SameTransactions next.global)
    (begins : next.beginning = system.beginning) : BeginInv next := by
  obtain ⟨connections, transactions⟩ := same
  refine ⟨⟨?_, ?_⟩, ?_, ?_⟩
  · rw [transactions]
    exact inv.one.unique
  · rw [transactions, connections]
    exact inv.one.connected
  · rw [begins, transactions, connections]
    exact inv.reserved
  · rw [begins]
    exact inv.alone

theorem connect (inv : BeginInv system) (connId : Nat) :
    BeginInv { system with global := system.global.odbcConnect connId } := by
  have kept {connId' : Nat} (there : system.global.connections.lookup connId' = some ()) :
      (system.global.odbcConnect connId).connections.lookup connId' = some () := by
    rw [GlobalState.odbcConnect, HashMap.lookup_insert_eq_some]
    by_cases same : connId' = connId
    · exact .inl ⟨same, rfl⟩
    · exact .inr ⟨same, there⟩
  refine ⟨⟨inv.one.unique, fun id txn found => kept (inv.one.connected id txn found)⟩, ?_, inv.alone⟩
  intro thread connId' begun
  obtain ⟨there, none⟩ := inv.reserved thread connId' begun
  exact ⟨kept there, none⟩

theorem disconnect {connId : Nat} (known : Bool) (inv : BeginInv system)
    (free : ¬ Beginning system connId) :
    BeginInv { system with global := (system.global.odbcDisconnect connId known).2 } := by
  rw [GlobalState.odbcDisconnect]
  split
  · exact inv
  · -- what is left belongs to other connections, which stay
    have left {id : Nat} {txn : Transaction}
        (found : (system.global.transactions.retain fun _ txn => txn.connId ≠ connId).lookup id =
          some txn) : system.global.transactions.lookup id = some txn ∧ txn.connId ≠ connId := by
      simpa using HashMap.lookup_retain_eq_some.mp found
    refine ⟨⟨?_, ?_⟩, ?_, inv.alone⟩
    · intro id id' txn txn' found found' same
      exact inv.one.unique id id' txn txn' (left found).1 (left found').1 same
    · intro id txn found
      exact HashMap.lookup_erase_eq_some.mpr
        ⟨(left found).2, inv.one.connected id txn (left found).1⟩
    · intro thread connId' begun
      obtain ⟨there, none⟩ := inv.reserved thread connId' begun
      refine ⟨HashMap.lookup_erase_eq_some.mpr ⟨?_, there⟩, fun id txn found =>
        none id txn (left found).1⟩
      rintro rfl
      exact free ⟨thread, begun⟩

theorem check {thread connId isolationLevel : Nat} (inv : BeginInv system)
    (free : ¬ Beginning system connId)
    (stepped : Threads.step (.transactionCheck thread connId isolationLevel) system =
      some (next, output)) : BeginInv next := by
  rw [Threads.step] at stepped
  split_ifs at stepped with idle
  split at stepped
  · cases stepped
    exact inv
  · next passed =>
      cases stepped
      rw [GlobalState.transactionCheck] at passed
      split_ifs at passed with _ missing active
      have there : system.global.connections.lookup connId = some () := by
        obtain ⟨_, there⟩ := Option.ne_none_iff_exists'.mp (by simpa using missing)
        exact there
      have none (id : Nat) (txn : Transaction)
          (found : system.global.transactions.lookup id = some txn) : txn.connId ≠ connId := by
        intro same
        exact active (HashMap.anyValue_iff.mpr ⟨id, txn, found, by simpa using same⟩)
      refine ⟨inv.one, ?_, ?_⟩
      · intro thread' connId' begun
        rcases HashMap.lookup_insert_eq_some.mp begun with ⟨-, rfl⟩ | ⟨-, begun⟩
        · exact ⟨there, none⟩
        · exact inv.reserved thread' connId' begun
      · intro thread₁ thread₂ connId' begun₁ begun₂
        rcases HashMap.lookup_insert_eq_some.mp begun₁ with ⟨rfl, rfl⟩ | ⟨-, earlier₁⟩
        · rcases HashMap.lookup_insert_eq_some.mp begun₂ with ⟨rfl, -⟩ | ⟨-, earlier₂⟩
          · rfl
          · exact absurd ⟨thread₂, earlier₂⟩ free
        · rcases HashMap.lookup_insert_eq_some.mp begun₂ with ⟨-, rfl⟩ | ⟨-, earlier₂⟩
          · exact absurd ⟨thread₁, earlier₁⟩ free
          · exact inv.alone thread₁ thread₂ connId' earlier₁ earlier₂

/-- Storing the transaction: its connection had none, and the begin is over. -/
theorem store {thread : Nat} {txnResult : Except OdbcError Unit} (inv : BeginInv system)
    (stepped : Threads.step (.transactionStore thread txnResult) system = some (next, output)) :
    BeginInv next := by
  simp only [Threads.step, Option.bind_eq_bind, Option.bind_eq_some_iff] at stepped
  obtain ⟨connId, begun, same⟩ := stepped
  cases same
  obtain ⟨there, none⟩ := inv.reserved thread connId begun
  have alone (thread₁ thread₂ connId' : Nat)
      (begun₁ : (system.beginning.erase thread).lookup thread₁ = some connId')
      (begun₂ : (system.beginning.erase thread).lookup thread₂ = some connId') :
      thread₁ = thread₂ :=
    inv.alone thread₁ thread₂ connId' (HashMap.lookup_erase_eq_some.mp begun₁).2
      (HashMap.lookup_erase_eq_some.mp begun₂).2
  -- the other begins are on other connections
  have others {thread' connId' : Nat}
      (begun' : (system.beginning.erase thread).lookup thread' = some connId') :
      system.beginning.lookup thread' = some connId' ∧ connId' ≠ connId := by
    obtain ⟨other, begun'⟩ := HashMap.lookup_erase_eq_some.mp begun'
    refine ⟨begun', ?_⟩
    rintro rfl
    exact other (inv.alone thread' thread connId' begun' begun)
  have unstored {global : GlobalState} (same : system.global.SameTransactions global) :
      BeginInv { system with global, beginning := system.beginning.erase thread } := by
    have framed : BeginInv { system with global } := inv.frame same rfl
    refine ⟨framed.one, ?_, alone⟩
    intro thread' connId' begun'
    exact framed.reserved thread' connId' (others begun').1
  cases txnResult with
  | error err => exact unstored ⟨rfl, rfl⟩
  | ok _ =>
      rw [GlobalState.transactionStore]
      simp only
      split
      · exact unstored ⟨rfl, rfl⟩
      · next id allocated =>
          refine ⟨⟨?_, ?_⟩, ?_, alone⟩
          · intro id₁ id₂ txn₁ txn₂ found₁ found₂ same
            rcases HashMap.lookup_insert_eq_some.mp found₁ with ⟨rfl, rfl⟩ | ⟨-, old₁⟩
            · rcases HashMap.lookup_insert_eq_some.mp found₂ with ⟨rfl, -⟩ | ⟨-, old₂⟩
              · rfl
              · exact absurd same.symm (none id₂ txn₂ old₂)
            · rcases HashMap.lookup_insert_eq_some.mp found₂ with ⟨-, rfl⟩ | ⟨-, old₂⟩
              · exact absurd same (none id₁ txn₁ old₁)
              · exact inv.one.unique id₁ id₂ txn₁ txn₂ old₁ old₂ same
          · intro id' txn found
            rcases HashMap.lookup_insert_eq_some.mp found with ⟨-, rfl⟩ | ⟨-, old⟩
            · exact there
            · exact inv.one.connected id' txn old
          · intro thread' connId' begun'
            obtain ⟨begun', other⟩ := others begun'
            obtain ⟨there', none'⟩ := inv.reserved thread' connId' begun'
            refine ⟨there', ?_⟩
            intro id' txn found
            rcases HashMap.lookup_insert_eq_some.mp found with ⟨-, rfl⟩ | ⟨-, old⟩
            · exact other.symm
            · exact none' id' txn old

theorem take (inv : BeginInv system) (txnId : Nat) :
    BeginInv { system with global := (system.global.transactionTake txnId).2 } := by
  refine ⟨⟨?_, ?_⟩, ?_, inv.alone⟩
  · intro id id' txn txn' found found' same
    exact inv.one.unique id id' txn txn' (HashMap.lookup_erase_eq_some.mp found).2
      (HashMap.lookup_erase_eq_some.mp found').2 same
  · intro id txn found
    exact inv.one.connected id txn (HashMap.lookup_erase_eq_some.mp found).2
  · intro thread connId begun
    obtain ⟨there, none⟩ := inv.reserved thread connId begun
    exact ⟨there, fun id txn found => none id txn (HashMap.lookup_erase_eq_some.mp found).2⟩

theorem step {event : Threads.Event} (inv : BeginInv system) (rule : BeginRule event system)
    (stepped : Threads.step event system = some (next, output)) : BeginInv next := by
  cases event with
  | connect connId =>
      cases stepped
      exact inv.connect connId
  | disconnect connId known =>
      cases stepped
      exact inv.disconnect known rule
  | transactionCheck thread connId isolationLevel => exact inv.check rule stepped
  | transactionStore thread txnResult => exact inv.store stepped
  | transactionEnd txnId =>
      cases stepped
      exact inv.take txnId
  | streamStart connId live =>
      cases stepped
      exact inv.frame (system.global.streamStart_sameTransactions connId live) rfl
  | work streamId event =>
      obtain ⟨global, worked, same⟩ := Option.map_eq_some_iff.mp stepped
      cases same
      simp only [StreamClient.work, Option.bind_eq_bind, Option.bind_eq_some_iff] at worked
      obtain ⟨_, -, _, -, same⟩ := worked
      cases same
      exact inv.frame ⟨rfl, rfl⟩ rfl
  | workFetching thread event =>
      simp only [Threads.step, Option.bind_eq_bind, Option.bind_eq_some_iff] at stepped
      obtain ⟨_, -, _, -, same⟩ := stepped
      cases same
      exact inv.frame ⟨rfl, rfl⟩ rfl
  | fetchBegin thread streamId bufLen =>
      have same := system.global.fetchBegin_sameTransactions streamId bufLen
      rw [Threads.step] at stepped
      split_ifs at stepped
      split at stepped
      · next begun =>
          rw [begun] at same
          cases stepped
          exact inv.frame same rfl
      · next begun =>
          rw [begun] at same
          cases stepped
          exact inv.frame same rfl
  | fetchFinish thread =>
      simp only [Threads.step, Option.bind_eq_bind, Option.bind_eq_some_iff] at stepped
      obtain ⟨call, -, ⟨answer, global⟩, finished, same⟩ := stepped
      cases same
      exact inv.frame (system.global.fetchFinish_sameTransactions finished) rfl
  | poll streamId =>
      cases stepped
      exact inv.frame (system.global.odbcStreamPollAsync_sameTransactions streamId) rfl
  | cancel streamId =>
      cases stepped
      exact inv
  | close streamId =>
      cases stepped
      exact inv.frame (system.global.odbcStreamClose_sameTransactions streamId) rfl

end BeginInv

/-- In every run that keeps the rule a connection has at most one transaction and every
transaction its connection. -/
theorem onePerConnection_of_run (events : List Threads.Event) {log : List Threads.Output}
    (along : Along Threads.step BeginRule events {})
    (ran : run Threads.step events {} = some (system, log)) : OnePerConnection system.global :=
  (run_invariant_along (fun _ system => BeginInv system) (fun inv rule => inv.step rule) []
    beginInv_initial along ran).one

/-- Two threads begin a transaction each, on connections of their own. -/
theorem onePerConnection_of_run_two :
    ∃ system log, run Threads.step [.connect 1, .connect 2, .transactionCheck 10 1 1,
        .transactionCheck 11 2 1, .transactionStore 10 (.ok ()), .transactionStore 11 (.ok ())]
        {} = some (system, log) ∧
      (∃ txn txn', system.global.transactions.lookup 1 = some txn ∧
        system.global.transactions.lookup 2 = some txn') ∧
      OnePerConnection system.global := by
  have along : Along Threads.step BeginRule [.connect 1, .connect 2, .transactionCheck 10 1 1,
      .transactionCheck 11 2 1, .transactionStore 10 (.ok ()), .transactionStore 11 (.ok ())] {} := by
    refine (along_cons_iff rfl).mpr ⟨trivial, (along_cons_iff rfl).mpr ⟨trivial,
      (along_cons_iff rfl).mpr ⟨by rintro ⟨_, ⟨⟩⟩, (along_cons_iff rfl).mpr ⟨?_,
        (along_cons_iff rfl).mpr ⟨trivial, (along_cons_iff rfl).mpr ⟨trivial, trivial⟩⟩⟩⟩⟩⟩
    rintro ⟨thread, begun⟩
    rcases HashMap.lookup_insert_eq_some.mp begun with ⟨-, other⟩ | ⟨-, impossible⟩
    · cases other
    · cases impossible
  exact ⟨_, _, rfl, ⟨_, _, rfl, rfl⟩, onePerConnection_of_run _ along rfl⟩

/-- Two begins on one connection pass the check before either stores its transaction. -/
theorem two_transactions_on_one_connection :
    ¬ ∀ (events : List Threads.Event) (system : Threads.System) (log : List Threads.Output),
      run Threads.step events {} = some (system, log) → OnePerConnection system.global := by
  intro always
  have one := always [.connect 1, .transactionCheck 10 1 1, .transactionCheck 11 1 1,
    .transactionStore 10 (.ok ()), .transactionStore 11 (.ok ())] _ _ rfl
  cases one.unique 1 2 ⟨1⟩ ⟨1⟩ rfl rfl rfl

end OdbcFast.Verification
