import OdbcFast.Verification.PoolReturns

/-!
# The count of a parallel insert

A parallel insert adds up what its chunks have inserted. A chunk that fails is counted with no
row, although its earlier batches may be in the table: in autocommit they stay there, and in a
transaction they do when the transaction is committed on the way back to the pool.
-/

namespace OdbcFast.Verification

open Wire OdbcFast.Native

variable {ε W : Type}

/-- The rows that are in the table when the connections are back. -/
def persisted (outcomes : List (ChunkOutcome ε W)) : Nat :=
  (outcomes.map fun outcome => match outcome.2 with
    | some entry => entry.session.committed.length
    | none => 0).sum

/-- What is claimed of a parallel insert, whose errors are told as `told` says. -/
structure Counts (told : OdbcError → ε) (rowCount : Nat) (result : Except ε Nat)
    (outcomes : List (ChunkOutcome ε W)) : Prop where
  success : ∀ count, result = .ok count → count = rowCount
  partialFailure : ∀ inserted failed detail,
    result = .error (told (.bulkPartialFailure inserted failed detail)) →
      inserted = persisted outcomes

/-- The pieces that rows are inserted in. -/
def batchesOf (paramsetSize : Nat) (rows : List W) : List (List W) :=
  (stepRanges rows.length (min (max paramsetSize 1) rows.length)).map (slice · rows)

section

variable (driver : SessionDriver W)

/-- Every batch is accepted behind those before it. -/
def TakesAll : List (SessionRecord W) → List (List W) → Prop
  | _, [] => True
  | history, batch :: batches =>
    driver.refusal history (.statement batch) = none ∧
      TakesAll (history ++ [⟨.statement batch, none⟩]) batches

/-- The first batch is refused, with all of its rows. -/
def RefusesFirst (history : List (SessionRecord W)) (batches : List (List W)) : Prop :=
  ∃ batch ∈ batches.head?, (driver.refusal history (.statement batch)).isSome ∧
    ∀ row ∈ batch, driver.partly history row = false

/-- On a new connection all rows of an insert go in, or none. -/
def AllOrNothing (sql : Except OdbcError String) (paramsetSize : Nat) (rows : List W) : Prop :=
  ∀ text, sql = .ok text →
    let prepare : SessionCall W := .prepare text
    let bind : SessionCall W := .bind (min (max paramsetSize 1) rows.length)
    driver.refusal [] prepare = none → driver.refusal [⟨prepare, none⟩] bind = none →
      let history := [⟨prepare, none⟩, ⟨bind, none⟩]
      TakesAll driver history (batchesOf paramsetSize rows) ∨
        RefusesFirst driver history (batchesOf paramsetSize rows)

/-- A chunk that fails leaves no row behind. -/
def LeavesNoRow (mode : ParallelMode) (sql : Except OdbcError String) (paramsetSize : Nat)
    (rows : List W) : Prop :=
  match mode with
  | .independent => AllOrNothing driver sql paramsetSize rows
  | .perChunkTransactional =>
    MayFail driver (ArrayBinding.insertRows driver sql (.ok ()) paramsetSize rows) {}

end

/-! ## One insert -/

section

variable {driver : SessionDriver W} {session next : Session W} {sql : Except OdbcError String}
  {fill : Except OdbcError Unit}

theorem work_history (done : List W) (history : List (SessionRecord W)) :
    ({ session with history } : Session W).work done = { session.work done with history } := by
  by_cases direct : session.autocommit ∧ ¬ session.begun
  · simp [Session.work, direct]
  · simp only [Session.work, if_neg direct]

theorem work_work (first second : List W) (history : List (SessionRecord W)) :
    ({ session.work first with history } : Session W).work second =
      { session.work (first ++ second) with history } := by
  rw [Session.work, Session.work, Session.work]
  by_cases direct : session.autocommit ∧ ¬ session.begun
  · simp [direct]
  · simp only [if_neg direct, List.append_assoc]

/-- A call that has answered was accepted. -/
theorem accepted_of_ok {call : SessionCall W}
    (answered : (Session.call driver call).perform session = (.ok (), next)) :
    driver.refusal session.history call = none ∧
      next = { session.accept call with history := session.history ++ [⟨call, none⟩] } := by
  rcases answer : driver.refusal session.history call with _ | error
  · obtain ⟨ran, same⟩ := Session.after_accepted answer
    cases ran.symm.trans answered
    exact ⟨rfl, same⟩
  · cases (Session.after_refused answer).1.symm.trans answered

theorem insertBatches_ok {batches : List (List W)} {total count : Nat}
    (answered : (ArrayBinding.insertBatches driver fill batches total).perform session =
      (.ok count, next)) :
    count = total + batches.flatten.length ∧
      ∃ history, next = { session.work batches.flatten with history } := by
  induction batches generalizing total session with
  | nil =>
      cases answered
      exact ⟨rfl, next.history, by rw [List.flatten_nil, Session.work_nil]⟩
  | cons batch batches ih =>
      obtain ⟨_, filled, checked, answered⟩ := Fallible.perform_bind_eq_ok answered
      obtain ⟨_, executed, called, answered⟩ := Fallible.perform_bind_eq_ok answered
      cases checked
      obtain ⟨-, rfl⟩ := accepted_of_ok called
      obtain ⟨rfl, history, rfl⟩ := ih answered
      refine ⟨by simp [Nat.add_assoc], history, ?_⟩
      have behind := @work_work W session batch batches.flatten
        (session.history ++ [⟨.statement batch, none⟩])
      exact congrArg (fun middle : Session W => { middle with history }) behind

/-- An insert that answers has inserted its rows. -/
theorem insertRows_ok {paramsetSize count : Nat} {rows : List W}
    (answered : (ArrayBinding.insertRows driver sql fill paramsetSize rows).perform session =
      (.ok count, next)) :
    count = rows.length ∧
      ∃ done history, done.length = count ∧ next = { session.work done with history } := by
  obtain ⟨text, same, checked, answered⟩ := Fallible.perform_bind_eq_ok answered
  obtain ⟨_, prepared, called, answered⟩ := Fallible.perform_bind_eq_ok answered
  obtain ⟨_, bound, called', answered⟩ := Fallible.perform_bind_eq_ok answered
  cases checked
  obtain ⟨-, rfl⟩ := accepted_of_ok called
  obtain ⟨-, rfl⟩ := accepted_of_ok called'
  obtain ⟨rfl, history, rfl⟩ := insertBatches_ok answered
  rw [Nat.zero_add]
  refine ⟨?_, _, history, rfl, ?_⟩
  · rcases rows.eq_nil_or_concat with rfl | ⟨front, last, rfl⟩
    · simp [stepRanges]
    · exact length_flatten_slices (by simp)
  · exact congrArg (fun middle : Session W => { middle with history })
      (@work_history W session _ _)

/-- Where nothing is open, a switch to autocommit changes nothing. -/
theorem switch_nothing (nothing : session.uncommitted = []) :
    (session.after driver (.setAutocommit true)).committed = session.committed ∧
      (session.after driver (.setAutocommit true)).uncommitted = [] := by
  refine ⟨Session.after_switch_committed_iff.mpr (.inl nothing), ?_⟩
  rcases switch : driver.refusal session.history (.setAutocommit true) with _ | error
  · exact (Session.clean_after_switch switch).2.2
  · exact uncommitted_after_refused switch (by rintro done ⟨⟩) nothing

/-- The rows of a chunk that succeeds are in the table. -/
theorem runChunk_ok {mode : ParallelMode} {paramsetSize count : Nat} {rows : List W}
    (answered : (runChunk driver mode
      (ArrayBinding.insertRows driver sql fill paramsetSize rows) {}).1 = .ok count) :
    count = rows.length ∧ (runChunk driver mode
      (ArrayBinding.insertRows driver sql fill paramsetSize rows) {}).2.session.committed.length =
        count := by
  rw [runChunk] at answered ⊢
  rcases ran : (insertChunk driver mode
    (ArrayBinding.insertRows driver sql fill paramsetSize rows)).perform {} with ⟨result, last⟩
  rw [ran] at answered
  cases (answered : result = .ok count)
  cases mode with
  | independent =>
      obtain ⟨counted, done, history, rfl, rfl⟩ := insertRows_ok ran
      refine ⟨counted, congrArg List.length ?_⟩
      exact putBack_committed_iff.mpr (.inl rfl)
  | perChunkTransactional =>
      obtain ⟨_, manual, switched, ran⟩ := Fallible.perform_bind_eq_ok ran
      obtain ⟨-, rfl⟩ := accepted_of_ok switched
      rw [Fallible.perform_of] at ran
      rcases inserted : (ArrayBinding.insertRows driver sql fill paramsetSize rows).perform
        { Session.accept (.setAutocommit false) ({} : Session W) with
          history := [] ++ [⟨.setAutocommit false, none⟩] } with ⟨result, filled⟩
      rw [inserted] at ran
      cases result with
      | error error => cases ran
      | ok count' =>
          obtain ⟨_, behind, commits, ran⟩ := Fallible.perform_bind_eq_ok ran
          obtain ⟨_, ignored, switched', ran⟩ := Fallible.perform_bind_eq_ok ran
          cases ran
          obtain ⟨counted, done, history, rfl, rfl⟩ := insertRows_ok inserted
          obtain ⟨-, rfl⟩ := accepted_of_ok commits
          cases switched'
          refine ⟨counted, congrArg List.length ?_⟩
          obtain ⟨kept, nothing⟩ := @switch_nothing W driver
            { Session.accept .commit { Session.work done (Session.accept (.setAutocommit false) {})
                with history } with history := history ++ [⟨.commit, none⟩] } rfl
          exact (putBack_committed_iff.mpr (.inl nothing)).trans kept

/-! ## An insert in autocommit -/

/-- Nothing is opened, and what was committed stays. -/
def Grows (session next : Session W) : Prop :=
  session.Clean → next.Clean ∧ session.committed <+: next.committed

instance : IsPreorder (Session W) Grows where
  refl session := fun clean => ⟨clean, List.prefix_refl session.committed⟩
  trans _ _ _ first second := fun clean => by
    obtain ⟨clean, grown⟩ := first clean
    obtain ⟨clean, grown'⟩ := second clean
    exact ⟨clean, grown.trans grown'⟩

theorem work_of_clean (clean : session.Clean) (done : List W) :
    session.work done = { session with committed := session.committed ++ done } := by
  rw [Session.work, if_pos (by simp [clean.1, clean.2.1])]

theorem grows_call {call : SessionCall W} (inserting : ArrayBinding.Inserting call) :
    Fallible.Keeps Grows (Session.call driver call) := by
  intro session
  change Grows session (session.after driver call)
  intro clean
  obtain ⟨done, history, same⟩ :=
    @ArrayBinding.after_inserting W driver call inserting session
  rw [work_of_clean clean] at same
  rcases same with same | same
  · rw [same]
    exact ⟨clean, List.prefix_append session.committed done⟩
  · rw [same]
    exact ⟨⟨clean.1, rfl, rfl⟩, List.prefix_append session.committed done⟩

theorem grows_insertBatches (batches : List (List W)) (total : Nat) :
    Fallible.Keeps Grows (ArrayBinding.insertBatches driver fill batches total) := by
  induction batches generalizing total with
  | nil => exact Fallible.Keeps.pure total
  | cons batch batches ih =>
      refine Fallible.Keeps.bind (Fallible.Keeps.check fill) fun _ => ?_
      exact Fallible.Keeps.bind (grows_call (.inl ⟨batch, rfl⟩)) fun _ => ih _

theorem grows_insertRows (paramsetSize : Nat) (rows : List W) :
    Fallible.Keeps Grows (ArrayBinding.insertRows driver sql fill paramsetSize rows) := by
  refine Fallible.Keeps.bind (Fallible.Keeps.check sql) fun text => ?_
  refine Fallible.Keeps.bind (grows_call (.inr (.inl ⟨text, rfl⟩))) fun _ => ?_
  refine Fallible.Keeps.bind (grows_call (.inr (.inr ⟨_, rfl⟩))) fun _ => ?_
  exact grows_insertBatches _ 0

/-- One batch, with what comes behind it. -/
theorem insertBatches_cons (batch : List W) (batches : List (List W)) (total : Nat) :
    (ArrayBinding.insertBatches driver (.ok ()) (batch :: batches) total).perform session =
      (Session.call driver (.statement batch) >>= fun _ =>
        ArrayBinding.insertBatches driver (.ok ()) batches (total + batch.length)).perform
          session := rfl

/-- The batches are all accepted when the insert answers. -/
theorem takesAll_iff {batches : List (List W)} {total : Nat} :
    TakesAll driver session.history batches ↔ ∃ count,
      ((ArrayBinding.insertBatches driver (.ok ()) batches total).perform session).1 =
        .ok count := by
  induction batches generalizing session total with
  | nil => exact iff_of_true trivial ⟨total, rfl⟩
  | cons batch batches ih =>
      rw [TakesAll, insertBatches_cons]
      rcases answer : driver.refusal session.history (.statement batch) with _ | error
      · obtain ⟨ran, same⟩ := Session.after_accepted answer
        rw [Fallible.perform_bind_ok ran, ← ih, same, and_iff_right rfl]
      · rw [Fallible.perform_bind_error (Session.after_refused answer).1]
        refine iff_of_false (by rintro ⟨⟨⟩, -⟩) (by rintro ⟨count, ⟨⟩⟩)

/-- The rows that a refused batch leaves. -/
theorem committed_after_refused_batch {batch : List W} {error : OdbcError}
    (refused : driver.refusal session.history (.statement batch) = some error)
    (clean : session.Clean) :
    (session.after driver (.statement batch)).committed =
      session.committed ++ batch.filter (driver.partly session.history) := by
  rw [(Session.after_refused refused).2]
  dsimp only [Session.refuse]
  rw [work_of_clean clean]
  split_ifs <;> rfl

/-- An insert that fails has left no row. -/
def FailsClean (insert : Fallible (Session W) OdbcError Nat) (session : Session W) : Prop :=
  (∀ count, (insert.perform session).1 ≠ .ok count) →
    (insert.perform session).2.committed = session.committed

/-- Batches that fail leave no row exactly when the first of them fails with all of its rows. -/
theorem leavesNothing_insertBatches_iff {batches : List (List W)} {total : Nat}
    (clean : session.Clean) (full : ∀ batch ∈ batches, batch ≠ []) :
    FailsClean (ArrayBinding.insertBatches driver (.ok ()) batches total) session ↔
      TakesAll driver session.history batches ∨ RefusesFirst driver session.history batches := by
  by_cases accepted : TakesAll driver session.history batches
  · refine iff_of_true (fun failed => ?_) (.inl accepted)
    obtain ⟨count, answered⟩ := (@takesAll_iff W driver session batches total).mp accepted
    exact absurd answered (failed count)
  have failed : ∀ count, ((ArrayBinding.insertBatches driver (.ok ()) batches total).perform
      session).1 ≠ .ok count := by
    intro count answered
    exact accepted (takesAll_iff.mpr ⟨count, answered⟩)
  refine Iff.trans (imp_iff_right failed) (Iff.trans ?_ (or_iff_right accepted).symm)
  cases batches with
  | nil => exact absurd trivial accepted
  | cons batch batches =>
      rw [RefusesFirst, insertBatches_cons]
      rcases answer : driver.refusal session.history (.statement batch) with _ | error
      · -- The first batch is in the table whatever the others do.
        refine iff_of_false ?_ (by rintro ⟨first, ⟨⟩, refused, -⟩; simp [answer] at refused)
        obtain ⟨ran, same⟩ := Session.after_accepted answer
        rw [Session.accept, work_of_clean clean] at same
        rw [Fallible.perform_bind_ok ran]
        generalize session.after driver (.statement batch) = after at same
        have grown := (@grows_insertBatches W driver (.ok ()) batches (total + batch.length) after
          (by rw [same]; exact clean)).2
        intro kept
        rw [kept, same] at grown
        have short := grown.length_le
        have filled := List.length_pos_of_ne_nil (full batch List.mem_cons_self)
        simp only [List.length_append] at short
        omega
      · rw [Fallible.perform_bind_error (Session.after_refused answer).1]
        refine (Eq.congr_left (committed_after_refused_batch answer clean)).trans ?_
        simp [answer]

/-- There are rows in every batch. -/
theorem batch_ne_nil {paramsetSize : Nat} {rows batch : List W}
    (member : batch ∈ batchesOf paramsetSize rows) : batch ≠ [] := by
  obtain ⟨range, inside, rfl⟩ := List.mem_map.mp member
  obtain ⟨forward, within⟩ := mem_stepRanges inside
  refine List.ne_nil_of_length_pos ?_
  rw [length_slice within]
  omega

/-- In front of the batches there are calls that do no work. -/
theorem leavesNothing_call_iff {call : SessionCall W}
    {rest : Fallible (Session W) OdbcError Nat} (idle : ∀ done, call ≠ .statement done)
    (same : session.accept call = session) :
    FailsClean (Session.call driver call >>= fun _ => rest) session ↔
      (driver.refusal session.history call = none →
        FailsClean rest { session with history := session.history ++ [⟨call, none⟩] }) := by
  rw [FailsClean]
  rcases answer : driver.refusal session.history call with _ | error
  · obtain ⟨ran, accepted⟩ := Session.after_accepted answer
    rw [same] at accepted
    rw [Fallible.perform_bind_ok ran, accepted]
    exact (imp_iff_right rfl).symm
  · rw [Fallible.perform_bind_error (Session.after_refused answer).1]
    exact iff_of_true (fun _ => committed_after_refused answer idle) (by rintro ⟨⟩)

theorem leavesNothing_insertRows_iff (paramsetSize : Nat) (rows : List W) :
    FailsClean (ArrayBinding.insertRows driver sql (.ok ()) paramsetSize rows) {} ↔
      AllOrNothing driver sql paramsetSize rows := by
  cases sql with
  | error error => exact iff_of_true (fun _ => rfl) (by rintro text ⟨⟩)
  | ok text =>
      have one : AllOrNothing driver (.ok text) paramsetSize rows ↔ _ :=
        ⟨fun left => left text rfl, by rintro left _ ⟨⟩; exact left⟩
      rw [one]
      refine (leavesNothing_call_iff (by rintro done ⟨⟩) rfl).trans (imp_congr_right fun _ => ?_)
      refine (leavesNothing_call_iff (by rintro done ⟨⟩) rfl).trans (imp_congr_right fun _ => ?_)
      exact leavesNothing_insertBatches_iff ⟨rfl, rfl, rfl⟩ fun batch => batch_ne_nil

/-- A chunk that fails. -/
theorem runChunk_left_iff {mode : ParallelMode} {paramsetSize : Nat} {rows : List W} :
    ((∀ count, (runChunk driver mode
          (ArrayBinding.insertRows driver sql (.ok ()) paramsetSize rows) {}).1 ≠ .ok count) →
        (runChunk driver mode (ArrayBinding.insertRows driver sql (.ok ()) paramsetSize rows)
          {}).2.session.committed = []) ↔ LeavesNoRow driver mode sql paramsetSize rows := by
  cases mode with
  | independent =>
      refine Iff.trans ?_ (leavesNothing_insertRows_iff paramsetSize rows)
      have grown := @grows_insertRows W driver sql (.ok ()) paramsetSize rows {} ⟨rfl, rfl, rfl⟩
      have back := putBack_committed_iff.mpr (@Or.inl _ (Option.isSome
        (driver.refusal _ (.setAutocommit true)) = true) grown.1.2.2)
      exact imp_congr_right fun _ => Eq.congr_left back
  | perChunkTransactional =>
      exact runChunk_committed_iff (ArrayBinding.staysOpen_insertRows sql (.ok ()) paramsetSize rows)
        ⟨rfl, rfl, rfl⟩

end

/-! ## The chunks of an insert -/

section

variable {outcomes : List (ChunkOutcome ε W)}

/-- A chunk that succeeds has its rows in the table. -/
def Consistent (outcome : ChunkOutcome ε W) : Prop :=
  ∀ count, outcome.1 = .ok count →
    ∃ entry, outcome.2 = some entry ∧ entry.session.committed.length = count

/-- A chunk that fails has none there. -/
def LeftNoRow (outcome : ChunkOutcome ε W) : Prop :=
  (∀ count, outcome.1 ≠ .ok count) →
    ∀ entry, outcome.2 = some entry → entry.session.committed = []

/-- No more is counted than is in the table, and as much when no failed chunk has left
anything. -/
theorem succeeded_iff (agree : ∀ outcome ∈ outcomes, Consistent outcome) :
    succeeded (outcomes.map Prod.fst) ≤ persisted outcomes ∧
      (succeeded (outcomes.map Prod.fst) = persisted outcomes ↔
        ∀ outcome ∈ outcomes, LeftNoRow outcome) := by
  induction outcomes with
  | nil => exact ⟨Nat.le_refl 0, iff_of_true rfl (by simp)⟩
  | cons outcome outcomes ih =>
      obtain ⟨less, same⟩ := ih fun other member => agree other (List.mem_cons_of_mem _ member)
      have first := agree outcome List.mem_cons_self
      rw [List.forall_mem_cons, ← same]
      obtain ⟨result, back⟩ := outcome
      rw [List.map_cons, succeeded, persisted, List.map_cons, List.map_cons, List.sum_cons,
        List.sum_cons, ← succeeded, ← persisted]
      cases result with
      | ok count =>
          obtain ⟨entry, rfl, inserted⟩ := first count rfl
          dsimp only
          rw [inserted]
          refine ⟨Nat.add_le_add_left less count, ?_⟩
          rw [Nat.add_left_cancel_iff]
          exact (and_iff_right fun failed => absurd rfl (failed count)).symm
      | error error =>
          dsimp only
          rw [Nat.zero_add]
          refine ⟨less.trans (Nat.le_add_left _ _), ?_⟩
          have left : LeftNoRow (.error error, back) ↔
              ∀ entry, back = some entry → entry.session.committed = [] :=
            imp_iff_right fun count => by rintro ⟨⟩
          rw [left]
          cases back with
          | none =>
              dsimp only
              rw [Nat.zero_add]
              exact (and_iff_right (by rintro entry ⟨⟩)).symm
          | some entry =>
              have one : (∀ other, some entry = some other → other.session.committed = []) ↔
                  entry.session.committed.length = 0 := by
                rw [List.length_eq_zero_iff]
                exact ⟨fun nothing => nothing entry rfl, by rintro nothing _ ⟨⟩; exact nothing⟩
              rw [one]
              dsimp only
              omega

theorem failures_isEmpty_iff {display : ε → String} {results : List (Except ε Nat)} :
    (failures display results).isEmpty ↔ ∀ result ∈ results, ∃ count, result = .ok count := by
  rw [List.isEmpty_iff, failures, List.filterMap_eq_nil_iff]
  constructor
  · intro none result member
    obtain ⟨chunk, here⟩ := List.getElem?_of_mem member
    have nothing := none (result, chunk) (List.mk_mem_zipIdx_iff_getElem?.mpr here)
    cases result with
    | ok count => exact ⟨count, rfl⟩
    | error error => cases nothing
  · rintro fine ⟨result, chunk⟩ member
    obtain ⟨count, rfl⟩ := fine result (List.fst_mem_of_mem_zipIdx member)
    rfl

/-- Chunks that all succeed have counted every row of the ranges. -/
theorem succeeded_eq_sum {outcome : Nat × Nat → Nat → ChunkOutcome ε W}
    {ranges : List (Nat × Nat)}
    (counts : ∀ range ∈ ranges, ∀ chunk count,
      (outcome range chunk).1 = .ok count → count = range.2 - range.1)
    (fine : ∀ entry ∈ ranges.zipIdx, ∃ count, (outcome entry.1 entry.2).1 = .ok count) :
    succeeded ((ranges.zipIdx.map fun entry => outcome entry.1 entry.2).map Prod.fst) =
      (ranges.map fun range => range.2 - range.1).sum := by
  conv_rhs => rw [← List.zipIdx_map_fst 0 ranges, List.map_map]
  rw [succeeded, List.map_map, List.map_map]
  refine congrArg List.sum (List.map_congr_left fun entry member => ?_)
  obtain ⟨count, answered⟩ := fine entry member
  dsimp only [Function.comp_apply]
  rw [answered]
  exact counts entry.1 (List.fst_mem_of_mem_zipIdx member) entry.2 count answered

end

section

variable {connections : Nat → Except OdbcError (SessionDriver W)} {mode : ParallelMode}
  {insert : SessionDriver W → Nat × Nat → Fallible (Session W) OdbcError Nat}
  {ranges : List (Nat × Nat)}

theorem chunkOutcome_eq {range : Nat × Nat} {chunk : Nat} {driver : SessionDriver W}
    (connected : connections chunk = .ok driver) :
    chunkOutcome connections mode insert range chunk =
      ((runChunk driver mode (insert driver range) {}).1,
        some (runChunk driver mode (insert driver range) {}).2) := by
  rw [chunkOutcome, connected]

/-- The count of a parallel insert is right exactly when its failed chunks leave nothing. -/
theorem counts_runChunks_iff
    (inserts : ∀ driver, ∀ range ∈ ranges, ∀ count,
      (runChunk driver mode (insert driver range) {}).1 = .ok count →
        count = range.2 - range.1 ∧
          (runChunk driver mode (insert driver range) {}).2.session.committed.length = count) :
    Counts id (ranges.map fun range => range.2 - range.1).sum
        (collectPartialFailure ((runChunks connections mode insert ranges).map Prod.fst))
        (runChunks connections mode insert ranges) ↔
      ∀ entry ∈ ranges.zipIdx, ∀ driver, connections entry.2 = .ok driver →
        (∀ count, (runChunk driver mode (insert driver entry.1) {}).1 ≠ .ok count) →
          (runChunk driver mode (insert driver entry.1) {}).2.session.committed = [] := by
  have agree : ∀ outcome ∈ runChunks connections mode insert ranges, Consistent outcome := by
    intro outcome member count answered
    obtain ⟨entry, inside, rfl⟩ := List.mem_map.mp member
    rcases connected : connections entry.2 with error | driver
    · rw [chunkOutcome, connected] at answered
      cases answered
    · rw [chunkOutcome_eq connected] at answered ⊢
      have range := List.fst_mem_of_mem_zipIdx inside
      exact ⟨_, rfl, (inserts driver entry.1 range count answered).2⟩
  have leaves : (∀ outcome ∈ runChunks connections mode insert ranges, LeftNoRow outcome) ↔
      ∀ entry ∈ ranges.zipIdx, ∀ driver, connections entry.2 = .ok driver →
        (∀ count, (runChunk driver mode (insert driver entry.1) {}).1 ≠ .ok count) →
          (runChunk driver mode (insert driver entry.1) {}).2.session.committed = [] := by
    rw [runChunks, List.forall_mem_map]
    refine forall₂_congr fun entry _ => ?_
    rcases connected : connections entry.2 with error | driver
    · rw [chunkOutcome, connected]
      exact iff_of_true (by rintro - _ ⟨⟩) (by rintro _ ⟨⟩)
    · rw [chunkOutcome_eq connected]
      constructor
      · rintro left _ ⟨⟩ failed
        exact left failed _ rfl
      · rintro left failed _ ⟨⟩
        exact left driver rfl failed
  rw [← leaves, ← (succeeded_iff agree).2, collectPartialFailure]
  by_cases fine :
      (failures OdbcError.display ((runChunks connections mode insert ranges).map Prod.fst)).isEmpty
  · have each : ∀ outcome ∈ runChunks connections mode insert ranges,
        ∃ count, outcome.1 = .ok count := by
      intro outcome member
      exact failures_isEmpty_iff.mp fine _ (List.mem_map_of_mem member)
    have whole : succeeded ((runChunks connections mode insert ranges).map Prod.fst) =
        (ranges.map fun range => range.2 - range.1).sum := by
      refine succeeded_eq_sum (fun range member chunk count answered => ?_) fun entry member =>
        each _ (List.mem_map_of_mem member)
      rcases connected : connections chunk with error | driver
      · rw [chunkOutcome, connected] at answered
        cases answered
      · rw [chunkOutcome_eq connected] at answered
        exact (inserts driver range member count answered).1
    rw [if_pos fine]
    refine iff_of_true ⟨?_, by rintro _ _ _ ⟨⟩⟩ ?_
    · rintro count ⟨⟩
      exact whole
    · rw [(succeeded_iff agree).2]
      intro outcome member failed
      obtain ⟨count, answered⟩ := each outcome member
      exact absurd answered (failed count)
  · rw [if_neg fine]
    constructor
    · intro counted
      exact counted.partialFailure _ _ _ rfl
    · intro same
      refine ⟨by rintro _ ⟨⟩, ?_⟩
      rintro inserted failed detail ⟨⟩
      exact same

end

/-! ## Columns of integers -/

section

variable {columns : List String} {data : List (List Int32)} {range : Nat × Nat}

theorem length_rowsOf (data : List (List Int32)) :
    (rowsOf data).length = (data.map List.length).headD 0 := by
  rw [rowsOf, List.length_map, List.length_range]

/-- Columns that pass the check are as long as the first of them. -/
theorem validateI32Columns_eq_ok_iff :
    validateI32Columns columns data = .ok () ↔ data.length = columns.length ∧
      ∀ column ∈ data, column.length = (data.map List.length).headD 0 := by
  dsimp only [validateI32Columns]
  by_cases count : data.length = columns.length
  · rw [if_neg (not_not_intro count), and_iff_right count]
    cases data with
    | nil => simp
    | cons first others => simp
  · rw [if_pos count]
    exact iff_of_false (by rintro ⟨⟩) fun valid => count valid.1

theorem length_slice_of_valid (valid : validateI32Columns columns data = .ok ())
    (inside : range.2 ≤ (data.map List.length).headD 0) :
    ∀ column ∈ data, (slice range column).length = range.2 - range.1 := by
  intro column member
  have same := (validateI32Columns_eq_ok_iff.mp valid).2 column member
  exact length_slice (by rwa [same])

/-- The columns of a chunk, when there are any, are as long as its range. -/
theorem headD_slice (valid : validateI32Columns columns data = .ok ())
    (inside : range.2 ≤ (data.map List.length).headD 0) (some : data ≠ []) :
    ((data.map (slice range)).map List.length).headD 0 = range.2 - range.1 := by
  have lengths := length_slice_of_valid valid inside
  obtain ⟨first, others, rfl⟩ := List.exists_cons_of_ne_nil some
  exact lengths first List.mem_cons_self

theorem valid_slice (valid : validateI32Columns columns data = .ok ())
    (inside : range.2 ≤ (data.map List.length).headD 0) :
    validateI32Columns columns (data.map (slice range)) = .ok () := by
  rw [validateI32Columns_eq_ok_iff, List.length_map]
  refine ⟨(validateI32Columns_eq_ok_iff.mp valid).1, List.forall_mem_map.mpr ?_⟩
  intro column member
  rw [length_slice_of_valid valid inside column member,
    headD_slice valid inside (List.ne_nil_of_mem member)]

/-- The rows of a chunk are inserted as they are. -/
theorem bulkInsertI32_eq {driver : SessionDriver (List Int32)} {paramsetSize : Nat}
    {table : String} (valid : validateI32Columns columns data = .ok ())
    (some : rowsOf data ≠ []) :
    bulkInsertI32 driver paramsetSize table columns data =
      ArrayBinding.insertRows driver (insertStatement table columns) (.ok ()) paramsetSize
        (rowsOf data) := by
  rw [bulkInsertI32, valid, if_neg (by rwa [List.isEmpty_iff])]
  rfl

theorem validateI32Columns_error {error : OdbcError}
    (refused : validateI32Columns columns data = .error error) :
    ∃ text, error = .validationError text := by
  dsimp only [validateI32Columns] at refused
  by_cases count : data.length = columns.length
  · rw [if_neg (not_not_intro count)] at refused
    cases data with
    | nil => cases refused
    | cons first others =>
        dsimp only at refused
        split_ifs at refused
        cases refused
        exact ⟨_, rfl⟩
  · rw [if_pos count] at refused
    cases refused
    exact ⟨_, rfl⟩

theorem sum_chunkRanges (rowCount parallelism : Nat) :
    ((chunkRanges rowCount parallelism).map fun range => range.2 - range.1).sum = rowCount := by
  rw [chunkRanges]
  split_ifs with none
  · exact none.symm
  · exact sum_stepRanges (by omega)

theorem mem_chunkRanges {rowCount parallelism : Nat}
    (member : range ∈ chunkRanges rowCount parallelism) :
    range.1 < range.2 ∧ range.2 ≤ rowCount := by
  rw [chunkRanges] at member
  split_ifs at member
  · cases member
  · exact mem_stepRanges member

theorem counts_insertI32Parallel_iff
    (connections : Nat → Except OdbcError (SessionDriver (List Int32))) (mode : ParallelMode)
    (batchSize parallelism : Nat) (table : String) :
    Counts id ((data.map List.length).headD 0)
        (insertI32Parallel connections mode batchSize parallelism table columns data).1
        (insertI32Parallel connections mode batchSize parallelism table columns data).2 ↔
      (validateI32Columns columns data = .ok () →
        ∀ entry ∈ (chunkRanges ((data.map List.length).headD 0) parallelism).zipIdx,
          ∀ driver, connections entry.2 = .ok driver →
            LeavesNoRow driver mode (insertStatement table columns) batchSize
              (rowsOf (data.map (slice entry.1)))) := by
  rw [insertI32Parallel]
  rcases valid : validateI32Columns columns data with error | _
  · obtain ⟨text, rfl⟩ := validateI32Columns_error valid
    exact iff_of_true ⟨by rintro _ ⟨⟩, by rintro _ _ _ ⟨⟩⟩ (by rintro ⟨⟩)
  refine Iff.trans ?_ (imp_iff_right rfl).symm
  dsimp only
  split_ifs with none
  · rw [none]
    refine iff_of_true ⟨by rintro _ ⟨⟩; rfl, by rintro _ _ _ ⟨⟩⟩ ?_
    simp [chunkRanges]
  have some : data ≠ [] := by
    rintro rfl
    exact none rfl
  have same : ∀ driver, ∀ range ∈ chunkRanges ((data.map List.length).headD 0) parallelism,
      (rowsOf (data.map (slice range))).length = range.2 - range.1 ∧
        bulkInsertI32 driver batchSize table columns (data.map (slice range)) =
          ArrayBinding.insertRows driver (insertStatement table columns) (.ok ()) batchSize
            (rowsOf (data.map (slice range))) := by
    intro driver range member
    obtain ⟨forward, inside⟩ := mem_chunkRanges member
    have length : (rowsOf (data.map (slice range))).length = range.2 - range.1 :=
      (length_rowsOf _).trans (headD_slice valid inside some)
    refine ⟨length, bulkInsertI32_eq (valid_slice valid inside) ?_⟩
    exact List.ne_nil_of_length_pos (by omega)
  have counted := @counts_runChunks_iff _ connections mode
    (fun driver range => bulkInsertI32 driver batchSize table columns (data.map (slice range)))
    (chunkRanges ((data.map List.length).headD 0) parallelism) ?_
  · rw [sum_chunkRanges] at counted
    refine counted.trans (forall₂_congr fun entry member => ?_)
    refine forall₂_congr fun driver connected => ?_
    rw [(same driver entry.1 (List.fst_mem_of_mem_zipIdx member)).2]
    exact runChunk_left_iff
  · intro driver range member count answered
    obtain ⟨length, eq⟩ := same driver range member
    rw [eq] at answered ⊢
    rw [← length]
    exact runChunk_ok answered

end

/-! ## Payloads -/

section

variable {payload : BulkInsertPayload} {range : Nat × Nat}

theorem sum_rowChunkRanges (rowCount parallelism : Nat) :
    ((rowChunkRanges rowCount parallelism).map fun range => range.2 - range.1).sum = rowCount := by
  rw [rowChunkRanges]
  split_ifs with none
  · exact none.symm
  · exact sum_stepRanges (by omega)

/-- A chunk of a payload that succeeds has inserted the rows of its range. -/
theorem insertPayloadChunk_ok {connections : Nat → Except OdbcError (SessionDriver Nat)}
    {chunk count : Nat}
    (answered : (insertPayloadChunk connections payload range chunk).1 = .ok count) :
    count = range.2 - range.1 := by
  rw [insertPayloadChunk] at answered
  rcases connected : connections chunk with error | driver
  · rw [connected] at answered
    cases answered
  rw [connected] at answered
  obtain ⟨piece, _, checked, answered⟩ := Fallible.perform_bind_eq_ok (Prod.ext answered rfl)
  obtain ⟨sliced, -⟩ := Prod.mk.inj checked
  have rows : piece.rowCount.toNat = range.2 - range.1 := by
    rw [slicePayloadRows] at sliced
    split_ifs at sliced with outside
    obtain ⟨columnData, -, rfl⟩ := map_eq_ok.mp sliced
    have bound := payload.rowCount.toNat_lt
    change (UInt32.ofNat (range.2 - range.1)).toNat = range.2 - range.1
    rw [UInt32.toNat_ofNat']
    omega
  rw [Fallible.perform_adapt] at answered
  have inserted := (mapError_eq_ok_iff count).mp (Prod.mk.inj answered).1
  rw [← rows]
  rw [bulkInsertGeneric] at inserted
  split_ifs at inserted with none unpaired
  · cases inserted
    rw [none]
    rfl
  · cases inserted
  · obtain ⟨same, -⟩ := insertRows_ok (Prod.ext inserted rfl)
    rw [same, List.length_map, List.length_range]

theorem counts_bulkInsertParallelWithPool
    (connections : Nat → Except OdbcError (SessionDriver Nat)) (payload : BulkInsertPayload)
    (parallelism : Nat) :
    Counts Fault.err payload.rowCount.toNat
      (bulkInsertParallelWithPool connections payload parallelism).1
      (bulkInsertParallelWithPool connections payload parallelism).2 := by
  rw [bulkInsertParallelWithPool]
  by_cases none : payload.rowCount = 0
  · rw [if_pos none, none]
    exact ⟨by rintro _ ⟨⟩; rfl, by rintro _ _ _ ⟨⟩⟩
  rw [if_neg none]
  dsimp only
  split
  · exact ⟨by rintro _ ⟨⟩, by rintro _ _ _ ⟨⟩⟩
  split_ifs with fine
  · refine ⟨?_, by rintro _ _ _ ⟨⟩⟩
    rintro count ⟨⟩
    have each := failures_isEmpty_iff.mp fine
    refine (@succeeded_eq_sum _ _ (insertPayloadChunk connections payload) _
      (fun range _ _ _ answered => insertPayloadChunk_ok answered) fun entry member => ?_).trans
        (sum_rowChunkRanges _ parallelism)
    exact each _ (List.mem_map_of_mem (List.mem_map_of_mem member))
  · exact ⟨by rintro _ ⟨⟩, by rintro _ _ _ ⟨⟩⟩

end

/-- The count of a parallel insert is the number of its rows when it succeeds. When it fails in
some of its chunks it is the number of the rows that stay in the table, exactly when no chunk
that fails leaves a row there. The insert of a payload does not claim that number. -/
theorem counts_iff (mode : ParallelMode) (batchSize parallelism : Nat) :
    (∀ connections table columns data,
      Counts id ((data.map List.length).headD 0)
          (insertI32Parallel connections mode batchSize parallelism table columns data).1
          (insertI32Parallel connections mode batchSize parallelism table columns data).2 ↔
        (validateI32Columns columns data = .ok () →
          ∀ entry ∈ (chunkRanges ((data.map List.length).headD 0) parallelism).zipIdx,
            ∀ driver, connections entry.2 = .ok driver →
              LeavesNoRow driver mode (insertStatement table columns) batchSize
                (rowsOf (data.map (slice entry.1))))) ∧
      ∀ connections payload,
        Counts Fault.err payload.rowCount.toNat
          (bulkInsertParallelWithPool connections payload parallelism).1
          (bulkInsertParallelWithPool connections payload parallelism).2 :=
  ⟨fun connections table _ _ =>
      counts_insertI32Parallel_iff connections mode batchSize parallelism table,
    fun connections payload => counts_bulkInsertParallelWithPool connections payload parallelism⟩

/-- A driver that refuses the second batch. -/
def refusesSecond : SessionDriver (List Int32) where
  refusal
    | _, .statement [[2]] => some (.odbcApi "duplicate key")
    | _, _ => none
  partly _ _ := false
  loses _ _ := false

/-- A chunk in autocommit whose second batch is refused: no row is reported, one is there. -/
theorem first_batch_not_counted :
    ¬ ∀ (connections : Nat → Except OdbcError (SessionDriver (List Int32))) (mode : ParallelMode)
      (batchSize parallelism : Nat) (table : String) (columns : List String)
      (data : List (List Int32)),
      Counts id ((data.map List.length).headD 0)
        (insertI32Parallel connections mode batchSize parallelism table columns data).1
        (insertI32Parallel connections mode batchSize parallelism table columns data).2 := by
  intro claimed
  have reported : (insertI32Parallel (fun _ => .ok refusesSecond) .independent 1 1 "t" ["a"]
      [[1, 2]]).1 = .error (.bulkPartialFailure 0 1 "chunk[0]: ODBC error: duplicate key") := by
    decide +kernel
  have counted := (claimed (fun _ => .ok refusesSecond) .independent 1 1 "t" ["a"]
    [[1, 2]]).partialFailure _ _ _ reported
  have kept : persisted (insertI32Parallel (fun _ => .ok refusesSecond) .independent 1 1 "t" ["a"]
      [[1, 2]]).2 = 1 := by
    decide +kernel
  cases counted.trans kept

end OdbcFast.Verification
