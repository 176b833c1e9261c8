import Mathlib.Data.List.Perm.Basic
import Mathlib.Data.List.Range
import OdbcFast.Dart.Telemetry

/-!
# Telemetry

What was accepted is handed out, waits in the buffer or is lost, and nothing is in two of these
places. Nothing is lost as long as the timer finds an empty buffer and every batch meets an
exporter that throws at its last item at the earliest.

A batch has its traces first, then spans, metrics and events. It is in the order of acceptance
where that is the same order.
-/

namespace OdbcFast.Verification

open Wire OdbcFast.Dart

variable {Exporter : Type} [DecidableEq Exporter] {exporters : Exporter → TelemetryExporter}
  {repository next : TelemetryRepositoryImpl Exporter} {input : TelemetryInput Exporter}
  {seen : TelemetryStep}

/-! ## What a log tells -/

/-- The numbers of the items in the order they are handed out. -/
def handedItems (log : List TelemetryStep) : List Nat := log.flatMap (·.handed.map Prod.fst)

def acceptedItems (log : List TelemetryStep) : List Nat := log.flatMap (·.accepted.toList)

/-- Telemetry is delivered: nothing is missing when a shutdown has succeeded, nothing is handed
out again behind a successful call, and items come in the order they were accepted in. -/
structure ConservesItems (log : List TelemetryStep) : Prop where
  complete : ∀ before seen after, log = before ++ seen :: after → seen.shutDown = true →
    ∀ item ∈ acceptedItems (before ++ [seen]), item ∈ handedItems (before ++ [seen])
  once : ∀ before item after, log.flatMap (·.handed) = before ++ (item, .success) :: after →
    item ∉ after.map Prod.fst
  inOrder : (handedItems log).Pairwise (· ≤ ·)

theorem handedItems_append (log log' : List TelemetryStep) :
    handedItems (log ++ log') = handedItems log ++ handedItems log' :=
  List.flatMap_append

theorem handedItems_singleton (seen : TelemetryStep) :
    handedItems [seen] = seen.handed.map Prod.fst :=
  List.flatMap_singleton _ _

theorem acceptedItems_append (log log' : List TelemetryStep) :
    acceptedItems (log ++ log') = acceptedItems log ++ acceptedItems log' :=
  List.flatMap_append

theorem acceptedItems_singleton (seen : TelemetryStep) :
    acceptedItems [seen] = seen.accepted.toList :=
  List.flatMap_singleton _ _

theorem handedItems_eq_map (log : List TelemetryStep) :
    handedItems log = (log.flatMap (·.handed)).map Prod.fst :=
  List.map_flatMap.symm

/-! ## Batches -/

/-- The items in the buffer, in the order a batch has them in. -/
def waiting (buffer : TelemetryBuffer Nat) : List Nat :=
  buffer.traces ++ buffer.spans ++ buffer.metrics ++ buffer.events

theorem length_waiting (buffer : TelemetryBuffer Nat) : (waiting buffer).length = buffer.size := by
  simp only [waiting, List.length_append, TelemetryBuffer.size]

theorem waiting_clear (buffer : TelemetryBuffer Nat) : waiting buffer.clear = [] := rfl

theorem waiting_eq_nil_iff {buffer : TelemetryBuffer Nat} :
    waiting buffer = [] ↔ buffer.size = 0 := by
  rw [← length_waiting, List.length_eq_zero_iff]

theorem waiting_flush (buffer : TelemetryBuffer Nat) : waiting buffer.flush.2 = [] := by
  rw [TelemetryBuffer.flush]
  split_ifs with empty
  · exact waiting_eq_nil_iff.mpr empty
  · rfl

theorem calls_flush (buffer : TelemetryBuffer Nat) (exporter : TelemetryExporter) :
    (buffer.flush.1.calls exporter).map Prod.fst = waiting buffer := by
  rw [TelemetryBuffer.flush]
  split_ifs with empty
  · exact (waiting_eq_nil_iff.mpr empty).symm
  · simp only [TelemetryBatch.calls, List.map_append, List.map_map, Function.comp_def,
      List.map_id', waiting]

theorem untilThrow_begins (calls : List (Nat × ExportEnding)) : untilThrow calls <+: calls := by
  induction calls with
  | nil => exact List.prefix_rfl
  | cons call calls ih =>
      rw [untilThrow, List.cons_prefix_cons]
      refine ⟨rfl, ?_⟩
      split_ifs
      · exact List.nil_prefix
      · exact ih

/-- All calls are made if none but the last one throws. -/
theorem untilThrow_eq_self {calls : List (Nat × ExportEnding)}
    (quiet : ∀ call ∈ calls.dropLast, call.2.threw = false) : untilThrow calls = calls := by
  induction calls with
  | nil => rfl
  | cons call calls ih =>
      rw [untilThrow, List.cons_inj_right]
      rcases eq_or_ne calls [] with rfl | more
      · split_ifs <;> rfl
      · rw [List.dropLast_cons_of_ne_nil more] at quiet
        rw [if_neg (ne_true_of_eq_false (quiet call List.mem_cons_self))]
        exact ih fun call member => quiet call (List.mem_cons_of_mem _ member)

/-- The buffer is empty, or it holds its items in the order of acceptance and there is an
exporter that throws at the last of them at the earliest. -/
def ExportsWell (exporters : Exporter → TelemetryExporter)
    (repository : TelemetryRepositoryImpl Exporter) (buffer : TelemetryBuffer Nat) : Prop :=
  waiting buffer = [] ∨
    (waiting buffer).Pairwise (· < ·) ∧ ∃ exporter, repository.currentExporter = some exporter ∧
      ∀ call ∈ (buffer.flush.1.calls (exporters exporter)).dropLast, call.2.threw = false

/-- What the export of the buffer does. -/
structure Exported (exporters : Exporter → TelemetryExporter)
    (repository next : TelemetryRepositoryImpl Exporter) (handed : List (Nat × ExportEnding)) :
    Prop where
  accepted : next.accepted = repository.accepted
  isInitialized : next.isInitialized = repository.isInitialized
  drained : waiting next.buffer = []
  begun : handed.map Prod.fst <+: waiting repository.buffer
  all : ExportsWell exporters repository repository.buffer →
    handed.map Prod.fst = waiting repository.buffer ∧ (waiting repository.buffer).Pairwise (· < ·)

theorem updateExporterIfNeeded_eq (repository : TelemetryRepositoryImpl Exporter)
    (exporter : Option Exporter) :
    ∃ current, repository.updateExporterIfNeeded exporter =
      { repository with currentExporter := current } := by
  rw [TelemetryRepositoryImpl.updateExporterIfNeeded]
  split_ifs
  · exact ⟨exporter, rfl⟩
  · exact ⟨repository.currentExporter, rfl⟩

theorem exported_exportBatch (exporters : Exporter → TelemetryExporter)
    (repository : TelemetryRepositoryImpl Exporter) :
    Exported exporters repository (repository.exportBatch exporters).1
      (repository.exportBatch exporters).2 := by
  have drained := waiting_flush repository.buffer
  rw [TelemetryRepositoryImpl.exportBatch]
  dsimp only
  split
  · next current =>
      refine ⟨rfl, rfl, drained, List.nil_prefix, ?_⟩
      rintro (empty | ⟨-, exporter, known, -⟩)
      · rw [empty]
        exact ⟨rfl, .nil⟩
      · cases current.symm.trans known
  · next exporter current =>
      have handed := (untilThrow_begins (repository.buffer.flush.1.calls (exporters exporter))).map
        Prod.fst
      rw [calls_flush] at handed
      have all (well : ExportsWell exporters repository repository.buffer) :
          (untilThrow (repository.buffer.flush.1.calls (exporters exporter))).map Prod.fst =
              waiting repository.buffer ∧ (waiting repository.buffer).Pairwise (· < ·) := by
        obtain empty | ⟨sorted, exporter', known, quiet⟩ := well
        · rw [empty] at handed ⊢
          exact ⟨List.prefix_nil.mp handed, .nil⟩
        · obtain rfl := Option.some.inj (current.symm.trans known)
          rw [untilThrow_eq_self quiet, calls_flush]
          exact ⟨rfl, sorted⟩
      split_ifs
      · obtain ⟨_, same⟩ := updateExporterIfNeeded_eq
          { repository with buffer := repository.buffer.flush.2 } repository.fallbackExporter
        rw [same]
        exact ⟨rfl, rfl, drained, handed, all⟩
      · exact ⟨rfl, rfl, drained, handed, all⟩

/-! ## One step -/

/-- The item is in the buffer behind those that were there. -/
def Adds (add : TelemetryBuffer Nat → Nat → TelemetryBuffer Nat × Bool) : Prop :=
  ∀ buffer item, (waiting (add buffer item).1).Perm (waiting buffer ++ [item])

theorem adds_addTrace : Adds TelemetryBuffer.addTrace := by
  intro buffer item
  have moved : (item :: (buffer.spans ++ buffer.metrics ++ buffer.events)).Perm
      (buffer.spans ++ buffer.metrics ++ buffer.events ++ [item]) :=
    (List.perm_append_singleton item _).symm
  simpa only [waiting, TelemetryBuffer.addTrace, List.append_assoc, List.cons_append,
    List.nil_append] using moved.append_left buffer.traces

theorem adds_addSpan : Adds TelemetryBuffer.addSpan := by
  intro buffer item
  have moved : (item :: (buffer.metrics ++ buffer.events)).Perm
      (buffer.metrics ++ buffer.events ++ [item]) :=
    (List.perm_append_singleton item _).symm
  simpa only [waiting, TelemetryBuffer.addSpan, List.append_assoc, List.cons_append,
    List.nil_append] using moved.append_left (buffer.traces ++ buffer.spans)

theorem adds_addMetric : Adds TelemetryBuffer.addMetric := by
  intro buffer item
  have moved : (item :: buffer.events).Perm (buffer.events ++ [item]) :=
    (List.perm_append_singleton item _).symm
  simpa only [waiting, TelemetryBuffer.addMetric, List.append_assoc, List.cons_append,
    List.nil_append] using moved.append_left (buffer.traces ++ buffer.spans ++ buffer.metrics)

theorem adds_addEvent : Adds TelemetryBuffer.addEvent := by
  intro buffer item
  simp only [waiting, TelemetryBuffer.addEvent, List.append_assoc, List.Perm.refl]

/-- Where adding an item fills the buffer, the buffer is exported well. -/
def AcceptsWell (exporters : Exporter → TelemetryExporter)
    (repository : TelemetryRepositoryImpl Exporter)
    (add : TelemetryBuffer Nat → Nat → TelemetryBuffer Nat × Bool) : Prop :=
  (add repository.buffer repository.accepted).2 = true →
    ExportsWell exporters repository (add repository.buffer repository.accepted).1

/-- When a step loses nothing and keeps the order. -/
def LosesNothing (exporters : Exporter → TelemetryExporter) :
    TelemetryInput Exporter → TelemetryRepositoryImpl Exporter → Prop
  | .exportTrace, repository =>
    repository.isInitialized = true → AcceptsWell exporters repository TelemetryBuffer.addTrace
  | .exportSpan, repository =>
    repository.isInitialized = true → 0 ≤ repository.maxRetries →
      AcceptsWell exporters repository TelemetryBuffer.addSpan
  | .exportMetric, repository =>
    repository.isInitialized = true → 0 ≤ repository.maxRetries →
      AcceptsWell exporters repository TelemetryBuffer.addMetric
  | .exportEvent, repository =>
    repository.isInitialized = true → 0 ≤ repository.maxRetries →
      AcceptsWell exporters repository TelemetryBuffer.addEvent
  | .tick, repository => repository.buffer.size = 0
  | .flush, repository =>
    repository.isInitialized = true → ExportsWell exporters repository repository.buffer
  | .shutdown _, repository =>
    repository.isInitialized = true → ExportsWell exporters repository repository.buffer
  | _, _ => True

/-- What any step does. -/
structure Steps (well : Prop) (repository next : TelemetryRepositoryImpl Exporter)
    (seen : TelemetryStep) : Prop where
  accepted : List.range next.accepted = List.range repository.accepted ++ seen.accepted.toList
  conserved : ∃ lost, (well → lost = []) ∧
    (seen.handed.map Prod.fst ++ (waiting next.buffer ++ lost)).Perm
      (waiting repository.buffer ++ seen.accepted.toList)
  sorted : well → seen.handed.map Prod.fst = [] ∨
    waiting next.buffer = [] ∧ (seen.handed.map Prod.fst).Pairwise (· < ·)
  idle : (repository.isInitialized = false → waiting repository.buffer = []) →
    (next.isInitialized = false → waiting next.buffer = [])
  shutDown : seen.shutDown = true → next.isInitialized = false

omit [DecidableEq Exporter] in
/-- Nothing is seen, and the buffer stays as it is. -/
theorem steps_of_still {well : Prop} (buffer : next.buffer = repository.buffer)
    (accepted : next.accepted = repository.accepted)
    (initialized : next.isInitialized = false → repository.isInitialized = false) :
    Steps well repository next {} := by
  refine ⟨?_, ⟨[], fun _ => rfl, ?_⟩, fun _ => .inl rfl, fun idle dead => ?_,
    fun shut => absurd shut Bool.false_ne_true⟩
  · rw [accepted]
    exact (List.append_nil _).symm
  · rw [buffer, List.append_nil]
    exact List.Perm.of_eq (List.append_nil _).symm
  · rw [buffer]
    exact idle (initialized dead)

/-- An item that was added and handed out with the rest of the buffer, or not at all. -/
theorem steps_accept {well : Prop} {add : TelemetryBuffer Nat → Nat → TelemetryBuffer Nat × Bool}
    (adds : Adds add) (initialized : repository.isInitialized = true)
    (sound : well → AcceptsWell exporters repository add) :
    Steps well repository (repository.accept exporters add).1
      (repository.accept exporters add).2 := by
  have added := adds repository.buffer repository.accepted
  have alive {state : Bool} (same : state = repository.isInitialized) : state ≠ false :=
    ne_false_of_eq_true (same.trans initialized)
  rw [TelemetryRepositoryImpl.accept]
  dsimp only
  split_ifs with full
  · have exported := exported_exportBatch exporters { repository with
      buffer := (add repository.buffer repository.accepted).1
      accepted := repository.accepted + 1 }
    obtain ⟨lost, whole⟩ := exported.begun
    refine ⟨?_, ⟨lost, fun holds => ?_, ?_⟩, fun holds => .inr ⟨exported.drained, ?_⟩,
      fun _ dead => absurd dead (alive exported.isInitialized),
      fun shut => absurd shut Bool.false_ne_true⟩
    · rw [exported.accepted]
      exact List.range_succ
    · have all := (exported.all (sound holds full)).1
      rw [all] at whole
      exact List.append_right_eq_self.mp whole
    · rw [exported.drained, List.nil_append, whole]
      exact added
    · obtain ⟨all, sorted⟩ := exported.all (sound holds full)
      rw [all]
      exact sorted
  · refine ⟨List.range_succ, ⟨[], fun _ => rfl, ?_⟩, fun _ => .inl rfl,
      fun _ dead => absurd dead (alive rfl), fun shut => absurd shut Bool.false_ne_true⟩
    rw [List.append_nil]
    exact added

theorem steps_acceptRetrying {well : Prop}
    {add : TelemetryBuffer Nat → Nat → TelemetryBuffer Nat × Bool} (adds : Adds add)
    (sound : well → repository.isInitialized = true → 0 ≤ repository.maxRetries →
      AcceptsWell exporters repository add) :
    Steps well repository (repository.acceptRetrying exporters add).1
      (repository.acceptRetrying exporters add).2 := by
  rw [TelemetryRepositoryImpl.acceptRetrying]
  split_ifs with accepts
  · exact steps_accept adds accepts.1 fun holds => sound holds accepts.1 accepts.2
  · exact steps_of_still rfl rfl id

/-- The batch of the timer is gone before the callback asks for it. -/
theorem steps_tick {well : Prop} (sound : well → repository.buffer.size = 0) :
    Steps well repository (repository.tick exporters).1 (repository.tick exporters).2 := by
  rw [TelemetryRepositoryImpl.tick]
  split_ifs with waits
  · have exported := exported_exportBatch exporters
      { repository with buffer := repository.buffer.flush.2 }
    have nothing : (TelemetryRepositoryImpl.exportBatch exporters
        { repository with buffer := repository.buffer.flush.2 }).2.map Prod.fst = [] := by
      have begun := exported.begun
      rw [waiting_flush] at begun
      exact List.prefix_nil.mp begun
    have full (holds : well) : False := waits.ne' (sound holds)
    refine ⟨?_, ⟨waiting repository.buffer, fun holds => (full holds).elim, ?_⟩,
      fun holds => (full holds).elim, fun _ _ => exported.drained,
      fun shut => absurd shut Bool.false_ne_true⟩
    · dsimp only
      rw [exported.accepted]
      exact (List.append_nil _).symm
    · dsimp only
      rw [nothing, exported.drained, List.nil_append, List.nil_append]
      exact List.Perm.of_eq (List.append_nil _).symm
  · exact steps_of_still rfl rfl id

omit [DecidableEq Exporter] in
/-- The buffer is exported and nothing is accepted. -/
theorem steps_of_exported {well : Prop} {handed : List (Nat × ExportEnding)}
    {final : TelemetryRepositoryImpl Exporter} {shutDown : Bool}
    (exported : Exported exporters repository next handed)
    (sound : well → ExportsWell exporters repository repository.buffer)
    (accepted : final.accepted = next.accepted) (drained : waiting final.buffer = [])
    (dead : shutDown = true → final.isInitialized = false) :
    Steps well repository final { handed := handed, shutDown := shutDown } := by
  obtain ⟨lost, whole⟩ := exported.begun
  refine ⟨?_, ⟨lost, fun holds => ?_, ?_⟩, fun holds => .inr ⟨drained, ?_⟩, fun _ _ => drained,
    dead⟩
  · rw [accepted, exported.accepted]
    exact (List.append_nil _).symm
  · have all := (exported.all (sound holds)).1
    rw [all] at whole
    exact List.append_right_eq_self.mp whole
  · rw [drained, List.nil_append, whole]
    exact List.Perm.of_eq (List.append_nil _).symm
  · obtain ⟨all, sorted⟩ := exported.all (sound holds)
    rw [all]
    exact sorted

theorem steps_flush {well : Prop} (sound : well → repository.isInitialized = true →
      ExportsWell exporters repository repository.buffer) :
    Steps well repository (repository.flush exporters).1 (repository.flush exporters).2 := by
  rw [TelemetryRepositoryImpl.flush]
  split_ifs with initialized
  · have exported := exported_exportBatch exporters repository
    exact steps_of_exported exported (fun holds => sound holds initialized) rfl exported.drained
      fun shut => absurd shut Bool.false_ne_true
  · exact steps_of_still rfl rfl id

/-- Shutting down exports what there is. -/
theorem exported_shutdown (exporters : Exporter → TelemetryExporter)
    (repository : TelemetryRepositoryImpl Exporter) :
    Exported exporters repository
      (if 0 < repository.buffer.size then repository.exportBatch exporters
        else (repository, [])).1
      (if 0 < repository.buffer.size then repository.exportBatch exporters
        else (repository, [])).2 := by
  split_ifs with waits
  · exact exported_exportBatch exporters repository
  · have empty : waiting repository.buffer = [] :=
      waiting_eq_nil_iff.mpr (Nat.eq_zero_of_not_pos waits)
    refine ⟨rfl, rfl, empty, List.nil_prefix, fun _ => ?_⟩
    rw [empty]
    exact ⟨rfl, .nil⟩

theorem steps_shutdown {well : Prop} {throws : Bool}
    (sound : well → repository.isInitialized = true →
      ExportsWell exporters repository repository.buffer) :
    Steps well repository (repository.shutdown exporters throws).1
      (repository.shutdown exporters throws).2 := by
  have exported := exported_shutdown exporters repository
  rw [TelemetryRepositoryImpl.shutdown]
  dsimp only
  generalize (if 0 < repository.buffer.size then repository.exportBatch exporters
    else (repository, [])) = outcome at exported ⊢
  split_ifs with initialized escaped throwing
  · exact steps_of_exported exported (fun holds => sound holds initialized) rfl exported.drained
      fun shut => absurd shut Bool.false_ne_true
  · exact steps_of_exported exported (fun holds => sound holds initialized) rfl (waiting_clear _)
      fun shut => absurd shut Bool.false_ne_true
  · exact steps_of_exported exported (fun holds => sound holds initialized) rfl (waiting_clear _)
      fun _ => rfl
  · refine ⟨(List.append_nil _).symm, ⟨[], fun _ => rfl, ?_⟩, fun _ => .inl rfl, id,
      fun _ => Bool.eq_false_iff.mpr initialized⟩
    rw [List.append_nil]
    exact List.Perm.of_eq (List.append_nil _).symm

/-- A step does what a step does, and loses nothing where the rule says so. -/
theorem steps_of_step
    (stepped : TelemetryRepositoryImpl.step exporters input repository = some (next, seen)) :
    Steps (LosesNothing exporters input repository) repository next seen := by
  cases input with
  | initializeNative initialized =>
      obtain ⟨rfl, rfl⟩ := Prod.mk.inj (Option.some.inj stepped)
      exact steps_of_still rfl rfl fun dead => (Bool.or_eq_false_iff.mp dead).2
  | exportTrace =>
      obtain ⟨rfl, rfl⟩ := Prod.ext_iff.mp (Option.some.inj stepped)
      rw [TelemetryRepositoryImpl.exportTrace]
      split_ifs with initialized
      · exact steps_accept adds_addTrace initialized fun holds => holds initialized
      · exact steps_of_still rfl rfl id
  | exportSpan =>
      obtain ⟨rfl, rfl⟩ := Prod.ext_iff.mp (Option.some.inj stepped)
      exact steps_acceptRetrying adds_addSpan fun holds => holds
  | exportMetric =>
      obtain ⟨rfl, rfl⟩ := Prod.ext_iff.mp (Option.some.inj stepped)
      exact steps_acceptRetrying adds_addMetric fun holds => holds
  | exportEvent =>
      obtain ⟨rfl, rfl⟩ := Prod.ext_iff.mp (Option.some.inj stepped)
      exact steps_acceptRetrying adds_addEvent fun holds => holds
  | tick =>
      rw [TelemetryRepositoryImpl.step] at stepped
      split_ifs at stepped
      obtain ⟨rfl, rfl⟩ := Prod.ext_iff.mp (Option.some.inj stepped)
      exact steps_tick fun holds => holds
  | flush =>
      obtain ⟨rfl, rfl⟩ := Prod.ext_iff.mp (Option.some.inj stepped)
      exact steps_flush fun holds => holds
  | shutdown throws =>
      obtain ⟨rfl, rfl⟩ := Prod.ext_iff.mp (Option.some.inj stepped)
      exact steps_shutdown fun holds => holds
  | setFallbackExporter exporter =>
      obtain ⟨rfl, rfl⟩ := Prod.mk.inj (Option.some.inj stepped)
      rw [TelemetryRepositoryImpl.setFallbackExporter]
      obtain ⟨_, same⟩ := updateExporterIfNeeded_eq
        { repository with fallbackExporter := some exporter } (some exporter)
      rw [same]
      exact steps_of_still rfl rfl id
  | assignFallbackExporter exporter =>
      obtain ⟨rfl, rfl⟩ := Prod.mk.inj (Option.some.inj stepped)
      exact steps_of_still rfl rfl id

/-! ## Runs -/

variable {inputs : List (TelemetryInput Exporter)} {log : List TelemetryStep} {lost : List Nat}

/-- What was accepted is handed out, waits or is lost. -/
def Accounted (log : List TelemetryStep) (repository : TelemetryRepositoryImpl Exporter)
    (lost : List Nat) : Prop :=
  (handedItems log ++ (waiting repository.buffer ++ lost)).Perm (List.range repository.accepted)

omit [DecidableEq Exporter] in
theorem Accounted.step {lost' : List Nat} (accounted : Accounted log repository lost)
    (accepted : List.range next.accepted = List.range repository.accepted ++ seen.accepted.toList)
    (moved : (seen.handed.map Prod.fst ++ (waiting next.buffer ++ lost')).Perm
      (waiting repository.buffer ++ seen.accepted.toList)) :
    Accounted (log ++ [seen]) next (lost' ++ lost) := by
  rw [Accounted, handedItems_append, handedItems_singleton, accepted]
  calc handedItems log ++ seen.handed.map Prod.fst ++ (waiting next.buffer ++ (lost' ++ lost))
      = handedItems log ++
          (seen.handed.map Prod.fst ++ (waiting next.buffer ++ lost') ++ lost) := by
        simp only [List.append_assoc]
    List.Perm _ (handedItems log ++
          (waiting repository.buffer ++ seen.accepted.toList ++ lost)) :=
        (moved.append_right lost).append_left _
    List.Perm _ (handedItems log ++ (waiting repository.buffer ++ lost) ++
          seen.accepted.toList) := by
        simp only [List.append_assoc]
        exact ((List.perm_append_comm).append_left _).append_left _
    List.Perm _ (List.range repository.accepted ++ seen.accepted.toList) :=
        accounted.append_right _

omit [DecidableEq Exporter] in
theorem accounted_start (empty : waiting repository.buffer = [])
    (fresh : repository.accepted = 0) : Accounted [] repository [] := by
  rw [Accounted, empty, fresh]
  exact List.Perm.refl []

/-- No item is handed out twice, whatever the timer and the exporters do. -/
theorem nodup_handedItems {batchSize maxRetries : Int}
    (ran : run (TelemetryRepositoryImpl.step exporters) inputs
      { buffer := { batchSize := batchSize }, maxRetries := maxRetries } = some (next, log)) :
    (handedItems log).Nodup := by
  have accounted : ∃ lost, Accounted ([] ++ log) next lost := by
    refine run_invariant (fun log repository => ∃ lost, Accounted log repository lost) ?_ []
      ⟨[], accounted_start rfl rfl⟩ ran
    rintro log input repository next seen ⟨lost, accounted⟩ stepped
    have steps := steps_of_step stepped
    obtain ⟨lost', -, moved⟩ := steps.conserved
    exact ⟨lost' ++ lost, accounted.step steps.accepted moved⟩
  obtain ⟨lost, accounted⟩ := accounted
  have distinct : (handedItems log ++ (waiting next.buffer ++ lost)).Nodup :=
    accounted.nodup_iff.mpr List.nodup_range
  exact (List.nodup_append.mp distinct).1

/-- Nothing is lost so far, and what waits comes behind what was handed out. -/
structure Conserving (log : List TelemetryStep) (repository : TelemetryRepositoryImpl Exporter) :
    Prop where
  accounted : Accounted log repository []
  accepted : acceptedItems log = List.range repository.accepted
  sorted : (handedItems log).Pairwise (· < ·)
  behind : ∀ item ∈ handedItems log, ∀ item' ∈ waiting repository.buffer, item < item'
  idle : repository.isInitialized = false → waiting repository.buffer = []
  complete : ∀ before seen after, log = before ++ seen :: after → seen.shutDown = true →
    ∀ item ∈ acceptedItems (before ++ [seen]), item ∈ handedItems (before ++ [seen])

omit [DecidableEq Exporter] in
theorem conserving_start (empty : waiting repository.buffer = [])
    (fresh : repository.accepted = 0) : Conserving [] repository := by
  refine ⟨accounted_start empty fresh, ?_, .nil, fun item member => absurd member List.not_mem_nil,
    fun _ => empty, ?_⟩
  · rw [fresh]
    rfl
  · intro before seen after split
    cases before <;> cases split

omit [DecidableEq Exporter] in
/-- What is handed out or waits behind it is behind what was handed out before. -/
theorem Conserving.lt_of_mem {item item' : Nat} (conserving : Conserving log repository)
    (member : item ∈ handedItems log)
    (later : item' ∈ waiting repository.buffer ++ seen.accepted.toList)
    (accepted : List.range next.accepted = List.range repository.accepted ++ seen.accepted.toList) :
    item < item' := by
  obtain waits | new := List.mem_append.mp later
  · exact conserving.behind item member item' waits
  · have known : item ∈ List.range repository.accepted :=
      conserving.accounted.mem_iff.mp (List.mem_append_left _ member)
    have increasing :
        (List.range repository.accepted ++ seen.accepted.toList).Pairwise (· < ·) := by
      rw [← accepted]
      exact List.pairwise_lt_range
    exact (List.pairwise_append.mp increasing).2.2 item known item' new

theorem Conserving.step (conserving : Conserving log repository)
    (well : LosesNothing exporters input repository)
    (stepped : TelemetryRepositoryImpl.step exporters input repository = some (next, seen)) :
    Conserving (log ++ [seen]) next := by
  have steps := steps_of_step stepped
  obtain ⟨lost, nothing, moved⟩ := steps.conserved
  obtain rfl := nothing well
  have accounted : Accounted (log ++ [seen]) next [] :=
    conserving.accounted.step steps.accepted moved
  have accepted : acceptedItems (log ++ [seen]) = List.range next.accepted := by
    rw [acceptedItems_append, acceptedItems_singleton, conserving.accepted, steps.accepted]
  have idle := steps.idle conserving.idle
  -- What the step hands out, and what it leaves, was waiting or is new.
  have later {item : Nat} (member : item ∈ seen.handed.map Prod.fst ++ waiting next.buffer) :
      item ∈ waiting repository.buffer ++ seen.accepted.toList := by
    rw [List.append_nil] at moved
    exact moved.mem_iff.mp member
  refine ⟨accounted, accepted, ?_, ?_, idle, ?_⟩
  · rw [handedItems_append, handedItems_singleton, List.pairwise_append]
    refine ⟨conserving.sorted, ?_, ?_⟩
    · obtain nothing | ⟨-, sorted⟩ := steps.sorted well
      · rw [nothing]
        exact .nil
      · exact sorted
    · intro item member item' handed
      exact conserving.lt_of_mem member (later (List.mem_append_left _ handed)) steps.accepted
  · intro item member item' waits
    rw [handedItems_append, handedItems_singleton] at member
    obtain nothing | ⟨empty, -⟩ := steps.sorted well
    · rw [nothing, List.append_nil] at member
      exact conserving.lt_of_mem member (later (List.mem_append_right _ waits)) steps.accepted
    · rw [empty] at waits
      cases waits
  · intro before seen' after split shut item member
    obtain ⟨rfl, rfl⟩ | ⟨earlier, rfl⟩ := append_singleton_split split
    · rw [accepted] at member
      have placed := accounted.mem_iff.mpr member
      rwa [idle (steps.shutDown shut), List.append_nil, List.append_nil] at placed
    · exact conserving.complete before seen' earlier rfl shut item member

/-- Everything is delivered in every run whose steps lose nothing. -/
theorem telemetry_delivers {batchSize maxRetries : Int}
    (well : Along (TelemetryRepositoryImpl.step exporters) (LosesNothing exporters) inputs
      { buffer := { batchSize := batchSize }, maxRetries := maxRetries })
    (ran : run (TelemetryRepositoryImpl.step exporters) inputs
      { buffer := { batchSize := batchSize }, maxRetries := maxRetries } = some (next, log)) :
    ConservesItems log := by
  have conserving : Conserving ([] ++ log) next :=
    run_invariant_along Conserving (fun conserving well stepped => conserving.step well stepped) []
      (conserving_start rfl rfl) well ran
  rw [List.nil_append] at conserving
  refine ⟨conserving.complete, ?_, conserving.sorted.imp Nat.le_of_lt⟩
  intro before item after split again
  have sorted := conserving.sorted
  rw [handedItems_eq_map, split, List.map_append, List.map_cons] at sorted
  have rest := (List.pairwise_append.mp sorted).2.1
  exact Nat.lt_irrefl item ((List.pairwise_cons.mp rest).1 item again)

/-- An exporter with which every call succeeds. -/
def reliableExporter : TelemetryExporter where
  exportTrace _ := .success
  exportSpan _ := .success
  exportMetric _ := .success
  exportEvent _ := .success

/-- A trace and a span are flushed, and a metric waits for the shutdown. -/
theorem telemetry_delivers_flushed :
    ConservesItems [{}, {}, { accepted := some 0 }, { accepted := some 1 },
      { handed := [(0, .success), (1, .success)] }, { accepted := some 2 }, {},
      { handed := [(2, .success)], shutDown := true }] := by
  obtain ⟨final, ran⟩ : ∃ final, run
      (TelemetryRepositoryImpl.step fun _ : Unit => reliableExporter)
      [.initializeNative true, .setFallbackExporter (), .exportTrace, .exportSpan, .flush,
        .exportMetric, .initializeNative false, .shutdown false]
      { buffer := { batchSize := 100 }, maxRetries := 3 } = some (final, _) := ⟨_, rfl⟩
  refine telemetry_delivers ?_ ran
  refine (along_cons_iff rfl).mpr ⟨trivial, (along_cons_iff rfl).mpr ⟨trivial, ?_⟩⟩
  refine (along_cons_iff rfl).mpr ⟨?_, (along_cons_iff rfl).mpr ⟨?_, ?_⟩⟩
  · exact fun _ full => absurd full (by decide)
  · exact fun _ _ full => absurd full (by decide)
  refine (along_cons_iff rfl).mpr ⟨fun _ => .inr ⟨by decide, (), rfl, by decide⟩, ?_⟩
  refine (along_cons_iff rfl).mpr ⟨?_, (along_cons_iff rfl).mpr ⟨trivial, ?_⟩⟩
  · exact fun _ _ full => absurd full (by decide)
  exact (along_cons_iff rfl).mpr ⟨fun _ => .inr ⟨by decide, (), rfl, by decide⟩, trivial⟩

/-- The timer fires between a trace and the shutdown: the trace is handed to nobody. -/
theorem tick_loses_trace :
    ¬ ∀ (inputs : List (TelemetryInput Unit)) (final : TelemetryRepositoryImpl Unit)
      (log : List TelemetryStep),
      run (TelemetryRepositoryImpl.step fun _ => reliableExporter) inputs {} = some (final, log) →
        ConservesItems log := by
  intro always
  have conserves := always [.initializeNative true, .setFallbackExporter (), .exportTrace, .tick,
    .shutdown false] _ [{}, {}, { accepted := some 0 }, {}, { shutDown := true }] rfl
  have handed := conserves.complete [{}, {}, { accepted := some 0 }, {}] { shutDown := true } []
    rfl rfl 0 (by decide)
  exact absurd handed (by decide)

end OdbcFast.Verification
