import OdbcFast.Dart.AsyncConnection

/-!
# Answers find their own requests

Whatever the order of sends, answers, time-outs, crashes, recoveries and disposals, and
whatever the workers send, the future of a request completes at most once: with an answer
that carries the number of the request, or with an error. Numbers are never used again,
not even behind a recovery, so a late answer finds no entry. `dispose` leaves no request
waiting.
-/

namespace OdbcFast.Verification

open Wire Dart AsyncConnection

def settlements (effects : List Effect) : List (Settlement (Completion WorkerResponse)) :=
  effects.filterMap fun
    | .settlement settlement => some settlement
    | _ => none

/-- The futures that were handed out. -/
def opened (effects : List Effect) : List WorkerRequest :=
  effects.filterMap fun
    | .opened request => some request
    | _ => none

def effectsOf (log : List Entry) : List Effect := log.flatMap Entry.effects

/-- The numbers of the requests whose futures have completed. -/
def completed (effects : List Effect) : List Nat :=
  (settlements effects).map fun
    | .settled id _ => id
    | .settledTwice id => id

structure Correlated (log : List Entry) : Prop where
  /-- A future is known by its number. -/
  distinct : ((opened (effectsOf log)).map WorkerRequest.requestId).Nodup
  once : (completed (effectsOf log)).Nodup
  neverTwice : ∀ id, .settledTwice id ∉ settlements (effectsOf log)
  own : ∀ entry ∈ log, ∀ id response, .settled id (.ok response) ∈ settlements entry.effects →
    response.requestId = id ∧ ∃ port, entry.event = .message port (.response response)
  disposed : ∀ before effects after, log = before ++ ⟨.dispose, effects⟩ :: after →
    ∀ request ∈ opened (effectsOf before),
      request.requestId ∈ completed (effectsOf (before ++ [⟨.dispose, effects⟩]))

theorem settlements_append (effects effects' : List Effect) :
    settlements (effects ++ effects') = settlements effects ++ settlements effects' :=
  List.filterMap_append

theorem opened_append (effects effects' : List Effect) :
    opened (effects ++ effects') = opened effects ++ opened effects' :=
  List.filterMap_append

theorem settlements_map (done : List (Settlement (Completion WorkerResponse))) :
    settlements (done.map Effect.settlement) = done := by
  rw [settlements, List.filterMap_map]
  exact List.filterMap_some

theorem opened_map (done : List (Settlement (Completion WorkerResponse))) :
    opened (done.map Effect.settlement) = [] := by
  rw [opened, List.filterMap_map, List.filterMap_eq_nil_iff]
  exact fun _ _ => rfl

/-- The answer that a message carries. -/
def responseOf : Event → Option WorkerResponse
  | .message _ (.response response) => some response
  | _ => none

abbrev Table := Correlation RequestType (Completion WorkerResponse)

variable {responded : Option WorkerResponse} {table next last : Table}
  {effects effects' : List Effect}

/-- What a part of an event does to the table: it hands out futures with the next numbers,
and completes futures with errors or with the answer that has arrived. -/
structure TableStep (responded : Option WorkerResponse) (table next : Table)
    (effects : List Effect) : Prop where
  settles : ∃ done, Correlation.Settles done table next ∧
    settlements effects = done.map Settlement.of ∧
    ∀ id response, (id, .ok response) ∈ done → responded = some response ∧ response.requestId = id
  numbers : ∃ count, next.counter = table.counter + count ∧
    (opened effects).map WorkerRequest.requestId = List.range' table.counter count

namespace TableStep

/-- Nothing is handed out and nothing completes. -/
theorem inert (sound : table.Sound) (settled : settlements effects = [])
    (handed : opened effects = []) : TableStep responded table table effects where
  settles := ⟨[], .refl sound, settled, by rintro _ _ ⟨⟩⟩
  numbers := ⟨0, rfl, by rw [handed]; rfl⟩

theorem refl (sound : table.Sound) : TableStep responded table table [] := inert sound rfl rfl

theorem sound (acts : TableStep responded table next effects) : next.Sound := by
  obtain ⟨done, settles, -, -⟩ := acts.settles
  exact settles.sound

theorem trans (first : TableStep responded table next effects)
    (second : TableStep responded next last effects') :
    TableStep responded table last (effects ++ effects') := by
  obtain ⟨done, settles, told, own⟩ := first.settles
  obtain ⟨done', settles', told', own'⟩ := second.settles
  obtain ⟨count, counter, numbers⟩ := first.numbers
  obtain ⟨count', counter', numbers'⟩ := second.numbers
  refine ⟨⟨done ++ done', settles.trans settles', ?_, ?_⟩, count + count', ?_, ?_⟩
  · rw [settlements_append, told, told', List.map_append]
  · intro id response member
    rcases List.mem_append.mp member with member | member
    · exact own id response member
    · exact own' id response member
  · rw [counter', counter, Nat.add_assoc]
  · rw [opened_append, List.map_append, numbers, numbers', counter, ← List.range'_append_1]

/-- Completions that hand out no future. -/
theorem of_settles {done : List (Nat × Completion WorkerResponse)}
    {notices : List (Settlement (Completion WorkerResponse))}
    (settles : Correlation.Settles done table next) (told : notices = done.map Settlement.of)
    (counter : next.counter = table.counter)
    (own : ∀ id response, (id, .ok response) ∈ done →
      responded = some response ∧ response.requestId = id) :
    TableStep responded table next (notices.map .settlement) where
  settles := ⟨done, settles, by rw [settlements_map, told], own⟩
  numbers := ⟨0, counter, by rw [opened_map]; rfl⟩

end TableStep

section

variable {connection : AsyncConnection} {acted : AsyncConnection × List Effect}

theorem tableStep_sendRequest (sound : connection.table.Sound) (type : RequestType) :
    TableStep responded connection.table (sendRequest type connection).1.table
      (sendRequest type connection).2 := by
  rw [sendRequest]
  split
  · refine ⟨⟨_, .refuse sound type notInitialized, rfl, ?_⟩, 1, rfl, rfl⟩
    intro id response member
    cases List.mem_singleton.mp member
  · exact ⟨⟨[], .register sound type, rfl, by rintro _ _ ⟨⟩⟩, 1, rfl, rfl⟩

theorem tableStep_failAllPending (sound : connection.table.Sound) (message : String) :
    TableStep responded connection.table (failAllPending message connection).1.table
      (failAllPending message connection).2 := by
  obtain ⟨done, settles, told, failed⟩ :=
    Correlation.failAll_spec sound (workerTerminated message)
  refine .of_settles settles told (Correlation.counter_failAll sound _) ?_
  intro id response member
  cases failed _ member

theorem tableStep_handleResponse (sound : connection.table.Sound) (response : WorkerResponse) :
    TableStep (some response) connection.table (handleResponse response connection).1.table
      (handleResponse response connection).2 := by
  obtain ⟨done, settles, told, only, -⟩ :=
    Correlation.answer_spec sound response.requestId (.ok response)
  refine .of_settles settles told (Correlation.counter_answer _ _) ?_
  intro id response' member
  cases only _ member
  exact ⟨rfl, rfl⟩

theorem tableStep_onTimeout (sound : connection.table.Sound) (requestId : Nat) :
    TableStep responded connection.table (onTimeout requestId connection).1.table
      (onTimeout requestId connection).2 := by
  rw [onTimeout]
  split
  · exact .refl sound
  · obtain ⟨done, settles, told, only⟩ :=
      Correlation.expire_spec sound requestId (timedOut connection.effectiveTimeout)
    refine .of_settles settles told (Correlation.counter_expire _ _) ?_
    intro id response member
    cases only _ member

theorem table_dispose (connection : AsyncConnection) :
    connection.dispose.1.table =
      (failAllPending "Connection disposed; worker shutting down" connection).1.table := by
  rw [dispose]
  cases connection.receivePort <;> rfl

theorem tableStep_dispose (sound : connection.table.Sound) :
    TableStep responded connection.table connection.dispose.1.table connection.dispose.2 := by
  have failed := @tableStep_failAllPending responded _ sound
    "Connection disposed; worker shutting down"
  rw [table_dispose]
  refine failed.trans (.inert failed.sound ?_ ?_)
  · cases connection.workerSendPort <;> rfl
  · cases connection.workerSendPort <;> rfl

@[simp] theorem table_initializeWorker (connection : AsyncConnection) :
    connection.initializeWorker.table = connection.table := by
  rw [initializeWorker]
  split <;> rfl

theorem tableStep_runSingleRecovery (sound : connection.table.Sound) :
    TableStep responded connection.table connection.runSingleRecovery.1.table
      connection.runSingleRecovery.2 := by
  rw [runSingleRecovery]
  split
  · exact .refl sound
  · dsimp only
    rw [table_initializeWorker]
    exact tableStep_dispose sound

theorem tableStep_triggerAutoRecovery (sound : connection.table.Sound) :
    TableStep responded connection.table connection.triggerAutoRecovery.1.table
      connection.triggerAutoRecovery.2 := by
  rw [triggerAutoRecovery]
  split
  · exact .refl sound
  · exact tableStep_runSingleRecovery sound

theorem tableStep_onError (sound : connection.table.Sound) (error : String) :
    TableStep responded connection.table (connection.onError error).1.table
      (connection.onError error).2 := by
  have failed := @tableStep_failAllPending responded _ sound
    ("Worker isolate error: " ++ error)
  exact failed.trans (tableStep_triggerAutoRecovery failed.sound)

theorem tableStep_onDone (sound : connection.table.Sound) :
    TableStep responded connection.table connection.onDone.1.table connection.onDone.2 := by
  rw [onDone]
  by_cases empty : connection.table.waiting.entries.isEmpty
  · rw [if_pos empty]
    exact tableStep_triggerAutoRecovery sound
  · rw [if_neg empty]
    have failed := @tableStep_failAllPending responded _ sound
      "Worker isolate terminated"
    exact failed.trans (tableStep_triggerAutoRecovery failed.sound)

theorem tableStep_greet (sound : connection.table.Sound) (task worker : Nat) :
    TableStep responded connection.table (connection.greet task worker).1.table
      (connection.greet task worker).2 :=
  @tableStep_sendRequest _ { connection with workerSendPort := some worker } sound
    .initializeEnvironment

theorem tableStep_onSendPort (sound : connection.table.Sound) (port worker : Nat)
    (listener : Listener) :
    TableStep responded connection.table (connection.onSendPort port worker listener).1.table
      (connection.onSendPort port worker listener).2 := by
  rw [onSendPort]
  split
  · exact .refl sound
  · dsimp only
    split
    · exact @tableStep_greet _ { connection with
        listeners := connection.listeners.set port { listener with handshake := some worker } }
        sound _ worker
    · exact .refl sound

theorem tableStep_onMessage (sound : connection.table.Sound) (port : Nat)
    (message : WorkerMessage) :
    TableStep (responseOf (.message port message)) connection.table
      (connection.onMessage port message).1.table (connection.onMessage port message).2 := by
  rw [onMessage]
  split
  · exact .refl sound
  · split
    · exact .refl sound
    · cases message with
      | sendPort worker => exact tableStep_onSendPort sound port worker _
      | response response => exact tableStep_handleResponse sound response

theorem tableStep_onSpawned (sound : connection.table.Sound) {task : Nat}
    (spawned : connection.onSpawned task = some acted) :
    TableStep responded connection.table acted.1.table acted.2 := by
  rw [onSpawned] at spawned
  split at spawned
  · split at spawned
    · cases spawned
      exact tableStep_greet sound task _
    · cases spawned
      exact .refl sound
  · cases spawned

theorem tableStep_onSpawnFailed (sound : connection.table.Sound) {task : Nat} {thrown : Thrown}
    (failed : connection.onSpawnFailed task thrown = some acted) :
    TableStep responded connection.table acted.1.table acted.2 := by
  rw [onSpawnFailed] at failed
  split at failed
  · cases failed
    exact .refl sound
  · cases failed

theorem tableStep_request (sound : connection.table.Sound) {type : RequestType}
    (made : connection.request type = some acted) :
    TableStep responded connection.table acted.1.table acted.2 := by
  rw [request] at made
  split at made
  · cases made
  · split at made
    · cases made
      exact .refl sound
    · cases made
      exact tableStep_sendRequest sound type

/-- Every event. -/
theorem tableStep_handle (sound : connection.table.Sound) {event : Event}
    (handled : connection.handle event = some acted) :
    TableStep (responseOf event) connection.table acted.1.table acted.2 := by
  cases event with
  | request type => exact tableStep_request sound handled
  | initializeWorker =>
      cases handled
      rw [table_initializeWorker]
      exact .refl sound
  | spawned task => exact tableStep_onSpawned sound handled
  | spawnFailed task thrown => exact tableStep_onSpawnFailed sound handled
  | message port message =>
      cases handled
      exact tableStep_onMessage sound port message
  | error error =>
      cases handled
      exact tableStep_onError sound error
  | done =>
      cases handled
      exact tableStep_onDone sound
  | timeout requestId =>
      cases handled
      exact tableStep_onTimeout sound requestId
  | recoverWorker =>
      cases handled
      exact tableStep_runSingleRecovery sound
  | dispose =>
      cases handled
      exact tableStep_dispose sound

end

/-! ## Whole runs -/

theorem table_wake (connection : AsyncConnection) (task : Nat) :
    (connection.wake task).table = connection.table := by
  rw [wake]
  split
  · split
    · rfl
    · split <;> rfl
  · rfl

theorem table_wakeAll (connection : AsyncConnection) :
    connection.wakeAll.table = connection.table := by
  rw [wakeAll]
  induction List.range connection.tasks.length generalizing connection with
  | nil => rfl
  | cons task tasks ih => rw [List.foldl_cons, ih, table_wake]

/-- What the log tells of the table. -/
structure Follows (log : List Entry) (connection : AsyncConnection) : Prop where
  settles : ∃ done, Correlation.Settles done {} connection.table ∧
    settlements (effectsOf log) = done.map Settlement.of
  numbers : (opened (effectsOf log)).map WorkerRequest.requestId =
    List.range connection.table.counter

theorem completed_of_settlements {done : List (Nat × Completion WorkerResponse)}
    (told : settlements effects = done.map Settlement.of) :
    completed effects = done.map Prod.fst := by
  rw [completed, told, List.map_map]
  rfl

theorem effectsOf_concat (log : List Entry) (entry : Entry) :
    effectsOf (log ++ [entry]) = effectsOf log ++ entry.effects := by
  rw [effectsOf, List.flatMap_append, List.flatMap_singleton]
  rfl

section

variable {log : List Entry} {connection next : AsyncConnection} {event : Event} {entry : Entry}

theorem tableStep_step (sound : connection.table.Sound)
    (stepped : step event connection = some (next, entry)) :
    entry.event = event ∧
      TableStep (responseOf event) connection.table next.table entry.effects := by
  obtain ⟨acted, handled, same⟩ := Option.map_eq_some_iff.mp stepped
  cases same
  rw [table_wakeAll]
  exact ⟨rfl, tableStep_handle sound handled⟩

theorem Follows.sound (follows : Follows log connection) : connection.table.Sound := by
  obtain ⟨done, settles, -⟩ := follows.settles
  exact settles.sound

theorem Follows.step (follows : Follows log connection)
    (stepped : step event connection = some (next, entry)) : Follows (log ++ [entry]) next := by
  obtain ⟨-, acts⟩ := tableStep_step follows.sound stepped
  obtain ⟨done, settles, told⟩ := follows.settles
  obtain ⟨done', settles', told', -⟩ := acts.settles
  obtain ⟨count, counter, numbers⟩ := acts.numbers
  refine ⟨⟨done ++ done', settles.trans settles', ?_⟩, ?_⟩
  · rw [effectsOf_concat, settlements_append, told, told', List.map_append]
  · rw [effectsOf_concat, opened_append, List.map_append, follows.numbers, numbers, counter,
      List.range_eq_range', List.range_eq_range', ← List.range'_append_1, Nat.zero_add]

/-- Every number that was handed out before `dispose` has completed behind it. -/
theorem Follows.completed_of_dispose (follows : Follows log connection)
    (stepped : AsyncConnection.step .dispose connection = some (next, entry))
    {request : WorkerRequest} (made : request ∈ opened (effectsOf log)) :
    request.requestId ∈ completed (effectsOf (log ++ [entry])) := by
  have number := List.mem_map_of_mem (f := WorkerRequest.requestId) made
  rw [follows.numbers, List.mem_range] at number
  have after := follows.step stepped
  obtain ⟨done, settles, told⟩ := after.settles
  obtain ⟨-, acts⟩ := tableStep_step follows.sound stepped
  obtain ⟨count, counter, -⟩ := acts.numbers
  have inside : request.requestId < next.table.promises.length := by
    rw [← after.sound.counted, counter]
    exact Nat.lt_add_right count number
  have gone : ¬ next.table.Waits request.requestId := by
    obtain ⟨acted, handled, same⟩ := Option.map_eq_some_iff.mp stepped
    cases same
    cases handled
    rw [table_wakeAll, table_dispose]
    exact Correlation.not_waits_failAll follows.sound _
  obtain ⟨outcome, ended⟩ := (Correlation.waits_or_completed inside).resolve_left gone
  rw [completed_of_settlements told]
  have member := (settles.future_iff.mp ended).resolve_left (by rintro ⟨⟩)
  exact List.mem_map_of_mem (f := Prod.fst) member

theorem Correlated.of_follows (follows : Follows log connection)
    (own : ∀ entry ∈ log, ∀ id response,
      .settled id (.ok response) ∈ settlements entry.effects →
        response.requestId = id ∧ ∃ port, entry.event = .message port (.response response))
    (disposed : ∀ before effects after, log = before ++ ⟨.dispose, effects⟩ :: after →
      ∀ request ∈ opened (effectsOf before),
        request.requestId ∈ completed (effectsOf (before ++ [⟨.dispose, effects⟩]))) :
    Correlated log := by
  obtain ⟨done, settles, told⟩ := follows.settles
  refine ⟨?_, ?_, ?_, own, disposed⟩
  · rw [follows.numbers]
    exact List.nodup_range
  · rw [completed_of_settlements told]
    exact settles.once
  · intro id twice
    rw [told] at twice
    obtain ⟨_, -, same⟩ := List.mem_map.mp twice
    cases same

theorem responseOf_eq_some {response : WorkerResponse}
    (carries : responseOf event = some response) :
    ∃ port, event = .message port (.response response) := by
  cases event with
  | message port message =>
      cases message with
      | sendPort worker => cases carries
      | response answer =>
          cases carries
          exact ⟨port, rfl⟩
  | _ => cases carries

end

theorem followed_of_run {requestTimeout : Option Int} {autoRecover : Bool} {events : List Event}
    {log : List Entry} {connection : AsyncConnection}
    (ran : run step events (create requestTimeout autoRecover) = some (connection, log)) :
    Follows log connection ∧ Correlated log := by
  refine run_invariant (fun log connection => Follows log connection ∧ Correlated log)
    ?_ [] ?_ ran
  · intro log event connection next entry ⟨follows, correlated⟩ stepped
    have after := follows.step stepped
    obtain ⟨same, acts⟩ := tableStep_step follows.sound stepped
    obtain ⟨done, -, told, own⟩ := acts.settles
    refine ⟨after, .of_follows after ?_ ?_⟩
    · intro entry' member id response settled
      rcases List.mem_append.mp member with earlier | last
      · exact correlated.own entry' earlier id response settled
      · cases List.mem_singleton.mp last
        rw [told] at settled
        obtain ⟨⟨_, _⟩, ended, same'⟩ := List.mem_map.mp settled
        cases same'
        obtain ⟨carries, number⟩ := own _ _ ended
        exact ⟨number, same ▸ responseOf_eq_some carries⟩
    · intro before effects later split request made
      rcases append_singleton_split split with ⟨rfl, rfl⟩ | ⟨earlier, split⟩
      · cases same
        exact follows.completed_of_dispose stepped made
      · exact correlated.disposed before effects earlier split request made
  · have empty : Follows [] (create requestTimeout autoRecover) :=
      ⟨⟨[], .refl Correlation.sound_empty, rfl⟩, rfl⟩
    refine ⟨empty, .of_follows empty (by rintro _ ⟨⟩) ?_⟩
    intro before effects after split
    cases before <;> cases split

/-- Every future completes once at most, with an answer that carries its own number or with an
error, whatever the order of the events and whatever the workers send; and behind `dispose`
every request that was made before has completed. -/
theorem requests_answered_once (requestTimeout : Option Int) (autoRecover : Bool)
    {events : List Event} {log : List Entry} {connection : AsyncConnection}
    (ran : run step events (create requestTimeout autoRecover) = some (connection, log)) :
    Correlated log :=
  (followed_of_run ran).2

/-- A connect that is answered too late, and a request that a recovery cuts off before the
replaced worker answers it. -/
def lateAnswers : List Event :=
  [.initializeWorker, .spawned 0, .message 0 (.sendPort 7),
    .message 0 (.response ⟨0, .initialized true⟩), .request .connect, .timeout 1,
    .message 0 (.response ⟨1, .connect 3 none⟩), .request .poolCreate, .recoverWorker,
    .message 0 (.response ⟨2, .int 5⟩), .dispose]

theorem late_answers_answered_once :
    ∃ connection log, run step lateAnswers (create none true) = some (connection, log) ∧
      completed (effectsOf log) = [0, 1, 2] ∧ Correlated log :=
  ⟨_, _, rfl, rfl, @requests_answered_once none true lateAnswers _ _ rfl⟩

end OdbcFast.Verification
