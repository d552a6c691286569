import RisingIntelligence.Persister.AtLeastOnce

/-!
# A batch when everything works

The batch stays active, the circuit is closed, and Postgres and Redis answer.  All that can go wrong
then is a row that the table refuses: `createMany` inserts all of its rows or throws.

`acknowledgesAll_iff`: every run acknowledges every position exactly if no decodable message is mapped to
such a row.
-/

namespace RisingIntelligence.Persister

open Async

variable {Event Source Row E : Type}

/-- How calls are answered, over the positions acknowledged so far. -/
def healthy (accepts : Row → Prop) : Handler (persister Row E) (List String) :=
  fun acknowledged c reply acknowledged' =>
    match c, reply with
    | .isActive, reply => reply = .ok true ∧ acknowledged' = acknowledged
    | .circuitIsOpen, reply => reply = .ok false ∧ acknowledged' = acknowledged
    | .createMany data, .ok _ => (∀ row ∈ data, accepts row) ∧ acknowledged' = acknowledged
    | .createMany data, .error _ => (∃ row ∈ data, ¬ accepts row) ∧ acknowledged' = acknowledged
    | .setSeen _ _, reply =>
        (∃ results, reply = .ok (some results) ∧ ∀ result ∈ results, result = none) ∧
          acknowledged' = acknowledged
    | .acknowledge position, reply =>
        (∃ value, reply = .ok value) ∧ acknowledged' = acknowledged ++ [position]
    | _, reply => (∃ value, reply = .ok value) ∧ acknowledged' = acknowledged

theorem healthy_total [Nonempty E] (accepts : Row → Prop) (acknowledged : List String)
    (c : PersisterCall Row) :
    ∃ reply acknowledged', healthy (E := E) accepts acknowledged c reply acknowledged' := by
  obtain ⟨error⟩ := ‹Nonempty E›
  cases c with
  | createMany data =>
      by_cases all : ∀ row ∈ data, accepts row
      · exact ⟨.ok 0, acknowledged, all, rfl⟩
      · simp only [not_forall, exists_prop] at all
        exact ⟨.error error, acknowledged, all, rfl⟩
  | isActive => exact ⟨.ok true, acknowledged, rfl, rfl⟩
  | circuitIsOpen => exact ⟨.ok false, acknowledged, rfl, rfl⟩
  | setSeen keys ttlSeconds =>
      exact ⟨.ok (some []), acknowledged, ⟨[], rfl, fun _ none => absurd none List.not_mem_nil⟩, rfl⟩
  | acknowledge position => exact ⟨.ok (), acknowledged ++ [position], ⟨(), rfl⟩, rfl⟩
  | timeUntilClose | now => exact ⟨.ok (0 : Nat), acknowledged, ⟨_, rfl⟩, rfl⟩
  | recordFailure => exact ⟨.ok false, acknowledged, ⟨_, rfl⟩, rfl⟩
  | lastLagWrite key => exact ⟨.ok none, acknowledged, ⟨_, rfl⟩, rfl⟩
  | keepAlive | commit | pause | resume | recordSuccess => exact ⟨.ok (), acknowledged, ⟨_, rfl⟩, rfl⟩
  | sleep ms | upsertConsumerLag update | setLagWrite key now =>
      exact ⟨.ok (), acknowledged, ⟨_, rfl⟩, rfl⟩

section Batch

variable {accepts : Row → Prop} {codec : EventCodec Event Source Row E} {s t : List String}
  {config : Config}

/-! ## Calls -/

theorem await_returns {c : PersisterCall Row} {R : c.Reply E → Prop}
    (answered : ∀ reply s', healthy accepts s c reply s' →
      (∃ value, reply = .ok value ∧ R value) ∧ s' = t) :
    (await c : PersisterProgram Row E _ _).wp (healthy accepts) (Program.returned R t) s := by
  intro reply s' step
  obtain ⟨⟨value, rfl, holds⟩, rfl⟩ := answered reply s' step
  exact ⟨⟨value, rfl, holds⟩, rfl⟩

/-- The calls that any reply is fine of. -/
def Unread : PersisterCall Row → Prop
  | .isActive | .circuitIsOpen | .createMany _ | .setSeen _ _ | .acknowledge _ => False
  | _ => True

theorem await_unread {c : PersisterCall Row} (unread : Unread c) :
    (await c : PersisterProgram Row E _ _).wp (healthy accepts)
      (Program.returned (fun _ => True) s) s := by
  apply await_returns
  intro reply s' step
  cases c <;> first | exact unread.elim | exact ⟨⟨step.1.choose, step.1.choose_spec, trivial⟩, step.2⟩

theorem wp_unread_bind {α : Type} {c : PersisterCall Row} {Q : Except (ProcessError E) α →
    List String → Prop} (unread : Unread c) {f : c.Reply E → PersisterProgram Row E _ α}
    (rest : ∀ value, (f value).wp (healthy accepts) Q s) :
    (await c >>= f).wp (healthy accepts) Q s :=
  Program.wp_bind_of_returned (await_unread unread) fun value _ => rest value

theorem await_isActive : (await .isActive : PersisterProgram Row E _ _).wp (healthy accepts)
    (Program.returned (· = true) s) s := by
  apply await_returns
  intro reply s' step
  exact ⟨⟨true, step.1, rfl⟩, step.2⟩

theorem await_circuitIsOpen : (await .circuitIsOpen : PersisterProgram Row E _ _).wp
    (healthy accepts) (Program.returned (· = false) s) s := by
  apply await_returns
  intro reply s' step
  exact ⟨⟨false, step.1, rfl⟩, step.2⟩

theorem pure_returns {ε α : Type} {R : α → Prop} {a : α} (holds : R a) :
    (pure a : PersisterProgram Row E ε α).wp (healthy accepts) (Program.returned R s) s :=
  ⟨⟨a, rfl, holds⟩, rfl⟩

/-! ## Collecting -/

theorem pausePartitionWhenCircuitOpen_returns :
    (pausePartitionWhenCircuitOpen : PersisterProgram Row E _ _).wp (healthy accepts)
      (Program.returned (· = false) s) s := by
  apply Program.wp_bind_of_returned await_circuitIsOpen
  intro circuitOpen closed
  rw [closed]
  exact pure_returns rfl

theorem heartbeatLoop_returns (handledMessages : Nat) :
    (heartbeatLoop handledMessages : PersisterProgram Row E _ _).wp (healthy accepts)
      (Program.returned (fun _ => True) s) s := by
  unfold heartbeatLoop
  split
  · exact await_unread trivial
  · exact pure_returns trivial

/-- The decodable messages are collected, in order. -/
theorem collectMessages_returns (messages : List PipelineMessage) (events : List Event)
    (handledMessages : Nat) :
    (collectMessages codec messages events handledMessages).wp (healthy accepts)
      (Program.returned (· = some (events ++ messages.filterMap (decodeMessage codec))) s) s := by
  induction messages generalizing events handledMessages with
  | nil =>
      apply Program.wp_bind_of_returned await_isActive
      intro active here
      rw [here]
      exact pure_returns (by rw [List.filterMap_nil, List.append_nil]; rfl)
  | cons message rest ih =>
      apply Program.wp_bind_of_returned await_isActive
      intro active here
      rw [here, if_pos rfl]
      have next : ∀ events', events' ++ rest.filterMap (decodeMessage codec) =
          events ++ (message :: rest).filterMap (decodeMessage codec) →
          (do
            heartbeatLoop (handledMessages + 1)
            collectMessages codec rest events' (handledMessages + 1)).wp (healthy accepts)
            (Program.returned
              (· = some (events ++ (message :: rest).filterMap (decodeMessage codec))) s) s := by
        intro events' same
        apply Program.wp_bind_of_returned (heartbeatLoop_returns _)
        intro _ _
        rw [← same]
        exact ih events' (handledMessages + 1)
      cases found : message.value with
      | none =>
          apply next
          rw [List.filterMap_cons_none]
          rw [decodeMessage, found]
          rfl
      | some value =>
          cases decodes : codec.deserialize value with
          | error error =>
              simp only [decodes]
              apply next
              rw [List.filterMap_cons_none]
              rw [decodeMessage, found, Option.bind_some, decodes]
              rfl
          | ok decoded =>
              simp only [decodes]
              apply next
              have event : decodeMessage codec message = some decoded := by
                rw [decodeMessage, found, Option.bind_some, decodes]
                rfl
              rw [List.filterMap_cons_some event, List.append_assoc]
              rfl

/-! ## Inserting -/

theorem await_createMany {data : List Row} (all : ∀ row ∈ data, accepts row) :
    (await (.createMany data) : PersisterProgram Row E _ _).wp (healthy accepts)
      (Program.returned (fun _ => True) s) s := by
  apply await_returns
  intro reply s' step
  cases reply with
  | ok count => exact ⟨⟨count, rfl, trivial⟩, step.2⟩
  | error error =>
      obtain ⟨⟨row, mem, refused⟩, -⟩ := step
      exact absurd (all row mem) refused

theorem await_createMany_threw {data : List Row} {row : Row} (mem : row ∈ data)
    (refused : ¬ accepts row) :
    (await (.createMany data) : PersisterProgram Row E _ _).wp (healthy accepts)
      (Program.threw s) s := by
  intro reply s' step
  cases reply with
  | ok count => exact absurd (step.1 row mem) refused
  | error error => exact ⟨⟨.thrown error, rfl⟩, step.2⟩

/-- The row of the event is accepted. -/
def Storable (codec : EventCodec Event Source Row E) (accepts : Row → Prop) (event : Event) : Prop :=
  accepts (codec.toCreateManyInput event)

theorem insertGroups_returns {groups : List (Source × List Event)}
    (all : ∀ group ∈ groups, ∀ event ∈ group.2, Storable codec accepts event) :
    (insertGroups codec groups).wp (healthy accepts) (Program.returned (fun _ => True) s) s := by
  induction groups with
  | nil => exact pure_returns trivial
  | cons group groups ih =>
      obtain ⟨first, rest⟩ := List.forall_mem_cons.1 all
      have rows : ∀ row ∈ group.2.map codec.toCreateManyInput, accepts row := by
        intro row mem
        obtain ⟨event, there, rfl⟩ := List.mem_map.1 mem
        exact first event there
      apply Program.wp_bind_of_returned (await_createMany rows)
      intro count _
      apply Program.wp_bind_of_returned (ih rest)
      intro counts _
      exact pure_returns trivial

theorem insertGroups_threw {groups : List (Source × List Event)}
    {group : Source × List Event} {event : Event} (listed : group ∈ groups)
    (mem : event ∈ group.2) (refused : ¬ Storable codec accepts event) :
    (insertGroups codec groups).wp (healthy accepts) (Program.threw s) s := by
  induction groups with
  | nil => exact absurd listed List.not_mem_nil
  | cons first groups ih =>
      by_cases all : ∀ row ∈ first.2.map codec.toCreateManyInput, accepts row
      · have later : group ∈ groups := by
          rcases List.mem_cons.1 listed with same | later
          · rw [same] at mem
            exact absurd (all _ (List.mem_map_of_mem mem)) refused
          · exact later
        apply Program.wp_bind_of_returned (await_createMany all)
        intro count _
        exact Program.wp_bind_of_threw (ih later)
      · simp only [not_forall, exists_prop] at all
        obtain ⟨row, there, refused⟩ := all
        exact Program.wp_bind_of_threw (await_createMany_threw there refused)

variable [DecidableEq Source] {events : List Event}

theorem persistBatch_returns (all : ∀ event ∈ events, Storable codec accepts event) :
    (persistBatch codec events).wp (healthy accepts) (Program.returned (fun _ => True) s) s := by
  unfold persistBatch
  split
  · exact pure_returns trivial
  · have grouped : ∀ group ∈ groupBySource codec events, ∀ event ∈ group.2,
        Storable codec accepts event := fun group listed event mem =>
      all event ((mem_groupBySource codec events event).1 ⟨group, listed, mem⟩)
    apply Program.wp_bind_of_returned (insertGroups_returns grouped)
    intro insertedBySource _
    exact pure_returns trivial

theorem persistBatch_threw {event : Event} (mem : event ∈ events)
    (refused : ¬ Storable codec accepts event) :
    (persistBatch codec events).wp (healthy accepts) (Program.threw s) s := by
  obtain ⟨group, listed, grouped⟩ := (mem_groupBySource codec events event).2 mem
  unfold persistBatch
  rw [if_neg]
  · exact Program.wp_bind_of_threw (insertGroups_threw listed grouped refused)
  · intro empty
    rw [List.isEmpty_iff.1 empty] at mem
    exact absurd mem List.not_mem_nil

omit [DecidableEq Source] in
theorem markEventsSeen_returns :
    (markEventsSeen codec config events).wp (healthy accepts)
      (Program.returned (fun _ => True) s) s := by
  unfold markEventsSeen
  split
  · exact pure_returns trivial
  · have answered : ((Program.call (I := persister Row E)
        (PersisterCall.setSeen (events.map (seenKey codec)) config.seenTtlSeconds)).mapError
          MarkSeenError.thrown).wp (healthy accepts)
        (Program.returned (fun results => ∃ entries, results = some entries ∧
          ∀ entry ∈ entries, entry = none) s) s := by
      intro reply s' step
      obtain ⟨⟨entries, rfl, blank⟩, same⟩ := step
      exact ⟨⟨some entries, rfl, entries, rfl, blank⟩, same⟩
    apply Program.wp_bind_of_returned answered
    intro results known
    obtain ⟨entries, rfl, blank⟩ := known
    have noError : entries.findSome? id = none := List.findSome?_eq_none_iff.2 blank
    simp only [noError]
    exact pure_returns trivial

theorem persistEventsWithCircuitHandling_returns
    (all : ∀ event ∈ events, Storable codec accepts event) :
    (persistEventsWithCircuitHandling codec config events).wp (healthy accepts)
      (Program.returned (fun _ => True) s) s := by
  apply Program.wp_tryCatch_of_returned
  have persisted : (persistEvents codec config events).wp (healthy accepts)
      (Program.returned (fun _ => True) s) s := by
    unfold persistEvents
    split
    · exact pure_returns trivial
    · have marked : (persistAndMarkSeen codec config events).wp (healthy accepts)
          (Program.returned (fun _ => True) s) s := by
        apply Program.wp_bind_of_returned (persistBatch_returns all)
        intro _ _
        exact Program.wp_tryCatch_of_returned markEventsSeen_returns
      apply Program.wp_bind_of_returned marked
      intro _ _
      exact await_unread trivial
  apply Program.wp_bind_of_returned persisted
  intro _ _
  apply Program.wp_bind_of_returned await_circuitIsOpen
  intro _ _
  exact pure_returns trivial

/-- The error is recorded and thrown on. -/
theorem persistEventsWithCircuitHandling_threw {event : Event} (mem : event ∈ events)
    (refused : ¬ Storable codec accepts event) :
    (persistEventsWithCircuitHandling codec config events).wp (healthy accepts)
      (Program.threw s) s := by
  have persisted : (persistEvents codec config events).wp (healthy accepts) (Program.threw s) s := by
    unfold persistEvents
    rw [if_neg]
    · exact Program.wp_bind_of_threw (Program.wp_bind_of_threw (persistBatch_threw mem refused))
    · intro empty
      rw [List.isEmpty_iff.1 empty] at mem
      exact absurd mem List.not_mem_nil
  apply Program.wp_tryCatch_of_threw (Program.wp_bind_of_threw persisted)
  intro error
  have rethrown : ∀ c : PersisterCall Row, Unread c →
      (do
        let _ ← await c
        let _ ← await .circuitIsOpen
        Program.throw error : PersisterProgram Row E (ProcessError E) Unit).wp (healthy accepts)
        (Program.threw s) s := by
    intro c unread
    refine wp_unread_bind unread fun _ => ?_
    apply Program.wp_bind_of_returned await_circuitIsOpen
    intro _ _
    exact ⟨⟨error, rfl⟩, rfl⟩
  cases error with
  | redisWriteFailure cause => exact rethrown .recordSuccess trivial
  | reachedPersistenceWithoutEvents => exact rethrown .recordFailure trivial
  | thrown error => exact rethrown .recordFailure trivial

/-! ## Acknowledging -/

theorem resolveOffsets_returns (messages : List PipelineMessage) :
    (resolveOffsets messages : PersisterProgram Row E _ _).wp (healthy accepts)
      (Program.returned (fun _ => True) (s ++ messages.map (·.position))) s := by
  induction messages generalizing s with
  | nil =>
      rw [List.map_nil, List.append_nil]
      exact pure_returns trivial
  | cons message rest ih =>
      have answered : (await (.acknowledge message.position) : PersisterProgram Row E _ _).wp
          (healthy accepts) (Program.returned (fun _ => True) (s ++ [message.position])) s := by
        apply await_returns
        intro reply s' step
        obtain ⟨⟨value, same⟩, acknowledged⟩ := step
        exact ⟨⟨value, same, trivial⟩, acknowledged⟩
      apply Program.wp_bind_of_returned answered
      intro _ _
      rw [List.map_cons, ← List.singleton_append, ← List.append_assoc]
      exact ih

theorem updateLag_returns {batch : BatchContext} {currentOffset latestOffset lag : Int} :
    (updateLag config batch currentOffset latestOffset lag : PersisterProgram Row E _ _).wp
      (healthy accepts) (Program.returned (fun _ => True) s) s := by
  refine wp_unread_bind (by trivial) fun lastWrite => ?_
  refine wp_unread_bind (by trivial) fun now => ?_
  split
  · exact pure_returns trivial
  · refine wp_unread_bind (by trivial) fun _ => ?_
    refine wp_unread_bind (by trivial) fun _ => ?_
    exact pure_returns trivial

omit [DecidableEq Source] in
theorem lagUpdateStep_returns {context : ProcessBatchContext Event Source Row E}
    {state : ProcessBatchState Event} :
    (lagUpdateStep context state fun _ => pure ()).wp (healthy accepts)
      (Program.returned (fun _ => True) s) s := by
  unfold lagUpdateStep
  split
  · exact pure_returns trivial
  · refine Program.wp_bind_of_returned (R := fun _ => True) ?_ fun _ _ => pure_returns trivial
    apply Program.wp_tryCatch_of_returned
    apply Program.wp_bind_of_returned updateLag_returns
    intro _ _
    exact pure_returns trivial

omit [DecidableEq Source] in
theorem commitAndLag_returns {context : ProcessBatchContext Event Source Row E}
    {state : ProcessBatchState Event} :
    (runAsyncChain context [commitAndHeartbeatStep, lagUpdateStep] state).wp (healthy accepts)
      (Program.returned (fun _ => True) s) s := by
  refine wp_unread_bind (by trivial) fun _ => ?_
  apply Program.wp_bind_of_returned await_isActive
  intro active here
  rw [here, if_pos rfl]
  refine wp_unread_bind (by trivial) fun _ => ?_
  exact lagUpdateStep_returns

end Batch

/-! ## The whole batch -/

section Whole

variable [DecidableEq Source] {accepts : Row → Prop} {codec : EventCodec Event Source Row E}
  {config : Config} {batch : BatchContext} {messages : List PipelineMessage} {s : List String}

/-- Up to the inserts the batch does nothing but collect its events. -/
theorem wp_processBatch_of_collected {Q : Except (ProcessError E) Unit → List String → Prop}
    (rest : (do
        persistEventsWithCircuitHandling codec config (messages.filterMap (decodeMessage codec))
        resolveOffsets messages
        runAsyncChain ⟨codec, config, batch, messages⟩ [commitAndHeartbeatStep, lagUpdateStep]
          ⟨some (messages.filterMap (decodeMessage codec))⟩).wp (healthy accepts) Q s) :
    (processBatch codec config batch messages).wp (healthy accepts) Q s := by
  apply Program.wp_bind_of_returned await_isActive
  intro active here
  rw [here, if_pos rfl]
  apply Program.wp_bind_of_returned pausePartitionWhenCircuitOpen_returns
  intro paused running
  rw [running]
  apply Program.wp_bind_of_returned (collectMessages_returns messages [] 0)
  intro events collected
  rw [collected]
  exact rest

theorem processBatch_acknowledges
    (all : ∀ event ∈ messages.filterMap (decodeMessage codec), Storable codec accepts event) :
    (processBatch codec config batch messages).wp (healthy accepts)
      (Program.returned (fun _ => True) (messages.map (·.position))) [] := by
  apply wp_processBatch_of_collected
  apply Program.wp_bind_of_returned (persistEventsWithCircuitHandling_returns all)
  intro _ _
  apply Program.wp_bind_of_returned (resolveOffsets_returns messages)
  intro _ _
  exact commitAndLag_returns

/-- One row that is refused, and nothing is acknowledged. -/
theorem processBatch_throws {event : Event}
    (mem : event ∈ messages.filterMap (decodeMessage codec))
    (refused : ¬ Storable codec accepts event) :
    (processBatch codec config batch messages).wp (healthy accepts) (Program.threw s) s :=
  wp_processBatch_of_collected
    (Program.wp_bind_of_threw (persistEventsWithCircuitHandling_threw mem refused))

/-- Every run of the batch acknowledges every position. -/
def AcknowledgesAll (codec : EventCodec Event Source Row E) (accepts : Row → Prop)
    (config : Config) (batch : BatchContext) (messages : List PipelineMessage) : Prop :=
  ∀ outcome acknowledged,
    (processBatch codec config batch messages).Runs (healthy accepts) [] outcome acknowledged →
      acknowledged = messages.map (·.position)

theorem acknowledgesAll_iff [Nonempty E] :
    AcknowledgesAll codec accepts config batch messages ↔
      ∀ message ∈ messages, ∀ event, decodeMessage codec message = some event →
        Storable codec accepts event := by
  constructor
  · intro acknowledges message listed event decodes
    by_contra refused
    have mem := List.mem_filterMap.2 ⟨message, listed, decodes⟩
    obtain ⟨outcome, acknowledged, run⟩ := Program.exists_runs (healthy_total accepts)
      (processBatch codec config batch messages) []
    obtain ⟨-, none⟩ := Program.wp_iff_runs.1 (processBatch_throws mem refused) outcome _ run
    have every := acknowledges outcome acknowledged run
    rw [none] at every
    have position : message.position ∈ messages.map (·.position) := List.mem_map_of_mem listed
    rw [← every] at position
    exact absurd position List.not_mem_nil
  · intro storable outcome acknowledged run
    have all : ∀ event ∈ messages.filterMap (decodeMessage codec),
        Storable codec accepts event := by
      intro event mem
      obtain ⟨message, listed, decodes⟩ := List.mem_filterMap.1 mem
      exact storable message listed event decodes
    exact (Program.wp_iff_runs.1 (processBatch_acknowledges all) outcome acknowledged run).2

end Whole

end RisingIntelligence.Persister
