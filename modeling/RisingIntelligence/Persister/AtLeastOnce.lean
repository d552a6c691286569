import RisingIntelligence.Async.Interleaving
import RisingIntelligence.Persister.Process

/-!
# At least once, and all or none

Any number of deliveries of a partition's messages are processed at the same time, by one
consumer after a redelivery or by several around a lost heartbeat.  Calls are answered in any
order and may throw, `createMany` before or after its rows are in.

* `discipline` is the rely-guarantee reading: rows are only added, a delivery alone moves its
  own acknowledgements, and it acknowledges only what is stored;
* `processBatch_keeps` shows that a batch keeps it, step by step of the pipeline;
* `reachable_at_least_once` and `reachable_all_or_none` read off what holds in every state.
-/

namespace RisingIntelligence.Persister

open Async

variable {ι Event Source Row E : Type}

/-! ## Stores and deliveries -/

/-- A batch as it was delivered. -/
structure Delivery where
  batch : BatchContext
  messages : List PipelineMessage

/-- The `raw_events` table by event id, and what each delivery has acknowledged. -/
structure World (ι Row : Type) where
  rows : String → Option Row
  acknowledged : ι → List String

/-- One row of `createMany` with `skipDuplicates`. -/
def insertRow (codec : EventCodec Event Source Row E) (rows : String → Option Row) (row : Row) :
    String → Option Row :=
  if (rows (codec.rowId row)).isSome then rows
  else Function.update rows (codec.rowId row) (some row)

/-- `createMany` with `skipDuplicates` -/
def insertRows (codec : EventCodec Event Source Row E) (rows : String → Option Row)
    (data : List Row) : String → Option Row :=
  data.foldl (insertRow codec) rows

/-- How calls are answered: only `createMany` and `acknowledge` change the world, every other
call may answer or throw anything. -/
def answers [DecidableEq ι] (codec : EventCodec Event Source Row E) (i : ι) :
    Handler (persister Row E) (World ι Row) := fun s c reply s' =>
  match c with
  | .createMany data =>
      s' = { s with rows := insertRows codec s.rows data } ∨
        s' = s ∧ ∃ error, reply = .error error
  | .acknowledge position =>
      (∃ value, reply = .ok value) ∧ s' = { s with
        acknowledged := Function.update s.acknowledged i (s.acknowledged i ++ [position]) }
  | _ => s' = s

/-- The decoded event of a message, if it has one. -/
def decodeMessage (codec : EventCodec Event Source Row E) (message : PipelineMessage) :
    Option Event :=
  message.value.bind fun value => (codec.deserialize value).toOption

def decodableIds (codec : EventCodec Event Source Row E) (messages : List PipelineMessage) :
    List String :=
  (messages.filterMap (decodeMessage codec)).map codec.eventId

/-- Every decodable message has a row. -/
def Stored (codec : EventCodec Event Source Row E) (rows : String → Option Row)
    (messages : List PipelineMessage) : Prop :=
  ∀ id ∈ decodableIds codec messages, (rows id).isSome

def AllOrNone (messages : List PipelineMessage) (acknowledged : List String) : Prop :=
  acknowledged = [] ∨ acknowledged = messages.map (·.position)

/-- Rows are added, never changed. -/
def Extends (rows rows' : String → Option Row) : Prop :=
  ∀ id row, rows id = some row → rows' id = some row

theorem Extends.refl (rows : String → Option Row) : Extends rows rows := fun _ _ found => found

theorem Extends.trans {rows₁ rows₂ rows₃ : String → Option Row} (first : Extends rows₁ rows₂)
    (second : Extends rows₂ rows₃) : Extends rows₁ rows₃ :=
  fun id row found => second id row (first id row found)

theorem Extends.isSome {rows rows' : String → Option Row} (grown : Extends rows rows')
    {id : String} (stored : (rows id).isSome) : (rows' id).isSome := by
  obtain ⟨row, found⟩ := Option.isSome_iff_exists.mp stored
  exact Option.isSome_iff_exists.mpr ⟨row, grown id row found⟩

theorem Stored.extends {codec : EventCodec Event Source Row E} {rows rows' : String → Option Row}
    {messages : List PipelineMessage} (stored : Stored codec rows messages)
    (grown : Extends rows rows') : Stored codec rows' messages :=
  fun id member => grown.isSome (stored id member)

theorem insertRow_extends (codec : EventCodec Event Source Row E) (rows : String → Option Row)
    (row : Row) : Extends rows (insertRow codec rows row) := by
  intro id old found
  by_cases present : (rows (codec.rowId row)).isSome
  · rw [insertRow, if_pos present]
    exact found
  · rw [insertRow, if_neg present, Function.update_of_ne]
    · exact found
    · rintro rfl
      simp [found] at present

theorem insertRow_isSome_iff (codec : EventCodec Event Source Row E)
    (rows : String → Option Row) (row : Row) (id : String) :
    (insertRow codec rows row id).isSome ↔ (rows id).isSome ∨ id = codec.rowId row := by
  by_cases present : (rows (codec.rowId row)).isSome
  · rw [insertRow, if_pos present, or_iff_left_of_imp]
    rintro rfl
    exact present
  · rw [insertRow, if_neg present]
    by_cases same : id = codec.rowId row
    · simp [same]
    · simp [same]

theorem insertRows_extends (codec : EventCodec Event Source Row E) (rows : String → Option Row)
    (data : List Row) : Extends rows (insertRows codec rows data) := by
  induction data generalizing rows with
  | nil => exact .refl rows
  | cons row data ih => exact (insertRow_extends codec rows row).trans (ih _)

theorem insertRows_isSome_iff (codec : EventCodec Event Source Row E)
    (rows : String → Option Row) (data : List Row) (id : String) :
    (insertRows codec rows data id).isSome ↔
      (rows id).isSome ∨ id ∈ data.map codec.rowId := by
  induction data generalizing rows with
  | nil => simp [insertRows]
  | cons row data ih =>
      rw [insertRows, List.foldl_cons, ← insertRows, ih, insertRow_isSome_iff, List.map_cons,
        List.mem_cons, or_assoc]

section Grouping

variable [DecidableEq Source]

theorem mem_addToGroups (codec : EventCodec Event Source Row E)
    (groups : List (Source × List Event)) (added event : Event) :
    (∃ group ∈ addToGroups codec groups added, event ∈ group.2) ↔
      (∃ group ∈ groups, event ∈ group.2) ∨ event = added := by
  induction groups with
  | nil => simp [addToGroups]
  | cons head groups ih =>
      obtain ⟨source, group⟩ := head
      rw [addToGroups]
      split
      · simp only [List.mem_cons, exists_eq_or_imp, List.mem_append, List.not_mem_nil, or_false]
        exact or_right_comm
      · simp only [List.mem_cons, exists_eq_or_imp, ih]
        exact or_assoc.symm

/-- Grouping by source keeps exactly the events. -/
theorem mem_groupBySource (codec : EventCodec Event Source Row E) (events : List Event)
    (event : Event) :
    (∃ group ∈ groupBySource codec events, event ∈ group.2) ↔ event ∈ events := by
  have fold : ∀ groups : List (Source × List Event),
      (∃ group ∈ events.foldl (addToGroups codec) groups, event ∈ group.2) ↔
        (∃ group ∈ groups, event ∈ group.2) ∨ event ∈ events := by
    induction events with
    | nil => simp
    | cons added events ih =>
        intro groups
        rw [List.foldl_cons, ih, mem_addToGroups, List.mem_cons, or_assoc]
  simpa [groupBySource] using fold []

end Grouping

/-! ## The discipline -/

/-- A call that touches neither the rows nor the acknowledgements. -/
def Neutral : PersisterCall Row → Prop
  | .createMany _ | .acknowledge _ => False
  | _ => True

/-- What deliveries running at the same time owe each other. -/
def discipline [DecidableEq ι] (codec : EventCodec Event Source Row E)
    (deliveries : ι → Delivery) (start : String → Option Row) :
    Discipline ι (persister Row E) (World ι Row) where
  handler := answers codec
  inv s :=
    (∀ i, s.acknowledged i ≠ [] → Stored codec s.rows (deliveries i).messages) ∧
      ∀ id, (s.rows id).isSome →
        (start id).isSome ∨ ∃ i, id ∈ decodableIds codec (deliveries i).messages
  rely i s s' := s'.acknowledged i = s.acknowledged i ∧ Extends s.rows s'.rows
  guarantee i s s' :=
    Extends s.rows s'.rows ∧ ∀ j, j ≠ i → s'.acknowledged j = s.acknowledged j
  atCall i c s :=
    (∀ position, c ≠ .acknowledge position) →
      AllOrNone (deliveries i).messages (s.acknowledged i)
  rely_refl _ _ := ⟨rfl, .refl _⟩
  rely_trans first second := ⟨second.1.trans first.1, first.2.trans second.2⟩
  compatible different guaranteed := ⟨guaranteed.2 _ (Ne.symm different), guaranteed.1⟩

section Batch

variable [DecidableEq ι] {codec : EventCodec Event Source Row E} {deliveries : ι → Delivery}
  {start : String → Option Row} {i : ι} {ε α : Type}

/-- Neutral calls keep any condition on the delivery's own acknowledgements and on stored rows
that makes them all or none. -/
theorem keeps_of_neutral {p : PersisterProgram Row E ε α} {R : Except ε α → Prop}
    {P : World ι Row → Prop} {s : World ι Row}
    (neutral : p.Within Neutral R) (holds : P s)
    (stable : ∀ s s', P s → (discipline codec deliveries start).rely i s s' → P s')
    (allOrNone : ∀ s, P s → AllOrNone (deliveries i).messages (s.acknowledged i)) :
    p.Keeps (discipline codec deliveries start) i (fun outcome s' => R outcome ∧ P s') s := by
  refine Program.Keeps.of_within neutral holds stable fun c isNeutral s holds inv => ?_
  refine ⟨fun _ => allOrNone s holds, fun reply s' step => ?_⟩
  have same : s' = s := by
    cases c <;> first | exact step | exact isNeutral.elim
  rw [same]
  exact ⟨⟨.refl _, fun _ _ => rfl⟩, inv, holds⟩

/-- Nothing of the delivery is acknowledged yet. -/
def Unacknowledged (i : ι) (s : World ι Row) : Prop := s.acknowledged i = []

theorem unacknowledged_stable (s s' : World ι Row) (before : Unacknowledged i s)
    (moved : (discipline codec deliveries start).rely i s s') : Unacknowledged i s' :=
  moved.1.trans before

theorem keeps_unacknowledged {p : PersisterProgram Row E ε α} {R : Except ε α → Prop}
    {s : World ι Row} (neutral : p.Within Neutral R)
    (before : Unacknowledged i s) :
    p.Keeps (discipline codec deliveries start) i
      (fun outcome s' => R outcome ∧ Unacknowledged i s') s :=
  keeps_of_neutral neutral before unacknowledged_stable fun _ none => .inl none

end Batch

/-! ## The neutral parts of a batch -/

theorem await_within {P : PersisterCall Row → Prop} (c : PersisterCall Row) (allowed : P c) :
    (await c : PersisterProgram Row E _ _).Within P fun _ => True :=
  ⟨allowed, fun reply => by cases reply <;> trivial⟩

theorem waitWithHeartbeats_within (remainingMs : Nat) :
    (waitWithHeartbeats remainingMs : PersisterProgram Row E _ _).Within
      Neutral fun _ => True := by
  induction remainingMs using Nat.strongRecOn with
  | ind remainingMs ih =>
      rw [waitWithHeartbeats]
      split
      · rename_i remaining
        refine (await_within _ trivial).bind (fun _ _ => ?_) fun _ _ => trivial
        refine (await_within _ trivial).bind (fun _ _ => ?_) fun _ _ => trivial
        exact ih _ (by simp only [circuitPauseHeartbeatIntervalMs]; omega)
      · trivial

theorem pausePartitionWhenCircuitOpen_within :
    (pausePartitionWhenCircuitOpen : PersisterProgram Row E _ _).Within
      Neutral fun _ => True := by
  refine (await_within _ trivial).bind (fun circuitOpen _ => ?_) fun _ _ => trivial
  split
  · refine (await_within _ trivial).bind (fun _ _ => ?_) fun _ _ => trivial
    refine (await_within _ trivial).bind (fun _ _ => ?_) fun _ _ => trivial
    refine Program.Within.bind (R := fun _ => True) ?_ (fun _ _ => trivial) fun _ _ => trivial
    refine (waitWithHeartbeats_within _).settle fun outcome _ => ?_
    exact (await_within _ trivial).bind (fun _ _ => trivial) fun _ _ => trivial
  · trivial

theorem heartbeatLoop_within (handledMessages : Nat) :
    (heartbeatLoop handledMessages : PersisterProgram Row E _ _).Within
      Neutral fun _ => True := by
  unfold heartbeatLoop
  split
  · exact await_within _ trivial
  · trivial

/-- What `collectMessages` collects are the decodable messages, in order. -/
theorem collectMessages_within (codec : EventCodec Event Source Row E)
    (messages : List PipelineMessage) (events : List Event) (handledMessages : Nat) :
    (collectMessages codec messages events handledMessages).Within
      Neutral fun outcome => ∀ collected, outcome = .ok (some collected) →
        collected = events ++ messages.filterMap (decodeMessage codec) := by
  induction messages generalizing events handledMessages with
  | nil =>
      refine (await_within _ trivial).bind (fun active _ => ?_) (by rintro _ - _ ⟨⟩)
      intro collected result
      cases active <;> simp_all
  | cons message rest ih =>
      refine (await_within _ trivial).bind (fun active _ => ?_) (by rintro _ - _ ⟨⟩)
      split
      · split
        · rename_i empty
          refine (heartbeatLoop_within _).bind (fun _ _ => ?_) (by rintro _ - _ ⟨⟩)
          simpa [decodeMessage, empty] using ih events (handledMessages + 1)
        · rename_i value found
          split
          · rename_i error failed
            refine (heartbeatLoop_within _).bind (fun _ _ => ?_) (by rintro _ - _ ⟨⟩)
            simpa [decodeMessage, found, failed, Except.toOption] using
              ih events (handledMessages + 1)
          · rename_i decoded decodes
            refine (heartbeatLoop_within _).bind (fun _ _ => ?_) (by rintro _ - _ ⟨⟩)
            simpa [decodeMessage, found, decodes, Except.toOption] using
              ih (events ++ [decoded]) (handledMessages + 1)
      · rintro collected ⟨⟩

theorem markEventsSeen_within (codec : EventCodec Event Source Row E) (config : Config)
    (events : List Event) : (markEventsSeen codec config events).Within Neutral fun _ => True := by
  unfold markEventsSeen
  split
  · trivial
  · refine Program.Within.bind (R := fun _ => True) ?_ (fun results _ => ?_) fun _ _ => trivial
    · exact ⟨trivial, fun reply => by cases reply <;> trivial⟩
    · split
      · trivial
      · split <;> trivial

/-! ## Persisting and acknowledging -/

section Batch

variable [DecidableEq ι] {codec : EventCodec Event Source Row E} {deliveries : ι → Delivery}
  {start : String → Option Row} {i : ι} {s : World ι Row}

/-- Every one of the events has a row. -/
def Inserted (codec : EventCodec Event Source Row E) (events : List Event)
    (rows : String → Option Row) : Prop :=
  ∀ event ∈ events, (rows (codec.eventId event)).isSome

theorem Inserted.extends {events : List Event} {rows rows' : String → Option Row}
    (inserted : Inserted codec events rows) (grown : Extends rows rows') :
    Inserted codec events rows' :=
  fun event member => grown.isSome (inserted event member)

theorem insertRows_inserted (codec : EventCodec Event Source Row E) (events : List Event)
    (rows : String → Option Row) :
    Inserted codec events (insertRows codec rows (events.map codec.toCreateManyInput)) := by
  intro event member
  rw [insertRows_isSome_iff, List.map_map]
  exact .inr (List.mem_map.mpr ⟨event, member, codec.rowId_toCreateManyInput event⟩)

/-- The state around the inserts: nothing acknowledged, and the events stored unless an error
was thrown. -/
def Persisted {ε α : Type} (codec : EventCodec Event Source Row E) (i : ι) (events : List Event)
    (outcome : Except ε α) (s : World ι Row) : Prop :=
  Unacknowledged i s ∧ ∀ a, outcome = .ok a → Inserted codec events s.rows

/-- The rows of a `createMany` are events of the delivery, so the invariant is kept. -/
theorem inv_insertRows {events : List Event}
    (own : ∀ event ∈ events, codec.eventId event ∈ decodableIds codec (deliveries i).messages)
    (inv : (discipline codec deliveries start).inv s) :
    (discipline codec deliveries start).inv
      { s with rows := insertRows codec s.rows (events.map codec.toCreateManyInput) } := by
  refine ⟨fun j acknowledged => (inv.1 j acknowledged).extends (insertRows_extends _ _ _), ?_⟩
  intro id stored
  rcases (insertRows_isSome_iff ..).mp stored with old | new
  · exact inv.2 id old
  · rw [List.map_map] at new
    obtain ⟨event, member, rfl⟩ := List.mem_map.mp new
    refine .inr ⟨i, ?_⟩
    rw [Function.comp_apply, codec.rowId_toCreateManyInput]
    exact own event member

theorem createMany_keeps {events : List Event}
    (own : ∀ event ∈ events, codec.eventId event ∈ decodableIds codec (deliveries i).messages)
    (before : Unacknowledged i s) :
    (await (.createMany (events.map codec.toCreateManyInput))).Keeps
      (discipline codec deliveries start) i
      (Persisted codec i events) s := by
  intro s₁ moved inv
  have unacknowledged : Unacknowledged i s₁ := moved.1.trans before
  refine ⟨fun _ => .inl unacknowledged, fun reply s₂ step => ?_⟩
  rcases step with rfl | ⟨rfl, error, rfl⟩
  · refine ⟨⟨insertRows_extends _ _ _, fun _ _ => rfl⟩, inv_insertRows own inv, ?_⟩
    have after : ∀ s₃, (discipline codec deliveries start).rely i
        { s₁ with rows := insertRows codec s₁.rows (events.map codec.toCreateManyInput) } s₃ →
        Unacknowledged i s₃ ∧ Inserted codec events s₃.rows := fun s₃ later =>
      ⟨later.1.trans unacknowledged, (insertRows_inserted codec events _).extends later.2⟩
    cases reply <;> exact fun s₃ later _ => ⟨(after s₃ later).1, fun _ _ => (after s₃ later).2⟩
  · refine ⟨⟨.refl _, fun _ _ => rfl⟩, inv, fun s₂ later _ => ⟨later.1.trans unacknowledged, ?_⟩⟩
    rintro _ ⟨⟩

/-- Group by group the events get their rows; an error leaves some of them without. -/
theorem insertGroups_keeps (groups : List (Source × List Event))
    (own : ∀ group ∈ groups, ∀ event ∈ group.2,
      codec.eventId event ∈ decodableIds codec (deliveries i).messages)
    (before : Unacknowledged i s) :
    (insertGroups codec groups).Keeps (discipline codec deliveries start) i
      (fun outcome s' => Unacknowledged i s' ∧ ∀ counts, outcome = .ok counts →
        ∀ group ∈ groups, Inserted codec group.2 s'.rows) s := by
  induction groups generalizing s with
  | nil => exact fun s' moved _ => ⟨moved.1.trans before, by simp⟩
  | cons head groups ih =>
      refine (createMany_keeps (own head (by simp)) before).bind ?_ ?_
      · rintro count s₁ - ⟨unacknowledged, inserted⟩
        have rest := ih (fun group member => own group (by simp [member])) unacknowledged
        have kept := rest.frame (F := fun s => Inserted codec head.2 s.rows) (inserted count rfl)
          (fun _ _ here moved => here.extends moved.2) fun _ _ here moved => here.extends moved.1
        refine kept.bind ?_ ?_
        · rintro counts s₂ - ⟨⟨unacknowledged', insertedRest⟩, insertedHead⟩ s₃ moved -
          refine ⟨moved.1.trans unacknowledged', fun _ _ group member => ?_⟩
          rcases List.mem_cons.mp member with rfl | later
          · exact insertedHead.extends moved.2
          · exact (insertedRest counts rfl group later).extends moved.2
        · rintro error s₂ - ⟨⟨unacknowledged', -⟩, -⟩ s₃ moved -
          exact ⟨moved.1.trans unacknowledged', by simp⟩
      · rintro error s₁ - ⟨unacknowledged, -⟩ s₂ moved -
        exact ⟨moved.1.trans unacknowledged, by simp⟩

variable [DecidableEq Source] {config : Config} {events : List Event}

/-- `persistBatch`, and with it everything up to the seen-marks, stores the events or throws. -/
theorem persistBatch_keeps
    (own : ∀ event ∈ events, codec.eventId event ∈ decodableIds codec (deliveries i).messages)
    (before : Unacknowledged i s) :
    (persistBatch codec events).Keeps (discipline codec deliveries start) i
      (Persisted codec i events) s := by
  unfold persistBatch
  split
  · rename_i empty
    intro s' moved _
    refine ⟨moved.1.trans before, ?_⟩
    simp [Inserted, List.isEmpty_iff.mp empty]
  · refine (insertGroups_keeps _ (fun group member event inGroup =>
      own event ((mem_groupBySource codec events event).mp ⟨group, member, inGroup⟩))
      before).bind ?_ ?_
    · rintro counts s₁ - ⟨unacknowledged, inserted⟩ s₂ moved -
      refine ⟨moved.1.trans unacknowledged, fun _ _ event member => ?_⟩
      obtain ⟨group, inGroups, inGroup⟩ := (mem_groupBySource codec events event).mpr member
      exact ((inserted counts rfl group inGroups).extends moved.2) event inGroup
    · rintro error s₁ - ⟨unacknowledged, -⟩ s₂ moved -
      exact ⟨moved.1.trans unacknowledged, by simp⟩

omit [DecidableEq Source] in
/-- Neutral calls after the inserts leave the events stored. -/
theorem keeps_inserted {ε α : Type} {p : PersisterProgram Row E ε α} {R : Except ε α → Prop}
    (neutral : p.Within Neutral R) (before : Unacknowledged i s)
    (inserted : Inserted codec events s.rows) :
    p.Keeps (discipline codec deliveries start) i
      (fun outcome s' => R outcome ∧ Unacknowledged i s' ∧ Inserted codec events s'.rows) s :=
  keeps_of_neutral neutral ⟨before, inserted⟩
    (fun _ _ holds moved => ⟨moved.1.trans holds.1, holds.2.extends moved.2⟩)
    fun _ holds => .inl holds.1

omit [DecidableEq Source] in
theorem persisted_bind_neutral {ε α β : Type} {p : PersisterProgram Row E ε α}
    {f : α → PersisterProgram Row E ε β}
    (first : p.Keeps (discipline codec deliveries start) i (Persisted codec i events) s)
    (rest : ∀ a, (f a).Within Neutral fun _ => True) :
    (p >>= f).Keeps (discipline codec deliveries start) i (Persisted codec i events) s := by
  refine first.bind ?_ ?_
  · rintro a s₁ - ⟨unacknowledged, inserted⟩
    exact (keeps_inserted (rest a) unacknowledged (inserted a rfl)).mono
      fun _ _ _ holds => ⟨holds.2.1, fun _ _ => holds.2.2⟩
  · rintro error s₁ - ⟨unacknowledged, -⟩ s₂ moved -
    exact ⟨moved.1.trans unacknowledged, by rintro _ ⟨⟩⟩

theorem persistAndMarkSeen_keeps
    (own : ∀ event ∈ events, codec.eventId event ∈ decodableIds codec (deliveries i).messages)
    (before : Unacknowledged i s) :
    (persistAndMarkSeen codec config events).Keeps (discipline codec deliveries start) i
      (Persisted codec i events) s :=
  persisted_bind_neutral (persistBatch_keeps own before) fun _ =>
    (markEventsSeen_within codec config events).settle
      fun outcome _ => by cases outcome <;> trivial

theorem persistEvents_keeps
    (own : ∀ event ∈ events, codec.eventId event ∈ decodableIds codec (deliveries i).messages)
    (before : Unacknowledged i s) :
    (persistEvents codec config events).Keeps (discipline codec deliveries start) i
      (Persisted codec i events) s := by
  unfold persistEvents
  split
  · rename_i empty
    intro s' moved _
    refine ⟨moved.1.trans before, ?_⟩
    simp [Inserted, List.isEmpty_iff.mp empty]
  · exact persisted_bind_neutral (persistAndMarkSeen_keeps own before)
      fun _ => await_within _ trivial

/-- The handlers of a failed insert only record it and throw it on. -/
theorem persistEventsWithCircuitHandling_keeps
    (own : ∀ event ∈ events, codec.eventId event ∈ decodableIds codec (deliveries i).messages)
    (before : Unacknowledged i s) :
    (persistEventsWithCircuitHandling codec config events).Keeps
      (discipline codec deliveries start) i (Persisted codec i events) s := by
  refine (Program.keeps_tryCatch _ _ _ _).2 ?_
  refine Program.Keeps.mono (persisted_bind_neutral (persistEvents_keeps own before) ?_) ?_
  · exact fun _ => (await_within _ trivial).bind (fun _ _ => trivial) fun _ _ => trivial
  rintro (error | value) s₁ - ⟨unacknowledged, inserted⟩
  · have rethrows : ∀ {c : PersisterCall Row} {error : ProcessError E}, Neutral c →
        (do
          let _ ← await c
          let _ ← await .circuitIsOpen
          Program.throw error : PersisterProgram Row E _ Unit).Within Neutral
          fun outcome => ∀ a, outcome ≠ .ok a := by
      intro c error neutral
      refine (await_within c neutral).bind (fun _ _ => ?_) (by rintro _ - _ ⟨⟩)
      exact (await_within _ trivial).bind (by rintro _ - _ ⟨⟩) (by rintro _ - _ ⟨⟩)
    rw [Program.onError_error]
    split <;>
      exact (keeps_unacknowledged (rethrows (by trivial)) unacknowledged).mono
        fun _ _ _ holds => ⟨holds.2, fun a same => absurd same (holds.1 a)⟩
  · exact fun s₂ moved _ =>
      ⟨moved.1.trans unacknowledged, fun _ _ => (inserted _ rfl).extends moved.2⟩

omit [DecidableEq Source] in
/-- The acknowledgement loop: `done` is acknowledged and the whole batch is stored. -/
theorem resolveOffsets_keeps (done rest : List PipelineMessage)
    (whole : (deliveries i).messages = done ++ rest)
    (acknowledged : s.acknowledged i = done.map (·.position))
    (stored : Stored codec s.rows (deliveries i).messages) :
    (resolveOffsets rest).Keeps (discipline codec deliveries start) i
      (fun _ s' => AllOrNone (deliveries i).messages (s'.acknowledged i)) s := by
  induction rest generalizing done s with
  | nil =>
      rw [List.append_nil] at whole
      exact fun s' moved _ => .inr (by rw [moved.1, acknowledged, whole])
  | cons message rest ih =>
      intro s₁ moved inv
      refine ⟨fun other => absurd rfl (other message.position), fun reply s₂ step => ?_⟩
      obtain ⟨⟨value, rfl⟩, rfl⟩ := step
      have stored' : Stored codec s₁.rows (deliveries i).messages := stored.extends moved.2
      refine ⟨⟨.refl _, fun j other => Function.update_of_ne other _ _⟩, ⟨?_, inv.2⟩, ?_⟩
      · intro j nonempty
        by_cases same : j = i
        · rw [same]
          exact stored'
        · simp only [Function.update_of_ne same] at nonempty
          exact inv.1 j nonempty
      · refine ih (done ++ [message]) (by simp [whole]) ?_ stored'
        simp [moved.1, acknowledged]

omit [DecidableEq Source] in
/-- After the acknowledgements only neutral calls follow. -/
theorem keeps_allOrNone {ε α : Type} {p : PersisterProgram Row E ε α}
    (neutral : p.Within Neutral fun _ => True)
    (holds : AllOrNone (deliveries i).messages (s.acknowledged i)) :
    p.Keeps (discipline codec deliveries start) i
      (fun _ s' => AllOrNone (deliveries i).messages (s'.acknowledged i)) s :=
  Program.Keeps.mono (keeps_of_neutral neutral holds
    (fun _ s' here moved => show AllOrNone _ (s'.acknowledged i) from moved.1 ▸ here)
    fun _ here => here) fun _ _ _ holds => holds.2

end Batch

theorem updateLag_within (config : Config) (batch : BatchContext)
    (currentOffset latestOffset lag : Int) :
    (updateLag config batch currentOffset latestOffset lag :
      PersisterProgram Row E _ _).Within Neutral fun _ => True := by
  refine (await_within _ trivial).bind (fun _ _ => ?_) fun _ _ => trivial
  refine (await_within _ trivial).bind (fun _ _ => ?_) fun _ _ => trivial
  split
  · trivial
  · refine (await_within _ trivial).bind (fun _ _ => ?_) fun _ _ => trivial
    exact (await_within _ trivial).bind (fun _ _ => trivial) fun _ _ => trivial

theorem lagUpdateStep_within (context : ProcessBatchContext Event Source Row E)
    (state : ProcessBatchState Event) :
    (lagUpdateStep context state fun _ => pure ()).Within Neutral fun _ => True := by
  unfold lagUpdateStep
  split
  · trivial
  · refine Program.Within.bind (R := fun _ => True) ?_ (fun _ _ => trivial) fun _ _ => trivial
    refine Program.Within.settle (R := fun _ => True) ?_ fun outcome _ => ?_
    · exact (updateLag_within ..).bind (fun _ _ => trivial) fun _ _ => trivial
    · cases outcome <;> trivial

theorem commitAndLag_within (context : ProcessBatchContext Event Source Row E)
    (state : ProcessBatchState Event) :
    (runAsyncChain context [commitAndHeartbeatStep, lagUpdateStep] state).Within Neutral
      fun _ => True := by
  refine (await_within _ trivial).bind (fun _ _ => ?_) fun _ _ => trivial
  refine (await_within _ trivial).bind (fun active _ => ?_) fun _ _ => trivial
  split
  · exact (await_within _ trivial).bind (fun _ _ => lagUpdateStep_within context state)
      fun _ _ => trivial
  · trivial

/-- A batch keeps the discipline: its rows are in before the first acknowledgement, and the
acknowledgements are not interrupted. -/
theorem processBatch_keeps [DecidableEq ι] [DecidableEq Source]
    (codec : EventCodec Event Source Row E) (config : Config) (deliveries : ι → Delivery)
    (start : String → Option Row) (i : ι) {s : World ι Row} (before : Unacknowledged i s) :
    (processBatch codec config (deliveries i).batch (deliveries i).messages).Keeps
      (discipline codec deliveries start) i
      (fun _ s' => AllOrNone (deliveries i).messages (s'.acknowledged i)) s := by
  have none : ∀ {s₁ s₂ : World ι Row}, Unacknowledged i s₁ →
      (discipline codec deliveries start).rely i s₁ s₂ →
      AllOrNone (deliveries i).messages (s₂.acknowledged i) :=
    fun unacknowledged moved => .inl (moved.1.trans unacknowledged)
  -- lifecycle gate
  refine (keeps_unacknowledged (await_within .isActive trivial) before).bind ?_
    fun _ _ _ holds _ moved _ => none holds.2 moved
  rintro active s₁ - ⟨-, before⟩
  cases active with
  | false => exact fun _ moved _ => none before moved
  | true =>
  -- circuit pause
  refine (keeps_unacknowledged pausePartitionWhenCircuitOpen_within before).bind ?_
    fun _ _ _ holds _ moved _ => none holds.2 moved
  rintro paused s₂ - ⟨-, before⟩
  cases paused with
  | true => exact fun _ moved _ => none before moved
  | false =>
  -- collect
  refine (keeps_unacknowledged (collectMessages_within codec _ [] 0) before).bind ?_
    fun _ _ _ holds _ moved _ => none holds.2 moved
  rintro (collected | events) s₃ - ⟨same, before⟩
  · exact fun _ moved _ => none before moved
  obtain rfl := same events rfl
  -- persist
  refine (persistEventsWithCircuitHandling_keeps (fun event member =>
    List.mem_map.mpr ⟨event, member, rfl⟩) before).bind ?_
    fun _ _ _ holds _ moved _ => none holds.1 moved
  rintro _ s₄ - ⟨before, inserted⟩
  have stored : Stored codec s₄.rows (deliveries i).messages := by
    intro id member
    obtain ⟨event, found, rfl⟩ := List.mem_map.mp member
    exact inserted _ rfl event found
  -- acknowledge, then commit and report
  refine (resolveOffsets_keeps [] _ rfl before stored).bind ?_
    fun _ _ _ holds _ moved _ => moved.1 ▸ holds
  rintro _ s₅ - acknowledged
  exact keeps_allOrNone (commitAndLag_within _ _) acknowledged

/-! ## Every reachable state -/

/-- All deliveries before their first call. -/
def startPool [DecidableEq Source] (codec : EventCodec Event Source Row E) (config : Config)
    (deliveries : ι → Delivery) (start : String → Option Row) :
    Pool ι (persister Row E) (ProcessError E) Unit (World ι Row) where
  threads i := processBatch codec config (deliveries i).batch (deliveries i).messages
  state := { rows := start, acknowledged := fun _ => [] }

/-- What the deliveries of a partition's history guarantee at a state `pool` of a run, reached
through the table `earlier`. -/
structure AtLeastOnce (codec : EventCodec Event Source Row E) (history : List PipelineMessage)
    (deliveries : ι → Delivery) (start earlier : String → Option Row)
    (pool : Pool ι (persister Row E) (ProcessError E) Unit (World ι Row)) : Prop where
  /-- A position is acknowledged only when the decodable messages of its batch have rows. -/
  acknowledged_stored : ∀ i position, position ∈ pool.state.acknowledged i →
    Stored codec pool.state.rows (deliveries i).messages
  /-- A finished run of a batch acknowledged every position or none. -/
  finished_all_or_none : ∀ i outcome, pool.threads i = .done outcome →
    AllOrNone (deliveries i).messages (pool.state.acknowledged i)
  /-- So did a run that waits for anything but its next acknowledgement. -/
  waiting_all_or_none : ∀ i c next, pool.threads i = .await c next →
    (∀ position, c ≠ .acknowledge position) →
      AllOrNone (deliveries i).messages (pool.state.acknowledged i)
  /-- Once every message is acknowledged, exactly the decodable ones were added to the table. -/
  stored_ids : (∀ message ∈ history, ∃ i, message ∈ (deliveries i).messages ∧
      message.position ∈ pool.state.acknowledged i) →
    ∀ id, (pool.state.rows id).isSome ↔ (start id).isSome ∨ id ∈ decodableIds codec history
  /-- A row is never modified after it was first written. -/
  rows_kept : Extends earlier pool.state.rows

/-- Whatever is redelivered, interrupted or answered: at least once, all or none, and no row is
lost, added or changed beyond the decodable messages. -/
theorem reachable_atLeastOnce [DecidableEq ι] [DecidableEq Source]
    {codec : EventCodec Event Source Row E} {config : Config} {deliveries : ι → Delivery}
    {start : String → Option Row} {history : List PipelineMessage}
    {mid pool : Pool ι (persister Row E) (ProcessError E) Unit (World ι Row)}
    (fromHistory : ∀ i, (deliveries i).messages ⊆ history)
    (early : Pool.Steps (answers codec) (startPool codec config deliveries start) mid)
    (late : Pool.Steps (answers codec) mid pool) :
    AtLeastOnce codec history deliveries start mid.state.rows pool := by
  let D := discipline codec deliveries start
  let Q : ι → Except (ProcessError E) Unit → World ι Row → Prop :=
    fun i _ s => AllOrNone (deliveries i).messages (s.acknowledged i)
  have started : (startPool codec config deliveries start).Kept D Q :=
    ⟨⟨fun i nonempty => absurd rfl nonempty, fun id found => .inl found⟩,
      fun i => processBatch_keeps codec config deliveries start i rfl⟩
  have middle : mid.Kept D Q := Pool.Steps.kept (D := D) early started
  have kept : pool.Kept D Q := Pool.Steps.kept (D := D) late middle
  have grown : ∀ {pool₁ pool₂}, Pool.Steps (answers codec) pool₁ pool₂ → pool₁.Kept D Q →
      Extends pool₁.state.rows pool₂.state.rows := fun steps kept₁ =>
    Pool.Steps.related (D := D) (P := fun s s' => Extends s.rows s'.rows) steps kept₁
      (fun s => .refl s.rows) Extends.trans fun _ _ _ guaranteed => guaranteed.1
  have stored : ∀ i position, position ∈ pool.state.acknowledged i →
      Stored codec pool.state.rows (deliveries i).messages :=
    fun i position member => kept.1.1 i (List.ne_nil_of_mem member)
  constructor
  case acknowledged_stored => exact stored
  case finished_all_or_none => exact fun i outcome done => kept.finished done
  case waiting_all_or_none => exact fun i c next pending other => kept.waiting pending other
  case rows_kept => exact grown late middle
  case stored_ids =>
    intro acknowledged id
    constructor
    · intro found
      refine (kept.1.2 id found).imp_right ?_
      rintro ⟨i, member⟩
      obtain ⟨event, decoded, rfl⟩ := List.mem_map.mp member
      obtain ⟨message, inBatch, decodes⟩ := List.mem_filterMap.mp decoded
      exact List.mem_map_of_mem
        (List.mem_filterMap.mpr ⟨message, fromHistory i inBatch, decodes⟩)
    · rintro (old | member)
      · exact (grown (early.trans late) started).isSome old
      · obtain ⟨event, decoded, rfl⟩ := List.mem_map.mp member
        obtain ⟨message, inHistory, decodes⟩ := List.mem_filterMap.mp decoded
        obtain ⟨i, inBatch, acked⟩ := acknowledged message inHistory
        exact stored i _ acked _ (List.mem_map_of_mem
          (List.mem_filterMap.mpr ⟨message, inBatch, decodes⟩))

/-- Every value decodes to the event `e1`. -/
def constantCodec : EventCodec String Unit String String where
  deserialize _ := .ok "e1"
  source _ := ()
  sourceName _ := "rss"
  eventId event := event
  toCreateManyInput event := event
  rowId row := row
  rowId_toCreateManyInput _ := rfl

/-- Two messages, delivered twice. -/
def twoMessages : Bool → Delivery :=
  fun _ => ⟨⟨"raw-events", 0, "2"⟩, [⟨none, "0"⟩, ⟨some ByteArray.empty, "1"⟩]⟩

/-- The insert reports a failure although its row is in; nothing is acknowledged. -/
theorem twoMessages_runs :
    (processBatch constantCodec ⟨60, 1000, "persister"⟩ (twoMessages false).batch
      (twoMessages false).messages).Runs (answers constantCodec false)
      ⟨fun _ => none, fun _ => []⟩ (.error (.thrown "connection reset"))
      ⟨insertRows constantCodec (fun _ => none) ["e1"], fun _ => []⟩ := by
  refine .await (r := .ok true) rfl ?_
  refine .await (r := .ok false) rfl ?_
  refine .await (r := .ok true) rfl ?_
  refine .await (r := .ok true) rfl ?_
  refine .await (r := .ok true) rfl ?_
  refine .await (r := .error "connection reset") (.inl rfl) ?_
  refine .await (r := .ok false) rfl ?_
  refine .await (r := .ok false) rfl ?_
  exact .done

/-- What the second delivery acknowledges. -/
def bothAcknowledged : Bool → List String :=
  Function.update (Function.update (fun _ => []) true ["0"]) true ["0", "1"]

/-- The second delivery finds the row, and acknowledges both messages. -/
theorem redelivered_runs (rows : String → Option String) :
    (processBatch constantCodec ⟨60, 1000, "persister"⟩ (twoMessages true).batch
      (twoMessages true).messages).Runs (answers constantCodec true) ⟨rows, fun _ => []⟩ (.ok ())
      ⟨insertRows constantCodec rows ["e1"], bothAcknowledged⟩ := by
  refine .await (r := .ok true) rfl ?_
  refine .await (r := .ok false) rfl ?_
  refine .await (r := .ok true) rfl ?_
  refine .await (r := .ok true) rfl ?_
  refine .await (r := .ok true) rfl ?_
  refine .await (r := .ok (0 : ℕ)) (.inl rfl) ?_
  refine .await (r := .ok (some [none])) rfl ?_
  refine .await (r := .ok ()) rfl ?_
  refine .await (r := .ok false) rfl ?_
  refine .await (r := .ok ()) ⟨⟨_, rfl⟩, rfl⟩ ?_
  refine .await (r := .ok ()) ⟨⟨_, rfl⟩, rfl⟩ ?_
  refine .await (r := .ok ()) rfl ?_
  refine .await (r := .ok true) rfl ?_
  refine .await (r := .ok ()) rfl ?_
  refine .await (r := .ok none) rfl ?_
  refine .await (r := .ok (0 : ℕ)) rfl ?_
  exact .done

theorem reachable_atLeastOnce_twoMessages :
    AtLeastOnce constantCodec (twoMessages true).messages twoMessages (fun _ => none)
      (insertRows constantCodec (fun _ => none) ["e1"])
      ⟨Function.update (Function.update (startPool constantCodec ⟨60, 1000, "persister"⟩ twoMessages
          fun _ => none).threads false (.done (.error (.thrown "connection reset"))))
          true (.done (.ok ())),
        ⟨insertRows constantCodec (insertRows constantCodec (fun _ => none) ["e1"]) ["e1"],
          bothAcknowledged⟩⟩ :=
  reachable_atLeastOnce (fun _ => List.Subset.refl _) (Pool.Steps.of_runs twoMessages_runs)
    (Pool.Steps.of_runs (redelivered_runs _))

end RisingIntelligence.Persister
