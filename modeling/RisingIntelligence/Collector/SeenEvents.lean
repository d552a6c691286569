import RisingIntelligence.Collector.IngestionPipeline
import Mathlib.Logic.Relation

/-!
# No accepted event is lost

What a sequence of `execute` calls and clean-ups does to the seen table and the raw topic.  A
call may be cut off after any of its calls; the next one starts from whatever state that left.

* `execute_safe` runs the chain once: `Progress` is what a cut-off call can have done,
  `Finished` what a completed one has done.
* `later_seen_published`, `later_noRepublish` are the laws over whole sequences, and
  `execute_ingests` is the retry: with no failing call an unseen complete event is ingested.
-/

namespace RisingIntelligence.Collector.Ingestion

open Async

variable {input : CollectorEventProcessorInput} {event : CollectedContent}
  {world : IngestionWorld}

-- evaluating the fields of an unknown event only gets stuck, slowly
attribute [local irreducible] isNonBlank

/-- The row of `seen_events` that stands for an event id of this processor. -/
def seenRow (input : CollectorEventProcessorInput) (eventId : String) : String × String :=
  (input.adapterSource.name, eventId)

/-- The raw event that is published for an event, with the tags of the topic step. -/
def wireEvent (event : CollectedContent) (tags : List String) : RawEvent :=
  toRawEvent (normalizeCollectorIngestionEvent
    { normalizeCollectorIngestionEvent event with tags := some tags })

@[simp] theorem toRawEvent_eventId (content : CollectedContent) :
    (toRawEvent content).eventId = Js.trim content.eventId := rfl

@[simp] theorem wireEvent_eventId (event : CollectedContent) (tags : List String) :
    (wireEvent event tags).eventId = Js.trim event.eventId := by
  simp [wireEvent]

/-- Only the tags are new. -/
theorem wireEvent_eq (event : CollectedContent) (tags : List String) :
    wireEvent event tags = { toRawEvent event with tags := (wireEvent event tags).tags } := by
  simp [wireEvent, toRawEvent, normalizeCollectedContent, createCollectedContent, Content.toInput,
    normalizeRawEventSource]

/-! ## One call -/

/-- The row of the event and whether its required fields are there. -/
structure Accepts (input : CollectorEventProcessorInput) (event : CollectedContent)
    (world : IngestionWorld) (complete : Bool) : Prop where
  unseen : seenRow input (Js.trim event.eventId) ∉ world.seen
  fields : hasRequiredFields (normalizeCollectorIngestionEvent event) = complete

/-- What a call can have done to `world` by the time it is cut off. -/
inductive Progress (input : CollectorEventProcessorInput) (event : CollectedContent)
    (world : IngestionWorld) : IngestionWorld → Prop
  | untouched : Progress input event world world
  | rejected (accepts : Accepts input event world false) (dlqEvent : DeadLetterEvent)
      (acknowledged : Bool) :
    Progress input event world
      { world with attempts := world.attempts ++ [.rejected dlqEvent acknowledged] }
  | attempted (accepts : Accepts input event world true) (tags : List String)
      (acknowledged : Bool) :
    Progress input event world
      { world with attempts := world.attempts ++ [.raw (wireEvent event tags) acknowledged] }
  | marked (accepts : Accepts input event world true) (tags : List String) :
    Progress input event world
      { seen := world.seen.insert (seenRow input (Js.trim event.eventId))
        attempts := world.attempts ++ [.raw (wireEvent event tags) true] }

/-- What a completed call has done. -/
inductive Finished (input : CollectorEventProcessorInput) (event : CollectedContent)
    (world : IngestionWorld) :
    Except IngestionError CollectorEventProcessResult → IngestionWorld → Prop
  | duplicate (seen : seenRow input (Js.trim event.eventId) ∈ world.seen) :
    Finished input event world (.ok .duplicate) world
  | invalid (accepts : Accepts input event world false) (errorCode : String)
      (dlqEvent : DeadLetterEvent) :
    Finished input event world (.ok (.invalid errorCode))
      { world with attempts := world.attempts ++ [.rejected dlqEvent true] }
  | ingested (accepts : Accepts input event world true) (topics tags : List String) :
    Finished input event world (.ok (.ingested topics))
      { seen := world.seen.insert (seenRow input (Js.trim event.eventId))
        attempts := world.attempts ++ [.raw (wireEvent event tags) true] }
  | failed {world' : IngestionWorld} (error : IngestionError) (progress : Progress input event world world') :
    Finished input event world (.error error) world'

/-- Safety of the chain from a step on, for the call that started in `world`. -/
structure Sound (input : CollectorEventProcessorInput) (event : CollectedContent)
    (world : IngestionWorld) (program : IngestionProgram CollectorEventProcessResult)
    (now : IngestionWorld) : Prop where
  safe : program.safe ingestionHandler (Progress input event world) (Finished input event world) now

/-- One call and the rest of the chain; if the call throws, the chain ends with what was done. -/
theorem sound_await {c : IngestionCall} {now : IngestionWorld}
    {rest : c.Reply → IngestionProgram CollectorEventProcessResult}
    (progress : Progress input event world now)
    (value : ∀ reply now', ingestionHandler now c (.ok reply) now' →
      Sound input event world (rest reply) now')
    (failure : ∀ error now', ingestionHandler now c (.error error) now' →
      Progress input event world now') :
    Sound input event world (await c >>= rest) now := by
  constructor
  unfold await
  rw [Program.safe_call_bind]
  exact ⟨progress, fun reply now' answered => (value reply now' answered).safe,
    fun error now' failed =>
      ⟨failure error now' failed, .failed error (failure error now' failed)⟩⟩

/-- A call that leaves the world alone, whatever it answers. -/
theorem sound_quiet {c : IngestionCall} {now : IngestionWorld}
    {rest : c.Reply → IngestionProgram CollectorEventProcessResult}
    (quiet : ∀ reply now', ingestionHandler now c reply now' → now' = now)
    (progress : Progress input event world now)
    (continues : ∀ reply, Sound input event world (rest reply) now) :
    Sound input event world (await c >>= rest) now := by
  apply sound_await progress
  · intro reply now' answered
    rw [quiet _ _ answered]
    exact continues reply
  · intro error now' failed
    rw [quiet _ _ failed]
    exact progress

theorem sound_pure {now : IngestionWorld} {result : CollectorEventProcessResult}
    (progress : Progress input event world now)
    (finished : Finished input event world (.ok result) now) :
    Sound input event world (pure result) now :=
  ⟨⟨progress, finished⟩⟩

theorem publish_sound (accepts : Accepts input event world true) (topics tags : List String)
    (next : Next) :
    Sound input event world
      (publish input
        ⟨{ normalizeCollectorIngestionEvent event with tags := some tags }, topics⟩ next)
      world := by
  have attempted := Progress.attempted accepts tags
  have marked := Progress.marked accepts tags
  unfold publish publishAcceptedEvent
  apply sound_await .untouched
  · intro _ afterPublish published
    simp only [ingestionHandler] at published
    subst published
    apply sound_await (attempted true)
    · intro _ afterMark marks
      simp only [ingestionHandler] at marks
      subst marks
      apply sound_quiet (by intros; assumption) marked
      intro _
      apply sound_quiet (by intros; assumption) marked
      intro _
      exact sound_pure marked (.ingested accepts topics tags)
    · intro _ _ failed
      simp only [ingestionHandler] at failed
      subst failed
      exact attempted true
  · intro _ _ failed
    simp only [ingestionHandler] at failed
    subst failed
    exact attempted false

theorem incrementTopics_sound {rest : Unit → IngestionProgram CollectorEventProcessResult}
    {now : IngestionWorld} (progress : Progress input event world now)
    (continues : Sound input event world (rest ()) now) (topics : List String) :
    Sound input event world (incrementTopics topics >>= rest) now := by
  induction topics with
  | nil => exact ⟨continues.safe⟩
  | cons topic more ih =>
      rw [incrementTopics, Program.bind_bind]
      apply sound_quiet (by intros; assumption) progress
      intro _
      exact ih

theorem extractTopics_sound (accepts : Accepts input event world true) :
    Sound input event world
      (extractTopics input ⟨normalizeCollectorIngestionEvent event, []⟩
        (runAsyncChain (Program.throw .terminatedUnexpectedly) [publish input]))
      world := by
  unfold extractTopics
  apply sound_quiet (by intros; assumption) .untouched
  intro extracted
  apply incrementTopics_sound .untouched
  exact publish_sound accepts _ _ _

theorem validate_sound
    (unseen : seenRow input (Js.trim event.eventId) ∉ world.seen) :
    Sound input event world
      (validate input ⟨normalizeCollectorIngestionEvent event, []⟩
        (runAsyncChain (Program.throw .terminatedUnexpectedly)
          [extractTopics input, publish input]))
      world := by
  cases fields : hasRequiredFields (normalizeCollectorIngestionEvent event) with
  | true =>
    simp only [validate, fields, if_true]
    exact extractTopics_sound ⟨unseen, fields⟩
  | false =>
    simp only [validate, fields, Bool.false_eq_true, if_false]
    have accepts : Accepts input event world false := ⟨unseen, fields⟩
    have rejected := Progress.rejected accepts
    apply sound_quiet (by intros; assumption) .untouched
    intro dlqId
    apply sound_quiet (by intros; assumption) .untouched
    intro occurredAt
    apply sound_await .untouched
    · intro _ _ published
      simp only [ingestionHandler] at published
      subst published
      apply sound_quiet (by intros; assumption) (rejected _ true)
      intro _
      exact sound_pure (rejected _ true) (.invalid accepts _ _)
    · intro _ _ failed
      simp only [ingestionHandler] at failed
      subst failed
      exact rejected _ false

theorem deduplicate_sound :
    Sound input event world
      (deduplicate input ⟨normalizeCollectorIngestionEvent event, []⟩
        (runAsyncChain (Program.throw .terminatedUnexpectedly)
          [validate input, extractTopics input, publish input]))
      world := by
  unfold deduplicate
  apply sound_await .untouched
  · intro present now answered
    obtain ⟨answer, unchanged⟩ := answered
    rw [unchanged]
    cases present with
    | true => exact sound_pure .untouched (.duplicate (of_decide_eq_true answer.symm))
    | false =>
      rw [if_neg Bool.false_ne_true, runAsyncChain]
      exact validate_sound (of_decide_eq_false answer.symm)
  · intro _ _ failed
    simp only [ingestionHandler] at failed
    subst failed
    exact .untouched

/-- The chain, run once from `world`. -/
theorem execute_safe (input : CollectorEventProcessorInput) (event : CollectedContent)
    (world : IngestionWorld) :
    (execute input event).safe ingestionHandler (Progress input event world)
      (Finished input event world) world :=
  deduplicate_sound.safe

/-- With no failing call the chain returns. -/
theorem execute_responsive (input : CollectorEventProcessorInput) (event : CollectedContent) :
    (execute input event).Responsive := by
  have topics : ∀ topics, (incrementTopics topics).Responsive := by
    intro topics
    induction topics with
    | nil => exact Program.responsive_pure ()
    | cons topic rest ih => exact (Program.responsive_call _).bind fun _ => ih
  have publishes : ∀ state next, (publish input state next).Responsive := fun state _ =>
    (Program.responsive_call _).bind fun _ => (Program.responsive_call _).bind fun _ =>
      (Program.responsive_call _).bind fun _ => (Program.responsive_call _).bind fun _ =>
        Program.responsive_pure _
  have validates : ∀ state next, (∀ state', (next state').Responsive) →
      (validate input state next).Responsive := by
    intro state next rest
    cases fields : hasRequiredFields state.event with
    | true =>
      simp only [validate, fields, if_true]
      exact rest state
    | false =>
      simp only [validate, fields, Bool.false_eq_true, if_false]
      exact (Program.responsive_call _).bind fun _ => (Program.responsive_call _).bind fun _ =>
        (Program.responsive_call _).bind fun _ => (Program.responsive_call _).bind fun _ =>
          Program.responsive_pure _
  apply (Program.responsive_call _).bind
  intro seen
  split
  · exact Program.responsive_pure _
  · apply validates
    intro state
    apply (Program.responsive_call _).bind
    intro extracted
    exact (topics _).bind fun _ => publishes _ _

/-! ## Sequences of calls -/

/-- One step of a collector: a call cut off anywhere or completed, or a clean-up of the seen
table that spares the rows in `kept`. -/
inductive IngestionStep (input : CollectorEventProcessorInput) (kept : String × String → Prop) :
    IngestionWorld → IngestionWorld → Prop
  | execute (event : CollectedContent) {world world' : IngestionWorld} :
    (execute input event).Visits ingestionHandler world world' →
    IngestionStep input kept world world'
  | cleanupSeen {world : IngestionWorld} (seen : List (String × String)) :
    (∀ row ∈ seen, row ∈ world.seen) → (∀ row ∈ world.seen, kept row → row ∈ seen) →
    IngestionStep input kept world { world with seen := seen }

abbrev Later (input : CollectorEventProcessorInput) (kept : String × String → Prop) :
    IngestionWorld → IngestionWorld → Prop :=
  Relation.ReflTransGen (IngestionStep input kept)

/-- Every state of every sequence, whatever the clean-ups remove. -/
abbrev Reachable (input : CollectorEventProcessorInput) : IngestionWorld → Prop :=
  Later input (fun _ => False) .fresh

/-- A raw event with this id was published successfully. -/
def Published (eventId : String) (world : IngestionWorld) : Prop :=
  ∃ event, .raw event true ∈ world.attempts ∧ event.eventId = eventId

def PublishAttempt.isRawOf (eventId : String) : PublishAttempt → Bool
  | .raw event _ => event.eventId = eventId
  | .rejected _ _ => false

/-- The attempts to publish a raw event with this id. -/
def rawAttempts (eventId : String) (world : IngestionWorld) : List PublishAttempt :=
  world.attempts.filter (PublishAttempt.isRawOf eventId)

/-- Every seen event id of the processor was published. -/
def SeenPublished (input : CollectorEventProcessorInput) (world : IngestionWorld) : Prop :=
  ∀ eventId, seenRow input eventId ∈ world.seen → Published eventId world

theorem Published.append {eventId : String} {attempts : List PublishAttempt}
    {seen : List (String × String)} (published : Published eventId world) :
    Published eventId ⟨seen, world.attempts ++ attempts⟩ := by
  obtain ⟨raw, found, same⟩ := published
  exact ⟨raw, List.mem_append_left _ found, same⟩

theorem Progress.seenPublished {world' : IngestionWorld} (progress : Progress input event world world')
    (before : SeenPublished input world) : SeenPublished input world' := by
  intro eventId seen
  cases progress with
  | untouched => exact before eventId seen
  | rejected => exact (before eventId seen).append
  | attempted => exact (before eventId seen).append
  | marked accepts tags =>
      rw [List.mem_insert_iff] at seen
      rcases seen with new | old
      · have same : eventId = Js.trim event.eventId := congrArg Prod.snd new
        exact ⟨wireEvent event tags, by simp, by rw [same, wireEvent_eventId]⟩
      · exact (before eventId old).append

/-- A seen row stays through a call, and its id is not published by it. -/
theorem Progress.noRepublish {world' : IngestionWorld} {eventId : String}
    (progress : Progress input event world world') (seen : seenRow input eventId ∈ world.seen) :
    seenRow input eventId ∈ world'.seen ∧ rawAttempts eventId world' = rawAttempts eventId world := by
  have other : ∀ {complete}, Accepts input event world complete → ∀ tags acknowledged,
      PublishAttempt.isRawOf eventId (.raw (wireEvent event tags) acknowledged) = false := by
    intro complete accepts tags acknowledged
    have different : Js.trim event.eventId ≠ eventId :=
      fun same => accepts.unseen (same ▸ seen)
    simpa [PublishAttempt.isRawOf] using different
  cases progress with
  | untouched => exact ⟨seen, rfl⟩
  | rejected => exact ⟨seen, by simp [rawAttempts, PublishAttempt.isRawOf]⟩
  | attempted accepts tags acknowledged =>
      exact ⟨seen, by simp [rawAttempts, other accepts]⟩
  | marked accepts tags =>
      exact ⟨List.mem_insert_of_mem seen, by simp [rawAttempts, other accepts]⟩

theorem execute_progress {world' : IngestionWorld}
    (visited : (execute input event).Visits ingestionHandler world world') :
    Progress input event world world' :=
  (Program.safe_iff.1 (execute_safe input event world)).1 world' visited

theorem execute_finished {world' : IngestionWorld}
    {outcome : Except IngestionError CollectorEventProcessResult}
    (run : (execute input event).Runs ingestionHandler world outcome world') :
    Finished input event world outcome world' :=
  (Program.safe_iff.1 (execute_safe input event world)).2 outcome world' run

/-- Seen means published, in every state that a sequence goes through. -/
theorem later_seenPublished {kept : String × String → Prop} {world' : IngestionWorld}
    (later : Later input kept world world') (before : SeenPublished input world) :
    SeenPublished input world' := by
  induction later with
  | refl => exact before
  | tail _ step ih =>
      cases step with
      | execute event visited => exact (execute_progress visited).seenPublished ih
      | cleanupSeen seen subset _ => exact fun eventId found => ih eventId (subset _ found)

/-- While clean-ups spare its row, a seen id stays seen and is never published again. -/
theorem later_noRepublish {eventId : String} {world' : IngestionWorld}
    (later : Later input (· = seenRow input eventId) world world')
    (seen : seenRow input eventId ∈ world.seen) :
    seenRow input eventId ∈ world'.seen ∧
      rawAttempts eventId world' = rawAttempts eventId world := by
  induction later with
  | refl => exact ⟨seen, rfl⟩
  | tail _ step ih =>
      cases step with
      | execute event visited =>
          obtain ⟨still, same⟩ := (execute_progress visited).noRepublish ih.1
          exact ⟨still, same.trans ih.2⟩
      | cleanupSeen rows _ spared => exact ⟨spared _ ih.1 rfl, ih.2⟩

/-! ## The law -/

/-- What a sequence of calls of one processor guarantees; `event` is any event, and a call that
starts in `world` has come to `world'`. -/
structure IngestionLaw (input : CollectorEventProcessorInput) : Prop where
  /-- An id is marked seen only after it was published. -/
  seen_published : ∀ world, Reachable input world → ∀ eventId,
    seenRow input eventId ∈ world.seen → Published eventId world
  /-- A seen id that no clean-up removes is never published again. -/
  no_republish : ∀ world, Reachable input world → ∀ eventId,
    seenRow input eventId ∈ world.seen → ∀ world',
    Later input (· = seenRow input eventId) world world' →
    seenRow input eventId ∈ world'.seen ∧ rawAttempts eventId world' = rawAttempts eventId world
  /-- An ingested event was published once by the call, as it is but for its tags, and is seen. -/
  ingested_once : ∀ world, Reachable input world → ∀ event topics world',
    (execute input event).Runs ingestionHandler world (.ok (.ingested topics)) world' →
    ∃ raw, raw = { toRawEvent event with tags := raw.tags } ∧
      world'.attempts = world.attempts ++ [.raw raw true] ∧
      seenRow input raw.eventId ∈ world'.seen
  /-- A call with a failed publish leaves the seen table as it was. -/
  failed_publish : ∀ world, Reachable input world → ∀ event world',
    (execute input event).Visits ingestionHandler world world' →
    ∃ added, world'.attempts = world.attempts ++ added ∧
      ((∃ raw, .raw raw false ∈ added) ∨ (∃ rejected, .rejected rejected false ∈ added) →
        world'.seen = world.seen)
  /-- An event without id or text is never handed to the raw topic. -/
  incomplete_unpublished : ∀ world, Reachable input world → ∀ event world',
    Js.trim event.eventId = "" ∨ Js.trim event.text = "" →
    (execute input event).Visits ingestionHandler world world' →
    ∃ added, world'.attempts = world.attempts ++ added ∧ ∀ raw published, .raw raw published ∉ added
  /-- A retry whose calls all answer ingests a complete event, unless its id is seen, and then
  it was published before. -/
  retry : ∀ world, Reachable input world → ∀ event,
    Js.trim event.eventId ≠ "" → Js.trim event.text ≠ "" → ∀ outcome world',
    (execute input event).Runs (Program.answering ingestionHandler) world outcome world' →
    Published (Js.trim event.eventId) world' ∧
      (seenRow input (Js.trim event.eventId) ∉ world.seen → ∃ topics, outcome = .ok (.ingested topics))

theorem hasRequiredFields_iff {event : CollectedContent} :
    hasRequiredFields (normalizeCollectorIngestionEvent event) = true ↔
      Js.trim event.eventId ≠ "" ∧ Js.trim event.text ≠ "" := by
  simp [hasRequiredFields, isNonBlank]

theorem seenPublished_fresh (input : CollectorEventProcessorInput) :
    SeenPublished input .fresh := by
  intro eventId seen
  cases seen

theorem reachable_seenPublished (reachable : Reachable input world) : SeenPublished input world :=
  later_seenPublished reachable (seenPublished_fresh input)

theorem Finished.ingested_attempts {topics : List String} {world' : IngestionWorld}
    (finished : Finished input event world (.ok (.ingested topics)) world') :
    ∃ tags, world'.attempts = world.attempts ++ [.raw (wireEvent event tags) true] ∧
      seenRow input (Js.trim event.eventId) ∈ world'.seen := by
  cases finished with
  | ingested accepts topics tags => exact ⟨tags, rfl, List.mem_insert_self⟩

theorem Progress.failed_publish {world' : IngestionWorld}
    (progress : Progress input event world world') :
    ∃ added, world'.attempts = world.attempts ++ added ∧
      ((∃ raw, .raw raw false ∈ added) ∨ (∃ rejected, .rejected rejected false ∈ added) →
        world'.seen = world.seen) := by
  cases progress with
  | untouched => exact ⟨[], by simp, fun _ => rfl⟩
  | rejected => exact ⟨_, rfl, fun _ => rfl⟩
  | attempted => exact ⟨_, rfl, fun _ => rfl⟩
  | marked => exact ⟨_, rfl, by simp⟩

theorem Progress.incomplete {world' : IngestionWorld} (progress : Progress input event world world')
    (missing : ¬hasRequiredFields (normalizeCollectorIngestionEvent event) = true) :
    ∃ added, world'.attempts = world.attempts ++ added ∧
      ∀ raw published, .raw raw published ∉ added := by
  cases progress with
  | untouched => exact ⟨[], by simp, by simp⟩
  | rejected => exact ⟨_, rfl, by simp⟩
  | attempted accepts => exact absurd accepts.fields missing
  | marked accepts => exact absurd accepts.fields missing

/-- A call that returns for a complete event leaves its id published. -/
theorem Finished.complete {result : CollectorEventProcessResult} {world' : IngestionWorld}
    (finished : Finished input event world (.ok result) world')
    (before : SeenPublished input world)
    (complete : hasRequiredFields (normalizeCollectorIngestionEvent event) = true) :
    Published (Js.trim event.eventId) world' ∧
      (seenRow input (Js.trim event.eventId) ∉ world.seen → ∃ topics, result = .ingested topics) := by
  cases finished with
  | duplicate seen => exact ⟨before _ seen, fun unseen => absurd seen unseen⟩
  | invalid accepts => exact absurd accepts.fields (by simp [complete])
  | ingested accepts topics tags =>
      exact ⟨⟨wireEvent event tags, by simp, wireEvent_eventId event tags⟩, fun _ => ⟨topics, rfl⟩⟩

/-- The law of one processor and its seen table, over every sequence of calls. -/
theorem ingestion_law (input : CollectorEventProcessorInput) : IngestionLaw input where
  seen_published _ reachable := reachable_seenPublished reachable
  no_republish _ _ _ seen _ later := later_noRepublish later seen
  ingested_once _ _ event _ _ run := by
    obtain ⟨tags, attempts, seen⟩ := (execute_finished run).ingested_attempts
    exact ⟨wireEvent event tags, wireEvent_eq event tags, attempts,
      by rw [wireEvent_eventId]; exact seen⟩
  failed_publish _ _ _ _ visited := (execute_progress visited).failed_publish
  incomplete_unpublished _ _ _ _ missing visited := by
    apply (execute_progress visited).incomplete
    rw [hasRequiredFields_iff]
    intro complete
    exact missing.elim complete.1 complete.2
  retry world reachable event eventId text outcome world' run := by
    obtain ⟨result, rfl⟩ := (execute_responsive input event).returns run
    have finished := execute_finished (run.mono fun _ _ _ _ answered => answered.2)
    obtain ⟨published, ingests⟩ := finished.complete (reachable_seenPublished reachable)
      (hasRequiredFields_iff.2 ⟨eventId, text⟩)
    refine ⟨published, fun unseen => ?_⟩
    obtain ⟨topics, rfl⟩ := ingests unseen
    exact ⟨topics, rfl⟩

end RisingIntelligence.Collector.Ingestion
