import RisingIntelligence.Pipeline.EnrichmentLaw
import RisingIntelligence.Pipeline.PartitionLog
import RisingIntelligence.Trends.Preparation

/-!
# The raw-event consumer

The consumer of raw events in `apps/trends/src/process.ts`: decode, prepare, drop what matches no
topic or is too old, and count the rest in the store.

`redelivered_counters_exact`: however often the consumer crashes and reads parts of its partition
again, every counter holds what one reading of the partition would have counted.
-/

namespace RisingIntelligence.Trends

open Async Program Transport
open Js (MessageApi)
open Enrichment (EnrichmentApi)
open Topics (CompiledAllowlist StringApi)

/-! ## The strategy -/

/-- What decoding or the store throws. -/
inductive TrendsError : Type
  | deserialize (error : RawEventError)
  | redis (message : String)

/-- The call of `onMessage`: the script that counts an event. -/
inductive CountingCall : Type
  | applyEventToWindows (event : ParsedRawEvent) (topics : List String)

abbrev counting : Interface where
  Call := CountingCall
  Reply _ := WindowUpdateResult
  Error := TrendsError

/-- `TrendsContext` as far as counting reads it. -/
structure TrendsContext where
  api : MessageApi
  enrichment : EnrichmentApi
  strings : StringApi
  allowlist : CompiledAllowlist
  windows : List TrendWindow
  maxEvidencePerTopic : ℕ
  maxTrackedEventAgeMs : Int

variable (ctx : TrendsContext)

/-- `onMessage` of `RAW_EVENT_MESSAGE_STRATEGY`; health counts are left out. -/
def onRawEvent (event : ParsedTrendEvent) : Program counting TrendsError Unit :=
  let preparedEvent := prepareTrendEvent ctx.enrichment ctx.strings event ctx.allowlist
  if preparedEvent.topics = [] then pure ()
  else if !isEventFreshEnoughForTracking preparedEvent ctx.maxTrackedEventAgeMs then pure ()
  else do
    let _ ← Program.call (I := counting)
      (.applyEventToWindows preparedEvent.counted preparedEvent.topics)
    pure ()

/-- `RAW_EVENT_BATCH_STRATEGY_BASE`; acknowledgement is on where nothing is said. -/
def rawEventBatchOptions : CreateMessageBatchStrategyOptions ParsedTrendEvent TrendsError where
  strategy := {
    deserialize := fun value => (deserializeTrendEvent ctx.api value).mapError .deserialize
    onEmptyValue := true
    onDeserializeFailure := true }
  progressInterval := some 50
  acknowledge := none
  onBatchCompleted := false

def rawEventBatchStrategy : BatchStrategy ParsedTrendEvent TrendsError where
  strategy := (rawEventBatchOptions ctx).strategy
  progressInterval := 50
  progressInterval_pos := Nat.succ_pos 49
  acknowledge := true
  onBatchCompleted := false

theorem createMessageBatchStrategy_rawEventBatchOptions :
    createMessageBatchStrategy (rawEventBatchOptions ctx) = .ok (rawEventBatchStrategy ctx) := rfl

/-- A batch of raw events; the callbacks for what does not decode only count and log. -/
def rawEventConsumer (batch : BatchContext) (messages : List PipelineMessage) :
    Consumer Unit ParsedTrendEvent counting where
  options := rawEventBatchStrategy ctx
  callbacks := {
    onEmptyValue := fun _ _ => pure ()
    onDeserializeFailure := fun _ _ _ => pure ()
    onMessage := fun _ _ event => onRawEvent ctx event
    onBatchCompleted := fun _ => pure () }
  ctx := ()
  batch := batch
  messages := messages

/-! ## The store -/

/-- How the store answers: the script runs at once and its result or an error comes back, or it
never reached the store. -/
inductive StoreAnswers : Handler counting Redis
  | failed {redis : Redis} {c : CountingCall} {error : TrendsError} :
    StoreAnswers redis c (.error error) redis
  | applied {redis : Redis} {event : ParsedRawEvent} {topics : List String}
      {reply : Except TrendsError WindowUpdateResult} :
    (∀ result, reply = .ok result →
      (applyEventToWindows redis event topics ctx.windows ctx.maxEvidencePerTopic).1 = some result) →
    StoreAnswers redis (.applyEventToWindows event topics) reply
      (applyEventToWindows redis event topics ctx.windows ctx.maxEvidencePerTopic).2

/-- What an event has the store count. -/
def eventDelivery (event : ParsedTrendEvent) : Option Delivery :=
  let preparedEvent := prepareTrendEvent ctx.enrichment ctx.strings event ctx.allowlist
  if preparedEvent.topics = [] then none
  else if !isEventFreshEnoughForTracking preparedEvent ctx.maxTrackedEventAgeMs then none
  else some ⟨preparedEvent.counted, preparedEvent.topics⟩

/-- What a message has the store count. -/
def trackedDelivery (message : PipelineMessage) : Option Delivery :=
  message.value.bind fun value =>
    match deserializeTrendEvent ctx.api value with
    | .error _ => none
    | .ok event => eventDelivery ctx event

def trackedDeliveries (messages : List PipelineMessage) : List Delivery :=
  messages.filterMap (trackedDelivery ctx)

/-- The effect of a message on the store. -/
def countMessage (message : PipelineMessage) (redis : Redis) : Redis :=
  match trackedDelivery ctx message with
  | none => redis
  | some delivery => deliver ctx.windows ctx.maxEvidencePerTopic redis delivery

theorem effects_countMessage (messages : List PipelineMessage) (redis : Redis) :
    effects (countMessage ctx) messages redis =
      deliverAll ctx.windows ctx.maxEvidencePerTopic (trackedDeliveries ctx messages) redis := by
  unfold effects deliverAll trackedDeliveries
  rw [List.foldl_filterMap]
  congr 1
  funext redis message
  unfold countMessage
  cases trackedDelivery ctx message <;> rfl

theorem eventDelivery_eq_some {event : ParsedTrendEvent}
    (topics : (prepareTrendEvent ctx.enrichment ctx.strings event ctx.allowlist).topics ≠ [])
    (fresh : isEventFreshEnoughForTracking
      (prepareTrendEvent ctx.enrichment ctx.strings event ctx.allowlist)
      ctx.maxTrackedEventAgeMs = true) :
    eventDelivery ctx event =
      let preparedEvent := prepareTrendEvent ctx.enrichment ctx.strings event ctx.allowlist
      some ⟨preparedEvent.counted, preparedEvent.topics⟩ := by
  unfold eventDelivery
  dsimp only
  rw [if_neg topics, fresh]
  rfl

theorem eventDelivery_topics {event : ParsedTrendEvent} {delivery : Delivery}
    (tracked : eventDelivery ctx event = some delivery) : delivery.topics.Nodup := by
  unfold eventDelivery at tracked
  dsimp only at tracked
  split_ifs at tracked
  cases tracked
  exact filterTrackedTags_nodup

theorem trackedDeliveries_topics {messages : List PipelineMessage} {delivery : Delivery}
    (mem : delivery ∈ trackedDeliveries ctx messages) : delivery.topics.Nodup := by
  obtain ⟨message, _, tracked⟩ := List.mem_filterMap.1 mem
  obtain ⟨value, _, decoded⟩ := Option.bind_eq_some_iff.1 tracked
  split at decoded
  · cases decoded
  · exact eventDelivery_topics ctx decoded

/-- The one call that counts a delivery. -/
def countDelivery (delivery : Delivery) : Program counting TrendsError Unit := do
  let _ ← Program.call (I := counting) (.applyEventToWindows delivery.event delivery.topics)
  pure ()

theorem onRawEvent_eq (event : ParsedTrendEvent) :
    onRawEvent ctx event = ((eventDelivery ctx event).map countDelivery).getD (pure ()) := by
  unfold onRawEvent eventDelivery
  dsimp only
  split_ifs <;> rfl

/-- The call counts the delivery or fails, and has counted it when it returns. -/
theorem safe_onRawEvent (event : ParsedTrendEvent) (redis : Redis) :
    (onRawEvent ctx event).safe (StoreAnswers ctx)
      (fun redis' => redis' = redis ∨ ∃ delivery, eventDelivery ctx event = some delivery ∧
        redis' = deliver ctx.windows ctx.maxEvidencePerTopic redis delivery)
      (fun outcome redis' => outcome = .ok () →
        redis' = ((eventDelivery ctx event).map fun delivery =>
          deliver ctx.windows ctx.maxEvidencePerTopic redis delivery).getD redis) redis := by
  rw [onRawEvent_eq]
  cases tracked : eventDelivery ctx event with
  | none => exact ⟨Or.inl rfl, fun _ => rfl⟩
  | some delivery =>
      refine (safe_call_bind _ _ _ _ _).2 ⟨.inl rfl, fun value redis' step => ?_,
        fun e redis' step => ?_⟩
      · cases step with
        | applied _ => exact ⟨.inr ⟨delivery, rfl, rfl⟩, fun _ => rfl⟩
      · cases step with
        | failed => exact ⟨.inl rfl, fun same => nomatch same⟩
        | applied _ => exact ⟨.inr ⟨delivery, rfl, rfl⟩, fun same => nomatch same⟩

section Callbacks

variable {ctx} {batch : BatchContext} {messages : List PipelineMessage} {message : PipelineMessage}

/-- A message that does not decode, or is empty, has nothing done for it. -/
theorem messageProgram_of_undecoded
    (undecoded : ∀ value event, message.value = some value →
      deserializeTrendEvent ctx.api value ≠ .ok event) :
    (rawEventConsumer ctx batch messages).messageProgram message = pure () ∧
      trackedDelivery ctx message = none := by
  unfold Consumer.messageProgram trackedDelivery
  cases valued : message.value with
  | none => exact ⟨rfl, rfl⟩
  | some value =>
      cases decoded : deserializeTrendEvent ctx.api value with
      | error error =>
          simp [rawEventConsumer, rawEventBatchStrategy, rawEventBatchOptions, decoded,
            Except.mapError]
      | ok event => exact absurd decoded (undecoded value event valued)

theorem messageProgram_of_decoded {value : Buffer} {event : ParsedTrendEvent}
    (valued : message.value = some value) (decoded : deserializeTrendEvent ctx.api value = .ok event) :
    (rawEventConsumer ctx batch messages).messageProgram message = onRawEvent ctx event ∧
      trackedDelivery ctx message = eventDelivery ctx event := by
  unfold Consumer.messageProgram trackedDelivery
  simp [rawEventConsumer, rawEventBatchStrategy, rawEventBatchOptions, valued, decoded,
    Except.mapError]

end Callbacks

/-- The callback of a message counts it once. -/
theorem rawEventConsumer_appliesOnce (batch : BatchContext) (messages : List PipelineMessage) :
    AppliesOnce (StoreAnswers ctx) (countMessage ctx) (rawEventConsumer ctx batch messages) := by
  intro message redis
  by_cases decodes : ∃ value event, message.value = some value ∧
      deserializeTrendEvent ctx.api value = .ok event
  · obtain ⟨value, event, valued, decoded⟩ := decodes
    obtain ⟨program, same⟩ := messageProgram_of_decoded valued decoded
    rw [program]
    refine (safe_onRawEvent ctx event redis).mono (fun redis' visited => ?_)
      fun outcome redis' _ post returned => ?_
    · rcases visited with here | ⟨delivery, tracked, rfl⟩
      · exact .inl here
      · refine .inr ?_
        rw [countMessage, same, tracked]
    · rw [post returned, countMessage, same]
      cases eventDelivery ctx event <;> rfl
  · obtain ⟨program, untracked⟩ := messageProgram_of_undecoded fun value event valued decoded =>
      decodes ⟨value, event, valued, decoded⟩
    rw [program]
    refine ⟨.inl rfl, fun _ => ?_⟩
    rw [countMessage, untracked]

/-! ## Counters over a partition -/

theorem expectedCount_congr {deliveries deliveries' : List Delivery}
    (same : accepted deliveries = accepted deliveries') (window : TrendWindow) (topic : String)
    (bucket : ℤ) :
    expectedCount deliveries window topic bucket = expectedCount deliveries' window topic bucket := by
  unfold expectedCount countedIn
  rw [same]

theorem InRange.congr {server : RedisServer} {windows : List TrendWindow}
    {deliveries deliveries' : List Delivery} (range : InRange server windows deliveries)
    (same : accepted deliveries' = accepted deliveries) : InRange server windows deliveries' where
  weight delivery mem := range.weight delivery (same ▸ mem)
  count window configured topic bucket := by
    rw [expectedCount_congr same]
    exact range.count window configured topic bucket

/-- A replay has the accepted deliveries of what it got to. -/
theorem accepted_replays {log done : List PipelineMessage} {reached : ℕ}
    (replays : Replays log done reached) :
    accepted (trackedDeliveries ctx done) = accepted (trackedDeliveries ctx (log.take reached)) := by
  unfold accepted matching trackedDeliveries
  rw [List.filter_filterMap, List.filter_filterMap]
  exact replays.firstOfEach_eq _

variable {ctx} in
/-- However often the consumer crashes and reads parts of its partition again, every counter holds
what one reading of the partition would have counted, up to a place that lies behind nothing that
is acknowledged. -/
theorem redelivered_counters_exact {raw : String} (parsed : parseWindows raw = .ok ctx.windows)
    {batch : BatchContext} {log : List PipelineMessage}
    (same : SameFetchedAt (trackedDeliveries ctx log)) {redis : Redis}
    (range : InRange redis.server ctx.windows (trackedDeliveries ctx log))
    (uncounted : redis.Uncounted) {p : PartitionState Redis}
    (steps : PartitionSteps (StoreAnswers ctx) (rawEventConsumer ctx batch) log ⟨redis, 0⟩ p) :
    ∃ reached, p.acknowledged ≤ reached ∧ reached ≤ log.length ∧
      ∀ window ∈ ctx.windows, ∀ topic bucket,
        p.shared.count (.counter window topic bucket) =
          expectedCount (trackedDeliveries ctx (log.take reached)) window topic bucket := by
  obtain ⟨done, reached, replays, behind, applied⟩ := steps.replays (fun _ => rfl)
    (rawEventConsumer_appliesOnce ctx batch) fun _ _ => ⟨rfl, rfl⟩
  have accepts := accepted_replays ctx replays
  have split : trackedDeliveries ctx log =
      trackedDeliveries ctx (log.take reached) ++ trackedDeliveries ctx (log.drop reached) := by
    rw [trackedDeliveries, trackedDeliveries, trackedDeliveries, ← List.filterMap_append,
      List.take_append_drop]
  have known : ∀ delivery ∈ trackedDeliveries ctx done, delivery ∈ trackedDeliveries ctx log := by
    intro delivery mem
    obtain ⟨message, there, tracked⟩ := List.mem_filterMap.1 mem
    exact List.mem_filterMap.2 ⟨message, replays.subset there, tracked⟩
  have tracks : Tracks ctx.windows (trackedDeliveries ctx done) p.shared := by
    rw [applied, effects_countMessage]
    refine tracks_deliverAll ctx.maxEvidencePerTopic (parseWindows_nodup parsed)
      (fun _ mem => trackedDeliveries_topics ctx mem) (fun first mem second mem' =>
        same first (known first mem) second (known second mem')) ?_ uncounted
    rw [split] at range
    exact range.of_append.congr accepts
  refine ⟨reached, behind, replays.reached_le, fun window configured topic bucket => ?_⟩
  rw [tracks.count window configured, expectedCount_congr accepts]

/-! ## One event, counted once by two attempts -/

def trackedJson : Js.Json :=
  .object [("event_id", .string "a"), ("source", .string "rss"),
    ("fetched_at", .string "2024-01-01T00:00:00.000Z"), ("text", .string "x"),
    ("lang", .string "en"), ("tags", .array [.string "ai"])]

def trackedMessage : PipelineMessage := ⟨some trackedJson.print.toUTF8, "0"⟩

def trackingContext : TrendsContext where
  api := Js.messagesFor trackedJson
  enrichment := Enrichment.plainEnrichment
  strings := { toLowerCase := id, localeCompare := fun _ _ => 0 }
  allowlist := ⟨[⟨"ai", 50, []⟩], 5, 50, []⟩
  windows := [.minutes15]
  maxEvidencePerTopic := 10
  maxTrackedEventAgeMs := 0

def trackingBatch : BatchContext where
  topic := "events.raw"
  partition := 0
  highWatermark := "1"

def trackedEvent : ParsedTrendEvent where
  eventId := "a"
  source := .own .rss
  fetchedAt := 1704067200000
  publishedAt := none
  url := none
  title := none
  text := "x"
  lang := some "en"
  tags := ["ai"]
  extractedUrls := []
  sourceMeta := none
  engagementScore := .finite 0
  feedPriority := 50
  one_le_feedPriority := one_le_defaultPriority

theorem trackedMessage_decoded :
    deserializeTrendEvent trackingContext.api trackedJson.print.toUTF8 = .ok trackedEvent := by
  have parsed : trackingContext.api.parse trackedJson.print = .ok trackedJson :=
    Js.messagesFor_roundTrips trackedJson
  unfold deserializeTrendEvent deserializeRawEvent
  rw [MessageApi.toText_toUTF8, parsed]
  rfl

def trackedPrepared : PreparedTrendEvent :=
  prepareTrendEvent trackingContext.enrichment trackingContext.strings trackedEvent
    trackingContext.allowlist

theorem trackedPrepared_tracked : trackedPrepared.topics ≠ [] := by decide +kernel

def onlyDelivery : Delivery := ⟨trackedPrepared.counted, trackedPrepared.topics⟩

theorem trackedEvent_delivery : eventDelivery trackingContext trackedEvent = some onlyDelivery :=
  eventDelivery_eq_some trackingContext trackedPrepared_tracked rfl

theorem trackedMessage_tracked : trackedDelivery trackingContext trackedMessage = some onlyDelivery := by
  unfold trackedDelivery trackedMessage
  rw [Option.bind_some, trackedMessage_decoded]
  exact trackedEvent_delivery

theorem trackedDeliveries_trackedMessage :
    trackedDeliveries trackingContext [trackedMessage] = [onlyDelivery] := by
  rw [trackedDeliveries, List.filterMap_cons_some trackedMessage_tracked, List.filterMap_nil]

/-- The store once the event is counted. -/
def countedRedis : Redis :=
  deliver trackingContext.windows trackingContext.maxEvidencePerTopic newRedis onlyDelivery

/-- The script runs, and its result is lost. -/
theorem lost_visits :
    ((rawEventConsumer trackingContext trackingBatch [trackedMessage]).messageProgram
      trackedMessage).Visits (StoreAnswers trackingContext) newRedis countedRedis := by
  rw [(messageProgram_of_decoded rfl trackedMessage_decoded).1, onRawEvent_eq,
    trackedEvent_delivery]
  exact .await (r := .error (.redis "connection reset")) (.applied fun _ same => nomatch same) .here

/-- The store once it is counted again. -/
def recountedRedis : Redis :=
  deliver trackingContext.windows trackingContext.maxEvidencePerTopic countedRedis onlyDelivery

/-- The script runs again and finds the event. -/
theorem repeated_runs :
    ((rawEventConsumer trackingContext trackingBatch [trackedMessage]).messageProgram
      trackedMessage).Runs (StoreAnswers trackingContext) countedRedis (.ok ()) recountedRedis := by
  rw [(messageProgram_of_decoded rfl trackedMessage_decoded).1, onRawEvent_eq,
    trackedEvent_delivery]
  have answers : (applyEventToWindows countedRedis onlyDelivery.event onlyDelivery.topics
      trackingContext.windows trackingContext.maxEvidencePerTopic).1.isSome = true := by
    decide +kernel
  obtain ⟨result, found⟩ := Option.isSome_iff_exists.1 answers
  refine .await (r := .ok result) (.applied fun other same => ?_) .done
  cases same
  exact found

theorem trackingWindows : parseWindows "15m" = .ok trackingContext.windows :=
  eq_ok_of_toOption (by decide +kernel)

theorem redelivered_counters_exact_lost :
    ∃ reached, 1 ≤ reached ∧ reached ≤ 1 ∧ ∀ window ∈ trackingContext.windows, ∀ topic bucket,
      recountedRedis.count (.counter window topic bucket) =
        expectedCount (trackedDeliveries trackingContext ([trackedMessage].take reached)) window topic
          bucket := by
  have lost := Consumer.visits_single (H := fun _ => StoreAnswers trackingContext) (i := ()) rfl
    (fun _ => []) lost_visits
  have repeated := (Consumer.runs_single (H := fun _ => StoreAnswers trackingContext) (i := ()) rfl
    rfl rfl (fun _ => []) repeated_runs).visits
  have first : PartitionStep (StoreAnswers trackingContext)
      (rawEventConsumer trackingContext trackingBatch) [trackedMessage] ⟨newRedis, 0⟩
        ⟨countedRedis, 0⟩ := .of_visits 0 1 (Nat.le_refl 0) lost rfl
  have second : PartitionStep (StoreAnswers trackingContext)
      (rawEventConsumer trackingContext trackingBatch) [trackedMessage] ⟨countedRedis, 0⟩
        ⟨recountedRedis, 1⟩ := .of_visits 0 1 (Nat.le_refl 0) repeated rfl
  refine redelivered_counters_exact trackingWindows ?_ ?_ (emptyRedis_uncounted _)
    ((Relation.ReflTransGen.single first).tail second)
  · rw [trackedDeliveries_trackedMessage]
    simp [SameFetchedAt]
  · rw [trackedDeliveries_trackedMessage]
    exact inRange_of_totalWeight _ (by decide +kernel)

end RisingIntelligence.Trends
