import RisingIntelligence.Pipeline.RawEvent
import RisingIntelligence.Pipeline.RawEventEnrichment
import RisingIntelligence.Topics.Extraction
import RisingIntelligence.Trends.Counters

/-!
# Events prepared for tracking

What the trends service makes of a raw event before it counts it: `apps/trends/src/deserialize.ts`,
`apps/trends/src/event-preparation.ts`, `filterTrackedTags` and the windows of the configuration.

* `parseWindows_nodup`: the configured windows are distinct.
* `filterTrackedTags_nodup`, `mem_filterTrackedTags`: the tracked topics are distinct, on the
  allowlist and not muted.
-/

namespace RisingIntelligence.Trends

open Js (MessageApi)
open Enrichment (EnrichmentApi SourceMeta RawEventPersistenceInput prepareRawEventForPersistence)
open Topics (CompiledAllowlist CompiledTopic StringApi TopicMatch)

/-! ## The configured windows -/

/-- What `parseWindows` throws. -/
inductive WindowsError : Type
  | empty
  | unsupported (window : String)
  deriving DecidableEq

/-- `SUPPORTED_WINDOWS` -/
def supportedWindow : String → Option TrendWindow
  | "15m" => some .minutes15
  | "60m" => some .minutes60
  | _ => none

def parseWindow (window : String) : Except WindowsError TrendWindow :=
  match supportedWindow window with
  | some supported => .ok supported
  | none => .error (.unsupported window)

/-- `parseWindows`; a set keeps the first of equal windows. -/
def parseWindows (raw : String) : Except WindowsError (List TrendWindow) :=
  let parsed := ((Js.split ',' raw).map Js.trim).filter (· ≠ "")
  if parsed = [] then .error .empty
  else (parsed.mapM parseWindow).map (firstOfEach id)

theorem parseWindows_nodup {raw : String} {windows : List TrendWindow}
    (parsed : parseWindows raw = .ok windows) : windows.Nodup := by
  unfold parseWindows at parsed
  dsimp only at parsed
  split at parsed
  · cases parsed
  · obtain ⟨supported, _, rfl⟩ := map_eq_ok.1 parsed
    have distinct : ((firstOfEach id supported).map id).Nodup := nodup_map_firstOfEach supported
    rwa [List.map_id] at distinct

/-! ## The event -/

/-- `ParsedRawEvent` of the trends service. -/
structure ParsedTrendEvent where
  eventId : String
  source : Js.Keyed CanonicalSource
  fetchedAt : Int
  publishedAt : Option Int
  url : Option String
  title : Option String
  text : String
  lang : Option String
  tags : List String
  extractedUrls : List String
  sourceMeta : Option SourceMeta
  engagementScore : Js.Number
  feedPriority : ℚ
  one_le_feedPriority : 1 ≤ feedPriority

structure PreparedTrendEvent extends ParsedTrendEvent where
  topics : List String

theorem one_le_defaultPriority : (1 : ℚ) ≤ 50 := by norm_num

/-- `extractFeedPriority`: any finite number from one on, otherwise fifty. -/
def extractFeedPriority (sourceMeta : Option SourceMeta) : {priority : ℚ // 1 ≤ priority} :=
  match (sourceMeta.getD []).lookup "feed_priority" with
  | some (.number (.finite raw)) =>
      if valid : 1 ≤ raw then ⟨raw, valid⟩ else ⟨50, one_le_defaultPriority⟩
  | _ => ⟨50, one_le_defaultPriority⟩

/-- The fields of the shared event, with the defaults of the service. -/
def ParsedTrendEvent.ofShared (shared : RisingIntelligence.ParsedRawEvent) : ParsedTrendEvent where
  eventId := shared.eventId
  source := shared.source
  fetchedAt := shared.fetchedAt
  publishedAt := shared.publishedAt
  url := shared.url
  title := shared.title
  text := shared.text
  lang := shared.lang
  tags := shared.tags
  extractedUrls := shared.extractedUrls
  sourceMeta := shared.sourceMeta
  engagementScore := shared.engagementScore.getD (.finite 0)
  feedPriority := (extractFeedPriority shared.sourceMeta).1
  one_le_feedPriority := (extractFeedPriority shared.sourceMeta).2

/-- `deserializeRawEvent` of the trends service. -/
def deserializeTrendEvent (api : MessageApi) (messageValue : ByteArray) :
    Except RawEventError ParsedTrendEvent :=
  (deserializeRawEvent api messageValue).map ParsedTrendEvent.ofShared

/-! ## Tracked topics -/

/-- `topicByKey.get(key)`; of topics with one key the last is kept. -/
def topicByKey (allowlist : CompiledAllowlist) (key : String) : Option CompiledTopic :=
  allowlist.topics.reverse.find? fun topic => topic.key = key

/-- The topic of a tag that is tracked. -/
def trackedTopic (allowlist : CompiledAllowlist) (key : String) : Option CompiledTopic :=
  if key ∈ allowlist.mutedTopics then none else topicByKey allowlist key

def filterTrackedTags (api : StringApi) (tags : List String) (allowlist : CompiledAllowlist) :
    List String :=
  let dedupedKeys := firstOfEach id ((tags.map Js.trim).filter (· ≠ ""))
  let matched := dedupedKeys.filterMap (trackedTopic allowlist)
  ((matched.mergeSort fun a b => TopicMatch.notAfter api a.toMatch b.toMatch).take
    allowlist.maxTopicsPerEvent).map (·.key)

section Tracked

variable {api : StringApi} {tags : List String} {allowlist : CompiledAllowlist} {key : String}
  {topic : CompiledTopic}

theorem trackedTopic_eq_some (tracked : trackedTopic allowlist key = some topic) :
    topic.key = key ∧ topic ∈ allowlist.topics ∧ key ∉ allowlist.mutedTopics := by
  unfold trackedTopic at tracked
  split at tracked
  · cases tracked
  · rename_i unmuted
    refine ⟨by simpa using List.find?_some tracked, ?_, unmuted⟩
    exact List.mem_reverse.1 (List.mem_of_find?_eq_some tracked)

/-- Looking keys up keeps them distinct. -/
theorem nodup_keys_tracked {keys : List String} (distinct : keys.Nodup) :
    ((keys.filterMap (trackedTopic allowlist)).map (·.key)).Nodup := by
  have sublist : ((keys.filterMap (trackedTopic allowlist)).map (·.key)).Sublist keys := by
    clear distinct
    induction keys with
    | nil => exact List.Sublist.refl []
    | cons key keys ih =>
        cases tracked : trackedTopic allowlist key with
        | none =>
            rw [List.filterMap_cons_none tracked]
            exact ih.cons key
        | some topic =>
            rw [List.filterMap_cons_some tracked, List.map_cons, (trackedTopic_eq_some tracked).1]
            exact ih.cons_cons key
  exact distinct.sublist sublist

theorem filterTrackedTags_nodup : (filterTrackedTags api tags allowlist).Nodup := by
  have deduped : ((firstOfEach id ((tags.map Js.trim).filter (· ≠ ""))).map id).Nodup :=
    nodup_map_firstOfEach _
  rw [List.map_id] at deduped
  unfold filterTrackedTags
  dsimp only
  rw [List.map_take]
  refine List.Nodup.sublist (List.take_sublist _ _) ?_
  exact (((List.mergeSort_perm _ _).map _).nodup_iff).2 (nodup_keys_tracked deduped)

/-- A tracked topic is a tag of the event, stands on the allowlist and is not muted. -/
theorem mem_filterTrackedTags (mem : key ∈ filterTrackedTags api tags allowlist) :
    key ∈ tags.map Js.trim ∧ key ≠ "" ∧ key ∉ allowlist.mutedTopics ∧
      ∃ topic ∈ allowlist.topics, topic.key = key := by
  unfold filterTrackedTags at mem
  obtain ⟨topic, taken, rfl⟩ := List.mem_map.1 mem
  have matched := List.mem_mergeSort.1 (List.mem_of_mem_take taken)
  obtain ⟨key, deduped, tracked⟩ := List.mem_filterMap.1 matched
  obtain ⟨same, known, unmuted⟩ := trackedTopic_eq_some tracked
  have kept := List.mem_filter.1 (mem_of_mem_firstOfEach deduped)
  rw [same]
  exact ⟨kept.1, by simpa using kept.2, unmuted, topic, known, same⟩

end Tracked

/-! ## Preparation -/

def toPersistenceInput (event : ParsedTrendEvent) :
    RawEventPersistenceInput (Js.Keyed CanonicalSource) where
  eventId := event.eventId
  source := event.source
  fetchedAt := event.fetchedAt
  publishedAt := event.publishedAt
  url := event.url
  title := event.title
  text := event.text
  authorId := none
  authorHandle := none
  authorDisplayName := none
  -- The engagement comes back as it is given; `prepareTrendEvent` takes the event's own.
  engagementScore := none
  engagementComments := none
  engagementLikes := none
  engagementShares := none
  lang := event.lang
  tags := event.tags
  extractedHashtags := []
  extractedUrls := event.extractedUrls
  sourceMeta := event.sourceMeta

def prepareTrendEvent (enrichment : EnrichmentApi) (strings : StringApi) (event : ParsedTrendEvent)
    (allowlist : CompiledAllowlist) : PreparedTrendEvent :=
  let prepared := prepareRawEventForPersistence enrichment (toPersistenceInput event)
  { eventId := prepared.eventId
    source := prepared.source
    fetchedAt := prepared.fetchedAt
    publishedAt := prepared.publishedAt
    url := prepared.url
    title := prepared.title
    text := prepared.text
    lang := prepared.lang
    tags := prepared.tags
    extractedUrls := prepared.extractedUrls
    sourceMeta := prepared.sourceMeta
    engagementScore := event.engagementScore
    feedPriority := event.feedPriority
    one_le_feedPriority := event.one_le_feedPriority
    topics := filterTrackedTags strings prepared.topics allowlist }

def isEventFreshEnoughForTracking (event : PreparedTrendEvent) (maxTrackedEventAgeMs : Int) :
    Bool :=
  match event.publishedAt with
  | none => true
  | some publishedAt =>
      let ageMs := event.fetchedAt - publishedAt
      if ageMs ≤ 0 then true else decide (ageMs ≤ maxTrackedEventAgeMs)

/-- What `applyEventToWindows` reads of the event. -/
def PreparedTrendEvent.counted (event : PreparedTrendEvent) : ParsedRawEvent where
  eventId := event.eventId
  fetchedAt := event.fetchedAt
  url := event.url
  engagementScore := event.engagementScore
  feedPriority := event.feedPriority
  one_le_feedPriority := event.one_le_feedPriority

end RisingIntelligence.Trends
