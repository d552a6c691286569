import RisingIntelligence.Brief.Grounding
import RisingIntelligence.Brief.Orchestrator
import RisingIntelligence.Brief.TopicRanking
import RisingIntelligence.Brief.TopicRelevance
import RisingIntelligence.Shared.FirstOfEach

/-!
# Query mode

`apps/brief/src/query-mode-request-facade.ts`, with the topic groups of `query-mode-selection.ts`: a
request without topics is resolved from the tables of trend snapshots and of raw events.

The tables are as the queries find them: rows that a query does not order stand in any order.
-/

namespace RisingIntelligence.Brief

open Js (MessageApi)

def TREND_WINDOW_60M_PROTO : Int := 2

def DEFAULT_QUERY_TOPIC_GLOBS : List String := ["*"]

def DEFAULT_QUERY_MAX_TOPICS : Int := 10

structure QueryModeConfig where
  BRIEF_DEFAULT_LOOKBACK_DAYS : Int
  BRIEF_MAX_LOOKBACK_DAYS : Int
  BRIEF_MAX_QUERY_EVENTS_PER_TOPIC : Int

/-- What the language gives query mode. -/
structure QueryRuntime (N : Type) where
  messages : MessageApi
  relevance : RelevanceRuntime
  ranking : RankingRuntime N
  /-- A number of the ranking as the number of a metric. -/
  toNumber : N → Js.Number

/-! ## The tables -/

inductive TrendWindow : Type
  | window15m
  | window60m
  | window24h
  deriving DecidableEq

structure TrendSnapshotRow extends TrendSnapshotRecord where
  window : TrendWindow

structure RawEventRow extends RawEventForSelection where
  url : Option String
  title : Option String
  text : String
  topics : List String

structure QueryTables where
  trendSnapshots : List TrendSnapshotRow
  rawEvents : List RawEventRow
  /-- `eventId String @unique` -/
  unique : (rawEvents.map (·.eventId)).Nodup

def isWithin (lookbackStart requestedAt time : Int) : Bool :=
  decide (lookbackStart ≤ time) && decide (time ≤ requestedAt)

/-- The first snapshot of each instant. -/
def dedupeTrendSnapshots (api : MessageApi) (snapshots : List TrendSnapshotRecord) :
    List TrendSnapshotRecord :=
  firstOfEach (fun snapshot => api.toISOString snapshot.generatedAt) snapshots

def loadTrendSnapshots (api : MessageApi) (tables : QueryTables) (lookbackStart requestedAt : Int) :
    List TrendSnapshotRecord :=
  let found := tables.trendSnapshots.filter fun row =>
    row.window = .window60m && isWithin lookbackStart requestedAt row.generatedAt
  dedupeTrendSnapshots api ((found.map (·.toTrendSnapshotRecord)).mergeSort fun left right =>
    decide (right.generatedAt ≤ left.generatedAt))

/-- `orderBy: [{ publishedAt: "desc" }, { fetchedAt: "desc" }]`, for rows that have both. -/
def newestFirst (left right : RawEventRow) : Bool :=
  let leftPublishedAt := left.publishedAt.getD 0
  let rightPublishedAt := right.publishedAt.getD 0
  if leftPublishedAt ≠ rightPublishedAt then decide (rightPublishedAt < leftPublishedAt)
  else decide (right.fetchedAt ≤ left.fetchedAt)

def RawEventRow.toEvent (row : RawEventRow) : Option QueryModeRawEvent :=
  row.url.map fun url =>
    { toRawEventForSelection := row.toRawEventForSelection
      url
      title := row.title
      text := row.text
      topics := row.topics }

def findRawEvents (tables : QueryTables) (topicKeys : List String) (lookbackStart requestedAt : Int) :
    List RawEventRow :=
  (tables.rawEvents.filter fun row =>
    row.topics.any (topicKeys.contains ·) &&
      (row.publishedAt.map (isWithin lookbackStart requestedAt)).getD false &&
        row.url.isSome).mergeSort newestFirst

def loadRawEvents (api : Js.UrlApi) (tables : QueryTables) (topicKeys : List String)
    (lookbackStart requestedAt : Int) : List QueryModeRawEvent :=
  dedupeRawEventsBySourceAndCanonicalUrl api
    ((findRawEvents tables topicKeys lookbackStart requestedAt).filterMap RawEventRow.toEvent)

/-! ## Parameters -/

def toInvalidRequestError (message : String) : BriefError := .nonRetryable message "invalid_request"

def toNoCoverageError (message : String) : BriefError := .nonRetryable message "no_coverage"

def resolveLookbackDays (config : QueryModeConfig) (request : ParsedSummaryRequest) :
    Except BriefError Int :=
  let lookbackDays :=
    (request.query.bind (·.lookbackDays)).getD config.BRIEF_DEFAULT_LOOKBACK_DAYS
  if lookbackDays ≤ 0 then
    .error (toInvalidRequestError ("Invalid query.lookback_days: " ++ toString lookbackDays))
  else if config.BRIEF_MAX_LOOKBACK_DAYS < lookbackDays then
    .error (toInvalidRequestError
      ("query.lookback_days must be <= " ++ toString config.BRIEF_MAX_LOOKBACK_DAYS))
  else .ok lookbackDays

def resolveTopicGlobs (request : ParsedSummaryRequest) : List String :=
  match request.query.bind (·.topicGlobs) with
  | none | some [] => DEFAULT_QUERY_TOPIC_GLOBS
  | some topicGlobs => topicGlobs

def resolveMaxTopics (request : ParsedSummaryRequest) : Except BriefError Int :=
  let maxTopics := (request.budget.bind (·.maxTopics)).getD DEFAULT_QUERY_MAX_TOPICS
  if maxTopics ≤ 0 then
    .error (toInvalidRequestError ("Invalid max_topics budget value: " ++ toString maxTopics))
  else .ok maxTopics

def resolveMaxEventsPerTopic (config : QueryModeConfig) (request : ParsedSummaryRequest) :
    Except BriefError Int :=
  let budgetCap := request.budget.bind (·.maxEvidencePerTopic)
  let requested := ((request.query.bind (·.maxEventsPerTopic)).or budgetCap).getD
    config.BRIEF_MAX_QUERY_EVENTS_PER_TOPIC
  if requested ≤ 0 then
    .error (toInvalidRequestError ("Invalid query.max_events_per_topic: " ++ toString requested))
  else
    let resolved := match budgetCap with
      | some budgetCap => if 0 < budgetCap then min requested budgetCap else requested
      | none => requested
    .ok (max 1 (min resolved config.BRIEF_MAX_QUERY_EVENTS_PER_TOPIC))

def resolveEvidenceStrategy (request : ParsedSummaryRequest) : Js.Keyed EvidenceStrategy :=
  (request.query.bind (·.evidenceStrategy)).getD (.own .diversity)

structure ResolvedQueryModeParameters where
  lookbackDays : Int
  topicGlobs : List String
  maxTopics : Int
  maxEventsPerTopic : Int
  evidenceStrategy : Js.Keyed EvidenceStrategy
  lookbackStart : Date

def resolveQueryModeParameters (config : QueryModeConfig) (request : ParsedSummaryRequest) :
    Except BriefError ResolvedQueryModeParameters := do
  let lookbackDays ← resolveLookbackDays config request
  let lookbackStart := request.requestedAt - lookbackDays * 24 * 60 * 60 * 1000
  let maxTopics ← resolveMaxTopics request
  let maxEventsPerTopic ← resolveMaxEventsPerTopic config request
  return {
    lookbackDays
    topicGlobs := resolveTopicGlobs request
    maxTopics
    maxEventsPerTopic
    evidenceStrategy := resolveEvidenceStrategy request
    lookbackStart }

/-! ## Topic groups -/

structure GroupedScore (N : Type) where
  score : N
  latestGeneratedAtMs : Int

section Groups

variable {N : Type} [Zero N] [Add N] [LT N] [DecidableLT N] [DecidableEq N]
  (runtime : QueryRuntime N)

def addRankedTopic (groupedScores : List (String × GroupedScore N)) (rankedTopic : RankedTopicScore N) :
    List (String × GroupedScore N) :=
  let group := getTopLevelTopicGroup runtime.relevance.api rankedTopic.topic
  if group = "" then groupedScores
  else
    let existing := (Js.Map.get group groupedScores).getD
      { score := 0, latestGeneratedAtMs := rankedTopic.latestGeneratedAtMs }
    Js.Map.set group
      { score := existing.score + rankedTopic.score
        latestGeneratedAtMs := max existing.latestGeneratedAtMs rankedTopic.latestGeneratedAtMs }
      groupedScores

/-- Higher sums first, then later snapshots, then by name. -/
def groupedLe (left right : String × GroupedScore N) : Bool :=
  if right.2.score ≠ left.2.score then decide (right.2.score < left.2.score)
  else if right.2.latestGeneratedAtMs ≠ left.2.latestGeneratedAtMs then
    decide (right.2.latestGeneratedAtMs < left.2.latestGeneratedAtMs)
  else decide (runtime.ranking.localeCompare left.1 right.1 ≤ 0)

def selectTopLevelTopicGroups (rankedTopics : List (RankedTopicScore N)) (maxTopicGroups : Int) :
    List String :=
  if maxTopicGroups ≤ 0 then []
  else
    (((rankedTopics.foldl (addRankedTopic runtime) []).mergeSort (groupedLe runtime)).take
      maxTopicGroups.toNat).map (·.1)

end Groups

/-! ## Ranked topics -/

structure RankedTopicSelection (N : Type) where
  rankedTopics : List (RankedTopicScore N)
  selectedRankedTopics : List (RankedTopicScore N)
  selectedTopLevelTopicGroups : List String
  coverageWarnings : List String

/-- The messages of `topic-glob.ts`. -/
def topicGlobMessage : SummaryRequestError → String
  | .emptyGlob => "Topic glob must not be empty"
  | .longGlob => "Topic glob exceeds max length (" ++ toString maxGlobLength ++ ")"
  | .unsupportedGlob glob => "Unsupported topic glob pattern: " ++ glob
  | _ => "unknown error"

def resolveTopicMatchers (parameters : ResolvedQueryModeParameters) :
    Except BriefError TopicGlobMatcherSet :=
  (createTopicGlobMatcherSet (some parameters.topicGlobs)).mapError fun error =>
    toInvalidRequestError ("Invalid topic glob filter: " ++ topicGlobMessage error)

section Ranked

variable {N : Type} [Zero N] [One N] [Add N] [Mul N] [Div N] [LT N] [DecidableLT N] [LE N]
  [DecidableLE N] [DecidableEq N] (runtime : QueryRuntime N)

/-- The ranking and what the cap on groups leaves of it. -/
def rankedTopicSelection (snapshots : List TrendSnapshotRecord) (requestedAt : Int)
    (topicMatchers : TopicGlobMatcherSet) (maxTopics : Int) : RankedTopicSelection N :=
  let rankedTopics :=
    rankTopicsFromSnapshots runtime.ranking topicMatchers.matchesTopic snapshots requestedAt
  let selectedTopLevelTopicGroups := selectTopLevelTopicGroups runtime rankedTopics maxTopics
  { rankedTopics
    selectedRankedTopics := rankedTopics.filter fun rankedTopic =>
      selectedTopLevelTopicGroups.contains
        (getTopLevelTopicGroup runtime.relevance.api rankedTopic.topic)
    selectedTopLevelTopicGroups
    coverageWarnings :=
      if snapshots.length = 0 then ["No trend data available for the requested lookback period."]
      else [] }

def loadRankedTopics (tables : QueryTables) (request : ParsedSummaryRequest)
    (parameters : ResolvedQueryModeParameters) : Except BriefError (RankedTopicSelection N) := do
  let topicMatchers ← resolveTopicMatchers parameters
  let snapshots :=
    loadTrendSnapshots runtime.messages tables parameters.lookbackStart request.requestedAt
  let selection :=
    rankedTopicSelection runtime snapshots request.requestedAt topicMatchers parameters.maxTopics
  if selection.selectedRankedTopics.length = 0 then
    throw (toNoCoverageError (
      if snapshots.length = 0 then "No trend snapshots were found in the requested lookback window."
      else "No topics matched query filters in the requested lookback window."))
  return selection

end Ranked

/-! ## Evidence -/

/-- The maps of the loop of `hydrateTopics`. -/
structure TopicEvents where
  eventsByTopic : List (String × List QueryModeRawEvent) := []
  relevanceFilteredByTopic : List (String × Nat) := []

section Hydrate

variable {N : Type} (runtime : QueryRuntime N)

/-- The body of the inner loop. -/
def visitTopic (rankedTopicKeys : List String) (event : QueryModeRawEvent) (state : TopicEvents)
    (topicKey : String) : Except InheritedAliases TopicEvents :=
  if topicKey ∈ rankedTopicKeys then
    (isEventRelevantToTopic runtime.relevance event topicKey).map fun relevant =>
      if relevant then
        { state with
          eventsByTopic := Js.Map.set topicKey
            ((Js.Map.get topicKey state.eventsByTopic).getD [] ++ [event]) state.eventsByTopic }
      else
        { state with
          relevanceFilteredByTopic := Js.Map.set topicKey
            ((Js.Map.get topicKey state.relevanceFilteredByTopic).getD 0 + 1)
            state.relevanceFilteredByTopic }
  else .ok state

def visitEvent (rankedTopicKeys : List String) (state : TopicEvents) (event : QueryModeRawEvent) :
    Except InheritedAliases TopicEvents :=
  event.topics.foldlM (visitTopic runtime rankedTopicKeys event) state

def groupEvents (rankedTopicKeys : List String) (allEvents : List QueryModeRawEvent) :
    Except InheritedAliases TopicEvents :=
  allEvents.foldlM (visitEvent runtime rankedTopicKeys) {}

/-- `buildBriefEvidenceRecordFromCollectedContent`, with the length of an excerpt. -/
def collectedEvidence (event : QueryModeRawEvent) : Except RawEventError BriefEvidenceRecord :=
  buildBriefEvidenceRecord runtime.messages runtime.relevance.api
    { eventId := event.eventId
      source := .inr event.source.name
      url := some event.url
      title := event.title
      publishedAt := event.publishedAt.map fun time => .date (some time)
      fetchedAt := some (.date (some event.fetchedAt))
      textExcerpt := some event.text } briefEvidenceExcerptMaxLength

def toTypeError (error : InheritedAliases) : BriefError :=
  .other ("the aliases of " ++ error.topicKey ++ " have no map")

def toStrategyError (error : UnsupportedStrategy) : BriefError :=
  .other ("Unsupported evidence strategy: " ++ error.strategy)

/-- No row of the table has a source that is not known. -/
def toEvidenceError (_ : RawEventError) : BriefError := .other "Unsupported source"

def hydrateTopic (events : TopicEvents) (parameters : ResolvedQueryModeParameters)
    (rankedTopic : RankedTopicScore N) : Except BriefError ParsedSummaryTopic := do
  let topicEvents := (Js.Map.get rankedTopic.topic events.eventsByTopic).getD []
  let selectedEvents ← (selectEvidence QueryModeRawEvent.toRawEventForSelection topicEvents
    parameters.evidenceStrategy parameters.maxEventsPerTopic.toNat).mapError toStrategyError
  let evidence ← (selectedEvents.mapM (collectedEvidence runtime)).mapError toEvidenceError
  return {
    topic := rankedTopic.topic
    metrics := [{
      topic := rankedTopic.topic
      window := .own TREND_WINDOW_60M_PROTO
      score := runtime.toNumber rankedTopic.score
      volume := runtime.toNumber rankedTopic.volume
      acceleration := runtime.toNumber rankedTopic.acceleration }]
    evidence }

structure HydratedTopicSelection where
  topicsWithEvidence : List ParsedSummaryTopic
  hydratedTopics : List ParsedSummaryTopic
  relevanceFilteredByTopic : List (String × Nat)

def hydrateTopics (tables : QueryTables) (request : ParsedSummaryRequest)
    (selectedRankedTopics : List (RankedTopicScore N)) (parameters : ResolvedQueryModeParameters) :
    Except BriefError HydratedTopicSelection := do
  let rankedTopicKeys := Js.distinct (selectedRankedTopics.map (·.topic))
  let allEvents := loadRawEvents runtime.relevance.api tables rankedTopicKeys
    parameters.lookbackStart request.requestedAt
  let events ← (groupEvents runtime rankedTopicKeys allEvents).mapError toTypeError
  let hydratedTopics ← selectedRankedTopics.mapM (hydrateTopic runtime events parameters)
  return {
    topicsWithEvidence := hydratedTopics.filter fun topic => 0 < topic.evidence.length
    hydratedTopics
    relevanceFilteredByTopic := events.relevanceFilteredByTopic }

end Hydrate

/-! ## Coverage -/

def countRelevanceFilteredEvents (relevanceFilteredByTopic : List (String × Nat)) : Nat :=
  relevanceFilteredByTopic.foldl (fun count entry => count + entry.2) 0

structure CoverageWarningRuleContext where
  rankedTopicCount : Nat
  selectedRankedTopicCount : Nat
  hydratedTopicCount : Nat
  topicsWithEvidenceCount : Nat
  relevanceFilteredCount : Nat
  maxTopics : Int

/-- `TOP_LEVEL_TOPIC_CAP_WARNING_RULE` -/
def topLevelCapWarning (context : CoverageWarningRuleContext) : Option String :=
  if context.rankedTopicCount ≤ context.selectedRankedTopicCount then none
  else some (toString (context.rankedTopicCount - context.selectedRankedTopicCount) ++
    " subtopic(s) were excluded by top-level topic cap (" ++ toString context.maxTopics ++ ").")

/-- `MISSING_EVIDENCE_WARNING_RULE` -/
def missingEvidenceWarning (context : CoverageWarningRuleContext) : Option String :=
  if context.hydratedTopicCount ≤ context.topicsWithEvidenceCount then none
  else some (toString (context.hydratedTopicCount - context.topicsWithEvidenceCount) ++
    " ranked topic(s) were excluded due to missing grounded evidence.")

/-- `RELEVANCE_FILTER_WARNING_RULE` -/
def relevanceFilterWarning (context : CoverageWarningRuleContext) : Option String :=
  if context.relevanceFilteredCount = 0 then none
  else some (toString context.relevanceFilteredCount ++
    " candidate event(s) were excluded by topic relevance checks.")

/-- `COVERAGE_WARNING_RULES` -/
def summarizeCoverageWarnings (baseCoverageWarnings : List String)
    (context : CoverageWarningRuleContext) : List String :=
  baseCoverageWarnings ++
    [topLevelCapWarning, missingEvidenceWarning, relevanceFilterWarning].filterMap (· context)

/-! ## Resolution -/

section Resolve

variable {N : Type} [Zero N] [One N] [Add N] [Mul N] [Div N] [LT N] [DecidableLT N] [LE N]
  [DecidableLE N] [DecidableEq N] (runtime : QueryRuntime N) (config : QueryModeConfig)
  (tables : QueryTables) (request : ParsedSummaryRequest)

def resolveQueryModeRequest : Except BriefError QueryModeResolution := do
  let parameters ← resolveQueryModeParameters config request
  let ranked ← loadRankedTopics runtime tables request parameters
  let hydrated ← hydrateTopics runtime tables request ranked.selectedRankedTopics parameters
  if hydrated.topicsWithEvidence.length = 0 then
    throw (toNoCoverageError
      "No recent activity was found for matched topics in the lookback window.")
  return {
    windows := [.own TREND_WINDOW_60M_PROTO]
    query :=
      { lookbackDays := some parameters.lookbackDays
        topicGlobs := some parameters.topicGlobs
        maxEventsPerTopic := some parameters.maxEventsPerTopic
        evidenceStrategy := some parameters.evidenceStrategy }
    topics := hydrated.topicsWithEvidence
    coverageWarnings := summarizeCoverageWarnings ranked.coverageWarnings
      { rankedTopicCount := ranked.rankedTopics.length
        selectedRankedTopicCount := ranked.selectedRankedTopics.length
        hydratedTopicCount := hydrated.hydratedTopics.length
        topicsWithEvidenceCount := hydrated.topicsWithEvidence.length
        relevanceFilteredCount := countRelevanceFilteredEvents hydrated.relevanceFilteredByTopic
        maxTopics := parameters.maxTopics } }

/-- The strategies of the resolver: a request that has topics is passed through. -/
def resolveRequest : Except BriefError ParsedSummaryRequest :=
  if request.topics = [] then (resolveQueryModeRequest runtime config tables request).map request.resolved
  else .ok request

end Resolve

end RisingIntelligence.Brief
