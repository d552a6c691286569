import RisingIntelligence.Brief.Types
import RisingIntelligence.Shared.Double
import RisingIntelligence.Shared.Message

/-!
# Summary requests

The consumer side of the summary-requests topic, `apps/brief/src/deserialize.ts`: the wire schema and
what `deserializeSummaryRequest` makes of a message, with `apps/brief/src/topic-glob.ts`.
-/

namespace RisingIntelligence.Brief

open Js (Json MessageApi Schema UrlApi)

/-! ## The wire -/

structure WireMetric where
  topic : Option String
  window : Option (Int ⊕ String)
  score : Option Js.Number
  volume : Option Js.Number
  acceleration : Option Js.Number

structure WireEvidence where
  eventId : Option String
  source : Option (Int ⊕ String)
  url : Option String
  title : Option String
  publishedAt : Option String
  fetchedAt : Option String
  textExcerpt : Option String

structure WireTopic where
  topic : String
  metrics : Option (List WireMetric)
  evidence : Option (List WireEvidence)

structure WireQuery where
  lookbackDays : Option (Int ⊕ String)
  topicGlobs : Option (List String)
  maxEventsPerTopic : Option (Int ⊕ String)
  evidenceStrategy : Option String

structure WireReport where
  timezone : Option String
  startAt : Option String
  endAt : Option String

/-- What `SummaryRequestWireSchema` parses to. -/
structure SummaryRequestWire where
  requestId : String
  requestedAt : String
  type : Int ⊕ String
  windows : Option (List (Int ⊕ String))
  topics : Option (List WireTopic)
  budget : Option BriefBudget
  query : Option WireQuery
  report : Option WireReport
  llmProvider : Option String

/-- `z.number().nonnegative()` -/
def nonnegativeSchema : Schema Js.Number := fun value =>
  (Schema.number value).filter fun
    | .finite number => decide (0 ≤ number)
    | .infinite negative => !negative

/-- `z.number().int().positive()` -/
def positiveIntSchema : Schema Int := fun value => (Schema.int value).filter (0 < ·)

def wireMetricSchema : Schema WireMetric := fun value => do
  guard (Schema.isObject value = true)
  let topic ← Schema.optional "topic" Schema.nonempty value
  let window ← Schema.optional "window" (Schema.union Schema.int Schema.string) value
  let score ← Schema.optional "score" Schema.number value
  let volume ← Schema.optional "volume" Schema.number value
  let acceleration ← Schema.optional "acceleration" Schema.number value
  return { topic, window, score, volume, acceleration }

def wireEvidenceSchema : Schema WireEvidence := fun value => do
  guard (Schema.isObject value = true)
  let eventId ← Schema.optional "event_id" Schema.nonempty value
  let source ← Schema.optional "source" (Schema.union Schema.int Schema.nonempty) value
  let url ← Schema.optional "url" Schema.string value
  let title ← Schema.optional "title" Schema.string value
  let publishedAt ← Schema.optional "published_at" Schema.string value
  let fetchedAt ← Schema.optional "fetched_at" Schema.string value
  let textExcerpt ← Schema.optional "text_excerpt" Schema.string value
  return { eventId, source, url, title, publishedAt, fetchedAt, textExcerpt }

def wireTopicSchema : Schema WireTopic := fun value => do
  guard (Schema.isObject value = true)
  let topic ← Schema.required "topic" Schema.nonempty value
  let metrics ← Schema.optional "metrics" (Schema.array wireMetricSchema) value
  let evidence ← Schema.optional "evidence" (Schema.array wireEvidenceSchema) value
  return { topic, metrics, evidence }

def wireBudgetSchema : Schema BriefBudget := fun value => do
  guard (Schema.isObject value = true)
  let dailyBudgetUsd ← Schema.optional "daily_budget_usd" nonnegativeSchema value
  let maxTopics ← Schema.optional "max_topics" positiveIntSchema value
  let maxEvidencePerTopic ← Schema.optional "max_evidence_per_topic" positiveIntSchema value
  let maxOutputTokens ← Schema.optional "max_output_tokens" positiveIntSchema value
  return { dailyBudgetUsd, maxTopics, maxEvidencePerTopic, maxOutputTokens }

def wireQuerySchema : Schema WireQuery := fun value => do
  guard (Schema.isObject value = true)
  let lookbackDays ← Schema.optional "lookback_days" (Schema.union Schema.int Schema.nonempty) value
  let topicGlobs ← Schema.optional "topic_globs" (Schema.array Schema.nonempty) value
  let maxEventsPerTopic ←
    Schema.optional "max_events_per_topic" (Schema.union Schema.int Schema.nonempty) value
  let evidenceStrategy ← Schema.optional "evidence_strategy" Schema.string value
  return { lookbackDays, topicGlobs, maxEventsPerTopic, evidenceStrategy }

def wireReportSchema : Schema WireReport := fun value => do
  guard (Schema.isObject value = true)
  let timezone ← Schema.optional "timezone" Schema.nonempty value
  let startAt ← Schema.optional "start_at" Schema.string value
  let endAt ← Schema.optional "end_at" Schema.string value
  return { timezone, startAt, endAt }

/-- `SummaryRequestWireSchema` -/
def summaryRequestWireSchema : Schema SummaryRequestWire := fun value => do
  guard (Schema.isObject value = true)
  let requestId ← Schema.required "request_id" Schema.nonempty value
  let requestedAt ← Schema.required "requested_at" Schema.nonempty value
  let type ← Schema.required "type" (Schema.union Schema.int Schema.nonempty) value
  let windows ←
    Schema.optional "windows" (Schema.array (Schema.union Schema.int Schema.string)) value
  let topics ← Schema.optional "topics" (Schema.array wireTopicSchema) value
  let budget ← Schema.optional "budget" wireBudgetSchema value
  let query ← Schema.optional "query" wireQuerySchema value
  let report ← Schema.optional "report" wireReportSchema value
  let llmProvider ← Schema.optional "llm_provider" Schema.string value
  return { requestId, requestedAt, type, windows, topics, budget, query, report, llmProvider }

/-! ## Values -/

/-- What `deserializeSummaryRequest` throws. -/
inductive SummaryRequestError : Type
  | invalidJson (message : String)
  | schema
  | invalidDate (field value : String)
  | invalidTimezone (value : String)
  | reportBounds
  | windowEnum (value : Int)
  | windowValue (value : String)
  | typeEnum (value : Int)
  | typeValue (value : String)
  | positiveInteger (fieldName : String) (value : Int ⊕ String)
  | emptyGlob
  | longGlob
  | unsupportedGlob (glob : String)
  | evidenceStrategy (value : String)
  | llmProvider (value : String)
  | missingSource
  | source (error : SourceError)
  /-- A `TypeError`: what was inherited for a source is no text. -/
  | inheritedSource (key : String)
  | record (error : RawEventError)

def maxGlobLength : Nat := 128

/-- `TOPIC_GLOB_PATTERN`, for one character. -/
def isTopicGlobChar (c : Char) : Bool := c.isAlphanum || ['.', '*', '?', '_', '-'].contains c

def validateTopicGlob (glob : String) : Except SummaryRequestError String :=
  let normalized := Js.trim glob
  if normalized = "" then .error .emptyGlob
  else if maxGlobLength < Js.length normalized then .error .longGlob
  else if normalized.toList.all isTopicGlobChar then .ok normalized
  else .error (.unsupportedGlob glob)

/-- What the validator accepts. -/
structure ValidGlob (glob : String) : Prop where
  nonempty : Js.trim glob ≠ ""
  short : Js.length (Js.trim glob) ≤ maxGlobLength
  letters : ∀ c ∈ (Js.trim glob).toList, isTopicGlobChar c = true

theorem validateTopicGlob_eq {glob : String} (valid : ValidGlob glob) :
    validateTopicGlob glob = .ok (Js.trim glob) := by
  unfold validateTopicGlob
  dsimp only
  rw [if_neg valid.nonempty, if_neg (Nat.not_lt.2 valid.short),
    if_pos (List.all_eq_true.2 valid.letters)]

theorem validateTopicGlob_eq_ok {glob normalized : String} :
    validateTopicGlob glob = .ok normalized ↔ Js.trim glob = normalized ∧ ValidGlob glob := by
  constructor
  · intro accepted
    unfold validateTopicGlob at accepted
    dsimp only at accepted
    split at accepted
    · cases accepted
    · rename_i nonempty
      split at accepted
      · cases accepted
      · rename_i short
        split at accepted
        · rename_i letters
          exact ⟨Except.ok.inj accepted, nonempty, Nat.not_lt.1 short, List.all_eq_true.1 letters⟩
        · cases accepted
  · intro ⟨trimmed, valid⟩
    rw [validateTopicGlob_eq valid, trimmed]

theorem ValidGlob.trim {glob : String} (valid : ValidGlob glob) : ValidGlob (Js.trim glob) := by
  constructor
  case nonempty =>
    rw [Js.trim_trim]
    exact valid.nonempty
  case short =>
    rw [Js.trim_trim]
    exact valid.short
  case letters =>
    rw [Js.trim_trim]
    exact valid.letters

def normalizeTopicGlobs (globs : Option (List String)) :
    Except SummaryRequestError (Option (List String)) :=
  match globs with
  | none | some [] => .ok none
  | some globs => (globs.mapM validateTopicGlob).map fun normalized => some (Js.distinct normalized)

def supportedTrendWindows : List Int := [1, 2, 3]

def trendWindowAliases : List (String × Int) :=
  [("trend_window_15m", 1), ("trend_window_60m", 2), ("trend_window_24h", 3)]

def parseTrendWindow (api : MessageApi) :
    Int ⊕ String → Except SummaryRequestError (Js.Keyed Int)
  | .inl value =>
      if value ∈ supportedTrendWindows then .ok (.own value) else .error (.windowEnum value)
  | .inr value =>
      let normalized := api.toLowerCase (Js.trim value)
      match Js.lookup trendWindowAliases normalized with
      | some aliasValue => .ok aliasValue
      | none =>
          match (Js.parseInt10 normalized).filter fun asNumber =>
            toString asNumber = normalized ∧ asNumber ∈ supportedTrendWindows with
          | some asNumber => .ok (.own asNumber)
          | none => .error (.windowValue value)

/-- `SUMMARY_REQUEST_TYPE_ENUMS` -/
def summaryRequestTypeEnums : List (Int × SummaryRequestType) := [(1, .daily), (2, .threshold)]

/-- `SUMMARY_REQUEST_TYPE_ALIASES` -/
def summaryRequestTypeAliases : List (String × SummaryRequestType) :=
  [("summary_request_type_daily", .daily), ("daily", .daily),
    ("summary_request_type_threshold", .threshold), ("threshold", .threshold)]

def parseSummaryRequestType (api : MessageApi) :
    Int ⊕ String → Except SummaryRequestError (Js.Keyed SummaryRequestType)
  | .inl value =>
      match summaryRequestTypeEnums.lookup value with
      | some type => .ok (.own type)
      | none => .error (.typeEnum value)
  | .inr value =>
      match Js.lookup summaryRequestTypeAliases (api.toLowerCase (Js.trim value)) with
      | some type => .ok type
      | none => .error (.typeValue value)

def parseRequestedAt (api : MessageApi) (value : String) : Except SummaryRequestError Date :=
  match api.dateOf value with
  | some date => .ok date
  | none => .error (.invalidDate "requested_at" value)

def parseOptionalDate (api : MessageApi) (value : Option String) (field : String) :
    Except SummaryRequestError (Option Date) :=
  match value with
  | none => .ok none
  | some text =>
      if Js.trim text = "" then .ok none
      else match api.dateOf text with
        | some date => .ok (some date)
        | none => .error (.invalidDate field text)

/-- `Number.parseInt(text, 10)` of a text that is all digits, if it is an integer and not `Infinity`. -/
def parseDigits (text : String) : Option Int :=
  if text.toList.all Char.isDigit then
    (Js.parseInt10 text).bind fun number => (Js.toDouble number).integer?
  else none

def parseOptionalPositiveInteger (value : Option (Int ⊕ String)) (fieldName : String) :
    Except SummaryRequestError (Option Int) :=
  match value with
  | none => .ok none
  | some value =>
      let parsed := match value with
        | .inl number => some number
        | .inr text => parseDigits (Js.trim text)
      match parsed.filter (0 < ·) with
      | some number => .ok (some number)
      | none => .error (.positiveInteger fieldName value)

/-- `SUPPORTED_EVIDENCE_STRATEGIES`, whose keys are the strategies. -/
def supportedEvidenceStrategies : List (String × EvidenceStrategy) :=
  [("diversity", .diversity), ("recency", .recency), ("engagement", .engagement)]

/-- A missing strategy is `diversity`. -/
def parseEvidenceStrategy (api : MessageApi) (value : Option String) :
    Except SummaryRequestError (Js.Keyed EvidenceStrategy) :=
  match value.filter (· ≠ "") with
  | none => .ok (.own .diversity)
  | some text =>
      match Js.lookup supportedEvidenceStrategies (api.toLowerCase (Js.trim text)) with
      | some strategy => .ok strategy
      | none => .error (.evidenceStrategy text)

/-- `SUPPORTED_LLM_PROVIDERS` -/
def supportedLlmProviders : List (String × LlmProvider) :=
  [("internal", .internal), ("http", .http), ("codex-cli", .codexCli)]

def parseLlmProvider (api : MessageApi) (value : Option String) :
    Except SummaryRequestError (Option (Js.Keyed LlmProvider)) :=
  match value.filter (· ≠ "") with
  | none => .ok none
  | some text =>
      let normalized := api.toLowerCase (Js.trim text)
      if normalized = "" then .ok none
      else match Js.lookup supportedLlmProviders normalized with
        | some provider => .ok (some provider)
        | none => .error (.llmProvider text)

/-- `isTimeZone` tells what `Intl.DateTimeFormat` accepts. -/
def parseOptionalTimezone (isTimeZone : String → Bool) (value : Option String) :
    Except SummaryRequestError (Option String) :=
  match value with
  | none => .ok none
  | some text =>
      let timezone := Js.trim text
      if timezone = "" then .ok none
      else if isTimeZone timezone then .ok (some timezone)
      else .error (.invalidTimezone text)

/-! ## Decoding -/

/-- `metric.topic?.trim() || parsedTopic` -/
def metricTopic (topic : Option String) (parsedTopic : String) : String :=
  ((topic.map Js.trim).filter (· ≠ "")).getD parsedTopic

def parseMetric (api : MessageApi) (parsedTopic : String) (metric : WireMetric) :
    Except SummaryRequestError ParsedSummaryMetric := do
  let window ← match metric.window with
    | some window => parseTrendWindow api window
    | none => .ok (.own 0)
  return {
    topic := metricTopic metric.topic parsedTopic
    window := window
    score := metric.score.getD (.finite 0)
    volume := metric.volume.getD (.finite 0)
    acceleration := metric.acceleration.getD (.finite 0) }

def parseEvidenceSource (api : MessageApi) (value : Option (Int ⊕ String)) :
    Except SummaryRequestError (Js.Keyed CanonicalSource) :=
  match value with
  | none => .error .missingSource
  | some source => (parseCanonicalSource api.toLowerCase source).mapError .source

/-- The input of `buildBriefEvidenceRecord`, which parses the name of the source again. -/
def evidenceInput (evidence : WireEvidence) (source : CanonicalSource)
    (publishedAt fetchedAt : Option Date) : BriefEvidenceRecordInput where
  eventId := (evidence.eventId.map Js.trim).getD ""
  source := .inr source.name
  url := evidence.url
  title := evidence.title
  publishedAt := publishedAt.map fun time => .date (some time)
  fetchedAt := fetchedAt.map fun time => .date (some time)
  textExcerpt := evidence.textExcerpt

def parseEvidence (api : MessageApi) (urls : UrlApi) (evidence : WireEvidence) :
    Except SummaryRequestError BriefEvidenceRecord := do
  let source ← parseEvidenceSource api evidence.source
  let publishedAt ← parseOptionalDate api evidence.publishedAt "published_at"
  let fetchedAt ← parseOptionalDate api evidence.fetchedAt "fetched_at"
  match source with
  | .inherited key => .error (.inheritedSource key)
  | .own source =>
      (buildBriefEvidenceRecord api urls (evidenceInput evidence source publishedAt fetchedAt)
        briefEvidenceExcerptMaxLength).mapError .record

def parseTopic (api : MessageApi) (urls : UrlApi) (topic : WireTopic) :
    Except SummaryRequestError ParsedSummaryTopic := do
  let parsedTopic := Js.trim topic.topic
  let metrics ← (topic.metrics.getD []).mapM (parseMetric api parsedTopic)
  let evidence ← (topic.evidence.getD []).mapM (parseEvidence api urls)
  return { topic := parsedTopic, metrics := metrics, evidence := evidence }

def parseQuery (api : MessageApi) (query : WireQuery) :
    Except SummaryRequestError ParsedSummaryQuery := do
  let lookbackDays ← parseOptionalPositiveInteger query.lookbackDays "query.lookback_days"
  let topicGlobs ← normalizeTopicGlobs query.topicGlobs
  let maxEventsPerTopic ←
    parseOptionalPositiveInteger query.maxEventsPerTopic "query.max_events_per_topic"
  let evidenceStrategy ← parseEvidenceStrategy api query.evidenceStrategy
  return {
    lookbackDays := lookbackDays
    topicGlobs := topicGlobs
    maxEventsPerTopic := maxEventsPerTopic
    evidenceStrategy := some evidenceStrategy }

def checkReportBounds (startAt endAt : Option Date) : Except SummaryRequestError Unit :=
  match startAt, endAt with
  | some startAt, some endAt => if endAt < startAt then .error .reportBounds else .ok ()
  | _, _ => .ok ()

/-- A report with no hint is no report. -/
def reportHints (timezone : Option String) (startAt endAt : Option Date) :
    Option ParsedSummaryReport :=
  if timezone = none ∧ startAt = none ∧ endAt = none then none
  else some { timezone := timezone, startAt := startAt, endAt := endAt }

def parseReport (api : MessageApi) (isTimeZone : String → Bool) (report : Option WireReport) :
    Except SummaryRequestError (Option ParsedSummaryReport) := do
  let timezone ← parseOptionalTimezone isTimeZone (report.bind (·.timezone))
  let startAt ← parseOptionalDate api (report.bind (·.startAt)) "report.start_at"
  let endAt ← parseOptionalDate api (report.bind (·.endAt)) "report.end_at"
  checkReportBounds startAt endAt
  return reportHints timezone startAt endAt

def parsedSummaryRequest (api : MessageApi) (urls : UrlApi) (isTimeZone : String → Bool)
    (wire : SummaryRequestWire) : Except SummaryRequestError ParsedSummaryRequest := do
  let report ← parseReport api isTimeZone wire.report
  let requestedAt ← parseRequestedAt api wire.requestedAt
  let type ← parseSummaryRequestType api wire.type
  let windows ← (wire.windows.getD []).mapM (parseTrendWindow api)
  let query ← wire.query.mapM (parseQuery api)
  let llmProvider ← parseLlmProvider api wire.llmProvider
  let topics ← (wire.topics.getD []).mapM (parseTopic api urls)
  return {
    requestId := wire.requestId
    requestedAt := requestedAt
    type := type
    windows := windows
    budget := wire.budget
    query := query
    report := report
    topics := topics
    llmProvider := llmProvider
    coverageWarnings := none }

def deserializeSummaryRequest (api : MessageApi) (urls : UrlApi) (isTimeZone : String → Bool)
    (messageValue : ByteArray) : Except SummaryRequestError ParsedSummaryRequest :=
  match api.parse (api.toText messageValue) with
  | .error message => .error (.invalidJson message)
  | .ok decoded =>
      match summaryRequestWireSchema decoded with
      | none => .error .schema
      | some wire => parsedSummaryRequest api urls isTimeZone wire

end RisingIntelligence.Brief
