import RisingIntelligence.Brief.Types
import RisingIntelligence.Shared.Message

/-!
# The briefing handoff

`createBriefingJobPayload` of `packages/pipeline/src/briefing-handoff.ts`: the summary request that
goes to the brief service.  The observer of suspicious evidence is left out.
-/

namespace RisingIntelligence

open Brief (EvidenceStrategy LlmProvider SummaryRequestType)
open Js (Json MessageApi UrlApi)

/-! ## Input -/

structure SummaryRequestMetric where
  topic : String
  window : Js.Double
  score : Js.Double
  volume : Js.Double
  acceleration : Js.Double
  deriving DecidableEq

structure SummaryRequestTopicInput where
  topic : String
  metrics : List SummaryRequestMetric
  evidence : List BriefEvidenceRecordInput

structure SummaryRequestBudget where
  dailyBudgetUsd : Option Js.Double := none
  maxTopics : Option Js.Double := none
  maxEvidencePerTopic : Option Js.Double := none
  maxOutputTokens : Option Js.Double := none
  deriving DecidableEq

structure SummaryRequestQuery where
  lookbackDays : Option Js.Double := none
  topicGlobs : Option (List String) := none
  maxEventsPerTopic : Option Js.Double := none
  evidenceStrategy : Option EvidenceStrategy := none
  deriving DecidableEq

structure SummaryRequestReportInput where
  timezone : Option String := none
  startAt : Option DateInput := none
  endAt : Option DateInput := none

structure BriefingJobInput where
  requestId : String
  requestedAt : DateInput
  type : SummaryRequestType
  windows : List Js.Double
  topics : List SummaryRequestTopicInput
  budget : Option SummaryRequestBudget := none
  query : Option SummaryRequestQuery := none
  report : Option SummaryRequestReportInput := none
  llmProvider : Option LlmProvider := none

/-! ## Payload -/

structure EvidencePayload where
  eventId : String
  source : Js.Keyed CanonicalSource
  url : String
  title : String
  publishedAt : String
  fetchedAt : String
  textExcerpt : String
  deriving DecidableEq

structure TopicPayload where
  topic : String
  metrics : List SummaryRequestMetric
  evidence : List EvidencePayload
  deriving DecidableEq

structure ReportPayload where
  timezone : Option String
  startAt : Option String
  endAt : Option String
  deriving DecidableEq

structure SummaryRequestPayload where
  requestId : String
  requestedAt : String
  type : SummaryRequestType
  windows : List Js.Double
  topics : List TopicPayload
  budget : Option SummaryRequestBudget
  query : Option SummaryRequestQuery
  report : Option ReportPayload
  deriving DecidableEq

structure BriefingJobPayload extends SummaryRequestPayload where
  llmProvider : Option LlmProvider
  deriving DecidableEq

/-- What `createBriefingJobPayload` throws. -/
inductive BriefingHandoffError : Type
  | record (error : RawEventError)
  | invalidRequestedAt

def countEvidenceItems (topics : List SummaryRequestTopicInput) : Nat :=
  topics.foldl (fun count topic => count + topic.evidence.length) 0

/-- The excerpts of a request share `TARGET_TOTAL_EVIDENCE_EXCERPT_CHARS`. -/
def resolveBriefEvidenceExcerptMaxLength (topics : List SummaryRequestTopicInput) : Nat :=
  let evidenceCount := countEvidenceItems topics
  if evidenceCount = 0 then briefEvidenceExcerptMaxLength
  else max 160 (min briefEvidenceExcerptMaxLength (10000 / evidenceCount))

/-- `date ? date.toISOString() : ""` -/
def isoStringOrEmpty (api : MessageApi) : Option Int → String
  | some time => api.toISOString time
  | none => ""

def evidencePayload (api : MessageApi) (record : BriefEvidenceRecord) : EvidencePayload where
  eventId := record.eventId
  source := record.source
  url := record.url.getD ""
  title := record.title.getD ""
  publishedAt := isoStringOrEmpty api record.publishedAt
  fetchedAt := isoStringOrEmpty api record.fetchedAt
  textExcerpt := record.textExcerpt.getD ""

def mapEvidenceToPayload (api : MessageApi) (urls : UrlApi) (excerptMaxLength : Nat)
    (evidence : BriefEvidenceRecordInput) : Except RawEventError EvidencePayload :=
  (buildBriefEvidenceRecord api urls evidence excerptMaxLength).map (evidencePayload api)

def mapTopicToPayload (api : MessageApi) (urls : UrlApi) (excerptMaxLength : Nat)
    (topic : SummaryRequestTopicInput) : Except RawEventError TopicPayload := do
  let evidence ← topic.evidence.mapM (mapEvidenceToPayload api urls excerptMaxLength)
  return { topic := topic.topic, metrics := topic.metrics, evidence := evidence }

def toIsoString (api : MessageApi) (value : Option DateInput) (field : String) :
    Except RawEventError (Option String) :=
  (parseOptionalDateValue api value field).map (Option.map api.toISOString)

def mapReportToPayload (api : MessageApi) (report : SummaryRequestReportInput) :
    Except RawEventError ReportPayload := do
  let startAt ← toIsoString api report.startAt "report.start_at"
  let endAt ← toIsoString api report.endAt "report.end_at"
  return { timezone := report.timezone, startAt := startAt, endAt := endAt }

/-- `buildSummaryRequestPayload`, once `requested_at` is known. -/
def mapRequestToPayload (api : MessageApi) (urls : UrlApi) (input : BriefingJobInput)
    (requestedAt : Int) : Except RawEventError SummaryRequestPayload := do
  let excerptMaxLength := resolveBriefEvidenceExcerptMaxLength input.topics
  let topics ← input.topics.mapM (mapTopicToPayload api urls excerptMaxLength)
  let report ← input.report.mapM (mapReportToPayload api)
  return {
    requestId := input.requestId
    requestedAt := api.toISOString requestedAt
    type := input.type
    windows := input.windows
    topics := topics
    budget := input.budget
    query := input.query
    report := report }

def buildSummaryRequestPayload (api : MessageApi) (urls : UrlApi) (input : BriefingJobInput) :
    Except BriefingHandoffError SummaryRequestPayload :=
  match parseOptionalDateValue api (some input.requestedAt) "requested_at" with
  | .error error => .error (.record error)
  | .ok none => .error .invalidRequestedAt
  | .ok (some requestedAt) => (mapRequestToPayload api urls input requestedAt).mapError .record

/-- `text ? { key: text } : {}` -/
def presentText (text : Option String) : Option String := text.filter (· ≠ "")

/-- A report without any hint is left out. -/
def presentReport (report : ReportPayload) : Option ReportPayload :=
  let report : ReportPayload :=
    { timezone := presentText report.timezone
      startAt := presentText report.startAt
      endAt := presentText report.endAt }
  if report = ⟨none, none, none⟩ then none else some report

def createBriefingJobPayload (api : MessageApi) (urls : UrlApi) (input : BriefingJobInput) :
    Except BriefingHandoffError BriefingJobPayload := do
  let payload ← buildSummaryRequestPayload api urls input
  return { payload with
    report := payload.report.bind presentReport
    llmProvider := input.llmProvider }

/-! ## What is created -/

section Created

variable {api : MessageApi} {urls : UrlApi} {input : BriefingJobInput} {payload : BriefingJobPayload}

/-- The payload of a topic has the records of its evidence. -/
structure CreatedTopic (api : MessageApi) (urls : UrlApi) (excerptMaxLength : Nat)
    (topic : SummaryRequestTopicInput) (payload : TopicPayload) : Prop where
  name : payload.topic = topic.topic
  metrics : payload.metrics = topic.metrics
  evidence : List.Forall₂ (fun evidence written => ∃ record,
    buildBriefEvidenceRecord api urls evidence excerptMaxLength = .ok record ∧
      written = evidencePayload api record) topic.evidence payload.evidence

/-- The hints of a report, with its dates as texts. -/
def reportPayload (api : MessageApi) (report : SummaryRequestReportInput) : ReportPayload where
  timezone := report.timezone
  startAt := (dateTime api report.startAt).map api.toISOString
  endAt := (dateTime api report.endAt).map api.toISOString

structure Created (api : MessageApi) (urls : UrlApi) (input : BriefingJobInput)
    (payload : BriefingJobPayload) : Prop where
  requestId : payload.requestId = input.requestId
  requestedAt : ∃ time, dateTime api (some input.requestedAt) = some time ∧
    payload.requestedAt = api.toISOString time
  type : payload.type = input.type
  windows : payload.windows = input.windows
  topics : List.Forall₂
    (CreatedTopic api urls (resolveBriefEvidenceExcerptMaxLength input.topics))
    input.topics payload.topics
  budget : payload.budget = input.budget
  query : payload.query = input.query
  report : payload.report = input.report.bind fun report => presentReport (reportPayload api report)
  llmProvider : payload.llmProvider = input.llmProvider

theorem createdTopic_of_ok {excerptMaxLength : Nat} {topic : SummaryRequestTopicInput}
    {written : TopicPayload}
    (mapped : mapTopicToPayload api urls excerptMaxLength topic = .ok written) :
    CreatedTopic api urls excerptMaxLength topic written := by
  rcases bind_eq_ok.1 mapped with ⟨evidence, each, same⟩
  cases same
  constructor
  case name => rfl
  case metrics => rfl
  case evidence =>
    apply (mapM_eq_ok.1 each).imp
    intro input written mapped
    rcases map_eq_ok.1 mapped with ⟨record, built, same⟩
    exact ⟨record, built, same.symm⟩

theorem mapReportToPayload_eq {report : SummaryRequestReportInput} {written : ReportPayload}
    (mapped : mapReportToPayload api report = .ok written) : written = reportPayload api report := by
  rcases bind_eq_ok.1 mapped with ⟨startAt, start, mapped⟩
  rcases bind_eq_ok.1 mapped with ⟨endAt, stop, same⟩
  cases same
  rcases map_eq_ok.1 start with ⟨start, parsed, rfl⟩
  rcases map_eq_ok.1 stop with ⟨stop, parsed', rfl⟩
  unfold reportPayload
  rw [dateTime_of_parse parsed, dateTime_of_parse parsed']

theorem created_of_ok (created : createBriefingJobPayload api urls input = .ok payload) :
    Created api urls input payload := by
  rcases bind_eq_ok.1 created with ⟨request, built, same⟩
  cases same
  unfold buildSummaryRequestPayload at built
  split at built
  · cases built
  · cases built
  · rename_i requestedAt parsed
    have mapped := mapError_eq_ok.1 built
    rcases bind_eq_ok.1 mapped with ⟨topics, each, mapped⟩
    rcases bind_eq_ok.1 mapped with ⟨report, hints, same⟩
    cases same
    constructor
    case requestId => rfl
    case requestedAt => exact ⟨requestedAt, dateTime_of_parse parsed, rfl⟩
    case type => rfl
    case windows => rfl
    case topics => exact (mapM_eq_ok.1 each).imp fun _ _ => createdTopic_of_ok
    case budget => rfl
    case query => rfl
    case report =>
      rcases option_mapM_eq_ok.1 hints with ⟨absent, same⟩ | ⟨hint, written, present, same, mapped⟩
      · rw [same, absent]
        rfl
      · rw [same, present, mapReportToPayload_eq mapped]
        rfl
    case llmProvider => rfl

end Created

/-! ## The payload in JSON -/

/-- An inherited source is a function, which JSON leaves out, or `Object.prototype` itself. -/
def sourceJson : Js.Keyed CanonicalSource → Option Json
  | .own source => some (.string source.name)
  | .inherited key => if key = "__proto__" then some (.object []) else none

def SummaryRequestMetric.toJson (metric : SummaryRequestMetric) : Json :=
  .ofFields [("topic", some (.string metric.topic)), ("window", some (.ofDouble metric.window)),
    ("score", some (.ofDouble metric.score)), ("volume", some (.ofDouble metric.volume)),
    ("acceleration", some (.ofDouble metric.acceleration))]

def EvidencePayload.toJson (evidence : EvidencePayload) : Json :=
  .ofFields [("event_id", some (.string evidence.eventId)), ("source", sourceJson evidence.source),
    ("url", some (.string evidence.url)), ("title", some (.string evidence.title)),
    ("published_at", some (.string evidence.publishedAt)),
    ("fetched_at", some (.string evidence.fetchedAt)),
    ("text_excerpt", some (.string evidence.textExcerpt))]

def TopicPayload.toJson (topic : TopicPayload) : Json :=
  .ofFields [("topic", some (.string topic.topic)),
    ("metrics", some (.array (topic.metrics.map SummaryRequestMetric.toJson))),
    ("evidence", some (.array (topic.evidence.map EvidencePayload.toJson)))]

def SummaryRequestBudget.fields (budget : SummaryRequestBudget) : List (String × Option Json) :=
  [("daily_budget_usd", budget.dailyBudgetUsd.map .ofDouble),
    ("max_topics", budget.maxTopics.map .ofDouble),
    ("max_evidence_per_topic", budget.maxEvidencePerTopic.map .ofDouble),
    ("max_output_tokens", budget.maxOutputTokens.map .ofDouble)]

def SummaryRequestBudget.toJson (budget : SummaryRequestBudget) : Json := .ofFields budget.fields

def SummaryRequestQuery.fields (query : SummaryRequestQuery) : List (String × Option Json) :=
  [("lookback_days", query.lookbackDays.map .ofDouble),
    ("topic_globs", query.topicGlobs.map .ofStrings),
    ("max_events_per_topic", query.maxEventsPerTopic.map .ofDouble),
    ("evidence_strategy", query.evidenceStrategy.map fun strategy => .string strategy.name)]

def SummaryRequestQuery.toJson (query : SummaryRequestQuery) : Json := .ofFields query.fields

def ReportPayload.fields (report : ReportPayload) : List (String × Option Json) :=
  [("timezone", report.timezone.map .string), ("start_at", report.startAt.map .string),
    ("end_at", report.endAt.map .string)]

def ReportPayload.toJson (report : ReportPayload) : Json := .ofFields report.fields

def BriefingJobPayload.fields (payload : BriefingJobPayload) : List (String × Option Json) :=
  [("request_id", some (.string payload.requestId)),
    ("requested_at", some (.string payload.requestedAt)),
    ("type", some (.string payload.type.name)),
    ("windows", some (.array (payload.windows.map .ofDouble))),
    ("topics", some (.array (payload.topics.map TopicPayload.toJson))),
    ("budget", payload.budget.map SummaryRequestBudget.toJson),
    ("query", payload.query.map SummaryRequestQuery.toJson),
    ("report", payload.report.map ReportPayload.toJson),
    ("llm_provider", payload.llmProvider.map fun provider => .string provider.name)]

def BriefingJobPayload.toJson (payload : BriefingJobPayload) : Json := .ofFields payload.fields

end RisingIntelligence
