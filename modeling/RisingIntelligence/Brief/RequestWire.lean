import RisingIntelligence.Brief.SummaryRequest
import RisingIntelligence.Pipeline.BriefingHandoff
import RisingIntelligence.Shared.Throws

/-!
# Payloads on the wire

The payloads of `createBriefingJobPayload` that `SummaryRequestWireSchema` accepts, and what it parses
them to.
-/

namespace RisingIntelligence.Brief

open Js (Json MessageApi Schema UrlApi)

/-! ## Numbers -/

/-- A finite number as the consumer reads it. -/
def numberOf (value : Js.Double) : Js.Number := (Js.finiteNumber value).getD (.finite 0)

/-- A whole number as the consumer reads it. -/
def intOf : Js.Double → Int
  | .number number => number.integer?.getD 0
  | .nan => 0

def IsTrendWindow (value : Js.Double) : Prop :=
  ∃ window ∈ supportedTrendWindows, value = .ofInt window

def IsPositiveInteger (value : Js.Double) : Prop := ∃ number : Int, 0 < number ∧ value = .ofInt number

/-- A budget in dollars. -/
def IsNonnegative (value : Js.Double) : Prop :=
  ∃ number : ℚ, 0 ≤ number ∧ value = .number (.finite number)

@[simp] theorem intOf_ofInt (value : Int) : intOf (.ofInt value) = value := by
  simp [intOf, Js.Double.ofInt, Js.Number.integer?]

@[simp] theorem int_ofInt (value : Int) : Schema.int (.ofDouble (.ofInt value)) = some value := by
  simp [Schema.int, Schema.number, Json.ofDouble, Js.Double.ofInt, Js.Number.integer?]

theorem union_ofDouble {α : Type} (other : Schema α) {value : Js.Double}
    (whole : ∃ number : Int, value = .ofInt number) :
    Schema.union Schema.int other (.ofDouble value) = some (.inl (intOf value)) := by
  rcases whole with ⟨number, rfl⟩
  simp [Schema.union]

theorem number_ofDouble {value : Js.Double} (finite : value.isFinite = true) :
    Schema.number (.ofDouble value) = some (numberOf value) := by
  rcases Js.exists_of_isFinite finite with ⟨number, rfl⟩
  rfl

theorem number_numberOf {value : Js.Double} (finite : value.isFinite = true) :
    Js.Double.number (numberOf value) = value := by
  rcases Js.exists_of_isFinite finite with ⟨number, rfl⟩
  rfl

theorem positiveInt_ofDouble {value : Js.Double} (positive : IsPositiveInteger value) :
    positiveIntSchema (.ofDouble value) = some (intOf value) := by
  rcases positive with ⟨number, positive, rfl⟩
  unfold positiveIntSchema
  rw [int_ofInt, intOf_ofInt]
  exact Option.filter_some_pos (decide_eq_true positive)

theorem nonnegative_ofDouble {value : Js.Double} (nonnegative : IsNonnegative value) :
    nonnegativeSchema (.ofDouble value) = some (numberOf value) := by
  rcases nonnegative with ⟨number, nonnegative, rfl⟩
  exact Option.filter_some_pos (decide_eq_true nonnegative)

/-! ## The payload on the wire -/

/-- A metric that the decoder takes as it is. -/
structure DecodableMetric (metric : SummaryRequestMetric) : Prop where
  trimmed : Js.trim metric.topic = metric.topic
  topic : metric.topic ≠ ""
  window : IsTrendWindow metric.window
  score : metric.score.isFinite = true
  volume : metric.volume.isFinite = true
  acceleration : metric.acceleration.isFinite = true

def wireMetric (metric : SummaryRequestMetric) : WireMetric where
  topic := some metric.topic
  window := some (.inl (intOf metric.window))
  score := some (numberOf metric.score)
  volume := some (numberOf metric.volume)
  acceleration := some (numberOf metric.acceleration)

theorem wireMetricSchema_toJson {metric : SummaryRequestMetric} (decodable : DecodableMetric metric) :
    wireMetricSchema metric.toJson = some (wireMetric metric) := by
  have topic : Schema.optional "topic" Schema.nonempty metric.toJson = some (some metric.topic) :=
    Schema.optional_of_property rfl (Schema.nonempty_string decodable.topic)
  have window : Schema.optional "window" (Schema.union Schema.int Schema.string) metric.toJson =
      some (some (.inl (intOf metric.window))) := by
    rcases decodable.window with ⟨window, -, same⟩
    exact Schema.optional_of_property rfl (union_ofDouble Schema.string ⟨window, same⟩)
  have score : Schema.optional "score" Schema.number metric.toJson =
      some (some (numberOf metric.score)) :=
    Schema.optional_of_property rfl (number_ofDouble decodable.score)
  have volume : Schema.optional "volume" Schema.number metric.toJson =
      some (some (numberOf metric.volume)) :=
    Schema.optional_of_property rfl (number_ofDouble decodable.volume)
  have acceleration : Schema.optional "acceleration" Schema.number metric.toJson =
      some (some (numberOf metric.acceleration)) :=
    Schema.optional_of_property rfl (number_ofDouble decodable.acceleration)
  unfold wireMetricSchema
  rw [topic, window, score, volume, acceleration]
  rfl

/-- Evidence with an id and a source. -/
structure AcceptedEvidence (evidence : EvidencePayload) : Prop where
  eventId : evidence.eventId ≠ ""
  source : ∃ source, evidence.source = .own source

def wireSource : Js.Keyed CanonicalSource → Option (Int ⊕ String)
  | .own source => some (.inr source.name)
  | .inherited _ => none

def wireEvidence (evidence : EvidencePayload) : WireEvidence where
  eventId := some evidence.eventId
  source := wireSource evidence.source
  url := some evidence.url
  title := some evidence.title
  publishedAt := some evidence.publishedAt
  fetchedAt := some evidence.fetchedAt
  textExcerpt := some evidence.textExcerpt

theorem wireEvidenceSchema_toJson {evidence : EvidencePayload}
    (accepted : AcceptedEvidence evidence) :
    wireEvidenceSchema evidence.toJson = some (wireEvidence evidence) := by
  rcases accepted with ⟨nonempty, source, own⟩
  rcases evidence with ⟨eventId, _, url, title, publishedAt, fetchedAt, textExcerpt⟩
  cases own
  have id : Schema.optional "event_id" Schema.nonempty (EvidencePayload.toJson
      ⟨eventId, .own source, url, title, publishedAt, fetchedAt, textExcerpt⟩) =
      some (some eventId) :=
    Schema.optional_of_property rfl (Schema.nonempty_string nonempty)
  have named : Schema.union Schema.int Schema.nonempty (.string source.name) =
      some (.inr source.name) := by
    cases source <;> rfl
  have source : Schema.optional "source" (Schema.union Schema.int Schema.nonempty)
      (EvidencePayload.toJson
        ⟨eventId, .own source, url, title, publishedAt, fetchedAt, textExcerpt⟩) =
      some (some (.inr source.name)) :=
    Schema.optional_of_property rfl named
  unfold wireEvidenceSchema
  rw [id, source]
  rfl

structure AcceptedTopic (topic : TopicPayload) : Prop where
  named : topic.topic ≠ ""
  metrics : ∀ metric ∈ topic.metrics, DecodableMetric metric
  evidence : ∀ evidence ∈ topic.evidence, AcceptedEvidence evidence

def wireTopic (topic : TopicPayload) : WireTopic where
  topic := topic.topic
  metrics := some (topic.metrics.map wireMetric)
  evidence := some (topic.evidence.map wireEvidence)

theorem wireTopicSchema_toJson {topic : TopicPayload} (accepted : AcceptedTopic topic) :
    wireTopicSchema topic.toJson = some (wireTopic topic) := by
  have name : Schema.required "topic" Schema.nonempty topic.toJson = some topic.topic :=
    Schema.required_of_property rfl (Schema.nonempty_string accepted.named)
  have metrics : Schema.optional "metrics" (Schema.array wireMetricSchema) topic.toJson =
      some (some (topic.metrics.map wireMetric)) :=
    Schema.optional_of_property rfl
      (Schema.array_map fun metric mem => wireMetricSchema_toJson (accepted.metrics metric mem))
  have evidence : Schema.optional "evidence" (Schema.array wireEvidenceSchema) topic.toJson =
      some (some (topic.evidence.map wireEvidence)) :=
    Schema.optional_of_property rfl
      (Schema.array_map fun evidence mem => wireEvidenceSchema_toJson (accepted.evidence evidence mem))
  unfold wireTopicSchema
  rw [name, metrics, evidence]
  rfl

/-- A budget that the schema accepts. -/
structure DecodableBudget (budget : SummaryRequestBudget) : Prop where
  dailyBudgetUsd : ∀ value, budget.dailyBudgetUsd = some value → IsNonnegative value
  maxTopics : ∀ value, budget.maxTopics = some value → IsPositiveInteger value
  maxEvidencePerTopic : ∀ value, budget.maxEvidencePerTopic = some value → IsPositiveInteger value
  maxOutputTokens : ∀ value, budget.maxOutputTokens = some value → IsPositiveInteger value

def wireBudget (budget : SummaryRequestBudget) : BriefBudget where
  dailyBudgetUsd := budget.dailyBudgetUsd.map numberOf
  maxTopics := budget.maxTopics.map intOf
  maxEvidencePerTopic := budget.maxEvidencePerTopic.map intOf
  maxOutputTokens := budget.maxOutputTokens.map intOf

theorem wireBudgetSchema_toJson {budget : SummaryRequestBudget}
    (decodable : DecodableBudget budget) :
    wireBudgetSchema budget.toJson = some (wireBudget budget) := by
  have names : (budget.fields.map (·.1)).Nodup := by
    change (["daily_budget_usd", "max_topics", "max_evidence_per_topic",
      "max_output_tokens"] : List String).Nodup
    decide
  have dailyBudgetUsd : Schema.optional "daily_budget_usd" nonnegativeSchema budget.toJson =
      some (budget.dailyBudgetUsd.map numberOf) :=
    Schema.optional_of_fields names .ofDouble rfl fun value present =>
      nonnegative_ofDouble (decodable.dailyBudgetUsd value present)
  have maxTopics : Schema.optional "max_topics" positiveIntSchema budget.toJson =
      some (budget.maxTopics.map intOf) :=
    Schema.optional_of_fields names .ofDouble rfl fun value present =>
      positiveInt_ofDouble (decodable.maxTopics value present)
  have maxEvidencePerTopic : Schema.optional "max_evidence_per_topic" positiveIntSchema
      budget.toJson = some (budget.maxEvidencePerTopic.map intOf) :=
    Schema.optional_of_fields names .ofDouble rfl fun value present =>
      positiveInt_ofDouble (decodable.maxEvidencePerTopic value present)
  have maxOutputTokens : Schema.optional "max_output_tokens" positiveIntSchema budget.toJson =
      some (budget.maxOutputTokens.map intOf) :=
    Schema.optional_of_fields names .ofDouble rfl fun value present =>
      positiveInt_ofDouble (decodable.maxOutputTokens value present)
  unfold wireBudgetSchema
  rw [dailyBudgetUsd, maxTopics, maxEvidencePerTopic, maxOutputTokens]
  rfl

/-- A query with whole positive numbers and normalised globs. -/
structure DecodableQuery (query : SummaryRequestQuery) : Prop where
  lookbackDays : ∀ value, query.lookbackDays = some value → IsPositiveInteger value
  maxEventsPerTopic : ∀ value, query.maxEventsPerTopic = some value → IsPositiveInteger value
  topicGlobs : normalizeTopicGlobs query.topicGlobs = .ok query.topicGlobs

def wireQuery (query : SummaryRequestQuery) : WireQuery where
  lookbackDays := query.lookbackDays.map fun value => .inl (intOf value)
  topicGlobs := query.topicGlobs
  maxEventsPerTopic := query.maxEventsPerTopic.map fun value => .inl (intOf value)
  evidenceStrategy := query.evidenceStrategy.map EvidenceStrategy.name

theorem normalizeTopicGlobs_nonempty {globs : Option (List String)} {normalized : List String}
    (valid : normalizeTopicGlobs globs = .ok (some normalized)) : ∀ glob ∈ normalized, glob ≠ "" := by
  unfold normalizeTopicGlobs at valid
  split at valid
  · cases valid
  · cases valid
  · rename_i globs _
    cases each : globs.mapM validateTopicGlob with
    | error error =>
        rw [each] at valid
        cases valid
    | ok results =>
        rw [each] at valid
        cases valid
        intro glob mem
        have pairs := mapM_eq_ok.1 each
        rcases List.forall₂_iff_get.1 pairs with ⟨length, pairs⟩
        rcases List.getElem_of_mem (Js.mem_distinct.1 mem) with ⟨i, bound, rfl⟩
        obtain ⟨same, accepted⟩ := validateTopicGlob_eq_ok.1 (pairs i (by omega) bound)
        have nonempty := accepted.nonempty
        rw [same] at nonempty
        exact nonempty

theorem array_nonempty {texts : List String} (nonempty : ∀ text ∈ texts, text ≠ "") :
    Schema.array Schema.nonempty (Json.ofStrings texts) = some texts := by
  have accepted := @Schema.array_map _ _ Schema.nonempty texts Json.string id fun text mem =>
    Schema.nonempty_string (nonempty text mem)
  rwa [List.map_id] at accepted

theorem wireQuerySchema_toJson {query : SummaryRequestQuery} (decodable : DecodableQuery query) :
    wireQuerySchema query.toJson = some (wireQuery query) := by
  have names : (query.fields.map (·.1)).Nodup := by
    change (["lookback_days", "topic_globs", "max_events_per_topic",
      "evidence_strategy"] : List String).Nodup
    decide
  have lookbackDays : Schema.optional "lookback_days" (Schema.union Schema.int Schema.nonempty)
      query.toJson = some (query.lookbackDays.map fun value => .inl (intOf value)) :=
    Schema.optional_of_fields names .ofDouble rfl fun value present =>
      let ⟨number, _, same⟩ := decodable.lookbackDays value present
      union_ofDouble Schema.nonempty ⟨number, same⟩
  have topicGlobs : Schema.optional "topic_globs" (Schema.array Schema.nonempty) query.toJson =
      some (query.topicGlobs.map id) :=
    Schema.optional_of_fields names .ofStrings rfl fun globs present =>
      array_nonempty (normalizeTopicGlobs_nonempty (present ▸ decodable.topicGlobs))
  have maxEventsPerTopic : Schema.optional "max_events_per_topic"
      (Schema.union Schema.int Schema.nonempty) query.toJson =
      some (query.maxEventsPerTopic.map fun value => .inl (intOf value)) :=
    Schema.optional_of_fields names .ofDouble rfl fun value present =>
      let ⟨number, _, same⟩ := decodable.maxEventsPerTopic value present
      union_ofDouble Schema.nonempty ⟨number, same⟩
  have evidenceStrategy : Schema.optional "evidence_strategy" Schema.string query.toJson =
      some (query.evidenceStrategy.map EvidenceStrategy.name) :=
    Schema.optional_of_fields names (fun strategy => .string strategy.name) rfl fun _ _ => rfl
  rw [Option.map_id] at topicGlobs
  unfold wireQuerySchema
  rw [lookbackDays, topicGlobs, maxEventsPerTopic, evidenceStrategy]
  rfl

def wireReport (report : ReportPayload) : WireReport where
  timezone := report.timezone
  startAt := report.startAt
  endAt := report.endAt

theorem wireReportSchema_toJson {report : ReportPayload} (timezone : report.timezone ≠ some "") :
    wireReportSchema report.toJson = some (wireReport report) := by
  have names : (report.fields.map (·.1)).Nodup := by
    change (["timezone", "start_at", "end_at"] : List String).Nodup
    decide
  have zone : Schema.optional "timezone" Schema.nonempty report.toJson =
      some (report.timezone.map id) :=
    Schema.optional_of_fields names .string rfl fun text present =>
      Schema.nonempty_string fun empty => timezone (empty ▸ present)
  have startAt : Schema.optional "start_at" Schema.string report.toJson =
      some (report.startAt.map id) :=
    Schema.optional_of_fields names .string rfl fun _ _ => rfl
  have endAt : Schema.optional "end_at" Schema.string report.toJson = some (report.endAt.map id) :=
    Schema.optional_of_fields names .string rfl fun _ _ => rfl
  rw [Option.map_id] at zone startAt endAt
  unfold wireReportSchema
  rw [zone, startAt, endAt]
  rfl

/-- A payload that the schema accepts. -/
structure AcceptedPayload (payload : BriefingJobPayload) : Prop where
  requestId : payload.requestId ≠ ""
  requestedAt : payload.requestedAt ≠ ""
  windows : ∀ window ∈ payload.windows, IsTrendWindow window
  topics : ∀ topic ∈ payload.topics, AcceptedTopic topic
  budget : ∀ budget, payload.budget = some budget → DecodableBudget budget
  query : ∀ query, payload.query = some query → DecodableQuery query
  report : ∀ report, payload.report = some report → report.timezone ≠ some ""

def wirePayload (payload : BriefingJobPayload) : SummaryRequestWire where
  requestId := payload.requestId
  requestedAt := payload.requestedAt
  type := .inr payload.type.name
  windows := some (payload.windows.map fun window => .inl (intOf window))
  topics := some (payload.topics.map wireTopic)
  budget := payload.budget.map wireBudget
  query := payload.query.map wireQuery
  report := payload.report.map wireReport
  llmProvider := payload.llmProvider.map LlmProvider.name

theorem required_of_fields {payload : BriefingJobPayload} {α : Type} {key : String}
    {schema : Schema α} {found : Json} {parsed : α}
    (names : (payload.fields.map (·.1)).Nodup)
    (listed : (payload.fields.lookup key).bind id = some found)
    (accepted : schema found = some parsed) :
    Schema.required key schema payload.toJson = some parsed :=
  Schema.required_of_property ((Js.property_ofFields names key).trans listed) accepted

theorem summaryRequestWireSchema_toJson {payload : BriefingJobPayload}
    (accepted : AcceptedPayload payload) :
    summaryRequestWireSchema payload.toJson = some (wirePayload payload) := by
  have names : (payload.fields.map (·.1)).Nodup := by
    change (["request_id", "requested_at", "type", "windows", "topics", "budget", "query", "report",
      "llm_provider"] : List String).Nodup
    decide
  have requestId : Schema.required "request_id" Schema.nonempty payload.toJson =
      some payload.requestId :=
    required_of_fields names rfl (Schema.nonempty_string accepted.requestId)
  have requestedAt : Schema.required "requested_at" Schema.nonempty payload.toJson =
      some payload.requestedAt :=
    required_of_fields names rfl (Schema.nonempty_string accepted.requestedAt)
  have named : Schema.union Schema.int Schema.nonempty (.string payload.type.name) =
      some (.inr payload.type.name) := by
    cases payload.type <;> rfl
  have type : Schema.required "type" (Schema.union Schema.int Schema.nonempty) payload.toJson =
      some (.inr payload.type.name) :=
    required_of_fields names rfl named
  have windows : Schema.optional "windows" (Schema.array (Schema.union Schema.int Schema.string))
      payload.toJson = some (some (payload.windows.map fun window => .inl (intOf window))) := by
    apply Schema.optional_of_property ((Js.property_ofFields names "windows").trans rfl)
    apply Schema.array_map
    intro window mem
    rcases accepted.windows window mem with ⟨number, -, same⟩
    exact union_ofDouble Schema.string ⟨number, same⟩
  have topics : Schema.optional "topics" (Schema.array wireTopicSchema) payload.toJson =
      some (some (payload.topics.map wireTopic)) := by
    apply Schema.optional_of_property ((Js.property_ofFields names "topics").trans rfl)
    exact Schema.array_map fun topic mem => wireTopicSchema_toJson (accepted.topics topic mem)
  have budget : Schema.optional "budget" wireBudgetSchema payload.toJson =
      some (payload.budget.map wireBudget) :=
    Schema.optional_of_fields names SummaryRequestBudget.toJson rfl fun budget present =>
      wireBudgetSchema_toJson (accepted.budget budget present)
  have query : Schema.optional "query" wireQuerySchema payload.toJson =
      some (payload.query.map wireQuery) :=
    Schema.optional_of_fields names SummaryRequestQuery.toJson rfl fun query present =>
      wireQuerySchema_toJson (accepted.query query present)
  have report : Schema.optional "report" wireReportSchema payload.toJson =
      some (payload.report.map wireReport) :=
    Schema.optional_of_fields names ReportPayload.toJson rfl fun report present =>
      wireReportSchema_toJson (accepted.report report present)
  have llmProvider : Schema.optional "llm_provider" Schema.string payload.toJson =
      some (payload.llmProvider.map LlmProvider.name) :=
    Schema.optional_of_fields names (fun provider => .string provider.name) rfl fun _ _ => rfl
  unfold summaryRequestWireSchema
  rw [requestId, requestedAt, type, windows, topics, budget, query, report, llmProvider]
  rfl

end RisingIntelligence.Brief
