import RisingIntelligence.Brief.RequestWire

/-!
# Summary requests across the topic

What `deserializeSummaryRequest` makes of a payload of `createBriefingJobPayload`.

Both sides normalise the evidence.  The second time changes a URL that has no stable canonical form, a
text that escaping made too long, and one in which a marker or a gap came together
(`deserialize_createBriefingJobPayload`).  A query without a strategy comes back with the default.
-/

namespace RisingIntelligence.Brief

open Js (Json MessageApi Schema UrlApi)

/-! ## Values -/

section Values

variable {api : MessageApi}

theorem parseTrendWindow_of_window {value : Js.Double} (window : IsTrendWindow value) :
    parseTrendWindow api (.inl (intOf value)) = .ok (.own (intOf value)) := by
  rcases window with ⟨window, supported, rfl⟩
  rw [intOf_ofInt]
  exact if_pos supported

theorem parseOptionalPositiveInteger_map {value : Option Js.Double} (fieldName : String)
    (positive : ∀ number, value = some number → IsPositiveInteger number) :
    parseOptionalPositiveInteger (value.map fun number => .inl (intOf number)) fieldName =
      .ok (value.map intOf) := by
  cases value with
  | none => rfl
  | some value =>
      rcases positive value rfl with ⟨number, above, rfl⟩
      have kept : (some number).filter (fun number => decide (0 < number)) = some number :=
        Option.filter_some_pos (decide_eq_true above)
      unfold parseOptionalPositiveInteger
      rw [Option.map_some, intOf_ofInt]
      dsimp only
      rw [kept, Option.map_some, intOf_ofInt]

theorem toLowerCase_trim {text : String} (lower : api.KeepsLowerCase)
    (plain : ∀ c ∈ text.toList, c.toNat < 128 ∧ c.isUpper = false) (trimmed : Js.trim text = text) :
    api.toLowerCase (Js.trim text) = text := by
  rw [trimmed]
  exact lower text plain

theorem parseSummaryRequestType_name (lower : api.KeepsLowerCase) (type : SummaryRequestType) :
    parseSummaryRequestType api (.inr type.name) = .ok (.own type) := by
  have same : api.toLowerCase (Js.trim type.name) = type.name := by
    cases type <;>
      exact toLowerCase_trim lower (Js.forall_mem_of_all (by decide)) (by decide)
  unfold parseSummaryRequestType
  dsimp only
  rw [same]
  cases type <;> rfl

theorem parseEvidenceStrategy_name (lower : api.KeepsLowerCase)
    (strategy : Option EvidenceStrategy) :
    parseEvidenceStrategy api (strategy.map EvidenceStrategy.name) =
      .ok (.own (strategy.getD .diversity)) := by
  cases strategy with
  | none => rfl
  | some strategy =>
      have same : api.toLowerCase (Js.trim strategy.name) = strategy.name := by
        cases strategy <;>
          exact toLowerCase_trim lower (Js.forall_mem_of_all (by decide)) (by decide)
      have named : (some strategy.name).filter (· ≠ "") = some strategy.name := by
        cases strategy <;> rfl
      unfold parseEvidenceStrategy
      rw [Option.map_some, named]
      dsimp only
      rw [same]
      cases strategy <;> rfl

theorem parseLlmProvider_name (lower : api.KeepsLowerCase) (provider : Option LlmProvider) :
    parseLlmProvider api (provider.map LlmProvider.name) = .ok (provider.map .own) := by
  cases provider with
  | none => rfl
  | some provider =>
      have same : api.toLowerCase (Js.trim provider.name) = provider.name := by
        cases provider <;>
          exact toLowerCase_trim lower (Js.forall_mem_of_all (by decide)) (by decide)
      have named : (some provider.name).filter (· ≠ "") = some provider.name := by
        cases provider <;> rfl
      unfold parseLlmProvider
      rw [Option.map_some, named]
      dsimp only
      rw [same]
      cases provider <;> rfl

/-- A date that was written, or a missing one. -/
theorem parseOptionalDate_iso {time : Option Int} (field : String)
    (writes : ∀ t, time = some t → api.Writes t) :
    parseOptionalDate api (some (isoStringOrEmpty api time)) field = .ok time := by
  cases time with
  | none => rfl
  | some time =>
      rcases writes time rfl with ⟨read, nonblank⟩
      unfold parseOptionalDate isoStringOrEmpty
      dsimp only
      rw [if_neg nonblank, read]

end Values

/-! ## Evidence -/

/-- A URL that is its own canonical form, or none. -/
def StableUrl (urls : UrlApi) (url : String) : Prop :=
  url = "" ∨ canonicalizeBriefEvidenceUrl urls url = some url

/-- A title that fits although it is escaped, and in which no marker came together. -/
def StableTitle (title : String) : Prop :=
  Js.length title ≤ titleMaxLength ∧ hasMarker title.toList = false

/-- The same for an excerpt, in which also no gap came together. -/
def StableExcerpt (excerpt : String) : Prop :=
  squeezeList [] excerpt.toList = excerpt.toList ∧
    Js.length excerpt ≤ briefEvidenceExcerptMaxLength ∧ hasMarker excerpt.toList = false

/-- The record has what the payload has, with an empty text for a missing one. -/
structure RecoveredEvidence (api : MessageApi) (urls : UrlApi) (written : EvidencePayload)
    (record : BriefEvidenceRecord) : Prop where
  eventId : record.eventId = written.eventId
  source : record.source = written.source
  publishedAt : isoStringOrEmpty api record.publishedAt = written.publishedAt
  fetchedAt : isoStringOrEmpty api record.fetchedAt = written.fetchedAt
  url : StableUrl urls written.url → record.url = presentText (some written.url)
  title : StableTitle written.title → record.title = presentText (some written.title)
  textExcerpt : StableExcerpt written.textExcerpt →
    record.textExcerpt = presentText (some written.textExcerpt)

theorem presentText_of_ne {text : String} (nonempty : text ≠ "") :
    presentText (some text) = some text :=
  Option.filter_some_pos (decide_eq_true nonempty)

section Evidence

variable {api : MessageApi} {urls : UrlApi} {input : BriefEvidenceRecordInput}
  {record : BriefEvidenceRecord} {excerptMaxLength : Nat}

theorem recovered_url {url : String} (stable : StableUrl urls url) :
    ((some url).bind fun url => if url = "" then none else canonicalizeBriefEvidenceUrl urls url) =
      presentText (some url) := by
  rw [Option.bind_some]
  by_cases empty : url = ""
  · rw [if_pos empty, empty]
    rfl
  · rw [if_neg empty, presentText_of_ne empty]
    exact stable.resolve_left empty

theorem recovered_title {value : Option String}
    (stable : StableTitle ((normalizeBriefEvidenceTitle value).getD "")) :
    normalizeBriefEvidenceTitle (some ((normalizeBriefEvidenceTitle value).getD "")) =
      presentText (some ((normalizeBriefEvidenceTitle value).getD "")) := by
  cases normalized : normalizeBriefEvidenceTitle value with
  | none => decide
  | some title =>
      rw [normalized] at stable
      rw [Option.getD_some] at stable ⊢
      rw [(normalizeBriefEvidenceTitle_eq_self_iff normalized).2 stable,
        presentText_of_ne (sanitized_title normalized).nonempty]

theorem recovered_excerpt {value : Option String}
    (stable : StableExcerpt ((normalizeBriefEvidenceExcerpt value excerptMaxLength).getD "")) :
    normalizeBriefEvidenceExcerpt
        (some ((normalizeBriefEvidenceExcerpt value excerptMaxLength).getD ""))
        briefEvidenceExcerptMaxLength =
      presentText (some ((normalizeBriefEvidenceExcerpt value excerptMaxLength).getD "")) := by
  cases normalized : normalizeBriefEvidenceExcerpt value excerptMaxLength with
  | none => decide
  | some excerpt =>
      rw [normalized] at stable
      rw [Option.getD_some] at stable ⊢
      rw [(normalizeBriefEvidenceExcerpt_eq_self_iff normalized).2 stable,
        presentText_of_ne (sanitized_excerpt normalized).nonempty]

/-- The record that the consumer builds of what was written. -/
def secondRecord (urls : UrlApi) (written : EvidencePayload) (source : CanonicalSource)
    (publishedAt fetchedAt : Option Int) : BriefEvidenceRecord :=
  evidenceRecord urls (evidenceInput (wireEvidence written) source publishedAt fetchedAt)
    briefEvidenceExcerptMaxLength (.own source) publishedAt fetchedAt

theorem parseEvidence_written (lower : api.KeepsLowerCase)
    (built : buildBriefEvidenceRecord api urls input excerptMaxLength = .ok record)
    (own : ∃ source, parseCanonicalSource api.toLowerCase input.source = .ok (.own source))
    (published : ∀ time, dateTime api input.publishedAt = some time → api.Writes time)
    (fetched : ∀ time, dateTime api input.fetchedAt = some time → api.Writes time) :
    ∃ again, parseEvidence api urls (wireEvidence (evidencePayload api record)) = .ok again ∧
      RecoveredEvidence api urls (evidencePayload api record) again := by
  rcases buildBriefEvidenceRecord_eq_ok.1 built with
    ⟨source, publishedAt, fetchedAt, parsed, publishedAt_eq, fetchedAt_eq, rfl⟩
  rcases own with ⟨source', parsed'⟩
  obtain rfl : source = .own source' := Except.ok.inj (parsed.symm.trans parsed')
  rw [dateTime_of_parse publishedAt_eq] at published
  rw [dateTime_of_parse fetchedAt_eq] at fetched
  have named := parseCanonicalSource_name lower source'
  refine ⟨secondRecord urls (evidencePayload api
    (evidenceRecord urls input excerptMaxLength (.own source') publishedAt fetchedAt)) source'
      publishedAt fetchedAt, ?_, ?_⟩
  · have source_eq : parseEvidenceSource api (some (.inr source'.name)) = .ok (.own source') := by
      unfold parseEvidenceSource
      exact mapError_eq_ok.2 named
    have again : ∀ time : Option Int, ∀ field, parseOptionalDateValue api
        (time.map fun t => .date (some t)) field = .ok time := by
      intro time field
      cases time <;> rfl
    unfold parseEvidence
    apply bind_eq_ok.2
    refine ⟨.own source', source_eq, bind_eq_ok.2 ⟨publishedAt,
      parseOptionalDate_iso "published_at" published, bind_eq_ok.2 ⟨fetchedAt,
      parseOptionalDate_iso "fetched_at" fetched, mapError_eq_ok.2 ?_⟩⟩⟩
    exact buildBriefEvidenceRecord_eq_ok.2
      ⟨.own source', publishedAt, fetchedAt, named, again _ _, again _ _, rfl⟩
  · constructor
    case eventId =>
      simp only [secondRecord, evidenceRecord, evidenceInput, wireEvidence, evidencePayload,
        Option.map_some, Option.getD_some, Js.trim_trim]
    all_goals simp only [secondRecord, evidenceRecord, evidenceInput, wireEvidence, evidencePayload]
    case url => exact recovered_url
    case title => exact recovered_title
    case textExcerpt => exact recovered_excerpt

end Evidence

/-! ## Topics -/

def windowInput : Js.Keyed Int → Js.Double
  | .own window => .ofInt window
  | .inherited _ => .nan

/-- A parsed metric as the producer has it. -/
def metricInput (metric : ParsedSummaryMetric) : SummaryRequestMetric where
  topic := metric.topic
  window := windowInput metric.window
  score := .number metric.score
  volume := .number metric.volume
  acceleration := .number metric.acceleration

/-- A topic that the decoder takes as it is. -/
structure DecodableTopic (api : MessageApi) (topic : SummaryRequestTopicInput) : Prop where
  trimmed : Js.trim topic.topic = topic.topic
  named : topic.topic ≠ ""
  metrics : ∀ metric ∈ topic.metrics, DecodableMetric metric
  eventIds : ∀ evidence ∈ topic.evidence, Js.trim evidence.eventId ≠ ""
  sources : ∀ evidence ∈ topic.evidence,
    ∃ source, parseCanonicalSource api.toLowerCase evidence.source = .ok (.own source)

def topicDates (topic : SummaryRequestTopicInput) : List (Option DateInput) :=
  topic.evidence.flatMap fun evidence => [evidence.publishedAt, evidence.fetchedAt]

structure RecoveredTopic (api : MessageApi) (urls : UrlApi) (written : TopicPayload)
    (topic : ParsedSummaryTopic) : Prop where
  name : topic.topic = written.topic
  metrics : topic.metrics.map metricInput = written.metrics
  evidence : List.Forall₂ (RecoveredEvidence api urls) written.evidence topic.evidence

section Topics

variable {api : MessageApi} {urls : UrlApi} {excerptMaxLength : Nat}
  {topic : SummaryRequestTopicInput} {written : TopicPayload}

/-- A metric as the consumer has it. -/
def recoveredMetric (metric : SummaryRequestMetric) : ParsedSummaryMetric where
  topic := metric.topic
  window := .own (intOf metric.window)
  score := numberOf metric.score
  volume := numberOf metric.volume
  acceleration := numberOf metric.acceleration

theorem parseMetric_written {metric : SummaryRequestMetric} (parsedTopic : String)
    (decodable : DecodableMetric metric) :
    parseMetric api parsedTopic (wireMetric metric) = .ok (recoveredMetric metric) := by
  have named : (some metric.topic).filter (· ≠ "") = some metric.topic :=
    presentText_of_ne decodable.topic
  have topic : metricTopic (some metric.topic) parsedTopic = metric.topic := by
    unfold metricTopic
    rw [Option.map_some, decodable.trimmed, named]
    rfl
  apply bind_eq_ok.2
  refine ⟨.own (intOf metric.window), parseTrendWindow_of_window decodable.window, ?_⟩
  change Except.ok _ = Except.ok _
  unfold wireMetric recoveredMetric
  rw [topic]
  rfl

theorem metricInput_recoveredMetric {metric : SummaryRequestMetric}
    (decodable : DecodableMetric metric) : metricInput (recoveredMetric metric) = metric := by
  have window : Js.Double.ofInt (intOf metric.window) = metric.window := by
    rcases decodable.window with ⟨window, -, same⟩
    rw [same, intOf_ofInt]
  unfold metricInput recoveredMetric windowInput
  dsimp only
  rw [window, number_numberOf decodable.score, number_numberOf decodable.volume,
    number_numberOf decodable.acceleration]

theorem acceptedTopic_of_created (decodable : DecodableTopic api topic)
    (created : CreatedTopic api urls excerptMaxLength topic written) : AcceptedTopic written := by
  constructor
  case named => exact created.name ▸ decodable.named
  case metrics => exact created.metrics ▸ decodable.metrics
  case evidence =>
    intro evidence mem
    rcases List.forall₂_iff_get.1 created.evidence with ⟨length, each⟩
    rcases List.getElem_of_mem mem with ⟨i, bound, rfl⟩
    have bound' : i < topic.evidence.length := by omega
    rcases each i bound' bound with ⟨record, built, same⟩
    rcases buildBriefEvidenceRecord_eq_ok.1 built with ⟨source, _, _, parsed, -, -, rfl⟩
    rcases decodable.sources _ (List.getElem_mem bound') with ⟨source', parsed'⟩
    have own : source = .own source' := Except.ok.inj (parsed.symm.trans parsed')
    change written.evidence[i] = _ at same
    rw [same]
    constructor
    case eventId => exact decodable.eventIds _ (List.getElem_mem bound')
    case source => exact ⟨source', own⟩

theorem parseTopic_written (lower : api.KeepsLowerCase) (decodable : DecodableTopic api topic)
    (writes : ∀ value ∈ topicDates topic, ∀ time, dateTime api value = some time → api.Writes time)
    (created : CreatedTopic api urls excerptMaxLength topic written) :
    ∃ parsed, parseTopic api urls (wireTopic written) = .ok parsed ∧
      RecoveredTopic api urls written parsed := by
  have metrics : (written.metrics.map wireMetric).mapM (parseMetric api (Js.trim written.topic)) =
      .ok (written.metrics.map recoveredMetric) := by
    rw [mapM_eq_ok, List.forall₂_map_left_iff, List.forall₂_map_right_iff, List.forall₂_same]
    intro metric mem
    exact parseMetric_written _ (decodable.metrics metric (created.metrics ▸ mem))
  have each : ∀ evidence ∈ written.evidence, ∃ again,
      parseEvidence api urls (wireEvidence evidence) = .ok again ∧
        RecoveredEvidence api urls evidence again := by
    intro evidence mem
    rcases List.forall₂_iff_get.1 created.evidence with ⟨length, each⟩
    rcases List.getElem_of_mem mem with ⟨i, bound, rfl⟩
    have bound' : i < topic.evidence.length := by omega
    rcases each i bound' bound with ⟨record, built, same⟩
    have there : topic.evidence[i] ∈ topic.evidence := List.getElem_mem bound'
    have dates : ∀ value ∈ [topic.evidence[i].publishedAt, topic.evidence[i].fetchedAt],
        ∀ time, dateTime api value = some time → api.Writes time :=
      fun value mem => writes value (List.mem_flatMap.2 ⟨_, there, mem⟩)
    change written.evidence[i] = _ at same
    rw [same]
    exact parseEvidence_written lower built (decodable.sources _ there)
      (dates _ List.mem_cons_self) (dates _ (List.mem_cons_of_mem _ List.mem_cons_self))
  rcases exists_mapM_eq_ok each with ⟨evidence, parsed, recovered⟩
  refine ⟨⟨Js.trim written.topic, written.metrics.map recoveredMetric, evidence⟩, ?_, ?_⟩
  · exact bind_eq_ok.2 ⟨_, metrics, bind_eq_ok.2 ⟨_, parsed, rfl⟩⟩
  · constructor
    case name =>
      change Js.trim written.topic = written.topic
      rw [created.name, decodable.trimmed]
    case metrics =>
      change (written.metrics.map recoveredMetric).map metricInput = written.metrics
      rw [List.map_map]
      conv_rhs => rw [← List.map_id written.metrics]
      apply List.map_congr_left
      intro metric mem
      exact metricInput_recoveredMetric (decodable.metrics metric (created.metrics ▸ mem))
    case evidence => exact recovered

end Topics

/-! ## Report and query -/

/-- A report with a known time zone and its bounds in order. -/
structure DecodableReport (api : MessageApi) (isTimeZone : String → Bool)
    (report : SummaryRequestReportInput) : Prop where
  timezone : ∀ timezone, normalizeOptionalString report.timezone = some timezone →
    isTimeZone timezone = true
  bounds : ∀ startAt endAt, dateTime api report.startAt = some startAt →
    dateTime api report.endAt = some endAt → startAt ≤ endAt

/-- The hints of a report; one without any is none. -/
def reportInputHints (api : MessageApi) (report : SummaryRequestReportInput) :
    Option ParsedSummaryReport :=
  reportHints (normalizeOptionalString report.timezone) (dateTime api report.startAt)
    (dateTime api report.endAt)

/-- A parsed query as the producer has it. -/
def queryInput (query : ParsedSummaryQuery) : SummaryRequestQuery where
  lookbackDays := query.lookbackDays.map Js.Double.ofInt
  topicGlobs := query.topicGlobs
  maxEventsPerTopic := query.maxEventsPerTopic.map Js.Double.ofInt
  evidenceStrategy := query.evidenceStrategy.bind fun
    | .own strategy => some strategy
    | .inherited _ => none

/-- The query with the strategy that a missing one stands for. -/
def withStrategy (query : SummaryRequestQuery) : SummaryRequestQuery :=
  { query with evidenceStrategy := some (query.evidenceStrategy.getD .diversity) }

/-- A parsed budget as the producer has it. -/
def summaryBudgetInput (budget : BriefBudget) : SummaryRequestBudget where
  dailyBudgetUsd := budget.dailyBudgetUsd.map Js.Double.number
  maxTopics := budget.maxTopics.map Js.Double.ofInt
  maxEvidencePerTopic := budget.maxEvidencePerTopic.map Js.Double.ofInt
  maxOutputTokens := budget.maxOutputTokens.map Js.Double.ofInt

section Parts

variable {api : MessageApi} {isTimeZone : String → Bool}

theorem parseOptionalTimezone_present {timezone : Option String}
    (known : ∀ zone, normalizeOptionalString timezone = some zone → isTimeZone zone = true) :
    parseOptionalTimezone isTimeZone (presentText timezone) =
      .ok (normalizeOptionalString timezone) := by
  cases timezone with
  | none => rfl
  | some text =>
      by_cases empty : text = ""
      · rw [empty]
        rfl
      · rw [presentText_of_ne empty]
        unfold parseOptionalTimezone
        dsimp only
        by_cases blank : Js.trim text = ""
        · rw [if_pos blank]
          unfold normalizeOptionalString
          rw [Option.map_some, blank]
          rfl
        · have normalized : normalizeOptionalString (some text) = some (Js.trim text) :=
            presentText_of_ne blank
          rw [if_neg blank, if_pos (known _ normalized), normalized]

theorem parseOptionalDate_present {time : Option Int} (field : String)
    (writes : ∀ t, time = some t → api.Writes t) :
    parseOptionalDate api (presentText (time.map api.toISOString)) field = .ok time := by
  cases time with
  | none => rfl
  | some time =>
      rcases writes time rfl with ⟨read, nonblank⟩
      have nonempty : api.toISOString time ≠ "" := by
        intro empty
        rw [empty] at nonblank
        exact nonblank Js.trim_empty
      rw [Option.map_some, presentText_of_ne nonempty]
      unfold parseOptionalDate
      dsimp only
      rw [if_neg nonblank, read]

/-- A hint of a report that may have been left out. -/
theorem presentReport_bind (part : WireReport → Option String)
    (empty : part ⟨none, none, none⟩ = none) (report : ReportPayload) :
    ((presentReport report).map wireReport).bind part =
      part ⟨presentText report.timezone, presentText report.startAt, presentText report.endAt⟩ := by
  unfold presentReport
  dsimp only
  split
  · rename_i same
    injection same with timezone startAt endAt
    rw [timezone, startAt, endAt, empty]
    rfl
  · rfl

theorem parseReport_written {report : SummaryRequestReportInput}
    (decodable : DecodableReport api isTimeZone report)
    (writes : ∀ value ∈ [report.startAt, report.endAt], ∀ time, dateTime api value = some time →
      api.Writes time) :
    parseReport api isTimeZone ((presentReport (reportPayload api report)).map wireReport) =
      .ok (reportInputHints api report) := by
  have bounds : checkReportBounds (dateTime api report.startAt) (dateTime api report.endAt) =
      .ok () := by
    unfold checkReportBounds
    split
    · rename_i startAt endAt start stop
      exact if_neg (Int.not_lt.2 (decodable.bounds startAt endAt start stop))
    · rfl
  unfold parseReport
  rw [presentReport_bind (·.timezone) rfl, presentReport_bind (·.startAt) rfl,
    presentReport_bind (·.endAt) rfl]
  apply bind_eq_ok.2
  refine ⟨_, parseOptionalTimezone_present decodable.timezone, bind_eq_ok.2 ⟨_,
    parseOptionalDate_present _ (writes _ List.mem_cons_self), bind_eq_ok.2 ⟨_,
    parseOptionalDate_present _ (writes _ (List.mem_cons_of_mem _ List.mem_cons_self)),
    bind_eq_ok.2 ⟨(), bounds, rfl⟩⟩⟩⟩

theorem map_ofInt_intOf {value : Option Js.Double}
    (whole : ∀ number, value = some number → IsPositiveInteger number) :
    (value.map intOf).map Js.Double.ofInt = value := by
  cases value with
  | none => rfl
  | some value =>
      rcases whole value rfl with ⟨number, -, rfl⟩
      rw [Option.map_some, Option.map_some, intOf_ofInt]

theorem budgetInput_wireBudget {budget : SummaryRequestBudget}
    (decodable : DecodableBudget budget) : summaryBudgetInput (wireBudget budget) = budget := by
  have dailyBudgetUsd : (budget.dailyBudgetUsd.map numberOf).map Js.Double.number =
      budget.dailyBudgetUsd := by
    cases present : budget.dailyBudgetUsd with
    | none => rfl
    | some value =>
        rcases decodable.dailyBudgetUsd value present with ⟨number, -, rfl⟩
        rfl
  unfold summaryBudgetInput wireBudget
  dsimp only
  rw [dailyBudgetUsd, map_ofInt_intOf decodable.maxTopics,
    map_ofInt_intOf decodable.maxEvidencePerTopic, map_ofInt_intOf decodable.maxOutputTokens]

theorem parseQuery_written {query : SummaryRequestQuery} (lower : api.KeepsLowerCase)
    (decodable : DecodableQuery query) :
    ∃ parsed, parseQuery api (wireQuery query) = .ok parsed ∧
      queryInput parsed = withStrategy query := by
  refine ⟨⟨query.lookbackDays.map intOf, query.topicGlobs, query.maxEventsPerTopic.map intOf,
    some (.own (query.evidenceStrategy.getD .diversity))⟩, ?_, ?_⟩
  · exact bind_eq_ok.2 ⟨_, parseOptionalPositiveInteger_map _ decodable.lookbackDays,
      bind_eq_ok.2 ⟨_, decodable.topicGlobs, bind_eq_ok.2 ⟨_,
      parseOptionalPositiveInteger_map _ decodable.maxEventsPerTopic, bind_eq_ok.2 ⟨_,
      parseEvidenceStrategy_name lower _, rfl⟩⟩⟩⟩
  · unfold queryInput withStrategy
    dsimp only
    rw [map_ofInt_intOf decodable.lookbackDays, map_ofInt_intOf decodable.maxEventsPerTopic]
    rfl

end Parts

/-! ## Requests -/

/-- An input whose own fields satisfy the checks of the decoder. -/
structure DecodableInput (api : MessageApi) (isTimeZone : String → Bool) (input : BriefingJobInput) :
    Prop where
  requestId : input.requestId ≠ ""
  windows : ∀ window ∈ input.windows, IsTrendWindow window
  topics : ∀ topic ∈ input.topics, DecodableTopic api topic
  budget : ∀ budget, input.budget = some budget → DecodableBudget budget
  query : ∀ query, input.query = some query → DecodableQuery query
  report : ∀ report, input.report = some report → DecodableReport api isTimeZone report

def inputDates (input : BriefingJobInput) : List (Option DateInput) :=
  some input.requestedAt ::
    ((input.report.map fun report => [report.startAt, report.endAt]).getD [] ++
      input.topics.flatMap topicDates)

/-- The parsed request has what the input and the payload have.  A missing strategy is the default
one, and a report without hints is none. -/
structure RecoveredRequest (api : MessageApi) (urls : UrlApi) (input : BriefingJobInput)
    (payload : BriefingJobPayload) (parsed : ParsedSummaryRequest) : Prop where
  requestId : parsed.requestId = input.requestId
  requestedAt : dateTime api (some input.requestedAt) = some parsed.requestedAt
  type : parsed.type = .own input.type
  windows : parsed.windows.map windowInput = input.windows
  budget : parsed.budget.map summaryBudgetInput = input.budget
  query : parsed.query.map queryInput = input.query.map withStrategy
  report : parsed.report = input.report.bind (reportInputHints api)
  llmProvider : parsed.llmProvider = input.llmProvider.map .own
  topics : parsed.topics.map (fun topic => (topic.topic, topic.metrics.map metricInput)) =
    input.topics.map fun topic => (topic.topic, topic.metrics)
  evidence : List.Forall₂ (fun written topic =>
    List.Forall₂ (RecoveredEvidence api urls) written.evidence topic.evidence)
    payload.topics parsed.topics

/-- The bytes of a payload. -/
def serializePayload (api : MessageApi) (payload : BriefingJobPayload) : ByteArray :=
  (api.stringify payload.toJson).toUTF8

section RoundTrip

variable {api : MessageApi} {urls : UrlApi} {isTimeZone : String → Bool} {input : BriefingJobInput}
  {payload : BriefingJobPayload}

theorem acceptedPayload_of_created (decodable : DecodableInput api isTimeZone input)
    (writes : ∀ value ∈ inputDates input, ∀ time, dateTime api value = some time → api.Writes time)
    (created : Created api urls input payload) : AcceptedPayload payload := by
  constructor
  case requestId => exact created.requestId ▸ decodable.requestId
  case requestedAt =>
    rcases created.requestedAt with ⟨time, given, same⟩
    intro empty
    apply (writes _ List.mem_cons_self time given).2
    rw [← same, empty]
    exact Js.trim_empty
  case windows => exact created.windows ▸ decodable.windows
  case topics =>
    intro topic mem
    rcases List.forall₂_iff_get.1 created.topics with ⟨length, each⟩
    rcases List.getElem_of_mem mem with ⟨i, bound, rfl⟩
    have bound' : i < input.topics.length := by omega
    exact acceptedTopic_of_created (decodable.topics _ (List.getElem_mem bound'))
      (each i bound' bound)
  case budget => exact created.budget ▸ decodable.budget
  case query => exact created.query ▸ decodable.query
  case report =>
    intro report present
    rw [created.report] at present
    rcases Option.bind_eq_some_iff.1 present with ⟨hint, -, kept⟩
    unfold presentReport at kept
    dsimp only at kept
    split at kept
    · cases kept
    · cases kept
      intro empty
      have nonempty := (Option.filter_eq_some_iff.1 empty).2
      simp at nonempty

variable (api) in
theorem parsedWindows (decodable : ∀ window ∈ input.windows, IsTrendWindow window) :
    (input.windows.map fun window => (.inl (intOf window) : Int ⊕ String)).mapM
        (parseTrendWindow api) = .ok (input.windows.map fun window => .own (intOf window)) ∧
      (input.windows.map fun window => (Js.Keyed.own (intOf window))).map windowInput =
        input.windows := by
  constructor
  · rw [mapM_eq_ok, List.forall₂_map_left_iff, List.forall₂_map_right_iff, List.forall₂_same]
    exact fun window mem => parseTrendWindow_of_window (decodable window mem)
  · rw [List.map_map]
    conv_rhs => rw [← List.map_id input.windows]
    apply List.map_congr_left
    intro window mem
    rcases decodable window mem with ⟨number, -, rfl⟩
    exact congrArg Js.Double.ofInt (intOf_ofInt number)

theorem parseQueries_written (lower : api.KeepsLowerCase)
    (decodable : ∀ query, input.query = some query → DecodableQuery query) :
    ∃ parsed, (input.query.map wireQuery).mapM (parseQuery api) = .ok parsed ∧
      parsed.map queryInput = input.query.map withStrategy := by
  cases present : input.query with
  | none => exact ⟨none, rfl, rfl⟩
  | some query =>
      rcases parseQuery_written lower (decodable query present) with ⟨parsed, done, recovered⟩
      refine ⟨some parsed, ?_, congrArg some recovered⟩
      exact option_mapM_eq_ok.2 (.inr ⟨_, parsed, rfl, rfl, done⟩)

theorem parseReports_written
    (decodable : ∀ report, input.report = some report → DecodableReport api isTimeZone report)
    (writes : ∀ value ∈ inputDates input, ∀ time, dateTime api value = some time → api.Writes time)
    (created : Created api urls input payload) :
    parseReport api isTimeZone (payload.report.map wireReport) =
      .ok (input.report.bind (reportInputHints api)) := by
  rw [created.report]
  cases present : input.report with
  | none => rfl
  | some report =>
      apply parseReport_written (decodable report present)
      intro value mem
      apply writes
      unfold inputDates
      rw [present]
      exact List.mem_cons_of_mem _ (List.mem_append_left _ mem)

theorem parseTopics_written (lower : api.KeepsLowerCase)
    (decodable : ∀ topic ∈ input.topics, DecodableTopic api topic)
    (writes : ∀ value ∈ inputDates input, ∀ time, dateTime api value = some time → api.Writes time)
    (created : Created api urls input payload) :
    ∃ parsed, (payload.topics.map wireTopic).mapM (parseTopic api urls) = .ok parsed ∧
      List.Forall₂ (RecoveredTopic api urls) payload.topics parsed := by
  apply exists_mapM_eq_ok
  intro topic mem
  rcases List.forall₂_iff_get.1 created.topics with ⟨length, each⟩
  rcases List.getElem_of_mem mem with ⟨i, bound, rfl⟩
  have bound' : i < input.topics.length := by omega
  have there : input.topics[i] ∈ input.topics := List.getElem_mem bound'
  apply parseTopic_written lower (decodable _ there) _ (each i bound' bound)
  intro value mem
  apply writes
  unfold inputDates
  exact List.mem_cons_of_mem _ (List.mem_append_right _ (List.mem_flatMap.2 ⟨_, there, mem⟩))

theorem deserialize_serializePayload (accepted : AcceptedPayload payload)
    (text : api.RoundTrips payload.toJson) :
    deserializeSummaryRequest api urls isTimeZone (serializePayload api payload) =
      parsedSummaryRequest api urls isTimeZone (wirePayload payload) := by
  unfold deserializeSummaryRequest serializePayload
  rw [api.toText_toUTF8, text]
  dsimp only
  rw [summaryRequestWireSchema_toJson accepted]

/-- A payload that was created of an input is decoded to what the input has. -/
theorem recovered_of_created (lower : api.KeepsLowerCase)
    (decodable : DecodableInput api isTimeZone input)
    (writes : ∀ value ∈ inputDates input, ∀ time, dateTime api value = some time → api.Writes time)
    (shape : Created api urls input payload) (text : api.RoundTrips payload.toJson) :
    ∃ parsed, deserializeSummaryRequest api urls isTimeZone (serializePayload api payload) =
        .ok parsed ∧ RecoveredRequest api urls input payload parsed := by
  have accepted := acceptedPayload_of_created decodable writes shape
  have report := parseReports_written decodable.report writes shape
  rcases shape.requestedAt with ⟨requestedAt, given, written⟩
  have requested : parseRequestedAt api payload.requestedAt = .ok requestedAt := by
    unfold parseRequestedAt
    rw [written, (writes _ List.mem_cons_self requestedAt given).1]
  have type := parseSummaryRequestType_name lower payload.type
  rcases parsedWindows api decodable.windows with ⟨windows, same_windows⟩
  rcases parseQueries_written lower decodable.query with ⟨query, queries, same_query⟩
  have provider := parseLlmProvider_name lower payload.llmProvider
  rcases parseTopics_written lower decodable.topics writes shape with ⟨topics, each, recovered⟩
  have windows' : (payload.windows.map fun window => (.inl (intOf window) : Int ⊕ String)).mapM
      (parseTrendWindow api) = .ok (input.windows.map fun window => .own (intOf window)) := by
    rw [shape.windows]
    exact windows
  rw [← shape.query] at queries
  refine ⟨{
    requestId := payload.requestId
    requestedAt := requestedAt
    type := .own payload.type
    windows := input.windows.map fun window => .own (intOf window)
    budget := payload.budget.map wireBudget
    query := query
    report := input.report.bind (reportInputHints api)
    topics := topics
    llmProvider := payload.llmProvider.map .own
    coverageWarnings := none }, ?_, ?_⟩
  · rw [deserialize_serializePayload accepted text]
    exact bind_eq_ok.2 ⟨_, report, bind_eq_ok.2 ⟨_, requested, bind_eq_ok.2 ⟨_, type,
      bind_eq_ok.2 ⟨_, windows', bind_eq_ok.2 ⟨_, queries, bind_eq_ok.2 ⟨_, provider,
      bind_eq_ok.2 ⟨_, each, rfl⟩⟩⟩⟩⟩⟩⟩
  · constructor
    case requestId => exact shape.requestId
    case requestedAt => exact given
    case type => exact congrArg Js.Keyed.own shape.type
    case windows => exact same_windows
    case budget =>
      change (payload.budget.map wireBudget).map summaryBudgetInput = input.budget
      rw [shape.budget]
      cases present : input.budget with
      | none => rfl
      | some budget => exact congrArg some (budgetInput_wireBudget (decodable.budget budget present))
    case query => exact same_query
    case report => rfl
    case llmProvider => exact congrArg (Option.map Js.Keyed.own) shape.llmProvider
    case topics =>
      have written : topics.map (fun topic => (topic.topic, topic.metrics.map metricInput)) =
          payload.topics.map fun topic => (topic.topic, topic.metrics) :=
        map_eq_of_forall₂ recovered fun _ _ recovered => Prod.ext recovered.name recovered.metrics
      have given : payload.topics.map (fun topic => (topic.topic, topic.metrics)) =
          input.topics.map fun topic => (topic.topic, topic.metrics) :=
        map_eq_of_forall₂ shape.topics fun _ _ created => Prod.ext created.name created.metrics
      exact written.trans given
    case evidence => exact recovered.imp fun _ _ recovered => recovered.evidence

/-- Every input that the decoder's checks admit comes back from the topic, with the evidence as it was
written wherever normalising it again has nothing left to do. -/
theorem deserialize_createBriefingJobPayload (lower : api.KeepsLowerCase)
    (decodable : DecodableInput api isTimeZone input)
    (writes : ∀ value ∈ inputDates input, ∀ time, dateTime api value = some time → api.Writes time)
    (created : createBriefingJobPayload api urls input = .ok payload)
    (text : api.RoundTrips payload.toJson) :
    ∃ parsed, deserializeSummaryRequest api urls isTimeZone (serializePayload api payload) =
        .ok parsed ∧ RecoveredRequest api urls input payload parsed :=
  recovered_of_created lower decodable writes (created_of_ok created) text

end RoundTrip

/-! ## Requests that change on the way -/

/-- Evidence whose URL ends with two slashes, in whose title one marker is inside another and in whose
excerpt a marker stands between blanks. -/
def stuffedEvidence : BriefEvidenceRecordInput where
  eventId := "e"
  source := .inr "rss"
  url := some "https://a.example/x//"
  title := some "[IN[INST]ST]"
  textExcerpt := some "a [INST]  b"

def briefingInput (evidence : BriefEvidenceRecordInput) (query : SummaryRequestQuery) :
    BriefingJobInput where
  requestId := "r"
  requestedAt := .date (some 1704067200000)
  type := .daily
  windows := [.ofInt 2]
  topics := [⟨"ai", [⟨"ai", .ofInt 2, .ofInt 3, .ofInt 1, .ofInt 0⟩], [evidence]⟩]
  query := some query
  report := some {}

/-- The payload with the given evidence. -/
def briefingPayload (evidence : EvidencePayload) (query : SummaryRequestQuery) :
    BriefingJobPayload where
  requestId := "r"
  requestedAt := "2024-01-01T00:00:00.000Z"
  type := .daily
  windows := [.ofInt 2]
  topics := [⟨"ai", [⟨"ai", .ofInt 2, .ofInt 3, .ofInt 1, .ofInt 0⟩], [evidence]⟩]
  budget := none
  query := some query
  report := none
  llmProvider := none

def stuffedPayload : EvidencePayload where
  eventId := "e"
  source := .own .rss
  url := "https://a.example/x/"
  title := "[INST]"
  publishedAt := ""
  fetchedAt := ""
  textExcerpt := "a   b"

/-- The runtime of a consumer that gets one payload. -/
def briefingMessages (evidence : EvidencePayload) (query : SummaryRequestQuery) : MessageApi :=
  Js.messagesFor (briefingPayload evidence query).toJson

section Stuffed

variable {query : SummaryRequestQuery} {evidence : BriefEvidenceRecordInput}
  {written : EvidencePayload}

theorem decodable_briefingInput (eventId : Js.trim evidence.eventId ≠ "")
    (source : evidence.source = .inr "rss") (decodable : DecodableQuery query) :
    DecodableInput (briefingMessages written query) (fun _ => false)
      (briefingInput evidence query) := by
  have window : IsTrendWindow (.ofInt 2) := ⟨2, by decide, rfl⟩
  constructor
  case requestId => exact (by decide : "r" ≠ "")
  case windows =>
    intro value mem
    rw [List.mem_singleton.1 mem]
    exact window
  case topics =>
    intro topic mem
    rw [List.mem_singleton.1 mem]
    constructor
    case trimmed => exact (by decide : Js.trim "ai" = "ai")
    case named => exact (by decide : "ai" ≠ "")
    case metrics =>
      intro metric mem
      rw [List.mem_singleton.1 mem]
      exact ⟨(by decide : Js.trim "ai" = "ai"), (by decide : "ai" ≠ ""), window, rfl, rfl, rfl⟩
    case eventIds =>
      intro other mem
      rw [List.mem_singleton.1 mem]
      exact eventId
    case sources =>
      intro other mem
      rw [List.mem_singleton.1 mem, source]
      exact ⟨.rss, parseCanonicalSource_name (Js.messagesFor_keepsLowerCase _) .rss⟩
  case budget =>
    intro budget present
    cases present
  case query =>
    intro other present
    cases present
    exact decodable
  case report =>
    intro report present
    cases present
    exact ⟨nofun, nofun⟩

theorem writes_briefingInput (published : evidence.publishedAt = none)
    (fetched : evidence.fetchedAt = none) : ∀ value ∈ inputDates (briefingInput evidence query),
      ∀ time, dateTime (briefingMessages written query) value = some time →
        (briefingMessages written query).Writes time := by
  intro value mem time given
  have dates : inputDates (briefingInput evidence query) =
      [some (.date (some 1704067200000)), none, none, evidence.publishedAt, evidence.fetchedAt] :=
    rfl
  rw [dates, published, fetched] at mem
  simp only [List.mem_cons, List.not_mem_nil, or_false] at mem
  rcases mem with rfl | rfl | rfl | rfl | rfl
  · cases given
    exact Js.messagesFor_writes _
  · cases given
  · cases given
  · cases given
  · cases given

end Stuffed

theorem create_stuffed : createBriefingJobPayload (briefingMessages stuffedPayload {}) Js.plainUrls
    (briefingInput stuffedEvidence {}) = .ok (briefingPayload stuffedPayload {}) :=
  eq_ok_of_toOption (by decide +kernel)

/-- What the second normalisation leaves of the evidence. -/
def arrivedEvidence (parsed : ParsedSummaryRequest) :
    List (Option String × Option String × Option String) :=
  parsed.topics.flatMap fun topic => topic.evidence.map fun record =>
    (record.url, record.title, record.textExcerpt)

/-- The URL loses another slash, the title the marker it was left with and the excerpt one of its
blanks. -/
theorem stuffed_evidence_changes :
    createBriefingJobPayload (briefingMessages stuffedPayload {}) Js.plainUrls
      (briefingInput stuffedEvidence {}) = .ok (briefingPayload stuffedPayload {}) ∧
    ∃ parsed, deserializeSummaryRequest (briefingMessages stuffedPayload {}) Js.plainUrls
        (fun _ => false) (serializePayload (briefingMessages stuffedPayload {})
          (briefingPayload stuffedPayload {})) = .ok parsed ∧
      arrivedEvidence parsed =
        [(some "https://a.example/x", some "[No title]", some "a  b")] := by
  have decodable : DecodableInput (briefingMessages stuffedPayload {}) (fun _ => false)
      (briefingInput stuffedEvidence {}) :=
    decodable_briefingInput (by decide) rfl ⟨nofun, nofun, rfl⟩
  have accepted := acceptedPayload_of_created decodable (writes_briefingInput rfl rfl)
    (created_of_ok create_stuffed)
  have text : (briefingMessages stuffedPayload {}).RoundTrips
      (briefingPayload stuffedPayload {}).toJson := Js.messagesFor_roundTrips _
  have outcome : (deserializeSummaryRequest (briefingMessages stuffedPayload {}) Js.plainUrls
      (fun _ => false) (serializePayload (briefingMessages stuffedPayload {})
        (briefingPayload stuffedPayload {}))).toOption.map arrivedEvidence =
      some [(some "https://a.example/x", some "[No title]", some "a  b")] := by
    rw [deserialize_serializePayload accepted text]
    decide +kernel
  obtain ⟨parsed, done, found⟩ := Option.map_eq_some_iff.1 outcome
  exact ⟨create_stuffed, parsed, eq_ok_of_toOption done, found⟩

/-- Evidence that normalising leaves as it is. -/
def plainEvidence : BriefEvidenceRecordInput where
  eventId := "e"
  source := .inr "rss"
  url := some "https://a.example/x"
  title := some "News"

def plainPayload : EvidencePayload where
  eventId := "e"
  source := .own .rss
  url := "https://a.example/x"
  title := "News"
  publishedAt := ""
  fetchedAt := ""
  textExcerpt := ""

theorem create_plain : createBriefingJobPayload (briefingMessages plainPayload {}) Js.plainUrls
    (briefingInput plainEvidence {}) = .ok (briefingPayload plainPayload {}) :=
  eq_ok_of_toOption (by decide +kernel)

/-- A query without a strategy gets the default one, and a report without hints is dropped. -/
theorem defaults_change :
    DecodableInput (briefingMessages plainPayload {}) (fun _ => false)
      (briefingInput plainEvidence {}) ∧
    createBriefingJobPayload (briefingMessages plainPayload {}) Js.plainUrls
      (briefingInput plainEvidence {}) = .ok (briefingPayload plainPayload {}) ∧
    (briefingInput plainEvidence {}).query = some {} ∧
    (briefingInput plainEvidence {}).report = some {} ∧
    ∃ parsed, deserializeSummaryRequest (briefingMessages plainPayload {}) Js.plainUrls
        (fun _ => false) (serializePayload (briefingMessages plainPayload {})
          (briefingPayload plainPayload {})) = .ok parsed ∧
      parsed.query.map queryInput = some { evidenceStrategy := some .diversity } ∧
      parsed.report = none := by
  have decodable : DecodableInput (briefingMessages plainPayload {}) (fun _ => false)
      (briefingInput plainEvidence {}) :=
    decodable_briefingInput (by decide) rfl ⟨nofun, nofun, rfl⟩
  obtain ⟨parsed, done, recovered⟩ := recovered_of_created (Js.messagesFor_keepsLowerCase _)
    decodable (writes_briefingInput rfl rfl) (created_of_ok create_plain)
    (Js.messagesFor_roundTrips _)
  exact ⟨decodable, create_plain, rfl, rfl, parsed, done, recovered.query, recovered.report⟩

theorem deserialize_createBriefingJobPayload_plain :
    ∃ parsed, deserializeSummaryRequest (briefingMessages plainPayload {}) Js.plainUrls
        (fun _ => false) (serializePayload (briefingMessages plainPayload {})
          (briefingPayload plainPayload {})) = .ok parsed ∧
      RecoveredRequest (briefingMessages plainPayload {}) Js.plainUrls
        (briefingInput plainEvidence {}) (briefingPayload plainPayload {}) parsed :=
  deserialize_createBriefingJobPayload (Js.messagesFor_keepsLowerCase _)
    (decodable_briefingInput (by decide) rfl ⟨nofun, nofun, rfl⟩) (writes_briefingInput rfl rfl)
    create_plain (Js.messagesFor_roundTrips _)

end RisingIntelligence.Brief
