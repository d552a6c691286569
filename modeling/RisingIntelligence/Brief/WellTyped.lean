import RisingIntelligence.Brief.SummaryRequest
import RisingIntelligence.Shared.Throws

/-!
# Well-typed requests

What the types of `apps/brief/src/types.ts` promise of a decoded request.  The tables of the decoder
are object literals, so a request is well typed exactly if none of its names is one that every object
inherits.
-/

namespace RisingIntelligence.Brief

open Js (Json MessageApi UrlApi)

/-- A supported window. -/
def IsWindow (window : Js.Keyed Int) : Prop := ∃ value ∈ supportedTrendWindows, window = .own value

structure WellTypedQuery (query : ParsedSummaryQuery) : Prop where
  lookbackDays : ∀ days, query.lookbackDays = some days → 0 < days
  maxEventsPerTopic : ∀ events, query.maxEventsPerTopic = some events → 0 < events
  globs : ∀ globs, query.topicGlobs = some globs → ∀ glob ∈ globs, validateTopicGlob glob = .ok glob
  strategy : ∃ strategy, query.evidenceStrategy = some (.own strategy)

/-- A metric window is 0 where the wire has none. -/
def WellTypedMetric (wire : WireMetric) (metric : ParsedSummaryMetric) : Prop :=
  wire.window = none ∧ metric.window = .own 0 ∨ wire.window ≠ none ∧ IsWindow metric.window

structure WellTyped (wire : SummaryRequestWire) (request : ParsedSummaryRequest) : Prop where
  type : ∃ type, request.type = .own type
  windows : ∀ window ∈ request.windows, IsWindow window
  metrics : List.Forall₂ (fun wire topic =>
    List.Forall₂ WellTypedMetric (wire.metrics.getD []) topic.metrics)
      (wire.topics.getD []) request.topics
  query : ∀ query, request.query = some query → WellTypedQuery query
  provider : ∀ provider, request.llmProvider = some provider → ∃ known, provider = .own known
  sources : ∀ topic ∈ request.topics, ∀ record ∈ topic.evidence, ∃ source, record.source = .own source
  bounds : ∀ report startAt endAt, request.report = some report → report.startAt = some startAt →
    report.endAt = some endAt → startAt ≤ endAt

/-- The name, as the tables are asked for it, is none that every object inherits. -/
def OwnName (api : MessageApi) (text : String) : Prop :=
  api.toLowerCase (Js.trim text) ∉ Js.prototypeKeys

def OwnWindow (api : MessageApi) (window : Int ⊕ String) : Prop :=
  ∀ text, window = .inr text → OwnName api text

/-- No name of the request is inherited. -/
structure OwnNames (api : MessageApi) (wire : SummaryRequestWire) : Prop where
  type : ∀ text, wire.type = .inr text → OwnName api text
  windows : ∀ window ∈ wire.windows.getD [], OwnWindow api window
  metrics : ∀ topic ∈ wire.topics.getD [], ∀ metric ∈ topic.metrics.getD [],
    ∀ window, metric.window = some window → OwnWindow api window
  strategy : ∀ query, wire.query = some query → ∀ text, query.evidenceStrategy = some text →
    OwnName api text
  provider : ∀ text, wire.llmProvider = some text → OwnName api text

/-! ## Tables -/

section Tables

variable {api : MessageApi}

theorem type_own_iff {value : Int ⊕ String} {type : Js.Keyed SummaryRequestType}
    (parsed : parseSummaryRequestType api value = .ok type) :
    (∃ known, type = .own known) ↔ ∀ text, value = .inr text → OwnName api text := by
  cases value with
  | inl number =>
      unfold parseSummaryRequestType at parsed
      dsimp only at parsed
      split at parsed
      · cases parsed
        exact iff_of_true ⟨_, rfl⟩ nofun
      · cases parsed
  | inr text =>
      unfold parseSummaryRequestType at parsed
      dsimp only at parsed
      split at parsed
      · rename_i answer
        cases parsed
        have apart : ∀ entry ∈ summaryRequestTypeAliases, entry.1 ∉ Js.prototypeKeys := by decide
        simp only [Sum.inr.injEq, forall_eq']
        exact Js.lookup_own_iff apart answer
      · cases parsed

theorem window_own_iff {value : Int ⊕ String} {window : Js.Keyed Int}
    (parsed : parseTrendWindow api value = .ok window) : IsWindow window ↔ OwnWindow api value := by
  cases value with
  | inl number =>
      unfold parseTrendWindow at parsed
      dsimp only at parsed
      split at parsed
      · rename_i supported
        cases parsed
        exact iff_of_true ⟨number, supported, rfl⟩ nofun
      · cases parsed
  | inr text =>
      unfold OwnWindow
      simp only [Sum.inr.injEq, forall_eq']
      unfold parseTrendWindow at parsed
      dsimp only at parsed
      cases answer : Js.lookup trendWindowAliases (api.toLowerCase (Js.trim text)) with
      | some found =>
          rw [answer] at parsed
          cases parsed
          have apart : ∀ entry ∈ trendWindowAliases, entry.1 ∉ Js.prototypeKeys := by decide
          unfold OwnName
          rw [← Js.lookup_own_iff apart answer]
          constructor
          · intro supported
            obtain ⟨value, -, same⟩ := supported
            exact ⟨value, same⟩
          · intro own
            obtain ⟨value, rfl⟩ := own
            have mem := Js.mem_of_lookup_own answer
            have all : ∀ entry ∈ trendWindowAliases, entry.2 ∈ supportedTrendWindows := by decide
            exact ⟨value, all _ mem, rfl⟩
      | none =>
          rw [answer] at parsed
          dsimp only at parsed
          split at parsed
          · rename_i number numeral
            cases parsed
            have supported := (Option.filter_eq_some_iff.1 numeral).2
            rw [decide_eq_true_eq] at supported
            have fresh : OwnName api text := by
              intro known
              unfold Js.lookup at answer
              split at answer
              · cases answer
              · rw [if_pos known] at answer
                cases answer
            exact iff_of_true ⟨number, supported.2, rfl⟩ fresh
          · cases parsed

theorem strategy_own_iff {value : Option String} {strategy : Js.Keyed EvidenceStrategy}
    (empty : OwnName api "") (parsed : parseEvidenceStrategy api value = .ok strategy) :
    (∃ known, strategy = .own known) ↔ ∀ text, value = some text → OwnName api text := by
  unfold parseEvidenceStrategy at parsed
  cases value with
  | none =>
      cases parsed
      exact iff_of_true ⟨_, rfl⟩ nofun
  | some text =>
      simp only [Option.some.injEq, forall_eq']
      by_cases blank : text = ""
      · subst blank
        cases parsed
        exact iff_of_true ⟨_, rfl⟩ empty
      · rw [Option.filter_some_pos (by simpa using blank)] at parsed
        dsimp only at parsed
        split at parsed
        · rename_i answer
          cases parsed
          have apart : ∀ entry ∈ supportedEvidenceStrategies, entry.1 ∉ Js.prototypeKeys := by
            decide
          exact Js.lookup_own_iff apart answer
        · cases parsed

theorem provider_own_iff {value : Option String} {provider : Option (Js.Keyed LlmProvider)}
    (empty : OwnName api "") (parsed : parseLlmProvider api value = .ok provider) :
    (∀ given, provider = some given → ∃ known, given = .own known) ↔
      ∀ text, value = some text → OwnName api text := by
  unfold parseLlmProvider at parsed
  cases value with
  | none =>
      cases parsed
      exact iff_of_true nofun nofun
  | some text =>
      simp only [Option.some.injEq, forall_eq']
      by_cases blank : text = ""
      · subst blank
        cases parsed
        exact iff_of_true nofun empty
      · rw [Option.filter_some_pos (by simpa using blank)] at parsed
        dsimp only at parsed
        split at parsed
        · rename_i nothing
          cases parsed
          have fresh : OwnName api text := by
            unfold OwnName
            rw [nothing]
            decide
          exact iff_of_true nofun fresh
        · split at parsed
          · rename_i answer
            cases parsed
            have apart : ∀ entry ∈ supportedLlmProviders, entry.1 ∉ Js.prototypeKeys := by decide
            unfold OwnName
            rw [← Js.lookup_own_iff apart answer]
            constructor
            · intro all
              exact all _ rfl
            · intro own given same
              cases same
              exact own
          · cases parsed

end Tables

/-! ## Parts of a request -/

section Parts

variable {api : MessageApi} {urls : UrlApi} {isTimeZone : String → Bool}

theorem positive_of_parse {value : Option (Int ⊕ String)} {fieldName : String}
    {parsed : Option Int} (done : parseOptionalPositiveInteger value fieldName = .ok parsed) :
    ∀ number, parsed = some number → 0 < number := by
  intro number present
  unfold parseOptionalPositiveInteger at done
  cases value with
  | none =>
      cases done
      cases present
  | some value =>
      dsimp only at done
      split at done
      · rename_i read
        cases done
        cases present
        have positive := (Option.filter_eq_some_iff.1 read).2
        exact of_decide_eq_true positive
      · cases done

/-- A glob that was validated is one that the validator returns as it is. -/
theorem validateTopicGlob_of_ok {glob normalized : String}
    (valid : validateTopicGlob glob = .ok normalized) :
    validateTopicGlob normalized = .ok normalized := by
  obtain ⟨rfl, accepted⟩ := validateTopicGlob_eq_ok.1 valid
  exact validateTopicGlob_eq_ok.2 ⟨Js.trim_trim glob, accepted.trim⟩

theorem globs_of_ok {globs normalized : Option (List String)}
    (done : normalizeTopicGlobs globs = .ok normalized) :
    ∀ list, normalized = some list → ∀ glob ∈ list, validateTopicGlob glob = .ok glob := by
  intro list present glob mem
  unfold normalizeTopicGlobs at done
  split at done
  · cases done
    cases present
  · cases done
    cases present
  · obtain ⟨validated, each, same⟩ := map_eq_ok.1 done
    rw [← same] at present
    obtain rfl : Js.distinct validated = list := Option.some.inj present
    rw [Js.mem_distinct] at mem
    have all : ∀ result ∈ validated, validateTopicGlob result = .ok result :=
      (forall_mem_iff_of_forall₂ (P := fun _ => True) (mapM_eq_ok.1 each)
        fun _ _ valid => iff_of_true trivial (validateTopicGlob_of_ok valid)).2 fun _ _ => trivial
    exact all glob mem

theorem query_own_iff {wire : WireQuery} {query : ParsedSummaryQuery} (empty : OwnName api "")
    (parsed : parseQuery api wire = .ok query) :
    WellTypedQuery query ↔ ∀ text, wire.evidenceStrategy = some text → OwnName api text := by
  rcases bind_eq_ok.1 parsed with ⟨days, days_ok, parsed⟩
  rcases bind_eq_ok.1 parsed with ⟨globs, globs_ok, parsed⟩
  rcases bind_eq_ok.1 parsed with ⟨events, events_ok, parsed⟩
  rcases bind_eq_ok.1 parsed with ⟨strategy, strategy_ok, same⟩
  cases same
  rw [← strategy_own_iff empty strategy_ok]
  constructor
  · intro typed
    obtain ⟨known, same⟩ := typed.strategy
    exact ⟨known, Option.some.inj same⟩
  · intro own
    obtain ⟨known, rfl⟩ := own
    constructor
    case lookbackDays => exact positive_of_parse days_ok
    case maxEventsPerTopic => exact positive_of_parse events_ok
    case globs => exact globs_of_ok globs_ok
    case strategy => exact ⟨known, rfl⟩

theorem metric_own_iff {wire : WireMetric} {topic : String} {metric : ParsedSummaryMetric}
    (parsed : parseMetric api topic wire = .ok metric) :
    WellTypedMetric wire metric ↔ ∀ window, wire.window = some window → OwnWindow api window := by
  unfold WellTypedMetric
  cases given : wire.window with
  | none =>
      unfold parseMetric at parsed
      rw [given] at parsed
      cases parsed
      exact iff_of_true (.inl ⟨rfl, rfl⟩) nofun
  | some value =>
      unfold parseMetric at parsed
      rw [given] at parsed
      rcases bind_eq_ok.1 parsed with ⟨window, window_ok, same⟩
      cases same
      simp only [Option.some.injEq, forall_eq']
      rw [← window_own_iff window_ok]
      constructor
      · intro typed
        rcases typed with ⟨absent, -⟩ | ⟨-, supported⟩
        · cases absent
        · exact supported
      · intro supported
        exact .inr ⟨Option.some_ne_none value, supported⟩

/-- What is inherited for a source throws, so the source of a record is its own. -/
theorem source_of_parseEvidence {wire : WireEvidence} {record : BriefEvidenceRecord}
    (lower : api.KeepsLowerCase) (parsed : parseEvidence api urls wire = .ok record) :
    ∃ source, record.source = .own source := by
  rcases bind_eq_ok.1 parsed with ⟨source, _, parsed⟩
  rcases bind_eq_ok.1 parsed with ⟨publishedAt, _, parsed⟩
  rcases bind_eq_ok.1 parsed with ⟨fetchedAt, _, parsed⟩
  cases source with
  | inherited key => cases parsed
  | own source =>
      have built := mapError_eq_ok.1 parsed
      obtain ⟨again, _, _, named, _, _, rfl⟩ := buildBriefEvidenceRecord_eq_ok.1 built
      have kept : api.toLowerCase source.name = source.name := by
        apply lower
        cases source <;> exact Js.forall_mem_of_all (by decide)
      have same := (parseCanonicalSource_of_name source kept).symm.trans named
      exact ⟨source, (Except.ok.inj same).symm⟩

theorem topic_own_iff {wire : WireTopic} {topic : ParsedSummaryTopic}
    (parsed : parseTopic api urls wire = .ok topic) :
    List.Forall₂ WellTypedMetric (wire.metrics.getD []) topic.metrics ↔
      ∀ metric ∈ wire.metrics.getD [], ∀ window, metric.window = some window →
        OwnWindow api window := by
  rcases bind_eq_ok.1 parsed with ⟨metrics, metrics_ok, parsed⟩
  rcases bind_eq_ok.1 parsed with ⟨evidence, _, same⟩
  cases same
  have each := mapM_eq_ok.1 metrics_ok
  exact forall₂_iff_of_forall₂ each fun _ _ done => metric_own_iff done

theorem sources_of_parseTopic {wire : WireTopic} {topic : ParsedSummaryTopic}
    (lower : api.KeepsLowerCase) (parsed : parseTopic api urls wire = .ok topic) :
    ∀ record ∈ topic.evidence, ∃ source, record.source = .own source := by
  rcases bind_eq_ok.1 parsed with ⟨metrics, _, parsed⟩
  rcases bind_eq_ok.1 parsed with ⟨evidence, evidence_ok, same⟩
  cases same
  exact (forall_mem_iff_of_forall₂ (P := fun _ => True) (mapM_eq_ok.1 evidence_ok)
    fun _ _ done => iff_of_true trivial (source_of_parseEvidence lower done)).2 fun _ _ => trivial

theorem bounds_of_parseReport {wire : Option WireReport} {report : Option ParsedSummaryReport}
    (parsed : parseReport api isTimeZone wire = .ok report) :
    ∀ hints startAt endAt, report = some hints → hints.startAt = some startAt →
      hints.endAt = some endAt → startAt ≤ endAt := by
  rcases bind_eq_ok.1 parsed with ⟨timezone, _, parsed⟩
  rcases bind_eq_ok.1 parsed with ⟨startAt, _, parsed⟩
  rcases bind_eq_ok.1 parsed with ⟨endAt, _, parsed⟩
  rcases bind_eq_ok.1 parsed with ⟨_, checked, same⟩
  cases same
  intro hints first last present started ended
  unfold reportHints at present
  split at present
  · cases present
  · cases present
    cases started
    cases ended
    unfold checkReportBounds at checked
    dsimp only at checked
    split at checked
    · cases checked
    · rename_i ordered
      exact Int.not_lt.1 ordered

end Parts

/-! ## Requests -/

/-- A request is decoded part by part. -/
structure DecodedParts (api : MessageApi) (urls : UrlApi) (isTimeZone : String → Bool)
    (wire : SummaryRequestWire) (request : ParsedSummaryRequest) : Prop where
  report : parseReport api isTimeZone wire.report = .ok request.report
  type : parseSummaryRequestType api wire.type = .ok request.type
  windows : (wire.windows.getD []).mapM (parseTrendWindow api) = .ok request.windows
  query : wire.query.mapM (parseQuery api) = .ok request.query
  provider : parseLlmProvider api wire.llmProvider = .ok request.llmProvider
  topics : (wire.topics.getD []).mapM (parseTopic api urls) = .ok request.topics

theorem decodedParts_of_ok {api : MessageApi} {urls : UrlApi} {isTimeZone : String → Bool}
    {wire : SummaryRequestWire} {request : ParsedSummaryRequest}
    (done : parsedSummaryRequest api urls isTimeZone wire = .ok request) :
    DecodedParts api urls isTimeZone wire request := by
  unfold parsedSummaryRequest at done
  rcases bind_eq_ok.1 done with ⟨report, report_ok, done⟩
  rcases bind_eq_ok.1 done with ⟨requestedAt, _, done⟩
  rcases bind_eq_ok.1 done with ⟨type, type_ok, done⟩
  rcases bind_eq_ok.1 done with ⟨windows, windows_ok, done⟩
  rcases bind_eq_ok.1 done with ⟨query, query_ok, done⟩
  rcases bind_eq_ok.1 done with ⟨provider, provider_ok, done⟩
  rcases bind_eq_ok.1 done with ⟨topics, topics_ok, same⟩
  cases same
  exact ⟨report_ok, type_ok, windows_ok, query_ok, provider_ok, topics_ok⟩

theorem ownName_empty {api : MessageApi} (lower : api.KeepsLowerCase) : OwnName api "" := by
  have plain : ∀ c ∈ "".toList, c.toNat < 128 ∧ c.isUpper = false := by simp
  unfold OwnName
  rw [Js.trim_empty, lower "" plain]
  decide

theorem query_own_iff_of_mapM {api : MessageApi} {wire : Option WireQuery}
    {query : Option ParsedSummaryQuery} (empty : OwnName api "")
    (parsed : wire.mapM (parseQuery api) = .ok query) :
    (∀ typed, query = some typed → WellTypedQuery typed) ↔
      ∀ given, wire = some given → ∀ text, given.evidenceStrategy = some text →
        OwnName api text := by
  rcases option_mapM_eq_ok.1 parsed with ⟨absent, none⟩ | ⟨given, typed, present, same, read⟩
  · subst absent none
    exact iff_of_true nofun nofun
  · subst present same
    simp only [Option.some.injEq, forall_eq']
    exact query_own_iff empty read

theorem wellTyped_of_parts {api : MessageApi} {urls : UrlApi} {isTimeZone : String → Bool}
    {wire : SummaryRequestWire} {request : ParsedSummaryRequest} (lower : api.KeepsLowerCase)
    (parts : DecodedParts api urls isTimeZone wire request) :
    WellTyped wire request ↔ OwnNames api wire := by
  have empty := ownName_empty lower
  have typeOwn := type_own_iff parts.type
  have read := mapM_eq_ok.1 parts.windows
  have windowsOwn : (∀ window ∈ request.windows, IsWindow window) ↔
      ∀ window ∈ wire.windows.getD [], OwnWindow api window :=
    forall_mem_iff_of_forall₂ read fun _ _ done => (window_own_iff done).symm
  have each := mapM_eq_ok.1 parts.topics
  have metricsOwn : List.Forall₂ (fun wire topic =>
      List.Forall₂ WellTypedMetric (wire.metrics.getD []) topic.metrics)
        (wire.topics.getD []) request.topics ↔
      ∀ topic ∈ wire.topics.getD [], ∀ metric ∈ topic.metrics.getD [],
        ∀ window, metric.window = some window → OwnWindow api window :=
    forall₂_iff_of_forall₂ each fun _ _ read => topic_own_iff read
  have providerOwn := provider_own_iff empty parts.provider
  have queryOwn := query_own_iff_of_mapM empty parts.query
  constructor
  · intro typed
    constructor
    case type => exact typeOwn.1 typed.type
    case windows => exact windowsOwn.1 typed.windows
    case metrics => exact metricsOwn.1 typed.metrics
    case strategy => exact queryOwn.1 typed.query
    case provider => exact providerOwn.1 typed.provider
  · intro own
    constructor
    case type => exact typeOwn.2 own.type
    case windows => exact windowsOwn.2 own.windows
    case metrics => exact metricsOwn.2 own.metrics
    case query => exact queryOwn.2 own.strategy
    case provider => exact providerOwn.2 own.provider
    case sources =>
      exact (forall_mem_iff_of_forall₂ (P := fun _ => True) each
        fun _ _ read => iff_of_true trivial (sources_of_parseTopic lower read)).2 fun _ _ => trivial
    case bounds => exact bounds_of_parseReport parts.report

/-- An accepted request is well typed exactly if no name in it is inherited. -/
theorem wellTyped_iff {api : MessageApi} {urls : UrlApi} {isTimeZone : String → Bool}
    {bytes : ByteArray} {decoded : Json} {wire : SummaryRequestWire} {request : ParsedSummaryRequest}
    (lower : api.KeepsLowerCase) (parsed : api.parse (api.toText bytes) = .ok decoded)
    (accepted : summaryRequestWireSchema decoded = some wire)
    (done : deserializeSummaryRequest api urls isTimeZone bytes = .ok request) :
    WellTyped wire request ↔ OwnNames api wire := by
  unfold deserializeSummaryRequest at done
  rw [parsed] at done
  dsimp only at done
  rw [accepted] at done
  dsimp only at done
  exact wellTyped_of_parts lower (decodedParts_of_ok done)

/-! ## Two requests -/

section Printed

variable {message : Json} {wire : SummaryRequestWire}

theorem parse_print (message : Json) : (Js.messagesFor message).parse
    ((Js.messagesFor message).toText message.print.toUTF8) = .ok message := by
  rw [(Js.messagesFor message).toText_toUTF8]
  exact if_pos rfl

theorem deserialize_print (accepted : summaryRequestWireSchema message = some wire) :
    deserializeSummaryRequest (Js.messagesFor message) Js.plainUrls (fun _ => false)
      message.print.toUTF8 =
        parsedSummaryRequest (Js.messagesFor message) Js.plainUrls (fun _ => false) wire := by
  unfold deserializeSummaryRequest
  rw [parse_print]
  dsimp only
  rw [accepted]

end Printed

/-- A message with nothing but what a request must have. -/
def bareMessage (type : String) : Json :=
  .object [("request_id", .string "r"), ("requested_at", .string "2024-01-01T00:00:00.000Z"),
    ("type", .string type)]

def bareWire (type : String) : SummaryRequestWire where
  requestId := "r"
  requestedAt := "2024-01-01T00:00:00.000Z"
  type := .inr type
  windows := none
  topics := none
  budget := none
  query := none
  report := none
  llmProvider := none

def bareRequest (type : Js.Keyed SummaryRequestType) : ParsedSummaryRequest :=
  { ParsedSummaryRequest.empty "r" with requestedAt := 1704067200000, type := type }

section Bare

variable {name : String} {type : Js.Keyed SummaryRequestType}

theorem schema_bareMessage (named : name ≠ "") :
    summaryRequestWireSchema (bareMessage name) = some (bareWire name) := by
  have text : (some name).filter (fun text => text ≠ "") = some name :=
    Option.filter_some_pos (by simpa using named)
  have field : Js.Schema.required "type" (Js.Schema.union Js.Schema.int Js.Schema.nonempty)
      (bareMessage name) = some (.inr name) := by
    change Js.Schema.union Js.Schema.int Js.Schema.nonempty (.string name) = _
    unfold Js.Schema.union Js.Schema.nonempty
    rw [show Js.Schema.string (.string name) = some name from rfl, text]
    rfl
  unfold summaryRequestWireSchema
  rw [field]
  rfl

theorem deserialize_bareMessage (named : name ≠ "")
    (parsed : parseSummaryRequestType (Js.messagesFor (bareMessage name)) (.inr name) = .ok type) :
    deserializeSummaryRequest (Js.messagesFor (bareMessage name)) Js.plainUrls (fun _ => false)
      (bareMessage name).print.toUTF8 = .ok (bareRequest type) := by
  rw [deserialize_print (schema_bareMessage named)]
  unfold parsedSummaryRequest
  rw [show (bareWire name).type = .inr name from rfl, parsed]
  rfl

end Bare

/-- A message with windows, a topic with a metric and evidence, a query, a report and a provider. -/
def fullMessage : Json :=
  .object [("request_id", .string "r"), ("requested_at", .string "2024-01-01T00:00:00.000Z"),
    ("type", .string " Daily"),
    ("windows", .array [.string "TREND_WINDOW_15M", .number (.finite 3), .string "2"]),
    ("topics", .array [.object [("topic", .string "ai"),
      ("metrics", .array [.object [("window", .string "2"), ("volume", .number (.finite 4))]]),
      ("evidence", .array [.object [("event_id", .string "e"), ("source", .string "rss")]])]]),
    ("query", .object [("lookback_days", .string "7"),
      ("topic_globs", .array [.string "ai.*"]), ("evidence_strategy", .string "Recency")]),
    ("report", .object [("start_at", .string "2024-01-01T00:00:00.000Z"),
      ("end_at", .string "2024-01-01T00:00:00.000Z")]),
    ("llm_provider", .string "codex-cli")]

/-- What a request reads out of the tables. -/
structure RequestNames where
  type : Js.Keyed SummaryRequestType
  windows : List (Js.Keyed Int)
  metricWindows : List (Js.Keyed Int)
  evidenceStrategy : Option (Js.Keyed EvidenceStrategy)
  llmProvider : Option (Js.Keyed LlmProvider)
  deriving DecidableEq

def requestNames (request : ParsedSummaryRequest) : RequestNames where
  type := request.type
  windows := request.windows
  metricWindows := request.topics.flatMap fun topic => topic.metrics.map (·.window)
  evidenceStrategy := request.query.bind (·.evidenceStrategy)
  llmProvider := request.llmProvider

def fullNames : RequestNames where
  type := .own .daily
  windows := [.own 1, .own 3, .own 2]
  metricWindows := [.own 2]
  evidenceStrategy := some (.own .recency)
  llmProvider := some (.own .codexCli)

theorem wellTyped_iff_full : ∃ wire request,
    summaryRequestWireSchema fullMessage = some wire ∧
    deserializeSummaryRequest (Js.messagesFor fullMessage) Js.plainUrls (fun _ => false)
      fullMessage.print.toUTF8 = .ok request ∧
    requestNames request = fullNames ∧
    (WellTyped wire request ↔ OwnNames (Js.messagesFor fullMessage) wire) := by
  have outcome : ((summaryRequestWireSchema fullMessage).bind fun wire =>
      (parsedSummaryRequest (Js.messagesFor fullMessage) Js.plainUrls (fun _ => false)
        wire).toOption.map requestNames) = some fullNames := by
    decide +kernel
  obtain ⟨wire, accepted, parsed⟩ := Option.bind_eq_some_iff.1 outcome
  obtain ⟨request, decoded, names⟩ := Option.map_eq_some_iff.1 parsed
  have done : deserializeSummaryRequest (Js.messagesFor fullMessage) Js.plainUrls (fun _ => false)
      fullMessage.print.toUTF8 = .ok request :=
    (deserialize_print accepted).trans (eq_ok_of_toOption decoded)
  exact ⟨wire, request, accepted, done, names,
    wellTyped_iff (Js.messagesFor_keepsLowerCase _) (parse_print _) accepted done⟩

/-- The constructor of all objects is taken for a type. -/
theorem constructor_accepted :
    deserializeSummaryRequest (Js.messagesFor (bareMessage "constructor")) Js.plainUrls
        (fun _ => false) (bareMessage "constructor").print.toUTF8 =
      .ok (bareRequest (.inherited "constructor")) ∧
    ¬ WellTyped (bareWire "constructor") (bareRequest (.inherited "constructor")) := by
  constructor
  · exact deserialize_bareMessage (by decide) rfl
  · intro typed
    obtain ⟨type, same⟩ := typed.type
    cases same

end RisingIntelligence.Brief
