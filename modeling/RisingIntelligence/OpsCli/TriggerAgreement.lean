import RisingIntelligence.Brief.RequestRoundTrip
import RisingIntelligence.OpsCli.ResolvedConfig

/-!
# Agreement on requests

When the brief service takes the request of `riops brief trigger` for what the configuration says.

The service's own validators are stricter than the command's in one place, the length of a topic glob,
and the command's own parser takes a source that every object inherits.
`trigger_delivered_iff`: these are the only requests that are lost.
-/

namespace RisingIntelligence.OpsCli

open Brief
open Js (Json MessageApi UrlApi)

/-- What is documented of dates: a valid one is read back from its ISO form, which has no blanks around
it. -/
structure DatesReadBack (api : MessageApi) : Prop where
  writes : ∀ text time, api.dateOf text = some time → api.Writes time
  trimmed : ∀ time, Js.trim (api.toISOString time) = api.toISOString time

/-! ## Dates -/

section Dates

variable {api : MessageApi} {iso : String}

/-- A written date is read. -/
theorem IsoDate.read (law : DatesReadBack api) (date : IsoDate api iso) :
    ∃ time, normalizeOptionalString (some iso) = some iso ∧ api.dateOf iso = some time ∧
      iso = api.toISOString time := by
  obtain ⟨text, time, read, rfl⟩ := date
  obtain ⟨back, nonblank⟩ := law.writes text time read
  have trimmed := law.trimmed time
  refine ⟨time, ?_, back, rfl⟩
  unfold normalizeOptionalString
  rw [trimmed] at nonblank
  rw [Option.map_some, trimmed]
  exact presentText_of_ne nonblank

theorem IsoDate.dateTime (law : DatesReadBack api) (date : IsoDate api iso) :
    dateTime api (some (.text iso)) = api.dateOf iso := by
  obtain ⟨time, normal, -, -⟩ := date.read law
  unfold RisingIntelligence.dateTime
  dsimp only
  rw [normal]
  rfl

theorem IsoDate.parsed (law : DatesReadBack api) (date : IsoDate api iso) (field : String) :
    ∃ time, parseOptionalDateValue api (some (.text iso)) field = .ok (some time) := by
  obtain ⟨time, normal, read, -⟩ := date.read law
  refine ⟨time, ?_⟩
  unfold parseOptionalDateValue parseDate
  dsimp only
  rw [normal]
  dsimp only
  rw [read]
  rfl

theorem writes_of_dateTime (law : DatesReadBack api) {value : Option DateInput} {time : Int}
    (textual : ∀ time, value ≠ some (.date time)) (given : dateTime api value = some time) :
    api.Writes time := by
  unfold dateTime at given
  split at given
  · cases given
  · exact absurd rfl (textual _)
  · obtain ⟨text, -, read⟩ := Option.bind_eq_some_iff.1 given
    exact law.writes text time read

end Dates

/-! ## The payload that is built -/

section Built

variable {api : MessageApi} {urls : UrlApi} {input : BriefingJobInput}

/-- A payload is built if the dates can be read, and the evidence be recorded. -/
theorem exists_createBriefingJobPayload
    (requested : ∃ time, parseOptionalDateValue api (some input.requestedAt) "requested_at" =
      .ok (some time))
    (topics : ∀ topic ∈ input.topics, ∀ evidence ∈ topic.evidence, ∀ excerptMaxLength, ∃ record,
      buildBriefEvidenceRecord api urls evidence excerptMaxLength = .ok record)
    (report : ∀ report, input.report = some report → ∃ payload,
      mapReportToPayload api report = .ok payload) :
    ∃ payload, createBriefingJobPayload api urls input = .ok payload := by
  obtain ⟨time, requested⟩ := requested
  have mapped : ∀ topic ∈ input.topics, ∃ payload,
      mapTopicToPayload api urls (resolveBriefEvidenceExcerptMaxLength input.topics) (id topic) =
        .ok payload ∧ True := by
    intro topic mem
    have recorded : ∀ evidence ∈ topic.evidence, ∃ payload,
        mapEvidenceToPayload api urls (resolveBriefEvidenceExcerptMaxLength input.topics)
          (id evidence) = .ok payload ∧ True := by
      intro evidence there
      obtain ⟨record, built⟩ := topics topic mem evidence there _
      exact ⟨evidencePayload api record, map_eq_ok.2 ⟨record, built, rfl⟩, trivial⟩
    obtain ⟨evidence, each, -⟩ := exists_mapM_eq_ok recorded
    rw [List.map_id] at each
    exact ⟨_, bind_eq_ok.2 ⟨evidence, each, rfl⟩, trivial⟩
  obtain ⟨written, each, -⟩ := exists_mapM_eq_ok mapped
  rw [List.map_id] at each
  have hints : ∃ hints, input.report.mapM (mapReportToPayload api) = .ok hints := by
    cases present : input.report with
    | none => exact ⟨none, rfl⟩
    | some given =>
        obtain ⟨payload, mapped⟩ := report given present
        exact ⟨some payload, option_mapM_eq_ok.2 (.inr ⟨given, payload, rfl, rfl, mapped⟩)⟩
  obtain ⟨hints, reported⟩ := hints
  have request : ∃ payload, mapRequestToPayload api urls input time = .ok payload :=
    ⟨_, bind_eq_ok.2 ⟨written, each, bind_eq_ok.2 ⟨hints, reported, rfl⟩⟩⟩
  obtain ⟨payload, request⟩ := request
  have built : buildSummaryRequestPayload api urls input = .ok payload := by
    unfold buildSummaryRequestPayload
    rw [requested]
    exact mapError_eq_ok.2 request
  exact ⟨_, bind_eq_ok.2 ⟨payload, built, rfl⟩⟩

end Built

/-! ## The input of a resolved configuration -/

section Input

variable {runtime : TriggerRuntime} {urls : UrlApi} {common : TriggerBriefCommonConfig}
  {query : QueryModeConfig} {explicit : ExplicitModeConfig} {source : CanonicalSource}

theorem dates_of_report {config : TriggerBriefConfigBase} {report : SummaryRequestReportInput}
    (present : config.report = some report) :
    report = {
      timezone := config.reportTimezone
      startAt := config.reportStartAtIso.map .text
      endAt := config.reportEndAtIso.map .text } := by
  unfold TriggerBriefConfigBase.report at present
  split at present
  · cases present
  · exact (Option.some.inj present).symm

theorem dateTime_map_text (law : DatesReadBack runtime.toMessageApi) {iso : Option String}
    (dates : ∀ text, iso = some text → IsoDate runtime.toMessageApi text) :
    dateTime runtime.toMessageApi (iso.map .text) = iso.bind runtime.dateOf := by
  cases iso with
  | none => rfl
  | some text => exact (dates text rfl).dateTime law

/-- What both modes have in common is decoded. -/
theorem decodable_common (law : DatesReadBack runtime.toMessageApi)
    (resolved : ResolvedCommon runtime common) {input : BriefingJobInput}
    (same : input.requestId = common.commonInput.requestId ∧
      input.windows = common.commonInput.windows ∧ input.budget = common.commonInput.budget ∧
      input.report = common.commonInput.report)
    (topics : ∀ topic ∈ input.topics, DecodableTopic runtime.toMessageApi topic)
    (query : ∀ query, input.query = some query → DecodableQuery query) :
    DecodableInput runtime.toMessageApi runtime.isTimeZone input := by
  obtain ⟨requestId, windows, budget, report⟩ := same
  constructor
  case requestId => exact requestId ▸ resolved.base.requestId
  case windows =>
    intro window mem
    rw [windows] at mem
    obtain ⟨number, there, rfl⟩ := List.mem_map.1 mem
    exact ⟨number, resolved.windows number there, rfl⟩
  case topics => exact topics
  case budget =>
    intro given present
    rw [budget] at present
    obtain rfl := Option.some.inj present
    constructor
    case dailyBudgetUsd =>
      intro value present
      exact ⟨_, resolved.base.dailyBudgetUsd, (Option.some.inj present).symm⟩
    case maxTopics =>
      intro value present
      exact ⟨_, resolved.base.maxTopics, (Option.some.inj present).symm⟩
    case maxEvidencePerTopic =>
      intro value present
      exact ⟨_, resolved.base.maxEvidencePerTopic, (Option.some.inj present).symm⟩
    case maxOutputTokens =>
      intro value present
      exact ⟨_, resolved.base.maxOutputTokens, (Option.some.inj present).symm⟩
  case query => exact query
  case report =>
    intro given present
    rw [report] at present
    obtain rfl := dates_of_report present
    constructor
    case timezone =>
      intro zone normalized
      obtain ⟨given, -⟩ := Option.filter_eq_some_iff.1 normalized
      obtain ⟨text, present, rfl⟩ := Option.map_eq_some_iff.1 given
      obtain ⟨trimmed, -, known⟩ := resolved.base.timezone text present
      rw [trimmed]
      exact known
    case bounds =>
      dsimp only
      rw [dateTime_map_text law resolved.base.startAt, dateTime_map_text law resolved.base.endAt]
      exact resolved.base.bounds

theorem decodableQuery (resolved : ResolvedQuery query)
    (short : ∀ glob ∈ query.queryTopicGlobs, Js.length glob ≤ 128) :
    DecodableQuery {
      lookbackDays := some (.ofInt query.queryLookbackDays)
      topicGlobs := some query.queryTopicGlobs
      maxEventsPerTopic := some (.ofInt query.queryMaxEventsPerTopic)
      evidenceStrategy := some query.queryEvidenceStrategy } := by
  constructor
  case lookbackDays =>
    intro value present
    exact ⟨_, resolved.lookbackDays, (Option.some.inj present).symm⟩
  case maxEventsPerTopic =>
    intro value present
    exact ⟨_, resolved.maxEventsPerTopic, (Option.some.inj present).symm⟩
  case topicGlobs =>
    have valid : ∀ glob ∈ query.queryTopicGlobs, validateTopicGlob glob = .ok glob := by
      intro glob mem
      obtain ⟨trimmed, nonempty, letters⟩ := resolved.globs.valid glob mem
      refine validateTopicGlob_eq_ok.2 ⟨trimmed, ?_, ?_, ?_⟩
      · rwa [trimmed]
      · rw [trimmed]
        exact short glob mem
      · rw [trimmed]
        exact List.all_eq_true.1 letters
    have each : query.queryTopicGlobs.mapM validateTopicGlob = .ok query.queryTopicGlobs :=
      mapM_eq_ok.2 (List.forall₂_same.2 valid)
    have some := resolved.globs.some
    have distinct := Js.distinct_of_nodup resolved.globs.nodup
    dsimp only
    generalize query.queryTopicGlobs = globs at each some distinct
    unfold Brief.normalizeTopicGlobs
    cases globs with
    | nil => exact absurd rfl some
    | cons glob rest =>
        dsimp only
        rw [each]
        exact congrArg (fun globs => Except.ok (Option.some globs)) distinct

theorem primaryWindow_mem (resolved : ResolvedCommon runtime common) :
    primaryWindow common ∈ BRIEF_SUPPORTED_WINDOWS := by
  unfold primaryWindow
  split
  · decide
  · cases windows : common.windows with
    | nil => exact absurd windows resolved.some
    | cons window rest =>
        apply resolved.windows
        rw [windows]
        exact List.mem_cons_self

/-- The id of the evidence is not blank, whatever the request is called. -/
theorem eventId_ne : Js.trim (common.requestId ++ "-event-1") ≠ "" := by
  intro blank
  have white := Js.trimList_eq_nil_iff.1 (Js.trim_eq_empty_iff.1 blank)
  have dash : '-' ∈ (common.requestId ++ "-event-1").toList := by
    rw [String.toList_append]
    exact List.mem_append_right _ List.mem_cons_self
  exact absurd (white '-' dash) (by decide)

theorem decodable_explicit (lower : runtime.KeepsLowerCase)
    (resolved : ResolvedCommon runtime common) (resolved' : ResolvedExplicit explicit) :
    ∀ topic ∈ (explicitInput common explicit source).topics,
      DecodableTopic runtime.toMessageApi topic := by
  intro topic mem
  obtain rfl := List.mem_singleton.1 mem
  constructor
  case trimmed => exact resolved'.trimmed
  case named => exact resolved'.named
  case metrics =>
    intro metric there
    obtain rfl := List.mem_singleton.1 there
    exact ⟨resolved'.trimmed, resolved'.named, ⟨_, primaryWindow_mem resolved, rfl⟩, rfl, rfl, rfl⟩
  case eventIds =>
    intro evidence there
    obtain rfl := List.mem_singleton.1 there
    exact eventId_ne
  case sources =>
    intro evidence there
    obtain rfl := List.mem_singleton.1 there
    exact ⟨source, parseCanonicalSource_name lower source⟩

/-- All dates of the request are texts. -/
theorem writes_inputDates (law : DatesReadBack runtime.toMessageApi) {input : BriefingJobInput}
    (requested : input.requestedAt = .text common.requestedAtIso)
    (report : input.report = common.report)
    (topics : ∀ value ∈ input.topics.flatMap topicDates, ∃ text, value = some (.text text)) :
    ∀ value ∈ inputDates input, ∀ time, dateTime runtime.toMessageApi value = some time →
      runtime.Writes time := by
  intro value mem time given
  apply writes_of_dateTime law _ given
  intro other same
  subst same
  unfold inputDates at mem
  rcases List.mem_cons.1 mem with first | later
  · rw [requested] at first
    cases first
  · rcases List.mem_append.1 later with hint | evidence
    · rw [report] at hint
      cases present : common.report with
      | none =>
          rw [present] at hint
          exact absurd hint List.not_mem_nil
      | some hints =>
          rw [present, dates_of_report present] at hint
          simp at hint
    · obtain ⟨text, same⟩ := topics _ evidence
      cases same

theorem exists_mapReport (law : DatesReadBack runtime.toMessageApi)
    (resolved : ResolvedBase runtime common.toTriggerBriefConfigBase) :
    ∀ report, common.report = some report → ∃ payload,
      mapReportToPayload runtime.toMessageApi report = .ok payload := by
  intro report present
  obtain rfl := dates_of_report present
  have written : ∀ iso : Option String,
      (∀ text, iso = some text → IsoDate runtime.toMessageApi text) → ∀ field,
        ∃ result, toIsoString runtime.toMessageApi (iso.map .text) field = .ok result := by
    intro iso dates field
    cases iso with
    | none => exact ⟨none, rfl⟩
    | some text =>
        obtain ⟨time, parsed⟩ := (dates text rfl).parsed law field
        exact ⟨_, map_eq_ok.2 ⟨_, parsed, rfl⟩⟩
  obtain ⟨startAt, start⟩ := written _ resolved.startAt "report.start_at"
  obtain ⟨endAt, stop⟩ := written _ resolved.endAt "report.end_at"
  exact ⟨_, bind_eq_ok.2 ⟨startAt, start, bind_eq_ok.2 ⟨endAt, stop, rfl⟩⟩⟩

end Input

/-! ## Agreement -/

/-- The query of a configuration, as the service has it. -/
def TriggerBriefConfig.parsedQuery : TriggerBriefConfig → Option ParsedSummaryQuery
  | .query _ mode => some {
      lookbackDays := some mode.queryLookbackDays
      topicGlobs := some mode.queryTopicGlobs
      maxEventsPerTopic := some mode.queryMaxEventsPerTopic
      evidenceStrategy := some (.own mode.queryEvidenceStrategy) }
  | .explicit _ _ => none

/-- The request has what the configuration has. -/
structure Agrees (runtime : TriggerRuntime) (config : TriggerBriefConfig)
    (request : ParsedSummaryRequest) : Prop where
  windows : request.windows = config.common.windows.map Js.Keyed.own
  llmProvider : request.llmProvider = some (.own config.common.llmProvider)
  query : request.query = config.parsedQuery
  timezone : request.report.bind (·.timezone) = config.common.reportTimezone
  startAt : (request.report.bind (·.startAt)).map runtime.toISOString =
    config.common.reportStartAtIso
  endAt : (request.report.bind (·.endAt)).map runtime.toISOString = config.common.reportEndAtIso

/-- The service accepts the payload, and decodes it to what the configuration has. -/
def Delivered (runtime : TriggerRuntime) (urls : UrlApi) (config : TriggerBriefConfig) : Prop :=
  ∃ payload request, buildTriggerJobPayload runtime.toMessageApi urls config = .ok payload ∧
    deserializeSummaryRequest runtime.toMessageApi urls runtime.isTimeZone
      (serializePayload runtime.toMessageApi payload) = .ok request ∧
    Agrees runtime config request

section Agreement

variable {runtime : TriggerRuntime} {urls : UrlApi} {common : TriggerBriefCommonConfig}
  {query : QueryModeConfig} {explicit : ExplicitModeConfig} {config : TriggerBriefConfig}

theorem ofInt_inj {first second : Int} (same : Js.Double.ofInt first = Js.Double.ofInt second) :
    first = second := by
  have whole := congrArg intOf same
  rwa [intOf_ofInt, intOf_ofInt] at whole

theorem windows_of_input {windows : List (Js.Keyed Int)} {given : List Int}
    (same : windows.map windowInput = given.map Js.Double.ofInt) :
    windows = given.map Js.Keyed.own := by
  induction windows generalizing given with
  | nil =>
      rw [List.map_nil, eq_comm, List.map_eq_nil_iff] at same
      rw [same]
      rfl
  | cons window rest ih =>
      cases given with
      | nil => cases same
      | cons number numbers =>
          rw [List.map_cons, List.map_cons] at same
          obtain ⟨first, later⟩ := List.cons.inj same
          rw [List.map_cons, ih later]
          cases window with
          | own value => rw [ofInt_inj first]
          | inherited key => cases first

theorem reportHints_parts {timezone : Option String} {startAt endAt : Option Brief.Date} :
    (reportHints timezone startAt endAt).bind (·.timezone) = timezone ∧
      (reportHints timezone startAt endAt).bind (·.startAt) = startAt ∧
      (reportHints timezone startAt endAt).bind (·.endAt) = endAt := by
  unfold reportHints
  split
  · rename_i none
    obtain ⟨rfl, rfl, rfl⟩ := none
    exact ⟨rfl, rfl, rfl⟩
  · exact ⟨rfl, rfl, rfl⟩

/-- The hints that are decoded are those of the configuration. -/
theorem report_hints (law : DatesReadBack runtime.toMessageApi)
    (resolved : ResolvedBase runtime common.toTriggerBriefConfigBase) :
    common.report.bind (reportInputHints runtime.toMessageApi) =
      reportHints common.reportTimezone (common.reportStartAtIso.bind runtime.dateOf)
        (common.reportEndAtIso.bind runtime.dateOf) := by
  have timezone : normalizeOptionalString common.reportTimezone = common.reportTimezone := by
    cases present : common.reportTimezone with
    | none => rfl
    | some zone =>
        obtain ⟨trimmed, nonempty, -⟩ := resolved.timezone zone present
        unfold normalizeOptionalString
        rw [Option.map_some, trimmed]
        exact presentText_of_ne nonempty
  cases present : common.report with
  | none =>
      unfold TriggerBriefConfigBase.report at present
      split at present
      · rename_i none
        rw [none.1, none.2.1, none.2.2]
        rfl
      · cases present
  | some report =>
      obtain rfl := dates_of_report present
      rw [Option.bind_some]
      unfold reportInputHints
      rw [timezone, dateTime_map_text law resolved.startAt, dateTime_map_text law resolved.endAt]

theorem map_toISOString (law : DatesReadBack runtime.toMessageApi) {iso : Option String}
    (dates : ∀ text, iso = some text → IsoDate runtime.toMessageApi text) :
    (iso.bind runtime.dateOf).map runtime.toISOString = iso := by
  cases iso with
  | none => rfl
  | some text =>
      obtain ⟨time, -, read, same⟩ := (dates text rfl).read law
      rw [Option.bind_some, read, Option.map_some, ← same]

/-- A decoded request agrees with the configuration once its query does. -/
theorem agrees_of_recovered (law : DatesReadBack runtime.toMessageApi)
    (resolved : ResolvedCommon runtime config.common) {input : BriefingJobInput}
    {payload : BriefingJobPayload} {request : ParsedSummaryRequest}
    (windows : input.windows = config.common.windows.map Js.Double.ofInt)
    (report : input.report = config.common.report)
    (provider : input.llmProvider = some config.common.llmProvider)
    (recovered : RecoveredRequest runtime.toMessageApi urls input payload request)
    (query : request.query = config.parsedQuery) : Agrees runtime config request := by
  have hints := recovered.report
  rw [report, report_hints law resolved.base] at hints
  obtain ⟨timezone, startAt, endAt⟩ := @reportHints_parts config.common.reportTimezone
    (config.common.reportStartAtIso.bind runtime.dateOf)
    (config.common.reportEndAtIso.bind runtime.dateOf)
  constructor
  case windows => exact windows_of_input (recovered.windows.trans windows)
  case llmProvider =>
    rw [recovered.llmProvider, provider]
    rfl
  case query => exact query
  case timezone => rw [hints, timezone]
  case startAt => rw [hints, startAt, map_toISOString law resolved.base.startAt]
  case endAt => rw [hints, endAt, map_toISOString law resolved.base.endAt]

theorem query_of_input {parsed : Option ParsedSummaryQuery}
    (same : parsed.map Brief.queryInput = (OpsCli.queryInput common query).query.map withStrategy) :
    parsed = (TriggerBriefConfig.query common query).parsedQuery := by
  cases parsed with
  | none => cases same
  | some parsed =>
      obtain ⟨lookbackDays, topicGlobs, maxEventsPerTopic, strategy⟩ := parsed
      obtain ⟨days, globs, events, known⟩ := SummaryRequestQuery.mk.inj (Option.some.inj same)
      dsimp only at days globs events known
      have whole : ∀ (value : Option Int) (number : Int),
          value.map Js.Double.ofInt = some (Js.Double.ofInt number) → value = some number := by
        intro value number same
        obtain ⟨found, rfl, equal⟩ := Option.map_eq_some_iff.1 same
        rw [ofInt_inj equal]
      have own : strategy = some (.own query.queryEvidenceStrategy) := by
        obtain ⟨found, rfl, equal⟩ := Option.bind_eq_some_iff.1 known
        cases found with
        | own value => exact congrArg (fun value => some (Js.Keyed.own value)) (Option.some.inj equal)
        | inherited key => cases equal
      rw [whole _ _ days, globs, whole _ _ events, own]
      rfl

/-- The service decodes the request of a query whose globs are short. -/
theorem delivered_query (lower : runtime.KeepsLowerCase) (law : DatesReadBack runtime.toMessageApi)
    (resolved : Resolved runtime (.query common query))
    (short : ∀ glob ∈ query.queryTopicGlobs, Js.length glob ≤ 128)
    (text : ∀ payload, buildTriggerJobPayload runtime.toMessageApi urls (.query common query) =
      .ok payload → runtime.RoundTrips payload.toJson) :
    Delivered runtime urls (.query common query) := by
  obtain ⟨resolved, resolved'⟩ := resolved
  have created : ∃ payload, createBriefingJobPayload runtime.toMessageApi urls
      (OpsCli.queryInput common query) = .ok payload :=
    exists_createBriefingJobPayload (resolved.base.requestedAt.parsed law _) nofun
      (exists_mapReport law resolved.base)
  obtain ⟨payload, created⟩ := created
  have built : buildTriggerJobPayload runtime.toMessageApi urls (.query common query) = .ok payload :=
    mapError_eq_ok.2 created
  have decodable : DecodableInput runtime.toMessageApi runtime.isTimeZone
      (OpsCli.queryInput common query) := by
    refine decodable_common law resolved ⟨rfl, rfl, rfl, rfl⟩ nofun ?_
    intro given present
    obtain rfl := Option.some.inj present
    exact decodableQuery resolved' short
  obtain ⟨request, decoded, recovered⟩ := recovered_of_created lower decodable
    (writes_inputDates law rfl rfl nofun) (created_of_ok created) (text payload built)
  have agrees := @agrees_of_recovered runtime urls (.query common query) law resolved
    _ _ _ rfl rfl rfl recovered (query_of_input recovered.query)
  exact ⟨payload, request, built, decoded, agrees⟩

/-- The service decodes the request of a topic whose source is one of the table. -/
theorem delivered_explicit (lower : runtime.KeepsLowerCase)
    (law : DatesReadBack runtime.toMessageApi)
    (resolved : Resolved runtime (.explicit common explicit)) {source : CanonicalSource}
    (own : explicit.evidenceSource = .own source)
    (text : ∀ payload, buildTriggerJobPayload runtime.toMessageApi urls (.explicit common explicit) =
      .ok payload → runtime.RoundTrips payload.toJson) :
    Delivered runtime urls (.explicit common explicit) := by
  obtain ⟨resolved, resolved'⟩ := resolved
  have recorded : ∀ topic ∈ (explicitInput common explicit source).topics,
      ∀ evidence ∈ topic.evidence, ∀ excerptMaxLength, ∃ record,
        buildBriefEvidenceRecord runtime.toMessageApi urls evidence excerptMaxLength =
          .ok record := by
    intro topic mem evidence there excerptMaxLength
    obtain rfl := List.mem_singleton.1 mem
    obtain rfl := List.mem_singleton.1 there
    obtain ⟨publishedAt, published⟩ := resolved.base.requestedAt.parsed law "published_at"
    obtain ⟨fetchedAt, fetched⟩ := resolved.base.requestedAt.parsed law "fetched_at"
    exact ⟨_, buildBriefEvidenceRecord_eq_ok.2 ⟨.own source, some publishedAt, some fetchedAt,
      parseCanonicalSource_name lower source, published, fetched, rfl⟩⟩
  obtain ⟨payload, created⟩ := exists_createBriefingJobPayload
    (resolved.base.requestedAt.parsed law _) recorded (exists_mapReport law resolved.base)
  have built : buildTriggerJobPayload runtime.toMessageApi urls (.explicit common explicit) =
      .ok payload := by
    unfold buildTriggerJobPayload
    dsimp only
    rw [own]
    exact mapError_eq_ok.2 created
  have decodable : DecodableInput runtime.toMessageApi runtime.isTimeZone
      (explicitInput common explicit source) :=
    decodable_common law resolved ⟨rfl, rfl, rfl, rfl⟩ (decodable_explicit lower resolved resolved')
      nofun
  have textual : ∀ value ∈ (explicitInput common explicit source).topics.flatMap topicDates,
      ∃ text, value = some (.text text) := by
    intro value mem
    have dates : (explicitInput common explicit source).topics.flatMap topicDates =
        [some (.text common.requestedAtIso), some (.text common.requestedAtIso)] := rfl
    rw [dates] at mem
    simp only [List.mem_cons, List.not_mem_nil, or_false, or_self] at mem
    exact ⟨_, mem⟩
  obtain ⟨request, decoded, recovered⟩ := recovered_of_created lower decodable
    (writes_inputDates law rfl rfl textual) (created_of_ok created) (text payload built)
  have none : request.query = none := by
    have same := recovered.query
    cases present : request.query with
    | none => rfl
    | some query =>
        rw [present] at same
        cases same
  have agrees := @agrees_of_recovered runtime urls (.explicit common explicit) law resolved
    _ _ _ rfl rfl rfl recovered none
  exact ⟨payload, request, built, decoded, agrees⟩

/-- Globs that were decoded are short. -/
theorem globs_of_deserialize {api : MessageApi} {isTimeZone : String → Bool} {bytes : ByteArray}
    {request : ParsedSummaryRequest}
    (done : deserializeSummaryRequest api urls isTimeZone bytes = .ok request)
    {parsed : ParsedSummaryQuery} (asked : request.query = some parsed) {globs : List String}
    (present : parsed.topicGlobs = some globs) : ∀ glob ∈ globs, Js.length glob ≤ 128 := by
  intro glob mem
  unfold deserializeSummaryRequest at done
  split at done
  · cases done
  · split at done
    · cases done
    · have parts := decodedParts_of_ok done
      rcases option_mapM_eq_ok.1 parts.query with ⟨-, none⟩ | ⟨wire, query, -, same, read⟩
      · rw [asked] at none
        cases none
      · rw [asked] at same
        obtain rfl := Option.some.inj same
        obtain ⟨days, -, read⟩ := bind_eq_ok.1 read
        obtain ⟨normalized, valid, read⟩ := bind_eq_ok.1 read
        obtain ⟨events, -, read⟩ := bind_eq_ok.1 read
        obtain ⟨strategy, -, same⟩ := bind_eq_ok.1 read
        obtain rfl := Except.ok.inj same
        have checked := globs_of_ok valid globs present glob mem
        obtain ⟨trimmed, accepted⟩ := validateTopicGlob_eq_ok.1 checked
        have fits := accepted.short
        rwa [trimmed] at fits

theorem delivered_iff (lower : runtime.KeepsLowerCase) (law : DatesReadBack runtime.toMessageApi)
    (resolved : Resolved runtime config)
    (text : ∀ payload, buildTriggerJobPayload runtime.toMessageApi urls config = .ok payload →
      runtime.RoundTrips payload.toJson) :
    Delivered runtime urls config ↔ Deliverable config := by
  cases config with
  | query common query =>
      constructor
      · intro delivered
        obtain ⟨payload, request, -, done, agrees⟩ := delivered
        exact globs_of_deserialize done agrees.query rfl
      · intro short
        exact delivered_query lower law resolved short text
  | explicit common explicit =>
      constructor
      · intro delivered
        obtain ⟨payload, request, built, -, -⟩ := delivered
        unfold buildTriggerJobPayload at built
        dsimp only at built
        split at built
        · cases built
        · rename_i source own
          exact ⟨source, own⟩
      · intro own
        obtain ⟨source, own⟩ := own
        exact delivered_explicit lower law resolved own text

/-- The request of a configuration that was resolved gets to the service exactly if no glob is too
long, and the source is none that every object inherits. -/
theorem trigger_delivered_iff (lower : runtime.KeepsLowerCase)
    (law : DatesReadBack runtime.toMessageApi) {flags : CliFlags}
    (resolved : resolveConfig runtime flags = .ok config)
    (text : ∀ payload, buildTriggerJobPayload runtime.toMessageApi urls config = .ok payload →
      runtime.RoundTrips payload.toJson) :
    Delivered runtime urls config ↔ TakenByService runtime flags := by
  obtain ⟨holds, condition⟩ := resolved_of_ok lower resolved
  rw [delivered_iff lower law holds text, condition]

end Agreement

/-! ## A glob that is too long -/

/-- A runtime without any variable or file, which reads whole numbers. -/
def triggerRuntime (known : Json) : TriggerRuntime where
  toMessageApi := Js.messagesFor known
  env _ := none
  readFile _ := none
  parseYaml _ := .error "no files"
  toNumber text :=
    match Js.parseInt10 text with
    | some number => .ofInt number
    | none => .nan
  isTimeZone _ := false
  now := 1704067200000

theorem messagesFor_readsBack (known : Json) : DatesReadBack (Js.messagesFor known) := by
  constructor
  case writes =>
    intro text time read
    change (if text = "2024-01-01T00:00:00.000Z" then some 1704067200000 else none) = _ at read
    split at read
    · obtain rfl := Option.some.inj read
      exact Js.messagesFor_writes known
    · cases read
  case trimmed =>
    intro time
    exact (by decide : Js.trim "2024-01-01T00:00:00.000Z" = "2024-01-01T00:00:00.000Z")

/-- What the defaults resolve to. -/
def defaultCommon : TriggerBriefCommonConfig where
  kafkaBrokers := ["localhost:9092"]
  kafkaClientId := "riops-brief-trigger"
  summaryRequestsTopic := "summary.requests"
  summaryResultsTopic := "summary.results"
  requestId := "r"
  requestedAtIso := "2024-01-01T00:00:00.000Z"
  requestType := .daily
  dailyBudgetUsd := 5
  maxTopics := 5
  maxEvidencePerTopic := 3
  maxOutputTokens := 1200
  reportTimezone := none
  reportStartAtIso := none
  reportEndAtIso := none
  llmProvider := .codexCli
  dryRun := false
  noWait := false
  timeoutSeconds := 600
  windows := [2]
  warnings := []

def globQuery (glob : String) : QueryModeConfig where
  queryLookbackDays := 7
  queryTopicGlobs := [glob]
  queryMaxEventsPerTopic := 3
  queryEvidenceStrategy := .diversity

def globFlags (glob : String) : CliFlags := [("request-id", .text "r"), ("topic-globs", .text glob)]

def globPayload (glob : String) : BriefingJobPayload where
  requestId := "r"
  requestedAt := "2024-01-01T00:00:00.000Z"
  type := .daily
  windows := [.ofInt 2]
  topics := []
  budget := some {
    dailyBudgetUsd := some (.number (.finite 5))
    maxTopics := some (.ofInt 5)
    maxEvidencePerTopic := some (.ofInt 3)
    maxOutputTokens := some (.ofInt 1200) }
  query := some {
    lookbackDays := some (.ofInt 7)
    topicGlobs := some [glob]
    maxEventsPerTopic := some (.ofInt 3)
    evidenceStrategy := some .diversity }
  report := none
  llmProvider := some .codexCli

def globRuntime (glob : String) : TriggerRuntime := triggerRuntime (globPayload glob).toJson

section Glob

variable {glob : String}

/-- The characters of a glob that is passed on as it is. -/
def PlainGlob (glob : String) : Prop :=
  glob ≠ "" ∧ ∀ c ∈ glob.toList, Js.isWhitespace c = false ∧ c ≠ ',' ∧ isTopicGlobChar c = true

theorem resolveQueryTopicGlobs_glob (plain : PlainGlob glob) :
    resolveQueryTopicGlobs (globRuntime glob) (globFlags glob) = .ok ([glob], []) := by
  obtain ⟨nonempty, plain⟩ := plain
  have alone := commaSeparated_eq_singleton nonempty fun c mem => ⟨(plain c mem).1, (plain c mem).2.1⟩
  have normal := normalizeTopicGlobs_singleton nonempty (fun c mem => (plain c mem).1)
    (List.all_eq_true.2 fun c mem => (plain c mem).2.2)
  have given : resolveExplicitTopicGlobs (globFlags glob) = .ok [glob] := by
    have raw : getStringFlag (globFlags glob) "topic-globs" = some glob := rfl
    unfold resolveExplicitTopicGlobs
    rw [raw, presentText_of_ne nonempty]
    dsimp only
    unfold parseTopicGlobs
    rw [alone]
    exact (if_neg (List.cons_ne_nil _ _)).trans normal
  unfold resolveQueryTopicGlobs
  exact bind_eq_ok.2 ⟨[glob], given, bind_eq_ok.2 ⟨([], []), rfl, bind_eq_ok.2 ⟨[glob], normal, rfl⟩⟩⟩

theorem commaSeparated_two : commaSeparated "2" = ["2"] := by rfl
theorem commaSeparated_broker : commaSeparated "localhost:9092" = ["localhost:9092"] := by rfl

/-- A lower-case name is compared as it is. -/
theorem lower_name {name : String}
    (plain : ∀ c ∈ name.toList, Js.isWhitespace c = false ∧ c.toNat < 0x80 ∧ c.isUpper = false) :
    (globRuntime glob).toLowerCase (Js.trim name) = name := by
  have trimmed := Js.trim_eq_self fun c mem => (plain c mem).1
  have lower := Js.messagesFor_keepsLowerCase (globPayload glob).toJson name
    fun c mem => (plain c mem).2
  rw [trimmed]
  exact lower

theorem parseRequestType_daily : parseRequestType (globRuntime glob) "daily" = .ok .daily := by
  unfold parseRequestType
  rw [lower_name (Js.forall_mem_of_all (by decide))]
  rfl

theorem parseLlmProvider_codexCli :
    parseLlmProvider (globRuntime glob) "codex-cli" = .ok .codexCli := by
  unfold parseLlmProvider
  rw [lower_name (Js.forall_mem_of_all (by decide))]
  rfl

theorem parseEvidenceStrategy_diversity :
    parseEvidenceStrategy (globRuntime glob) "diversity" = .ok .diversity := by
  unfold parseEvidenceStrategy
  rw [lower_name (Js.forall_mem_of_all (by decide))]
  rfl

theorem resolve_glob (plain : PlainGlob glob) : resolveConfig (globRuntime glob) (globFlags glob) =
    .ok (.query defaultCommon (globQuery glob)) := by
  have windows : parseWindows (globRuntime glob)
      (firstText [getStringFlag (globFlags glob) "windows"] "2") = .ok [2] := by
    have raw : firstText [getStringFlag (globFlags glob) "windows"] "2" = "2" := rfl
    rw [raw]
    unfold parseWindows
    rw [commaSeparated_two]
    rfl
  let numbers : TriggerNumbers := ⟨5, 5, 3, 1200, 30, 7⟩
  have base : resolveBase (globRuntime glob) (globFlags glob) numbers ⟨none, none, none⟩ =
      .ok defaultCommon.toTriggerBriefConfigBase := by
    have brokers : parseKafkaBrokers (firstText [getStringFlag (globFlags glob) "kafka-brokers",
        getEnvString (globRuntime glob) "KAFKA_BROKERS"] "localhost:9092") =
          .ok ["localhost:9092"] := by
      have raw : firstText [getStringFlag (globFlags glob) "kafka-brokers",
          getEnvString (globRuntime glob) "KAFKA_BROKERS"] "localhost:9092" = "localhost:9092" := rfl
      rw [raw]
      unfold parseKafkaBrokers
      rw [commaSeparated_broker]
      rfl
    unfold resolveBase
    exact bind_eq_ok.2 ⟨3, rfl, bind_eq_ok.2 ⟨_, brokers,
      bind_eq_ok.2 ⟨"2024-01-01T00:00:00.000Z", rfl, bind_eq_ok.2 ⟨.daily, parseRequestType_daily,
      bind_eq_ok.2 ⟨5, rfl, bind_eq_ok.2 ⟨5, rfl, bind_eq_ok.2 ⟨1200, rfl,
      bind_eq_ok.2 ⟨.codexCli, parseLlmProvider_codexCli, bind_eq_ok.2 ⟨600, rfl, rfl⟩⟩⟩⟩⟩⟩⟩⟩⟩
  have mode : buildQueryConfig (globRuntime glob) (globFlags glob) [2] 7
      defaultCommon.toTriggerBriefConfigBase = .ok (.query defaultCommon (globQuery glob)) := by
    have requested : numberSetting (globRuntime glob) (globFlags glob) "max-events-per-topic"
        "BRIEF_MAX_QUERY_EVENTS_PER_TOPIC"
        (getEnvString (globRuntime glob) "BRIEF_MAX_QUERY_EVENTS_PER_TOPIC") 25 = .ok 25 := by
      rfl
    have strategy : parseEvidenceStrategy (globRuntime glob)
        (firstText [getStringFlag (globFlags glob) "evidence-strategy"] "diversity") =
          .ok .diversity :=
      parseEvidenceStrategy_diversity
    have number : assertPositiveInteger 25 "--max-events-per-topic" = .ok 25 := by
      rfl
    unfold buildQueryConfig
    rw [if_pos (by decide)]
    exact bind_eq_ok.2 ⟨_, resolveQueryTopicGlobs_glob plain, bind_eq_ok.2 ⟨_, requested,
      bind_eq_ok.2 ⟨_, number, bind_eq_ok.2 ⟨_, strategy, rfl⟩⟩⟩⟩
  unfold resolveConfig
  exact bind_eq_ok.2 ⟨.query, rfl, bind_eq_ok.2 ⟨_, windows, bind_eq_ok.2 ⟨numbers, rfl,
    bind_eq_ok.2 ⟨7, rfl, bind_eq_ok.2 ⟨⟨none, none, none⟩, rfl, bind_eq_ok.2 ⟨_, base, mode⟩⟩⟩⟩⟩⟩

theorem build_glob (glob : String) : buildTriggerJobPayload (globRuntime glob).toMessageApi
    Js.plainUrls (.query defaultCommon (globQuery glob)) = .ok (globPayload glob) := by
  rfl

end Glob

theorem delivered_ai :
    Delivered (globRuntime "ai.*") Js.plainUrls (.query defaultCommon (globQuery "ai.*")) ↔
      TakenByService (globRuntime "ai.*") (globFlags "ai.*") := by
  have plain : PlainGlob "ai.*" := ⟨by decide, Js.forall_mem_of_all (by decide)⟩
  refine trigger_delivered_iff (Js.messagesFor_keepsLowerCase _) (messagesFor_readsBack _)
    (resolve_glob plain) ?_
  intro payload built
  rw [build_glob] at built
  obtain rfl := Except.ok.inj built
  exact Js.messagesFor_roundTrips _

/-- A glob of 129 letters. -/
def longGlob : String := String.ofList (List.replicate 129 'a')

theorem longGlob_toList : longGlob.toList = List.replicate 129 'a' := String.toList_ofList

theorem plainGlob_long : PlainGlob longGlob := by
  constructor
  · intro empty
    have letters := longGlob_toList
    rw [empty] at letters
    exact List.cons_ne_nil _ _ letters.symm
  · intro c mem
    rw [longGlob_toList] at mem
    rw [List.eq_of_mem_replicate mem]
    decide

/-- The command resolves the flags, and the service does not get what they say. -/
theorem long_glob_lost :
    resolveConfig (globRuntime longGlob) (globFlags longGlob) =
        .ok (.query defaultCommon (globQuery longGlob)) ∧
      ¬ Delivered (globRuntime longGlob) Js.plainUrls
        (.query defaultCommon (globQuery longGlob)) := by
  refine ⟨resolve_glob plainGlob_long, ?_⟩
  intro delivered
  obtain ⟨payload, request, -, done, agrees⟩ := delivered
  have short : Js.length longGlob ≤ 128 :=
    globs_of_deserialize done agrees.query rfl longGlob List.mem_cons_self
  unfold Js.length at short
  rw [longGlob_toList] at short
  exact absurd short (by decide +kernel)

end RisingIntelligence.OpsCli
