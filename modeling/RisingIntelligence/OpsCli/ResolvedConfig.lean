import RisingIntelligence.Brief.WellTyped
import RisingIntelligence.OpsCli.BriefTrigger

/-!
# Resolved configurations

What holds of a configuration that `resolveConfig` returns: `resolved_of_ok`, from one lemma for each
of the readers.
-/

namespace RisingIntelligence.OpsCli

open Brief (OwnName)
open Js (MessageApi)

/-- A date in the form that `toISOString` gives to one that was read. -/
def IsoDate (api : MessageApi) (iso : String) : Prop :=
  ∃ text time, api.dateOf text = some time ∧ iso = api.toISOString time

structure ResolvedBase (runtime : TriggerRuntime) (config : TriggerBriefConfigBase) : Prop where
  requestId : config.requestId ≠ ""
  requestedAt : IsoDate runtime.toMessageApi config.requestedAtIso
  dailyBudgetUsd : 0 ≤ config.dailyBudgetUsd
  maxTopics : 0 < config.maxTopics
  maxEvidencePerTopic : 0 < config.maxEvidencePerTopic
  maxOutputTokens : 0 < config.maxOutputTokens
  timezone : ∀ zone, config.reportTimezone = some zone →
    Js.trim zone = zone ∧ zone ≠ "" ∧ runtime.isTimeZone zone = true
  startAt : ∀ iso, config.reportStartAtIso = some iso → IsoDate runtime.toMessageApi iso
  endAt : ∀ iso, config.reportEndAtIso = some iso → IsoDate runtime.toMessageApi iso
  bounds : ∀ startAt endAt, config.reportStartAtIso.bind runtime.dateOf = some startAt →
    config.reportEndAtIso.bind runtime.dateOf = some endAt → startAt ≤ endAt

structure ResolvedCommon (runtime : TriggerRuntime) (config : TriggerBriefCommonConfig) : Prop where
  base : ResolvedBase runtime config.toTriggerBriefConfigBase
  windows : ∀ window ∈ config.windows, window ∈ BRIEF_SUPPORTED_WINDOWS
  some : config.windows ≠ []

structure ResolvedGlobs (globs : List String) : Prop where
  valid : ∀ glob ∈ globs, Js.trim glob = glob ∧ glob ≠ "" ∧ glob.toList.all isTopicGlobChar = true
  nodup : globs.Nodup
  some : globs ≠ []

structure ResolvedQuery (query : QueryModeConfig) : Prop where
  lookbackDays : 0 < query.queryLookbackDays
  maxEventsPerTopic : 0 < query.queryMaxEventsPerTopic
  globs : ResolvedGlobs query.queryTopicGlobs

structure ResolvedExplicit (explicit : ExplicitModeConfig) : Prop where
  trimmed : Js.trim explicit.topicKey = explicit.topicKey
  named : explicit.topicKey ≠ ""

/-! ## Values -/

section Values

variable {runtime : TriggerRuntime} {flags : CliFlags}

theorem firstText_ne {candidates : List (Option String)} {defaultValue : String}
    (nonempty : defaultValue ≠ "") : firstText candidates defaultValue ≠ "" := by
  unfold firstText
  cases found : candidates.findSome? presentText with
  | none => exact nonempty
  | some text =>
      obtain ⟨candidate, -, present⟩ := List.exists_of_findSome?_eq_some found
      exact of_decide_eq_true (Option.filter_eq_some_iff.1 present).2

theorem positive_of_assert {value : ℚ} {key : String} {result : Int}
    (asserted : assertPositiveInteger value key = .ok result) : 0 < result := by
  unfold assertPositiveInteger at asserted
  split at asserted
  · rename_i positive
    obtain rfl := Except.ok.inj asserted
    exact Rat.num_pos.2 positive.2
  · cases asserted

theorem nonneg_of_assert {value result : ℚ} {key : String}
    (asserted : assertNonNegative value key = .ok result) : 0 ≤ result := by
  unfold assertNonNegative at asserted
  split at asserted
  · cases asserted
  · rename_i nonneg
    obtain rfl := Except.ok.inj asserted
    exact not_lt.1 nonneg

theorem window_of_parse {rawValue : String} {window : Int}
    (parsed : parseWindow runtime rawValue = .ok window) : window ∈ BRIEF_SUPPORTED_WINDOWS := by
  unfold parseWindow at parsed
  split at parsed
  · cases parsed
  · dsimp only at parsed
    split at parsed
    · rename_i found
      obtain rfl := Except.ok.inj parsed
      exact List.mem_of_find?_eq_some found
    · cases parsed

theorem windows_of_parse {rawValue : String} {windows : List Int}
    (parsed : parseWindows runtime rawValue = .ok windows) :
    windows ≠ [] ∧ ∀ window ∈ windows, window ∈ BRIEF_SUPPORTED_WINDOWS := by
  unfold parseWindows at parsed
  dsimp only at parsed
  split at parsed
  · cases parsed
  · rename_i tokens
    obtain ⟨read, each, rfl⟩ := map_eq_ok.1 parsed
    have pairs := mapM_eq_ok.1 each
    constructor
    · rw [ne_eq, Js.distinct_eq_nil]
      rintro rfl
      exact tokens (List.forall₂_nil_right_iff.1 pairs)
    · intro window mem
      rw [Js.mem_distinct] at mem
      exact (forall_mem_iff_of_forall₂ (P := fun _ => True) pairs
        fun _ _ done => iff_of_true trivial (window_of_parse done)).2 (fun _ _ => trivial) window mem

theorem isoDate_of_parse {rawValue iso : String} (parsed : parseIsoDate runtime rawValue = .ok iso) :
    IsoDate runtime.toMessageApi iso := by
  unfold parseIsoDate at parsed
  split at parsed
  · rename_i time read
    exact ⟨rawValue, time, read, (Except.ok.inj parsed).symm⟩
  · cases parsed

theorem isoDate_of_parseOptional {rawValue parsed : Option String} {flagName : String}
    (done : parseOptionalIsoDate runtime rawValue flagName = .ok parsed) :
    ∀ iso, parsed = some iso → IsoDate runtime.toMessageApi iso := by
  intro iso present
  unfold parseOptionalIsoDate at done
  split at done
  · rw [← Except.ok.inj done] at present
    cases present
  · obtain ⟨written, read, same⟩ := map_eq_ok.1 done
    rw [← same] at present
    exact Option.some.inj present ▸ isoDate_of_parse (mapError_eq_ok.1 read)

theorem timezone_of_parse {rawValue parsed : Option String}
    (done : parseOptionalTimezone runtime rawValue = .ok parsed) :
    ∀ zone, parsed = some zone →
      Js.trim zone = zone ∧ zone ≠ "" ∧ runtime.isTimeZone zone = true := by
  intro zone present
  unfold parseOptionalTimezone at done
  split at done
  · rw [← Except.ok.inj done] at present
    cases present
  · rename_i text nonblank
    split at done
    · rename_i known
      rw [← Except.ok.inj done] at present
      obtain rfl := Option.some.inj present
      exact ⟨Js.trim_trim text, of_decide_eq_true (Option.filter_eq_some_iff.1 nonblank).2, known⟩
    · cases done

theorem bounds_of_check {reportStartAtIso reportEndAtIso : Option String}
    (checked : checkReportBounds runtime reportStartAtIso reportEndAtIso = .ok ()) :
    ∀ startAt endAt, reportStartAtIso.bind runtime.dateOf = some startAt →
      reportEndAtIso.bind runtime.dateOf = some endAt → startAt ≤ endAt := by
  intro startAt endAt started ended
  unfold checkReportBounds at checked
  rw [started, ended] at checked
  dsimp only at checked
  split at checked
  · cases checked
  · rename_i ordered
    exact Int.not_lt.1 ordered

end Values

/-! ## The parts of a configuration -/

section Parts

variable {runtime : TriggerRuntime} {flags : CliFlags} {numbers : TriggerNumbers}
  {report : TriggerReport} {baseConfig : TriggerBriefConfigBase}

/-- The hints of a report that was resolved. -/
structure ResolvedReport (runtime : TriggerRuntime) (report : TriggerReport) : Prop where
  timezone : ∀ zone, report.reportTimezone = some zone →
    Js.trim zone = zone ∧ zone ≠ "" ∧ runtime.isTimeZone zone = true
  startAt : ∀ iso, report.reportStartAtIso = some iso → IsoDate runtime.toMessageApi iso
  endAt : ∀ iso, report.reportEndAtIso = some iso → IsoDate runtime.toMessageApi iso
  bounds : ∀ startAt endAt, report.reportStartAtIso.bind runtime.dateOf = some startAt →
    report.reportEndAtIso.bind runtime.dateOf = some endAt → startAt ≤ endAt

theorem report_of_resolve (resolved : resolveReport runtime flags = .ok report) :
    ResolvedReport runtime report := by
  obtain ⟨timezone, zone, resolved⟩ := bind_eq_ok.1 resolved
  obtain ⟨startAt, start, resolved⟩ := bind_eq_ok.1 resolved
  obtain ⟨endAt, stop, resolved⟩ := bind_eq_ok.1 resolved
  obtain ⟨_, checked, same⟩ := bind_eq_ok.1 resolved
  obtain rfl := Except.ok.inj same
  exact ⟨timezone_of_parse zone, isoDate_of_parseOptional start, isoDate_of_parseOptional stop,
    bounds_of_check checked⟩

theorem base_of_resolve (hints : ResolvedReport runtime report)
    (resolved : resolveBase runtime flags numbers report = .ok baseConfig) :
    ResolvedBase runtime baseConfig := by
  obtain ⟨maxEvidencePerTopic, evidence, resolved⟩ := bind_eq_ok.1 resolved
  obtain ⟨kafkaBrokers, -, resolved⟩ := bind_eq_ok.1 resolved
  obtain ⟨requestedAtIso, requested, resolved⟩ := bind_eq_ok.1 resolved
  obtain ⟨requestType, -, resolved⟩ := bind_eq_ok.1 resolved
  obtain ⟨dailyBudgetUsd, budget, resolved⟩ := bind_eq_ok.1 resolved
  obtain ⟨maxTopics, topics, resolved⟩ := bind_eq_ok.1 resolved
  obtain ⟨maxOutputTokens, tokens, resolved⟩ := bind_eq_ok.1 resolved
  obtain ⟨llmProvider, -, resolved⟩ := bind_eq_ok.1 resolved
  obtain ⟨timeoutSeconds, -, same⟩ := bind_eq_ok.1 resolved
  obtain rfl := Except.ok.inj same
  constructor
  case requestId =>
    apply firstText_ne
    intro empty
    have manual := congrArg String.toList empty
    rw [String.toList_append] at manual
    cases manual
  case requestedAt => exact isoDate_of_parse requested
  case dailyBudgetUsd => exact nonneg_of_assert budget
  case maxTopics => exact positive_of_assert topics
  case maxEvidencePerTopic => exact positive_of_assert evidence
  case maxOutputTokens => exact positive_of_assert tokens
  case timezone => exact hints.timezone
  case startAt => exact hints.startAt
  case endAt => exact hints.endAt
  case bounds => exact hints.bounds

theorem lookback_of_resolve {lookbackDays : Int}
    (resolved : resolveLookbackDays numbers = .ok lookbackDays) : 0 < lookbackDays := by
  obtain ⟨most, -, resolved⟩ := bind_eq_ok.1 resolved
  obtain ⟨days, positive, resolved⟩ := bind_eq_ok.1 resolved
  split at resolved
  · cases resolved
  · obtain rfl := Except.ok.inj resolved
    exact positive_of_assert positive

end Parts

/-! ## Topic globs -/

section Globs

variable {runtime : TriggerRuntime} {flags : CliFlags}

/-- The globs that the flags and the feed configs name. -/
def namedTopicGlobs (runtime : TriggerRuntime) (flags : CliFlags) : List String :=
  (match collectTopics runtime (feedConfigPaths flags) with
    | .ok collection => collection.topics
    | .error _ => []) ++
  ((presentText (getStringFlag flags "topic-globs")).map commaSeparated).getD []

theorem mem_explicitTopicGlobs {globs : List String}
    (resolved : resolveExplicitTopicGlobs flags = .ok globs) (glob : String) :
    glob ∈ globs ↔
      Names (((presentText (getStringFlag flags "topic-globs")).map commaSeparated).getD []) glob := by
  unfold resolveExplicitTopicGlobs at resolved
  split at resolved
  · rename_i absent
    obtain rfl := Except.ok.inj resolved
    rw [absent]
    simp [Names]
  · rename_i raw present
    unfold parseTopicGlobs at resolved
    dsimp only at resolved
    split at resolved
    · cases resolved
    · rw [present]
      exact mem_normalizeTopicGlobs resolved

theorem mem_derivedTopicGlobs {explicitTopicGlobs : List String} {derived : List String × List String}
    (resolved : resolveDerivedTopicGlobs runtime flags explicitTopicGlobs = .ok derived) :
    ∃ collection, collectTopics runtime (feedConfigPaths flags) = .ok collection ∧
      ∀ glob, glob ∈ derived.1 ↔ Names collection.topics glob := by
  unfold resolveDerivedTopicGlobs at resolved
  split at resolved
  · rename_i none
    obtain rfl := Except.ok.inj resolved
    refine ⟨⟨[], []⟩, ?_, ?_⟩
    · rw [none]
      rfl
    · simp [Names]
  · obtain ⟨found, derive, same⟩ := bind_eq_ok.1 resolved
    obtain rfl := Except.ok.inj same
    obtain ⟨collection, collected, derive⟩ := bind_eq_ok.1 derive
    obtain ⟨topicGlobs, normalized, same⟩ := bind_eq_ok.1 derive
    obtain rfl := Except.ok.inj same
    exact ⟨collection, collected, fun _ => mem_normalizeTopicGlobs normalized⟩

theorem resolvedGlobs_star : ResolvedGlobs ["*"] := by
  constructor
  case valid =>
    intro glob mem
    rw [List.mem_singleton.1 mem]
    decide
  case nodup => exact List.nodup_singleton _
  case some => exact List.cons_ne_nil _ _

/-- What the query asks for is what is named, or everything if nothing is. -/
theorem globs_of_resolve {resolution : List String × List String}
    (resolved : resolveQueryTopicGlobs runtime flags = .ok resolution) :
    ResolvedGlobs resolution.1 ∧
      ((∀ glob ∈ resolution.1, Js.length glob ≤ 128) ↔
        ∀ given ∈ namedTopicGlobs runtime flags, Js.length (Js.trim given) ≤ 128) := by
  obtain ⟨explicitTopicGlobs, explicitly, resolved⟩ := bind_eq_ok.1 resolved
  obtain ⟨derived, derive, resolved⟩ := bind_eq_ok.1 resolved
  obtain ⟨merged, normalized, same⟩ := bind_eq_ok.1 resolved
  obtain rfl := Except.ok.inj same
  have named : ∀ glob, glob ∈ merged ↔ Names (namedTopicGlobs runtime flags) glob := by
    intro glob
    obtain ⟨collection, collected, found⟩ := mem_derivedTopicGlobs derive
    unfold namedTopicGlobs
    rw [mem_normalizeTopicGlobs normalized, names_append, names_of_mem_iff found,
      names_of_mem_iff (mem_explicitTopicGlobs explicitly), names_append, collected]
  have short : (∀ glob ∈ merged, Js.length glob ≤ 128) ↔
      ∀ given ∈ namedTopicGlobs runtime flags, Js.length (Js.trim given) ≤ 128 := by
    constructor
    · intro short given mem
      by_cases blank : Js.trim given = ""
      · rw [blank]
        decide
      · exact short _ ((named _).2 ⟨blank, given, mem, rfl⟩)
    · intro short glob mem
      obtain ⟨-, given, there, rfl⟩ := (named glob).1 mem
      exact short given there
  dsimp only
  by_cases none : merged = []
  · rw [if_pos none]
    refine ⟨resolvedGlobs_star, ?_⟩
    rw [none] at short
    rw [← short]
    refine iff_of_true ?_ nofun
    intro glob mem
    rw [List.mem_singleton.1 mem]
    decide
  · rw [if_neg none]
    obtain ⟨same, valid⟩ := normalizeTopicGlobs_eq_ok normalized
    exact ⟨⟨valid, same ▸ Js.nodup_distinct _, none⟩, short⟩

end Globs

/-! ## Configurations -/

section Config

variable {runtime : TriggerRuntime} {flags : CliFlags} {config : TriggerBriefConfig}
  {baseConfig : TriggerBriefConfigBase} {parsedWindows : List Int}

def Resolved (runtime : TriggerRuntime) : TriggerBriefConfig → Prop
  | .query common query => ResolvedCommon runtime common ∧ ResolvedQuery query
  | .explicit common explicit => ResolvedCommon runtime common ∧ ResolvedExplicit explicit

/-- What the service takes of a configuration. -/
def Deliverable : TriggerBriefConfig → Prop
  | .query _ query => ∀ glob ∈ query.queryTopicGlobs, Js.length glob ≤ 128
  | .explicit _ explicit => ∃ source, explicit.evidenceSource = .own source

/-- The number of a source is no name that every object inherits. -/
theorem ownName_of_number (lower : runtime.KeepsLowerCase) {raw : String} {number : Int}
    {source : Js.Keyed CanonicalSource} (numeral : toString number = Js.trim raw)
    (parsed : parseSourceNumber number = .ok source) : OwnName runtime.toMessageApi raw := by
  unfold parseSourceNumber at parsed
  split at parsed
  · rename_i known found
    obtain ⟨before, after, same, -⟩ := List.lookup_eq_some_iff.1 found
    have listed : (number, known) ∈ sourceEnumToKey := by
      rw [same]
      simp
    have each : ∀ entry ∈ sourceEnumToKey, ((toString entry.1).toList.all fun c =>
        decide (c.toNat < 128 ∧ c.isUpper = false)) = true ∧ toString entry.1 ∉ Js.prototypeKeys := by
      decide
    obtain ⟨plain, fresh⟩ := each _ listed
    unfold OwnName
    rw [← numeral, lower _ (Js.forall_mem_of_all plain)]
    exact fresh
  · cases parsed

theorem source_own_iff (lower : runtime.KeepsLowerCase) {raw : String}
    {source : Js.Keyed CanonicalSource}
    (parsed : parseCanonicalSource runtime.toLowerCase (.inr raw) = .ok source) :
    (∃ known, source = .own known) ↔ OwnName runtime.toMessageApi raw := by
  unfold parseCanonicalSource at parsed
  dsimp only at parsed
  split at parsed
  · rename_i number numeral
    have same := of_decide_eq_true (Option.filter_eq_some_iff.1 numeral).2
    refine iff_of_true ?_ (ownName_of_number lower same parsed)
    unfold parseSourceNumber at parsed
    split at parsed
    · exact ⟨_, (Except.ok.inj parsed).symm⟩
    · cases parsed
  · split at parsed
    · rename_i answer
      obtain rfl := Except.ok.inj parsed
      have apart : ∀ entry ∈ sourceAliasToKey, entry.1 ∉ Js.prototypeKeys := by decide
      exact Js.lookup_own_iff apart answer
    · cases parsed

theorem query_of_build (base : ResolvedBase runtime baseConfig) {lookbackDays : Int}
    (positive : 0 < lookbackDays)
    (built : buildQueryConfig runtime flags parsedWindows lookbackDays baseConfig = .ok config) :
    Resolved runtime config ∧ (Deliverable config ↔
      ∀ given ∈ namedTopicGlobs runtime flags, Js.length (Js.trim given) ≤ 128) := by
  unfold buildQueryConfig at built
  split at built
  · obtain ⟨resolution, resolved, built⟩ := bind_eq_ok.1 built
    obtain ⟨requested, -, built⟩ := bind_eq_ok.1 built
    obtain ⟨requestedQueryMaxEvents, events, built⟩ := bind_eq_ok.1 built
    obtain ⟨queryEvidenceStrategy, -, same⟩ := bind_eq_ok.1 built
    obtain rfl := Except.ok.inj same
    obtain ⟨globs, short⟩ := globs_of_resolve resolved
    have windows : ∀ window ∈ BRIEF_QUERY_MODE_WINDOWS, window ∈ BRIEF_SUPPORTED_WINDOWS := by decide
    refine ⟨⟨⟨base, windows, List.cons_ne_nil _ _⟩, positive, ?_, globs⟩, short⟩
    exact lt_min (positive_of_assert events) base.maxEvidencePerTopic
  · cases built

theorem explicit_of_build (lower : runtime.KeepsLowerCase) (base : ResolvedBase runtime baseConfig)
    (supported : ∀ window ∈ parsedWindows, window ∈ BRIEF_SUPPORTED_WINDOWS)
    (some : parsedWindows ≠ []) {topicKey evidenceUrl : String}
    (trimmed : Js.trim topicKey = topicKey) (named : topicKey ≠ "")
    (built : buildExplicitConfig runtime flags topicKey evidenceUrl parsedWindows baseConfig =
      .ok config) :
    Resolved runtime config ∧
      (Deliverable config ↔ OwnName runtime.toMessageApi (evidenceSourceRaw flags)) := by
  obtain ⟨score, -, built⟩ := bind_eq_ok.1 built
  obtain ⟨volume, -, built⟩ := bind_eq_ok.1 built
  obtain ⟨acceleration, -, built⟩ := bind_eq_ok.1 built
  obtain ⟨score, -, built⟩ := bind_eq_ok.1 built
  obtain ⟨volume, -, built⟩ := bind_eq_ok.1 built
  obtain ⟨evidenceSource, source, same⟩ := bind_eq_ok.1 built
  obtain rfl := Except.ok.inj same
  exact ⟨⟨⟨base, supported, some⟩, trimmed, named⟩, source_own_iff lower (mapError_eq_ok.1 source)⟩

/-- The service takes what is named: the globs in query mode, the source of the evidence in explicit
mode. -/
def TakenByService (runtime : TriggerRuntime) (flags : CliFlags) : Prop :=
  match resolveMode flags with
  | .ok .query => ∀ given ∈ namedTopicGlobs runtime flags, Js.length (Js.trim given) ≤ 128
  | .ok (.explicit _ _) => OwnName runtime.toMessageApi (evidenceSourceRaw flags)
  | .error _ => True

theorem topicKey_of_resolveMode {topicKey evidenceUrl : String}
    (resolved : resolveMode flags = .ok (.explicit topicKey evidenceUrl)) :
    Js.trim topicKey = topicKey ∧ topicKey ≠ "" := by
  unfold resolveMode at resolved
  split at resolved
  · rename_i key url present _
    obtain ⟨rfl, -⟩ := TriggerModeSelection.explicit.inj (Except.ok.inj resolved)
    obtain ⟨given, nonempty⟩ := Option.filter_eq_some_iff.1 present
    obtain ⟨text, -, rfl⟩ := Option.map_eq_some_iff.1 given
    exact ⟨Js.trim_trim text, of_decide_eq_true nonempty⟩
  · cases resolved
  · cases resolved

theorem resolved_of_ok (lower : runtime.KeepsLowerCase)
    (resolved : resolveConfig runtime flags = .ok config) :
    Resolved runtime config ∧ (Deliverable config ↔ TakenByService runtime flags) := by
  obtain ⟨modeSelection, mode, resolved⟩ := bind_eq_ok.1 resolved
  obtain ⟨parsedWindows, windows, resolved⟩ := bind_eq_ok.1 resolved
  obtain ⟨numbers, -, resolved⟩ := bind_eq_ok.1 resolved
  obtain ⟨lookbackDays, days, resolved⟩ := bind_eq_ok.1 resolved
  obtain ⟨report, hints, resolved⟩ := bind_eq_ok.1 resolved
  obtain ⟨baseConfig, based, resolved⟩ := bind_eq_ok.1 resolved
  have base := base_of_resolve (report_of_resolve hints) based
  unfold TakenByService
  rw [mode]
  cases modeSelection with
  | query => exact query_of_build base (lookback_of_resolve days) resolved
  | explicit topicKey evidenceUrl =>
      obtain ⟨some, supported⟩ := windows_of_parse windows
      obtain ⟨trimmed, named⟩ := topicKey_of_resolveMode mode
      exact explicit_of_build lower base supported some trimmed named resolved

end Config

end RisingIntelligence.OpsCli
