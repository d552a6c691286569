import RisingIntelligence.Brief.SummaryRequest
import RisingIntelligence.OpsCli.FeedConfig
import RisingIntelligence.Pipeline.BriefingHandoff

/-!
# Triggering a brief

`packages/ops-cli/src/commands/brief/trigger.ts`: what `riops brief trigger` makes of its flags, and
the request that it sends.

* `resolveConfig` reads the flags, the environment and the feed configs.
* `buildTriggerJobPayload` makes the summary request of a configuration.
-/

namespace RisingIntelligence.OpsCli

open Brief (EvidenceStrategy LlmProvider SummaryRequestType)
open Js (MessageApi UrlApi)

def BRIEF_SUPPORTED_WINDOWS : List Int := [1, 2, 3]

def BRIEF_QUERY_MODE_WINDOWS : List Int := [2]

def DEFAULT_TIMEOUT_SECONDS : Int := 600

/-! ## Values -/

/-- `a || b || defaultValue` -/
def firstText (candidates : List (Option String)) (defaultValue : String) : String :=
  (candidates.findSome? presentText).getD defaultValue

section Values

variable (runtime : TriggerRuntime)

def parseNumber (rawValue key : String) : Except TriggerError ℚ :=
  match runtime.toNumber rawValue with
  | .number (.finite value) => .ok value
  | _ => .error (.invalidNumber key rawValue)

def getNumberFlag (flags : CliFlags) (name : String) : Except TriggerError (Option ℚ) :=
  (getStringFlag flags name).mapM fun value => parseNumber runtime value ("--" ++ name)

def parseNumberEnv (name : String) (rawValue : Option String) (defaultValue : ℚ) :
    Except TriggerError ℚ :=
  match rawValue with
  | none => .ok defaultValue
  | some rawValue => parseNumber runtime rawValue name

/-- `getNumberFlag(flags, flag) ?? parseNumberEnv(name, rawValue, defaultValue)` -/
def numberSetting (flags : CliFlags) (flag name : String) (rawValue : Option String)
    (defaultValue : ℚ) : Except TriggerError ℚ := do
  let given ← getNumberFlag runtime flags flag
  match given with
  | some value => return value
  | none => parseNumberEnv runtime name rawValue defaultValue

def assertPositiveInteger (value : ℚ) (key : String) : Except TriggerError Int :=
  if value.den = 1 ∧ 0 < value then .ok value.num else .error (.positiveInteger key value)

def assertNonNegative (value : ℚ) (key : String) : Except TriggerError ℚ :=
  if value < 0 then .error (.negative key value) else .ok value

def parseRequestType (rawType : String) : Except TriggerError SummaryRequestType :=
  let normalized := runtime.toLowerCase (Js.trim rawType)
  if normalized = "daily" then .ok .daily
  else if normalized = "threshold" then .ok .threshold
  else .error (.requestType rawType)

def parseWindow (rawValue : String) : Except TriggerError Int :=
  if rawValue = "" ∨ rawValue.toList.all Char.isDigit = false then .error (.windowText rawValue)
  else
    let parsed := runtime.toNumber rawValue
    match BRIEF_SUPPORTED_WINDOWS.find? fun window => parsed = Js.Double.ofInt window with
    | some window => .ok window
    | none => .error (.window parsed)

def parseWindows (rawValue : String) : Except TriggerError (List Int) :=
  let windowTokens := commaSeparated rawValue
  if windowTokens = [] then .error (.windows rawValue)
  else (windowTokens.mapM (parseWindow runtime)).map Js.distinct

def parseIsoDate (rawValue : String) : Except TriggerError String :=
  match runtime.dateOf rawValue with
  | some time => .ok (runtime.toISOString time)
  | none => .error (.invalidDate rawValue)

def parseTopicGlobs (rawValue : String) : Except TriggerError (List String) :=
  let globs := commaSeparated rawValue
  if globs = [] then .error .emptyTopicGlobs else normalizeTopicGlobs globs

def parseEvidenceStrategy (rawValue : String) : Except TriggerError EvidenceStrategy :=
  let normalized := runtime.toLowerCase (Js.trim rawValue)
  if normalized = "diversity" then .ok .diversity
  else if normalized = "recency" then .ok .recency
  else if normalized = "engagement" then .ok .engagement
  else .error (.evidenceStrategy rawValue)

def parseLlmProvider (rawValue : String) : Except TriggerError LlmProvider :=
  let normalized := runtime.toLowerCase (Js.trim rawValue)
  if normalized = "internal" then .ok .internal
  else if normalized = "http" then .ok .http
  else if normalized = "codex-cli" then .ok .codexCli
  else .error (.llmProvider rawValue)

def parseOptionalIsoDate (rawValue : Option String) (flagName : String) :
    Except TriggerError (Option String) :=
  match rawValue.filter fun value => Js.trim value ≠ "" with
  | none => .ok none
  | some rawValue =>
      ((parseIsoDate runtime rawValue).mapError fun _ =>
        TriggerError.invalidDateFlag flagName rawValue).map some

def parseOptionalTimezone (rawValue : Option String) : Except TriggerError (Option String) :=
  match rawValue.filter fun value => Js.trim value ≠ "" with
  | none => .ok none
  | some rawValue =>
      if runtime.isTimeZone (Js.trim rawValue) then .ok (some (Js.trim rawValue))
      else .error (.timezone rawValue)

def parseKafkaBrokers (rawValue : String) : Except TriggerError (List String) :=
  let brokers := commaSeparated rawValue
  if brokers = [] then .error .kafkaBrokers else .ok brokers

def resolveTimeoutSeconds (flags : CliFlags) : Except TriggerError Int :=
  match getStringFlag flags "timeout" with
  | none => .ok DEFAULT_TIMEOUT_SECONDS
  | some rawTimeout => do
      let parsed ← parseNumber runtime rawTimeout "--timeout"
      assertPositiveInteger parsed "--timeout"

end Values

/-! ## The configuration -/

inductive TriggerModeSelection : Type
  | query
  | explicit (topicKey evidenceUrl : String)

structure TriggerBriefConfigBase where
  kafkaBrokers : List String
  kafkaClientId : String
  summaryRequestsTopic : String
  summaryResultsTopic : String
  requestId : String
  requestedAtIso : String
  requestType : SummaryRequestType
  dailyBudgetUsd : ℚ
  maxTopics : Int
  maxEvidencePerTopic : Int
  maxOutputTokens : Int
  reportTimezone : Option String
  reportStartAtIso : Option String
  reportEndAtIso : Option String
  llmProvider : LlmProvider
  dryRun : Bool
  noWait : Bool
  timeoutSeconds : Int

structure TriggerBriefCommonConfig extends TriggerBriefConfigBase where
  windows : List Int
  warnings : List String

structure QueryModeConfig where
  queryLookbackDays : Int
  queryTopicGlobs : List String
  queryMaxEventsPerTopic : Int
  queryEvidenceStrategy : EvidenceStrategy

structure ExplicitModeConfig where
  topicKey : String
  score : ℚ
  volume : ℚ
  acceleration : ℚ
  evidenceUrl : String
  evidenceSource : Js.Keyed CanonicalSource
  evidenceTitle : String
  evidenceExcerpt : String

inductive TriggerBriefConfig : Type
  | query (common : TriggerBriefCommonConfig) (query : QueryModeConfig)
  | explicit (common : TriggerBriefCommonConfig) (explicit : ExplicitModeConfig)

def TriggerBriefConfig.common : TriggerBriefConfig → TriggerBriefCommonConfig
  | .query common _ | .explicit common _ => common

section Config

variable (runtime : TriggerRuntime) (flags : CliFlags)

def resolveMode : Except TriggerError TriggerModeSelection :=
  match presentText ((getStringFlag flags "topic-key").map Js.trim),
      presentText ((getStringFlag flags "evidence-url").map Js.trim) with
  | some topicKey, some evidenceUrl => .ok (.explicit topicKey evidenceUrl)
  | none, none => .ok .query
  | _, _ => .error .explicitMode

/-- The tokens of `--topic-globs`. -/
def resolveExplicitTopicGlobs : Except TriggerError (List String) :=
  match presentText (getStringFlag flags "topic-globs") with
  | none => .ok []
  | some explicitTopicGlobsRaw => parseTopicGlobs explicitTopicGlobsRaw

def feedConfigPaths : List String :=
  ((getRepeatedStringFlag flags "feed-config").map Js.trim).filter (· ≠ "")

/-- The globs of the feed configs, and their warnings. -/
def resolveDerivedTopicGlobs (explicitTopicGlobs : List String) :
    Except TriggerError (List String × List String) :=
  if feedConfigPaths flags = [] then .ok ([], [])
  else do
    let derived ← deriveTopicGlobsFromFeedConfigs runtime (feedConfigPaths flags)
    return (derived.1, if derived.1 = [] ∧ explicitTopicGlobs ≠ [] then derived.2 ++
      ["No topic globs derived from --feed-config files; proceeding with explicit --topic-globs."]
      else derived.2)

/-- The globs and the warnings; without any glob, everything matches. -/
def resolveQueryTopicGlobs : Except TriggerError (List String × List String) := do
  let explicitTopicGlobs ← resolveExplicitTopicGlobs flags
  let derived ← resolveDerivedTopicGlobs runtime flags explicitTopicGlobs
  let merged ← normalizeTopicGlobs (derived.1 ++ explicitTopicGlobs)
  return (if merged = [] then ["*"] else merged, derived.2)

/-- The numbers of the flags and the environment, before they are checked. -/
structure TriggerNumbers where
  dailyBudgetUsd : ℚ
  maxTopics : ℚ
  maxEvidencePerTopic : ℚ
  maxOutputTokens : ℚ
  maxLookbackDays : ℚ
  lookbackDays : ℚ

def readNumbers : Except TriggerError TriggerNumbers := do
  let env := getEnvString runtime
  let dailyBudgetUsd ← numberSetting runtime flags "daily-budget-usd" "BRIEF_DAILY_BUDGET_USD"
    ((presentText (env "BRIEF_DAILY_BUDGET_USD")).orElse fun _ => env "LLM_DAILY_BUDGET_USD") 5
  let maxTopics ←
    numberSetting runtime flags "max-topics" "BRIEF_MAX_TOPICS" (env "BRIEF_MAX_TOPICS") 5
  let maxEvidencePerTopic ← numberSetting runtime flags "max-evidence-per-topic"
    "BRIEF_MAX_EVIDENCE_PER_TOPIC" (env "BRIEF_MAX_EVIDENCE_PER_TOPIC") 3
  let maxOutputTokens ← numberSetting runtime flags "max-output-tokens" "BRIEF_MAX_OUTPUT_TOKENS"
    (env "BRIEF_MAX_OUTPUT_TOKENS") 1200
  let maxLookbackDays ← numberSetting runtime flags "max-lookback-days" "BRIEF_MAX_LOOKBACK_DAYS"
    (env "BRIEF_MAX_LOOKBACK_DAYS") 30
  let lookbackDays ← numberSetting runtime flags "lookback-days" "BRIEF_DEFAULT_LOOKBACK_DAYS"
    (env "BRIEF_DEFAULT_LOOKBACK_DAYS") 7
  return { dailyBudgetUsd, maxTopics, maxEvidencePerTopic, maxOutputTokens, maxLookbackDays,
           lookbackDays }

def resolveLookbackDays (numbers : TriggerNumbers) : Except TriggerError Int := do
  let parsedMaxLookbackDays ← assertPositiveInteger numbers.maxLookbackDays "--max-lookback-days"
  let parsedLookbackDays ← assertPositiveInteger numbers.lookbackDays "--lookback-days"
  if parsedMaxLookbackDays < parsedLookbackDays then
    .error (.lookbackDays parsedLookbackDays parsedMaxLookbackDays)
  else return parsedLookbackDays

structure TriggerReport where
  reportTimezone : Option String
  reportStartAtIso : Option String
  reportEndAtIso : Option String

def checkReportBounds (reportStartAtIso reportEndAtIso : Option String) : Except TriggerError Unit :=
  match reportStartAtIso.bind runtime.dateOf, reportEndAtIso.bind runtime.dateOf with
  | some startAt, some endAt => if endAt < startAt then .error .reportBounds else .ok ()
  | _, _ => .ok ()

def resolveReport : Except TriggerError TriggerReport := do
  let reportTimezone ← parseOptionalTimezone runtime (getStringFlag flags "report-timezone")
  let reportStartAtIso ←
    parseOptionalIsoDate runtime (getStringFlag flags "report-start-at") "--report-start-at"
  let reportEndAtIso ←
    parseOptionalIsoDate runtime (getStringFlag flags "report-end-at") "--report-end-at"
  checkReportBounds runtime reportStartAtIso reportEndAtIso
  return { reportTimezone, reportStartAtIso, reportEndAtIso }

def resolveBase (numbers : TriggerNumbers) (report : TriggerReport) :
    Except TriggerError TriggerBriefConfigBase := do
  let env := getEnvString runtime
  let maxEvidencePerTopic ←
    assertPositiveInteger numbers.maxEvidencePerTopic "--max-evidence-per-topic"
  let kafkaBrokers ← parseKafkaBrokers
    (firstText [getStringFlag flags "kafka-brokers", env "KAFKA_BROKERS"] "localhost:9092")
  let requestedAtIso ← parseIsoDate runtime
    (firstText [getStringFlag flags "requested-at"] (runtime.toISOString runtime.now))
  let requestType ← parseRequestType runtime (firstText [getStringFlag flags "type"] "daily")
  let dailyBudgetUsd ← assertNonNegative numbers.dailyBudgetUsd "--daily-budget-usd"
  let maxTopics ← assertPositiveInteger numbers.maxTopics "--max-topics"
  let maxOutputTokens ← assertPositiveInteger numbers.maxOutputTokens "--max-output-tokens"
  let llmProvider ← parseLlmProvider runtime (firstText
    [getStringFlag flags "llm-provider", env "BRIEF_LLM_PROVIDER", env "LLM_PROVIDER"] "codex-cli")
  let timeoutSeconds ← resolveTimeoutSeconds runtime flags
  return {
    kafkaBrokers
    kafkaClientId := firstText [getStringFlag flags "kafka-client-id"] "riops-brief-trigger"
    summaryRequestsTopic := firstText [getStringFlag flags "summary-requests-topic",
      env "KAFKA_TOPIC_SUMMARY_REQUESTS"] "summary.requests"
    summaryResultsTopic := firstText [getStringFlag flags "summary-results-topic",
      env "KAFKA_TOPIC_SUMMARY_RESULTS"] "summary.results"
    requestId := firstText [getStringFlag flags "request-id"] ("manual-" ++ toString runtime.now)
    requestedAtIso
    requestType
    dailyBudgetUsd
    maxTopics
    maxEvidencePerTopic
    maxOutputTokens
    reportTimezone := report.reportTimezone
    reportStartAtIso := report.reportStartAtIso
    reportEndAtIso := report.reportEndAtIso
    llmProvider
    dryRun := getBooleanFlag flags "dry-run"
    noWait := getBooleanFlag flags "no-wait"
    timeoutSeconds }

/-- `QUERY_TRIGGER_MODE_STRATEGY` -/
def buildQueryConfig (parsedWindows : List Int) (parsedLookbackDays : Int)
    (baseConfig : TriggerBriefConfigBase) : Except TriggerError TriggerBriefConfig := do
  if BRIEF_QUERY_MODE_WINDOWS.all fun window => parsedWindows.contains window then
    let resolution ← resolveQueryTopicGlobs runtime flags
    let requested ← numberSetting runtime flags "max-events-per-topic"
      "BRIEF_MAX_QUERY_EVENTS_PER_TOPIC" (getEnvString runtime "BRIEF_MAX_QUERY_EVENTS_PER_TOPIC") 25
    let requestedQueryMaxEvents ← assertPositiveInteger requested "--max-events-per-topic"
    let queryEvidenceStrategy ← parseEvidenceStrategy runtime
      (firstText [getStringFlag flags "evidence-strategy"] "diversity")
    return .query
      { baseConfig with windows := BRIEF_QUERY_MODE_WINDOWS, warnings := resolution.2 }
      { queryLookbackDays := parsedLookbackDays
        queryTopicGlobs := resolution.1
        queryMaxEventsPerTopic := min requestedQueryMaxEvents baseConfig.maxEvidencePerTopic
        queryEvidenceStrategy }
  else .error .queryWindows

/-- The text of `--evidence-source`. -/
def evidenceSourceRaw : String := firstText [getStringFlag flags "evidence-source"] "rss"

/-- `EXPLICIT_TRIGGER_MODE_STRATEGY` -/
def buildExplicitConfig (topicKey evidenceUrl : String) (parsedWindows : List Int)
    (baseConfig : TriggerBriefConfigBase) : Except TriggerError TriggerBriefConfig := do
  let score ← getNumberFlag runtime flags "score"
  let volume ← getNumberFlag runtime flags "volume"
  let acceleration ← getNumberFlag runtime flags "acceleration"
  let score ← assertNonNegative (score.getD 8.5) "--score"
  let volume ← assertNonNegative (volume.getD 100) "--volume"
  let evidenceSource ← (parseCanonicalSource runtime.toLowerCase (.inr (evidenceSourceRaw flags))).mapError
    TriggerError.source
  return .explicit { baseConfig with windows := parsedWindows, warnings := [] }
    { topicKey
      score
      volume
      acceleration := acceleration.getD 0.4
      evidenceUrl
      evidenceSource
      evidenceTitle :=
        firstText [getStringFlag flags "evidence-title"] "Manual summary request trigger"
      evidenceExcerpt := firstText [getStringFlag flags "evidence-excerpt"]
        "Manual summary request trigger generated via riops." }

/-- `TriggerBriefConfigBuilder.build` -/
def resolveConfig : Except TriggerError TriggerBriefConfig := do
  let modeSelection ← resolveMode flags
  let parsedWindows ← parseWindows runtime (firstText [getStringFlag flags "windows"] "2")
  let numbers ← readNumbers runtime flags
  let parsedLookbackDays ← resolveLookbackDays numbers
  let report ← resolveReport runtime flags
  let baseConfig ← resolveBase runtime flags numbers report
  match modeSelection with
  | .query => buildQueryConfig runtime flags parsedWindows parsedLookbackDays baseConfig
  | .explicit topicKey evidenceUrl =>
      buildExplicitConfig runtime flags topicKey evidenceUrl parsedWindows baseConfig

end Config

/-! ## The payload -/

/-- What building the payload throws. -/
inductive TriggerPayloadError : Type
  | handoff (error : BriefingHandoffError)
  /-- A `TypeError`: what was inherited for a source is no text. -/
  | inheritedSource (key : String)

def TriggerBriefConfigBase.report (config : TriggerBriefConfigBase) :
    Option SummaryRequestReportInput :=
  if config.reportTimezone = none ∧ config.reportStartAtIso = none ∧ config.reportEndAtIso = none then
    none
  else some {
    timezone := config.reportTimezone
    startAt := config.reportStartAtIso.map .text
    endAt := config.reportEndAtIso.map .text }

def TriggerBriefCommonConfig.commonInput (config : TriggerBriefCommonConfig) : BriefingJobInput where
  requestId := config.requestId
  requestedAt := .text config.requestedAtIso
  type := config.requestType
  windows := config.windows.map Js.Double.ofInt
  topics := []
  budget := some {
    dailyBudgetUsd := some (.number (.finite config.dailyBudgetUsd))
    maxTopics := some (.ofInt config.maxTopics)
    maxEvidencePerTopic := some (.ofInt config.maxEvidencePerTopic)
    maxOutputTokens := some (.ofInt config.maxOutputTokens) }
  report := config.report
  llmProvider := some config.llmProvider

def queryInput (config : TriggerBriefCommonConfig) (query : QueryModeConfig) : BriefingJobInput :=
  { config.commonInput with
    query := some {
      lookbackDays := some (.ofInt query.queryLookbackDays)
      topicGlobs := some query.queryTopicGlobs
      maxEventsPerTopic := some (.ofInt query.queryMaxEventsPerTopic)
      evidenceStrategy := some query.queryEvidenceStrategy } }

def primaryWindow (config : TriggerBriefCommonConfig) : Int :=
  if 2 ∈ config.windows then 2 else config.windows.headD 0

/-- With the source that the text was parsed to. -/
def explicitInput (config : TriggerBriefCommonConfig) (explicit : ExplicitModeConfig)
    (source : CanonicalSource) : BriefingJobInput :=
  { config.commonInput with
    topics := [
      { topic := explicit.topicKey
        metrics := [
          { topic := explicit.topicKey
            window := .ofInt (primaryWindow config)
            score := .number (.finite explicit.score)
            volume := .number (.finite explicit.volume)
            acceleration := .number (.finite explicit.acceleration) }]
        evidence := [
          { eventId := config.requestId ++ "-event-1"
            source := .inr source.name
            url := some explicit.evidenceUrl
            title := some explicit.evidenceTitle
            publishedAt := some (.text config.requestedAtIso)
            fetchedAt := some (.text config.requestedAtIso)
            textExcerpt := some explicit.evidenceExcerpt }] }] }

def buildTriggerJobPayload (api : MessageApi) (urls : UrlApi) :
    TriggerBriefConfig → Except TriggerPayloadError BriefingJobPayload
  | .query config query =>
      (createBriefingJobPayload api urls (queryInput config query)).mapError .handoff
  | .explicit config explicit =>
      match explicit.evidenceSource with
      | .inherited key => .error (.inheritedSource key)
      | .own source =>
          (createBriefingJobPayload api urls (explicitInput config explicit source)).mapError .handoff

end RisingIntelligence.OpsCli
