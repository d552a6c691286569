import RisingIntelligence.Shared.JsArray
import RisingIntelligence.Shared.JsString
import RisingIntelligence.Shared.Message
import RisingIntelligence.Shared.Pattern
import RisingIntelligence.Shared.Url

/-!
# Enrichment of raw events

`packages/pipeline/src/hydration/raw-event-enrichment.ts`: what is cleaned up and inferred before an
event is stored, and again when a stored event is enriched.

* `normalizeUrl` and `normalizeText` clean up and report what they found.
* The language and the topics are inferred where the event has none.
* `RiQualityMetadata` records all of it in the source meta of the event.
-/

namespace RisingIntelligence.Enrichment

open Js (Pattern Json)

/-! ## The runtime -/

/-- What is used of `URL` beside its other getters and setters, and of numbers. -/
structure EnrichmentApi extends Js.UrlApi where
  hash : Url → String
  /-- `[...url.searchParams.keys()]` -/
  searchKeys : Url → List String
  deleteSearchParam : String → Url → Url
  sortSearchParams : Url → Url
  /-- `Number((ms / (60 * 60 * 1000)).toFixed(2))` -/
  hoursOf : Int → ℚ

variable (api : EnrichmentApi)

def STALE_EVENT_THRESHOLD_MS : Int := 30 * 24 * 60 * 60 * 1000

def MAX_INFERRED_TOPICS : Nat := 5

def TRACKING_QUERY_PARAM_KEYS : List String :=
  ["fbclid", "gclid", "dclid", "msclkid", "igshid", "mc_cid", "mc_eid", "ref_src"]

def ENGLISH_STOPWORDS : List String :=
  ["the", "and", "for", "with", "from", "that", "this", "are", "was", "were", "have", "has",
    "will", "into", "about", "over", "more", "new", "than"]

/-! ## Tags -/

def normalizeTagList (tags : List String) : List String :=
  Js.distinct ((tags.map Js.trim).filter (· ≠ ""))

/-! ## URLs -/

def isTrackingParamKey (key : String) : Bool :=
  let normalized := api.toLowerCase key
  Js.startsWith normalized "utm_" || TRACKING_QUERY_PARAM_KEYS.contains normalized

def isSlugChar (c : Char) : Bool := c.isAlphanum || c == '-'

/-- `/(\.com)(about-[a-z0-9-]+\/)/i` -/
def knownTypo : Pattern :=
  .seq (.word ".com") (.seq (.word "about-")
    (.seq (.oneOrMore isSlugChar) (.char fun c => c == '/')))

/-- Puts the slash behind `.com`, `left` characters ahead.  Matches never overlap, as only their
first character is a dot. -/
def repairFrom : Nat → List Char → List Char
  | _, [] => []
  | 0, c :: rest =>
      if (knownTypo.rests (c :: rest)).isEmpty then c :: repairFrom 0 rest
      else c :: repairFrom 3 rest
  | left + 1, c :: rest =>
      if left = 0 then c :: '/' :: repairFrom 0 rest else c :: repairFrom left rest

def repairKnownUrlTypos (raw : String) : String := String.ofList (repairFrom 0 raw.toList)

@[ext]
structure UrlNormalizationResult where
  normalizedUrl : Option String
  normalized : Bool
  invalid : Bool
  originalUrl : Option String
  issueCodes : List String
  deriving DecidableEq

/-- The result for a URL that is given up, with the issue that was found last. -/
def invalidUrl (rawUrl : String) (issueCodes : List String) : UrlNormalizationResult where
  normalizedUrl := none
  normalized := false
  invalid := true
  originalUrl := some rawUrl
  issueCodes := issueCodes

/-- A step of the clean-up: what it makes of the URL, and the issues it adds. -/
abbrev CleanUp : Type := api.Url → api.Url × List String

def lowerHostname : CleanUp api := fun parsed =>
  (api.setHostname (api.toLowerCase (api.hostname parsed)) parsed, [])

def stripWww : CleanUp api := fun parsed =>
  if Js.startsWith (api.hostname parsed) "www." then
    (api.setHostname (String.ofList ((api.hostname parsed).toList.drop 4)) parsed,
      ["stripped_www_prefix"])
  else (parsed, [])

def removeDefaultPort : CleanUp api := fun parsed =>
  if (api.port parsed == "80" && api.protocol parsed == "http:") ||
      (api.port parsed == "443" && api.protocol parsed == "https:") then
    (api.setPort "" parsed, ["removed_default_port"])
  else (parsed, [])

def removeTrackingParams : CleanUp api := fun parsed =>
  let tracking := (api.searchKeys parsed).filter (isTrackingParamKey api)
  (api.sortSearchParams (tracking.foldl (fun parsed key => api.deleteSearchParam key parsed) parsed),
    if tracking = [] then [] else ["removed_tracking_query_params"])

def removeFragment : CleanUp api := fun parsed =>
  if api.hash parsed ≠ "" then (api.setHash "" parsed, ["removed_fragment"]) else (parsed, [])

def trimTrailingSlash : CleanUp api := fun parsed =>
  let pathname := api.pathname parsed
  if pathname ≠ "/" ∧ Js.endsWith pathname "/" = true then
    (api.setPathname (String.ofList (pathname.toList.rdropWhile (· == '/'))) parsed,
      ["trimmed_trailing_slash"])
  else (parsed, [])

def noteHostname (originalHost : String) : CleanUp api := fun parsed =>
  (parsed, if originalHost ≠ api.hostname parsed then ["normalized_hostname"] else [])

def runCleanUps : List (CleanUp api) → api.Url → api.Url × List String
  | [], parsed => (parsed, [])
  | step :: rest, parsed =>
      let (parsed, issueCodes) := step parsed
      let (parsed, later) := runCleanUps rest parsed
      (parsed, issueCodes ++ later)

def cleanUps (originalHost : String) : List (CleanUp api) :=
  [lowerHostname api, stripWww api, removeDefaultPort api, removeTrackingParams api,
    removeFragment api, trimTrailingSlash api, noteHostname api originalHost]

/-- `normalizeUrl` of a URL that is not empty. -/
def normalizeGivenUrl (rawUrl : String) : UrlNormalizationResult :=
  let trimmed := Js.trim rawUrl
  if trimmed = "" then invalidUrl rawUrl ["empty_url"]
  else
    let repaired := repairKnownUrlTypos trimmed
    let issueCodes := if repaired ≠ trimmed then ["repaired_known_url_typo"] else []
    match api.parse repaired with
    | none => invalidUrl rawUrl (issueCodes ++ ["invalid_url_parse"])
    | some parsed =>
        if api.protocol parsed ≠ "http:" ∧ api.protocol parsed ≠ "https:" then
          invalidUrl rawUrl (issueCodes ++ ["unsupported_url_protocol"])
        else if api.hostname parsed = "" then
          invalidUrl rawUrl (issueCodes ++ ["missing_url_hostname"])
        else
          let originalSerialized := api.href parsed
          let (cleaned, found) := runCleanUps api (cleanUps api (api.hostname parsed)) parsed
          let normalizedUrl := api.href cleaned
          { normalizedUrl := some normalizedUrl
            normalized := normalizedUrl ≠ originalSerialized || repaired ≠ trimmed
            invalid := false
            originalUrl := if normalizedUrl ≠ rawUrl then some rawUrl else none
            issueCodes := issueCodes ++ found }

def noUrl : UrlNormalizationResult where
  normalizedUrl := none
  normalized := false
  invalid := false
  originalUrl := none
  issueCodes := []

def normalizeUrl : Option String → UrlNormalizationResult
  | none => noUrl
  | some rawUrl => if rawUrl = "" then noUrl else normalizeGivenUrl api rawUrl

/-! ## Language -/

/-- `value.replaceAll("_", "-")` -/
def hyphenate (value : String) : String :=
  String.ofList (value.toList.map fun c => if c = '_' then '-' else c)

def normalizeLanguageTag (value : String) : String := hyphenate (api.toLowerCase (Js.trim value))

abbrev SourceMeta : Type := List (String × Json)

/-- The first candidate with text, normalized. -/
def inferLanguageFromSourceMeta (sourceMeta : Option SourceMeta) : Option String :=
  (["lang", "language", "locale"].findSome? fun key =>
    match (sourceMeta.getD []).lookup key with
    | some (.string candidate) => if Js.trim candidate ≠ "" then some candidate else none
    | _ => none).map (normalizeLanguageTag api)

def inferEnglishLanguageHeuristic (title : Option String) (text : String) : Option String :=
  let whole := title.getD "" ++ " " ++ text
  let combined := api.toLowerCase (String.ofList (Js.takeUnits 5000 whole.toList))
  let letterCount := combined.toList.countP fun c => c.isLower
  let nonAsciiCount := (Js.codeUnits combined).countP (0x7F < ·)
  let length := Js.length combined
  let stopwordHits := ENGLISH_STOPWORDS.countP fun stopword =>
    Js.includes combined (" " ++ stopword ++ " ")
  if letterCount < 20 then none
  else if 20 * nonAsciiCount ≤ length ∧ 2 ≤ stopwordHits then some "en"
  else none

/-! ## Text -/

@[ext]
structure TextNormalizationResult where
  text : String
  lowInformation : Bool
  issueCodes : List String
  deriving DecidableEq

/-- A letter under the flags `iu`, which fold the long s as well. -/
def foldsTo (letter c : Char) : Bool := c.toLower == letter || (letter == 's' && c == 'ſ')

def folded (word : String) : Pattern :=
  word.toList.foldr (fun letter rest => .seq (.char (foldsTo letter)) rest) .empty

/-- `/^..$/u.test(value)` -/
def matchesWhole (pattern : Pattern) (value : String) : Bool :=
  (pattern.rests value.toList).contains []

/-- `/^comments?$/iu` -/
def isCommentsOnly (trimmed : String) : Bool :=
  matchesWhole (.seq (folded "comment") (.optional (.char (foldsTo 's')))) trimmed

/-- `/^https?:\/\/\S+$/iu` -/
def isUrlOnly (trimmed : String) : Bool :=
  matchesWhole (.seq (folded "http") (.seq (.optional (.char (foldsTo 's')))
    (.seq (.literal "://") (.oneOrMore fun c => !Js.isWhitespace c)))) trimmed

/-- The text, with the issue that replaced or padded it. -/
def replaceText (text : String) (title : Option String) : String × List String :=
  let trimmed := Js.trim text
  match title.filter (· ≠ "") with
  | none => (text, [])
  | some title =>
      if isCommentsOnly trimmed then (title, ["comments_placeholder_replaced_with_title"])
      else if isUrlOnly trimmed then
        (title ++ "\n" ++ trimmed, ["url_only_text_padded_with_title"])
      else if trimmed = "" then (title, ["blank_text_replaced_with_title"])
      else (text, [])

def normalizeText (text : String) (title : Option String) : TextNormalizationResult :=
  let trimmed := Js.trim text
  let commentsOnly := isCommentsOnly trimmed
  let urlOnly := isUrlOnly trimmed
  let veryShort := decide (Js.length trimmed < 40)
  let (normalizedText, issueCodes) := replaceText text title
  { text := normalizedText
    lowInformation := commentsOnly || urlOnly || veryShort
    issueCodes := issueCodes ++ (if commentsOnly then ["comments_placeholder_text"] else []) ++
      (if urlOnly then ["url_only_text"] else []) ++
      (if veryShort then ["very_short_text"] else []) }

/-! ## Topics -/

/-- A regular expression of a rule, in any case; `anywhere` ones have no `\b`. -/
inductive TopicPattern : Type
  | words (pattern : Pattern)
  | anywhere (pattern : Pattern)

def TopicPattern.test : TopicPattern → String → Bool
  | .words pattern, content => pattern.testWords content
  | .anywhere pattern, content => pattern.test content

def words (text : String) : TopicPattern := .words (.word text)

def digit : Pattern := .char Char.isDigit

def optionalChar (c : Char) : Pattern := .optional (.char fun other => other.toLower == c)

def TOPIC_INFERENCE_RULES : List (String × List TopicPattern) :=
  [("ai.openai", [words "openai", words "chatgpt",
      -- `/\bgpt-?\d/`: the word may go on
      .words (.seq (.word "gpt") (.seq (optionalChar '-')
        (.seq digit (.many Pattern.isWordChar))))]),
    ("ai.anthropic", [words "anthropic", words "claude"]),
    ("ai.google", [words "gemini", words "google ai", words "deepmind", words "vertex ai"]),
    ("ai.agents", [words "agentic", .words (.seq (.word "ai agent") (optionalChar 's')),
      .words (.seq (.word "agent") (optionalChar 's'))]),
    ("ai.llm", [.words (.seq (.word "llm") (optionalChar 's')),
      .anywhere (.word "large language model")]),
    ("aws.bedrock", [words "bedrock"]),
    ("aws.s3", [words "s3"]),
    ("aws.ec2", [words "ec2"]),
    ("aws.lambda", [words "lambda"]),
    ("aws.eks", [words "eks", words "elastic kubernetes"]),
    ("aws.sagemaker", [words "sagemaker"]),
    ("aws.general", [words "aws", .anywhere (.word "amazon web services")]),
    ("dev.github", [words "github", .anywhere (.word "github.com")]),
    ("framework.react", [words "react", words "next.js"]),
    ("lang.python", [words "python", words "pandas", words "numpy"]),
    ("lang.rust", [words "rust", words "cargo",
      .words (.seq (.word "crate") (optionalChar 's'))]),
    ("data.kafka", [words "kafka", words "redpanda"]),
    ("cloud.azure", [words "azure", words "microsoft foundry"]),
    ("apple.xcode", [words "xcode"]),
    ("apple.macos", [words "macos", words "sequoia", words "sonoma", words "ventura",
      words "monterey", words "catalina"]),
    ("apple.ecosystem", [words "apple", words "iphone", words "ipad",
      .words (.seq (.word "mac") (.optional (.word "book"))), words "apple watch",
      words "vision pro", words "airpods", words "homepod"]),
    ("security.general", [
      .words (.seq (.word "cve-") (.seq digit (.seq digit (.seq digit (.seq digit
        (.seq (.word "-") (.oneOrMore Char.isDigit))))))),
      words "vulnerability",
      .words (.seq (.word "zero") (.seq (.char fun c => c == '-' || c == ' ') (.word "day"))),
      words "exploit", words "rce"])]

/-- The loop of `inferTopics`, with how many more topics it takes. -/
def inferTopicsFrom (content : String) : Nat → List (String × List TopicPattern) → List String
  | _, [] => []
  | 0, _ => []
  | room + 1, (key, patterns) :: rest =>
      if patterns.any fun pattern => pattern.test content then
        key :: inferTopicsFrom content room rest
      else inferTopicsFrom content (room + 1) rest

def inferTopics (content : String) : List String :=
  inferTopicsFrom content MAX_INFERRED_TOPICS TOPIC_INFERENCE_RULES

/-! ## The record of it -/

@[ext]
structure RiQualityMetadata where
  schemaVersion : Nat
  staleEvent : Bool
  staleAgeHours : Option ℚ
  publishedInFuture : Bool
  invalidUrl : Bool
  normalizedUrl : Bool
  originalUrl : Option String
  urlIssueCodes : Option (List String)
  lowInformationText : Bool
  textIssueCodes : Option (List String)
  inferredTopics : Bool
  inferredTopicCount : Nat
  inferredLang : Bool
  langInferenceMethod : Option String

def withoutUndefined (fields : List (String × Option Json)) : SourceMeta := Js.definedFields fields

def stringArray (values : List String) : Json := .array (values.map .string)

/-- The properties of the object, `none` where they are `undefined`. -/
def RiQualityMetadata.fields (quality : RiQualityMetadata) : List (String × Option Json) :=
  [("schema_version", some (.number (.finite quality.schemaVersion))),
    ("stale_event", some (.bool quality.staleEvent)),
    ("stale_age_hours", quality.staleAgeHours.map fun hours => .number (.finite hours)),
    ("published_in_future", some (.bool quality.publishedInFuture)),
    ("invalid_url", some (.bool quality.invalidUrl)),
    ("normalized_url", some (.bool quality.normalizedUrl)),
    ("original_url", quality.originalUrl.map .string),
    ("url_issue_codes", quality.urlIssueCodes.map stringArray),
    ("low_information_text", some (.bool quality.lowInformationText)),
    ("text_issue_codes", quality.textIssueCodes.map stringArray),
    ("inferred_topics", some (.bool quality.inferredTopics)),
    ("inferred_topic_count", some (.number (.finite quality.inferredTopicCount))),
    ("inferred_lang", some (.bool quality.inferredLang)),
    ("lang_inference_method", quality.langInferenceMethod.map .string)]

def buildMergedSourceMeta (sourceMeta : Option SourceMeta) (quality : RiQualityMetadata) :
    SourceMeta :=
  let sanitizedBase := (sourceMeta.getD []).filter fun entry => entry.1 ≠ "ri_quality"
  sanitizedBase ++ [("ri_quality", .object (withoutUndefined quality.fields))]

/-! ## The event -/

/-- `fetchedAt` and `publishedAt` are in milliseconds. -/
structure RawEventPersistenceInput (TSource : Type) where
  eventId : String
  source : TSource
  fetchedAt : Int
  publishedAt : Option Int
  url : Option String
  title : Option String
  text : String
  authorId : Option String
  authorHandle : Option String
  authorDisplayName : Option String
  engagementScore : Option Int
  engagementComments : Option Int
  engagementLikes : Option Int
  engagementShares : Option Int
  lang : Option String
  tags : List String
  extractedHashtags : List String
  extractedUrls : List String
  sourceMeta : Option SourceMeta

structure RawEventPersistencePrepared (TSource : Type) extends
    RawEventPersistenceInput TSource where
  topics : List String

/-- The language, and how it was inferred. -/
def resolveLang (lang : Option String) (sourceMeta : Option SourceMeta) (title : Option String)
    (text : String) : Option String × Option String :=
  let given := (lang.filter (· ≠ "")).map (normalizeLanguageTag api)
  if given.getD "" ≠ "" then (given, none)
  else
    match (inferLanguageFromSourceMeta api sourceMeta).filter (· ≠ "") with
    | some inferred => (some inferred, some "source_meta")
    | none =>
        match inferEnglishLanguageHeuristic api title text with
        | some inferred => (some inferred, some "heuristic_en")
        | none => (given, none)

/-- `sourceMeta.tags` where it is an array of strings and others. -/
def sourceMetaTags (sourceMeta : Option SourceMeta) : List String :=
  match (sourceMeta.getD []).lookup "tags" with
  | some (.array values) => values.filterMap Js.Schema.string
  | _ => []

def haystack (sourceMeta : Option SourceMeta) (title : Option String) (text : String)
    (url : Option String) : String :=
  title.getD "" ++ "\n" ++ text ++ "\n" ++ url.getD "" ++ "\n" ++
    " ".intercalate (sourceMetaTags sourceMeta)

/-- The tags to store, and whether they were inferred. -/
def resolveTags (tags : List String) (content : String) : List String × Bool :=
  let given := normalizeTagList tags
  if given = [] then
    let inferred := inferTopics content
    (inferred, decide (inferred ≠ []))
  else (given, false)

def prepareRawEventForPersistence {TSource : Type} (event : RawEventPersistenceInput TSource) :
    RawEventPersistencePrepared TSource :=
  let url := normalizeUrl api event.url
  let text := normalizeText event.text event.title
  let staleMs := event.publishedAt.map (event.fetchedAt - ·)
  let (lang, langInferenceMethod) := resolveLang api event.lang event.sourceMeta event.title text.text
  let (tags, inferredTopics) :=
    resolveTags event.tags (haystack event.sourceMeta event.title text.text url.normalizedUrl)
  let quality : RiQualityMetadata := {
    schemaVersion := 1
    staleEvent := staleMs.any (· > STALE_EVENT_THRESHOLD_MS)
    staleAgeHours := (staleMs.filter (· > 0)).map api.hoursOf
    publishedInFuture := event.publishedAt.any (· > event.fetchedAt)
    invalidUrl := url.invalid
    normalizedUrl := url.normalized
    originalUrl := url.originalUrl
    urlIssueCodes := if url.issueCodes ≠ [] then some url.issueCodes else none
    lowInformationText := text.lowInformation
    textIssueCodes := if text.issueCodes ≠ [] then some text.issueCodes else none
    inferredTopics
    inferredTopicCount := if inferredTopics then tags.length else 0
    inferredLang := langInferenceMethod.isSome
    langInferenceMethod }
  { event with
    url := url.normalizedUrl
    text := text.text
    lang
    tags
    topics := tags
    sourceMeta := some (buildMergedSourceMeta event.sourceMeta quality) }

end RisingIntelligence.Enrichment
