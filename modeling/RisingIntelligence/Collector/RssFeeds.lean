import RisingIntelligence.Shared.JsArray
import RisingIntelligence.Shared.JsString
import RisingIntelligence.Shared.Json
import Mathlib.Data.Rat.Floor

/-!
# Configured feeds

How `apps/collector/src/adapters/rss.ts` reads the feeds of its configuration files.  Whatever the
files say, a feed that is loaded has a name and a URL, and polls at most once a second.
-/

namespace RisingIntelligence.Collector.Rss

open Js (Json)

/-! ## A feed -/

inductive SignalTier : Type
  | highVolume
  | lowVolume
  deriving DecidableEq

/-- `FeedConfig`; only the feeds that are enabled are kept. -/
structure FeedConfig where
  id : String
  name : String
  url : String
  pollIntervalSeconds : ℕ
  requestSpacingMs : Option ℕ
  priority : ℕ
  category : Option String
  topics : Option (List String)
  sourceType : Option String
  signalTier : Option SignalTier
  marketGate : Bool
  entityTerms : Option (List String)
  cik : Option String
  name_ne : name ≠ ""
  url_ne : url ≠ ""
  one_le_pollIntervalSeconds : 1 ≤ pollIntervalSeconds
  one_le_priority : 1 ≤ priority

structure FeedDefaults where
  pollIntervalSeconds : Option ℚ
  requestSpacingMs : Option ℚ
  priority : Option ℚ
  enabled : Option Bool
  marketGate : Option Bool
  signalTier : Option SignalTier

/-- The conversions of the language, the hash and the files. -/
structure FeedRuntime where
  toLowerCase : String → String
  /-- `Number(text)` -/
  toNumber : String → Js.Double
  /-- `hashUrl` -/
  hashUrl : String → String
  /-- `readFileSync(path, "utf-8")`, `none` where it throws. -/
  readFile : String → Option String
  /-- `parse` of `yaml`, with the message of the error it throws. -/
  parseYaml : String → Except String Json

variable (runtime : FeedRuntime)

/-! ## Values -/

def parseNumber : Option Json → Option ℚ
  | some (.number (.finite value)) => some value
  | some (.string text) =>
      if Js.trim text ≠ "" then
        match runtime.toNumber text with
        | .number (.finite value) => some value
        | _ => none
      else none
  | _ => none

def parseBoolean : Option Json → Option Bool
  | some (.bool value) => some value
  | some (.string text) =>
      let normalized := runtime.toLowerCase (Js.trim text)
      if normalized = "true" then some true
      else if normalized = "false" then some false
      else none
  | _ => none

def normalizeStringArray : Option Json → Option (List String)
  | some (.array items) =>
      some ((items.map fun entry => Js.trim ((Js.Schema.string entry).getD "")).filter (· ≠ ""))
  | _ => none

def toSignalTier : Option Json → Option SignalTier
  | some (.string text) =>
      let normalized := runtime.toLowerCase (Js.trim text)
      if normalized = "high_volume" then some .highVolume
      else if normalized = "low_volume" then some .lowVolume
      else none
  | _ => none

/-- `typeof value === "string" ? value : undefined` -/
def asString (value : Option Json) : Option String := value.bind Js.Schema.string

/-- `value` or, where it is not a number, the default of its section. -/
def sectionNumber (value : Option Json) (default : ℚ) : Json :=
  match value with
  | some (.number value) => .number value
  | _ => .number (.finite default)

/-! ## Entries -/

abbrev Record : Type := List (String × Json)

/-- The entry of one repository; a missing list of topics stays missing. -/
def gitHubEntry (section_ repo : Record) : Option Record :=
  match asString (repo.lookup "owner"), asString (repo.lookup "repo") with
  | some owner, some name =>
      some ([("name", .string ("GitHub Releases - " ++ owner ++ "/" ++ name)),
        ("url", .string ("https://github.com/" ++ owner ++ "/" ++ name ++ "/releases.atom")),
        ("poll_interval_seconds", sectionNumber (section_.lookup "poll_interval_seconds") 86400),
        ("priority", sectionNumber (section_.lookup "priority") 70),
        ("category", .string "release_notes"),
        ("source_type", .string "github_releases")] ++
        match normalizeStringArray (repo.lookup "topics") with
        | some topics => [("topics", .array (topics.map .string))]
        | none => [])
  | _, _ => none

def expandGitHubReleases : Json → List Record
  | .object section_ =>
      match section_.lookup "repos" with
      | some (.array repos) => repos.filterMap fun repo =>
          match repo with
          | .object fields => gitHubEntry section_ fields
          | _ => none
      | _ => []
  | _ => []

mutual

/-- `collectFeedEntries`: an object with a name and a URL is an entry, any other is searched. -/
def collectFeedEntries : Json → List Record
  | .array items => collectFromItems items
  | .object fields =>
      if (asString (fields.lookup "name")).isSome && (asString (fields.lookup "url")).isSome then
        [fields]
      else collectFromFields fields
  | _ => []

def collectFromItems : List Json → List Record
  | [] => []
  | item :: items => collectFeedEntries item ++ collectFromItems items

def collectFromFields : List (String × Json) → List Record
  | [] => []
  | (key, nested) :: fields =>
      (if key = "defaults" then []
        else if key = "github_releases" then expandGitHubReleases nested
        else collectFeedEntries nested) ++ collectFromFields fields

end

/-- `Math.max(least, Math.floor(value))` -/
def floorAtLeast (least : ℕ) (value : ℚ) : ℕ := max least ⌊value⌋.toNat

theorem le_floorAtLeast (least : ℕ) (value : ℚ) : least ≤ floorAtLeast least value :=
  Nat.le_max_left _ _

/-- `normalizeFeedConfig`, together with whether the feed is enabled. -/
def normalizeFeedConfig (rawFeed : Record) (defaults : FeedDefaults) : Option (FeedConfig × Bool) :=
  let name := Js.trim ((asString (rawFeed.lookup "name")).getD "")
  let url := Js.trim ((asString (rawFeed.lookup "url")).getD "")
  if named : name ≠ "" ∧ url ≠ "" then
    some ({
      id := runtime.hashUrl url
      name
      url
      pollIntervalSeconds := floorAtLeast 1
        (((parseNumber runtime (rawFeed.lookup "poll_interval_seconds")).or
          defaults.pollIntervalSeconds).getD 900)
      requestSpacingMs :=
        ((parseNumber runtime (rawFeed.lookup "request_spacing_ms")).or
          defaults.requestSpacingMs).map (floorAtLeast 0)
      priority := floorAtLeast 1
        (((parseNumber runtime (rawFeed.lookup "priority")).or defaults.priority).getD 50)
      category := asString (rawFeed.lookup "category")
      topics := normalizeStringArray (rawFeed.lookup "topics")
      sourceType := ((asString (rawFeed.lookup "source_type")).map Js.trim).filter (· ≠ "")
      signalTier := (toSignalTier runtime (rawFeed.lookup "signal_tier")).or defaults.signalTier
      marketGate := ((parseBoolean runtime (rawFeed.lookup "market_gate")).or
        defaults.marketGate).getD false
      entityTerms := normalizeStringArray (rawFeed.lookup "entity_terms")
      cik := (asString (rawFeed.lookup "cik")).map Js.trim
      name_ne := named.1
      url_ne := named.2
      one_le_pollIntervalSeconds := le_floorAtLeast 1 _
      one_le_priority := le_floorAtLeast 1 _ },
      ((parseBoolean runtime (rawFeed.lookup "enabled")).or defaults.enabled).getD true)
  else none

/-! ## Files -/

inductive FeedsError : Type
  | emptyPath
  | unreadable (path : String)
  | yaml (path message : String)

def isRecord : Json → Option Record
  | .object fields => some fields
  | _ => none

def feedDefaults (root : Record) : FeedDefaults :=
  let defaultsRoot := ((root.lookup "defaults").bind isRecord).getD []
  { pollIntervalSeconds := parseNumber runtime (defaultsRoot.lookup "poll_interval_seconds")
    requestSpacingMs := parseNumber runtime (defaultsRoot.lookup "request_spacing_ms")
    priority := parseNumber runtime (defaultsRoot.lookup "priority")
    enabled := parseBoolean runtime (defaultsRoot.lookup "enabled")
    marketGate := parseBoolean runtime (defaultsRoot.lookup "market_gate")
    signalTier := toSignalTier runtime (defaultsRoot.lookup "signal_tier") }

/-- The feeds of one file. -/
def feedsOf (parsed : Json) : List FeedConfig :=
  let root := (isRecord parsed).getD []
  (collectFeedEntries (.object root)).filterMap fun rawFeed =>
    match normalizeFeedConfig runtime rawFeed (feedDefaults runtime root) with
    | some (feed, true) => some feed
    | _ => none

def loadFeedsFile (path : String) : Except FeedsError (List FeedConfig) :=
  match runtime.readFile path with
  | none => .error (.unreadable path)
  | some content =>
      match runtime.parseYaml content with
      | .error message => .error (.yaml path message)
      | .ok parsed => .ok (feedsOf runtime parsed)

def parseConfigPaths (paths : String) : List String :=
  ((Js.split ',' paths).map Js.trim).filter (· ≠ "")

def loadFeedsConfig (paths : String) : Except FeedsError (List FeedConfig) :=
  if parseConfigPaths paths = [] then .error .emptyPath
  else ((parseConfigPaths paths).mapM (loadFeedsFile runtime)).map List.flatten

end RisingIntelligence.Collector.Rss
