import RisingIntelligence.Shared.JsArray
import RisingIntelligence.Shared.JsString

/-!
# Market filters

`apps/collector/src/market-filters.ts`: the profiles that a market-gated feed is matched against,
and the entity terms that a high-volume feed has to name as well.

A profile is compiled from what its file says once the schema has accepted it.  The flags `g` and
`y` are dropped, so that a compiled expression keeps nothing between two tests.
-/

namespace RisingIntelligence.Collector.MarketFilters

/-! ## Profiles -/

inductive CompiledMatcher : Type
  | keyword (raw keyword : String)
  | regex (raw : String) (test : String → Bool)

structure MarketFilterProfile where
  key : String
  name : String
  matchers : List CompiledMatcher
  key_ne : key ≠ ""
  matchers_ne : matchers ≠ []

/-- What the schema makes of an entry under `matchers`. -/
inductive MatcherEntry : Type
  | keyword (value : String)
  | regex (pattern : String) (flags : Option String)

/-- What the schema makes of a file. -/
structure ProfileEntry where
  profile : Option String
  name : Option String
  keywords : Option (List String)
  matchers : Option (List MatcherEntry)

/-- The strings and regular expressions of the language. -/
structure FilterRuntime where
  toLowerCase : String → String
  /-- `new RegExp(pattern, flags).test`, or the message of the error. -/
  compileRegex : String → String → Except String (String → Bool)
  /-- Whether a term occurs between two word boundaries, in any case. -/
  testTerm : String → String → Bool

inductive ProfileError : Type
  | emptyKey (filePath : String)
  | invalidRegex (pattern filePath message : String)
  | noMatchers (filePath : String)

/-- `/[^a-z0-9]+/g` replaced by `_`, the characters read one after the other. -/
def replaceRuns : Bool → List Char → List Char
  | _, [] => []
  | inRun, c :: cs =>
      if c.isLower || c.isDigit then c :: replaceRuns false cs
      else if inRun then replaceRuns true cs
      else '_' :: replaceRuns true cs

/-- `/^_+|_+$/g` replaced by nothing. -/
def trimUnderscores (cs : List Char) : List Char :=
  ((cs.dropWhile (· = '_')).reverse.dropWhile (· = '_')).reverse

variable (runtime : FilterRuntime)

def normalizeProfileKey (name : String) : String :=
  String.ofList (trimUnderscores (replaceRuns false (runtime.toLowerCase (Js.trim name)).toList))

def sanitizeRegexFlags (flags : Option String) : String :=
  if Js.trim (flags.getD "") = "" then "i"
  else String.ofList ((Js.distinct (flags.getD "").toList).filter fun flag => flag ≠ 'g' && flag ≠ 'y')

/-- A blank keyword is left out. -/
def compileKeyword (keyword : String) : Option CompiledMatcher :=
  let trimmed := Js.trim keyword
  if trimmed = "" then none else some (.keyword trimmed (runtime.toLowerCase trimmed))

def compileMatcher (filePath : String) : MatcherEntry → Except ProfileError CompiledMatcher
  | .keyword value => .ok (.keyword (Js.trim value) (runtime.toLowerCase (Js.trim value)))
  | .regex pattern flags =>
      match runtime.compileRegex pattern (sanitizeRegexFlags flags) with
      | .ok test => .ok (.regex pattern test)
      | .error message => .error (.invalidRegex pattern filePath message)

/-- `compileProfile`; `baseName` is the name of the file without its extension. -/
def compileProfile (filePath baseName : String) (parsed : ProfileEntry) :
    Except ProfileError MarketFilterProfile :=
  let rawName := (parsed.profile.or parsed.name).getD baseName
  let key := normalizeProfileKey runtime rawName
  if named : key ≠ "" then do
    let compiled ← (parsed.matchers.getD []).mapM (compileMatcher runtime filePath)
    let matchers := (parsed.keywords.getD []).filterMap (compileKeyword runtime) ++ compiled
    if matching : matchers ≠ [] then
      pure { key, name := Js.trim rawName, matchers, key_ne := named, matchers_ne := matching }
    else .error (.noMatchers filePath)
  else .error (.emptyKey filePath)

/-! ## Evaluation -/

structure MarketFilterMatch where
  profile : String
  reasons : List String

structure MarketFilterEvaluation where
  profileMatches : List MarketFilterMatch
  marketProfiles : List String
  matchReasons : List String

def buildReason (profileKey : String) : CompiledMatcher → String
  | .keyword raw _ => profileKey ++ ":keyword:" ++ raw
  | .regex raw _ => profileKey ++ ":regex:" ++ raw

def CompiledMatcher.matched (content : String) (matcher : CompiledMatcher) : Bool :=
  match matcher with
  | .keyword _ value => Js.includes (runtime.toLowerCase content) value
  | .regex _ test => test content

/-- The reasons a profile matches for. -/
def MarketFilterProfile.reasons (content : String) (profile : MarketFilterProfile) : List String :=
  (profile.matchers.filter (·.matched runtime content)).map (buildReason profile.key)

def evaluateMarketFilters (content : String) (profiles : List MarketFilterProfile) :
    MarketFilterEvaluation :=
  let found := profiles.filterMap fun profile =>
    let reasons := profile.reasons runtime content
    if reasons ≠ [] then some ⟨profile.key, reasons⟩ else none
  { profileMatches := found
    marketProfiles := found.map (·.profile)
    matchReasons := found.flatMap (·.reasons) }

/-- `unique` of `matchEntityTerms`. -/
def uniqueTerms (entityTerms : List String) : List String :=
  Js.distinct ((entityTerms.map Js.trim).filter (· ≠ ""))

/-- The matched terms; `matched` says that there are some. -/
def matchEntityTerms (content : String) (entityTerms : List String) : List String :=
  (uniqueTerms entityTerms).filter fun term => runtime.testTerm term content

/-! ## What matches -/

variable {runtime} {content : String} {profiles : List MarketFilterProfile}

/-- A profile matches when one of its matchers does. -/
def MarketFilterProfile.Matches (runtime : FilterRuntime) (content : String)
    (profile : MarketFilterProfile) : Prop :=
  ∃ matcher ∈ profile.matchers, matcher.matched runtime content = true

theorem reasons_ne_nil {profile : MarketFilterProfile} :
    profile.reasons runtime content ≠ [] ↔ profile.Matches runtime content := by
  simp [MarketFilterProfile.reasons, MarketFilterProfile.Matches, List.filter_eq_nil_iff]

theorem mem_marketProfiles {key : String} :
    key ∈ (evaluateMarketFilters runtime content profiles).marketProfiles ↔
      ∃ profile ∈ profiles, profile.key = key ∧ profile.Matches runtime content := by
  simp only [evaluateMarketFilters, List.mem_map, List.mem_filterMap, Option.ite_none_right_eq_some,
    reasons_ne_nil]
  constructor
  · rintro ⟨_, ⟨profile, member, matching, same⟩, named⟩
    cases same
    exact ⟨profile, member, named, matching⟩
  · rintro ⟨profile, member, named, matching⟩
    exact ⟨_, ⟨profile, member, matching, rfl⟩, named⟩

theorem mem_matchEntityTerms {term : String} {entityTerms : List String} :
    term ∈ matchEntityTerms runtime content entityTerms ↔
      term ≠ "" ∧ (∃ given ∈ entityTerms, Js.trim given = term) ∧
        runtime.testTerm term content = true := by
  simp only [matchEntityTerms, uniqueTerms, List.mem_filter, Js.mem_distinct, List.mem_map,
    decide_eq_true_eq]
  tauto

end RisingIntelligence.Collector.MarketFilters
