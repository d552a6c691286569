import RisingIntelligence.Brief.Grounding
import RisingIntelligence.Brief.TopicRelevance
import RisingIntelligence.Shared.Capped
import RisingIntelligence.Shared.FirstOfEach
import RisingIntelligence.Shared.Pattern
import Mathlib.Data.List.Dedup

/-!
# Insights of evidence

`collectTopEvidenceInsights` of `apps/brief/src/evidence-scoring.ts`: every piece of evidence is made
an insight with a score, of each fingerprint the first one is kept, and no source has more than two
before all others had their turn.

The score counts the terms of the topic, so the topics that `TopicRelevance` has no matcher for have
no insights either.
-/

namespace RisingIntelligence.Brief

open Js (UrlApi Pattern)

/-! ## Texts -/

def normalizeWhitespace (value : String) : String := Js.trim (Js.collapseWhitespace value)

def truncateText (value : String) (maxChars : Nat) : String :=
  if Js.length value ≤ maxChars then value
  else
    let cut := Js.takeUnits (maxChars - 1) value.toList
    String.ofList (cut.reverse.dropWhile Js.isWhitespace).reverse ++ "…"

/-- The months of `DATE_ONLY_TITLE_REGEX`, with what may follow their first letters. -/
def monthPattern : Pattern :=
  [("jan", "uary"), ("feb", "ruary"), ("mar", "ch"), ("apr", "il"), ("may", ""), ("jun", "e"),
    ("jul", "y"), ("aug", "ust"), ("sep", "t"), ("sep", "tember"), ("oct", "ober"), ("nov", "ember"),
    ("dec", "ember")].foldr
      (fun month others => .alt (.seq (.word month.1) (.optional (.word month.2))) others)
      (.char fun _ => false)

/-- `DATE_ONLY_TITLE_REGEX`, up to its `$`. -/
def dateOnlyTitlePattern : Pattern :=
  .seq monthPattern <| .seq (.oneOrMore Js.isWhitespace) <| .seq (.char Char.isDigit) <|
    .seq (.optional (.char Char.isDigit)) <| .seq (.literal ",") <|
      .seq (.oneOrMore Js.isWhitespace) <| .seq (.char Char.isDigit) <| .seq (.char Char.isDigit) <|
        .seq (.char Char.isDigit) (.char Char.isDigit)

def isDateOnlyTitle (value : String) : Bool :=
  (dateOnlyTitlePattern.rests value.toList).any List.isEmpty

/-- `GENERIC_EVIDENCE_SNIPPET_PATTERNS`, the openings. -/
def genericEvidenceSnippets : List String :=
  ["the following release notes cover", "for a comprehensive list",
    "you can also see and filter all release notes", "get the latest updates on azure",
    "subscribe to notifications to stay informed", "skip to main content",
    "overview guides reference samples resources", "welcome to ", "reading time:",
    "table of contents"]

/-- One of the patterns is for a whole text. -/
def isGenericEvidenceSnippet (value : String) : Bool :=
  let folded := value.toList.map Char.toLower
  genericEvidenceSnippets.any (fun opening => opening.toList.isPrefixOf folded) ||
    folded == "transcript".toList

def isLowSignalTitle (value : String) : Bool :=
  let normalized := normalizeWhitespace value
  normalized == "" || isDateOnlyTitle normalized || decide (Js.length normalized < 12) ||
    isGenericEvidenceSnippet normalized

/-- `split(/(?<=[.!?])\s+|\s*\n+\s*/)` of a text whose white space is single spaces; the flag tells
that the character before ends a sentence. -/
def splitSentences : Bool → List Char → List (List Char)
  | _, [] => [[]]
  | ended, c :: rest =>
      if ended && c == ' ' then [] :: splitSentences false rest
      else
        match splitSentences (c == '.' || c == '!' || c == '?') rest with
        | [] => [[c]]
        | sentence :: sentences => (c :: sentence) :: sentences

def extractFirstMeaningfulSentence (value : String) (maxChars : Nat) : Option String :=
  let normalized := normalizeWhitespace value
  if normalized = "" then none
  else
    let candidates := (((splitSentences false normalized.toList).map fun sentence =>
      Js.trim (String.ofList sentence)).filter fun candidate => 24 ≤ Js.length candidate).filter
        fun candidate => !isGenericEvidenceSnippet candidate
    candidates.head?.map fun first => truncateText first maxChars

/-! ## Hosts -/

structure PreferredCloudHostRule where
  topicPrefix : String
  preferredHostSuffixes : List String

def PREFERRED_CLOUD_HOST_RULES : List PreferredCloudHostRule :=
  [⟨"aws.", ["aws.amazon.com", "docs.aws.amazon.com"]⟩,
    ⟨"cloud.gcp", ["cloud.google.com", "docs.cloud.google.com", "status.cloud.google.com"]⟩,
    ⟨"cloud.azure", ["azure.microsoft.com", "learn.microsoft.com"]⟩,
    ⟨"cloud.terraform", ["hashicorp.com", "terraform.io", "aws.amazon.com", "cloud.google.com",
      "azure.microsoft.com"]⟩]

def resolvePreferredCloudHostRule (api : UrlApi) (topic : String) : Option PreferredCloudHostRule :=
  PREFERRED_CLOUD_HOST_RULES.find? fun rule =>
    Js.startsWith (normalizeTopicKey api topic) rule.topicPrefix

/-- The host of a URL that has one. -/
def getEvidenceHostname (api : UrlApi) (url : Option String) : Option String :=
  match url with
  | none | some "" => none
  | some url => ((api.parse url).map fun parsed => api.toLowerCase (api.hostname parsed)).filter (· ≠ "")

def isPreferredCloudHost (api : UrlApi) (topic : String) (hostname : Option String) : Bool :=
  match hostname, resolvePreferredCloudHostRule api topic with
  | some hostname, some rule => rule.preferredHostSuffixes.any (Js.endsWith hostname)
  | _, _ => false

def hasPreferredCloudHostRule (api : UrlApi) (topic : String) : Bool :=
  (resolvePreferredCloudHostRule api topic).isSome

/-! ## Signals -/

inductive SignalCategory : Type
  | security
  | reliability
  | lifecycle
  | governance
  | cost
  | feature
  deriving DecidableEq

/-- `SIGNAL_CATEGORY_STRATEGIES`, each pattern as the texts that it accepts between `\b`. -/
def SIGNAL_CATEGORY_STRATEGIES : List (SignalCategory × List String) :=
  [(.security, ["cve-", "vulnerability", "security", "privilege escalation", "exploit", "patch", "xss",
      "rce", "authn", "authz", "jwt", "oidc", "iam"]),
    (.reliability, ["outage", "incident", "degradation", "latency", "error rate", "error rates",
      "unavailable", "downtime", "failed", "failure", "partition", "control plane"]),
    (.lifecycle, ["deprecate", "deprecated", "deprecation", "sunset", "end of support", "eol",
      "removed support", "no longer supported", "upgrade required"]),
    (.governance, ["policy", "organization policy", "compliance", "governance", "trust policy",
      "permission", "identity provider"]),
    (.cost, ["pricing", "cost", "finops", "optimise", "optimize", "idle", "throughput",
      "latency reduction", "ttlb", "storage tier", "ssd"]),
    (.feature, ["generally available", "ga", "public preview", "preview", "launched", "now available",
      "release update", "added support"])]

def detectSignalCategories (runtime : RelevanceRuntime) (value : String) : List SignalCategory :=
  (SIGNAL_CATEGORY_STRATEGIES.filter fun strategy =>
    strategy.2.any (testTerm runtime (normalizeWhitespace value))).map (·.1)

/-! ## Insights -/

structure EvidenceInsight where
  summary : String
  citation : Option String
  categories : List SignalCategory
  score : Int
  recencyMs : Int
  source : Js.Keyed CanonicalSource
  deriving DecidableEq

section Insights

variable (runtime : RelevanceRuntime)

/-- The summary, empty where there is nothing to say. -/
def insightSummary (evidence : BriefEvidenceRecord) : String :=
  let title := normalizeWhitespace (evidence.title.getD "")
  let excerptSentence := extractFirstMeaningfulSentence (evidence.textExcerpt.getD "") 170
  if isLowSignalTitle title then
    match excerptSentence with
    | some excerptSentence => excerptSentence
    | none =>
        match getEvidenceHostname runtime.api evidence.url with
        | some hostname => "Update reported by " ++ hostname
        | none => ""
  else
    let summary := truncateText title 140
    match excerptSentence with
    | none => summary
    | some excerptSentence =>
        let titleFingerprint := normalizeTextFingerprint runtime.api summary
        let excerptFingerprint := normalizeTextFingerprint runtime.api excerptSentence
        if excerptFingerprint ≠ "" ∧ Js.includes excerptFingerprint titleFingerprint = false then
          truncateText (summary ++ " — " ++ excerptSentence) 220
        else summary

def insightScore (topic : String) (evidence : BriefEvidenceRecord) (topicTermMatches : Nat) : Int :=
  let title := normalizeWhitespace (evidence.title.getD "")
  let preferredHost :=
    isPreferredCloudHost runtime.api topic (getEvidenceHostname runtime.api evidence.url)
  let categories := detectSignalCategories runtime
    (" ".intercalate [title, evidence.textExcerpt.getD "", evidence.url.getD ""])
  (if isLowSignalTitle title then -2 else 3) +
    (if (extractFirstMeaningfulSentence (evidence.textExcerpt.getD "") 170).isSome then 2 else 0) +
    categories.length + (if preferredHost then 4 else 0) + min topicTermMatches 2 -
    (if topicTermMatches = 0 ∧ preferredHost = false then 4 else 0) -
    (if hasPreferredCloudHostRule runtime.api topic ∧ preferredHost = false then 2 else 0) +
    (if evidence.publishedAt.isSome then 1 else 0)

def buildEvidenceInsight (topic : String) (evidence : BriefEvidenceRecord) :
    Except InheritedAliases (Option EvidenceInsight) := do
  let summary := insightSummary runtime evidence
  if summary = "" then return none
  let title := normalizeWhitespace (evidence.title.getD "")
  let text := " ".intercalate [title, evidence.textExcerpt.getD "", evidence.url.getD ""]
  let topicTermMatches ← countTopicRelevanceTermMatches runtime topic text 1
  return some {
    summary
    citation := (evidence.url.filter (· ≠ "")).bind fun url =>
      (dedupeCanonicalBriefEvidenceUrls runtime.api [some url]).head?
    categories := detectSignalCategories runtime text
    score := insightScore runtime topic evidence topicTermMatches
    recencyMs := (evidence.publishedAt.orElse fun _ => evidence.fetchedAt).getD 0
    source := evidence.source }

/-! ## Selection -/

def MAX_ITEMS_PER_SOURCE : Nat := 2

def applySourceDiversity (sorted : List EvidenceInsight) (limit : Nat) : List EvidenceInsight :=
  selectCapped (·.source) MAX_ITEMS_PER_SOURCE limit sorted

/-- Higher scores first, then later evidence. -/
def insightLe (left right : EvidenceInsight) : Bool :=
  if right.score ≠ left.score then decide (right.score < left.score)
  else decide (right.recencyMs ≤ left.recencyMs)

def insightFingerprint (insight : EvidenceInsight) : String :=
  normalizeTextFingerprint runtime.api insight.summary

/-- The first insight of each fingerprint, in order. -/
def rankInsights (insights : List EvidenceInsight) : List EvidenceInsight :=
  firstOfEach (insightFingerprint runtime) (insights.mergeSort insightLe)

def collectTopEvidenceInsights (topic : ParsedSummaryTopic) (limit : Nat) :
    Except InheritedAliases (List EvidenceInsight) := do
  let built ← topic.evidence.mapM (buildEvidenceInsight runtime topic.topic)
  return applySourceDiversity (rankInsights runtime (built.filterMap id)) limit

variable {runtime} {topic : ParsedSummaryTopic} {evidence : BriefEvidenceRecord} {limit : Nat}
  {insights selected : List EvidenceInsight} {left right other : EvidenceInsight}

/-! ## Insights are made -/

theorem buildEvidenceInsight_of_silent (topic : String)
    (silent : insightSummary runtime evidence = "") :
    buildEvidenceInsight runtime topic evidence = .ok none := by
  unfold buildEvidenceInsight
  dsimp only
  rw [if_pos silent]
  rfl

theorem buildEvidenceInsight_of_own {topic : String} (own : topic ∉ Js.prototypeKeys)
    (evidence : BriefEvidenceRecord) :
    ∃ insight, buildEvidenceInsight runtime topic evidence = .ok insight := by
  by_cases silent : insightSummary runtime evidence = ""
  · exact ⟨none, buildEvidenceInsight_of_silent topic silent⟩
  · have counts : ∀ text, ∃ count, countTopicRelevanceTermMatches runtime topic text 1 = .ok count :=
      fun text => countTopicRelevanceTermMatches_of_own own text 1
    obtain ⟨count, counted⟩ := counts (" ".intercalate
      [normalizeWhitespace (evidence.title.getD ""), evidence.textExcerpt.getD "",
        evidence.url.getD ""])
    unfold buildEvidenceInsight
    dsimp only
    rw [if_neg silent, counted]
    exact ⟨_, rfl⟩

theorem buildEvidenceInsight_of_inherited {topic : String} (inherited : topic ∈ Js.prototypeKeys)
    (spoken : insightSummary runtime evidence ≠ "") :
    buildEvidenceInsight runtime topic evidence = .error ⟨topic⟩ := by
  unfold buildEvidenceInsight countTopicRelevanceTermMatches
  dsimp only
  rw [if_neg spoken, getTopicRelevanceMatcher_of_inherited inherited]
  rfl

/-- The insights that the evidence of the topic makes. -/
def Insights (runtime : RelevanceRuntime) (topic : ParsedSummaryTopic)
    (insights : List EvidenceInsight) : Prop :=
  ∃ built, topic.evidence.mapM (buildEvidenceInsight runtime topic.topic) = .ok built ∧
    built.filterMap id = insights

theorem exists_insights_iff : (∃ insights, Insights runtime topic insights) ↔
    topic.topic ∉ Js.prototypeKeys ∨
      ∀ evidence ∈ topic.evidence, insightSummary runtime evidence = "" := by
  have returns : (∃ insights, Insights runtime topic insights) ↔
      ∀ evidence ∈ topic.evidence, ∃ insight,
        buildEvidenceInsight runtime topic.topic evidence = .ok insight := by
    rw [← exists_mapM_iff]
    constructor
    · intro made
      obtain ⟨_, built, each, -⟩ := made
      exact ⟨built, each⟩
    · intro made
      obtain ⟨built, each⟩ := made
      exact ⟨_, built, each, rfl⟩
  rw [returns]
  constructor
  · intro each
    by_cases inherited : topic.topic ∈ Js.prototypeKeys
    · refine .inr fun evidence mem => ?_
      by_contra spoken
      obtain ⟨insight, made⟩ := each evidence mem
      rw [buildEvidenceInsight_of_inherited inherited spoken] at made
      cases made
    · exact .inl inherited
  · intro condition evidence mem
    rcases condition with own | silent
    · exact buildEvidenceInsight_of_own own evidence
    · exact ⟨none, buildEvidenceInsight_of_silent topic.topic (silent evidence mem)⟩

theorem collectTopEvidenceInsights_eq_ok : collectTopEvidenceInsights runtime topic limit = .ok selected ↔
    ∃ insights, Insights runtime topic insights ∧
      applySourceDiversity (rankInsights runtime insights) limit = selected := by
  unfold collectTopEvidenceInsights
  rw [bind_eq_ok]
  constructor
  · intro done
    obtain ⟨built, each, done⟩ := done
    exact ⟨_, ⟨built, each, rfl⟩, Except.ok.inj done⟩
  · intro done
    obtain ⟨_, ⟨built, each, rfl⟩, done⟩ := done
    exact ⟨built, each, congrArg Except.ok done⟩

/-! ## The ranking -/

theorem insightLe_iff : insightLe left right = true ↔
    right.score < left.score ∨ right.score = left.score ∧ right.recencyMs ≤ left.recencyMs := by
  unfold insightLe
  split
  · rw [decide_eq_true_eq]
    omega
  · rw [decide_eq_true_eq]
    omega

theorem insightLe_trans (first : insightLe left right = true) (second : insightLe right other = true) :
    insightLe left other = true := by
  rw [insightLe_iff] at first second ⊢
  omega

theorem insightLe_total (left right : EvidenceInsight) :
    (insightLe left right || insightLe right left) = true := by
  rw [Bool.or_eq_true, insightLe_iff, insightLe_iff]
  omega

theorem rankInsights_sorted (insights : List EvidenceInsight) :
    (rankInsights runtime insights).Pairwise fun left right => insightLe left right = true :=
  (List.pairwise_mergeSort (fun a b c => @insightLe_trans a b c) insightLe_total insights).sublist
    (firstOfEach_sublist _)

theorem length_rankInsights (insights : List EvidenceInsight) :
    (rankInsights runtime insights).length =
      (insights.map (insightFingerprint runtime)).dedup.length := by
  have same := (List.mergeSort_perm insights insightLe).map (insightFingerprint runtime)
  exact (length_firstOfEach _).trans (same.dedup).length_eq

/-! ## What is selected -/

/-- `selected` are the insights that were taken in their turn and those that filled places. -/
structure Selects (runtime : RelevanceRuntime) (insights : List EvidenceInsight) (limit : Nat)
    (selected : List EvidenceInsight) : Prop where
  length : selected.length = min limit (insights.map (insightFingerprint runtime)).dedup.length
  distinct : (selected.map (insightFingerprint runtime)).Nodup
  ranked : selected ⊆ rankInsights runtime insights
  /-- A third insight of a source is selected where no other source is below its cap. -/
  needed : ∀ source, 2 < (selected.countP fun insight => insight.source = source) →
    ∀ insight ∈ rankInsights runtime insights, insight ∉ selected →
      2 ≤ selected.countP fun other => other.source = insight.source
  order : ∃ taken filled, selected = taken ++ filled ∧
    taken.Sublist (rankInsights runtime insights) ∧
    (taken.Pairwise fun left right => insightLe left right = true) ∧
    (∀ source, (taken.countP fun insight => insight.source = source) ≤ 2) ∧
    ∀ insight ∈ filled, 2 ≤ taken.countP fun other => other.source = insight.source

theorem selects (insights : List EvidenceInsight) (limit : Nat) :
    Selects runtime insights limit (applySourceDiversity (rankInsights runtime insights) limit) := by
  unfold applySourceDiversity
  obtain ⟨taken, filled, split, capped⟩ :=
    selectCapped_spec (·.source) MAX_ITEMS_PER_SOURCE limit (rankInsights runtime insights)
  rw [split]
  constructor
  case length => rw [capped.length, length_rankInsights]
  case distinct =>
    obtain ⟨ordered, rearranged, kept⟩ := capped.subperm
    have nodup := (nodup_map_firstOfEach _).sublist (kept.map (insightFingerprint runtime))
    exact (rearranged.map (insightFingerprint runtime)).nodup_iff.1 nodup
  case ranked => exact capped.subperm.subset
  case needed =>
    intro source many insight mem unselected
    have within := capped.within source
    have some_filled : filled ≠ [] := by
      intro none
      rw [none, List.append_nil] at many
      exact absurd many (Nat.not_lt.2 within)
    have untaken : insight ∉ taken := fun mem => unselected (List.mem_append_left filled mem)
    rw [List.countP_append]
    exact Nat.le_add_right_of_le (capped.needed some_filled insight mem untaken)
  case order =>
    exact ⟨taken, filled, rfl, capped.sublist, (rankInsights_sorted insights).sublist capped.sublist,
      capped.within, capped.late⟩

/-- Insights are collected as the cap for sources says, unless there is something to say of a topic
that is named like what every object inherits. -/
theorem insights_collected_iff (runtime : RelevanceRuntime) (topic : ParsedSummaryTopic)
    (limit : Nat) :
    (∃ insights selected, Insights runtime topic insights ∧
        collectTopEvidenceInsights runtime topic limit = .ok selected ∧
          Selects runtime insights limit selected) ↔
      topic.topic ∉ Js.prototypeKeys ∨
        ∀ evidence ∈ topic.evidence, insightSummary runtime evidence = "" := by
  rw [← exists_insights_iff]
  constructor
  · intro holds
    obtain ⟨insights, -, made, -⟩ := holds
    exact ⟨insights, made⟩
  · intro holds
    obtain ⟨insights, made⟩ := holds
    exact ⟨insights, _, made, collectTopEvidenceInsights_eq_ok.2 ⟨insights, made, rfl⟩,
      selects insights limit⟩

end Insights

/-! ### A topic named `constructor` -/

def constructorTopic : ParsedSummaryTopic where
  topic := "constructor"
  metrics := []
  evidence := [{
    eventId := "e1"
    source := .own .rss
    url := none
    title := some "Constructor injection"
    publishedAt := none
    fetchedAt := none
    textExcerpt := none
    suspiciousPattern := none }]

/-- The aliases of the topic are read from what every object inherits, which throws. -/
theorem constructor_topic_throws :
    collectTopEvidenceInsights plainRelevance constructorTopic 2 = .error ⟨"constructor"⟩ := by
  rfl

end RisingIntelligence.Brief
