import RisingIntelligence.Brief.Types
import RisingIntelligence.Pipeline.BriefEvidence
import RisingIntelligence.Shared.JsMap

/-!
# Grounding enforcement

`apps/brief/src/grounding-enforcement.ts` over the facade of `grounding-facade.ts`: the highlights
of a brief keep the citations that are evidence of one topic, and the highlights of one topic are
merged.

* A highlight goes to its own topic if that has one of its citations, else to the topic that has
  most of them.
* Topics are told apart by `normalizeTopicKey`; of two topics with one key the later one replaces
  the scope of the earlier.
* Merging canonicalises the citations once more, those of the first highlight again for every
  further one.
-/

namespace RisingIntelligence.Brief

open Js (UrlApi)

def toGroundingError (message : String) : BriefError := .nonRetryable message "grounding_error"

structure NormalizedHighlight where
  topic : String
  whatHappened : String
  whyItMatters : String
  suggestedAction : String
  citations : List String
  deriving DecidableEq

/-! ## Texts -/

def normalizeTopicKey (api : UrlApi) (topic : String) : String :=
  api.toLowerCase (Js.trim topic)

def normalizeTextFingerprint (api : UrlApi) (value : String) : String :=
  api.toLowerCase (Js.collapseWhitespace (Js.trim value))

def ensureSentenceEnding (value : String) : String :=
  let trimmed := Js.trim value
  match trimmed.toList.getLast? with
  | none => trimmed
  | some last => if last = '.' ∨ last = '!' ∨ last = '?' then trimmed else trimmed ++ "."

def getTopLevelTopicGroup (api : UrlApi) (topicKey : String) : String :=
  let normalized := api.toLowerCase (Js.trim topicKey)
  String.ofList (normalized.toList.takeWhile (· ≠ '.'))

/-! ## Scopes -/

structure TopicEvidenceScope where
  canonicalTopic : String
  normalizedTopic : String
  topLevelGroup : String
  evidenceUrls : List String

/-- The canonical evidence URLs of a topic. -/
def ParsedSummaryTopic.evidenceUrls (api : UrlApi) (topic : ParsedSummaryTopic) : List String :=
  dedupeCanonicalBriefEvidenceUrls api (topic.evidence.map (·.url))

/-- `createEvidenceUrlSet` -/
def createEvidenceUrlSet (api : UrlApi) (request : ParsedSummaryRequest) : List String :=
  dedupeCanonicalBriefEvidenceUrls api (request.topics.flatMap fun topic =>
    topic.evidence.map (·.url))

def topicEvidenceScope (api : UrlApi) (topic : ParsedSummaryTopic) : TopicEvidenceScope :=
  let canonicalTopic := Js.trim topic.topic
  let topicKey := normalizeTopicKey api canonicalTopic
  { canonicalTopic := canonicalTopic
    normalizedTopic := topicKey
    topLevelGroup := getTopLevelTopicGroup api topicKey
    evidenceUrls := topic.evidenceUrls api }

def buildTopicEvidenceScopes (api : UrlApi) (request : ParsedSummaryRequest) :
    List (String × TopicEvidenceScope) :=
  request.topics.foldl (fun scopes topic =>
    Js.Map.set (normalizeTopicKey api (Js.trim topic.topic)) (topicEvidenceScope api topic) scopes) []

def countScopeCitationOverlap (scope : TopicEvidenceScope) (citations : List String) : Nat :=
  citations.countP (scope.evidenceUrls.contains ·)

structure BestScope where
  bestScope : Option TopicEvidenceScope := none
  bestOverlap : Nat := 0
  bestSameTopLevelGroup : Bool := false

/-- The body of the loop of `resolveGroundedTopicScope`. -/
def considerScope (requestedTopLevelGroup : String) (citations : List String) (best : BestScope)
    (scope : TopicEvidenceScope) : BestScope :=
  let overlap := countScopeCitationOverlap scope citations
  if overlap = 0 then best
  else
    let sameTopLevelGroup :=
      requestedTopLevelGroup ≠ "" && scope.topLevelGroup == requestedTopLevelGroup
    if decide (best.bestOverlap < overlap) ||
        (overlap == best.bestOverlap && sameTopLevelGroup && !best.bestSameTopLevelGroup) then
      { bestScope := some scope
        bestOverlap := overlap
        bestSameTopLevelGroup := sameTopLevelGroup }
    else best

def resolveGroundedTopicScope (api : UrlApi) (scopes : List (String × TopicEvidenceScope))
    (requestedTopicKey : String) (groundedCitations : List String) : Option TopicEvidenceScope :=
  let best :=
    (scopes.foldl (fun best entry =>
      considerScope (getTopLevelTopicGroup api requestedTopicKey) groundedCitations best entry.2)
      {}).bestScope
  match Js.Map.get requestedTopicKey scopes with
  | some declaredScope =>
      if 0 < countScopeCitationOverlap declaredScope groundedCitations then some declaredScope
      else best
  | none => best

/-! ## Merging -/

/-- The loop of `mergeNarrativeFields`, with the fingerprints it has seen. -/
def mergeNarratives (api : UrlApi) : List String → List String → List String
  | _, [] => []
  | seen, value :: values =>
      let trimmed := Js.trim value
      let fingerprint := normalizeTextFingerprint api trimmed
      if trimmed = "" ∨ fingerprint ∈ seen then mergeNarratives api seen values
      else ensureSentenceEnding trimmed :: mergeNarratives api (fingerprint :: seen) values

def mergeNarrativeFields (api : UrlApi) (values : List String) : String :=
  " ".intercalate (mergeNarratives api [] values)

/-- The highlights merged so far, and the place of each topic among them. -/
structure Merge where
  merged : List NormalizedHighlight := []
  indexByTopic : List (String × Nat) := []

def mergeInto (api : UrlApi) (existing highlight : NormalizedHighlight) : NormalizedHighlight where
  topic := existing.topic
  whatHappened := mergeNarrativeFields api [existing.whatHappened, highlight.whatHappened]
  whyItMatters := mergeNarrativeFields api [existing.whyItMatters, highlight.whyItMatters]
  suggestedAction := mergeNarrativeFields api [existing.suggestedAction, highlight.suggestedAction]
  citations := dedupeCanonicalBriefEvidenceUrls api
    ((existing.citations ++ highlight.citations).map some)

/-- The body of the loop of `mergeHighlightsByTopic`. -/
def mergeHighlight (api : UrlApi) (state : Merge) (highlight : NormalizedHighlight) : Merge :=
  let topicKey := normalizeTopicKey api highlight.topic
  match Js.Map.get topicKey state.indexByTopic with
  | none => {
      merged := state.merged ++ [{ highlight with
        citations := dedupeCanonicalBriefEvidenceUrls api (highlight.citations.map some) }]
      indexByTopic := Js.Map.set topicKey state.merged.length state.indexByTopic }
  | some existingIndex => { state with
      merged := state.merged.modify existingIndex fun existing => mergeInto api existing highlight }

def mergeHighlightsByTopic (api : UrlApi) (highlights : List NormalizedHighlight) :
    List NormalizedHighlight :=
  (highlights.foldl (mergeHighlight api) {}).merged

/-! ## Enforcement -/

def filterGroundedCitations (api : UrlApi) (citations evidenceUrls : List String) : List String :=
  (dedupeCanonicalBriefEvidenceUrls api (citations.map some)).filter (evidenceUrls.contains ·)

/-- What `enforceGroundedHighlights` makes of one highlight. -/
def groundHighlight (api : UrlApi) (evidenceUrls : List String)
    (topicEvidenceScopes : List (String × TopicEvidenceScope)) (highlight : NormalizedHighlight) :
    Option NormalizedHighlight :=
  let globallyGroundedCitations := filterGroundedCitations api highlight.citations evidenceUrls
  if globallyGroundedCitations = [] then none
  else
    match resolveGroundedTopicScope api topicEvidenceScopes
        (normalizeTopicKey api highlight.topic) globallyGroundedCitations with
    | none => none
    | some topicScope =>
        let topicScopedCitations :=
          globallyGroundedCitations.filter (topicScope.evidenceUrls.contains ·)
        if topicScopedCitations = [] then none
        else some { highlight with
          topic := topicScope.canonicalTopic
          citations := topicScopedCitations }

def enforceGroundedHighlights (api : UrlApi) (request : ParsedSummaryRequest)
    (highlights : List NormalizedHighlight) : Except BriefError (List NormalizedHighlight) :=
  let evidenceUrls := createEvidenceUrlSet api request
  let topicEvidenceScopes := buildTopicEvidenceScopes api request
  if evidenceUrls = [] then 
    .error (toGroundingError "No evidence URLs were provided in the summary request")
  else
    let groundedHighlights :=
      (highlights.filterMap (groundHighlight api evidenceUrls topicEvidenceScopes)).filter
        fun highlight => 0 < highlight.citations.length
    let mergedHighlights := mergeHighlightsByTopic api groundedHighlights
    if mergedHighlights = [] then
      .error (toGroundingError
        "Brief generation produced no grounded highlights with valid evidence citations")
    else .ok mergedHighlights

end RisingIntelligence.Brief
