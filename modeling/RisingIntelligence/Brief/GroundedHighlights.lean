import Mathlib.Order.Filter.AtTopBot.Basic
import RisingIntelligence.Brief.Grounding

/-!
# What grounding keeps

The highlights that `enforceGroundedHighlights` returns, for any implementation of `URL`.
-/

namespace RisingIntelligence.Brief

open Js (UrlApi)

variable {api : UrlApi} {request : ParsedSummaryRequest}

/-! ## Scopes of a request -/

def ParsedSummaryTopic.key (api : UrlApi) (topic : ParsedSummaryTopic) : String :=
  normalizeTopicKey api topic.topic

/-- The last topic that has a key. -/
def lastTopic (api : UrlApi) (topics : List ParsedSummaryTopic) (key : String) :
    Option ParsedSummaryTopic :=
  topics.reverse.find? fun topic => topic.key api == key

section LastTopic

variable {topics : List ParsedSummaryTopic} {topic : ParsedSummaryTopic} {key : String}

theorem lastTopic_concat (topics : List ParsedSummaryTopic) (topic : ParsedSummaryTopic) :
    lastTopic api (topics ++ [topic]) key =
      if topic.key api = key then some topic else lastTopic api topics key := by
  unfold lastTopic
  rw [List.reverse_append, List.reverse_singleton, List.singleton_append, List.find?_cons]
  by_cases same : topic.key api = key
  · simp [same]
  · have differ : (topic.key api == key) = false := beq_eq_false_iff_ne.2 same
    rw [differ, if_neg same]

theorem mem_of_lastTopic (found : lastTopic api topics key = some topic) : topic ∈ topics :=
  List.mem_reverse.1 (List.mem_of_find?_eq_some found)

theorem key_of_lastTopic (found : lastTopic api topics key = some topic) : topic.key api = key := by
  have same := List.find?_some found
  exact beq_iff_eq.1 same

@[simp] theorem normalizeTopicKey_trim (topic : String) :
    normalizeTopicKey api (Js.trim topic) = normalizeTopicKey api topic := by
  simp only [normalizeTopicKey, Js.trim_trim]

/-- The map after some of the topics. -/
def scopesOf (api : UrlApi) (topics : List ParsedSummaryTopic) : List (String × TopicEvidenceScope) :=
  topics.foldl (fun scopes topic =>
    Js.Map.set (normalizeTopicKey api (Js.trim topic.topic)) (topicEvidenceScope api topic) scopes) []

theorem scopesOf_concat (topics : List ParsedSummaryTopic) (topic : ParsedSummaryTopic) :
    scopesOf api (topics ++ [topic]) =
      Js.Map.set (topic.key api) (topicEvidenceScope api topic) (scopesOf api topics) := by
  simp only [scopesOf, List.foldl_append, List.foldl_cons, List.foldl_nil, normalizeTopicKey_trim]
  rfl

theorem nodup_keys_scopesOf (topics : List ParsedSummaryTopic) :
    ((scopesOf api topics).map (·.1)).Nodup := by
  induction topics using List.reverseRecOn with
  | nil => exact List.nodup_nil
  | append_singleton topics topic ih =>
      rw [scopesOf_concat]
      exact Js.Map.nodup_keys_set _ _ ih

/-- A later topic replaces the scope of an earlier one. -/
theorem get_scopesOf (topics : List ParsedSummaryTopic) (key : String) :
    Js.Map.get key (scopesOf api topics) =
      (lastTopic api topics key).map (topicEvidenceScope api) := by
  induction topics using List.reverseRecOn with
  | nil => rfl
  | append_singleton topics last ih =>
      rw [scopesOf_concat, Js.Map.get_set, lastTopic_concat, ih]
      by_cases same : last.key api = key
      · rw [if_pos same, if_pos same.symm]
        rfl
      · rw [if_neg same, if_neg fun here => same here.symm]

/-- The scopes are those of the last topics. -/
theorem mem_scopesOf {entry : String × TopicEvidenceScope} :
    entry ∈ scopesOf api topics ↔
      ∃ topic, lastTopic api topics entry.1 = some topic ∧ topicEvidenceScope api topic = entry.2 := by
  rw [← Option.map_eq_some_iff, ← get_scopesOf]
  exact ⟨Js.Map.get_of_mem (nodup_keys_scopesOf topics), Js.Map.mem_of_get⟩

end LastTopic

/-! ## The choice of a scope -/

section Choice

variable {scopes : List (String × TopicEvidenceScope)} {citations : List String}
  {scope : TopicEvidenceScope}

theorem overlap_pos :
    0 < countScopeCitationOverlap scope citations ↔ ∃ url ∈ citations, url ∈ scope.evidenceUrls := by
  unfold countScopeCitationOverlap
  rw [List.countP_pos_iff]
  simp

/-- The best of the scopes considered so far, if one of them has a citation. -/
structure BestScope.Of (citations : List String) (scopes : List (String × TopicEvidenceScope))
    (best : BestScope) : Prop where
  absent : best.bestScope = none →
    best.bestOverlap = 0 ∧ ∀ entry ∈ scopes, countScopeCitationOverlap entry.2 citations = 0
  chosen : ∀ scope, best.bestScope = some scope →
    0 < countScopeCitationOverlap scope citations ∧ ∃ key, (key, scope) ∈ scopes

/-- The best scope stays where the next one does not count. -/
theorem BestScope.Of.keep {best : BestScope} (so_far : best.Of citations scopes)
    {entry : String × TopicEvidenceScope}
    (last : best.bestScope = none → countScopeCitationOverlap entry.2 citations = 0) :
    best.Of citations (scopes ++ [entry]) := by
  constructor
  · intro none
    obtain ⟨zero, others⟩ := so_far.absent none
    refine ⟨zero, fun other mem => ?_⟩
    rcases List.mem_append.1 mem with before | here
    · exact others other before
    · rw [List.mem_singleton.1 here]
      exact last none
  · intro scope some
    obtain ⟨overlap, key, mem⟩ := so_far.chosen scope some
    exact ⟨overlap, key, List.mem_append_left _ mem⟩

theorem BestScope.Of.consider {best : BestScope} (so_far : best.Of citations scopes)
    (group : String) (entry : String × TopicEvidenceScope) :
    (considerScope group citations best entry.2).Of citations (scopes ++ [entry]) := by
  unfold considerScope
  dsimp only
  split
  · rename_i zero
    exact so_far.keep fun _ => zero
  · rename_i overlaps
    have positive : 0 < countScopeCitationOverlap entry.2 citations := Nat.pos_of_ne_zero overlaps
    split
    · constructor
      · intro none
        cases none
      · intro scope some
        cases some
        exact ⟨positive, entry.1, List.mem_append_right _ (List.mem_singleton_self _)⟩
    · rename_i worse
      refine so_far.keep fun none => ?_
      have zero := (so_far.absent none).1
      simp only [zero, positive, decide_true, Bool.true_or, not_true_eq_false] at worse

theorem best_of_scopes (citations : List String) (group : String)
    (scopes : List (String × TopicEvidenceScope)) :
    (scopes.foldl (fun best entry => considerScope group citations best entry.2) {}).Of citations
      scopes := by
  induction scopes using List.reverseRecOn with
  | nil => exact ⟨fun _ => ⟨rfl, fun _ mem => nomatch mem⟩, fun _ some => nomatch some⟩
  | append_singleton scopes entry ih =>
      rw [List.foldl_append]
      exact ih.consider group entry

/-- The scope chosen has one of the citations. -/
theorem mem_of_resolve {key : String}
    (chosen : resolveGroundedTopicScope api scopes key citations = some scope) :
    (∃ key, (key, scope) ∈ scopes) ∧ ∃ url ∈ citations, url ∈ scope.evidenceUrls := by
  have best := best_of_scopes citations (getTopLevelTopicGroup api key) scopes
  have of_best : (scopes.foldl (fun best entry => considerScope (getTopLevelTopicGroup api key)
      citations best entry.2) ({} : BestScope)).bestScope = some scope →
      (∃ key, (key, scope) ∈ scopes) ∧ ∃ url ∈ citations, url ∈ scope.evidenceUrls := by
    intro here
    obtain ⟨overlap, known⟩ := best.chosen scope here
    exact ⟨known, overlap_pos.1 overlap⟩
  unfold resolveGroundedTopicScope at chosen
  cases declared : Js.Map.get key scopes with
  | none =>
      rw [declared] at chosen
      exact of_best chosen
  | some own =>
      rw [declared] at chosen
      dsimp only at chosen
      split at chosen
      · rename_i overlap
        cases chosen
        exact ⟨⟨key, Js.Map.mem_of_get declared⟩, overlap_pos.1 overlap⟩
      · exact of_best chosen

theorem resolve_declared {key : String} (declared : Js.Map.get key scopes = some scope)
    (overlap : ∃ url ∈ citations, url ∈ scope.evidenceUrls) :
    resolveGroundedTopicScope api scopes key citations = some scope := by
  unfold resolveGroundedTopicScope
  rw [declared]
  exact if_pos (overlap_pos.2 overlap)

variable (api) in
theorem exists_resolve (key : String) {entry : String × TopicEvidenceScope} (mem : entry ∈ scopes)
    (overlap : ∃ url ∈ citations, url ∈ entry.2.evidenceUrls) :
    ∃ scope, resolveGroundedTopicScope api scopes key citations = some scope := by
  have best := best_of_scopes citations (getTopLevelTopicGroup api key) scopes
  have found : ∃ scope, (scopes.foldl (fun best entry => considerScope
      (getTopLevelTopicGroup api key) citations best entry.2) ({} : BestScope)).bestScope =
      some scope := by
    apply Option.ne_none_iff_exists'.1
    intro none
    have zero := (best.absent none).2 entry mem
    have positive := overlap_pos.2 overlap
    omega
  unfold resolveGroundedTopicScope
  cases Js.Map.get key scopes with
  | none => exact found
  | some own =>
      dsimp only
      split
      · exact ⟨own, rfl⟩
      · exact found

end Choice

/-! ## One highlight -/

theorem mem_createEvidenceUrlSet {url : String} :
    url ∈ createEvidenceUrlSet api request ↔
      ∃ topic ∈ request.topics, url ∈ topic.evidenceUrls api := by
  unfold createEvidenceUrlSet ParsedSummaryTopic.evidenceUrls
  simp only [mem_dedupeCanonical, List.mem_flatMap]
  constructor
  · rintro ⟨value, ⟨topic, mem, evidence⟩, form⟩
    exact ⟨topic, mem, value, evidence, form⟩
  · rintro ⟨topic, mem, value, evidence, form⟩
    exact ⟨value, ⟨topic, mem, evidence⟩, form⟩

/-- The canonical URLs that a highlight cites. -/
def NormalizedHighlight.Cites (api : UrlApi) (highlight : NormalizedHighlight) (url : String) : Prop :=
  ∃ citation ∈ highlight.citations, canonicalUrl api citation = some url

/-- The grounded form of a highlight: what it cites of one topic. -/
structure GroundedIn (api : UrlApi) (topics : List ParsedSummaryTopic) (topic : ParsedSummaryTopic)
    (highlight grounded : NormalizedHighlight) : Prop where
  last : lastTopic api topics (topic.key api) = some topic
  name : grounded.topic = Js.trim topic.topic
  nonempty : grounded.citations ≠ []
  citations : ∀ url, url ∈ grounded.citations ↔ url ∈ topic.evidenceUrls api ∧ highlight.Cites api url

section Ground

variable {highlight grounded : NormalizedHighlight} {topic : ParsedSummaryTopic}

def groundIn (api : UrlApi) (request : ParsedSummaryRequest) (highlight : NormalizedHighlight) :
    Option NormalizedHighlight :=
  groundHighlight api (createEvidenceUrlSet api request) (buildTopicEvidenceScopes api request)
    highlight

theorem mem_filterGrounded {url : String} :
    url ∈ filterGroundedCitations api highlight.citations (createEvidenceUrlSet api request) ↔
      highlight.Cites api url ∧ ∃ topic ∈ request.topics, url ∈ topic.evidenceUrls api := by
  unfold filterGroundedCitations
  rw [List.mem_filter, mem_dedupeCanonical_map, List.contains_iff_mem, mem_createEvidenceUrlSet]
  rfl

theorem groundIn_of_resolve (last : lastTopic api request.topics (topic.key api) = some topic)
    (resolved : resolveGroundedTopicScope api (buildTopicEvidenceScopes api request)
      (normalizeTopicKey api highlight.topic)
      (filterGroundedCitations api highlight.citations (createEvidenceUrlSet api request)) =
        some (topicEvidenceScope api topic))
    (cited : ∃ url ∈ topic.evidenceUrls api, highlight.Cites api url) :
    ∃ grounded, groundIn api request highlight = some grounded ∧
      GroundedIn api request.topics topic highlight grounded := by
  have mem : ∀ url, url ∈ (filterGroundedCitations api highlight.citations
      (createEvidenceUrlSet api request)).filter
        ((topicEvidenceScope api topic).evidenceUrls.contains ·) ↔
      url ∈ topic.evidenceUrls api ∧ highlight.Cites api url := by
    intro url
    rw [List.mem_filter, List.contains_iff_mem, mem_filterGrounded]
    constructor
    · rintro ⟨⟨cites, -⟩, evident⟩
      exact ⟨evident, cites⟩
    · rintro ⟨evident, cites⟩
      exact ⟨⟨cites, topic, mem_of_lastTopic last, evident⟩, evident⟩
  obtain ⟨url, evident, cites⟩ := cited
  have kept := (mem url).2 ⟨evident, cites⟩
  have some_scoped := List.ne_nil_of_mem kept
  have some_grounded := List.ne_nil_of_mem (List.mem_of_mem_filter kept)
  refine ⟨{ highlight with topic := Js.trim topic.topic, citations := _ }, ?_, last, rfl,
    some_scoped, mem⟩
  unfold groundIn groundHighlight
  rw [if_neg some_grounded, resolved]
  exact if_neg some_scoped

/-- A highlight that cites evidence of the scope of its own topic stays with it. -/
theorem groundIn_own (last : lastTopic api request.topics (topic.key api) = some topic)
    (own : normalizeTopicKey api highlight.topic = topic.key api)
    (cited : ∃ url ∈ topic.evidenceUrls api, highlight.Cites api url) :
    ∃ grounded, groundIn api request highlight = some grounded ∧
      GroundedIn api request.topics topic highlight grounded := by
  apply groundIn_of_resolve last _ cited
  apply resolve_declared
  · rw [own]
    exact (get_scopesOf request.topics (topic.key api)).trans (by rw [last]; rfl)
  · obtain ⟨url, evident, cites⟩ := cited
    exact ⟨url, mem_filterGrounded.2 ⟨cites, topic, mem_of_lastTopic last, evident⟩, evident⟩

/-- A highlight that cites evidence of any scope goes to one. -/
theorem groundIn_some (last : lastTopic api request.topics (topic.key api) = some topic)
    (cited : ∃ url ∈ topic.evidenceUrls api, highlight.Cites api url) :
    ∃ chosen grounded, groundIn api request highlight = some grounded ∧
      GroundedIn api request.topics chosen highlight grounded := by
  obtain ⟨url, evident, cites⟩ := cited
  have entry : (topic.key api, topicEvidenceScope api topic) ∈ scopesOf api request.topics :=
    mem_scopesOf.2 ⟨topic, last, rfl⟩
  have grounded := mem_filterGrounded.2 ⟨cites, topic, mem_of_lastTopic last, evident⟩
  obtain ⟨scope, resolved⟩ := exists_resolve api
    (normalizeTopicKey api highlight.topic) entry ⟨url, grounded, evident⟩
  obtain ⟨⟨key, known⟩, other, cited, covers⟩ := mem_of_resolve resolved
  obtain ⟨chosen, found, rfl⟩ := mem_scopesOf.1 known
  rw [← key_of_lastTopic found] at found
  exact ⟨chosen, groundIn_of_resolve found resolved ⟨other, covers, (mem_filterGrounded.1 cited).1⟩⟩

theorem groundIn_eq_some (found : groundIn api request highlight = some grounded) :
    ∃ topic, GroundedIn api request.topics topic highlight grounded := by
  have resolved : ∃ scope, resolveGroundedTopicScope api (buildTopicEvidenceScopes api request)
      (normalizeTopicKey api highlight.topic)
      (filterGroundedCitations api highlight.citations (createEvidenceUrlSet api request)) =
        some scope := by
    unfold groundIn groundHighlight at found
    dsimp only at found
    split at found
    · cases found
    · split at found
      · cases found
      · exact ⟨_, ‹_›⟩
  obtain ⟨scope, resolved⟩ := resolved
  obtain ⟨⟨key, known⟩, url, cited, covers⟩ := mem_of_resolve resolved
  obtain ⟨topic, last, rfl⟩ := mem_scopesOf.1 known
  rw [← key_of_lastTopic last] at last
  obtain ⟨other, there, spec⟩ := groundIn_of_resolve last resolved
    ⟨url, covers, (mem_filterGrounded.1 cited).1⟩
  obtain rfl : other = grounded := Option.some.inj (there.symm.trans found)
  exact ⟨topic, spec⟩

end Ground

/-! ## Merging -/

def NormalizedHighlight.key (api : UrlApi) (highlight : NormalizedHighlight) : String :=
  normalizeTopicKey api highlight.topic

/-- The citations of highlights that are merged one after the other. -/
def mergedCitations (api : UrlApi) (highlights : List NormalizedHighlight) : List String :=
  highlights.foldl (fun citations highlight =>
    dedupeCanonicalBriefEvidenceUrls api ((citations ++ highlight.citations).map some)) []

theorem mergedCitations_concat (highlights : List NormalizedHighlight)
    (highlight : NormalizedHighlight) :
    mergedCitations api (highlights ++ [highlight]) = dedupeCanonicalBriefEvidenceUrls api
      ((mergedCitations api highlights ++ highlight.citations).map some) := by
  simp only [mergedCitations, List.foldl_append, List.foldl_cons, List.foldl_nil]

def ofKey (api : UrlApi) (key : String) (highlights : List NormalizedHighlight) :
    List NormalizedHighlight :=
  highlights.filter fun highlight => highlight.key api = key

theorem ofKey_concat (key : String) (highlights : List NormalizedHighlight)
    (highlight : NormalizedHighlight) :
    ofKey api key (highlights ++ [highlight]) =
      if highlight.key api = key then ofKey api key highlights ++ [highlight]
      else ofKey api key highlights := by
  unfold ofKey
  rw [List.filter_append]
  split
  · rename_i same
    simp [same]
  · rename_i other
    simp [other]

/-- The state of the merge after some highlights: one entry for each key, with the citations of its
highlights. -/
structure Merge.Of (api : UrlApi) (highlights : List NormalizedHighlight) (state : Merge) :
    Prop where
  index : ∀ key i, Js.Map.get key state.indexByTopic = some i ↔
    (state.merged[i]?).map (·.key api) = some key
  entry : ∀ merged ∈ state.merged, (∃ first ∈ highlights, merged.topic = first.topic) ∧
    merged.citations = mergedCitations api (ofKey api (merged.key api) highlights)
  all : ∀ highlight ∈ highlights, ∃ merged ∈ state.merged, merged.key api = highlight.key api

section Merge

variable {highlights : List NormalizedHighlight} {highlight : NormalizedHighlight} {state : Merge}

theorem key_congr {first second : NormalizedHighlight} (same : first.topic = second.topic) :
    first.key api = second.key api :=
  congrArg (normalizeTopicKey api) same

theorem mergeInto_topic (existing highlight : NormalizedHighlight) :
    (mergeInto api existing highlight).topic = existing.topic := by
  rw [mergeInto]

theorem mergeInto_key (existing highlight : NormalizedHighlight) :
    (mergeInto api existing highlight).key api = existing.key api :=
  key_congr (mergeInto_topic existing highlight)

theorem mergeInto_citations (existing highlight : NormalizedHighlight) :
    (mergeInto api existing highlight).citations = dedupeCanonicalBriefEvidenceUrls api
      ((existing.citations ++ highlight.citations).map some) := by
  rw [mergeInto]

theorem Merge.Of.append (so_far : state.Of api highlights)
    (fresh : Js.Map.get (highlight.key api) state.indexByTopic = none) :
    (mergeHighlight api state highlight).Of api (highlights ++ [highlight]) := by
  have none_before : ∀ merged ∈ state.merged, merged.key api ≠ highlight.key api := by
    intro merged mem same
    obtain ⟨i, there⟩ := List.mem_iff_getElem?.1 mem
    have placed := (so_far.index (highlight.key api) i).2 (by rw [there, Option.map_some, same])
    rw [fresh] at placed
    cases placed
  have none_of_key : ofKey api (highlight.key api) highlights = [] := by
    apply List.filter_eq_nil_iff.2
    intro other mem same
    obtain ⟨merged, there, key⟩ := so_far.all other mem
    exact none_before merged there (key.trans (of_decide_eq_true same))
  unfold mergeHighlight
  rw [← NormalizedHighlight.key]
  dsimp only
  rw [fresh]
  constructor
  case index =>
    intro key i
    have old := so_far.index key i
    dsimp only
    rw [Js.Map.get_set]
    rcases lt_trichotomy i state.merged.length with below | here | above
    · rw [List.getElem?_append_left below, ← old]
      split
      · rename_i same
        subst same
        rw [fresh, Option.some.injEq]
        constructor
        · omega
        · intro none
          cases none
      · rfl
    · subst here
      rw [List.getElem?_eq_none (le_refl _)] at old
      rw [List.getElem?_append_right (le_refl _), Nat.sub_self]
      change _ ↔ some (highlight.key api) = some key
      split
      · rename_i same
        simp [same]
      · rename_i other
        rw [old, Option.some.injEq]
        constructor
        · intro none
          cases none
        · intro same
          exact absurd same.symm other
    · rw [List.getElem?_eq_none (by omega)] at old
      rw [List.getElem?_eq_none (by rw [List.length_append, List.length_singleton]; omega)]
      split
      · rw [Option.some.injEq]
        constructor
        · omega
        · intro none
          cases none
      · exact old
  case entry =>
    intro merged mem
    rcases List.mem_append.1 mem with before | here
    · obtain ⟨⟨first, there, topic⟩, citations⟩ := so_far.entry merged before
      have other : highlight.key api ≠ merged.key api := fun same => none_before merged before same.symm
      rw [ofKey_concat, if_neg other]
      exact ⟨⟨first, List.mem_append_left _ there, topic⟩, citations⟩
    · obtain rfl := List.mem_singleton.1 here
      refine ⟨⟨highlight, List.mem_append_right _ (List.mem_singleton_self _), rfl⟩, ?_⟩
      have same : ofKey api (highlight.key api) (highlights ++ [highlight]) = [highlight] := by
        rw [ofKey_concat, if_pos rfl, none_of_key, List.nil_append]
      exact (congrArg (mergedCitations api) same).symm
  case all =>
    intro other mem
    rcases List.mem_append.1 mem with before | here
    · obtain ⟨merged, there, key⟩ := so_far.all other before
      exact ⟨merged, List.mem_append_left _ there, key⟩
    · obtain rfl := List.mem_singleton.1 here
      exact ⟨_, List.mem_append_right _ (List.mem_singleton_self _), rfl⟩

theorem Merge.Of.join (so_far : state.Of api highlights) {index : Nat}
    (known : Js.Map.get (highlight.key api) state.indexByTopic = some index) :
    (mergeHighlight api state highlight).Of api (highlights ++ [highlight]) := by
  have place := (so_far.index (highlight.key api) index).1 known
  obtain ⟨existing, there, same⟩ := Option.map_eq_some_iff.1 place
  unfold mergeHighlight
  rw [← NormalizedHighlight.key]
  dsimp only
  rw [known]
  constructor
  case index =>
    intro key i
    rw [so_far.index]
    dsimp only
    rw [List.getElem?_modify]
    cases state.merged[i]? with
    | none => rfl
    | some merged =>
        by_cases here : index = i <;> simp [here, mergeInto, NormalizedHighlight.key]
  case entry =>
    intro merged mem
    obtain ⟨i, at_i⟩ := List.mem_iff_getElem?.1 mem
    rw [List.getElem?_modify] at at_i
    obtain ⟨before, at_before, rfl⟩ := Option.map_eq_some_iff.1 at_i
    obtain ⟨⟨first, mem_first, topic⟩, citations⟩ :=
      so_far.entry before (List.mem_of_getElem? at_before)
    split
    · rename_i here
      subst here
      obtain rfl : existing = before := Option.some.inj (there.symm.trans at_before)
      have joined : ofKey api (existing.key api) (highlights ++ [highlight]) =
          ofKey api (existing.key api) highlights ++ [highlight] := by
        rw [ofKey_concat, if_pos same.symm]
      rw [mergeInto_topic, mergeInto_key, mergeInto_citations, joined, mergedCitations_concat,
        ← citations]
      exact ⟨⟨first, List.mem_append_left _ mem_first, topic⟩, rfl⟩
    · rename_i elsewhere
      have other : highlight.key api ≠ before.key api := by
        intro equal
        have placed := (so_far.index (highlight.key api) i).2 (by rw [at_before, Option.map_some, equal])
        rw [known] at placed
        exact elsewhere (Option.some.inj placed)
      rw [ofKey_concat, if_neg other]
      exact ⟨⟨first, List.mem_append_left _ mem_first, topic⟩, citations⟩
  case all =>
    have kept : ∀ merged ∈ state.merged, ∃ after ∈ state.merged.modify index
        (fun existing => mergeInto api existing highlight), after.key api = merged.key api := by
      intro merged mem
      obtain ⟨i, at_i⟩ := List.mem_iff_getElem?.1 mem
      refine ⟨if index = i then mergeInto api merged highlight else merged, ?_, ?_⟩
      · apply List.mem_iff_getElem?.2
        exact ⟨i, by rw [List.getElem?_modify, at_i]; rfl⟩
      · split
        · exact mergeInto_key merged highlight
        · rfl
    intro other mem
    rcases List.mem_append.1 mem with before | here
    · obtain ⟨merged, mem_merged, key⟩ := so_far.all other before
      obtain ⟨after, mem_after, same_key⟩ := kept merged mem_merged
      exact ⟨after, mem_after, same_key.trans key⟩
    · obtain rfl := List.mem_singleton.1 here
      obtain ⟨after, mem_after, same_key⟩ := kept existing (List.mem_of_getElem? there)
      exact ⟨after, mem_after, same_key.trans same⟩

variable (api) in
theorem merge_of (highlights : List NormalizedHighlight) :
    (highlights.foldl (mergeHighlight api) {}).Of api highlights := by
  induction highlights using List.reverseRecOn with
  | nil => exact ⟨fun _ _ => ⟨nofun, nofun⟩, nofun, nofun⟩
  | append_singleton highlights highlight ih =>
      rw [List.foldl_append]
      cases known : Js.Map.get (highlight.key api)
          (highlights.foldl (mergeHighlight api) {}).indexByTopic with
      | none => exact ih.append known
      | some index => exact ih.join known

theorem Merge.Of.nodup (whole : state.Of api highlights) :
    (state.merged.map (·.key api)).Nodup := by
  rw [List.nodup_iff_getElem?_ne_getElem?]
  intro i j before inside same
  rw [List.getElem?_map, List.getElem?_map] at same
  have inside' : j < state.merged.length := by simpa using inside
  have at_j : (state.merged[j]?).map (·.key api) = some (state.merged[j].key api) := by
    rw [List.getElem?_eq_getElem inside', Option.map_some]
  have placed_j := (whole.index _ j).2 at_j
  have placed_i := (whole.index _ i).2 (same.trans at_j)
  rw [placed_i] at placed_j
  cases placed_j
  exact lt_irrefl i before

end Merge

/-! ## Enforcement -/

/-- The highlights that are merged. -/
def groundedHighlights (api : UrlApi) (request : ParsedSummaryRequest)
    (highlights : List NormalizedHighlight) : List NormalizedHighlight :=
  (highlights.filterMap (groundIn api request)).filter fun highlight =>
    0 < highlight.citations.length

section Enforce

variable {highlights result : List NormalizedHighlight} {highlight : NormalizedHighlight}

theorem mem_groundedHighlights {grounded : NormalizedHighlight} :
    grounded ∈ groundedHighlights api request highlights ↔
      ∃ highlight ∈ highlights, groundIn api request highlight = some grounded := by
  unfold groundedHighlights
  rw [List.mem_filter, List.mem_filterMap, and_iff_left_iff_imp]
  rintro ⟨highlight, -, found⟩
  obtain ⟨topic, grounded⟩ := groundIn_eq_some found
  exact decide_eq_true (List.length_pos_iff.2 grounded.nonempty)

theorem enforce_eq_ok :
    enforceGroundedHighlights api request highlights = .ok result ↔
      result ≠ [] ∧ result = mergeHighlightsByTopic api (groundedHighlights api request highlights) := by
  unfold enforceGroundedHighlights
  dsimp only
  split
  · rename_i none
    constructor
    · intro ok
      cases ok
    · rintro ⟨nonempty, rfl⟩
      refine absurd ?_ nonempty
      have nothing : groundedHighlights api request highlights = [] := by
        apply List.eq_nil_iff_forall_not_mem.2
        intro grounded mem
        obtain ⟨highlight, -, found⟩ := mem_groundedHighlights.1 mem
        unfold groundIn groundHighlight filterGroundedCitations at found
        rw [none] at found
        simp at found
      rw [nothing]
      rfl
  · change (if mergeHighlightsByTopic api (groundedHighlights api request highlights) = [] then _
      else Except.ok (mergeHighlightsByTopic api (groundedHighlights api request highlights))) = _ ↔ _
    split
    · rename_i empty
      constructor
      · intro ok
        cases ok
      · rintro ⟨nonempty, rfl⟩
        exact absurd empty nonempty
    · rename_i nonempty
      constructor
      · intro ok
        cases ok
        exact ⟨nonempty, rfl⟩
      · rintro ⟨-, rfl⟩
        rfl

theorem merge_ne_nil {grounded : NormalizedHighlight}
    (mem : grounded ∈ groundedHighlights api request highlights) :
    mergeHighlightsByTopic api (groundedHighlights api request highlights) ≠ [] := by
  obtain ⟨merged, there, -⟩ := (merge_of api _).all grounded mem
  exact List.ne_nil_of_mem there

end Enforce

end RisingIntelligence.Brief
