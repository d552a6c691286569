import Mathlib.Order.Filter.Finite
import RisingIntelligence.Brief.GroundedHighlights

/-!
# Soundness and completeness of grounding

For which requests `enforceGroundedHighlights` returns grounded citations only (`enforce_sound_iff`),
and for which it keeps every grounded one (`enforce_complete_iff`), whatever the highlights are.

Both come down to what happens when an evidence URL is canonicalised again: the result must still be
evidence of the topic, or even the same URL.
-/

namespace RisingIntelligence.Brief

open Js (UrlApi)

variable {api : UrlApi} {request : ParsedSummaryRequest}

/-! ## Soundness -/

/-- What a published list of highlights must be. -/
structure SoundHighlights (api : UrlApi) (request : ParsedSummaryRequest) (result : List NormalizedHighlight) :
    Prop where
  nonempty : result ≠ []
  distinct : (result.map fun highlight => normalizeTopicKey api highlight.topic).Nodup
  grounded : ∀ highlight ∈ result, ∃ topic ∈ request.topics,
    highlight.topic = Js.trim topic.topic ∧ highlight.citations ≠ [] ∧ highlight.citations.Nodup ∧
      ∀ citation ∈ highlight.citations, citation ∈ topic.evidenceUrls api

/-- `again` is the canonical form of `url`. -/
def Recanonicalized (api : UrlApi) (url again : String) : Prop := canonicalUrl api url = some again

/-- Canonicalising an evidence URL of a topic again, once or more often, gives evidence URLs of a
topic of that name, and the first time it gives one. -/
def ClosedEvidence (api : UrlApi) (request : ParsedSummaryRequest) : Prop :=
  ∀ topic, lastTopic api request.topics (topic.key api) = some topic →
    (∀ url ∈ topic.evidenceUrls api, ∃ again, Recanonicalized api url again) ∧
    ∃ other ∈ request.topics, Js.trim other.topic = Js.trim topic.topic ∧
      ∀ url ∈ topic.evidenceUrls api, ∀ again,
        Relation.TransGen (Recanonicalized api) url again → again ∈ other.evidenceUrls api

section Merged

variable {highlights : List NormalizedHighlight} {urls : List String} {grounded : NormalizedHighlight}

theorem mem_mergedCitations_concat (highlights : List NormalizedHighlight) {url : String} :
    url ∈ mergedCitations api (highlights ++ [grounded]) ↔
      ∃ citation, (citation ∈ mergedCitations api highlights ∨ citation ∈ grounded.citations) ∧
        Recanonicalized api citation url := by
  rw [mergedCitations_concat, mem_dedupeCanonical_map]
  simp only [List.mem_append]
  rfl

theorem nodup_mergedCitations : (mergedCitations api highlights).Nodup := by
  induction highlights using List.reverseRecOn with
  | nil => exact List.nodup_nil
  | append_singleton highlights highlight _ =>
      rw [mergedCitations_concat]
      exact nodup_dedupeCanonical

/-- Every merged citation comes from one of the citations that were merged. -/
theorem reached_of_mem_mergedCitations
    (within : ∀ highlight ∈ highlights, ∀ citation ∈ highlight.citations, citation ∈ urls)
    {url : String} (mem : url ∈ mergedCitations api highlights) :
    ∃ start ∈ urls, Relation.TransGen (Recanonicalized api) start url := by
  induction highlights using List.reverseRecOn generalizing url with
  | nil => cases mem
  | append_singleton highlights highlight ih =>
      obtain ⟨citation, before | here, step⟩ := (mem_mergedCitations_concat highlights).1 mem
      · obtain ⟨start, known, reached⟩ :=
          ih (fun other mem => within other (List.mem_append_left _ mem)) before
        exact ⟨start, known, reached.tail step⟩
      · have known := within highlight (List.mem_append_right _ (List.mem_singleton_self _)) citation
          here
        exact ⟨citation, known, .single step⟩

theorem mergedCitations_ne_nil
    (within : ∀ highlight ∈ highlights, ∃ citation ∈ highlight.citations, citation ∈ urls)
    (again : ∀ url ∈ urls, ∃ again, Recanonicalized api url again) (nonempty : highlights ≠ []) :
    mergedCitations api highlights ≠ [] := by
  rcases List.eq_nil_or_concat highlights with none | ⟨before, last, rfl⟩
  · exact absurd none nonempty
  · rw [List.concat_eq_append] at within ⊢
    obtain ⟨citation, here, known⟩ :=
      within last (List.mem_append_right _ (List.mem_singleton_self _))
    obtain ⟨url, step⟩ := again citation known
    exact List.ne_nil_of_mem ((mem_mergedCitations_concat _).2 ⟨citation, .inr here, step⟩)

/-- Merging one highlight with itself often enough cites everything that its citations lead to. -/
theorem mem_mergedCitations_replicate {start url : String} (mem : start ∈ grounded.citations)
    (reached : Relation.TransGen (Recanonicalized api) start url) :
    ∀ᶠ n in Filter.atTop, url ∈ mergedCitations api (List.replicate n grounded) := by
  induction reached with
  | single step =>
      refine Filter.eventually_atTop.2 ⟨1, fun n positive => ?_⟩
      obtain ⟨n, rfl⟩ := Nat.exists_eq_add_of_le' positive
      rw [List.replicate_succ', mem_mergedCitations_concat]
      exact ⟨start, .inr mem, step⟩
  | tail _ step ih =>
      obtain ⟨bound, before⟩ := Filter.eventually_atTop.1 ih
      refine Filter.eventually_atTop.2 ⟨bound + 1, fun n large => ?_⟩
      obtain ⟨n, rfl⟩ := Nat.exists_eq_add_of_le' (Nat.le_of_add_left_le large)
      rw [List.replicate_succ', mem_mergedCitations_concat]
      exact ⟨_, .inl (before n (by omega)), step⟩

end Merged

section Soundness

variable {highlights result : List NormalizedHighlight} {topic : ParsedSummaryTopic}

theorem GroundedIn.key {highlight grounded : NormalizedHighlight}
    (within : GroundedIn api request.topics topic highlight grounded) :
    grounded.key api = topic.key api := by
  unfold NormalizedHighlight.key
  rw [within.name, normalizeTopicKey_trim]
  rfl

/-- The highlights merged for the key of a topic cite that topic. -/
theorem grounded_of_key (last : lastTopic api request.topics (topic.key api) = some topic)
    {grounded : NormalizedHighlight}
    (mem : grounded ∈ ofKey api (topic.key api) (groundedHighlights api request highlights)) :
    ∃ highlight ∈ highlights, GroundedIn api request.topics topic highlight grounded := by
  obtain ⟨there, same⟩ := List.mem_filter.1 mem
  obtain ⟨highlight, asked, found⟩ := mem_groundedHighlights.1 there
  obtain ⟨other, within⟩ := groundIn_eq_some found
  have key : other.key api = topic.key api := within.key.symm.trans (of_decide_eq_true same)
  have one := within.last
  rw [key, last] at one
  obtain rfl := Option.some.inj one
  exact ⟨highlight, asked, within⟩

/-- An entry of the result: its topic, and what was merged for it. -/
theorem merged_entry {merged : NormalizedHighlight}
    (mem : merged ∈ mergeHighlightsByTopic api (groundedHighlights api request highlights)) :
    ∃ topic, lastTopic api request.topics (topic.key api) = some topic ∧
      merged.topic = Js.trim topic.topic ∧ merged.citations = mergedCitations api
        (ofKey api (topic.key api) (groundedHighlights api request highlights)) ∧
      ofKey api (topic.key api) (groundedHighlights api request highlights) ≠ [] := by
  obtain ⟨⟨first, there, same⟩, citations⟩ := (merge_of api _).entry merged mem
  obtain ⟨highlight, -, found⟩ := mem_groundedHighlights.1 there
  obtain ⟨topic, within⟩ := groundIn_eq_some found
  have key : merged.key api = topic.key api := (key_congr same).trans within.key
  rw [key] at citations
  refine ⟨topic, within.last, same.trans within.name, citations, ?_⟩
  have kept : first ∈ ofKey api (topic.key api) (groundedHighlights api request highlights) :=
    List.mem_filter.2 ⟨there, decide_eq_true within.key⟩
  exact List.ne_nil_of_mem kept

theorem sound_of_closed (closed : ClosedEvidence api request)
    (returned : enforceGroundedHighlights api request highlights = .ok result) :
    SoundHighlights api request result := by
  obtain ⟨nonempty, rfl⟩ := enforce_eq_ok.1 returned
  constructor
  case nonempty => exact nonempty
  case distinct => exact (merge_of api _).nodup
  case grounded =>
    intro merged mem
    obtain ⟨topic, last, name, citations, some_merged⟩ := merged_entry mem
    obtain ⟨again, other, there, same, evidence⟩ := closed topic last
    refine ⟨other, there, name.trans same.symm, ?_, ?_, ?_⟩
    · rw [citations]
      apply mergedCitations_ne_nil _ again some_merged
      intro grounded kept
      obtain ⟨highlight, -, within⟩ := grounded_of_key last kept
      obtain ⟨citation, here⟩ := List.exists_mem_of_ne_nil _ within.nonempty
      exact ⟨citation, here, ((within.citations citation).1 here).1⟩
    · rw [citations]
      exact nodup_mergedCitations
    · intro citation cited
      rw [citations] at cited
      have grounded_within : ∀ grounded ∈ ofKey api (topic.key api)
          (groundedHighlights api request highlights), ∀ citation ∈ grounded.citations,
            citation ∈ topic.evidenceUrls api := by
        intro grounded kept url here
        obtain ⟨highlight, -, within⟩ := grounded_of_key last kept
        exact ((within.citations url).1 here).1
      obtain ⟨start, known, reached⟩ := reached_of_mem_mergedCitations grounded_within cited
      exact evidence start known citation reached

/-- A highlight for the topic with the given citations. -/
def citing (topic : ParsedSummaryTopic) (citations : List String) : NormalizedHighlight where
  topic := topic.topic
  whatHappened := ""
  whyItMatters := ""
  suggestedAction := ""
  citations := citations

/-- The URLs of the evidence of a topic, as they were sent. -/
def sentUrls (topic : ParsedSummaryTopic) : List String := topic.evidence.filterMap (·.url)

theorem mem_evidenceUrls {url : String} :
    url ∈ topic.evidenceUrls api ↔ ∃ sent ∈ sentUrls topic, canonicalUrl api sent = some url := by
  unfold ParsedSummaryTopic.evidenceUrls sentUrls
  rw [mem_dedupeCanonical]
  simp only [List.mem_map, List.mem_filterMap]

theorem ofKey_replicate {grounded : NormalizedHighlight} (n : Nat) :
    ofKey api (grounded.key api) (List.replicate n grounded) = List.replicate n grounded := by
  unfold ofKey
  rw [List.filter_eq_self]
  intro other mem
  rw [(List.mem_replicate.1 mem).2]
  exact decide_eq_true rfl

theorem groundedHighlights_replicate {highlight grounded : NormalizedHighlight}
    (found : groundIn api request highlight = some grounded) (n : Nat) :
    groundedHighlights api request (List.replicate n highlight) = List.replicate n grounded := by
  obtain ⟨topic, within⟩ := groundIn_eq_some found
  have positive : 0 < grounded.citations.length := List.length_pos_iff.2 within.nonempty
  unfold groundedHighlights
  rw [List.filterMap_replicate_of_some found, List.filter_eq_self]
  intro other mem
  rw [(List.mem_replicate.1 mem).2]
  exact decide_eq_true positive

/-- The result for some copies of a highlight that cites its own topic. -/
theorem enforce_replicate (last : lastTopic api request.topics (topic.key api) = some topic)
    {citations : List String}
    (cited : ∃ url ∈ topic.evidenceUrls api, (citing topic citations).Cites api url) :
    ∃ grounded, GroundedIn api request.topics topic (citing topic citations) grounded ∧
      ∀ n, ∃ result, enforceGroundedHighlights api request
          (List.replicate (n + 1) (citing topic citations)) = .ok result ∧ result ≠ [] ∧
        ∀ merged ∈ result, merged.topic = Js.trim topic.topic ∧
          merged.citations = mergedCitations api (List.replicate (n + 1) grounded) := by
  have own : normalizeTopicKey api (citing topic citations).topic = topic.key api := rfl
  obtain ⟨grounded, found, within⟩ := groundIn_own last own cited
  refine ⟨grounded, within, fun n => ?_⟩
  have all := groundedHighlights_replicate found (n + 1)
  have mem : grounded ∈ groundedHighlights api request
      (List.replicate (n + 1) (citing topic citations)) := by
    rw [all]
    exact List.mem_replicate.2 ⟨Nat.succ_ne_zero n, rfl⟩
  have nonempty := merge_ne_nil mem
  refine ⟨_, enforce_eq_ok.2 ⟨nonempty, rfl⟩, nonempty, fun merged there => ?_⟩
  obtain ⟨other, otherLast, name, citations, some_merged⟩ := merged_entry there
  rw [all] at citations some_merged
  obtain ⟨copy, kept⟩ := List.exists_mem_of_ne_nil _ some_merged
  obtain ⟨copied, same⟩ := List.mem_filter.1 kept
  rw [(List.mem_replicate.1 copied).2] at same
  have key : other.key api = topic.key api := (of_decide_eq_true same).symm.trans within.key
  rw [key, last] at otherLast
  obtain rfl := Option.some.inj otherLast
  rw [← within.key, ofKey_replicate] at citations
  exact ⟨name, citations⟩

theorem exists_again_of_sound
    (sound : ∀ highlights result, enforceGroundedHighlights api request highlights = .ok result →
      SoundHighlights api request result)
    (last : lastTopic api request.topics (topic.key api) = some topic) {url : String}
    (mem : url ∈ topic.evidenceUrls api) : ∃ again, Recanonicalized api url again := by
  obtain ⟨sent, -, form⟩ := mem_evidenceUrls.1 mem
  have cited : (citing topic [sent]).Cites api url := ⟨sent, List.mem_singleton_self _, form⟩
  obtain ⟨grounded, within, copies⟩ := enforce_replicate last ⟨url, mem, cited⟩
  obtain ⟨result, returned, nonempty, entries⟩ := copies 0
  obtain ⟨merged, there⟩ := List.exists_mem_of_ne_nil _ nonempty
  obtain ⟨_, -, -, some_cited, -⟩ := (sound _ _ returned).grounded merged there
  rw [(entries merged there).2] at some_cited
  obtain ⟨again, here⟩ := List.exists_mem_of_ne_nil _ some_cited
  obtain ⟨citation, before | one, step⟩ :=
    (mem_mergedCitations_concat []).1 here
  · cases before
  · obtain ⟨-, other, singleton, same⟩ := (within.citations citation).1 one
    rw [List.mem_singleton.1 singleton, form] at same
    exact ⟨again, Option.some.inj same ▸ step⟩

/-- Some topic of the name has everything that the evidence URLs of the topic lead to: else merging
a highlight that cites all of them with itself often enough cites something that no topic has. -/
theorem exists_closed_of_sound
    (sound : ∀ highlights result, enforceGroundedHighlights api request highlights = .ok result →
      SoundHighlights api request result)
    (last : lastTopic api request.topics (topic.key api) = some topic) :
    ∃ other ∈ request.topics, Js.trim other.topic = Js.trim topic.topic ∧
      ∀ url ∈ topic.evidenceUrls api, ∀ again,
        Relation.TransGen (Recanonicalized api) url again → again ∈ other.evidenceUrls api := by
  by_cases some_evidence : topic.evidenceUrls api = []
  · refine ⟨topic, mem_of_lastTopic last, rfl, fun url mem => ?_⟩
    rw [some_evidence] at mem
    cases mem
  by_contra open_evidence
  push Not at open_evidence
  have cites : ∀ url ∈ topic.evidenceUrls api, (citing topic (sentUrls topic)).Cites api url :=
    fun url mem => mem_evidenceUrls.1 mem
  obtain ⟨first, mem_first⟩ := List.exists_mem_of_ne_nil _ some_evidence
  obtain ⟨grounded, within, copies⟩ := enforce_replicate last ⟨first, mem_first, cites first mem_first⟩
  have missed : ∀ᶠ n in Filter.atTop, ∀ other ∈ {other | other ∈ request.topics},
      Js.trim other.topic = Js.trim topic.topic →
        ∃ url ∈ mergedCitations api (List.replicate n grounded), url ∉ other.evidenceUrls api := by
    rw [Filter.eventually_all_finite (List.finite_toSet request.topics)]
    intro other there
    by_cases same : Js.trim other.topic = Js.trim topic.topic
    · obtain ⟨url, mem, again, reached, absent⟩ := open_evidence other there same
      have here := (within.citations url).2 ⟨mem, cites url mem⟩
      filter_upwards [mem_mergedCitations_replicate here reached] with n cited _
      exact ⟨again, cited, absent⟩
    · exact Filter.Eventually.of_forall fun n equal => absurd equal same
  obtain ⟨bound, missed⟩ := Filter.eventually_atTop.1 missed
  obtain ⟨result, returned, nonempty, entries⟩ := copies bound
  obtain ⟨merged, there⟩ := List.exists_mem_of_ne_nil _ nonempty
  obtain ⟨other, known, name, -, -, evidence⟩ := (sound _ _ returned).grounded merged there
  obtain ⟨name', citations⟩ := entries merged there
  obtain ⟨url, cited, absent⟩ := missed (bound + 1) (Nat.le_succ bound) other known
    (name.symm.trans name')
  rw [← citations] at cited
  exact absent (evidence url cited)

theorem enforce_sound_iff :
    (∀ highlights result, enforceGroundedHighlights api request highlights = .ok result →
      SoundHighlights api request result) ↔ ClosedEvidence api request := by
  constructor
  · intro sound topic last
    exact ⟨fun url mem => exists_again_of_sound sound last mem, exists_closed_of_sound sound last⟩
  · intro closed highlights result returned
    exact sound_of_closed closed returned

end Soundness

/-! ## A second slash -/

def slashEvidence (url : String) : BriefEvidenceRecord where
  eventId := "e"
  source := .own .rss
  url := some url
  title := none
  publishedAt := none
  fetchedAt := none
  textExcerpt := none
  suspiciousPattern := none

def slashTopic : ParsedSummaryTopic where
  topic := "ai"
  metrics := []
  evidence := [slashEvidence "https://a.example/x//"]

def slashRequest : ParsedSummaryRequest :=
  { ParsedSummaryRequest.empty "r" with topics := [slashTopic] }

/-- The citation is published with one slash less than the evidence has. -/
theorem slashRequest_unsound :
    ∃ highlight merged, enforceGroundedHighlights Js.plainUrls slashRequest [highlight] =
        .ok [merged] ∧
      merged.citations = ["https://a.example/x"] ∧
      createEvidenceUrlSet Js.plainUrls slashRequest = ["https://a.example/x/"] ∧
      ¬SoundHighlights Js.plainUrls slashRequest [merged] := by
  refine ⟨citing slashTopic ["https://a.example/x//"], citing slashTopic ["https://a.example/x"],
    by decide +kernel, by decide, by decide +kernel, fun sound => ?_⟩
  obtain ⟨topic, mem, -, -, -, evidence⟩ := sound.grounded _ (List.mem_singleton_self _)
  obtain rfl := List.mem_singleton.1 mem
  have cited := evidence "https://a.example/x" (List.mem_singleton_self _)
  revert cited
  decide +kernel

/-! ## Completeness -/

/-- The evidence URLs of all topics with the key. -/
def EvidenceOfKey (api : UrlApi) (request : ParsedSummaryRequest) (key url : String) : Prop :=
  ∃ topic ∈ request.topics, topic.key api = key ∧ url ∈ topic.evidenceUrls api

/-- What becomes of a highlight that cites evidence: there is a result, and for a topic of the
request, the highlight's own if it cites evidence of that, it has everything that the highlight
cites of the topic. -/
def Kept (api : UrlApi) (request : ParsedSummaryRequest) (highlights : List NormalizedHighlight)
    (highlight : NormalizedHighlight) : Prop :=
  ∃ result, enforceGroundedHighlights api request highlights = .ok result ∧
    ∃ topic ∈ request.topics,
      (∃ merged ∈ result, merged.key api = topic.key api ∧
        ∀ url, EvidenceOfKey api request (topic.key api) url → highlight.Cites api url →
          url ∈ merged.citations) ∧
      (∃ url, EvidenceOfKey api request (topic.key api) url ∧ highlight.Cites api url) ∧
      ((∃ url, EvidenceOfKey api request (highlight.key api) url ∧ highlight.Cites api url) →
        topic.key api = highlight.key api)

def Complete (api : UrlApi) (request : ParsedSummaryRequest)
    (highlights : List NormalizedHighlight) : Prop :=
  ∀ highlight ∈ highlights,
    (∃ topic ∈ request.topics, ∃ url ∈ topic.evidenceUrls api, highlight.Cites api url) →
      Kept api request highlights highlight

/-- Every evidence URL is one of the last topic with the key as well, and is its own canonical
form. -/
def StableEvidence (api : UrlApi) (request : ParsedSummaryRequest) : Prop :=
  ∀ key url, EvidenceOfKey api request key url →
    (∃ last, lastTopic api request.topics key = some last ∧ url ∈ last.evidenceUrls api) ∧
      canonicalUrl api url = some url

section Completeness

variable {highlights result : List NormalizedHighlight} {topic : ParsedSummaryTopic}

theorem mem_mergedCitations_of_stable {highlights : List NormalizedHighlight}
    {grounded : NormalizedHighlight} {url : String} (stable : canonicalUrl api url = some url)
    (merged : grounded ∈ highlights) (cited : url ∈ grounded.citations) :
    url ∈ mergedCitations api highlights := by
  induction highlights using List.reverseRecOn with
  | nil => cases merged
  | append_singleton highlights last ih =>
      rw [mem_mergedCitations_concat]
      rcases List.mem_append.1 merged with before | here
      · exact ⟨url, .inl (ih before), stable⟩
      · rw [List.mem_singleton.1 here] at cited
        exact ⟨url, .inr cited, stable⟩

theorem complete_of_stable (stable : StableEvidence api request) :
    Complete api request highlights := by
  rintro highlight mem ⟨any, known, url, evidence, cites⟩
  have own_or_some : ∃ topic grounded, groundIn api request highlight = some grounded ∧
      GroundedIn api request.topics topic highlight grounded ∧
      ((∃ url, EvidenceOfKey api request (highlight.key api) url ∧ highlight.Cites api url) →
        topic.key api = highlight.key api) := by
    by_cases own : ∃ url, EvidenceOfKey api request (highlight.key api) url ∧
        highlight.Cites api url
    · obtain ⟨url, evidence, cites⟩ := own
      obtain ⟨⟨last, found, covered⟩, -⟩ := stable _ url evidence
      have key := key_of_lastTopic found
      rw [← key] at found
      obtain ⟨grounded, kept, within⟩ := groundIn_own found key.symm ⟨url, covered, cites⟩
      exact ⟨last, grounded, kept, within, fun _ => key⟩
    · obtain ⟨⟨last, found, covered⟩, -⟩ := stable (any.key api) url ⟨any, known, rfl, evidence⟩
      rw [← key_of_lastTopic found] at found
      obtain ⟨chosen, grounded, kept, within⟩ := groundIn_some found ⟨url, covered, cites⟩
      exact ⟨chosen, grounded, kept, within, fun cited => absurd cited own⟩
  obtain ⟨topic, grounded, kept, within, own⟩ := own_or_some
  have there : grounded ∈ groundedHighlights api request highlights :=
    mem_groundedHighlights.2 ⟨highlight, mem, kept⟩
  obtain ⟨merged, mem_merged, key⟩ := (merge_of api _).all grounded there
  have citations := ((merge_of api _).entry merged mem_merged).2
  refine ⟨_, enforce_eq_ok.2 ⟨merge_ne_nil there, rfl⟩, topic, mem_of_lastTopic within.last,
    ⟨merged, mem_merged, key.trans within.key, fun url evidence cites => ?_⟩, ?_, own⟩
  · obtain ⟨⟨last, found, covered⟩, same⟩ := stable _ url evidence
    rw [within.last] at found
    obtain rfl := Option.some.inj found
    rw [citations, key]
    apply mem_mergedCitations_of_stable same (List.mem_filter.2 ⟨there, decide_eq_true rfl⟩)
    exact (within.citations url).2 ⟨covered, cites⟩
  · obtain ⟨url, here⟩ := List.exists_mem_of_ne_nil _ within.nonempty
    obtain ⟨covered, cites⟩ := (within.citations url).1 here
    exact ⟨url, ⟨topic, mem_of_lastTopic within.last, rfl, covered⟩, cites⟩

/-- A highlight for the topic that cites one URL of its evidence shows whether that URL is kept. -/
theorem stable_of_complete (complete : ∀ highlights, Complete api request highlights) :
    StableEvidence api request := by
  rintro key url ⟨topic, known, rfl, evidence⟩
  obtain ⟨sent, -, form⟩ := mem_evidenceUrls.1 evidence
  have cites : (citing topic [sent]).Cites api url := ⟨sent, List.mem_singleton_self _, form⟩
  have only : ∀ other, (citing topic [sent]).Cites api other → other = url := by
    rintro other ⟨citation, mem, same⟩
    rw [List.mem_singleton.1 mem, form] at same
    exact (Option.some.inj same).symm
  have own : EvidenceOfKey api request (topic.key api) url := ⟨topic, known, rfl, evidence⟩
  obtain ⟨result, returned, other, -, ⟨merged, there, key, kept⟩, -, same⟩ :=
    complete [citing topic [sent]] _ (List.mem_singleton_self _) ⟨topic, known, url, evidence, cites⟩
  have key' : other.key api = topic.key api := same ⟨url, own, cites⟩
  rw [key'] at key kept
  have cited := kept url own cites
  obtain ⟨-, rfl⟩ := enforce_eq_ok.1 returned
  obtain ⟨last, found, name, citations, some_merged⟩ := merged_entry there
  have key_last : last.key api = topic.key api := by
    rw [← key]
    unfold NormalizedHighlight.key
    rw [name, normalizeTopicKey_trim]
    rfl
  have singleton : ∀ grounded ∈ ofKey api (last.key api)
      (groundedHighlights api request [citing topic [sent]]), ∀ citation ∈ grounded.citations,
      citation = url ∧ url ∈ last.evidenceUrls api := by
    intro grounded mem citation here
    obtain ⟨highlight, asked, within⟩ := grounded_of_key found mem
    rw [List.mem_singleton.1 asked] at within
    obtain ⟨covered, cited⟩ := (within.citations citation).1 here
    obtain rfl := only citation cited
    exact ⟨rfl, covered⟩
  have one : ∃ grounded, ofKey api (last.key api)
      (groundedHighlights api request [citing topic [sent]]) = [grounded] := by
    apply List.length_eq_one_iff.1
    have nonzero := List.length_pos_iff.2 some_merged
    have kept := List.length_filter_le (fun grounded => grounded.key api = last.key api)
      (groundedHighlights api request [citing topic [sent]])
    have positive := List.length_filter_le (fun grounded => 0 < grounded.citations.length)
      ([citing topic [sent]].filterMap (groundIn api request))
    have mapped := List.length_filterMap_le (groundIn api request) [citing topic [sent]]
    rw [List.length_singleton] at mapped
    unfold ofKey groundedHighlights at nonzero ⊢
    unfold groundedHighlights at kept
    omega
  obtain ⟨grounded, one⟩ := one
  rw [citations, one] at cited
  obtain ⟨citation, before | here, step⟩ := (mem_mergedCitations_concat []).1 cited
  · cases before
  · obtain ⟨rfl, covered⟩ := singleton grounded (by rw [one]; exact List.mem_singleton_self _)
      citation here
    rw [key_last] at found
    exact ⟨⟨last, found, covered⟩, step⟩

theorem enforce_complete_iff :
    (∀ highlights, Complete api request highlights) ↔ StableEvidence api request :=
  ⟨stable_of_complete, fun stable _ => complete_of_stable stable⟩

end Completeness

/-! ## Two spellings of a topic -/

def spelledTopic (topic url : String) : ParsedSummaryTopic where
  topic := topic
  metrics := []
  evidence := [slashEvidence url]

def spelledRequest : ParsedSummaryRequest :=
  { ParsedSummaryRequest.empty "r" with
    topics := [spelledTopic "AI" "https://a.example/x", spelledTopic "ai" "https://a.example/y"] }

/-- The evidence of the first spelling is lost, and with it the only highlight. -/
theorem spelledRequest_incomplete :
    ∃ highlight, enforceGroundedHighlights Js.plainUrls spelledRequest [highlight] =
        .error (toGroundingError
          "Brief generation produced no grounded highlights with valid evidence citations") ∧
      ¬Complete Js.plainUrls spelledRequest [highlight] := by
  have dropped : enforceGroundedHighlights Js.plainUrls spelledRequest
      [citing (spelledTopic "AI" "") ["https://a.example/x"]] =
        .error (toGroundingError
          "Brief generation produced no grounded highlights with valid evidence citations") := by
    decide +kernel
  refine ⟨_, dropped, fun complete => ?_⟩
  have cites : (citing (spelledTopic "AI" "") ["https://a.example/x"]).Cites Js.plainUrls
      "https://a.example/x" := ⟨"https://a.example/x", List.mem_singleton_self _, by decide +kernel⟩
  obtain ⟨result, returned, -⟩ := complete _ (List.mem_singleton_self _)
    ⟨spelledTopic "AI" "https://a.example/x", List.mem_cons_self .., "https://a.example/x",
      by decide +kernel, cites⟩
  rw [dropped] at returned
  cases returned

end RisingIntelligence.Brief
