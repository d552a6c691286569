import RisingIntelligence.Shared.Throws
import RisingIntelligence.Shared.TopN
import RisingIntelligence.Topics.Extraction
import RisingIntelligence.Collector.IngestionPipeline

/-!
# The topics of a collected event

The step of the ingestion chain that assigns topics, with `extractTopics` of `packages/topics` as
its extractor: extraction keeps the first topics of the event, then the topics that the feed
declares are merged in and the first ones are kept again.

* `assignable` are the topics to choose from: those of the allowlist that match or are declared,
  unless they are muted.
* A topic that is declared twice is merged in twice, so `assigned_iff` asks that each such topic is
  extracted already or comes late in the order.
-/

namespace RisingIntelligence.Collector

open Async

structure TopicRuntime where
  adapterName : String
  adapterSource : Source
  api : Topics.StringApi
  allowlist : Topics.CompiledAllowlist

/-- What the chain reads of the runtime. -/
def TopicRuntime.input (runtime : TopicRuntime) : Ingestion.CollectorEventProcessorInput where
  adapterName := runtime.adapterName
  adapterSource := runtime.adapterSource
  allowlist := {
    topics := runtime.allowlist.topics.map fun topic => ⟨topic.key, topic.priority⟩
    mutedTopics := runtime.allowlist.mutedTopics
    defaultPriority := runtime.allowlist.defaultPriority
    maxTopicsPerEvent := runtime.allowlist.maxTopicsPerEvent }
  localeCompare := runtime.api.localeCompare

variable (runtime : TopicRuntime)

/-- The list that the step stores in its state. -/
def assignTopics (event : Topics.ExtractedEvent) (declaredTopics : List String) :
    Except Topics.TypeError (List String) := do
  let extractedTopics ← Topics.extractTopics runtime.api event runtime.allowlist
  .ok (Ingestion.mergeDeclaredTopics runtime.input extractedTopics declaredTopics)

def extractedEvent (event : CollectedContent) : Topics.ExtractedEvent :=
  ⟨event.title, event.text, event.url⟩

/-! ## What should be assigned -/

/-- The keys of the topics that match the event or are declared, without the muted ones. -/
def assignable (event : Topics.ExtractedEvent) (declaredTopics : List String) : List String :=
  (runtime.allowlist.topics.filter fun topic =>
    decide (topic.key ∉ runtime.allowlist.mutedTopics) &&
      (topic.matchesEvent (Topics.matcherContext runtime.api event) ||
        decide (topic.key ∈ declaredTopics))).map (·.key)

/-- Higher priorities first, then by key. -/
abbrev topicOrder : String → String → Bool := Ingestion.precedes runtime.input

/-- The assigned topics are the first of those that match or are declared. -/
structure AssignsFirst (event : Topics.ExtractedEvent) (declaredTopics topics : List String) :
    Prop where
  nodup : topics.Nodup
  first : topics = top (topicOrder runtime) runtime.allowlist.maxTopicsPerEvent
    (assignable runtime event declaredTopics)
  /-- Nothing displaces a matching topic that it does not come before. -/
  undisplaced : ∀ matched ∈ assignable runtime event [], matched ∉ topics →
    ∀ topic ∈ topics, topicOrder runtime topic matched = true

/-- A topic is extracted already: it matches, and few matching topics come before it. -/
def FirstOfMatching (event : Topics.ExtractedEvent) (key : String) : Prop :=
  key ∈ assignable runtime event [] ∧
    rank (topicOrder runtime) (assignable runtime event []) key <
      runtime.allowlist.maxTopicsPerEvent

/-- Each assignable topic that is declared twice is extracted already, or at most one place is left
for it. -/
def RepeatsHarmless (event : Topics.ExtractedEvent) (declaredTopics : List String) : Prop :=
  ∀ key ∈ assignable runtime event declaredTopics, 2 ≤ declaredTopics.count key →
    FirstOfMatching runtime event key ∨
      runtime.allowlist.maxTopicsPerEvent ≤
        rank (topicOrder runtime) (assignable runtime event declaredTopics) key + 1

section Assignment

variable {runtime} {event : Topics.ExtractedEvent} {declaredTopics topics : List String}

/-- The step passes the assigned list on. -/
theorem assigned_of_runs {S : Type} {H : Handler ingestion S} {state : Ingestion.ProcessingState}
    {next : Ingestion.Next} {s u : S} {result : CollectorEventProcessResult}
    (extractor : ∀ s title text url topics s',
      H s (.topicExtractor title text url) (.ok topics) s' →
        Topics.extractTopics runtime.api ⟨title, text, url⟩ runtime.allowlist = .ok topics)
    (run : (Ingestion.extractTopics runtime.input state next).Runs H s (.ok result) u) :
    ∃ topics t,
      assignTopics runtime (extractedEvent state.event)
        (Ingestion.parseDeclaredTopics state.event.sourceMeta) = .ok topics ∧
      (next {
        event := { state.event with tags := some (Ingestion.mergeTags state.event.tags topics) }
        topics }).Runs H t (.ok result) u := by
  obtain ⟨extracted, t, called, run⟩ := Program.runs_bind_ok.1 run
  obtain ⟨_, t', -, rest⟩ := Program.runs_bind_ok.1 run
  refine ⟨_, t', bind_eq_ok.2 ⟨extracted, ?_, rfl⟩, rest⟩
  cases called with
  | await answered finished =>
      cases finished
      exact extractor _ _ _ _ _ _ answered

/-! ### The order -/

/-- The priority that both sorts read for a key. -/
def priorityOf (runtime : TopicRuntime) (key : String) : ℚ :=
  ((runtime.input.allowlist.topics.reverse.find? (·.key = key)).map (·.priority)).getD
    runtime.allowlist.defaultPriority

theorem difference_nonpos_iff {x y : ℚ} (apart : x ≠ y) : x - y ≤ 0 ↔ x < y := by
  rw [sub_nonpos]
  exact ⟨fun le => lt_of_le_of_ne le apart, le_of_lt⟩

theorem topicOrder_iff {a b : String} :
    topicOrder runtime a b = true ↔
      priorityOf runtime b < priorityOf runtime a ∨
        priorityOf runtime b = priorityOf runtime a ∧ runtime.api.localeCompare a b ≤ 0 := by
  by_cases same : priorityOf runtime b = priorityOf runtime a
  · have compared : Ingestion.compareTopics runtime.input a b =
        .inr (runtime.api.localeCompare a b) := if_neg (not_not.2 same)
    unfold topicOrder Ingestion.precedes
    rw [compared]
    simp [same]
  · have compared : Ingestion.compareTopics runtime.input a b =
        .inl (priorityOf runtime b - priorityOf runtime a) := if_pos same
    unfold topicOrder Ingestion.precedes
    rw [compared]
    simp [same, difference_nonpos_iff same]

theorem topicOrder_total
    (locale : TotalOrder fun a b => decide (runtime.api.localeCompare a b ≤ 0)) :
    TotalOrder (topicOrder runtime) where
  trans a b c first second := by
    rw [topicOrder_iff] at first second ⊢
    have chain := locale.trans a b c
    simp only [decide_eq_true_eq] at chain
    rcases first with above | ⟨same, first⟩
    · rcases second with above' | ⟨same', -⟩
      · exact .inl (above'.trans above)
      · exact .inl (same'.trans_lt above)
    · rcases second with above' | ⟨same', second⟩
      · exact .inl (above'.trans_eq same)
      · exact .inr ⟨same'.trans same, chain first second⟩
  total a b := by
    rw [Bool.or_eq_true, topicOrder_iff, topicOrder_iff]
    have either := locale.total a b
    rw [Bool.or_eq_true, decide_eq_true_eq, decide_eq_true_eq] at either
    rcases lt_trichotomy (priorityOf runtime b) (priorityOf runtime a) with above | same | below
    · exact .inl (.inl above)
    · exact either.imp (fun first => .inr ⟨same, first⟩) fun second => .inr ⟨same.symm, second⟩
    · exact .inr (.inl below)
  antisymm a b first second := by
    rw [topicOrder_iff] at first second
    have equal := locale.antisymm a b
    simp only [decide_eq_true_eq] at equal
    rcases first with above | ⟨same, first⟩
    · rcases second with below | ⟨same, -⟩
      · exact absurd below above.asymm
      · exact absurd same above.ne'
    · rcases second with below | ⟨-, second⟩
      · exact absurd same below.ne'
      · exact equal first second

theorem priorityOf_of_mem (distinct : (runtime.allowlist.topics.map (·.key)).Nodup)
    {topic : Topics.CompiledTopic} (mem : topic ∈ runtime.allowlist.topics) :
    priorityOf runtime topic.key = topic.priority := by
  unfold priorityOf TopicRuntime.input
  dsimp only
  rw [← List.map_reverse, List.find?_map]
  have there := List.mem_reverse.2 mem
  cases found : runtime.allowlist.topics.reverse.find? ((fun other : AllowlistTopic =>
      decide (other.key = topic.key)) ∘ fun other => ⟨other.key, other.priority⟩) with
  | none =>
      have absent := List.find?_eq_none.1 found topic there
      simp at absent
  | some other =>
      have key : other.key = topic.key := by simpa using List.find?_some found
      have same := List.inj_on_of_nodup_map distinct
        (List.mem_reverse.1 (List.mem_of_find?_eq_some found)) mem key
      rw [same]
      rfl

/-! ### Extraction and merge -/

theorem assignable_nodup (distinct : (runtime.allowlist.topics.map (·.key)).Nodup) :
    (assignable runtime event declaredTopics).Nodup :=
  distinct.sublist (List.filter_sublist.map _)

/-- Extraction keeps the first matching topics. -/
theorem extractTopics_eq_ok_iff (distinct : (runtime.allowlist.topics.map (·.key)).Nodup)
    {extracted : List String} :
    Topics.extractTopics runtime.api event runtime.allowlist = .ok extracted ↔
      runtime.allowlist.Extractable (Topics.matcherContext runtime.api event) ∧
        extracted = top (topicOrder runtime) runtime.allowlist.maxTopicsPerEvent
          (assignable runtime event []) := by
  rw [Topics.extractTopics_eq_ok_iff, List.map_take]
  have keys : ((Topics.matchingTopics (Topics.matcherContext runtime.api event)
      runtime.allowlist.mutedTopics runtime.allowlist.topics).map
        Topics.CompiledTopic.toMatch).map (·.key) = assignable runtime event [] := by
    unfold assignable Topics.matchingTopics
    rw [List.map_map]
    simp [Function.comp_def, Topics.CompiledTopic.toMatch]
  have sorted : (((Topics.matchingTopics (Topics.matcherContext runtime.api event)
      runtime.allowlist.mutedTopics runtime.allowlist.topics).map
        Topics.CompiledTopic.toMatch).mergeSort (Topics.TopicMatch.notAfter runtime.api)).map
          (·.key) = (assignable runtime event []).mergeSort (topicOrder runtime) := by
    rw [← keys]
    apply List.map_mergeSort
    intro a mem b mem'
    obtain ⟨first, kept, rfl⟩ := List.mem_map.1 mem
    obtain ⟨second, kept', rfl⟩ := List.mem_map.1 mem'
    rw [Bool.eq_iff_iff, topicOrder_iff]
    have here := priorityOf_of_mem distinct (List.mem_of_mem_filter kept)
    have there := priorityOf_of_mem distinct (List.mem_of_mem_filter kept')
    unfold Topics.TopicMatch.notAfter Topics.CompiledTopic.toMatch
    dsimp only
    rw [here, there]
    by_cases same : second.priority = first.priority
    · simp [same]
    · simp [same, difference_nonpos_iff same]
  rw [sorted]
  rfl

/-- The declared topics that are merged in. -/
def validDeclared (runtime : TopicRuntime) (extractedTopics declaredTopics : List String) :
    List String :=
  declaredTopics.filter fun topic =>
    topic ∈ runtime.input.allowlist.topics.map (·.key) ∧
      topic ∉ runtime.input.allowlist.mutedTopics ∧ topic ∉ extractedTopics

theorem mergeDeclaredTopics_eq (order : TotalOrder (topicOrder runtime)) {values : List String} :
    Ingestion.mergeDeclaredTopics runtime.input
        (top (topicOrder runtime) runtime.allowlist.maxTopicsPerEvent values) declaredTopics =
      top (topicOrder runtime) runtime.allowlist.maxTopicsPerEvent
        (top (topicOrder runtime) runtime.allowlist.maxTopicsPerEvent values ++
          validDeclared runtime
            (top (topicOrder runtime) runtime.allowlist.maxTopicsPerEvent values)
            declaredTopics) := by
  unfold Ingestion.mergeDeclaredTopics
  change (if validDeclared runtime _ declaredTopics = [] then _ else _) = _
  split
  · rename_i none
    rw [none, List.append_nil, order.top_top]
  · rfl

theorem mem_assignable_iff {key : String} :
    key ∈ assignable runtime event declaredTopics ↔
      key ∈ assignable runtime event [] ∨
        key ∈ runtime.allowlist.topics.map (·.key) ∧ key ∉ runtime.allowlist.mutedTopics ∧
          key ∈ declaredTopics := by
  unfold assignable
  simp only [List.mem_map, List.mem_filter, Bool.and_eq_true, Bool.or_eq_true, decide_eq_true_eq,
    List.not_mem_nil, or_false]
  constructor
  · intro chosen
    obtain ⟨topic, ⟨mem, unmuted, found⟩, rfl⟩ := chosen
    rcases found with event | declared
    · exact .inl ⟨topic, ⟨mem, unmuted, event⟩, rfl⟩
    · exact .inr ⟨⟨topic, mem, rfl⟩, unmuted, declared⟩
  · intro either
    rcases either with ⟨topic, ⟨mem, unmuted, event⟩, rfl⟩ | ⟨⟨topic, mem, rfl⟩, unmuted, declared⟩
    · exact ⟨topic, ⟨mem, unmuted, .inl event⟩, rfl⟩
    · exact ⟨topic, ⟨mem, unmuted, .inr declared⟩, rfl⟩

theorem mem_validDeclared_iff {key : String} {extractedTopics : List String} :
    key ∈ validDeclared runtime extractedTopics declaredTopics ↔
      key ∈ declaredTopics ∧ key ∈ runtime.allowlist.topics.map (·.key) ∧
        key ∉ runtime.allowlist.mutedTopics ∧ key ∉ extractedTopics := by
  unfold validDeclared TopicRuntime.input
  rw [List.mem_filter, List.map_map, decide_eq_true_eq]
  rfl

/-- An assignable topic that is not extracted is merged in as often as it is declared. -/
theorem count_validDeclared {key : String} {extractedTopics : List String}
    (chosen : key ∈ assignable runtime event declaredTopics) (cut : key ∉ extractedTopics) :
    (validDeclared runtime extractedTopics declaredTopics).count key =
      declaredTopics.count key := by
  unfold assignable at chosen
  obtain ⟨topic, kept, rfl⟩ := List.mem_map.1 chosen
  obtain ⟨mem, kept⟩ := List.mem_filter.1 kept
  have unmuted := of_decide_eq_true (Bool.and_eq_true_iff.1 kept).1
  apply List.count_filter
  unfold TopicRuntime.input
  rw [decide_eq_true_eq, List.map_map]
  exact ⟨List.mem_map.2 ⟨topic, mem, rfl⟩, unmuted, cut⟩

/-- Merging the declared topics into the first matching ones chooses the first of all, unless a
repeated one takes a second place. -/
theorem merged_eq_iff (order : TotalOrder (topicOrder runtime))
    (distinct : (runtime.allowlist.topics.map (·.key)).Nodup) :
    Ingestion.mergeDeclaredTopics runtime.input
        (top (topicOrder runtime) runtime.allowlist.maxTopicsPerEvent
          (assignable runtime event [])) declaredTopics =
        top (topicOrder runtime) runtime.allowlist.maxTopicsPerEvent
          (assignable runtime event declaredTopics) ↔
      RepeatsHarmless runtime event declaredTopics := by
  have extracted : ∀ key, key ∈ top (topicOrder runtime) runtime.allowlist.maxTopicsPerEvent
      (assignable runtime event []) ↔ FirstOfMatching runtime event key :=
    fun key => order.mem_top_iff (assignable_nodup distinct)
  have union : ∀ key, key ∈ assignable runtime event declaredTopics ↔
      key ∈ assignable runtime event [] ∨
        key ∈ validDeclared runtime (top (topicOrder runtime)
          runtime.allowlist.maxTopicsPerEvent (assignable runtime event [])) declaredTopics := by
    intro key
    rw [mem_assignable_iff, mem_validDeclared_iff]
    constructor
    · intro either
      rcases either with found | ⟨known, unmuted, declared⟩
      · exact .inl found
      · by_cases cut : key ∈ top (topicOrder runtime) runtime.allowlist.maxTopicsPerEvent
            (assignable runtime event [])
        · exact .inl (mem_of_mem_top cut)
        · exact .inr ⟨declared, known, unmuted, cut⟩
    · intro either
      rcases either with found | ⟨declared, known, unmuted, -⟩
      · exact .inl found
      · exact .inr ⟨known, unmuted, declared⟩
  rw [mergeDeclaredTopics_eq order, order.top_top_append_iff (assignable_nodup distinct)
    (fun key added => (mem_validDeclared_iff.1 added).2.2.2) (assignable_nodup distinct) union]
  unfold RepeatsHarmless
  constructor
  · intro late key chosen twice
    by_cases first : FirstOfMatching runtime event key
    · exact .inl first
    · have cut := mt (extracted key).1 first
      exact .inr (late key ((count_validDeclared chosen cut).symm ▸ twice))
  · intro harmless key twice
    have added := List.count_pos_iff.1 (Nat.lt_of_lt_of_le Nat.zero_lt_two twice)
    have chosen := (union key).2 (.inr added)
    have cut := (mem_validDeclared_iff.1 added).2.2.2
    rw [count_validDeclared chosen cut] at twice
    rcases harmless key chosen twice with first | late
    · exact absurd ((extracted key).2 first) cut
    · exact late

/-- The step assigns the first of the topics that match or are declared exactly if no key of a
matching topic is a function that throws and repeats in the declared list are harmless. -/
theorem assigned_iff
    (locale : TotalOrder fun a b => decide (runtime.api.localeCompare a b ≤ 0))
    (distinct : (runtime.allowlist.topics.map (·.key)).Nodup) :
    (∃ topics, assignTopics runtime event declaredTopics = .ok topics ∧
        AssignsFirst runtime event declaredTopics topics) ↔
      runtime.allowlist.Extractable (Topics.matcherContext runtime.api event) ∧
        RepeatsHarmless runtime event declaredTopics := by
  have order := topicOrder_total locale
  constructor
  · intro assigned
    obtain ⟨topics, ran, first⟩ := assigned
    obtain ⟨extractedTopics, extraction, merged⟩ := bind_eq_ok.1 ran
    obtain ⟨calm, rfl⟩ := (extractTopics_eq_ok_iff distinct).1 extraction
    exact ⟨calm, (merged_eq_iff order distinct).1 ((Except.ok.inj merged).trans first.first)⟩
  · intro condition
    obtain ⟨calm, harmless⟩ := condition
    have extraction := (extractTopics_eq_ok_iff distinct).2 ⟨calm, rfl⟩
    have merged := (merged_eq_iff order distinct).2 harmless
    refine ⟨_, bind_eq_ok.2 ⟨_, extraction, congrArg Except.ok merged⟩, ?_⟩
    constructor
    · exact nodup_top _ _ (assignable_nodup distinct)
    · rfl
    · intro matched found cut topic assigned
      exact order.le_of_cut assigned (mem_assignable_iff.2 (.inl found)) cut

end Assignment

/-! ### Two topics -/

def twoTopics : TopicRuntime where
  adapterName := "rss"
  adapterSource := .canonical .rss
  api := ⟨id, ordinalCompare⟩
  allowlist := {
    topics := [⟨"data.postgres", 70, [.keyword "postgres"]⟩, ⟨"web.react", 50, [.keyword "react"]⟩]
    maxTopicsPerEvent := 2
    defaultPriority := 50
    mutedTopics := [] }

def reactEvent : Topics.ExtractedEvent := ⟨none, "a react app", none⟩

theorem assigned_iff_twice :
    (∃ topics, assignTopics twoTopics reactEvent ["data.postgres", "data.postgres"] = .ok topics ∧
        AssignsFirst twoTopics reactEvent ["data.postgres", "data.postgres"] topics) ↔
      twoTopics.allowlist.Extractable (Topics.matcherContext twoTopics.api reactEvent) ∧
        RepeatsHarmless twoTopics reactEvent ["data.postgres", "data.postgres"] :=
  assigned_iff ordinalCompare_total (by decide)

/-- A topic declared twice takes both places, and the topic of the event is lost. -/
theorem declared_twice :
    (TotalOrder fun a b => decide (twoTopics.api.localeCompare a b ≤ 0)) ∧
      (twoTopics.allowlist.topics.map (·.key)).Nodup ∧
      1 ≤ twoTopics.allowlist.maxTopicsPerEvent ∧
      assignTopics twoTopics reactEvent ["data.postgres", "data.postgres"] =
        .ok ["data.postgres", "data.postgres"] ∧
      assignable twoTopics reactEvent ["data.postgres", "data.postgres"] =
        ["data.postgres", "web.react"] := by
  have order := @topicOrder_total twoTopics ordinalCompare_total
  have matching : assignable twoTopics reactEvent [] = ["web.react"] := by decide
  have first : top (topicOrder twoTopics) 2 ["web.react"] = ["web.react"] := by
    unfold top
    rw [order.mergeSort_eq (List.pairwise_singleton _ _) (List.Perm.refl _)]
    rfl
  have extraction : Topics.extractTopics twoTopics.api reactEvent twoTopics.allowlist =
      .ok ["web.react"] := by
    have fresh : ∀ topic ∈ twoTopics.allowlist.topics, topic.key ∉ Js.prototypeKeys := by decide
    rw [extractTopics_eq_ok_iff (by decide), matching]
    exact ⟨fun topic mem _ _ known => absurd known (fresh topic mem), first.symm⟩
  have merged : Ingestion.mergeDeclaredTopics twoTopics.input ["web.react"]
      ["data.postgres", "data.postgres"] = ["data.postgres", "data.postgres"] := by
    have sorted : ["web.react", "data.postgres", "data.postgres"].mergeSort
        (topicOrder twoTopics) = ["data.postgres", "data.postgres", "web.react"] :=
      order.mergeSort_eq (by decide +kernel) (by decide)
    exact congrArg (List.take 2) sorted
  refine ⟨ordinalCompare_total, by decide, by decide, ?_, by decide⟩
  exact bind_eq_ok.2 ⟨_, extraction, congrArg Except.ok merged⟩

end RisingIntelligence.Collector
