import RisingIntelligence.Brief.QueryMode

/-!
# Resolved topics

What the topics of a resolved request hold.  `groundable_iff`: they are ranked, match, are of the groups
within the cap and have evidence within the limit; but

* an event that has a topic twice among its tags is taken twice for it,
* identifiers that differ in white space around them are made the same, and
* a URL that is present may have no canonical form, so there may be nothing to cite.
-/

namespace RisingIntelligence.Brief

open Js (UrlApi)

/-! ## The events of a topic -/

section Candidates

variable {N : Type} {runtime : QueryRuntime N} {keys : List String} {topic : String}
  {state state' : TopicEvents} {event : QueryModeRawEvent} {events : List QueryModeRawEvent}

def takesEvent (runtime : RelevanceRuntime) (topicKey : String) (event : QueryModeRawEvent) : Bool :=
  match isEventRelevantToTopic runtime event topicKey with
  | .ok relevant => relevant
  | .error _ => false

/-- The relevant events, each as often as it is tagged with the topic. -/
def topicCandidates (runtime : RelevanceRuntime) (events : List QueryModeRawEvent) (topic : String) :
    List QueryModeRawEvent :=
  repeated (fun event => event.topics.count topic) (events.filter (takesEvent runtime topic))

def TopicEvents.eventsOf (state : TopicEvents) (topic : String) : List QueryModeRawEvent :=
  (Js.Map.get topic state.eventsByTopic).getD []

theorem eventsOf_visitTopic {topicKey : String}
    (visited : visitTopic runtime keys event state topicKey = .ok state') (known : topic ∈ keys) :
    state'.eventsOf topic = state.eventsOf topic ++
      if topicKey = topic ∧ takesEvent runtime.relevance topic event = true then [event] else [] := by
  unfold visitTopic at visited
  by_cases here : topicKey = topic
  · subst here
    rw [if_pos known] at visited
    obtain ⟨relevant, decided, rfl⟩ := map_eq_ok.1 visited
    have takes : takesEvent runtime.relevance topicKey event = relevant := by
      unfold takesEvent
      rw [decided]
    rw [takes]
    unfold TopicEvents.eventsOf
    cases relevant with
    | true =>
        rw [if_pos rfl, if_pos ⟨rfl, rfl⟩, Js.Map.get_set, if_pos rfl]
        rfl
    | false =>
        rw [if_neg Bool.false_ne_true, if_neg fun both => Bool.false_ne_true both.2, List.append_nil]
  · rw [if_neg fun both => here both.1, List.append_nil]
    by_cases ranked : topicKey ∈ keys
    · rw [if_pos ranked] at visited
      obtain ⟨relevant, -, rfl⟩ := map_eq_ok.1 visited
      unfold TopicEvents.eventsOf
      cases relevant with
      | true => rw [if_pos rfl, Js.Map.get_set, if_neg (Ne.symm here)]
      | false => rw [if_neg Bool.false_ne_true]
    · rw [if_neg ranked] at visited
      rw [Except.ok.inj visited]

theorem eventsOf_visitTopics {topics : List String}
    (visited : topics.foldlM (visitTopic runtime keys event) state = .ok state')
    (known : topic ∈ keys) :
    state'.eventsOf topic = state.eventsOf topic ++
      if takesEvent runtime.relevance topic event = true then
        List.replicate (topics.count topic) event
      else [] := by
  induction topics generalizing state with
  | nil =>
      obtain rfl := Except.ok.inj visited
      rw [List.count_nil, List.replicate_zero, ite_self, List.append_nil]
  | cons topicKey topics ih =>
      rw [List.foldlM_cons] at visited
      obtain ⟨next, first, rest⟩ := bind_eq_ok.1 visited
      rw [ih rest, eventsOf_visitTopic first known, List.append_assoc]
      congr 1
      by_cases takes : takesEvent runtime.relevance topic event = true
      · rw [if_pos takes, if_pos takes]
        by_cases here : topicKey = topic
        · rw [if_pos ⟨here, takes⟩, here, List.count_cons_self, List.replicate_succ]
          rfl
        · rw [if_neg fun both => here both.1, List.count_cons_of_ne here]
          rfl
      · rw [if_neg takes, if_neg takes, if_neg fun both => takes both.2]
        rfl

theorem eventsOf_visitEvents (grouped : events.foldlM (visitEvent runtime keys) state = .ok state')
    (known : topic ∈ keys) :
    state'.eventsOf topic = state.eventsOf topic ++ topicCandidates runtime.relevance events topic := by
  induction events generalizing state with
  | nil =>
      obtain rfl := Except.ok.inj grouped
      exact (List.append_nil _).symm
  | cons event events ih =>
      rw [List.foldlM_cons] at grouped
      obtain ⟨next, first, rest⟩ := bind_eq_ok.1 grouped
      rw [ih rest, eventsOf_visitTopics first known, List.append_assoc]
      congr 1
      unfold topicCandidates repeated
      by_cases takes : takesEvent runtime.relevance topic event = true
      · rw [if_pos takes, List.filter_cons_of_pos takes, List.flatMap_cons]
      · rw [if_neg takes, List.filter_cons_of_neg takes, List.nil_append]

theorem eventsOf_groupEvents (grouped : groupEvents runtime keys events = .ok state)
    (known : topic ∈ keys) :
    state.eventsOf topic = topicCandidates runtime.relevance events topic :=
  eventsOf_visitEvents grouped known

end Candidates

/-! ## The events that are loaded -/

section Loaded

variable {api : UrlApi} {tables : QueryTables} {keys seen : List String}
  {lookbackStart requestedAt : Int} {events : List QueryModeRawEvent} {rows : List RawEventRow}

theorem dedupeRawEvents_sublist : (dedupeRawEvents api seen events).Sublist events := by
  induction events generalizing seen with
  | nil => exact List.Sublist.refl []
  | cons event events ih =>
      unfold dedupeRawEvents
      split
      · exact ih.cons_cons event
      · split
        · exact ih.cons event
        · exact ih.cons_cons event

theorem eventIds_toEvent_sublist :
    ((rows.filterMap RawEventRow.toEvent).map (·.eventId)).Sublist (rows.map (·.eventId)) := by
  induction rows with
  | nil => exact List.Sublist.refl []
  | cons row rows ih =>
      cases url : row.url with
      | none =>
          have left : row.toEvent = none := by
            unfold RawEventRow.toEvent
            rw [url]
            rfl
          rw [List.filterMap_cons_none left]
          exact ih.cons row.eventId
      | some text =>
          have made : row.toEvent = some
              { toRawEventForSelection := row.toRawEventForSelection
                url := text
                title := row.title
                text := row.text
                topics := row.topics } := by
            unfold RawEventRow.toEvent
            rw [url]
            rfl
          rw [List.filterMap_cons_some made]
          exact ih.cons_cons row.eventId

/-- Loaded events have different identifiers, as their rows have. -/
theorem nodup_eventIds_loadRawEvents :
    ((loadRawEvents api tables keys lookbackStart requestedAt).map (·.eventId)).Nodup := by
  have rows : ((findRawEvents tables keys lookbackStart requestedAt).map (·.eventId)).Nodup := by
    unfold findRawEvents
    refine List.Nodup.perm ?_ ((List.mergeSort_perm _ newestFirst).map _).symm
    exact tables.unique.sublist (List.filter_sublist.map _)
  have events := rows.sublist eventIds_toEvent_sublist
  exact events.sublist (dedupeRawEvents_sublist.map _)

end Loaded

/-! ## Evidence of a topic -/

/-- The URL of the record of an event. -/
def citedUrl (api : UrlApi) (event : QueryModeRawEvent) : Option String :=
  if event.url = "" then none else canonicalizeBriefEvidenceUrl api event.url

/-- What a topic is grounded by: among its candidates, those placed before the last are tagged with it
once; no two that are selected have identifiers that differ in white space around them; and one of them
has a URL with a canonical form. -/
structure Evident (runtime : RelevanceRuntime) (parameters : ResolvedQueryModeParameters)
    (topic : String) (candidates selected : List QueryModeRawEvent) : Prop where
  taggedOnce : ∀ event ∈ placedBeforeLast QueryModeRawEvent.toRawEventForSelection candidates
    parameters.evidenceStrategy parameters.maxEventsPerTopic.toNat, event.topics.count topic ≤ 1
  identified : ∀ event ∈ selected, ∀ other ∈ selected,
    Js.trim event.eventId = Js.trim other.eventId → event.eventId = other.eventId
  citable : selected ≠ [] → ∃ event ∈ selected, citedUrl runtime.api event ≠ none

section Evidence

variable {N : Type} {runtime : QueryRuntime N} {parameters : ResolvedQueryModeParameters}
  {events selected : List QueryModeRawEvent} {event : QueryModeRawEvent} {topic : String}
  {record : BriefEvidenceRecord} {evidence : List BriefEvidenceRecord}

theorem collectedEvidence_eq_ok (collected : collectedEvidence runtime event = .ok record) :
    record.eventId = Js.trim event.eventId ∧ record.url = citedUrl runtime.relevance.api event := by
  obtain ⟨_, _, _, -, -, -, rfl⟩ := buildBriefEvidenceRecord_eq_ok.1 collected
  exact ⟨rfl, rfl⟩

theorem count_topicCandidates (distinct : events.Nodup)
    (mem : event ∈ topicCandidates runtime.relevance events topic) :
    (topicCandidates runtime.relevance events topic).count event = event.topics.count topic :=
  count_repeated (distinct.filter _) (mem_repeated.1 mem).1

theorem mem_of_mem_topicCandidates
    (mem : event ∈ topicCandidates runtime.relevance events topic) : event ∈ events :=
  List.mem_of_mem_filter (mem_repeated.1 mem).1

/-- The records of a topic have different identifiers and something to cite if it is evident. -/
theorem evident_iff (unique : (events.map (·.eventId)).Nodup)
    (selects : selectEvidence QueryModeRawEvent.toRawEventForSelection
      (topicCandidates runtime.relevance events topic) parameters.evidenceStrategy
        parameters.maxEventsPerTopic.toNat = .ok selected)
    (collected : List.Forall₂ (fun event record => collectedEvidence runtime event = .ok record)
      selected evidence) :
    Evident runtime.relevance parameters topic (topicCandidates runtime.relevance events topic)
        selected ↔
      (evidence.map (·.eventId)).Nodup ∧
        (evidence ≠ [] → ∃ record ∈ evidence, record.url ≠ none) := by
  have distinct : events.Nodup := List.Nodup.of_map _ unique
  have gathered : Gathered (topicCandidates runtime.relevance events topic) :=
    gathered_repeated (distinct.filter _)
  have inside : selected ⊆ events := fun event mem =>
    mem_of_mem_topicCandidates ((selectEvidence_fits _ selects).2 mem)
  have ids : evidence.map (·.eventId) = selected.map fun event => Js.trim event.eventId :=
    map_eq_of_forall₂ collected fun event record made => (collectedEvidence_eq_ok made).1
  have uncited : (∀ record ∈ evidence, record.url = none) ↔
      ∀ event ∈ selected, citedUrl runtime.relevance.api event = none :=
    forall_mem_iff_of_forall₂ collected fun event record made => by
      rw [(collectedEvidence_eq_ok made).2]
  have cited : (∃ record ∈ evidence, record.url ≠ none) ↔
      ∃ event ∈ selected, citedUrl runtime.relevance.api event ≠ none := by
    have either := not_congr uncited
    simpa only [not_forall, exists_prop] using either
  have empty : evidence ≠ [] ↔ selected ≠ [] := by
    rw [← List.length_pos_iff, ← List.length_pos_iff, collected.length_eq]
  have placed : (∀ event ∈ placedBeforeLast QueryModeRawEvent.toRawEventForSelection
      (topicCandidates runtime.relevance events topic) parameters.evidenceStrategy
        parameters.maxEventsPerTopic.toNat, event.topics.count topic ≤ 1) ↔ selected.Nodup := by
    rw [nodup_selectEvidence_iff gathered selects]
    refine forall_congr' fun event => forall_congr' fun mem => ?_
    rw [count_topicCandidates distinct (of_mem_placedBeforeLast mem).1]
  rw [ids, cited, empty]
  constructor
  · intro evident
    refine ⟨(placed.1 evident.taggedOnce).map_on fun event mem other mem' same => ?_,
      evident.citable⟩
    exact List.inj_on_of_nodup_map unique (inside mem) (inside mem')
      (evident.identified event mem other mem' same)
  · intro grounded
    constructor
    case taggedOnce => exact placed.2 (List.Nodup.of_map _ grounded.1)
    case identified =>
      intro event mem other mem' same
      rw [List.inj_on_of_nodup_map grounded.1 mem mem' same]
    case citable => exact grounded.2

end Evidence

/-! ## The stages -/

section Stages

variable {config : QueryModeConfig} {request : ParsedSummaryRequest}
  {parameters : ResolvedQueryModeParameters}

theorem parameters_eq_ok (read : resolveQueryModeParameters config request = .ok parameters) :
    parameters.topicGlobs = resolveTopicGlobs request ∧
      resolveMaxTopics request = .ok parameters.maxTopics ∧
        resolveMaxEventsPerTopic config request = .ok parameters.maxEventsPerTopic := by
  unfold resolveQueryModeParameters at read
  obtain ⟨lookbackDays, -, read⟩ := bind_eq_ok.1 read
  obtain ⟨maxTopics, topics, read⟩ := bind_eq_ok.1 read
  obtain ⟨maxEventsPerTopic, events, read⟩ := bind_eq_ok.1 read
  obtain rfl := Except.ok.inj read
  exact ⟨rfl, topics, events⟩

theorem maxTopics_pos {maxTopics : Int} (resolved : resolveMaxTopics request = .ok maxTopics) :
    0 < maxTopics := by
  unfold resolveMaxTopics at resolved
  dsimp only at resolved
  split at resolved
  · cases resolved
  · obtain rfl := Except.ok.inj resolved
    omega

/-- The limit is at least one and at most what is requested. -/
theorem maxEventsPerTopic_bounds {maxEventsPerTopic : Int}
    (resolved : resolveMaxEventsPerTopic config request = .ok maxEventsPerTopic) :
    1 ≤ maxEventsPerTopic ∧ ∀ requested,
      request.query.bind (·.maxEventsPerTopic) = some requested → maxEventsPerTopic ≤ requested := by
  unfold resolveMaxEventsPerTopic at resolved
  dsimp only at resolved
  split at resolved
  · cases resolved
  · rename_i positive
    obtain rfl := Except.ok.inj resolved
    refine ⟨le_max_left _ _, fun requested asked => ?_⟩
    rw [asked, Option.some_or, Option.getD_some] at positive ⊢
    split
    · split
      · omega
      · omega
    · omega

variable {N : Type} {runtime : QueryRuntime N} {tables : QueryTables}
  {ranked : RankedTopicSelection N} {hydrated : HydratedTopicSelection}

/-- The events that a ranked topic may take. -/
def RankedTopicSelection.candidates (runtime : QueryRuntime N) (tables : QueryTables)
    (request : ParsedSummaryRequest) (parameters : ResolvedQueryModeParameters)
    (ranked : RankedTopicSelection N) (topic : String) : List QueryModeRawEvent :=
  topicCandidates runtime.relevance
    (loadRawEvents runtime.relevance.api tables
      (Js.distinct (ranked.selectedRankedTopics.map (·.topic))) parameters.lookbackStart
        request.requestedAt) topic

/-- The topic of a ranked one, with records of what is selected of its candidates. -/
def Hydrates (runtime : QueryRuntime N) (parameters : ResolvedQueryModeParameters)
    (candidates : String → List QueryModeRawEvent) (rankedTopic : RankedTopicScore N)
    (topic : ParsedSummaryTopic) : Prop :=
  topic.topic = rankedTopic.topic ∧ ∃ selected,
    selectEvidence QueryModeRawEvent.toRawEventForSelection (candidates rankedTopic.topic)
      parameters.evidenceStrategy parameters.maxEventsPerTopic.toNat = .ok selected ∧
    List.Forall₂ (fun event record => collectedEvidence runtime event = .ok record) selected
      topic.evidence

theorem hydrateTopic_eq_ok {events : TopicEvents} {rankedTopic : RankedTopicScore N}
    {topic : ParsedSummaryTopic} {candidates : String → List QueryModeRawEvent}
    (same : events.eventsOf rankedTopic.topic = candidates rankedTopic.topic)
    (made : hydrateTopic runtime events parameters rankedTopic = .ok topic) :
    Hydrates runtime parameters candidates rankedTopic topic := by
  unfold hydrateTopic at made
  obtain ⟨selected, selects, made⟩ := bind_eq_ok.1 made
  obtain ⟨evidence, collected, made⟩ := bind_eq_ok.1 made
  obtain rfl := Except.ok.inj made
  refine ⟨rfl, selected, ?_, mapM_eq_ok.1 (mapError_eq_ok.1 collected)⟩
  rw [← same]
  exact mapError_eq_ok.1 selects

theorem hydrateTopics_eq_ok (hydrates : hydrateTopics runtime tables request
      ranked.selectedRankedTopics parameters = .ok hydrated) :
    hydrated.topicsWithEvidence =
        hydrated.hydratedTopics.filter (fun topic => 0 < topic.evidence.length) ∧
      List.Forall₂ (Hydrates runtime parameters
        (ranked.candidates runtime tables request parameters)) ranked.selectedRankedTopics
          hydrated.hydratedTopics := by
  unfold hydrateTopics at hydrates
  obtain ⟨events, grouped, hydrates⟩ := bind_eq_ok.1 hydrates
  obtain ⟨hydratedTopics, all, hydrates⟩ := bind_eq_ok.1 hydrates
  obtain rfl := Except.ok.inj hydrates
  refine ⟨rfl, ?_⟩
  have each := List.forall₂_iff_zip.1 (mapM_eq_ok.1 all)
  refine List.forall₂_iff_zip.2 ⟨each.1, fun {rankedTopic topic} mem => ?_⟩
  refine hydrateTopic_eq_ok ?_ (each.2 mem)
  have known : rankedTopic.topic ∈ Js.distinct (ranked.selectedRankedTopics.map (·.topic)) :=
    Js.mem_distinct.2 (List.mem_map_of_mem (List.of_mem_zip mem).1)
  exact eventsOf_groupEvents (mapError_eq_ok.1 grouped) known

/-- The topics that are resolved are of the selected ones, in their order. -/
theorem topics_sublist
    (hydrates : hydrateTopics runtime tables request ranked.selectedRankedTopics parameters =
      .ok hydrated) :
    (hydrated.topicsWithEvidence.map (·.topic)).Sublist
      (ranked.selectedRankedTopics.map (·.topic)) := by
  obtain ⟨kept, each⟩ := hydrateTopics_eq_ok hydrates
  have names : hydrated.hydratedTopics.map (·.topic) = ranked.selectedRankedTopics.map (·.topic) :=
    map_eq_of_forall₂ each fun _ _ made => made.1
  rw [kept, ← names]
  exact List.filter_sublist.map _

variable [Zero N] [One N] [Add N] [Mul N] [Div N] [LT N] [DecidableLT N] [LE N]
  [DecidableLE N] [DecidableEq N]

omit [One N] [Mul N] [Div N] [LE N] [DecidableLE N] in
theorem length_selectTopLevelTopicGroups_le {rankedTopics : List (RankedTopicScore N)}
    {maxTopicGroups : Int} (positive : 0 < maxTopicGroups) :
    ((selectTopLevelTopicGroups runtime rankedTopics maxTopicGroups).length : Int) ≤
      maxTopicGroups := by
  unfold selectTopLevelTopicGroups
  rw [if_neg (by omega), List.length_map, List.length_take]
  omega

theorem loadRankedTopics_eq_ok
    (loaded : loadRankedTopics runtime tables request parameters = .ok ranked) :
    ∃ topicMatchers, createTopicGlobMatcherSet (some parameters.topicGlobs) = .ok topicMatchers ∧
      ranked = rankedTopicSelection runtime
        (loadTrendSnapshots runtime.messages tables parameters.lookbackStart request.requestedAt)
          request.requestedAt topicMatchers parameters.maxTopics := by
  unfold loadRankedTopics at loaded
  obtain ⟨topicMatchers, compiled, loaded⟩ := bind_eq_ok.1 loaded
  refine ⟨topicMatchers, mapError_eq_ok.1 compiled, ?_⟩
  dsimp only at loaded
  split at loaded
  · cases loaded
  · exact (Except.ok.inj loaded).symm

end Stages

/-! ## What is resolved -/

section Resolved

variable {N : Type} [Zero N] [One N] [Add N] [Mul N] [Div N] [LT N] [DecidableLT N] [LE N]
  [DecidableLE N] [DecidableEq N]

/-- The topics of a resolution are distinct, match the globs of the request, stand in rank order, are of
at most as many groups as asked for, and have evidence within the limit, of different identifiers, that
can be cited. -/
structure Groundable (runtime : QueryRuntime N) (tables : QueryTables)
    (request : ParsedSummaryRequest) (parameters : ResolvedQueryModeParameters)
    (resolution : QueryModeResolution) : Prop where
  distinct : (resolution.topics.map (·.topic)).Nodup
  ranked : ∃ matchers, createTopicGlobMatcherSet (some (resolveTopicGlobs request)) = .ok matchers ∧
    (∀ topic ∈ resolution.topics, matchers.matchesTopic topic.topic = true) ∧
    (resolution.topics.map (·.topic)).Sublist ((rankTopicsFromSnapshots runtime.ranking
      matchers.matchesTopic (loadTrendSnapshots runtime.messages tables parameters.lookbackStart
        request.requestedAt) request.requestedAt).map (·.topic))
  groups : ∀ maxTopics, resolveMaxTopics request = .ok maxTopics →
    ((Js.distinct (resolution.topics.map fun topic =>
      getTopLevelTopicGroup runtime.relevance.api topic.topic)).length : Int) ≤ maxTopics
  evidence : ∀ topic ∈ resolution.topics, 1 ≤ topic.evidence.length ∧
    (topic.evidence.length : Int) ≤ parameters.maxEventsPerTopic ∧
    ∀ requested, request.query.bind (·.maxEventsPerTopic) = some requested →
      (topic.evidence.length : Int) ≤ requested
  eventIds : ∀ topic ∈ resolution.topics, (topic.evidence.map (·.eventId)).Nodup
  citable : ∀ topic ∈ resolution.topics, ∃ record ∈ topic.evidence, record.url ≠ none

variable {runtime : QueryRuntime N} {config : QueryModeConfig} {tables : QueryTables}
  {request : ParsedSummaryRequest} {parameters : ResolvedQueryModeParameters}
  {resolution : QueryModeResolution}

theorem resolved_eq_ok
    (read : resolveQueryModeParameters config request = .ok parameters)
    (resolved : resolveQueryModeRequest runtime config tables request = .ok resolution) :
    ∃ ranked hydrated, loadRankedTopics runtime tables request parameters = .ok ranked ∧
      hydrateTopics runtime tables request ranked.selectedRankedTopics parameters = .ok hydrated ∧
        resolution.topics = hydrated.topicsWithEvidence := by
  unfold resolveQueryModeRequest at resolved
  obtain ⟨_, read', resolved⟩ := bind_eq_ok.1 resolved
  obtain rfl := Except.ok.inj (read.symm.trans read')
  obtain ⟨ranked, loaded, resolved⟩ := bind_eq_ok.1 resolved
  obtain ⟨hydrated, hydrates, resolved⟩ := bind_eq_ok.1 resolved
  refine ⟨ranked, hydrated, loaded, hydrates, ?_⟩
  dsimp only at resolved
  split at resolved
  · cases resolved
  · obtain rfl := Except.ok.inj resolved
    rfl

theorem groups_le {ranked : RankedTopicSelection N} {topicMatchers : TopicGlobMatcherSet}
    {snapshots : List TrendSnapshotRecord} {requestedAt maxTopics : Int} {topics : List String}
    (positive : 0 < maxTopics)
    (selection : ranked = rankedTopicSelection runtime snapshots requestedAt topicMatchers maxTopics)
    (part : topics.Sublist (ranked.selectedRankedTopics.map (·.topic))) :
    ((Js.distinct (topics.map (getTopLevelTopicGroup runtime.relevance.api))).length : Int) ≤
      maxTopics := by
  have grouped : topics.map (getTopLevelTopicGroup runtime.relevance.api) ⊆
      selectTopLevelTopicGroups runtime ranked.rankedTopics maxTopics := by
    intro group mem
    obtain ⟨topic, there, rfl⟩ := List.mem_map.1 mem
    obtain ⟨rankedTopic, selected, rfl⟩ := List.mem_map.1 (part.subset there)
    rw [selection] at selected ⊢
    exact List.contains_iff_mem.1 (List.mem_filter.1 selected).2
  have short := List.Subperm.length_le (List.subperm_of_subset (Js.nodup_distinct _)
    fun group mem => grouped (Js.mem_distinct.1 mem))
  have cap : ((selectTopLevelTopicGroups runtime ranked.rankedTopics maxTopics).length : Int) ≤
      maxTopics := length_selectTopLevelTopicGroups_le positive
  omega

/-- Only identifiers and URLs may be wrong. -/
theorem groundable_of_hydrated {ranked : RankedTopicSelection N} {hydrated : HydratedTopicSelection}
    (read : resolveQueryModeParameters config request = .ok parameters)
    (loaded : loadRankedTopics runtime tables request parameters = .ok ranked)
    (hydrates : hydrateTopics runtime tables request ranked.selectedRankedTopics parameters =
      .ok hydrated)
    (topics : resolution.topics = hydrated.topicsWithEvidence)
    (grounded : ∀ topic ∈ hydrated.hydratedTopics, (topic.evidence.map (·.eventId)).Nodup ∧
      (topic.evidence ≠ [] → ∃ record ∈ topic.evidence, record.url ≠ none)) :
    Groundable runtime tables request parameters resolution := by
  obtain ⟨globs, maxTopics, maxEvents⟩ := parameters_eq_ok read
  obtain ⟨topicMatchers, compiled, selection⟩ := loadRankedTopics_eq_ok loaded
  obtain ⟨kept, each⟩ := hydrateTopics_eq_ok hydrates
  have part := topics_sublist hydrates
  have ranking : (ranked.selectedRankedTopics.map (·.topic)).Sublist
      ((rankTopicsFromSnapshots runtime.ranking topicMatchers.matchesTopic (loadTrendSnapshots
        runtime.messages tables parameters.lookbackStart request.requestedAt)
          request.requestedAt).map (·.topic)) := by
    rw [selection]
    exact List.filter_sublist.map _
  have hydratedOf : ∀ topic ∈ resolution.topics, topic ∈ hydrated.hydratedTopics ∧
      0 < topic.evidence.length := by
    intro topic mem
    rw [topics, kept] at mem
    exact ⟨List.mem_of_mem_filter mem, of_decide_eq_true (List.mem_filter.1 mem).2⟩
  constructor
  case distinct =>
    rw [topics]
    exact nodup_ranked_topics.sublist (part.trans ranking)
  case ranked =>
    rw [globs] at compiled
    rw [topics]
    refine ⟨topicMatchers, compiled, fun topic mem => ?_, part.trans ranking⟩
    have there := (part.trans ranking).subset (List.mem_map_of_mem mem)
    exact (mem_ranked_topics.1 there).2.1
  case groups =>
    intro asked resolved
    obtain rfl := Except.ok.inj (maxTopics.symm.trans resolved)
    have few := groups_le (maxTopics_pos maxTopics) selection part
    rw [topics]
    rwa [List.map_map] at few
  case evidence =>
    intro topic mem
    obtain ⟨there, some⟩ := hydratedOf topic mem
    obtain ⟨rankedTopic, -, -, selected, selects, collected⟩ := exists_of_mem_forall₂ each there
    have fits := (selectEvidence_fits _ selects).1
    rw [collected.length_eq] at fits
    obtain ⟨least, most⟩ := maxEventsPerTopic_bounds maxEvents
    have limit : (topic.evidence.length : Int) ≤ parameters.maxEventsPerTopic := by omega
    exact ⟨some, limit, fun requested asked => limit.trans (most requested asked)⟩
  case eventIds =>
    intro topic mem
    exact (grounded topic (hydratedOf topic mem).1).1
  case citable =>
    intro topic mem
    obtain ⟨there, some⟩ := hydratedOf topic mem
    exact (grounded topic there).2 (List.ne_nil_of_length_pos some)

/-- A resolution is groundable if all selected topics are evident.  The rest of it always holds. -/
theorem groundable_iff (runtime : QueryRuntime N) (config : QueryModeConfig) (tables : QueryTables)
    (request : ParsedSummaryRequest) {parameters : ResolvedQueryModeParameters}
    {resolution : QueryModeResolution}
    (read : resolveQueryModeParameters config request = .ok parameters)
    (resolved : resolveQueryModeRequest runtime config tables request = .ok resolution) :
    Groundable runtime tables request parameters resolution ↔
      ∀ ranked, loadRankedTopics runtime tables request parameters = .ok ranked →
        ∀ rankedTopic ∈ ranked.selectedRankedTopics, ∀ selected,
          selectEvidence QueryModeRawEvent.toRawEventForSelection
              (ranked.candidates runtime tables request parameters rankedTopic.topic)
              parameters.evidenceStrategy parameters.maxEventsPerTopic.toNat = .ok selected →
            Evident runtime.relevance parameters rankedTopic.topic
              (ranked.candidates runtime tables request parameters rankedTopic.topic) selected := by
  obtain ⟨ranked, hydrated, loaded, hydrates, topics⟩ := resolved_eq_ok read resolved
  obtain ⟨kept, each⟩ := hydrateTopics_eq_ok hydrates
  have evident : (∀ topic ∈ hydrated.hydratedTopics, (topic.evidence.map (·.eventId)).Nodup ∧
      (topic.evidence ≠ [] → ∃ record ∈ topic.evidence, record.url ≠ none)) ↔
        ∀ rankedTopic ∈ ranked.selectedRankedTopics, ∀ selected,
          selectEvidence QueryModeRawEvent.toRawEventForSelection
              (ranked.candidates runtime tables request parameters rankedTopic.topic)
              parameters.evidenceStrategy parameters.maxEventsPerTopic.toNat = .ok selected →
            Evident runtime.relevance parameters rankedTopic.topic
              (ranked.candidates runtime tables request parameters rankedTopic.topic) selected := by
    refine forall_mem_iff_of_forall₂ each fun rankedTopic topic made => ?_
    obtain ⟨-, selected, selects, collected⟩ := made
    have one := evident_iff nodup_eventIds_loadRawEvents selects collected
    constructor
    · intro all
      exact one.1 (all selected selects)
    · intro grounded other selects'
      obtain rfl := Except.ok.inj (selects.symm.trans selects')
      exact one.2 grounded
  constructor
  · intro groundable ranked' loaded'
    obtain rfl := Except.ok.inj (loaded.symm.trans loaded')
    refine evident.1 fun topic mem => ?_
    by_cases empty : topic.evidence = []
    · rw [empty]
      exact ⟨List.nodup_nil, fun some => absurd rfl some⟩
    · have there : topic ∈ resolution.topics := by
        rw [topics, kept]
        exact List.mem_filter.2 ⟨mem, decide_eq_true (List.length_pos_of_ne_nil empty)⟩
      exact ⟨groundable.eventIds topic there, fun _ => groundable.citable topic there⟩
  · intro all
    have grounded := evident.2 (all ranked loaded)
    exact groundable_of_hydrated read loaded hydrates topics grounded

end Resolved

/-! ### A story without a URL -/

/-- Whole numbers; a snapshot of the moment has the weight 1. -/
def wholeNumbers : RankingRuntime Int where
  coerce value := match value with
    | .number (.finite value) => some value.num
    | _ => none
  weightOfAge _ := 1
  localeCompare := ordinalCompare

def plainQueries : QueryRuntime Int where
  messages := Js.messagesFor .null
  relevance := plainRelevance
  ranking := wholeNumbers
  toNumber value := .finite value

def dailyQueries : QueryModeConfig where
  BRIEF_DEFAULT_LOOKBACK_DAYS := 1
  BRIEF_MAX_LOOKBACK_DAYS := 30
  BRIEF_MAX_QUERY_EVENTS_PER_TOPIC := 10

/-- The instant that `plainQueries.messages` has a text for. -/
def newYear : Int := 1704067200000

def llmSnapshot : TrendSnapshotRow where
  generatedAt := newYear
  snapshot := .object [("topics", .array [.object [("topic", .string "ai.llm"),
    ("score", .number (.finite 4))]])]
  window := .window60m

/-- It is tagged twice, and its URL is none. -/
def llmStory : RawEventRow where
  eventId := "1"
  source := .rss
  publishedAt := some newYear
  fetchedAt := newYear
  engagementScore := none
  url := some "no url"
  title := some "LLM"
  text := "x"
  topics := ["ai.llm", "ai.llm"]

def llmTables : QueryTables where
  trendSnapshots := [llmSnapshot]
  rawEvents := [llmStory]
  unique := List.nodup_singleton _

def recentQuery : ParsedSummaryRequest :=
  { ParsedSummaryRequest.empty "query" with
    requestedAt := newYear
    query := some
      { lookbackDays := none
        topicGlobs := none
        maxEventsPerTopic := some 2
        evidenceStrategy := some (.own .recency) } }

def recentParameters : ResolvedQueryModeParameters where
  lookbackDays := 1
  topicGlobs := ["*"]
  maxTopics := 10
  maxEventsPerTopic := 2
  evidenceStrategy := .own .recency
  lookbackStart := newYear - 86400000

def llmRecord : BriefEvidenceRecord where
  eventId := "1"
  source := .own .rss
  url := none
  title := some "LLM"
  publishedAt := some newYear
  fetchedAt := some newYear
  textExcerpt := some "x"
  suspiciousPattern := none

def llmTopic : ParsedSummaryTopic where
  topic := "ai.llm"
  metrics := [{
    topic := "ai.llm"
    window := .own 2
    score := .finite 4
    volume := .finite 0
    acceleration := .finite 0 }]
  evidence := [llmRecord, llmRecord]

def llmResolution : QueryModeResolution where
  windows := [.own 2]
  query :=
    { lookbackDays := some 1
      topicGlobs := some ["*"]
      maxEventsPerTopic := some 2
      evidenceStrategy := some (.own .recency) }
  topics := [llmTopic]
  coverageWarnings := []

theorem recentParameters_read :
    resolveQueryModeParameters dailyQueries recentQuery = .ok recentParameters := rfl

theorem llmSnapshot_loaded : loadTrendSnapshots plainQueries.messages llmTables
    recentParameters.lookbackStart recentQuery.requestedAt = [llmSnapshot.toTrendSnapshotRecord] := by
  have found : (llmTables.trendSnapshots.filter fun row => row.window = .window60m &&
      isWithin recentParameters.lookbackStart recentQuery.requestedAt row.generatedAt) =
        [llmSnapshot] := rfl
  unfold loadTrendSnapshots
  dsimp only
  rw [found, List.map_singleton, List.mergeSort_singleton]
  rfl

def llmRanked : RankedTopicScore Int := ⟨"ai.llm", 4, 0, 0, newYear⟩

theorem llmSnapshot_ranked {matchesTopic : String → Bool} (matched : matchesTopic "ai.llm" = true) :
    rankTopicsFromSnapshots wholeNumbers matchesTopic [llmSnapshot.toTrendSnapshotRecord] newYear =
      [llmRanked] := by
  have trimmed : Js.trim "ai.llm" = "ai.llm" := by decide
  have added : [llmSnapshot.toTrendSnapshotRecord].foldl
      (addSnapshot wholeNumbers matchesTopic newYear) [] = [("ai.llm", ⟨4, 0, 0, 1, newYear⟩)] := by
    change addMetric matchesTopic (1 : Int) newYear [] ⟨"ai.llm", 4, 0, 0⟩ = _
    have kept : ¬ ("ai.llm" = "" ∨ matchesTopic "ai.llm" = false) := by
      rw [matched]
      decide
    unfold addMetric
    dsimp only
    rw [trimmed, if_neg kept]
    rfl
  unfold rankTopicsFromSnapshots
  rw [added, List.map_singleton, List.mergeSort_singleton]
  rfl

theorem llm_group : selectTopLevelTopicGroups plainQueries [llmRanked] 10 = ["ai"] := by
  have grouped : [llmRanked].foldl (addRankedTopic plainQueries) [] = [("ai", ⟨4, newYear⟩)] := rfl
  unfold selectTopLevelTopicGroups
  rw [if_neg (by decide), grouped, List.mergeSort_singleton]
  rfl

theorem llmRanked_loaded : loadRankedTopics plainQueries llmTables recentQuery recentParameters =
    .ok ⟨[llmRanked], [llmRanked], ["ai"], []⟩ := by
  have compiled : resolveTopicMatchers recentParameters =
      .ok ⟨["*"], (matchesAnyTopicGlob · [[.anyUnits]])⟩ := rfl
  have selected : rankedTopicSelection plainQueries [llmSnapshot.toTrendSnapshotRecord]
      recentQuery.requestedAt ⟨["*"], (matchesAnyTopicGlob · [[.anyUnits]])⟩
        recentParameters.maxTopics = ⟨[llmRanked], [llmRanked], ["ai"], []⟩ := by
    have ranked : rankTopicsFromSnapshots plainQueries.ranking (matchesAnyTopicGlob · [[.anyUnits]])
        [llmSnapshot.toTrendSnapshotRecord] recentQuery.requestedAt = [llmRanked] :=
      llmSnapshot_ranked (by decide)
    have group : selectTopLevelTopicGroups plainQueries [llmRanked] recentParameters.maxTopics =
        ["ai"] := llm_group
    unfold rankedTopicSelection
    dsimp only
    rw [ranked, group]
    rfl
  unfold loadRankedTopics
  rw [compiled, llmSnapshot_loaded]
  dsimp only [bind, Except.bind]
  rw [selected]
  rfl

def llmEvent : QueryModeRawEvent :=
  { toRawEventForSelection := llmStory.toRawEventForSelection
    url := "no url"
    title := llmStory.title
    text := llmStory.text
    topics := llmStory.topics }

theorem llmEvent_loaded : loadRawEvents plainQueries.relevance.api llmTables ["ai.llm"]
    recentParameters.lookbackStart recentQuery.requestedAt = [llmEvent] := by
  have found : (llmTables.rawEvents.filter fun row =>
      row.topics.any (["ai.llm"].contains ·) && (row.publishedAt.map
        (isWithin recentParameters.lookbackStart recentQuery.requestedAt)).getD false &&
          row.url.isSome) = [llmStory] := rfl
  unfold loadRawEvents findRawEvents
  rw [found, List.mergeSort_singleton]
  rfl

theorem llm_grouped : groupEvents plainQueries ["ai.llm"] [llmEvent] =
    .ok { eventsByTopic := [("ai.llm", [llmEvent, llmEvent])] } := rfl

theorem llm_hydrated : hydrateTopics plainQueries llmTables recentQuery [llmRanked]
    recentParameters = .ok ⟨[llmTopic], [llmTopic], []⟩ := by
  have keys : Js.distinct ([llmRanked].map (·.topic)) = ["ai.llm"] := by decide
  unfold hydrateTopics
  dsimp only
  rw [keys, llmEvent_loaded, llm_grouped]
  rfl

theorem llmTables_resolved :
    resolveQueryModeRequest plainQueries dailyQueries llmTables recentQuery = .ok llmResolution := by
  unfold resolveQueryModeRequest
  rw [recentParameters_read]
  dsimp only [bind, Except.bind]
  rw [llmRanked_loaded]
  dsimp only
  rw [llm_hydrated]
  rfl

/-- The topic of a story that has it twice, and whose URL is none, has the same identifier twice and
nothing to cite. -/
theorem story_not_groundable :
    resolveQueryModeRequest plainQueries dailyQueries llmTables recentQuery = .ok llmResolution ∧
      ¬ Groundable plainQueries llmTables recentQuery recentParameters llmResolution ∧
        (llmTopic.evidence.map (·.eventId) = ["1", "1"] ∧
          llmTopic.evidence.map (·.url) = [none, none]) := by
  refine ⟨llmTables_resolved, fun groundable => ?_, rfl, rfl⟩
  obtain ⟨record, mem, cited⟩ := groundable.citable llmTopic List.mem_cons_self
  have only : record = llmRecord := by
    rcases List.mem_cons.1 mem with first | rest
    · exact first
    · exact List.mem_singleton.1 rest
  rw [only] at cited
  exact cited rfl

theorem groundable_iff_llmTables :
    resolveQueryModeParameters dailyQueries recentQuery = .ok recentParameters ∧
    resolveQueryModeRequest plainQueries dailyQueries llmTables recentQuery = .ok llmResolution ∧
    (Groundable plainQueries llmTables recentQuery recentParameters llmResolution ↔
      ∀ ranked, loadRankedTopics plainQueries llmTables recentQuery recentParameters = .ok ranked →
        ∀ rankedTopic ∈ ranked.selectedRankedTopics, ∀ selected,
          selectEvidence QueryModeRawEvent.toRawEventForSelection
              (ranked.candidates plainQueries llmTables recentQuery recentParameters
                rankedTopic.topic)
              recentParameters.evidenceStrategy recentParameters.maxEventsPerTopic.toNat =
                .ok selected →
            Evident plainQueries.relevance recentParameters rankedTopic.topic
              (ranked.candidates plainQueries llmTables recentQuery recentParameters
                rankedTopic.topic) selected) :=
  ⟨recentParameters_read, llmTables_resolved,
    groundable_iff plainQueries dailyQueries llmTables recentQuery recentParameters_read
      llmTables_resolved⟩

end RisingIntelligence.Brief
