import RisingIntelligence.Brief.EvidenceSelection
import RisingIntelligence.Shared.Throws

/-!
# Relevance of events to topics

The terms of a topic in `apps/brief/src/query-mode-selection.ts`, and
`dedupeRawEventsBySourceAndCanonicalUrl` of `query-mode-request-facade.ts`.

* The aliases of a topic are read from an object literal, so a topic that is named like a property of
  `Object.prototype` finds something that is no list, and the matcher is not built.
* Deduplication does not look at topics.  `covered_dedupe_iff`: a topic keeps an event if one of its
  relevant events is the first of its source and URL.
-/

namespace RisingIntelligence.Brief

open Js (UrlApi)

deriving instance DecidableEq for RawEventForSelection

structure QueryModeRawEvent extends RawEventForSelection where
  url : String
  title : Option String
  text : String
  topics : List String
  deriving DecidableEq

/-! ## Terms -/

def GENERIC_TOPIC_SEGMENTS : List String :=
  ["ai", "cloud", "data", "devtools", "framework", "infra", "language", "ml", "observability",
    "platform", "security", "web"]

def TOPIC_RELEVANCE_ALIASES : List (String × List String) :=
  [("data.kafka", ["kafka", "redpanda"]), ("observability.opentelemetry", ["opentelemetry", "otel"])]

def TOPIC_RELEVANCE_MIN_BODY_MATCHES : Nat := 2

/-- `TypeError`: what is inherited under the key has no `map`. -/
structure InheritedAliases where
  topicKey : String
  deriving DecidableEq

structure RelevanceRuntime where
  api : UrlApi
  /-- The code unit that a unit is compared as with the flag `i`. -/
  canonicalize : Nat → Nat

section Relevance

variable (runtime : RelevanceRuntime)

/-- `topicKey.split(/[._-]/)` -/
def topicSegments (topicKey : String) : List String :=
  (topicKey.toList.splitOnP fun c => c = '.' || c = '_' || c = '-').map String.ofList

def deriveTopicRelevanceTerms (topicKey : String) : Except InheritedAliases (List String) :=
  let segments := (((topicSegments topicKey).map fun segment =>
    runtime.api.toLowerCase (Js.trim segment)).filter fun segment => 3 ≤ Js.length segment).filter
      fun segment => segment ∉ GENERIC_TOPIC_SEGMENTS
  match Js.lookup TOPIC_RELEVANCE_ALIASES topicKey with
  | some (.inherited key) => .error ⟨key⟩
  | some (.own aliases) => .ok (Js.distinct (segments ++ aliases.map runtime.api.toLowerCase))
  | none => .ok (Js.distinct segments)

/-- The terms of the matcher, or `null`.  The cache of matchers answers what the builder does. -/
def getTopicRelevanceMatcher (topicKey : String) : Except InheritedAliases (Option (List String)) :=
  (deriveTopicRelevanceTerms runtime topicKey).map fun terms => if terms = [] then none else some terms

/-- `\w` -/
def isTermUnit (unit : Nat) : Bool :=
  (0x30 ≤ unit && unit ≤ 0x39) || (0x41 ≤ unit && unit ≤ 0x5A) || unit == 0x5F ||
    (0x61 ≤ unit && unit ≤ 0x7A)

def startsInWord : List Nat → Bool
  | [] => false
  | unit :: _ => isTermUnit unit

/-- `/\bterm\b/i` matches in front of the units; `inWord` tells of the unit before them. -/
def matchesTerm (term : List Nat) (inWord : Bool) (units : List Nat) : Bool :=
  let found := units.take term.length
  let lastInWord := (found.getLast?.map isTermUnit).getD inWord
  inWord != startsInWord units &&
    found.map runtime.canonicalize == term.map runtime.canonicalize &&
    lastInWord != startsInWord (units.drop term.length)

/-- The matches with the flag `g`: the next one is looked for behind the last. -/
def countTermFrom (term : List Nat) : Nat → Bool → List Nat → Nat
  | _, _, [] => 0
  | skip + 1, _, unit :: units => countTermFrom term skip (isTermUnit unit) units
  | 0, inWord, unit :: units =>
      if matchesTerm runtime term inWord (unit :: units) then
        countTermFrom term (term.length - 1) (isTermUnit unit) units + 1
      else countTermFrom term 0 (isTermUnit unit) units

def countRegexMatches (content term : String) : Nat :=
  countTermFrom runtime (Js.codeUnits term) 0 false (Js.codeUnits content)

def testTerm (content term : String) : Bool := 0 < countRegexMatches runtime content term

def countTopicRelevanceTermMatches (topicKey value : String) (fallbackWhenNoMatcher : Nat) :
    Except InheritedAliases Nat := do
  match ← getTopicRelevanceMatcher runtime topicKey with
  | none => return fallbackWhenNoMatcher
  | some terms => return terms.foldl (fun count term => count + countRegexMatches runtime value term) 0

/-! ## Rules -/

/-- `TITLE_OR_URL_TOPIC_RELEVANCE_RULE` -/
def titleOrUrlRule (event : QueryModeRawEvent) (terms : List String) : Option Bool :=
  let titleAndUrl := Js.trim (event.title.getD "" ++ " " ++ event.url)
  if terms.any (testTerm runtime titleAndUrl) then some true else none

/-- The loop of `BODY_MATCH_THRESHOLD_TOPIC_RELEVANCE_RULE`. -/
def bodyMatchThreshold (text : String) : Nat → List String → Bool
  | _, [] => false
  | bodyMatchCount, term :: terms =>
      let bodyMatchCount := bodyMatchCount + countRegexMatches runtime text term
      if TOPIC_RELEVANCE_MIN_BODY_MATCHES ≤ bodyMatchCount then true
      else bodyMatchThreshold text bodyMatchCount terms

def bodyMatchThresholdRule (event : QueryModeRawEvent) (terms : List String) : Option Bool :=
  some (bodyMatchThreshold runtime event.text 0 terms)

/-- The first rule that decides. -/
def isEventRelevantToTopic (event : QueryModeRawEvent) (topicKey : String) :
    Except InheritedAliases Bool := do
  match ← getTopicRelevanceMatcher runtime topicKey with
  | none => return true
  | some terms =>
      match titleOrUrlRule runtime event terms with
      | some decision => return decision
      | none => return (bodyMatchThresholdRule runtime event terms).getD false

variable {runtime} {topicKey : String}

/-- A topic that is named like something inherited has no matcher, and no `null` for one. -/
theorem getTopicRelevanceMatcher_of_inherited (inherited : topicKey ∈ Js.prototypeKeys) :
    getTopicRelevanceMatcher runtime topicKey = .error ⟨topicKey⟩ := by
  have found : ∀ key ∈ Js.prototypeKeys,
      Js.lookup TOPIC_RELEVANCE_ALIASES key = some (.inherited key) := by decide
  unfold getTopicRelevanceMatcher deriveTopicRelevanceTerms
  rw [found topicKey inherited]
  rfl

theorem getTopicRelevanceMatcher_of_own (own : topicKey ∉ Js.prototypeKeys) :
    ∃ terms, getTopicRelevanceMatcher runtime topicKey = .ok terms := by
  unfold getTopicRelevanceMatcher deriveTopicRelevanceTerms Js.lookup
  cases TOPIC_RELEVANCE_ALIASES.lookup topicKey with
  | some aliases => exact ⟨_, rfl⟩
  | none =>
      rw [if_neg own]
      exact ⟨_, rfl⟩

theorem countTopicRelevanceTermMatches_of_own (own : topicKey ∉ Js.prototypeKeys) (value : String)
    (fallbackWhenNoMatcher : Nat) :
    ∃ count, countTopicRelevanceTermMatches runtime topicKey value fallbackWhenNoMatcher =
      .ok count := by
  obtain ⟨terms, found⟩ : ∃ terms, getTopicRelevanceMatcher runtime topicKey = .ok terms :=
    getTopicRelevanceMatcher_of_own own
  unfold countTopicRelevanceTermMatches
  rw [found]
  cases terms with
  | none => exact ⟨_, rfl⟩
  | some terms => exact ⟨_, rfl⟩

end Relevance

/-! ## Deduplication -/

section Dedupe

variable (api : UrlApi)

/-- The canonical URL that `dedupeRawEventsBySourceAndCanonicalUrl` takes an event to have. -/
def QueryModeRawEvent.canonicalUrl (event : QueryModeRawEvent) : Option String :=
  (canonicalizeBriefEvidenceUrl api event.url).filter (· ≠ "")

def dedupeKey (event : QueryModeRawEvent) : Option String :=
  (event.canonicalUrl api).map fun canonicalUrl => event.source.name ++ ":" ++ canonicalUrl

/-- The loop, with the keys that were seen. -/
def dedupeRawEvents : List String → List QueryModeRawEvent → List QueryModeRawEvent
  | _, [] => []
  | seen, event :: events =>
      match dedupeKey api event with
      | none => event :: dedupeRawEvents seen events
      | some key =>
          if key ∈ seen then dedupeRawEvents seen events
          else event :: dedupeRawEvents (key :: seen) events

def dedupeRawEventsBySourceAndCanonicalUrl (events : List QueryModeRawEvent) :
    List QueryModeRawEvent :=
  dedupeRawEvents api [] events

variable {api} {event other : QueryModeRawEvent} {events : List QueryModeRawEvent}

/-- No name of a source has a colon, so the key tells apart what it is made of. -/
theorem dedupeKey_eq_iff {url : String} (canonical : event.canonicalUrl api = some url) :
    dedupeKey api other = dedupeKey api event ↔
      other.source = event.source ∧ other.canonicalUrl api = some url := by
  have start : ∀ (source : CanonicalSource) (url : String),
      (source.name ++ ":" ++ url).toList.takeWhile (· ≠ ':') = source.name.toList := by
    intro source url
    rw [String.toList_append, String.toList_append]
    cases source <;> rfl
  have names : ∀ source other : CanonicalSource, source.name = other.name → source = other := by
    intro source other
    cases source <;> cases other <;> decide
  unfold dedupeKey
  rw [canonical]
  constructor
  · intro same
    cases found : other.canonicalUrl api with
    | none =>
        rw [found] at same
        cases same
    | some otherUrl =>
        rw [found] at same
        have text := congrArg String.toList (Option.some.inj same)
        have name := congrArg (List.takeWhile (· ≠ ':')) text
        rw [start, start] at name
        have source := names _ _ (String.toList_inj.1 name)
        dsimp only at text
        rw [source, String.toList_append, String.toList_append (s := event.source.name ++ ":")] at text
        exact ⟨source, congrArg some (String.toList_inj.1 (List.append_cancel_left text))⟩
  · intro same
    rw [same.1, same.2]

/-- No earlier event has its source and canonical URL, unless it has no canonical URL. -/
def Leads (api : UrlApi) (before : List QueryModeRawEvent) (event : QueryModeRawEvent) : Prop :=
  ∀ url, event.canonicalUrl api = some url →
    ∀ earlier ∈ before, earlier.source = event.source → earlier.canonicalUrl api ≠ some url

theorem exists_split_cons {α : Type} {first : α} {items : List α} {p : List α → α → Prop} :
    (∃ before item after, first :: items = before ++ item :: after ∧ p before item) ↔
      p [] first ∨ ∃ before item after, items = before ++ item :: after ∧ p (first :: before) item := by
  constructor
  · intro found
    obtain ⟨before, item, after, split, met⟩ := found
    cases before with
    | nil =>
        obtain ⟨rfl, rfl⟩ := List.cons.inj split
        exact .inl met
    | cons _ before =>
        obtain ⟨rfl, rfl⟩ := List.cons.inj split
        exact .inr ⟨before, item, after, rfl, met⟩
  · intro found
    rcases found with met | ⟨before, item, after, rfl, met⟩
    · exact ⟨[], first, items, rfl, met⟩
    · exact ⟨first :: before, item, after, rfl, met⟩

/-- An event that meets a property is left if one of them was not seen before. -/
theorem exists_dedupeRawEvents_iff {seen : List String} {wanted : QueryModeRawEvent → Prop} :
    (∃ event ∈ dedupeRawEvents api seen events, wanted event) ↔
      ∃ before event after, events = before ++ event :: after ∧ wanted event ∧
        ∀ key, dedupeKey api event = some key →
          key ∉ seen ∧ ∀ earlier ∈ before, dedupeKey api earlier ≠ some key := by
  induction events generalizing seen with
  | nil =>
      refine iff_of_false ?_ ?_
      · intro found
        obtain ⟨event, mem, -⟩ := found
        cases mem
      · intro found
        obtain ⟨before, event, after, split, -⟩ := found
        cases before <;> cases split
  | cons first events ih =>
      -- the one that is left is the first event, or a later one that the first does not hide
      have later : ∀ seen', (∀ key, key ∉ seen' ↔ key ∉ seen ∧ dedupeKey api first ≠ some key) →
          ((∃ event ∈ dedupeRawEvents api seen' events, wanted event) ↔
            ∃ before event after, events = before ++ event :: after ∧ wanted event ∧
              ∀ key, dedupeKey api event = some key →
                key ∉ seen ∧ ∀ earlier ∈ first :: before, dedupeKey api earlier ≠ some key) := by
        intro seen' grown
        rw [ih]
        simp only [grown, List.forall_mem_cons, and_assoc]
      rw [exists_split_cons]
      unfold dedupeRawEvents
      cases here : dedupeKey api first with
      | none =>
          dsimp only
          rw [here] at later
          rw [List.exists_mem_cons_iff, later seen fun key => (and_iff_left nofun).symm]
          exact or_congr_left (and_iff_left nofun).symm
      | some key =>
          dsimp only
          rw [here] at later
          by_cases known : key ∈ seen
          · have hidden : ∀ other, other ∉ seen ↔ other ∉ seen ∧ some key ≠ some other := by
              intro other
              refine (and_iff_left_of_imp fun unseen same => ?_).symm
              rw [Option.some.inj same] at known
              exact unseen known
            rw [if_pos known, later seen hidden]
            exact (or_iff_right fun kept => (kept.2 key rfl).1 known).symm
          · have grown : ∀ other, other ∉ key :: seen ↔ other ∉ seen ∧ some key ≠ some other := by
              intro other
              rw [List.mem_cons, not_or, and_comm, ne_eq, Option.some_inj, eq_comm (a := other)]
            rw [if_neg known, List.exists_mem_cons_iff, later (key :: seen) grown]
            refine or_congr_left (and_iff_left fun other same => ?_).symm
            rw [← Option.some.inj same]
            exact ⟨known, fun _ mem => absurd mem List.not_mem_nil⟩

/-- The events of a topic that the rules take as relevant. -/
def Covered (runtime : RelevanceRuntime) (topicKey : String) (event : QueryModeRawEvent) : Prop :=
  topicKey ∈ event.topics ∧ isEventRelevantToTopic runtime event topicKey = .ok true

/-- Deduplication leaves a topic a relevant event if one of them is the first of its source and
canonical URL, among the events of any topic. -/
theorem covered_dedupe_iff (runtime : RelevanceRuntime) (events : List QueryModeRawEvent)
    (topicKey : String) :
    (∃ event ∈ dedupeRawEventsBySourceAndCanonicalUrl runtime.api events,
        Covered runtime topicKey event) ↔
      ∃ before event after, events = before ++ event :: after ∧ Covered runtime topicKey event ∧
        Leads runtime.api before event := by
  unfold dedupeRawEventsBySourceAndCanonicalUrl
  rw [exists_dedupeRawEvents_iff]
  refine exists_congr fun before => exists_congr fun event => exists_congr fun after => ?_
  refine and_congr_right fun _ => and_congr_right fun _ => ?_
  unfold Leads
  cases canonical : event.canonicalUrl runtime.api with
  | none =>
      have keyless : dedupeKey runtime.api event = none := by
        unfold dedupeKey
        rw [canonical]
        rfl
      rw [keyless]
      exact iff_of_true nofun nofun
  | some url =>
      have key : dedupeKey runtime.api event = some (event.source.name ++ ":" ++ url) := by
        unfold dedupeKey
        rw [canonical]
        rfl
      constructor
      · intro fresh url' same earlier mem source hidden
        obtain rfl := Option.some.inj same
        exact (fresh _ key).2 earlier mem (((dedupeKey_eq_iff canonical).2 ⟨source, hidden⟩).trans key)
      · intro leads found same
        refine ⟨List.not_mem_nil, fun earlier mem hidden => ?_⟩
        obtain ⟨source, there⟩ := (dedupeKey_eq_iff canonical).1 (hidden.trans same.symm)
        exact leads url rfl earlier mem source there

end Dedupe

/-! ### One story of two topics -/

def plainRelevance : RelevanceRuntime where
  api := Js.plainUrls
  canonicalize unit := if 0x61 ≤ unit ∧ unit ≤ 0x7A then unit - 0x20 else unit

def kafkaStory (eventId : String) (topics : List String) : QueryModeRawEvent where
  eventId := eventId
  source := .rss
  publishedAt := some 0
  fetchedAt := 0
  engagementScore := none
  url := "https://news.example/a"
  title := some "Kafka"
  text := "x"
  topics := topics

/-- Only the second event of a story has the topic, and deduplication leaves the first. -/
theorem topic_of_second_lost :
    (∃ event ∈ [kafkaStory "first" ["ai.llm"], kafkaStory "second" ["data.kafka"]],
        Covered plainRelevance "data.kafka" event) ∧
      ¬ ∃ event ∈ dedupeRawEventsBySourceAndCanonicalUrl plainRelevance.api
          [kafkaStory "first" ["ai.llm"], kafkaStory "second" ["data.kafka"]],
        Covered plainRelevance "data.kafka" event := by
  constructor
  · have second : kafkaStory "second" ["data.kafka"] ∈
        [kafkaStory "first" ["ai.llm"], kafkaStory "second" ["data.kafka"]] :=
      List.mem_cons_of_mem _ List.mem_cons_self
    exact ⟨_, second, List.mem_singleton_self _, rfl⟩
  · have left : dedupeRawEventsBySourceAndCanonicalUrl plainRelevance.api
        [kafkaStory "first" ["ai.llm"], kafkaStory "second" ["data.kafka"]] =
          [kafkaStory "first" ["ai.llm"]] := by decide
    rw [left]
    intro found
    obtain ⟨event, mem, tagged, -⟩ := found
    rw [List.mem_singleton.1 mem] at tagged
    exact absurd tagged (by decide)

end RisingIntelligence.Brief
