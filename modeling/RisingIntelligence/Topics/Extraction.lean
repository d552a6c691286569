import RisingIntelligence.Shared.Json
import RisingIntelligence.Shared.JsString
import RisingIntelligence.Shared.Pattern
import RisingIntelligence.Shared.Throws
import Mathlib.Data.Rat.Defs
import Mathlib.Data.List.Sort

/-!
# Topics of an event

`packages/topics/src/topic-extraction.ts`: the topics of a compiled allowlist that a matcher and
the relevance rules of the topic find in an event, the first of them by priority and key.

* A topic key is looked up in an object literal for its relevance rules.  A key that names a
  property of `Object.prototype` finds that function instead, and calling it mostly throws.
* A compiled regular expression is whatever its `test` is.
-/

namespace RisingIntelligence.Topics

inductive CompiledMatcher : Type
  | keyword (value : String)
  | regex (test : String → Bool)

structure CompiledTopic where
  key : String
  priority : ℚ
  matchers : List CompiledMatcher

structure CompiledAllowlist where
  topics : List CompiledTopic
  maxTopicsPerEvent : Nat
  defaultPriority : ℚ
  mutedTopics : List String

structure MatcherEvaluationContext where
  content : String
  lowerContent : String
  lowerTitle : String
  lowerText : String
  lowerUrl : String

/-- What a function of `Object.prototype` throws without an object to be called on. -/
structure TypeError where
  property : String
  deriving DecidableEq

def matchesCompiledMatcher (matcher : CompiledMatcher) (context : MatcherEvaluationContext) :
    Bool :=
  match matcher with
  | .keyword value => Js.includes context.lowerContent value
  | .regex test => test context.content

/-! ## Relevance rules -/

open Js (Pattern)

def spaces : Pattern := .oneOrMore Js.isWhitespace

def anyOf : List Pattern → Pattern
  | [] => .char fun _ => false
  | [pattern] => pattern
  | pattern :: rest => .alt pattern (anyOf rest)

def words (texts : List String) : Pattern := anyOf (texts.map .literal)

/-- The patterns of the source stand between two `\b`. -/
def KAFKA_TECHNICAL_PATTERNS : List Pattern :=
  [.seq (.literal "apache") (.seq spaces (.literal "kafka")),
    .literal "redpanda",
    .seq (.literal "kafka") (.seq spaces (words ["stream", "streams", "connect", "broker",
      "brokers", "cluster", "consumer", "producer", "topic", "topics", "partition",
      "partitions"])),
    anyOf [.literal "confluent", .seq (.literal "schema") (.seq spaces (.literal "registry")),
      .literal "ksql"],
    anyOf [.literal "stream", .literal "streaming",
      .seq (.literal "event") (.seq spaces (.literal "stream"))]]

def OTEL_TECHNICAL_PATTERNS : List Pattern :=
  [words ["trace", "traces", "tracing", "span", "spans", "metric", "metrics", "telemetry",
      "instrumentation"],
    words ["collector", "exporter", "sdk", "semconv", "otlp"],
    words ["prometheus", "grafana", "tempo", "jaeger"]]

inductive TopicRelevanceDecision : Type
  | allow
  | deny
  | next
  deriving DecidableEq

structure TopicRelevanceRule (RuleContext : Type) where
  name : String
  evaluate : RuleContext → TopicRelevanceDecision

def isWordUnit (unit : Nat) : Bool :=
  (0x61 ≤ unit && unit ≤ 0x7A) || (0x30 ≤ unit && unit ≤ 0x39)

/-- What remains after a term and a character that is not of a word. -/
def afterTerm (term units : List Nat) : Option (List Nat) :=
  if term.isPrefixOf units then
    match units.drop term.length with
    | [] => some []
    | unit :: rest => if isWordUnit unit then none else some rest
  else none

/-- What remains after `(^|[^a-z0-9])term([^a-z0-9]|$)`. -/
def afterWholeWord (atStart : Bool) (term units : List Nat) : Option (List Nat) :=
  ((if atStart then afterTerm term units else none) : Option (List Nat)).orElse fun _ =>
    match units with
    | [] => none
    | unit :: rest => if isWordUnit unit then none else afterTerm term rest

/-- The matches of the pattern with the flag `g`: the next one is looked for behind the last. -/
def countMatches (term : List Nat) : Nat → Bool → List Nat → Nat
  | _, _, [] => 0
  | skip + 1, _, _ :: rest => countMatches term skip false rest
  | 0, atStart, unit :: rest =>
      match afterWholeWord atStart term (unit :: rest) with
      | none => countMatches term 0 false rest
      | some behind => countMatches term (rest.length - behind.length) false rest + 1

def countWholeWord (content term : String) : Nat :=
  countMatches (Js.codeUnits term) 0 true (Js.codeUnits content)

def hasWholeWord (content term : String) : Bool := countWholeWord content term > 0

def hasAnyPattern (content : String) (patterns : List Pattern) : Bool :=
  patterns.any fun pattern => pattern.testWords content

def evaluateTopicRelevanceRules {RuleContext : Type}
    (rules : List (TopicRelevanceRule RuleContext)) (context : RuleContext)
    (fallbackDecision : Bool) : Bool :=
  match rules with
  | [] => fallbackDecision
  | rule :: rest =>
      match rule.evaluate context with
      | .next => evaluateTopicRelevanceRules rest context fallbackDecision
      | decision => decision = .allow

structure KafkaTopicRelevanceContext where
  content : String
  lowerUrl : String
  kafkaCount : Nat
  hasTechnicalSignals : Bool
  hasRedpanda : Bool
  hasApacheKafka : Bool
  hasPeterKafka : Bool
  hasKafkaesque : Bool

def createKafkaTopicRelevanceContext (context : MatcherEvaluationContext) :
    KafkaTopicRelevanceContext :=
  let content := Js.trim (context.lowerTitle ++ " " ++ context.lowerText)
  { content
    lowerUrl := context.lowerUrl
    kafkaCount := countWholeWord content "kafka"
    hasTechnicalSignals := hasAnyPattern content KAFKA_TECHNICAL_PATTERNS
    hasRedpanda := hasWholeWord content "redpanda"
    hasApacheKafka := hasWholeWord content "apache kafka"
    hasPeterKafka := hasWholeWord content "peter kafka"
    hasKafkaesque := hasWholeWord content "kafkaesque" }

def KAFKA_TOPIC_RELEVANCE_RULES : List (TopicRelevanceRule KafkaTopicRelevanceContext) :=
  [⟨"empty_content", fun context => if context.content = "" then .deny else .next⟩,
    ⟨"explicit_kafka_terms", fun context =>
      if context.hasRedpanda || context.hasApacheKafka then .allow else .next⟩,
    ⟨"missing_kafka_term", fun context => if context.kafkaCount = 0 then .deny else .next⟩,
    ⟨"peter_kafka_without_technical_context", fun context =>
      if !context.hasPeterKafka || context.hasTechnicalSignals then .next else .deny⟩,
    ⟨"kafkaesque_without_technical_context", fun context =>
      if !context.hasKafkaesque || context.hasTechnicalSignals then .next else .deny⟩,
    ⟨"techmeme_without_technical_context", fun context =>
      if !Js.includes context.lowerUrl "techmeme.com" || context.hasTechnicalSignals then .next
      else .deny⟩,
    ⟨"technical_signal_match", fun context =>
      if context.hasTechnicalSignals then .allow else .next⟩,
    ⟨"multiple_kafka_mentions_fallback", fun context =>
      if context.kafkaCount ≥ 2 ∧ !context.hasPeterKafka then .allow else .deny⟩]

def isKafkaTopicRelevant (context : MatcherEvaluationContext) : Bool :=
  evaluateTopicRelevanceRules KAFKA_TOPIC_RELEVANCE_RULES
    (createKafkaTopicRelevanceContext context) false

structure OpenTelemetryTopicRelevanceContext where
  content : String
  hasOpenTelemetry : Bool
  hasOtel : Bool
  hasTechnicalSignals : Bool

def createOpenTelemetryTopicRelevanceContext (context : MatcherEvaluationContext) :
    OpenTelemetryTopicRelevanceContext :=
  let content := Js.trim (context.lowerTitle ++ " " ++ context.lowerText)
  { content
    hasOpenTelemetry := hasWholeWord content "opentelemetry"
    hasOtel := hasWholeWord content "otel"
    hasTechnicalSignals := hasAnyPattern content OTEL_TECHNICAL_PATTERNS }

def OPEN_TELEMETRY_TOPIC_RELEVANCE_RULES :
    List (TopicRelevanceRule OpenTelemetryTopicRelevanceContext) :=
  [⟨"empty_content", fun context => if context.content = "" then .deny else .next⟩,
    ⟨"explicit_opentelemetry_term", fun context =>
      if context.hasOpenTelemetry then .allow else .next⟩,
    ⟨"missing_otel_term", fun context => if context.hasOtel then .next else .deny⟩,
    ⟨"otel_technical_signal_match", fun context =>
      if context.hasTechnicalSignals then .allow else .deny⟩]

def isOpenTelemetryTopicRelevant (context : MatcherEvaluationContext) : Bool :=
  evaluateTopicRelevanceRules OPEN_TELEMETRY_TOPIC_RELEVANCE_RULES
    (createOpenTelemetryTopicRelevanceContext context) false

abbrev TopicRelevanceStrategy : Type := MatcherEvaluationContext → Bool

def TOPIC_RELEVANCE_STRATEGIES : List (String × TopicRelevanceStrategy) :=
  [("data.kafka", isKafkaTopicRelevant),
    ("observability.opentelemetry", isOpenTelemetryTopicRelevant)]

/-- The functions of `Object.prototype` that may be called on nothing; what they return is
truthy. -/
def callablePrototypeKeys : List String := ["constructor", "toString"]

def passesTopicRelevanceFilter (topicKey : String) (context : MatcherEvaluationContext) :
    Except TypeError Bool :=
  match Js.lookup TOPIC_RELEVANCE_STRATEGIES topicKey with
  | some (.own strategy) => .ok (strategy context)
  | some (.inherited property) =>
      if property ∈ callablePrototypeKeys then .ok true else .error ⟨property⟩
  -- `ALWAYS_RELEVANT_TOPIC_STRATEGY`
  | none => .ok true

/-! ## Extraction -/

structure ExtractedEvent where
  title : Option String
  text : String
  url : Option String

structure TopicMatch where
  key : String
  priority : ℚ

/-- `toLowerCase` and `localeCompare` of the runtime. -/
structure StringApi where
  toLowerCase : String → String
  localeCompare : String → String → Int

variable (api : StringApi)

def matcherContext (event : ExtractedEvent) : MatcherEvaluationContext :=
  let title := event.title.getD ""
  let content := title ++ " " ++ event.text
  { content
    lowerContent := api.toLowerCase content
    lowerTitle := api.toLowerCase title
    lowerText := api.toLowerCase event.text
    lowerUrl := api.toLowerCase (event.url.getD "") }

/-- The loop of `extractTopics` over the topics. -/
def findMatches (context : MatcherEvaluationContext) (mutedTopics : List String) :
    List CompiledTopic → Except TypeError (List TopicMatch)
  | [] => .ok []
  | topic :: rest =>
      if topic.key ∈ mutedTopics then findMatches context mutedTopics rest
      else if !topic.matchers.any fun matcher => matchesCompiledMatcher matcher context then
        findMatches context mutedTopics rest
      else do
        let relevant ← passesTopicRelevanceFilter topic.key context
        let found ← findMatches context mutedTopics rest
        .ok (if relevant then ⟨topic.key, topic.priority⟩ :: found else found)

/-- The comparator of `extractTopics` finds `a` not after `b`. -/
def TopicMatch.notAfter (a b : TopicMatch) : Bool :=
  if b.priority ≠ a.priority then b.priority - a.priority ≤ 0
  else api.localeCompare a.key b.key ≤ 0

def extractTopics (event : ExtractedEvent) (allowlist : CompiledAllowlist) :
    Except TypeError (List String) := do
  let found ← findMatches (matcherContext api event) allowlist.mutedTopics allowlist.topics
  .ok (((found.mergeSort (TopicMatch.notAfter api)).take allowlist.maxTopicsPerEvent).map (·.key))

/-! ## What is extracted -/

variable {api : StringApi} {context : MatcherEvaluationContext} {topics : List CompiledTopic}
  {mutedTopics : List String} {allowlist : CompiledAllowlist} {event : ExtractedEvent}

def CompiledTopic.matched (context : MatcherEvaluationContext) (topic : CompiledTopic) : Bool :=
  topic.matchers.any fun matcher => matchesCompiledMatcher matcher context

/-- The topic has a matcher for the event, and its rules find it relevant. -/
def CompiledTopic.matchesEvent (context : MatcherEvaluationContext) (topic : CompiledTopic) :
    Bool :=
  topic.matched context &&
    match passesTopicRelevanceFilter topic.key context with
    | .ok relevant => relevant
    | .error _ => false

/-- The key of the topic names no function of `Object.prototype` that throws. -/
def CompiledTopic.Answers (topic : CompiledTopic) : Prop :=
  topic.key ∈ Js.prototypeKeys → topic.key ∈ callablePrototypeKeys

/-- The topics of the allowlist that extraction can come to answer. -/
def CompiledAllowlist.Extractable (allowlist : CompiledAllowlist)
    (context : MatcherEvaluationContext) : Prop :=
  ∀ topic ∈ allowlist.topics, topic.key ∉ allowlist.mutedTopics →
    topic.matched context = true → topic.Answers

theorem passesTopicRelevanceFilter_isOk_iff {topicKey : String} :
    (∃ relevant, passesTopicRelevanceFilter topicKey context = .ok relevant) ↔
      (topicKey ∈ Js.prototypeKeys → topicKey ∈ callablePrototypeKeys) := by
  unfold passesTopicRelevanceFilter Js.lookup
  cases own : TOPIC_RELEVANCE_STRATEGIES.lookup topicKey with
  | some strategy =>
      have apart : ∀ entry ∈ TOPIC_RELEVANCE_STRATEGIES, entry.1 ∉ Js.prototypeKeys := by decide
      obtain ⟨before, after, same, -⟩ := List.lookup_eq_some_iff.1 own
      have fresh := apart (topicKey, strategy) (by rw [same]; simp)
      exact iff_of_true ⟨_, rfl⟩ fun known => absurd known fresh
  | none =>
      by_cases known : topicKey ∈ Js.prototypeKeys
      · by_cases callable : topicKey ∈ callablePrototypeKeys
        · simp [known, callable]
        · simp [known, callable]
      · simp [known]

/-- The topics that are not muted and match the event. -/
def matchingTopics (context : MatcherEvaluationContext) (mutedTopics : List String)
    (topics : List CompiledTopic) : List CompiledTopic :=
  topics.filter fun topic => decide (topic.key ∉ mutedTopics) && topic.matchesEvent context

def CompiledTopic.toMatch (topic : CompiledTopic) : TopicMatch := ⟨topic.key, topic.priority⟩

theorem matchingTopics_cons_of_passed {topic : CompiledTopic} {relevant : Bool}
    (unmuted : topic.key ∉ mutedTopics) (matched : topic.matched context = true)
    (passed : passesTopicRelevanceFilter topic.key context = .ok relevant) :
    matchingTopics context mutedTopics (topic :: topics) =
      if relevant then topic :: matchingTopics context mutedTopics topics
      else matchingTopics context mutedTopics topics := by
  have decided : topic.matchesEvent context = relevant := by
    simp [CompiledTopic.matchesEvent, matched, passed]
  unfold matchingTopics
  rw [List.filter_cons, decided]
  simp [unmuted]

/-- The loop finds the matching topics unless it comes to a function that throws. -/
theorem findMatches_eq_ok_iff {found : List TopicMatch} :
    findMatches context mutedTopics topics = .ok found ↔
      (∀ topic ∈ topics, topic.key ∉ mutedTopics → topic.matched context = true → topic.Answers) ∧
        found = (matchingTopics context mutedTopics topics).map CompiledTopic.toMatch := by
  induction topics generalizing found with
  | nil =>
      unfold findMatches
      rw [Except.ok.injEq, eq_comm]
      simp [matchingTopics]
  | cons topic rest ih =>
      unfold findMatches
      rw [List.forall_mem_cons]
      by_cases muted : topic.key ∈ mutedTopics
      · have skipped : matchingTopics context mutedTopics (topic :: rest) =
            matchingTopics context mutedTopics rest := List.filter_cons_of_neg (by simp [muted])
        rw [if_pos muted, ih, skipped]
        simp [muted]
      · rw [if_neg muted]
        change (if !topic.matched context then _ else _) = _ ↔ _
        cases matched : topic.matched context with
        | false =>
            have skipped : matchingTopics context mutedTopics (topic :: rest) =
                matchingTopics context mutedTopics rest :=
              List.filter_cons_of_neg (by simp [CompiledTopic.matchesEvent, matched])
            rw [skipped]
            simpa using ih
        | true =>
            rw [if_neg (by decide), bind_eq_ok]
            constructor
            · intro ran
              obtain ⟨relevant, passed, ran⟩ := ran
              obtain ⟨others, tail, same⟩ := bind_eq_ok.1 ran
              obtain ⟨calm, rfl⟩ := ih.1 tail
              have answer := passesTopicRelevanceFilter_isOk_iff.1 ⟨relevant, passed⟩
              refine ⟨⟨fun _ _ => answer, calm⟩, ?_⟩
              rw [matchingTopics_cons_of_passed muted matched passed, ← Except.ok.inj same]
              cases relevant <;> rfl
            · intro spec
              obtain ⟨⟨answer, calm⟩, same⟩ := spec
              obtain ⟨relevant, passed⟩ :=
                passesTopicRelevanceFilter_isOk_iff.2 (answer muted rfl)
              refine ⟨relevant, passed, bind_eq_ok.2 ⟨_, ih.2 ⟨calm, rfl⟩, ?_⟩⟩
              rw [same, matchingTopics_cons_of_passed muted matched passed]
              cases relevant <;> rfl

theorem extractTopics_eq_ok_iff {extracted : List String} :
    extractTopics api event allowlist = .ok extracted ↔
      allowlist.Extractable (matcherContext api event) ∧
        extracted = ((((matchingTopics (matcherContext api event) allowlist.mutedTopics
          allowlist.topics).map CompiledTopic.toMatch).mergeSort (TopicMatch.notAfter api)).take
            allowlist.maxTopicsPerEvent).map (·.key) := by
  unfold extractTopics
  rw [bind_eq_ok]
  constructor
  · intro ran
    obtain ⟨found, loop, same⟩ := ran
    obtain ⟨calm, rfl⟩ := findMatches_eq_ok_iff.1 loop
    exact ⟨calm, (Except.ok.inj same).symm⟩
  · intro spec
    obtain ⟨calm, same⟩ := spec
    exact ⟨_, findMatches_eq_ok_iff.2 ⟨calm, rfl⟩, congrArg Except.ok same.symm⟩

end RisingIntelligence.Topics
