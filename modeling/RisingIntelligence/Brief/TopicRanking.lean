import RisingIntelligence.Brief.TopicGlob
import RisingIntelligence.Shared.JsMap
import RisingIntelligence.Shared.JsString
import RisingIntelligence.Shared.Json
import RisingIntelligence.Shared.TopN
import Mathlib.Algebra.Order.Field.Basic
import Mathlib.Data.List.Perm.Basic
import Mathlib.Tactic.Linarith
import Mathlib.Tactic.Positivity
import Mathlib.Tactic.Ring

/-!
# Ranking of topics

`rankTopicsFromSnapshots` of `apps/brief/src/query-mode-selection.ts`: the topics of the snapshots,
with averages that weigh a snapshot by its age.

Numbers are any type with the operations that the source uses; the results about averages take them
as exact.  `ranking_spec`: the ranking does not depend on the order of the snapshots.
-/

namespace RisingIntelligence.Brief

open Js (Json Schema)

/-! ## The snapshots -/

structure TrendMetric (N : Type) where
  topic : String
  score : N
  volume : N
  acceleration : N

/-- A row of the table of snapshots. -/
structure TrendSnapshotRecord where
  generatedAt : Int
  snapshot : Json

section Schema

variable {N : Type} [Zero N] (coerce : Json → Option N)

/-- `z.coerce.number().default(0)`; `coerce` converts a value, unless to `NaN`. -/
def coerced (key : String) : Schema N := fun value =>
  match Schema.property key value with
  | none => some 0
  | some found => coerce found

/-- `TrendSnapshotTopicSchema` -/
def trendSnapshotTopicSchema : Schema (TrendMetric N) := fun value => do
  let topic ← Schema.required "topic" Schema.nonempty value
  let score ← coerced coerce "score" value
  let volume ← coerced coerce "volume" value
  let acceleration ← coerced coerce "acceleration" value
  return { topic, score, volume, acceleration }

/-- `TrendSnapshotPayloadSchema`, with the topics that it parses. -/
def trendSnapshotPayloadSchema : Schema (List (TrendMetric N)) := fun value =>
  if Schema.isObject value then
    match Schema.property "topics" value with
    | none => some []
    | some topics => Schema.array (trendSnapshotTopicSchema coerce) topics
  else none

end Schema

/-! ## Accumulation -/

structure RankedTopicAccumulator (N : Type) where
  weightedScore : N
  weightedVolume : N
  weightedAcceleration : N
  weightSum : N
  latestGeneratedAtMs : Int

structure RankedTopicScore (N : Type) where
  topic : String
  score : N
  volume : N
  acceleration : N
  latestGeneratedAtMs : Int

/-- What the language gives the ranking: the conversion to numbers, the decay weight by the age of a
snapshot, and `localeCompare`. -/
structure RankingRuntime (N : Type) where
  coerce : Json → Option N
  weightOfAge : Int → N
  localeCompare : String → String → Int

section Ranking

variable {N : Type} [Zero N] [One N] [Add N] [Mul N] [Div N] [LT N] [DecidableLT N] [LE N]
  [DecidableLE N] [DecidableEq N] (runtime : RankingRuntime N) (matchesTopic : String → Bool)

/-- A snapshot of the future weighs as one of the moment. -/
def computeRecentWeight (snapshotGeneratedAt requestedAt : Int) : N :=
  runtime.weightOfAge (max 0 (requestedAt - snapshotGeneratedAt))

/-- The metric comes to what there is of its topic. -/
def RankedTopicAccumulator.add (existing : Option (RankedTopicAccumulator N)) (weight : N)
    (generatedAtMs : Int) (metric : TrendMetric N) : RankedTopicAccumulator N :=
  let existing := existing.getD {
    weightedScore := 0
    weightedVolume := 0
    weightedAcceleration := 0
    weightSum := 0
    latestGeneratedAtMs := generatedAtMs }
  { weightedScore := existing.weightedScore + metric.score * weight
    weightedVolume := existing.weightedVolume + metric.volume * weight
    weightedAcceleration := existing.weightedAcceleration + metric.acceleration * weight
    weightSum := existing.weightSum + weight
    latestGeneratedAtMs := max existing.latestGeneratedAtMs generatedAtMs }

abbrev TopicAccumulators (N : Type) : Type := List (String × RankedTopicAccumulator N)

def addMetric (weight : N) (generatedAtMs : Int) (byTopic : TopicAccumulators N)
    (metric : TrendMetric N) : TopicAccumulators N :=
  let topic := Js.trim metric.topic
  if topic = "" ∨ matchesTopic topic = false then byTopic
  else Js.Map.set topic (.add (Js.Map.get topic byTopic) weight generatedAtMs metric) byTopic

/-- A snapshot that does not parse is skipped. -/
def addSnapshot (requestedAt : Int) (byTopic : TopicAccumulators N) (row : TrendSnapshotRecord) :
    TopicAccumulators N :=
  match trendSnapshotPayloadSchema runtime.coerce row.snapshot with
  | none => byTopic
  | some topics =>
      topics.foldl (addMetric matchesTopic (computeRecentWeight runtime row.generatedAt requestedAt)
        row.generatedAt) byTopic

def rankedScore (entry : String × RankedTopicAccumulator N) : RankedTopicScore N :=
  let accumulator := entry.2
  let denominator := if accumulator.weightSum ≤ 0 then 1 else accumulator.weightSum
  { topic := entry.1
    score := accumulator.weightedScore / denominator
    volume := accumulator.weightedVolume / denominator
    acceleration := accumulator.weightedAcceleration / denominator
    latestGeneratedAtMs := accumulator.latestGeneratedAtMs }

/-- Higher scores first, then later snapshots, then by topic. -/
def rankedLe (left right : RankedTopicScore N) : Bool :=
  if right.score ≠ left.score then decide (right.score < left.score)
  else if right.latestGeneratedAtMs ≠ left.latestGeneratedAtMs then
    decide (right.latestGeneratedAtMs < left.latestGeneratedAtMs)
  else decide (runtime.localeCompare left.topic right.topic ≤ 0)

def rankTopicsFromSnapshots (snapshots : List TrendSnapshotRecord) (requestedAt : Int) :
    List (RankedTopicScore N) :=
  ((snapshots.foldl (addSnapshot runtime matchesTopic requestedAt) []).map rankedScore).mergeSort
    (rankedLe runtime)

end Ranking

/-! ## Contributions -/

/-- A metric of the topic in a snapshot that parses. -/
def Contributed {N : Type} [Zero N] (runtime : RankingRuntime N)
    (snapshots : List TrendSnapshotRecord) (topic : String) (row : TrendSnapshotRecord)
    (metric : TrendMetric N) : Prop :=
  row ∈ snapshots ∧ Js.trim metric.topic = topic ∧
    ∃ metrics, trendSnapshotPayloadSchema runtime.coerce row.snapshot = some metrics ∧
      metric ∈ metrics

/-- What one metric of a snapshot adds to its topic. -/
structure Contribution (N : Type) where
  topic : String
  weight : N
  generatedAtMs : Int
  metric : TrendMetric N

section Contributions

variable {N : Type} [Zero N] [Add N] [Mul N] (runtime : RankingRuntime N)
  (matchesTopic : String → Bool) (requestedAt : Int)

def contributionOf (weight : N) (generatedAtMs : Int) (metric : TrendMetric N) :
    Option (Contribution N) :=
  let topic := Js.trim metric.topic
  if topic = "" ∨ matchesTopic topic = false then none
  else some { topic, weight, generatedAtMs, metric }

def snapshotContributions (row : TrendSnapshotRecord) : List (Contribution N) :=
  match trendSnapshotPayloadSchema runtime.coerce row.snapshot with
  | none => []
  | some topics => topics.filterMap (contributionOf matchesTopic
      (computeRecentWeight runtime row.generatedAt requestedAt) row.generatedAt)

def contributions (snapshots : List TrendSnapshotRecord) : List (Contribution N) :=
  snapshots.flatMap (snapshotContributions runtime matchesTopic requestedAt)

def accumulate (found : Option (RankedTopicAccumulator N)) (contribution : Contribution N) :
    RankedTopicAccumulator N :=
  .add found contribution.weight contribution.generatedAtMs contribution.metric

variable {runtime matchesTopic requestedAt}

omit [Zero N] [Add N] [Mul N] in
theorem contributionOf_eq_some {weight : N} {generatedAtMs : Int} {metric : TrendMetric N}
    {contribution : Contribution N} :
    contributionOf matchesTopic weight generatedAtMs metric = some contribution ↔
      (Js.trim metric.topic ≠ "" ∧ matchesTopic (Js.trim metric.topic) = true) ∧
        ⟨Js.trim metric.topic, weight, generatedAtMs, metric⟩ = contribution := by
  change (if Js.trim metric.topic = "" ∨ matchesTopic (Js.trim metric.topic) = false then none
    else some _) = some contribution ↔ _
  by_cases skipped : Js.trim metric.topic = "" ∨ matchesTopic (Js.trim metric.topic) = false
  · rw [if_pos skipped]
    refine iff_of_false nofun ?_
    intro kept
    rcases skipped with empty | unmatched
    · exact kept.1.1 empty
    · exact Bool.eq_false_iff.1 unmatched kept.1.2
  · rw [if_neg skipped, Option.some_inj]
    rw [not_or, Bool.not_eq_false] at skipped
    rw [and_iff_right skipped]

theorem foldl_addMetric (weight : N) (generatedAtMs : Int) (metrics : List (TrendMetric N))
    (byTopic : TopicAccumulators N) :
    metrics.foldl (addMetric matchesTopic weight generatedAtMs) byTopic =
      Js.Map.group Contribution.topic accumulate
        (metrics.filterMap (contributionOf matchesTopic weight generatedAtMs)) byTopic := by
  induction metrics generalizing byTopic with
  | nil => rfl
  | cons metric metrics ih =>
      rw [List.foldl_cons, ih]
      unfold addMetric
      by_cases skipped : Js.trim metric.topic = "" ∨ matchesTopic (Js.trim metric.topic) = false
      · have none : contributionOf matchesTopic weight generatedAtMs metric = none := if_pos skipped
        rw [if_pos skipped, List.filterMap_cons_none none]
      · have some : contributionOf matchesTopic weight generatedAtMs metric =
            some ⟨Js.trim metric.topic, weight, generatedAtMs, metric⟩ := if_neg skipped
        rw [if_neg skipped, List.filterMap_cons_some some, Js.Map.group_cons]
        rfl

/-- The loops over snapshots and metrics group the contributions by topic. -/
theorem foldl_addSnapshot (snapshots : List TrendSnapshotRecord) (byTopic : TopicAccumulators N) :
    snapshots.foldl (addSnapshot runtime matchesTopic requestedAt) byTopic =
      Js.Map.group Contribution.topic accumulate
        (contributions runtime matchesTopic requestedAt snapshots) byTopic := by
  induction snapshots generalizing byTopic with
  | nil => rfl
  | cons row snapshots ih =>
      rw [List.foldl_cons, ih]
      unfold contributions
      rw [List.flatMap_cons, Js.Map.group_append]
      congr 1
      unfold addSnapshot snapshotContributions
      cases trendSnapshotPayloadSchema runtime.coerce row.snapshot with
      | none => rfl
      | some topics => exact foldl_addMetric _ _ topics byTopic

omit [Add N] [Mul N] in
theorem mem_contributions {snapshots : List TrendSnapshotRecord} {contribution : Contribution N} :
    contribution ∈ contributions runtime matchesTopic requestedAt snapshots ↔
      contribution.topic ≠ "" ∧ matchesTopic contribution.topic = true ∧
        ∃ row, Contributed runtime snapshots contribution.topic row contribution.metric ∧
          contribution.weight = computeRecentWeight runtime row.generatedAt requestedAt ∧
            contribution.generatedAtMs = row.generatedAt := by
  unfold contributions snapshotContributions
  rw [List.mem_flatMap]
  constructor
  · intro found
    obtain ⟨row, mem, inside⟩ := found
    split at inside
    · cases inside
    · rename_i metrics parsed
      obtain ⟨metric, there, made⟩ := List.mem_filterMap.1 inside
      obtain ⟨⟨named, matched⟩, rfl⟩ := contributionOf_eq_some.1 made
      exact ⟨named, matched, row, ⟨mem, rfl, metrics, parsed, there⟩, rfl, rfl⟩
  · intro found
    obtain ⟨topic, weight, generatedAtMs, metric⟩ := contribution
    dsimp only at found
    obtain ⟨named, matched, row, ⟨mem, rfl, metrics, parsed, there⟩, rfl, rfl⟩ := found
    refine ⟨row, mem, ?_⟩
    rw [parsed]
    exact List.mem_filterMap.2 ⟨metric, there, contributionOf_eq_some.2 ⟨⟨named, matched⟩, rfl⟩⟩

omit [Add N] [Mul N] in
/-- A metric of a snapshot is contributed unless its topic is empty or does not match. -/
theorem Contributed.contribution {snapshots : List TrendSnapshotRecord} {topic : String}
    {row : TrendSnapshotRecord} {metric : TrendMetric N}
    (contributed : Contributed runtime snapshots topic row metric) (named : topic ≠ "")
    (matched : matchesTopic topic = true) :
    ⟨topic, computeRecentWeight runtime row.generatedAt requestedAt, row.generatedAt, metric⟩ ∈
      contributions runtime matchesTopic requestedAt snapshots :=
  mem_contributions.2 ⟨named, matched, row, contributed, rfl, rfl⟩

end Contributions

/-! ## Averages -/

section Averages

variable {N : Type} [Field N] [LinearOrder N] {γ : Type} {value : γ → N}
  {items : List γ} {sum weight : N} {item : γ}

/-- The sum over the total weight lies between two of the values. -/
structure Averages (value : γ → N) (items : List γ) (sum weight : N) : Prop where
  positive : 0 < weight
  low : ∃ item ∈ items, value item * weight ≤ sum
  high : ∃ item ∈ items, sum ≤ value item * weight

theorem Averages.single (value : γ → N) (item : γ) (positive : 0 < weight) :
    Averages value [item] (value item * weight) weight where
  positive := positive
  low := ⟨item, List.mem_singleton_self item, le_rfl⟩
  high := ⟨item, List.mem_singleton_self item, le_rfl⟩

variable [IsStrictOrderedRing N]

/-- The greater of the old bound and the new value bounds what they make together. -/
theorem Averages.add (averages : Averages value items sum weight) {added : N} (positive : 0 < added) :
    Averages value (items ++ [item]) (sum + value item * added) (weight + added) := by
  have last : item ∈ items ++ [item] := List.mem_append_right _ (List.mem_singleton_self item)
  have heavy := averages.positive
  constructor
  case positive => exact add_pos heavy positive
  case low =>
    obtain ⟨low, mem, below⟩ := averages.low
    rcases le_total (value low) (value item) with le | le
    · refine ⟨low, List.mem_append_left _ mem, ?_⟩
      have grown := mul_le_mul_of_nonneg_right le positive.le
      linarith [mul_add (value low) weight added]
    · refine ⟨item, last, ?_⟩
      have grown := mul_le_mul_of_nonneg_right le heavy.le
      linarith [mul_add (value item) weight added]
  case high =>
    obtain ⟨high, mem, above⟩ := averages.high
    rcases le_total (value high) (value item) with le | le
    · refine ⟨item, last, ?_⟩
      have grown := mul_le_mul_of_nonneg_right le heavy.le
      linarith [mul_add (value item) weight added]
    · refine ⟨high, List.mem_append_left _ mem, ?_⟩
      have grown := mul_le_mul_of_nonneg_right le positive.le
      linarith [mul_add (value high) weight added]

theorem Averages.between (averages : Averages value items sum weight) :
    (∃ item ∈ items, value item ≤ sum / weight) ∧ ∃ item ∈ items, sum / weight ≤ value item := by
  obtain ⟨low, mem, below⟩ := averages.low
  obtain ⟨high, mem', above⟩ := averages.high
  exact ⟨⟨low, mem, (le_div_iff₀ averages.positive).2 below⟩,
    ⟨high, mem', (div_le_iff₀ averages.positive).2 above⟩⟩

end Averages

/-! ## What is accumulated -/

section Accumulated

variable {N : Type} [Field N] {items : List (Contribution N)}
  {accumulator : RankedTopicAccumulator N} {contribution : Contribution N}

theorem accumulate_none (contribution : Contribution N) : accumulate none contribution =
    { weightedScore := contribution.metric.score * contribution.weight
      weightedVolume := contribution.metric.volume * contribution.weight
      weightedAcceleration := contribution.metric.acceleration * contribution.weight
      weightSum := contribution.weight
      latestGeneratedAtMs := contribution.generatedAtMs } := by
  unfold accumulate RankedTopicAccumulator.add
  dsimp only [Option.getD_none]
  rw [zero_add, zero_add, zero_add, zero_add, max_self]

/-- Contributions one after the other. -/
def accumulateAll (items : List (Contribution N)) : Option (RankedTopicAccumulator N) :=
  items.foldl (fun found item => some (accumulate found item)) none

/-- The order in which contributions come is of no matter. -/
theorem accumulateAll_perm {others : List (Contribution N)} (same : items.Perm others) :
    accumulateAll items = accumulateAll others := by
  have commutes : RightCommutative fun (found : Option (RankedTopicAccumulator N)) item =>
      some (accumulate found item) := by
    constructor
    intro found first second
    refine congrArg some ?_
    cases found with
    | none =>
        rw [accumulate_none, accumulate_none]
        unfold accumulate RankedTopicAccumulator.add
        simp only [Option.getD_some, add_comm, max_comm]
    | some accumulator =>
        unfold accumulate RankedTopicAccumulator.add
        simp only [Option.getD_some, add_right_comm, max_right_comm]
  exact same.foldl_eq none

variable [LinearOrder N]

/-- The accumulator of the contributions to a topic. -/
structure Accumulated (items : List (Contribution N)) (accumulator : RankedTopicAccumulator N) :
    Prop where
  score : Averages (·.metric.score) items accumulator.weightedScore accumulator.weightSum
  volume : Averages (·.metric.volume) items accumulator.weightedVolume accumulator.weightSum
  acceleration : Averages (·.metric.acceleration) items accumulator.weightedAcceleration
    accumulator.weightSum
  latest : ∀ item ∈ items, item.generatedAtMs ≤ accumulator.latestGeneratedAtMs
  reached : ∃ item ∈ items, item.generatedAtMs = accumulator.latestGeneratedAtMs

theorem Accumulated.first (positive : 0 < contribution.weight) :
    Accumulated [contribution] (accumulate none contribution) := by
  rw [accumulate_none]
  constructor
  case score => exact .single (·.metric.score) contribution positive
  case volume => exact .single (·.metric.volume) contribution positive
  case acceleration => exact .single (·.metric.acceleration) contribution positive
  case latest =>
    intro item mem
    rw [List.mem_singleton.1 mem]
  case reached => exact ⟨contribution, List.mem_singleton_self contribution, rfl⟩

variable [IsStrictOrderedRing N]

theorem Accumulated.add (accumulated : Accumulated items accumulator)
    (positive : 0 < contribution.weight) :
    Accumulated (items ++ [contribution]) (accumulate (some accumulator) contribution) := by
  constructor
  case score => exact accumulated.score.add positive
  case volume => exact accumulated.volume.add positive
  case acceleration => exact accumulated.acceleration.add positive
  case latest =>
    intro item mem
    change item.generatedAtMs ≤ max accumulator.latestGeneratedAtMs contribution.generatedAtMs
    rcases List.mem_append.1 mem with before | here
    · exact (accumulated.latest item before).trans (le_max_left _ _)
    · rw [List.mem_singleton.1 here]
      exact le_max_right _ _
  case reached =>
    change ∃ item ∈ items ++ [contribution], item.generatedAtMs =
      max accumulator.latestGeneratedAtMs contribution.generatedAtMs
    obtain ⟨item, mem, reached⟩ := accumulated.reached
    rcases le_total accumulator.latestGeneratedAtMs contribution.generatedAtMs with le | le
    · rw [max_eq_right le]
      exact ⟨contribution, List.mem_append_right _ (List.mem_singleton_self contribution), rfl⟩
    · rw [max_eq_left le]
      exact ⟨item, List.mem_append_left _ mem, reached⟩

theorem accumulated_of_some (positive : ∀ item ∈ items, 0 < item.weight)
    (all : accumulateAll items = some accumulator) : Accumulated items accumulator := by
  induction items using List.reverseRecOn generalizing accumulator with
  | nil => cases all
  | append_singleton items last ih =>
      have weight := positive last (List.mem_append_right _ (List.mem_singleton_self last))
      unfold accumulateAll at all ih
      rw [List.foldl_append] at all
      obtain rfl := Option.some.inj all
      cases before : items.foldl (fun found item => some (accumulate found item)) none with
      | none =>
          have empty : items = [] := by
            cases items using List.reverseRecOn with
            | nil => rfl
            | append_singleton items last =>
                rw [List.foldl_append] at before
                cases before
          rw [empty]
          exact .first weight
      | some accumulator =>
          exact (ih (fun item mem => positive item (List.mem_append_left _ mem)) before).add weight

end Accumulated

/-! ## The ranking -/

section Order

variable {N : Type} [LinearOrder N] {runtime : RankingRuntime N}
  {left right other : RankedTopicScore N}

/-- Higher scores first, then later snapshots, then by topic. -/
def Ahead (runtime : RankingRuntime N) (left right : RankedTopicScore N) : Prop :=
  right.score < left.score ∨ right.score = left.score ∧
    (right.latestGeneratedAtMs < left.latestGeneratedAtMs ∨
      right.latestGeneratedAtMs = left.latestGeneratedAtMs ∧
        runtime.localeCompare left.topic right.topic ≤ 0)

theorem rankedLe_iff : rankedLe runtime left right = true ↔ Ahead runtime left right := by
  unfold rankedLe Ahead
  split
  · rename_i different
    simp only [decide_eq_true_eq, different, false_and, or_false]
  · rename_i same
    rw [not_not] at same
    rw [same]
    simp only [lt_irrefl, false_or, true_and]
    split
    · rename_i different
      simp only [decide_eq_true_eq, different, false_and, or_false]
    · rename_i same
      rw [not_not] at same
      rw [same]
      simp only [lt_irrefl, false_or, true_and, decide_eq_true_eq]

theorem Ahead.trans (locale : TotalOrder fun a b => decide (runtime.localeCompare a b ≤ 0))
    (first : Ahead runtime left right) (second : Ahead runtime right other) :
    Ahead runtime left other := by
  unfold Ahead at first second ⊢
  rcases first with above | ⟨same, first⟩
  · rcases second with above' | ⟨same', -⟩
    · exact .inl (above'.trans above)
    · exact .inl (same' ▸ above)
  rcases second with above' | ⟨same', second⟩
  · exact .inl (same ▸ above')
  refine .inr ⟨same'.trans same, ?_⟩
  rcases first with later | ⟨same, first⟩
  · rcases second with later' | ⟨same', -⟩
    · exact .inl (later'.trans later)
    · exact .inl (same' ▸ later)
  rcases second with later' | ⟨same', second⟩
  · exact .inl (same ▸ later')
  have compared := locale.trans _ _ _ (decide_eq_true first) (decide_eq_true second)
  exact .inr ⟨same'.trans same, of_decide_eq_true compared⟩

theorem Ahead.total (locale : TotalOrder fun a b => decide (runtime.localeCompare a b ≤ 0))
    (left right : RankedTopicScore N) : Ahead runtime left right ∨ Ahead runtime right left := by
  unfold Ahead
  rcases lt_trichotomy right.score left.score with above | same | below
  · exact .inl (.inl above)
  · rcases lt_trichotomy right.latestGeneratedAtMs left.latestGeneratedAtMs with later | same' | earlier
    · exact .inl (.inr ⟨same, .inl later⟩)
    · have either := locale.total left.topic right.topic
      rw [Bool.or_eq_true, decide_eq_true_eq, decide_eq_true_eq] at either
      rcases either with before | after
      · exact .inl (.inr ⟨same, .inr ⟨same', before⟩⟩)
      · exact .inr (.inr ⟨same.symm, .inr ⟨same'.symm, after⟩⟩)
    · exact .inr (.inr ⟨same.symm, .inl earlier⟩)
  · exact .inr (.inl below)

theorem Ahead.topic_eq (locale : TotalOrder fun a b => decide (runtime.localeCompare a b ≤ 0))
    (first : Ahead runtime left right) (second : Ahead runtime right left) :
    left.topic = right.topic := by
  rcases first with above | ⟨same, first⟩
  · rcases second with above' | ⟨same', -⟩
    · exact absurd above above'.asymm
    · exact absurd same' above.ne'
  rcases second with above' | ⟨-, second⟩
  · exact absurd same above'.ne'
  rcases first with later | ⟨same, first⟩
  · rcases second with later' | ⟨same', -⟩
    · exact absurd later later'.asymm
    · exact absurd same' later.ne'
  rcases second with later' | ⟨-, second⟩
  · exact absurd same later'.ne'
  · exact locale.antisymm _ _ (decide_eq_true first) (decide_eq_true second)

end Order

section Topics

variable {N : Type} [Zero N] [Add N] [Mul N] {runtime : RankingRuntime N}
  {matchesTopic : String → Bool} {requestedAt : Int} {snapshots : List TrendSnapshotRecord}

theorem nodup_keys_addSnapshots :
    ((snapshots.foldl (addSnapshot runtime matchesTopic requestedAt) []).map (·.1)).Nodup := by
  rw [foldl_addSnapshot]
  exact Js.Map.nodup_keys_group _ List.nodup_nil

theorem mem_keys_addSnapshots {topic : String} :
    topic ∈ (snapshots.foldl (addSnapshot runtime matchesTopic requestedAt) []).map (·.1) ↔
      topic ≠ "" ∧ matchesTopic topic = true ∧
        ∃ row metric, Contributed runtime snapshots topic row metric := by
  rw [foldl_addSnapshot, Js.Map.mem_keys_group, List.map_nil, or_iff_right List.not_mem_nil]
  constructor
  · intro found
    obtain ⟨contribution, mem, rfl⟩ := List.mem_map.1 found
    obtain ⟨named, matched, row, contributed, -⟩ := mem_contributions.1 mem
    exact ⟨named, matched, row, _, contributed⟩
  · intro found
    obtain ⟨named, matched, row, metric, contributed⟩ := found
    exact List.mem_map.2 ⟨_, contributed.contribution named matched, rfl⟩

variable [One N] [Div N] [LT N] [DecidableLT N] [LE N] [DecidableLE N] [DecidableEq N]

theorem ranked_topics_perm :
    ((rankTopicsFromSnapshots runtime matchesTopic snapshots requestedAt).map (·.topic)).Perm
      ((snapshots.foldl (addSnapshot runtime matchesTopic requestedAt) []).map (·.1)) := by
  have entries : ((rankTopicsFromSnapshots runtime matchesTopic snapshots requestedAt).map
      (·.topic)).Perm (((snapshots.foldl (addSnapshot runtime matchesTopic requestedAt) []).map
        rankedScore).map (·.topic)) := (List.mergeSort_perm _ _).map _
  rwa [List.map_map] at entries

theorem nodup_ranked_topics :
    ((rankTopicsFromSnapshots runtime matchesTopic snapshots requestedAt).map (·.topic)).Nodup :=
  ranked_topics_perm.nodup_iff.2 nodup_keys_addSnapshots

/-- A ranked topic is not empty and matches, with any numbers. -/
theorem mem_ranked_topics {topic : String} :
    topic ∈ (rankTopicsFromSnapshots runtime matchesTopic snapshots requestedAt).map (·.topic) ↔
      topic ≠ "" ∧ matchesTopic topic = true ∧
        ∃ row metric, Contributed runtime snapshots topic row metric := by
  rw [ranked_topics_perm.mem_iff]
  exact mem_keys_addSnapshots

end Topics

section Ranked

variable {N : Type} [Field N] {runtime : RankingRuntime N}
  {matchesTopic : String → Bool} {requestedAt : Int} {snapshots others : List TrendSnapshotRecord}

variable (runtime matchesTopic requestedAt snapshots) in
/-- `byTopic` after the loops. -/
def accumulators : TopicAccumulators N :=
  snapshots.foldl (addSnapshot runtime matchesTopic requestedAt) []

theorem get_accumulators (topic : String) :
    Js.Map.get topic (accumulators runtime matchesTopic requestedAt snapshots) =
      accumulateAll ((contributions runtime matchesTopic requestedAt snapshots).filter
        (·.topic = topic)) := by
  unfold accumulators
  rw [foldl_addSnapshot, Js.Map.get_group]
  rfl

theorem nodup_accumulators :
    ((accumulators runtime matchesTopic requestedAt snapshots).map (·.1)).Nodup := by
  unfold accumulators
  exact nodup_keys_addSnapshots

theorem accumulators_perm (same : snapshots.Perm others) :
    (accumulators runtime matchesTopic requestedAt snapshots).Perm
      (accumulators runtime matchesTopic requestedAt others) := by
  refine Js.Map.perm_of_get_eq nodup_accumulators nodup_accumulators fun topic => ?_
  rw [get_accumulators, get_accumulators]
  exact accumulateAll_perm ((same.flatMap_right _).filter _)

theorem mem_topics_accumulators {topic : String} :
    topic ∈ (accumulators runtime matchesTopic requestedAt snapshots).map (·.1) ↔
      topic ≠ "" ∧ matchesTopic topic = true ∧
        ∃ row metric, Contributed runtime snapshots topic row metric := by
  unfold accumulators
  exact mem_keys_addSnapshots

variable [LinearOrder N]

/-- The scores of an entry are averages over what was contributed to its topic. -/
structure Summarises (runtime : RankingRuntime N) (snapshots : List TrendSnapshotRecord)
    (entry : RankedTopicScore N) : Prop where
  score : (∃ row metric, Contributed runtime snapshots entry.topic row metric ∧
      metric.score ≤ entry.score) ∧
    ∃ row metric, Contributed runtime snapshots entry.topic row metric ∧ entry.score ≤ metric.score
  volume : (∃ row metric, Contributed runtime snapshots entry.topic row metric ∧
      metric.volume ≤ entry.volume) ∧
    ∃ row metric, Contributed runtime snapshots entry.topic row metric ∧
      entry.volume ≤ metric.volume
  acceleration : (∃ row metric, Contributed runtime snapshots entry.topic row metric ∧
      metric.acceleration ≤ entry.acceleration) ∧
    ∃ row metric, Contributed runtime snapshots entry.topic row metric ∧
      entry.acceleration ≤ metric.acceleration
  latest : ∀ row metric, Contributed runtime snapshots entry.topic row metric →
    row.generatedAt ≤ entry.latestGeneratedAtMs
  reached : ∃ row metric, Contributed runtime snapshots entry.topic row metric ∧
    row.generatedAt = entry.latestGeneratedAtMs

variable [IsStrictOrderedRing N]

/-- An entry of the map has the averages of what was contributed to its topic. -/
theorem Accumulated.summarises {topic : String} {accumulator : RankedTopicAccumulator N}
    (accumulated : Accumulated ((contributions runtime matchesTopic requestedAt snapshots).filter
      (·.topic = topic)) accumulator) (named : topic ≠ "") (matched : matchesTopic topic = true) :
    Summarises runtime snapshots (rankedScore (topic, accumulator)) := by
  have of_item : ∀ item ∈ (contributions runtime matchesTopic requestedAt snapshots).filter
      (·.topic = topic), ∃ row, Contributed runtime snapshots topic row item.metric ∧
        item.generatedAtMs = row.generatedAt := by
    intro item mem
    obtain ⟨mem, here⟩ := List.mem_filter.1 mem
    obtain ⟨-, -, row, contributed, -, generated⟩ := mem_contributions.1 mem
    rw [of_decide_eq_true here] at contributed
    exact ⟨row, contributed, generated⟩
  have between : ∀ {value : TrendMetric N → N} {sum : N},
      Averages (fun item => value item.metric) ((contributions runtime matchesTopic requestedAt
        snapshots).filter (·.topic = topic)) sum accumulator.weightSum →
      (∃ row metric, Contributed runtime snapshots topic row metric ∧
        value metric ≤ sum / accumulator.weightSum) ∧
      ∃ row metric, Contributed runtime snapshots topic row metric ∧
        sum / accumulator.weightSum ≤ value metric := by
    intro value sum averages
    obtain ⟨⟨low, lowMem, below⟩, high, highMem, above⟩ := averages.between
    obtain ⟨lowRow, lowFrom, -⟩ := of_item low lowMem
    obtain ⟨highRow, highFrom, -⟩ := of_item high highMem
    exact ⟨⟨lowRow, low.metric, lowFrom, below⟩, highRow, high.metric, highFrom, above⟩
  have positive := accumulated.score.positive
  have made : rankedScore (topic, accumulator) =
      { topic
        score := accumulator.weightedScore / accumulator.weightSum
        volume := accumulator.weightedVolume / accumulator.weightSum
        acceleration := accumulator.weightedAcceleration / accumulator.weightSum
        latestGeneratedAtMs := accumulator.latestGeneratedAtMs } := by
    unfold rankedScore
    dsimp only
    rw [if_neg positive.not_ge]
  rw [made]
  constructor
  case score => exact between accumulated.score
  case volume => exact between accumulated.volume
  case acceleration => exact between accumulated.acceleration
  case latest =>
    intro row metric contributed
    exact accumulated.latest _ (List.mem_filter.2
      ⟨contributed.contribution named matched, decide_eq_true rfl⟩)
  case reached =>
    obtain ⟨item, mem, reached⟩ := accumulated.reached
    obtain ⟨row, contributed, generated⟩ := of_item item mem
    exact ⟨row, item.metric, contributed, generated.symm.trans reached⟩

omit [IsStrictOrderedRing N] in
theorem entries_perm : (rankTopicsFromSnapshots runtime matchesTopic snapshots requestedAt).Perm
    ((accumulators runtime matchesTopic requestedAt snapshots).map rankedScore) :=
  List.mergeSort_perm _ _

omit [IsStrictOrderedRing N] in
theorem topics_perm :
    ((rankTopicsFromSnapshots runtime matchesTopic snapshots requestedAt).map (·.topic)).Perm
      ((accumulators runtime matchesTopic requestedAt snapshots).map (·.1)) :=
  ranked_topics_perm

omit [IsStrictOrderedRing N] in
theorem pairwise_ahead (locale : TotalOrder fun a b => decide (runtime.localeCompare a b ≤ 0)) :
    (rankTopicsFromSnapshots runtime matchesTopic snapshots requestedAt).Pairwise
      (Ahead runtime) := by
  have trans : ∀ a b c : RankedTopicScore N, rankedLe runtime a b = true →
      rankedLe runtime b c = true → rankedLe runtime a c = true := by
    intro a b c first second
    exact rankedLe_iff.2 ((rankedLe_iff.1 first).trans locale (rankedLe_iff.1 second))
  have total : ∀ a b : RankedTopicScore N, (rankedLe runtime a b || rankedLe runtime b a) = true := by
    intro a b
    rw [Bool.or_eq_true, rankedLe_iff, rankedLe_iff]
    exact Ahead.total locale a b
  exact (List.pairwise_mergeSort trans total _).imp rankedLe_iff.1

variable (runtime matchesTopic requestedAt) in
/-- With exact numbers and positive weights.  The order of the snapshots is of no matter; there is one
entry for each topic of a snapshot that is not empty and matches; it has averages of what was
contributed to it; and entries are sorted. -/
theorem ranking_spec (positive : ∀ age, 0 ≤ age → 0 < runtime.weightOfAge age)
    (locale : TotalOrder fun a b => decide (runtime.localeCompare a b ≤ 0))
    (snapshots : List TrendSnapshotRecord) :
    (∀ others, snapshots.Perm others →
      rankTopicsFromSnapshots runtime matchesTopic others requestedAt =
        rankTopicsFromSnapshots runtime matchesTopic snapshots requestedAt) ∧
    ((rankTopicsFromSnapshots runtime matchesTopic snapshots requestedAt).map (·.topic)).Nodup ∧
    (∀ topic,
      topic ∈ (rankTopicsFromSnapshots runtime matchesTopic snapshots requestedAt).map (·.topic) ↔
        topic ≠ "" ∧ matchesTopic topic = true ∧
          ∃ row metric, Contributed runtime snapshots topic row metric) ∧
    (∀ entry ∈ rankTopicsFromSnapshots runtime matchesTopic snapshots requestedAt,
      Summarises runtime snapshots entry) ∧
    (rankTopicsFromSnapshots runtime matchesTopic snapshots requestedAt).Pairwise
      (Ahead runtime) := by
  have keys : ((rankTopicsFromSnapshots runtime matchesTopic snapshots requestedAt).map
      (·.topic)).Perm ((accumulators runtime matchesTopic requestedAt snapshots).map (·.1)) :=
    topics_perm
  have distinct : ((rankTopicsFromSnapshots runtime matchesTopic snapshots requestedAt).map
      (·.topic)).Nodup := keys.nodup_iff.2 nodup_accumulators
  have sorted : ∀ snapshots,
      (rankTopicsFromSnapshots runtime matchesTopic snapshots requestedAt).Pairwise (Ahead runtime) :=
    fun snapshots => pairwise_ahead locale
  refine ⟨?_, distinct, ?_, ?_, sorted snapshots⟩
  · intro others same
    have rearranged : (rankTopicsFromSnapshots runtime matchesTopic others requestedAt).Perm
        (rankTopicsFromSnapshots runtime matchesTopic snapshots requestedAt) :=
      entries_perm.trans (((accumulators_perm same).symm.map rankedScore).trans entries_perm.symm)
    refine List.Perm.eq_of_pairwise ?_ (sorted others) (sorted snapshots) rearranged
    -- entries of one topic are the same entry
    intro a b here there first second
    exact List.inj_on_of_nodup_map distinct (rearranged.mem_iff.1 here) there
      (first.topic_eq locale second)
  · intro topic
    rw [keys.mem_iff]
    exact mem_topics_accumulators
  · intro entry mem
    obtain ⟨⟨topic, accumulator⟩, found, rfl⟩ := List.mem_map.1 (entries_perm.mem_iff.1 mem)
    obtain ⟨named, matched, -⟩ := mem_topics_accumulators.1 (List.mem_map_of_mem found)
    have all := Js.Map.get_of_mem nodup_accumulators found
    rw [get_accumulators] at all
    refine (accumulated_of_some ?_ all).summarises named matched
    intro item mem
    obtain ⟨-, -, row, -, weighed, -⟩ := mem_contributions.1 (List.mem_of_mem_filter mem)
    rw [weighed]
    exact positive _ (le_max_left _ _)

end Ranked

/-! ### Two snapshots -/

/-- Exact numbers, and a weight that halves in the first hour. -/
def exactNumbers : RankingRuntime ℚ where
  coerce value := match value with
    | .number (.finite value) => some value
    | _ => none
  weightOfAge age := 1 / (1 + age / 3600000)
  localeCompare := ordinalCompare

theorem exactNumbers_positive (age : Int) (past : 0 ≤ age) : 0 < exactNumbers.weightOfAge age := by
  have aged : (0 : ℚ) ≤ age := Int.cast_nonneg past
  change 0 < 1 / (1 + (age : ℚ) / 3600000)
  positivity

def trendTopic (topic : String) (score : ℚ) : Json :=
  .object [("topic", .string topic), ("score", .number (.finite score))]

def hourlySnapshots : List TrendSnapshotRecord :=
  [⟨0, .object [("topics", .array [trendTopic "ai.llm" 4])]⟩,
    ⟨3600000, .object [("topics", .array [trendTopic " ai.llm" 10, trendTopic "  " 1])]⟩]

theorem ranking_spec_hourly :
    (∀ age, 0 ≤ age → 0 < exactNumbers.weightOfAge age) ∧
    (TotalOrder fun a b => decide (exactNumbers.localeCompare a b ≤ 0)) ∧
    ∀ entry ∈ rankTopicsFromSnapshots exactNumbers (fun _ => true) hourlySnapshots 3600000,
      Summarises exactNumbers hourlySnapshots entry :=
  ⟨exactNumbers_positive, ordinalCompare_total,
    (ranking_spec exactNumbers (fun _ => true) 3600000 exactNumbers_positive ordinalCompare_total
      hourlySnapshots).2.2.2.1⟩

/-- A topic of white space matches the default glob and is not ranked. -/
theorem blank_topic_skipped : ∃ matchers, createTopicGlobMatcherSet none = .ok matchers ∧
    matchers.matchesTopic (Js.trim "  ") = true ∧
      (∃ row metric, Contributed exactNumbers hourlySnapshots (Js.trim "  ") row metric) ∧
        Js.trim "  " ∉ (rankTopicsFromSnapshots exactNumbers matchers.matchesTopic hourlySnapshots
          3600000).map (·.topic) := by
  refine ⟨_, rfl, by decide, ⟨⟨3600000, .object [("topics", .array [trendTopic " ai.llm" 10,
    trendTopic "  " 1])]⟩, ⟨"  ", 1, 0, 0⟩, ?_, by decide, _, rfl, ?_⟩, ?_⟩
  · exact List.mem_cons_of_mem _ List.mem_cons_self
  · exact List.mem_cons_of_mem _ List.mem_cons_self
  · rw [topics_perm.mem_iff, mem_topics_accumulators]
    intro found
    exact found.1 (by decide)

end RisingIntelligence.Brief
