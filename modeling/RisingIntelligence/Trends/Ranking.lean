import RisingIntelligence.Shared.TopN
import RisingIntelligence.Trends.Snapshots
import Mathlib.Tactic.FieldSimp
import Mathlib.Tactic.Linarith
import Mathlib.Tactic.Positivity

/-!
# Scores against counters

When a topic with at least the volume of another, and at most its previous volume, is scored at least
as high.

A topic without previous volume is scored twice its volume, another one that grew the square of its
volume over the previous one.  The two pieces do not meet: `score_le_iff` says where the second is
the greater.
-/

namespace RisingIntelligence.Trends

/-- The score of a topic with these counters. -/
def trendScore (volume prevVolume : ℤ) : ℚ := computeScore volume (computeAcceleration volume prevVolume)

section Score

variable {volume prevVolume : ℤ}

theorem volume_le_trendScore (volume prevVolume : ℤ) : volume ≤ trendScore volume prevVolume := by
  unfold trendScore computeScore
  exact le_add_of_nonneg_right (le_max_left _ _)

theorem trendScore_zero (nonneg : 0 ≤ volume) : trendScore volume 0 = 2 * volume := by
  have nonneg' : (0 : ℚ) ≤ volume := by exact_mod_cast nonneg
  unfold trendScore computeScore computeAcceleration
  rw [if_pos le_rfl]
  split
  · rw [one_mul, max_eq_right nonneg']
    ring
  · have zero : volume = 0 := by omega
    rw [zero]
    norm_num

/-- A topic that did not grow is scored its volume. -/
theorem trendScore_of_le (positive : 0 < prevVolume) (nonneg : 0 ≤ volume)
    (shrank : volume ≤ prevVolume) : trendScore volume prevVolume = volume := by
  have positive' : (0 : ℚ) < prevVolume := by exact_mod_cast positive
  have nonneg' : (0 : ℚ) ≤ volume := by exact_mod_cast nonneg
  have shrank' : (volume : ℚ) ≤ prevVolume := by exact_mod_cast shrank
  have slowed : ((volume : ℚ) - prevVolume) / prevVolume ≤ 0 :=
    div_nonpos_of_nonpos_of_nonneg (by linarith) positive'.le
  unfold trendScore computeScore computeAcceleration
  rw [if_neg (not_le.2 positive), max_eq_left (mul_nonpos_of_nonpos_of_nonneg slowed nonneg'),
    add_zero]

/-- A topic that grew is scored the square of its volume over the previous one. -/
theorem trendScore_of_lt (positive : 0 < prevVolume) (grew : prevVolume < volume) :
    trendScore volume prevVolume = (volume : ℚ) ^ 2 / prevVolume := by
  have positive' : (0 : ℚ) < prevVolume := by exact_mod_cast positive
  have grew' : (prevVolume : ℚ) < volume := by exact_mod_cast grew
  have accelerated : 0 ≤ ((volume : ℚ) - prevVolume) / prevVolume * volume :=
    mul_nonneg (div_nonneg (by linarith) positive'.le) (by linarith)
  unfold trendScore computeScore computeAcceleration
  rw [if_neg (not_le.2 positive), max_eq_right accelerated]
  field_simp
  ring

end Score

section Order

variable {volume prevVolume volume' prevVolume' : ℤ}

theorem trendScore_mono (positive : 0 < prevVolume) (nonneg : 0 ≤ volume')
    (more : volume' ≤ volume) (less : prevVolume ≤ prevVolume') :
    trendScore volume' prevVolume' ≤ trendScore volume prevVolume := by
  have more' : (volume' : ℚ) ≤ volume := by exact_mod_cast more
  by_cases shrank : volume' ≤ prevVolume'
  · rw [trendScore_of_le (by omega) nonneg shrank]
    exact more'.trans (volume_le_trendScore volume prevVolume)
  · have positive' : (0 : ℚ) < prevVolume := by exact_mod_cast positive
    have nonneg' : (0 : ℚ) ≤ volume' := by exact_mod_cast nonneg
    have less' : (prevVolume : ℚ) ≤ prevVolume' := by exact_mod_cast less
    rw [trendScore_of_lt (by omega) (not_le.1 shrank), trendScore_of_lt positive (by omega)]
    exact div_le_div₀ (sq_nonneg _) (pow_le_pow_left₀ nonneg' more' 2) positive' less'

/-- A new topic is scored lower where the other one more than doubled, weighed by the volumes. -/
theorem trendScore_le_zero_iff (positive : 0 < prevVolume') (nonneg : 0 ≤ volume')
    (more : volume' ≤ volume) :
    trendScore volume' prevVolume' ≤ trendScore volume 0 ↔
      volume' ^ 2 ≤ 2 * volume * prevVolume' := by
  rw [trendScore_zero (nonneg.trans more)]
  by_cases shrank : volume' ≤ prevVolume'
  · have more' : (volume' : ℚ) ≤ volume := by exact_mod_cast more
    have nonneg' : (0 : ℚ) ≤ volume := by exact_mod_cast nonneg.trans more
    rw [trendScore_of_le positive nonneg shrank]
    constructor
    · intro _
      nlinarith
    · intro _
      linarith
  · have positive' : (0 : ℚ) < prevVolume' := by exact_mod_cast positive
    rw [trendScore_of_lt positive (not_le.1 shrank), div_le_iff₀ positive']
    exact_mod_cast Iff.rfl

/-- With more volume and less previous volume, a topic is scored at least as high unless it is new,
the other one is not, and the square of the other's volume is above twice the product of its own
with the other's previous volume. -/
theorem trendScore_le_iff (nonneg : 0 ≤ volume') (nonneg' : 0 ≤ prevVolume)
    (more : volume' ≤ volume) (less : prevVolume ≤ prevVolume') :
    trendScore volume' prevVolume' ≤ trendScore volume prevVolume ↔
      ¬ (prevVolume = 0 ∧ 0 < prevVolume' ∧ 2 * volume * prevVolume' < volume' ^ 2) := by
  rcases nonneg'.eq_or_lt with rfl | positive
  · rcases less.eq_or_lt with rfl | positive'
    · have more' : (volume' : ℚ) ≤ volume := by exact_mod_cast more
      rw [trendScore_zero nonneg, trendScore_zero (nonneg.trans more)]
      constructor
      · intro _ both
        exact lt_irrefl _ both.2.1
      · intro _
        linarith
    · rw [trendScore_le_zero_iff positive' nonneg more]
      constructor
      · intro le both
        exact not_lt_of_ge le both.2.2
      · intro none
        exact not_lt.1 fun lt => none ⟨rfl, positive', lt⟩
  · constructor
    · intro _ both
      exact positive.ne' both.1
    · intro _
      exact trendScore_mono positive nonneg more less

end Order

/-! ## The published list -/

/-- What is documented of `localeCompare`: it orders all texts. -/
structure LocaleOrder (ctx : SnapshotContext) : Prop where
  trans : ∀ a b c, ctx.localeCompareLe a b = true → ctx.localeCompareLe b c = true →
    ctx.localeCompareLe a c = true
  total : ∀ a b, (ctx.localeCompareLe a b || ctx.localeCompareLe b a) = true

section List

variable {ctx : SnapshotContext} {redis : Redis} {window : TrendWindow} {generatedAt : ℤ}
  {listed omitted left right other : TopicSnapshotMetric}

theorem metricLe_iff : metricLe ctx left right = true ↔ right.score < left.score ∨
    left.score = right.score ∧ ctx.localeCompareLe left.topic right.topic = true := by
  unfold metricLe
  split
  · rename_i same
    simp [same]
  · rename_i different
    simp [different]

theorem LocaleOrder.metricLe_trans (locale : LocaleOrder ctx)
    (first : metricLe ctx left right = true) (second : metricLe ctx right other = true) :
    metricLe ctx left other = true := by
  rw [metricLe_iff] at first second ⊢
  rcases first with above | ⟨same, before⟩
  · rcases second with above' | ⟨same', -⟩
    · exact .inl (above'.trans above)
    · exact .inl (same' ▸ above)
  · rcases second with above' | ⟨same', before'⟩
    · exact .inl (same ▸ above')
    · exact .inr ⟨same.trans same', locale.trans _ _ _ before before'⟩

theorem LocaleOrder.metricLe_total (locale : LocaleOrder ctx)
    (left right : TopicSnapshotMetric) :
    (metricLe ctx left right || metricLe ctx right left) = true := by
  rw [Bool.or_eq_true, metricLe_iff, metricLe_iff]
  rcases lt_trichotomy left.score right.score with below | same | above
  · exact .inr (.inl below)
  · have either := locale.total left.topic right.topic
    rw [Bool.or_eq_true] at either
    rcases either with before | after
    · exact .inl (.inr ⟨same, before⟩)
    · exact .inr (.inr ⟨same.symm, after⟩)
  · exact .inl (.inl above)

/-- A topic that is left out is scored no higher than a published one. -/
theorem LocaleOrder.score_le_of_omitted (locale : LocaleOrder ctx)
    (published : listed ∈ (windowSnapshot ctx redis window generatedAt).topics)
    (counted : omitted ∈
      (computeWindowMetrics ctx redis window (getBucketStart generatedAt window)).1)
    (cut : omitted ∉ (windowSnapshot ctx redis window generatedAt).topics) :
    omitted.score ≤ listed.score := by
  have before : metricLe ctx listed omitted = true :=
    le_of_cut (fun a b c => @LocaleOrder.metricLe_trans ctx a b c locale) locale.metricLe_total
      published counted cut
  rcases metricLe_iff.1 before with above | ⟨same, -⟩
  · exact above.le
  · exact same.ge

theorem mem_computeWindowMetrics {bucket : ℤ} {metric : TopicSnapshotMetric}
    (counted : metric ∈ (computeWindowMetrics ctx redis window bucket).1)
    (counters : ∀ key, 0 ≤ redis.count key) :
    metric.score = trendScore metric.volume metric.prevVolume ∧ 0 ≤ metric.volume ∧
      0 ≤ metric.prevVolume := by
  obtain ⟨topic, -, rfl⟩ := List.mem_map.1 counted
  exact ⟨rfl, counters _, counters _⟩

theorem mem_of_published (published : listed ∈ (windowSnapshot ctx redis window generatedAt).topics) :
    listed ∈ (computeWindowMetrics ctx redis window (getBucketStart generatedAt window)).1 :=
  List.mem_mergeSort.1 (List.mem_of_mem_take published)

end List

/-- A topic with more volume and less previous volume is scored at least as high, and is left out for
another one only where their scores are equal, unless it is new and the other one grew too fast. -/
theorem ranking_monotone {ctx : SnapshotContext} (locale : LocaleOrder ctx) {redis : Redis}
    (counters : ∀ key, 0 ≤ redis.count key) (window : TrendWindow) (generatedAt : ℤ) :
    (∀ volume prevVolume volume' prevVolume' : ℕ, volume' ≤ volume → prevVolume ≤ prevVolume' →
      (trendScore volume' prevVolume' ≤ trendScore volume prevVolume ↔
        ¬ (prevVolume = 0 ∧ 0 < prevVolume' ∧ 2 * volume * prevVolume' < volume' ^ 2))) ∧
    ∀ listed ∈ (windowSnapshot ctx redis window generatedAt).topics,
      ∀ omitted ∈ (computeWindowMetrics ctx redis window (getBucketStart generatedAt window)).1,
        omitted ∉ (windowSnapshot ctx redis window generatedAt).topics →
        listed.volume ≤ omitted.volume → omitted.prevVolume ≤ listed.prevVolume →
        ¬ (omitted.prevVolume = 0 ∧ 0 < listed.prevVolume ∧
          2 * omitted.volume * listed.prevVolume < listed.volume ^ 2) →
        omitted.score = listed.score := by
  constructor
  · intro volume prevVolume volume' prevVolume' more less
    have ordered := @trendScore_le_iff volume prevVolume volume' prevVolume' (by omega) (by omega)
      (by exact_mod_cast more) (by exact_mod_cast less)
    rw [ordered]
    norm_cast
  · intro listed published omitted counted cut more less apart
    obtain ⟨score, nonneg, -⟩ := mem_computeWindowMetrics (mem_of_published published) counters
    obtain ⟨score', -, nonneg'⟩ := mem_computeWindowMetrics counted counters
    have ahead := (trendScore_le_iff nonneg nonneg' more less).2 apart
    rw [← score, ← score'] at ahead
    exact le_antisymm (locale.score_le_of_omitted published counted cut) ahead

/-! ## Two topics of the same score, and of different ones -/

/-- One topic is published. -/
def oneTopic : SnapshotContext where
  windows := [.minutes15]
  topics := ["first", "second"]
  maxEvidencePerTopic := 10
  topNTopics := 1
  localeCompareLe left right := decide (left ≤ right)

theorem oneTopic_localeOrder : LocaleOrder oneTopic where
  trans _ _ _ first second :=
    decide_eq_true (String.le_trans (of_decide_eq_true first) (of_decide_eq_true second))
  total a b := by
    change (decide (a ≤ b) || decide (b ≤ a)) = true
    rw [Bool.or_eq_true, decide_eq_true_eq, decide_eq_true_eq]
    exact String.le_total a b

/-- Both topics were counted five times, and more often in the window before. -/
def fiveEach : Redis :=
  (((newRedis.set (.counter .minutes15 "first" 0) 5).set (.counter .minutes15 "second" 0) 5).set
    (.previous .minutes15 "first") 9).set (.previous .minutes15 "second") 7

theorem fiveEach_nonneg (key : RedisKey) : 0 ≤ fiveEach.count key := by
  unfold fiveEach Redis.count Redis.set newRedis emptyRedis
  dsimp only
  simp only [Function.update_apply]
  split_ifs <;> decide

/-- What is counted of a topic. -/
def fiveEachMetric (topic : String) : TopicSnapshotMetric :=
  topicMetric oneTopic fiveEach .minutes15 (getBucketStart 0 .minutes15) topic

theorem fiveEach_published :
    (windowSnapshot oneTopic fiveEach .minutes15 0).topics = [fiveEachMetric "first"] := by
  have sorted : [fiveEachMetric "first", fiveEachMetric "second"].Pairwise fun left right =>
      metricLe oneTopic left right = true := by
    refine List.pairwise_pair.2 (metricLe_iff.2 (.inr ⟨?_, by decide⟩))
    decide +kernel
  exact congrArg (List.take 1) (List.mergeSort_of_pairwise sorted)

theorem ranking_monotone_fiveEach :
    ((∀ volume prevVolume volume' prevVolume' : ℕ, volume' ≤ volume → prevVolume ≤ prevVolume' →
      (trendScore volume' prevVolume' ≤ trendScore volume prevVolume ↔
        ¬ (prevVolume = 0 ∧ 0 < prevVolume' ∧ 2 * volume * prevVolume' < volume' ^ 2))) ∧
    ∀ listed ∈ (windowSnapshot oneTopic fiveEach .minutes15 0).topics,
      ∀ omitted ∈ (computeWindowMetrics oneTopic fiveEach .minutes15
          (getBucketStart 0 .minutes15)).1,
        omitted ∉ (windowSnapshot oneTopic fiveEach .minutes15 0).topics →
        listed.volume ≤ omitted.volume → omitted.prevVolume ≤ listed.prevVolume →
        ¬ (omitted.prevVolume = 0 ∧ 0 < listed.prevVolume ∧
          2 * omitted.volume * listed.prevVolume < listed.volume ^ 2) →
        omitted.score = listed.score) ∧
    (windowSnapshot oneTopic fiveEach .minutes15 0).topics = [fiveEachMetric "first"] ∧
    (fiveEachMetric "first").volume = 5 ∧ (fiveEachMetric "first").prevVolume = 9 ∧
    (fiveEachMetric "second").volume = 5 ∧ (fiveEachMetric "second").prevVolume = 7 :=
  ⟨ranking_monotone oneTopic_localeOrder fiveEach_nonneg .minutes15 0, fiveEach_published,
    by decide, by decide, by decide, by decide⟩

/-- A new topic is scored below one of the same volume that was counted once before. -/
theorem new_topic_outranked : trendScore 5 0 = 10 ∧ trendScore 5 1 = 25 := by
  constructor
  · rw [trendScore_zero (by decide)]
    norm_num
  · rw [trendScore_of_lt (by decide) (by decide)]
    norm_num

end RisingIntelligence.Trends
