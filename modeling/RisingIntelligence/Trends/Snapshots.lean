import RisingIntelligence.Trends.Windows

/-!
# Snapshots and the previous window

`publishSnapshots` (`apps/trends/src/snapshot.ts`) over runs of events and snapshots.

A snapshot reads the previous count of a topic from one key, which every completed snapshot
overwrites with the count of its own bucket at that moment.  So the previous volume is the count at
the last snapshot, not the final count of the preceding bucket; `prevVolume_iff` says when the two
agree, and `second_snapshot_disagrees` is a run of two snapshots in one bucket where they do not.
-/

namespace RisingIntelligence.Trends

/-- The configuration and the allowlist, of which a snapshot reads the topic keys;
`localeCompareLe` is `left.localeCompare(right) <= 0`. -/
structure SnapshotContext where
  windows : List TrendWindow
  topics : List String
  maxEvidencePerTopic : ℕ
  topNTopics : ℕ
  localeCompareLe : String → String → Bool

structure TopicSnapshotMetric where
  topic : String
  window : TrendWindow
  volume : ℤ
  prevVolume : ℤ
  acceleration : ℚ
  baselineVolume : ℤ
  baselineDelta : ℚ
  score : ℚ
  evidenceEventIds : List String

def getDayOfWeekKey (timestamp : ℤ) : String :=
  -- the epoch began on a Thursday
  match (timestamp / 86400000 + 4) % 7 with
  | 0 => "sun"
  | 1 => "mon"
  | 2 => "tue"
  | 3 => "wed"
  | 4 => "thu"
  | 5 => "fri"
  | _ => "sat"

def computeAcceleration (volume prevVolume : ℤ) : ℚ :=
  if prevVolume ≤ 0 then if 0 < volume then 1 else 0
  else (volume - prevVolume) / prevVolume

def computeScore (volume : ℤ) (acceleration : ℚ) : ℚ := volume + max 0 (acceleration * volume)

/-- The metric of one topic in `computeWindowMetrics`. -/
def topicMetric (ctx : SnapshotContext) (redis : Redis) (window : TrendWindow) (bucket : ℤ)
    (topic : String) : TopicSnapshotMetric :=
  let volume := redis.count (.counter window topic bucket)
  let prevVolume := redis.count (.previous window topic)
  let baselineVolume := redis.count (.baseline window topic (getDayOfWeekKey bucket))
  let acceleration := computeAcceleration volume prevVolume
  { topic := topic
    window := window
    volume := volume
    prevVolume := prevVolume
    acceleration := acceleration
    baselineVolume := baselineVolume
    baselineDelta :=
      if 0 < baselineVolume then (volume - baselineVolume : ℚ) / baselineVolume else 0
    score := computeScore volume acceleration
    evidenceEventIds := redis.zrevRange (.evidence window topic) 0 (ctx.maxEvidencePerTopic - 1) }

/-- `computeWindowMetrics`: the metrics and the counts by topic. -/
def computeWindowMetrics (ctx : SnapshotContext) (redis : Redis) (window : TrendWindow)
    (bucket : ℤ) : List TopicSnapshotMetric × List (String × ℤ) :=
  (ctx.topics.map (topicMetric ctx redis window bucket),
    ctx.topics.map fun topic => (topic, redis.count (.counter window topic bucket)))

/-- Higher scores first, equal ones by topic. -/
def metricLe (ctx : SnapshotContext) (left right : TopicSnapshotMetric) : Bool :=
  if left.score = right.score then ctx.localeCompareLe left.topic right.topic
  else decide (right.score < left.score)

structure TrendSnapshot where
  generatedAt : ℤ
  window : TrendWindow
  topics : List TopicSnapshotMetric

/-- The snapshot that `publishWindowSnapshot` publishes. -/
def windowSnapshot (ctx : SnapshotContext) (redis : Redis) (window : TrendWindow)
    (generatedAt : ℤ) : TrendSnapshot where
  generatedAt := generatedAt
  window := window
  topics :=
    let (metrics, _) :=
      computeWindowMetrics ctx redis window (getBucketStart generatedAt window)
    (metrics.mergeSort (metricLe ctx)).take ctx.topNTopics

/-- How far an attempt gets: it throws before the snapshot is published, or after that but before
the previous counts are written, or not at all. -/
inductive SnapshotStage : Type
  | unpublished
  | published
  | completed
  deriving DecidableEq

/-- One execution of `publishWindowSnapshot`. -/
structure SnapshotAttempt where
  generatedAt : ℤ
  stage : SnapshotStage

/-- Redis, and the snapshots published so far. -/
structure TrendsState where
  redis : Redis
  published : List TrendSnapshot

def publishWindowSnapshot (ctx : SnapshotContext) (window : TrendWindow)
    (attempt : SnapshotAttempt) (state : TrendsState) : TrendsState :=
  let snapshot := windowSnapshot ctx state.redis window attempt.generatedAt
  let (_, countsByTopic) :=
    computeWindowMetrics ctx state.redis window (getBucketStart attempt.generatedAt window)
  match attempt.stage with
  | .unpublished => state
  | .published => { state with published := state.published ++ [snapshot] }
  | .completed =>
      { redis := writePreviousWindowCounts state.redis window countsByTopic
        published := state.published ++ [snapshot] }

section Publish

variable {ctx : SnapshotContext} {window : TrendWindow} {attempt : SnapshotAttempt}
  {state : TrendsState}

theorem publishWindowSnapshot_of_unpublished (stage : attempt.stage = .unpublished) :
    publishWindowSnapshot ctx window attempt state = state := by
  simp [publishWindowSnapshot, stage]

theorem publishWindowSnapshot_of_published (stage : attempt.stage = .published) :
    publishWindowSnapshot ctx window attempt state =
      { state with
        published := state.published ++
          [windowSnapshot ctx state.redis window attempt.generatedAt] } := by
  simp [publishWindowSnapshot, stage]

theorem publishWindowSnapshot_of_completed (stage : attempt.stage = .completed) :
    publishWindowSnapshot ctx window attempt state =
      { redis := writePreviousWindowCounts state.redis window (ctx.topics.map fun topic =>
          (topic, state.redis.count
            (.counter window topic (getBucketStart attempt.generatedAt window))))
        published := state.published ++
          [windowSnapshot ctx state.redis window attempt.generatedAt] } := by
  simp [publishWindowSnapshot, stage, computeWindowMetrics]

end Publish

/-! ## Runs -/

/-- The calls of a run.  `publishSnapshots` reads the clock for each window. -/
inductive TrendsCall : Type
  | applyEventToWindows (now : ℤ) (event : ParsedRawEvent) (topics : List String)
  | publishSnapshots (attempts : List SnapshotAttempt)

inductive TrendsStep : Type
  | applyEvent (now : ℤ) (event : ParsedRawEvent) (topics : List String)
  | publishWindow (window : TrendWindow) (attempt : SnapshotAttempt)

/-- The loop of `publishSnapshots` over the windows, which an attempt that throws ends. -/
def publishSnapshots : List TrendWindow → List SnapshotAttempt → List TrendsStep
  | window :: windows, attempt :: attempts =>
      .publishWindow window attempt ::
        if attempt.stage = .completed then publishSnapshots windows attempts else []
  | _, _ => []

def TrendsCall.steps (ctx : SnapshotContext) : TrendsCall → List TrendsStep
  | .applyEventToWindows now event topics => [.applyEvent now event topics]
  | .publishSnapshots attempts => Trends.publishSnapshots ctx.windows attempts

def TrendsStep.apply (ctx : SnapshotContext) (state : TrendsState) : TrendsStep → TrendsState
  | .applyEvent _ event topics =>
      { state with
        redis := (applyEventToWindows state.redis event topics ctx.windows
          ctx.maxEvidencePerTopic).2 }
  | .publishWindow window attempt => publishWindowSnapshot ctx window attempt state

def TrendsStep.time : TrendsStep → ℤ
  | .applyEvent now _ _ => now
  | .publishWindow _ attempt => attempt.generatedAt

/-- No event is applied to a bucket after that bucket ended. -/
def TrendsStep.Punctual (ctx : SnapshotContext) : TrendsStep → Prop
  | .applyEvent now event _ => ∀ window ∈ ctx.windows,
      now < getBucketStart event.fetchedAt window + windowMs window
  | .publishWindow _ _ => True

/-- The step may change counters of a bucket. -/
def TrendsStep.CountsIn (ctx : SnapshotContext) (window : TrendWindow) (bucket : ℤ) :
    TrendsStep → Prop
  | .applyEvent _ event _ =>
      window ∈ ctx.windows ∧ getBucketStart event.fetchedAt window = bucket
  | .publishWindow _ _ => False

/-- The step completes a snapshot of the window. -/
def TrendsStep.Completes (window : TrendWindow) : TrendsStep → Prop
  | .applyEvent .. => False
  | .publishWindow published attempt => published = window ∧ attempt.stage = .completed

def run (ctx : SnapshotContext) (redis : Redis) (steps : List TrendsStep) : TrendsState :=
  steps.foldl (TrendsStep.apply ctx) { redis := redis, published := [] }

/-- A store that nothing was counted in. -/
structure Redis.Fresh (redis : Redis) : Prop where
  counter : ∀ window topic bucket, redis.strings (.counter window topic bucket) = none
  previous : ∀ window topic, redis.strings (.previous window topic) = none

/-! ## What a step does to counters and previous counts -/

section Steps

variable {ctx : SnapshotContext} {window : TrendWindow} {topic : String} {bucket : ℤ}

/-- The count that a step records for the next snapshot of the window, if it completes one: the
count of the topic in the bucket of the moment. -/
def TrendsStep.record (window : TrendWindow) (topic : String) (state : TrendsState) (last : ℤ) :
    TrendsStep → ℤ
  | .applyEvent .. => last
  | .publishWindow published attempt =>
      if published = window ∧ attempt.stage = .completed then
        state.redis.count (.counter window topic (getBucketStart attempt.generatedAt window))
      else last

/-- The count of the topic when the window was last snapshot, in the bucket of that snapshot. -/
def countAtLastSnapshot (ctx : SnapshotContext) (window : TrendWindow) (topic : String) :
    TrendsState → ℤ → List TrendsStep → ℤ
  | _, last, [] => last
  | state, last, step :: steps =>
      countAtLastSnapshot ctx window topic (step.apply ctx state)
        (step.record window topic state last) steps

/-- Only a completed snapshot of the window writes the previous count. -/
theorem count_previous_apply (tracked : topic ∈ ctx.topics) (state : TrendsState)
    (step : TrendsStep) :
    (step.apply ctx state).redis.count (.previous window topic) =
      step.record window topic state (state.redis.count (.previous window topic)) := by
  cases step with
  | applyEvent now event topics =>
      exact count_applyEventToWindows state.redis fun _ _ _ _ => RedisKey.noConfusion
  | publishWindow published attempt =>
      simp only [TrendsStep.apply, TrendsStep.record]
      cases stage : attempt.stage with
      | unpublished => simp [publishWindowSnapshot_of_unpublished stage]
      | published => simp [publishWindowSnapshot_of_published stage, Redis.count]
      | completed =>
          rw [publishWindowSnapshot_of_completed stage]
          by_cases same : published = window
          · subst same
            simp only [and_self, if_true]
            exact count_writePrevious state.redis _ tracked
          · simp only [same, false_and, if_false]
            refine count_writePrevious_of_ne state.redis fun topic' equal => ?_
            injection equal with equal
            exact same equal.symm

theorem count_previous_foldl (tracked : topic ∈ ctx.topics) (steps : List TrendsStep)
    (state : TrendsState) :
    (steps.foldl (TrendsStep.apply ctx) state).redis.count (.previous window topic) =
      countAtLastSnapshot ctx window topic state (state.redis.count (.previous window topic))
        steps := by
  induction steps generalizing state with
  | nil => rfl
  | cons step steps ih =>
      rw [List.foldl_cons, ih, count_previous_apply tracked]
      rfl

theorem not_countsIn_of_ended {step : TrendsStep} (punctual : step.Punctual ctx)
    (ended : bucket + windowMs window ≤ step.time) : ¬step.CountsIn ctx window bucket := by
  cases step with
  | publishWindow _ _ => exact not_false
  | applyEvent now event topics =>
      rintro ⟨configured, rfl⟩
      have early : now < getBucketStart event.fetchedAt window + windowMs window :=
        punctual window configured
      have late : getBucketStart event.fetchedAt window + windowMs window ≤ now := ended
      omega

/-- Only events write counters. -/
theorem count_counter_apply {step : TrendsStep} (other : ¬step.CountsIn ctx window bucket)
    (state : TrendsState) :
    (step.apply ctx state).redis.count (.counter window topic bucket) =
      state.redis.count (.counter window topic bucket) := by
  cases step with
  | applyEvent now event topics =>
      refine count_applyEventToWindows state.redis fun window' configured topic' _ equal => ?_
      injection equal with sameWindow _ sameBucket
      subst sameWindow
      exact other ⟨configured, sameBucket.symm⟩
  | publishWindow published attempt =>
      simp only [TrendsStep.apply]
      cases stage : attempt.stage with
      | unpublished => rw [publishWindowSnapshot_of_unpublished stage]
      | published => rw [publishWindowSnapshot_of_published stage]
      | completed =>
          rw [publishWindowSnapshot_of_completed stage]
          exact count_writePrevious_of_ne state.redis fun _ => RedisKey.noConfusion

theorem count_counter_foldl {steps : List TrendsStep}
    (others : ∀ step ∈ steps, ¬step.CountsIn ctx window bucket) (state : TrendsState) :
    (steps.foldl (TrendsStep.apply ctx) state).redis.count (.counter window topic bucket) =
      state.redis.count (.counter window topic bucket) := by
  induction steps generalizing state with
  | nil => rfl
  | cons step steps ih =>
      rw [List.foldl_cons, ih fun step mem => others step (List.mem_cons_of_mem _ mem)]
      exact count_counter_apply (others step (List.mem_cons_self ..)) state

theorem countAtLastSnapshot_append (state : TrendsState) (last : ℤ) (before after : List TrendsStep) :
    countAtLastSnapshot ctx window topic state last (before ++ after) =
      countAtLastSnapshot ctx window topic (before.foldl (TrendsStep.apply ctx) state)
        (countAtLastSnapshot ctx window topic state last before) after := by
  induction before generalizing state last with
  | nil => rfl
  | cons step before ih => exact ih _ _

theorem countAtLastSnapshot_of_none {steps : List TrendsStep}
    (others : ∀ step ∈ steps, ¬step.Completes window) (state : TrendsState) (last : ℤ) :
    countAtLastSnapshot ctx window topic state last steps = last := by
  induction steps generalizing state last with
  | nil => rfl
  | cons step steps ih =>
      have here := others step (List.mem_cons_self ..)
      have kept : step.record window topic state last = last := by
        cases step with
        | applyEvent now event topics => rfl
        | publishWindow published attempt => exact if_neg here
      unfold countAtLastSnapshot
      rw [ih (fun step mem => others step (List.mem_cons_of_mem _ mem)), kept]

/-- Every snapshot comes from a step of the run. -/
theorem mem_published_foldl {steps : List TrendsStep} {state : TrendsState}
    {snapshot : TrendSnapshot}
    (mem : snapshot ∈ (steps.foldl (TrendsStep.apply ctx) state).published) :
    snapshot ∈ state.published ∨ ∃ before window attempt after,
      steps = before ++ .publishWindow window attempt :: after ∧
      snapshot = windowSnapshot ctx (before.foldl (TrendsStep.apply ctx) state).redis window
        attempt.generatedAt := by
  induction steps generalizing state with
  | nil => exact .inl mem
  | cons step steps ih =>
      rcases ih mem with here | ⟨before, window, attempt, after, rfl, published⟩
      · cases step with
        | applyEvent now event topics => exact .inl here
        | publishWindow window attempt =>
            simp only [TrendsStep.apply] at here
            have before : snapshot ∈ state.published ∨
                snapshot = windowSnapshot ctx state.redis window attempt.generatedAt := by
              cases stage : attempt.stage with
              | unpublished =>
                  rw [publishWindowSnapshot_of_unpublished stage] at here
                  exact .inl here
              | published =>
                  rw [publishWindowSnapshot_of_published stage] at here
                  exact (List.mem_append.1 here).imp_right List.mem_singleton.1
              | completed =>
                  rw [publishWindowSnapshot_of_completed stage] at here
                  exact (List.mem_append.1 here).imp_right List.mem_singleton.1
            refine before.imp_right fun published => ?_
            exact ⟨[], window, attempt, steps, rfl, published⟩
      · exact .inr ⟨step :: before, window, attempt, after, rfl, published⟩

end Steps

/-! ## The previous window of a snapshot -/

/-- The bucket before the one of a moment. -/
def precedingBucket (t : ℤ) (window : TrendWindow) : ℤ := getBucketStart t window - windowMs window

/-- The counter of a topic in the bucket that a snapshot is generated in. -/
def TrendSnapshot.currentKey (snapshot : TrendSnapshot) (topic : String) : RedisKey :=
  .counter snapshot.window topic (getBucketStart snapshot.generatedAt snapshot.window)

/-- The counter of a topic in the bucket before. -/
def TrendSnapshot.precedingKey (snapshot : TrendSnapshot) (topic : String) : RedisKey :=
  .counter snapshot.window topic (precedingBucket snapshot.generatedAt snapshot.window)

/-- A metric compares the count of the current bucket with that of the preceding one. -/
structure TopicSnapshotMetric.Compares (metric : TopicSnapshotMetric) (current preceding : ℤ) :
    Prop where
  prevVolume : metric.prevVolume = preceding
  acceleration : metric.acceleration = computeAcceleration current preceding

/-- The steps take the snapshot after `before`. -/
def TrendSnapshot.TakenAfter (ctx : SnapshotContext) (redis : Redis) (steps : List TrendsStep)
    (snapshot : TrendSnapshot) (before : List TrendsStep) : Prop :=
  ∃ attempt after, steps = before ++ .publishWindow snapshot.window attempt :: after ∧
    snapshot = windowSnapshot ctx (run ctx redis before).redis snapshot.window attempt.generatedAt

/-- What a run must not do: go back in time or apply an event to a bucket that has ended. -/
structure Timely (ctx : SnapshotContext) (steps : List TrendsStep) : Prop where
  ordered : steps.Pairwise fun earlier later => earlier.time ≤ later.time
  punctual : ∀ step ∈ steps, step.Punctual ctx

section Runs

variable {ctx : SnapshotContext} {redis : Redis} {window : TrendWindow} {topic : String}

/-- A reported metric is that of a topic of the allowlist. -/
theorem exists_topicMetric {t : ℤ} {metric : TopicSnapshotMetric}
    (mem : metric ∈ (windowSnapshot ctx redis window t).topics) :
    ∃ topic ∈ ctx.topics, metric = topicMetric ctx redis window (getBucketStart t window) topic := by
  have computed := List.mem_mergeSort.1 (List.mem_of_mem_take mem)
  obtain ⟨topic, tracked, same⟩ := List.mem_map.1 computed
  exact ⟨topic, tracked, same.symm⟩

/-- The metric of a topic compares with a count exactly if that is the previous count. -/
theorem topicMetric_compares {bucket preceding : ℤ} :
    (topicMetric ctx redis window bucket topic).Compares
        (redis.count (.counter window topic bucket)) preceding ↔
      redis.count (.previous window topic) = preceding := by
  constructor
  · exact fun compares => compares.prevVolume
  · rintro rfl
    exact ⟨rfl, rfl⟩

theorem count_previous_run (fresh : redis.Fresh) (tracked : topic ∈ ctx.topics)
    (steps : List TrendsStep) :
    (run ctx redis steps).redis.count (.previous window topic) =
      countAtLastSnapshot ctx window topic ⟨redis, []⟩ 0 steps := by
  have start : redis.count (.previous window topic) = 0 := by
    unfold Redis.count
    rw [fresh.previous]
    rfl
  rw [← start]
  exact count_previous_foldl tracked steps ⟨redis, []⟩

/-- From a snapshot on, the preceding bucket keeps its count. -/
theorem count_preceding_run {before after : List TrendsStep} {attempt : SnapshotAttempt}
    (timely : Timely ctx (before ++ .publishWindow window attempt :: after)) :
    (run ctx redis (before ++ .publishWindow window attempt :: after)).redis.count
        (.counter window topic (precedingBucket attempt.generatedAt window)) =
      (run ctx redis before).redis.count
        (.counter window topic (precedingBucket attempt.generatedAt window)) := by
  have times := List.pairwise_cons.1 (List.pairwise_append.1 timely.ordered).2.1
  have ended : precedingBucket attempt.generatedAt window + windowMs window ≤
      attempt.generatedAt := by
    have start := getBucketStart_le attempt.generatedAt window
    unfold precedingBucket
    omega
  unfold run
  rw [List.foldl_append]
  refine count_counter_foldl (fun step mem => ?_) _
  refine not_countsIn_of_ended (timely.punctual step (List.mem_append_right before mem)) ?_
  rcases List.mem_cons.1 mem with rfl | later
  · exact ended
  · exact ended.trans (times.1 step later)

/-- The metric of a topic in a snapshot of a run. -/
theorem topicMetric_compares_run {before after : List TrendsStep} {attempt : SnapshotAttempt}
    (fresh : redis.Fresh) (tracked : topic ∈ ctx.topics)
    (timely : Timely ctx (before ++ .publishWindow window attempt :: after)) :
    (topicMetric ctx (run ctx redis before).redis window
        (getBucketStart attempt.generatedAt window) topic).Compares
        ((run ctx redis before).redis.count
          (.counter window topic (getBucketStart attempt.generatedAt window)))
        ((run ctx redis (before ++ .publishWindow window attempt :: after)).redis.count
          (.counter window topic (precedingBucket attempt.generatedAt window))) ↔
      countAtLastSnapshot ctx window topic ⟨redis, []⟩ 0 before =
        (run ctx redis before).redis.count
          (.counter window topic (precedingBucket attempt.generatedAt window)) := by
  rw [count_preceding_run timely, topicMetric_compares, count_previous_run fresh tracked]

/-- Every snapshot of a run of steps, and when its metrics compare with the preceding bucket. -/
theorem mem_published_run {steps : List TrendsStep} (fresh : redis.Fresh)
    (timely : Timely ctx steps) {snapshot : TrendSnapshot}
    (mem : snapshot ∈ (run ctx redis steps).published) :
    ∃ before, snapshot.TakenAfter ctx redis steps before ∧
      ∀ metric ∈ snapshot.topics,
        metric.Compares ((run ctx redis before).redis.count (snapshot.currentKey metric.topic))
            ((run ctx redis steps).redis.count (snapshot.precedingKey metric.topic)) ↔
          countAtLastSnapshot ctx snapshot.window metric.topic ⟨redis, []⟩ 0 before =
            (run ctx redis before).redis.count (snapshot.precedingKey metric.topic) := by
  have nothing : snapshot ∉ ([] : List TrendSnapshot) := List.not_mem_nil
  obtain ⟨before, window, attempt, after, rfl, rfl⟩ :=
    (mem_published_foldl mem).resolve_left nothing
  refine ⟨before, ⟨attempt, after, rfl, rfl⟩, fun metric reported => ?_⟩
  obtain ⟨topic, tracked, rfl⟩ := exists_topicMetric reported
  exact topicMetric_compares_run fresh tracked timely

/-- The steps of the calls of a run, in order. -/
def history (ctx : SnapshotContext) (calls : List TrendsCall) : List TrendsStep :=
  calls.flatMap (TrendsCall.steps ctx)

/-- In every run, a reported metric of a snapshot compares the current bucket with the final count
of the preceding one exactly if that final count is also the topic's count at the last snapshot of
the window, in the bucket of that snapshot. -/
theorem prevVolume_iff {calls : List TrendsCall} (fresh : redis.Fresh)
    (timely : Timely ctx (history ctx calls)) :
    ∀ snapshot ∈ (run ctx redis (history ctx calls)).published,
      ∃ before, snapshot.TakenAfter ctx redis (history ctx calls) before ∧
      ∀ metric ∈ snapshot.topics,
        metric.Compares ((run ctx redis before).redis.count (snapshot.currentKey metric.topic))
            ((run ctx redis (history ctx calls)).redis.count
              (snapshot.precedingKey metric.topic)) ↔
          countAtLastSnapshot ctx snapshot.window metric.topic ⟨redis, []⟩ 0 before =
            (run ctx redis before).redis.count (snapshot.precedingKey metric.topic) :=
  fun _ mem => mem_published_run fresh timely mem

/-- The two counts agree where the last snapshot was the last thing to happen to the preceding
bucket. -/
theorem countAtLastSnapshot_of_last {earlier since : List TrendsStep} {attempt : SnapshotAttempt}
    (completed : attempt.stage = .completed) (last : ∀ step ∈ since, ¬step.Completes window)
    (counted : ∀ step ∈ since,
      ¬step.CountsIn ctx window (getBucketStart attempt.generatedAt window)) :
    countAtLastSnapshot ctx window topic ⟨redis, []⟩ 0
        (earlier ++ .publishWindow window attempt :: since) =
      (run ctx redis (earlier ++ .publishWindow window attempt :: since)).redis.count
        (.counter window topic (getBucketStart attempt.generatedAt window)) := by
  have recorded : TrendsStep.record window topic (run ctx redis earlier)
      (countAtLastSnapshot ctx window topic ⟨redis, []⟩ 0 earlier)
      (.publishWindow window attempt) =
        (run ctx redis earlier).redis.count
          (.counter window topic (getBucketStart attempt.generatedAt window)) :=
    if_pos ⟨rfl, completed⟩
  have same : (run ctx redis (earlier ++ .publishWindow window attempt :: since)).redis.count
      (.counter window topic (getBucketStart attempt.generatedAt window)) =
        (run ctx redis earlier).redis.count
          (.counter window topic (getBucketStart attempt.generatedAt window)) := by
    unfold run
    rw [List.foldl_append]
    refine count_counter_foldl (fun step mem => ?_) _
    rcases List.mem_cons.1 mem with rfl | later
    · exact not_false
    · exact counted step later
  rw [countAtLastSnapshot_append, same]
  unfold countAtLastSnapshot
  rw [countAtLastSnapshot_of_none last]
  exact recorded

end Runs

/-! ## Two snapshots of one bucket -/

/-- One window, one topic. -/
def quarterHours : SnapshotContext where
  windows := [.minutes15]
  topics := ["ai"]
  maxEvidencePerTopic := 10
  topNTopics := 10
  localeCompareLe left right := decide (left ≤ right)

theorem one_le_fifty : (1 : ℚ) ≤ 50 := by norm_num

def firstEvent : ParsedRawEvent where
  eventId := "e1"
  fetchedAt := 900000
  url := none
  engagementScore := .finite 0
  feedPriority := 50
  one_le_feedPriority := one_le_fifty

/-- An event in the second quarter of an hour and two snapshots right after it. -/
def twoSnapshots : List TrendsCall :=
  [.applyEventToWindows 900000 firstEvent ["ai"],
    .publishSnapshots [⟨900001, .completed⟩],
    .publishSnapshots [⟨900002, .completed⟩]]

theorem newRedis_fresh : newRedis.Fresh := ⟨fun _ _ _ => rfl, fun _ _ => rfl⟩

theorem twoSnapshots_timely : Timely quarterHours (history quarterHours twoSnapshots) := by
  have steps : history quarterHours twoSnapshots =
      [.applyEvent 900000 firstEvent ["ai"], .publishWindow .minutes15 ⟨900001, .completed⟩,
        .publishWindow .minutes15 ⟨900002, .completed⟩] := rfl
  rw [steps]
  constructor
  case ordered => simp [TrendsStep.time]
  case punctual =>
    intro step mem
    simp only [List.mem_cons, List.not_mem_nil, or_false] at mem
    rcases mem with rfl | rfl | rfl
    · intro window _
      cases window <;> decide
    · trivial
    · trivial

theorem prevVolume_iff_twoSnapshots :
    (run quarterHours newRedis (history quarterHours twoSnapshots)).published.length = 2 ∧
    ∀ snapshot ∈ (run quarterHours newRedis (history quarterHours twoSnapshots)).published,
      ∃ before, snapshot.TakenAfter quarterHours newRedis (history quarterHours twoSnapshots)
          before ∧
      ∀ metric ∈ snapshot.topics,
        metric.Compares
            ((run quarterHours newRedis before).redis.count (snapshot.currentKey metric.topic))
            ((run quarterHours newRedis (history quarterHours twoSnapshots)).redis.count
              (snapshot.precedingKey metric.topic)) ↔
          countAtLastSnapshot quarterHours snapshot.window metric.topic ⟨newRedis, []⟩ 0 before =
            (run quarterHours newRedis before).redis.count (snapshot.precedingKey metric.topic) :=
  ⟨by decide +kernel, prevVolume_iff newRedis_fresh twoSnapshots_timely⟩

/-- The second snapshot reports the count of its own bucket as the previous volume; nothing was
counted in the bucket before. -/
theorem second_snapshot_disagrees :
    Timely quarterHours (history quarterHours twoSnapshots) ∧ newRedis.Fresh ∧
    ∃ snapshot ∈ (run quarterHours newRedis (history quarterHours twoSnapshots)).published,
      ∃ metric ∈ snapshot.topics, metric.prevVolume ≠
        (run quarterHours newRedis (history quarterHours twoSnapshots)).redis.count
          (snapshot.precedingKey metric.topic) :=
  ⟨twoSnapshots_timely, newRedis_fresh, by decide +kernel⟩

end RisingIntelligence.Trends
