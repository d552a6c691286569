import RisingIntelligence.Trends.Windows
import RisingIntelligence.Shared.FirstOfEach

/-!
# Counters under redelivery

The counters of `applyEventToWindows` over a sequence of deliveries, in which events may be repeated
and come in any order.

* `Accepted`: the first delivery of an event that matches a topic.
* `expectedCount`: what a counter should hold, from the accepted deliveries alone.
* `Tracks`: what the sets and the counters of the store say about the deliveries so far.
-/

namespace RisingIntelligence.Trends

/-- One call of `applyEventToWindows`. -/
structure Delivery where
  event : ParsedRawEvent
  topics : List String

def Delivery.eventId (delivery : Delivery) : String := delivery.event.eventId

/-- `event.url ?? ""` -/
def Delivery.storyMember (delivery : Delivery) : String := delivery.event.url.getD ""

def deliver (windows : List TrendWindow) (maxEvidencePerTopic : ℕ) (redis : Redis)
    (delivery : Delivery) : Redis :=
  (applyEventToWindows redis delivery.event delivery.topics windows maxEvidencePerTopic).2

def deliverAll (windows : List TrendWindow) (maxEvidencePerTopic : ℕ) (deliveries : List Delivery)
    (redis : Redis) : Redis :=
  deliveries.foldl (deliver windows maxEvidencePerTopic) redis

/-! ## What should be counted -/

/-- The deliveries that match a topic. -/
def matching (deliveries : List Delivery) : List Delivery :=
  deliveries.filter fun delivery => delivery.topics ≠ []

/-- The first delivery of each event, of those that match a topic. -/
def accepted (deliveries : List Delivery) : List Delivery :=
  firstOfEach Delivery.eventId (matching deliveries)

/-- The delivery, coming after `before`, is the first of its event that matches a topic. -/
def Accepted (before : List Delivery) (delivery : Delivery) : Prop :=
  delivery.topics ≠ [] ∧ delivery.eventId ∉ (matching before).map Delivery.eventId

def Delivery.CountsIn (window : TrendWindow) (topic : String) (bucket : ℤ) (delivery : Delivery) :
    Prop :=
  topic ∈ delivery.topics ∧ getBucketStart delivery.event.fetchedAt window = bucket

instance (window : TrendWindow) (topic : String) (bucket : ℤ) (delivery : Delivery) :
    Decidable (delivery.CountsIn window topic bucket) :=
  inferInstanceAs (Decidable (_ ∧ _))

def countedIn (window : TrendWindow) (topic : String) (bucket : ℤ) (deliveries : List Delivery) :
    List Delivery :=
  (accepted deliveries).filter fun delivery => delivery.CountsIn window topic bucket

/-- The deliveries with a link. -/
def linked (deliveries : List Delivery) : List Delivery :=
  deliveries.filter fun delivery => delivery.storyMember ≠ ""

def unlinked (deliveries : List Delivery) : List Delivery :=
  deliveries.filter fun delivery => delivery.storyMember = ""

def totalWeight : List Delivery → ℤ
  | [] => 0
  | delivery :: deliveries => delivery.event.volumeWeight + totalWeight deliveries

/-- Each link counts once, with the weight of the first delivery that has it. -/
def storyWeight (deliveries : List Delivery) : ℤ :=
  totalWeight (firstOfEach Delivery.storyMember (linked deliveries)) +
    totalWeight (unlinked deliveries)

def expectedCount (deliveries : List Delivery) (window : TrendWindow) (topic : String)
    (bucket : ℤ) : ℤ :=
  storyWeight (countedIn window topic bucket deliveries)

/-- `INCRBY` reads the weights as they are, and no sum leaves the signed 64-bit range. -/
structure InRange (server : RedisServer) (windows : List TrendWindow) (deliveries : List Delivery) :
    Prop where
  weight : ∀ delivery ∈ accepted deliveries,
    server.incrArgument delivery.event.volumeWeight = some delivery.event.volumeWeight
  count : ∀ window ∈ windows, ∀ topic bucket, expectedCount deliveries window topic bucket < 2 ^ 63

/-- An event is always delivered with one `fetchedAt`. -/
def SameFetchedAt (deliveries : List Delivery) : Prop :=
  ∀ first ∈ deliveries, ∀ second ∈ deliveries, first.eventId = second.eventId →
    first.event.fetchedAt = second.event.fetchedAt

/-- A store without counters, links and delivered events. -/
structure Redis.Uncounted (redis : Redis) : Prop where
  counter : ∀ window topic bucket, redis.strings (.counter window topic bucket) = none
  storyUrls : ∀ window topic bucket url, redis.sets (.storyUrls window topic bucket) url = false
  dedup : ∀ window bucket eventId, redis.sets (.dedup window bucket) eventId = false

/-! ## Sums of weights -/

theorem one_le_volumeWeight (event : ParsedRawEvent) : 1 ≤ event.volumeWeight :=
  le_max_left ..

theorem totalWeight_concat (deliveries : List Delivery) (last : Delivery) :
    totalWeight (deliveries ++ [last]) = totalWeight deliveries + last.event.volumeWeight := by
  induction deliveries with
  | nil => simp [totalWeight]
  | cons delivery deliveries ih =>
      simp only [List.cons_append, totalWeight, ih]
      omega

theorem totalWeight_nonneg (deliveries : List Delivery) : 0 ≤ totalWeight deliveries := by
  induction deliveries with
  | nil => exact le_refl _
  | cons delivery deliveries ih =>
      have weight := one_le_volumeWeight delivery.event
      unfold totalWeight
      omega

theorem storyWeight_nonneg (deliveries : List Delivery) : 0 ≤ storyWeight deliveries := by
  have links := totalWeight_nonneg (firstOfEach Delivery.storyMember (linked deliveries))
  have rest := totalWeight_nonneg (unlinked deliveries)
  unfold storyWeight
  omega

theorem totalWeight_filter_le (deliveries : List Delivery) (keep : Delivery → Bool) :
    totalWeight (deliveries.filter keep) ≤ totalWeight deliveries := by
  induction deliveries with
  | nil => exact le_refl _
  | cons delivery deliveries ih =>
      have weight := one_le_volumeWeight delivery.event
      rw [List.filter_cons]
      split
      · unfold totalWeight
        omega
      · rw [totalWeight]
        omega

theorem volumeWeight_le_totalWeight {deliveries : List Delivery} {delivery : Delivery}
    (mem : delivery ∈ deliveries) : delivery.event.volumeWeight ≤ totalWeight deliveries := by
  induction deliveries with
  | nil => cases mem
  | cons first deliveries ih =>
      have weight := one_le_volumeWeight first.event
      have rest := totalWeight_nonneg deliveries
      unfold totalWeight
      rcases List.mem_cons.1 mem with rfl | later
      · omega
      · have bound := ih later
        omega

/-- What a further delivery adds. -/
def addedWeight (deliveries : List Delivery) (last : Delivery) : ℤ :=
  if last.storyMember ≠ "" ∧ last.storyMember ∈ deliveries.map Delivery.storyMember then 0
  else last.event.volumeWeight

theorem addedWeight_nonneg (deliveries : List Delivery) (last : Delivery) :
    0 ≤ addedWeight deliveries last := by
  have weight := one_le_volumeWeight last.event
  unfold addedWeight
  split <;> omega

theorem addedWeight_le (deliveries : List Delivery) (last : Delivery) :
    addedWeight deliveries last ≤ last.event.volumeWeight := by
  have weight := one_le_volumeWeight last.event
  unfold addedWeight
  split <;> omega

theorem mem_map_linked {deliveries : List Delivery} {url : String} (nonempty : url ≠ "") :
    url ∈ (linked deliveries).map Delivery.storyMember ↔
      url ∈ deliveries.map Delivery.storyMember := by
  simp only [linked, List.mem_map, List.mem_filter, decide_eq_true_eq]
  constructor
  · intro linked
    rcases linked with ⟨delivery, ⟨mem, -⟩, rfl⟩
    exact ⟨delivery, mem, rfl⟩
  · intro delivered
    rcases delivered with ⟨delivery, mem, rfl⟩
    exact ⟨delivery, ⟨mem, nonempty⟩, rfl⟩

theorem storyWeight_concat (deliveries : List Delivery) (last : Delivery) :
    storyWeight (deliveries ++ [last]) = storyWeight deliveries + addedWeight deliveries last := by
  unfold storyWeight addedWeight
  by_cases link : last.storyMember = ""
  · have sameLinks : linked (deliveries ++ [last]) = linked deliveries := by
      simp [linked, List.filter_append, link]
    have longer : unlinked (deliveries ++ [last]) = unlinked deliveries ++ [last] := by
      simp [unlinked, List.filter_append, link]
    rw [sameLinks, longer, totalWeight_concat, if_neg (by simp [link])]
    omega
  · have longer : linked (deliveries ++ [last]) = linked deliveries ++ [last] := by
      simp [linked, List.filter_append, link]
    have sameRest : unlinked (deliveries ++ [last]) = unlinked deliveries := by
      simp [unlinked, List.filter_append, link]
    rw [longer, sameRest]
    by_cases seen : last.storyMember ∈ deliveries.map Delivery.storyMember
    · rw [firstOfEach_concat_of_mem ((mem_map_linked link).2 seen), if_pos ⟨link, seen⟩]
      omega
    · rw [firstOfEach_concat_of_notMem fun mem => seen ((mem_map_linked link).1 mem),
        totalWeight_concat, if_neg fun both => seen both.2]
      omega

theorem storyWeight_le (deliveries : List Delivery) :
    storyWeight deliveries ≤ totalWeight deliveries := by
  induction deliveries using List.reverseRecOn with
  | nil => exact le_refl _
  | append_singleton deliveries last ih =>
      have added := addedWeight_le deliveries last
      rw [storyWeight_concat, totalWeight_concat]
      omega

theorem expectedCount_le (deliveries : List Delivery) (window : TrendWindow) (topic : String)
    (bucket : ℤ) :
    expectedCount deliveries window topic bucket ≤ totalWeight (accepted deliveries) :=
  (storyWeight_le _).trans (totalWeight_filter_le _ _)

/-- Small weights are in range. -/
theorem inRange_of_totalWeight (server : RedisServer) {windows : List TrendWindow}
    {deliveries : List Delivery} (small : totalWeight (accepted deliveries) < 10 ^ 17) :
    InRange server windows deliveries := by
  constructor
  · intro delivery mem
    have bound := volumeWeight_le_totalWeight mem
    have weight := one_le_volumeWeight delivery.event
    exact server.incrArgument_small _ (by omega) (by omega)
  · intro window _ topic bucket
    have bound := expectedCount_le deliveries window topic bucket
    omega

/-! ## One event that is counted -/

section Apply

variable {event : ParsedRawEvent} {maxEvidencePerTopic : ℕ} {redis : Redis}

/-- A window and a topic, and the bucket of the event in that window. -/
def targetCounter (event : ParsedRawEvent) (target : TrendWindow × String) : RedisKey :=
  .counter target.1 target.2 (getBucketStart event.fetchedAt target.1)

def targetStoryUrls (event : ParsedRawEvent) (target : TrendWindow × String) : RedisKey :=
  .storyUrls target.1 target.2 (getBucketStart event.fetchedAt target.1)

def planFor (event : ParsedRawEvent) (target : TrendWindow × String) : WindowPlan where
  counterKey := targetCounter event target
  counterTtlSeconds := getWindowSeconds target.1 * 3
  evidenceKey := .evidence target.1 target.2
  evidenceTtlSeconds := getWindowSeconds target.1 * 2
  storyUrlsKey := if event.url.getD "" = "" then none else some (targetStoryUrls event target)
  storyUrlsTtlSeconds := getWindowSeconds target.1 * 3
  storyMember := event.url.getD ""

theorem story_planFor (event : ParsedRawEvent) (target : TrendWindow × String) :
    (planFor event target).story =
      if event.url.getD "" = "" then none
      else some (targetStoryUrls event target, event.url.getD "") := by
  unfold planFor WindowPlan.story
  by_cases link : event.url.getD "" = ""
  · simp only [link, if_true]
  · simp only [link, if_false]

theorem windowPlans_eq (topics : List String) (windows : List TrendWindow) :
    windowPlans event topics windows = (windows.product topics).map (planFor event) := by
  unfold windowPlans List.product
  rw [List.map_flatMap]
  simp only [List.map_map]
  rfl

/-- What the event adds to a counter. -/
def gain (event : ParsedRawEvent) (redis : Redis) (target : TrendWindow × String) : ℤ :=
  if event.url.getD "" ≠ "" ∧ redis.sets (targetStoryUrls event target) (event.url.getD "") = true
  then 0 else event.volumeWeight

/-- The store after one round of the script that no command refuses. -/
def afterPlan (event : ParsedRawEvent) (maxEvidencePerTopic : ℕ) (redis : Redis)
    (target : TrendWindow × String) : Redis :=
  let counter := targetCounter event target
  let evidence := .evidence target.1 target.2
  let (shouldIncrement, redis) := countStory redis (planFor event target).story
  let redis := if shouldIncrement then
      redis.set counter (redis.count counter + event.volumeWeight) else redis
  (redis.zadd evidence event.evidenceScore event.eventId).zkeepLast evidence maxEvidencePerTopic

variable (event redis) in
theorem countStory_fst (target : TrendWindow × String) :
    (countStory redis (planFor event target).story).1 = true ↔
      ¬(event.url.getD "" ≠ "" ∧
        redis.sets (targetStoryUrls event target) (event.url.getD "") = true) := by
  by_cases link : event.url.getD "" = ""
  · simp [story_planFor, link, countStory]
  · simp [story_planFor, link, countStory, Redis.sadd]

theorem server_countStory (redis : Redis) (story : Option (RedisKey × String)) :
    (countStory redis story).2.server = redis.server := by
  cases story <;> rfl

theorem server_incrBy {redis redis' : Redis} {key : RedisKey} {amount : ℤ}
    (added : redis.incrBy key amount = some redis') : redis'.server = redis.server := by
  obtain ⟨read, -, added⟩ := Option.bind_eq_some_iff.1 added
  dsimp only at added
  split at added
  · obtain rfl := Option.some.inj added
    rfl
  · cases added

theorem server_applyPlans (plans : List WindowPlan) (redis : Redis) :
    (applyPlans event maxEvidencePerTopic plans redis).2.server = redis.server := by
  induction plans generalizing redis with
  | nil => rfl
  | cons plan plans ih =>
      have story := server_countStory redis plan.story
      unfold applyPlans
      generalize countStory redis plan.story = counted at story ⊢
      obtain ⟨shouldIncrement, redis'⟩ := counted
      cases shouldIncrement with
      | false => exact (ih _).trans story
      | true =>
          simp only [if_true]
          cases added : redis'.incrBy plan.counterKey event.volumeWeight with
          | none => exact story
          | some redis'' => exact (ih _).trans ((server_incrBy added).trans story)

theorem server_applyEventToWindows (redis : Redis) (topics : List String)
    (windows : List TrendWindow) :
    (applyEventToWindows redis event topics windows maxEvidencePerTopic).2.server = redis.server := by
  rw [applyEventToWindows_eq]
  unfold applyByPlans
  split
  · rfl
  split
  · rfl
  · dsimp only
    split
    · exact server_applyPlans _ _
    · rfl

variable (event redis) in
theorem count_countStory (target : TrendWindow × String) (key : RedisKey) :
    (countStory redis (planFor event target).story).2.count key = redis.count key :=
  congrArg (·.getD 0) (congrFun (strings_countStory redis _) key)

theorem applyPlans_cons (target : TrendWindow × String) (targets : List (TrendWindow × String))
    (weight : redis.server.incrArgument event.volumeWeight = some event.volumeWeight)
    (nonneg : 0 ≤ redis.count (targetCounter event target))
    (fits : redis.count (targetCounter event target) + gain event redis target < 2 ^ 63) :
    applyPlans event maxEvidencePerTopic ((target :: targets).map (planFor event)) redis =
      applyPlans event maxEvidencePerTopic (targets.map (planFor event))
        (afterPlan event maxEvidencePerTopic redis target) := by
  have one := one_le_volumeWeight event
  have new := countStory_fst event redis target
  have count := count_countStory event redis target (targetCounter event target)
  have server := server_countStory redis (planFor event target).story
  rw [List.map_cons, applyPlans]
  unfold afterPlan
  generalize countStory redis (planFor event target).story = story at new count server ⊢
  obtain ⟨shouldIncrement, redis'⟩ := story
  cases shouldIncrement with
  | false => rfl
  | true =>
      rw [gain, if_neg (new.1 rfl)] at fits
      have sum : redis'.incrBy (planFor event target).counterKey event.volumeWeight =
          some (redis'.set (targetCounter event target)
            (redis'.count (targetCounter event target) + event.volumeWeight)) := by
        change redis'.count _ = _ at count
        have low : -2 ^ 63 ≤ redis'.count (targetCounter event target) + event.volumeWeight := by
          omega
        have high : redis'.count (targetCounter event target) + event.volumeWeight < 2 ^ 63 := by
          omega
        have read : redis'.server.incrArgument event.volumeWeight = some event.volumeWeight :=
          server ▸ weight
        unfold Redis.incrBy
        rw [read, Option.bind_some]
        exact if_pos ⟨low, high⟩
      simp only [if_true, sum]
      rfl

theorem count_afterPlan (target : TrendWindow × String) :
    (afterPlan event maxEvidencePerTopic redis target).count (targetCounter event target) =
      redis.count (targetCounter event target) + gain event redis target := by
  have new := countStory_fst event redis target
  have count := count_countStory event redis target (targetCounter event target)
  unfold afterPlan gain
  generalize countStory redis (planFor event target).story = story at new count ⊢
  obtain ⟨shouldIncrement, redis'⟩ := story
  change redis'.count _ = _ at count
  cases shouldIncrement with
  | false =>
      rw [if_pos (not_not.1 fun fresh => Bool.false_ne_true (new.2 fresh)), add_zero]
      exact count
  | true =>
      rw [if_neg (new.1 rfl), ← count]
      exact congrArg (·.getD 0) (Redis.strings_set_self redis' _)

theorem strings_afterPlan_of_ne {target : TrendWindow × String} {key : RedisKey}
    (different : key ≠ targetCounter event target) :
    (afterPlan event maxEvidencePerTopic redis target).strings key = redis.strings key := by
  have same := congrFun (strings_countStory redis (planFor event target).story) key
  unfold afterPlan
  generalize countStory redis (planFor event target).story = story at same ⊢
  obtain ⟨shouldIncrement, redis'⟩ := story
  cases shouldIncrement with
  | false => exact same
  | true => exact (Redis.strings_set_of_ne redis' different _).trans same

theorem sets_sadd (key other : RedisKey) (member url : String) :
    (redis.sadd key member).2.sets other url = true ↔
      redis.sets other url = true ∨ (other = key ∧ url = member) := by
  unfold Redis.sadd
  by_cases here : other = key
  · subst here
    by_cases same : url = member
    · subst same
      simp
    · simp [same]
  · simp [here]

theorem sets_afterPlan (target : TrendWindow × String) (key : RedisKey) (url : String) :
    (afterPlan event maxEvidencePerTopic redis target).sets key url = true ↔
      redis.sets key url = true ∨
        (url ≠ "" ∧ url = event.url.getD "" ∧ key = targetStoryUrls event target) := by
  have story : (afterPlan event maxEvidencePerTopic redis target).sets =
      (countStory redis (planFor event target).story).2.sets := by
    unfold afterPlan
    generalize countStory redis (planFor event target).story = story
    obtain ⟨shouldIncrement, redis'⟩ := story
    cases shouldIncrement <;> rfl
  rw [story]
  by_cases link : event.url.getD "" = ""
  · simp only [story_planFor, link, if_true, countStory]
    grind
  · simp only [story_planFor, link, if_false, countStory, sets_sadd]
    grind

theorem server_afterPlan (target : TrendWindow × String) :
    (afterPlan event maxEvidencePerTopic redis target).server = redis.server := by
  unfold afterPlan
  have kept := server_countStory redis (planFor event target).story
  generalize countStory redis (planFor event target).story = story at kept ⊢
  obtain ⟨shouldIncrement, redis'⟩ := story
  cases shouldIncrement with
  | false => exact kept
  | true => exact kept

/-- What one event that is counted does to the store. -/
structure Applied (event : ParsedRawEvent) (targets : List (TrendWindow × String))
    (before after : Redis) : Prop where
  count : ∀ target ∈ targets, after.count (targetCounter event target) =
    before.count (targetCounter event target) + gain event before target
  others : ∀ key, (∀ target ∈ targets, key ≠ targetCounter event target) →
    after.strings key = before.strings key
  sets : ∀ key url, after.sets key url = true ↔ before.sets key url = true ∨
    (url ≠ "" ∧ url = event.url.getD "" ∧ ∃ target ∈ targets, key = targetStoryUrls event target)

theorem targetCounter_inj {first second : TrendWindow × String}
    (same : targetCounter event first = targetCounter event second) : first = second := by
  injection same with window topic
  exact Prod.ext window topic

theorem targetStoryUrls_inj {first second : TrendWindow × String}
    (same : targetStoryUrls event first = targetStoryUrls event second) : first = second := by
  injection same with window topic
  exact Prod.ext window topic

/-- The rounds do not meet: each has a counter and a set of links of its own. -/
theorem applyPlans_applied {targets : List (TrendWindow × String)} (distinct : targets.Nodup)
    (weight : redis.server.incrArgument event.volumeWeight = some event.volumeWeight)
    (nonneg : ∀ target ∈ targets, 0 ≤ redis.count (targetCounter event target))
    (fits : ∀ target ∈ targets,
      redis.count (targetCounter event target) + gain event redis target < 2 ^ 63) :
    Applied event targets redis
      (applyPlans event maxEvidencePerTopic (targets.map (planFor event)) redis).2 := by
  induction targets generalizing redis with
  | nil =>
      constructor
      · intro target mem
        cases mem
      · intro key _
        rfl
      · intro key url
        simp [applyPlans]
  | cons first targets ih =>
      obtain ⟨apart, distinct⟩ := List.nodup_cons.1 distinct
      rw [applyPlans_cons first targets weight (nonneg first (List.mem_cons_self ..))
        (fits first (List.mem_cons_self ..))]
      have count_rest : ∀ target ∈ targets,
          (afterPlan event maxEvidencePerTopic redis first).count (targetCounter event target) =
            redis.count (targetCounter event target) := by
        intro target mem
        have other : targetCounter event target ≠ targetCounter event first :=
          fun same => apart (targetCounter_inj same ▸ mem)
        exact congrArg (·.getD 0) (strings_afterPlan_of_ne other)
      have gain_rest : ∀ target ∈ targets,
          gain event (afterPlan event maxEvidencePerTopic redis first) target =
            gain event redis target := by
        intro target mem
        have other : targetStoryUrls event target ≠ targetStoryUrls event first :=
          fun same => apart (targetStoryUrls_inj same ▸ mem)
        simp only [gain, sets_afterPlan, other, and_false, or_false]
      have server : (afterPlan event maxEvidencePerTopic redis first).server = redis.server :=
        server_afterPlan first
      have rest := @ih (afterPlan event maxEvidencePerTopic redis first) distinct (server ▸ weight)
        (fun target mem => count_rest target mem ▸ nonneg target (List.mem_cons_of_mem _ mem))
        (fun target mem => by
          rw [count_rest target mem, gain_rest target mem]
          exact fits target (List.mem_cons_of_mem _ mem))
      constructor
      · intro target mem
        rcases List.mem_cons.1 mem with rfl | later
        · have kept := rest.others (targetCounter event target) fun other mem same =>
            apart (targetCounter_inj same ▸ mem)
          exact (congrArg (·.getD 0) kept).trans (count_afterPlan target)
        · rw [rest.count target later, count_rest target later, gain_rest target later]
      · intro key different
        rw [rest.others key fun target mem => different target (List.mem_cons_of_mem _ mem)]
        exact strings_afterPlan_of_ne (different first (List.mem_cons_self ..))
      · intro key url
        rw [rest.sets key url, sets_afterPlan]
        simp only [List.mem_cons, exists_eq_or_imp]
        tauto

end Apply

/-! ## What a delivery does to the accepted ones -/

section Accepted

variable {windows : List TrendWindow} {before : List Delivery} {delivery : Delivery}

theorem matching_concat (before : List Delivery) (delivery : Delivery) :
    matching (before ++ [delivery]) =
      if delivery.topics = [] then matching before else matching before ++ [delivery] := by
  by_cases none : delivery.topics = []
  · simp [matching, List.filter_append, none]
  · simp [matching, List.filter_append, none]

theorem accepted_concat_of_accepted (first : Accepted before delivery) :
    accepted (before ++ [delivery]) = accepted before ++ [delivery] := by
  unfold accepted
  rw [matching_concat, if_neg first.1]
  exact firstOfEach_concat_of_notMem first.2

theorem accepted_concat_of_not_accepted (later : ¬Accepted before delivery) :
    accepted (before ++ [delivery]) = accepted before := by
  unfold accepted
  rw [matching_concat]
  split
  · rfl
  · rename_i topics
    exact firstOfEach_concat_of_mem (not_not.1 fun fresh => later ⟨topics, fresh⟩)

theorem mem_of_mem_accepted {deliveries : List Delivery} (mem : delivery ∈ accepted deliveries) :
    delivery ∈ deliveries :=
  List.mem_of_mem_filter (mem_of_mem_firstOfEach mem)

theorem countedIn_concat (first : Accepted before delivery) (window : TrendWindow) (topic : String)
    (bucket : ℤ) :
    countedIn window topic bucket (before ++ [delivery]) =
      if delivery.CountsIn window topic bucket then countedIn window topic bucket before ++ [delivery]
      else countedIn window topic bucket before := by
  unfold countedIn
  rw [accepted_concat_of_accepted first, List.filter_append]
  by_cases counts : delivery.CountsIn window topic bucket <;> simp [counts]

theorem expectedCount_concat (first : Accepted before delivery) (window : TrendWindow)
    (topic : String) (bucket : ℤ) :
    expectedCount (before ++ [delivery]) window topic bucket =
      expectedCount before window topic bucket +
        if delivery.CountsIn window topic bucket then
          addedWeight (countedIn window topic bucket before) delivery
        else 0 := by
  unfold expectedCount
  rw [countedIn_concat first]
  split
  · exact storyWeight_concat _ _
  · rw [add_zero]

theorem expectedCount_concat_of_not_accepted (later : ¬Accepted before delivery)
    (window : TrendWindow) (topic : String) (bucket : ℤ) :
    expectedCount (before ++ [delivery]) window topic bucket =
      expectedCount before window topic bucket := by
  unfold expectedCount countedIn
  rw [accepted_concat_of_not_accepted later]

/-- Counts only grow. -/
theorem InRange.of_concat {server : RedisServer}
    (range : InRange server windows (before ++ [delivery])) : InRange server windows before := by
  by_cases first : Accepted before delivery
  · constructor
    · intro earlier mem
      apply range.weight
      rw [accepted_concat_of_accepted first]
      exact List.mem_append_left _ mem
    · intro window configured topic bucket
      have bound := range.count window configured topic bucket
      have added := addedWeight_nonneg (countedIn window topic bucket before) delivery
      rw [expectedCount_concat first] at bound
      split at bound <;> omega
  · constructor
    · intro earlier mem
      apply range.weight
      rw [accepted_concat_of_not_accepted first]
      exact mem
    · intro window configured topic bucket
      have bound := range.count window configured topic bucket
      rwa [expectedCount_concat_of_not_accepted first] at bound

theorem SameFetchedAt.of_concat (same : SameFetchedAt (before ++ [delivery])) :
    SameFetchedAt before :=
  fun first mem second mem' =>
    same first (List.mem_append_left _ mem) second (List.mem_append_left _ mem')

end Accepted

/-! ## The store after any deliveries -/

/-- What the sets and the counters say about the deliveries so far. -/
structure Tracks (windows : List TrendWindow) (deliveries : List Delivery) (redis : Redis) :
    Prop where
  dedup : ∀ window, chooseDedupWindow windows = some window → ∀ bucket eventId,
    redis.sets (.dedup window bucket) eventId = true ↔
      ∃ delivery ∈ accepted deliveries,
        delivery.eventId = eventId ∧ getBucketStart delivery.event.fetchedAt window = bucket
  storyUrls : ∀ window ∈ windows, ∀ topic bucket url,
    redis.sets (.storyUrls window topic bucket) url = true ↔
      url ≠ "" ∧ url ∈ (countedIn window topic bucket deliveries).map Delivery.storyMember
  count : ∀ window ∈ windows, ∀ topic bucket,
    redis.count (.counter window topic bucket) = expectedCount deliveries window topic bucket

section Runs

variable {windows : List TrendWindow} {maxEvidencePerTopic : ℕ} {before : List Delivery}
  {delivery : Delivery} {redis : Redis}

theorem Redis.Uncounted.tracks (uncounted : redis.Uncounted) : Tracks windows [] redis := by
  constructor
  · intro window _ bucket eventId
    simp [uncounted.dedup, accepted, matching]
  · intro window _ topic bucket url
    simp [uncounted.storyUrls, countedIn, accepted, matching]
  · intro window _ topic bucket
    simp [Redis.count, uncounted.counter, expectedCount, countedIn, accepted, matching, storyWeight,
      linked, unlinked, totalWeight]

theorem chooseDedupWindow_eq_none : chooseDedupWindow windows = none ↔ windows = [] := by
  unfold chooseDedupWindow
  rw [List.head?_eq_none_iff]
  constructor
  · intro sorted
    have length := @List.length_mergeSort _ (fun a b =>
      decide (getWindowSeconds b ≤ getWindowSeconds a)) windows
    rw [sorted] at length
    exact List.length_eq_zero_iff.1 length.symm
  · intro none
    rw [none, List.mergeSort_nil]

theorem sadd_of_mem {key : RedisKey} {member : String} (mem : redis.sets key member = true) :
    redis.sadd key member = (false, redis) := by
  unfold Redis.sadd
  have kept : Function.update (redis.sets key) member true = redis.sets key := by
    rw [← mem, Function.update_eq_self]
  rw [kept, Function.update_eq_self, mem]
  rfl

theorem sadd_fst_of_not_mem {key : RedisKey} {member : String}
    (absent : ¬redis.sets key member = true) : (redis.sadd key member).1 = true := by
  rw [Bool.not_eq_true] at absent
  simp [Redis.sadd, absent]

/-- A repeated delivery finds its event in the set of the bucket. -/
theorem deliver_of_not_accepted (tracks : Tracks windows before redis)
    (same : SameFetchedAt (before ++ [delivery])) (later : ¬Accepted before delivery) :
    deliver windows maxEvidencePerTopic redis delivery = redis := by
  unfold deliver
  rw [applyEventToWindows_eq]
  unfold applyByPlans
  split
  · rfl
  · rename_i configured
    rw [not_or] at configured
    have seen : delivery.eventId ∈ (accepted before).map Delivery.eventId := by
      rw [accepted, mem_map_firstOfEach]
      exact not_not.1 fun fresh => later ⟨configured.1, fresh⟩
    obtain ⟨earlier, mem, id⟩ := List.mem_map.1 seen
    have fetched : earlier.event.fetchedAt = delivery.event.fetchedAt :=
      same earlier (List.mem_append_left _ (mem_of_mem_accepted mem)) delivery
        (List.mem_append_right _ (List.mem_singleton_self _)) id
    cases chosen : chooseDedupWindow windows with
    | none => rfl
    | some window =>
        have present := (tracks.dedup window chosen (getBucketStart delivery.event.fetchedAt window)
          delivery.eventId).2 ⟨earlier, mem, id, by rw [fetched]⟩
        dsimp only
        rw [← Delivery.eventId, sadd_of_mem present]
        rfl

/-- A first delivery leaves its event in the set of the bucket and runs the rounds. -/
theorem deliver_of_accepted (tracks : Tracks windows before redis) (first : Accepted before delivery)
    {window : TrendWindow} (chosen : chooseDedupWindow windows = some window) :
    deliver windows maxEvidencePerTopic redis delivery =
      (applyPlans delivery.event maxEvidencePerTopic
        ((windows.product delivery.topics).map (planFor delivery.event))
        (redis.sadd (.dedup window (getBucketStart delivery.event.fetchedAt window))
          delivery.eventId).2).2 := by
  have configured : windows ≠ [] := by
    intro none
    rw [chooseDedupWindow_eq_none.2 none] at chosen
    cases chosen
  have absent : ¬redis.sets (.dedup window (getBucketStart delivery.event.fetchedAt window))
      delivery.eventId = true := by
    intro present
    obtain ⟨earlier, mem, id, -⟩ := (tracks.dedup window chosen _ _).1 present
    refine first.2 ?_
    rw [← id, ← mem_map_firstOfEach]
    exact List.mem_map_of_mem mem
  unfold deliver
  rw [applyEventToWindows_eq]
  unfold applyByPlans
  rw [if_neg (by simp [first.1, configured]), chosen]
  dsimp only
  rw [windowPlans_eq, ← Delivery.eventId, sadd_fst_of_not_mem absent]
  rfl

theorem exists_targetStoryUrls {window : TrendWindow} (configured : window ∈ windows)
    {topic : String} {bucket : ℤ} :
    (∃ target ∈ windows.product delivery.topics,
      RedisKey.storyUrls window topic bucket = targetStoryUrls delivery.event target) ↔
      delivery.CountsIn window topic bucket := by
  constructor
  · intro targeted
    rcases targeted with ⟨⟨window', topic'⟩, mem, same⟩
    injection same with sameWindow sameTopic sameBucket
    subst sameWindow sameTopic sameBucket
    exact ⟨(List.pair_mem_product.1 mem).2, rfl⟩
  · intro counts
    rcases counts with ⟨mem, rfl⟩
    exact ⟨(window, topic), List.pair_mem_product.2 ⟨configured, mem⟩, rfl⟩

/-- A round adds to its counter what the delivery adds to the expected count. -/
theorem Tracks.gain_eq (tracks : Tracks windows before redis) {window : TrendWindow} {bucket : ℤ}
    {eventId : String} {target : TrendWindow × String} (configured : target.1 ∈ windows) :
    gain delivery.event (redis.sadd (.dedup window bucket) eventId).2 target =
      addedWeight (countedIn target.1 target.2 (getBucketStart delivery.event.fetchedAt target.1)
        before) delivery := by
  have seen : (redis.sadd (.dedup window bucket) eventId).2.sets
      (targetStoryUrls delivery.event target) delivery.storyMember = true ↔
      delivery.storyMember ≠ "" ∧ delivery.storyMember ∈ (countedIn target.1 target.2
        (getBucketStart delivery.event.fetchedAt target.1) before).map Delivery.storyMember := by
    have other : targetStoryUrls delivery.event target ≠ .dedup window bucket :=
      RedisKey.noConfusion
    rw [sets_sadd, ← tracks.storyUrls target.1 configured]
    simp only [other, false_and, or_false]
    rfl
  unfold gain addedWeight
  exact if_congr (by rw [← Delivery.storyMember, seen]; tauto) rfl rfl

variable (maxEvidencePerTopic) in
theorem Tracks.applied (tracks : Tracks windows before redis) (distinct : windows.Nodup)
    (topics : delivery.topics.Nodup) (range : InRange redis.server windows (before ++ [delivery]))
    (first : Accepted before delivery) {window : TrendWindow}
    (chosen : chooseDedupWindow windows = some window) :
    Applied delivery.event (windows.product delivery.topics)
      (redis.sadd (.dedup window (getBucketStart delivery.event.fetchedAt window))
        delivery.eventId).2
      (deliver windows maxEvidencePerTopic redis delivery) := by
  rw [deliver_of_accepted tracks first chosen]
  have counted : ∀ target ∈ windows.product delivery.topics,
      redis.count (targetCounter delivery.event target) =
        expectedCount before target.1 target.2 (getBucketStart delivery.event.fetchedAt target.1) :=
    fun target mem => tracks.count target.1 (List.pair_mem_product.1 mem).1 _ _
  apply applyPlans_applied (List.Nodup.product distinct topics)
  · apply range.weight
    rw [accepted_concat_of_accepted first]
    exact List.mem_append_right _ (List.mem_singleton_self _)
  · intro target mem
    exact (counted target mem).symm ▸ storyWeight_nonneg _
  · intro target mem
    obtain ⟨configured, topic⟩ := List.pair_mem_product.1 mem
    have bound := range.count target.1 configured target.2
      (getBucketStart delivery.event.fetchedAt target.1)
    rw [expectedCount_concat first, if_pos ⟨topic, rfl⟩, ← tracks.gain_eq configured,
      ← counted target mem] at bound
    exact bound

/-- The step of the induction, for a first delivery. -/
theorem Tracks.deliver_accepted (tracks : Tracks windows before redis) (distinct : windows.Nodup)
    (topics : delivery.topics.Nodup) (range : InRange redis.server windows (before ++ [delivery]))
    (first : Accepted before delivery) :
    Tracks windows (before ++ [delivery]) (deliver windows maxEvidencePerTopic redis delivery) := by
  cases chosen : chooseDedupWindow windows with
  | none =>
      obtain rfl := chooseDedupWindow_eq_none.1 chosen
      constructor
      · intro window chosen'
        rw [chosen] at chosen'
        cases chosen'
      · intro window configured
        cases configured
      · intro window configured
        cases configured
  | some dedupWindow =>
      have applied := tracks.applied maxEvidencePerTopic distinct topics
        range first chosen
      constructor
      · intro window chosen' bucket eventId
        obtain rfl : dedupWindow = window := Option.some.inj (chosen.symm.trans chosen')
        have apart : ∀ target, RedisKey.dedup dedupWindow bucket ≠
            targetStoryUrls delivery.event target := fun _ => RedisKey.noConfusion
        rw [applied.sets, sets_sadd, tracks.dedup dedupWindow chosen,
          accepted_concat_of_accepted first]
        simp only [apart, and_false, exists_false, or_false, RedisKey.dedup.injEq, true_and,
          List.mem_append, List.mem_singleton, or_and_right, exists_or, exists_eq_left]
        exact or_congr_right (by tauto)
      · intro window configured topic bucket url
        have apart : RedisKey.storyUrls window topic bucket ≠
            .dedup dedupWindow (getBucketStart delivery.event.fetchedAt dedupWindow) :=
          RedisKey.noConfusion
        rw [applied.sets, sets_sadd, tracks.storyUrls window configured,
          exists_targetStoryUrls configured, countedIn_concat first, ← Delivery.storyMember]
        split
        · rename_i counts
          simp only [apart, false_and, or_false, counts, and_true, List.map_append,
            List.map_singleton, List.mem_append, List.mem_singleton]
          tauto
        · rename_i elsewhere
          simp only [apart, false_and, or_false, elsewhere, and_false]
      · intro window configured topic bucket
        rw [expectedCount_concat first, ← tracks.count window configured]
        split
        · rename_i counts
          obtain ⟨mem, rfl⟩ := counts
          have added := applied.count (window, topic) (List.pair_mem_product.2 ⟨configured, mem⟩)
          rw [tracks.gain_eq configured] at added
          exact added
        · rename_i elsewhere
          rw [add_zero]
          refine congrArg (·.getD 0) (applied.others _ fun target mem same => elsewhere ?_)
          injection same with sameWindow sameTopic sameBucket
          subst sameWindow sameTopic sameBucket
          exact ⟨(List.pair_mem_product.1 mem).2, rfl⟩

theorem Tracks.deliver (tracks : Tracks windows before redis) (distinct : windows.Nodup)
    (topics : delivery.topics.Nodup) (same : SameFetchedAt (before ++ [delivery]))
    (range : InRange redis.server windows (before ++ [delivery])) :
    Tracks windows (before ++ [delivery])
      (Trends.deliver windows maxEvidencePerTopic redis delivery) := by
  by_cases first : Accepted before delivery
  · exact tracks.deliver_accepted distinct topics range first
  · rw [deliver_of_not_accepted tracks same first]
    constructor
    · intro window chosen bucket eventId
      rw [accepted_concat_of_not_accepted first]
      exact tracks.dedup window chosen bucket eventId
    · intro window configured topic bucket url
      rw [countedIn, accepted_concat_of_not_accepted first]
      exact tracks.storyUrls window configured topic bucket url
    · intro window configured topic bucket
      rw [expectedCount_concat_of_not_accepted first]
      exact tracks.count window configured topic bucket

variable (maxEvidencePerTopic) in
theorem server_deliverAll (deliveries : List Delivery) (redis : Redis) :
    (deliverAll windows maxEvidencePerTopic deliveries redis).server = redis.server := by
  induction deliveries using List.reverseRecOn with
  | nil => rfl
  | append_singleton before delivery ih =>
      rw [deliverAll, List.foldl_append]
      exact (server_applyEventToWindows _ _ _).trans ih

variable (maxEvidencePerTopic) in
theorem tracks_deliverAll {deliveries : List Delivery} (distinct : windows.Nodup)
    (topics : ∀ delivery ∈ deliveries, delivery.topics.Nodup) (same : SameFetchedAt deliveries)
    (range : InRange redis.server windows deliveries) (uncounted : redis.Uncounted) :
    Tracks windows deliveries (deliverAll windows maxEvidencePerTopic deliveries redis) := by
  induction deliveries using List.reverseRecOn with
  | nil => exact uncounted.tracks
  | append_singleton before delivery ih =>
      have so_far := ih (fun earlier mem => topics earlier (List.mem_append_left _ mem))
        same.of_concat range.of_concat
      have range' := range
      rw [← server_deliverAll maxEvidencePerTopic before redis] at range'
      rw [deliverAll, List.foldl_append]
      exact so_far.deliver distinct
        (topics delivery (List.mem_append_right _ (List.mem_singleton_self _))) same range'

theorem InRange.of_append {server : RedisServer} {deliveries rest : List Delivery}
    (range : InRange server windows (deliveries ++ rest)) : InRange server windows deliveries := by
  induction rest using List.reverseRecOn with
  | nil => exact List.append_nil deliveries ▸ range
  | append_singleton rest last ih =>
      rw [← List.append_assoc] at range
      exact ih range.of_concat

end Runs

/-- Each counter is the sum of the weights of the links and of the events without a link that were
accepted for it, and a delivery that is not accepted changes nothing. -/
theorem counters_exact {windows : List TrendWindow} {maxEvidencePerTopic : ℕ}
    {deliveries : List Delivery} {redis : Redis} (distinct : windows.Nodup)
    (topics : ∀ delivery ∈ deliveries, delivery.topics.Nodup) (same : SameFetchedAt deliveries)
    (range : InRange redis.server windows deliveries) (uncounted : redis.Uncounted) :
    (∀ window ∈ windows, ∀ topic bucket,
      (deliverAll windows maxEvidencePerTopic deliveries redis).count
        (.counter window topic bucket) = expectedCount deliveries window topic bucket) ∧
    ∀ before delivery rest, deliveries = before ++ delivery :: rest → ¬Accepted before delivery →
      deliverAll windows maxEvidencePerTopic (before ++ [delivery]) redis =
        deliverAll windows maxEvidencePerTopic before redis := by
  constructor
  · exact (tracks_deliverAll maxEvidencePerTopic distinct topics same range uncounted).count
  · intro before delivery rest split later
    subst split
    have tracks := tracks_deliverAll maxEvidencePerTopic distinct
      (fun earlier mem => topics earlier (List.mem_append_left _ mem))
      (fun first mem second mem' => same first (List.mem_append_left _ mem) second
        (List.mem_append_left _ mem')) range.of_append uncounted
    rw [deliverAll, List.foldl_append]
    refine deliver_of_not_accepted tracks (fun first mem second mem' => ?_) later
    have shift : ∀ {item}, item ∈ before ++ [delivery] → item ∈ before ++ delivery :: rest := by
      intro item mem
      rw [List.append_cons]
      exact List.mem_append_left _ mem
    exact same first (shift mem) second (shift mem')

/-! ## Two windows, one link in two events -/

theorem emptyRedis_uncounted (server : RedisServer) : (emptyRedis server).Uncounted where
  counter _ _ _ := rfl
  storyUrls _ _ _ _ := rfl
  dedup _ _ _ := rfl

def linkEvent (eventId : String) (fetchedAt : ℤ) : ParsedRawEvent where
  eventId := eventId
  fetchedAt := fetchedAt
  url := some "https://a.example/x"
  engagementScore := .finite 3
  feedPriority := 50
  one_le_feedPriority := by norm_num

/-- Two events with one link, in one bucket of an hour and two of a quarter; the first is delivered
again. -/
def repeatedLink : List Delivery :=
  [⟨linkEvent "a" 0, ["ai"]⟩, ⟨linkEvent "b" 900000, ["ai"]⟩, ⟨linkEvent "a" 0, ["ai"]⟩]

theorem repeatedLink_sameFetchedAt : SameFetchedAt repeatedLink := by
  simp [SameFetchedAt, repeatedLink, Delivery.eventId, linkEvent]

theorem counters_exact_repeatedLink :
    (∀ window ∈ [TrendWindow.minutes15, .minutes60], ∀ topic bucket,
      (deliverAll [.minutes15, .minutes60] 10 repeatedLink newRedis).count
        (.counter window topic bucket) = expectedCount repeatedLink window topic bucket) ∧
    ∀ before delivery rest, repeatedLink = before ++ delivery :: rest →
      ¬Accepted before delivery →
      deliverAll [.minutes15, .minutes60] 10 (before ++ [delivery]) newRedis =
        deliverAll [.minutes15, .minutes60] 10 before newRedis :=
  counters_exact (by decide) (by decide) repeatedLink_sameFetchedAt
    (inRange_of_totalWeight _ (by decide +kernel)) (emptyRedis_uncounted _)

/-- A link counts once in the hour and once in each quarter it was seen in. -/
example : expectedCount repeatedLink .minutes60 "ai" 0 = 1 ∧
    expectedCount repeatedLink .minutes15 "ai" 0 = 1 ∧
    expectedCount repeatedLink .minutes15 "ai" 900000 = 1 := by
  decide +kernel

/-- An event of a feed with a huge priority. -/
def heavyEvent : ParsedRawEvent where
  eventId := "a"
  fetchedAt := 0
  url := none
  engagementScore := .finite 0
  feedPriority := 5 * 10 ^ 20
  one_le_feedPriority := by norm_num

theorem volumeWeight_heavyEvent : heavyEvent.volumeWeight = 10 ^ 19 := by decide +kernel

/-- `INCRBY` refuses the weight, so nothing is counted. -/
theorem heavyEvent_uncounted :
    [TrendWindow.minutes15].Nodup ∧ ["ai"].Nodup ∧ SameFetchedAt [⟨heavyEvent, ["ai"]⟩] ∧
      (∀ server, (emptyRedis server).Uncounted ∧
        (deliverAll [.minutes15] 10 [⟨heavyEvent, ["ai"]⟩] (emptyRedis server)).count
          (.counter .minutes15 "ai" 0) = 0) ∧
      expectedCount [⟨heavyEvent, ["ai"]⟩] .minutes15 "ai" 0 = 10 ^ 19 := by
  refine ⟨by decide, by decide, by simp [SameFetchedAt], fun server => ⟨emptyRedis_uncounted server, ?_⟩,
    by decide +kernel⟩
  have refused : ∀ redis : Redis, ∀ key, redis.incrBy key heavyEvent.volumeWeight = none := by
    intro redis key
    unfold Redis.incrBy
    rw [volumeWeight_heavyEvent, redis.server.incrArgument_large _ (by decide), Option.bind_none]
  have first : ∀ plan plans redis, plan.story = none →
      applyPlans heavyEvent 10 (plan :: plans) redis = (false, redis) := by
    intro plan plans redis unlinked
    unfold applyPlans
    rw [unlinked]
    simp only [countStory, if_true, refused]
  unfold deliverAll deliver
  rw [List.foldl_cons, List.foldl_nil, applyEventToWindows_eq]
  have plans : windowPlans heavyEvent ["ai"] [.minutes15] =
      [planFor heavyEvent (.minutes15, "ai")] := windowPlans_eq _ _
  have chosen : chooseDedupWindow [.minutes15] = some .minutes15 := by simp [chooseDedupWindow]
  unfold applyByPlans
  rw [if_neg (by simp), chosen, plans]
  dsimp only
  split
  · rw [first _ _ _ rfl]
    rfl
  · rfl

end RisingIntelligence.Trends
