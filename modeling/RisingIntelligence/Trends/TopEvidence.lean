import RisingIntelligence.Shared.Machine
import RisingIntelligence.Shared.TopN
import RisingIntelligence.Trends.Counters
import RisingIntelligence.Trends.Snapshots

/-!
# The evidence of a topic

The sorted set that the script keeps for a window and a topic, over any sequence of events.

The set is cut after every member that is added, by a rank range that counts from the end.
`evidence_topK`: it holds the greatest of all events that were added, in whatever order they came,
because what was cut off once stays behind the members that cut it off.
-/

namespace RisingIntelligence.Trends

/-! ## The order of the members -/

section Rank

variable {left right other : Js.Number × String}

theorem scoreLe_total (left right : Js.Number) :
    scoreLe left right = true ∨ scoreLe right left = true := by
  cases left with
  | infinite negative =>
      cases negative with
      | false => exact .inr (by cases right with
          | finite value => rfl
          | infinite negative => cases negative <;> rfl)
      | true => exact .inl rfl
  | finite value =>
      cases right with
      | infinite negative => cases negative <;> simp [scoreLe]
      | finite other =>
          simp only [scoreLe, decide_eq_true_eq]
          exact le_total value other

theorem scoreLe_trans {left right other : Js.Number} (first : scoreLe left right = true)
    (second : scoreLe right other = true) : scoreLe left other = true := by
  rcases left with a | (_ | _) <;> rcases right with b | (_ | _) <;> rcases other with c | (_ | _) <;>
    simp_all [scoreLe]
  exact first.trans second

theorem scoreLe_antisymm {left right : Js.Number} (first : scoreLe left right = true)
    (second : scoreLe right left = true) : left = right := by
  rcases left with a | (_ | _) <;> rcases right with b | (_ | _) <;> simp_all [scoreLe]
  exact le_antisymm first second

theorem rankLe_iff : rankLe left right = true ↔ scoreLe left.1 right.1 = true ∧
    (scoreLe right.1 left.1 = true → left.2 ≤ right.2) := by
  unfold rankLe
  split
  · rename_i same
    rw [Bool.and_eq_true] at same
    rw [decide_eq_true_eq]
    exact ⟨fun le => ⟨same.1, fun _ => le⟩, fun le => le.2 same.2⟩
  · rename_i different
    rw [Bool.and_eq_true, not_and] at different
    exact ⟨fun le => ⟨le, fun back => absurd back (different le)⟩, fun le => le.1⟩

/-- The greater members first. -/
def rankGe (left right : Js.Number × String) : Bool := rankLe right left

theorem rankGe_totalOrder : TotalOrder rankGe where
  trans a b c first second := by
    unfold rankGe at first second ⊢
    rw [rankLe_iff] at first second ⊢
    refine ⟨scoreLe_trans second.1 first.1, ?_⟩
    intro back
    exact String.le_trans (second.2 (scoreLe_trans first.1 back)) (first.2 (scoreLe_trans back second.1))
  total a b := by
    unfold rankGe
    rw [Bool.or_eq_true, rankLe_iff, rankLe_iff]
    by_cases first : scoreLe a.1 b.1 = true
    · by_cases second : scoreLe b.1 a.1 = true
      · exact (String.le_total b.2 a.2).imp (fun le => ⟨second, fun _ => le⟩) fun le => ⟨first, fun _ => le⟩
      · exact .inr ⟨first, fun back => absurd back second⟩
    · have second := (scoreLe_total a.1 b.1).resolve_left first
      exact .inl ⟨second, fun back => absurd back first⟩
  antisymm a b first second := by
    unfold rankGe at first second
    rw [rankLe_iff] at first second
    exact Prod.ext (scoreLe_antisymm second.1 first.1)
      (String.le_antisymm (second.2 first.1) (first.2 second.1))

end Rank

/-! ## What is added -/

/-- The arguments of one call. -/
structure WindowUpdate where
  event : ParsedRawEvent
  topics : List String
  windows : List TrendWindow

/-- The score and the member that the script adds. -/
def ParsedRawEvent.entry (event : ParsedRawEvent) : Js.Number × String :=
  (event.evidenceScore, event.eventId)

/-- One round of the loop, which a refused `INCRBY` ends. -/
def applyPlan (event : ParsedRawEvent) (maxEvidencePerTopic : ℕ) (redis : Redis)
    (plan : WindowPlan) : Option Redis :=
  let (shouldIncrement, redis) := countStory redis plan.story
  let counted := if shouldIncrement then redis.incrBy plan.counterKey event.volumeWeight
    else some redis
  counted.map fun redis =>
    (redis.zadd plan.evidenceKey event.evidenceScore event.eventId).zkeepLast plan.evidenceKey
      maxEvidencePerTopic

/-- The sorted sets that the loop adds the event to. -/
def evidenceKeys (event : ParsedRawEvent) (maxEvidencePerTopic : ℕ) :
    List WindowPlan → Redis → List RedisKey
  | [], _ => []
  | plan :: plans, redis =>
      match applyPlan event maxEvidencePerTopic redis plan with
      | none => []
      | some redis => plan.evidenceKey :: evidenceKeys event maxEvidencePerTopic plans redis

section Update

variable (maxEvidencePerTopic : ℕ)

def WindowUpdate.apply (redis : Redis) (update : WindowUpdate) :
    Option WindowUpdateResult × Redis :=
  applyEventToWindows redis update.event update.topics update.windows maxEvidencePerTopic

/-- The sorted sets that a call adds its event to; a call for an event that was seen adds nothing. -/
def WindowUpdate.evidenceKeys (redis : Redis) (update : WindowUpdate) : List RedisKey :=
  if update.topics = [] ∨ update.windows = [] then []
  else
    match chooseDedupWindow update.windows with
    | none => []
    | some dedupWindow =>
        let (dedupAdded, redis) := redis.sadd
          (.dedup dedupWindow (getBucketStart update.event.fetchedAt dedupWindow))
          update.event.eventId
        if dedupAdded then
          Trends.evidenceKeys update.event maxEvidencePerTopic
            (windowPlans update.event update.topics update.windows) redis
        else []

/-- The store after a sequence of calls. -/
def applyAll (redis : Redis) (updates : List WindowUpdate) : Redis :=
  stateAfter (WindowUpdate.apply maxEvidencePerTopic) redis updates

/-- No call of the sequence throws. -/
def AllReturn (redis : Redis) (updates : List WindowUpdate) : Prop :=
  ∀ result ∈ answers (WindowUpdate.apply maxEvidencePerTopic) redis updates, result.isSome = true

/-- What the calls add to one sorted set, one entry for each event. -/
def addedEntries (key : RedisKey) : Redis → List WindowUpdate → List (Js.Number × String)
  | _, [] => []
  | redis, update :: updates =>
      let rest := addedEntries key (update.apply maxEvidencePerTopic redis).2 updates
      if key ∈ update.evidenceKeys maxEvidencePerTopic redis then update.event.entry :: rest else rest

end Update

/-! ## One sorted set -/

section Evidence

variable {redis redis' : Redis} {key other : RedisKey} {entries : List (Js.Number × String)}
  {event : ParsedRawEvent} {maxEvidencePerTopic : ℕ}

/-- The sorted set has the greatest of the entries. -/
def HoldsTop (redis : Redis) (key : RedisKey) (maxEvidencePerTopic : ℕ)
    (entries : List (Js.Number × String)) : Prop :=
  redis.sortedSets key = (top rankGe maxEvidencePerTopic entries).reverse

/-- The last members of a rising list are its greatest. -/
theorem drop_eq_top {members : List (Js.Number × String)}
    (rising : members.Pairwise fun left right => rankLe left right = true) (count : ℕ) :
    members.drop (members.length - count) = (top rankGe count members).reverse := by
  have falling : members.reverse.Pairwise fun left right => rankGe left right = true :=
    List.pairwise_reverse.2 rising
  have sorted := rankGe_totalOrder.mergeSort_eq falling members.reverse_perm.symm
  unfold top
  rw [sorted, List.take_reverse, List.reverse_reverse]

theorem rising_top (entries : List (Js.Number × String)) (count : ℕ) :
    (top rankGe count entries).reverse.Pairwise fun left right => rankLe left right = true := by
  rw [List.pairwise_reverse]
  exact (rankGe_totalOrder.sorted entries).sublist (List.take_sublist count _)

theorem insert_rising {members : List (Js.Number × String)} (entry : Js.Number × String)
    (rising : members.Pairwise fun left right => rankLe left right = true) :
    (members.orderedInsert (fun left right => rankLe left right = true) entry).Pairwise
      fun left right => rankLe left right = true := by
  have total : Std.Total fun left right => rankLe left right = true := by
    constructor
    intro left right
    rw [← Bool.or_eq_true]
    exact rankGe_totalOrder.total right left
  have trans : IsTrans (Js.Number × String) fun left right => rankLe left right = true := by
    constructor
    intro left right other first second
    exact rankGe_totalOrder.trans other right left second first
  exact List.Pairwise.orderedInsert entry members rising

/-- The round leaves the greatest of the member and the others. -/
theorem sortedSets_zadd_zkeepLast (score : Js.Number) (member : String)
    (rising : (redis.sortedSets key).Pairwise fun left right => rankLe left right = true) :
    ((redis.zadd key score member).zkeepLast key maxEvidencePerTopic).sortedSets key =
      (top rankGe maxEvidencePerTopic
        ((score, member) :: (redis.sortedSets key).filter (·.2 ≠ member))).reverse := by
  have others := rising.sublist (List.filter_sublist (p := (·.2 ≠ member)))
  unfold Redis.zkeepLast Redis.zadd
  dsimp only
  rw [Function.update_self, Function.update_self]
  generalize (redis.sortedSets key).filter (·.2 ≠ member) = list at others ⊢
  have inserted := List.perm_orderedInsert (fun left right => rankLe left right = true)
    (score, member) list
  have rising' := insert_rising (score, member) others
  rw [drop_eq_top rising', rankGe_totalOrder.top_perm inserted]

theorem sortedSets_zadd_zkeepLast_of_ne (different : other ≠ key) (score : Js.Number)
    (member : String) :
    ((redis.zadd key score member).zkeepLast key maxEvidencePerTopic).sortedSets other =
      redis.sortedSets other := by
  unfold Redis.zkeepLast Redis.zadd
  dsimp only
  rw [Function.update_of_ne different, Function.update_of_ne different]

/-- A new member comes to the greatest. -/
theorem HoldsTop.zadd_new (holds : HoldsTop redis key maxEvidencePerTopic entries)
    (distinct : (entries.map (·.2)).Nodup) (fresh : event.eventId ∉ entries.map (·.2)) :
    HoldsTop ((redis.zadd key event.evidenceScore event.eventId).zkeepLast key maxEvidencePerTopic)
      key maxEvidencePerTopic (entries ++ [event.entry]) := by
  have others : (redis.sortedSets key).filter (·.2 ≠ event.eventId) = redis.sortedSets key := by
    rw [List.filter_eq_self, holds]
    intro entry mem
    have there := mem_of_mem_top (List.mem_reverse.1 mem)
    exact decide_eq_true fun same => fresh (same ▸ List.mem_map_of_mem there)
  have nodup : (entries ++ [event.entry]).Nodup := by
    rw [List.nodup_append]
    refine ⟨distinct.of_map, List.nodup_singleton _, ?_⟩
    intro entry mem other here same
    rw [List.mem_singleton.1 here] at same
    exact fresh (List.mem_map.2 ⟨entry, mem, congrArg Prod.snd same⟩)
  have rising : (redis.sortedSets key).Pairwise fun left right => rankLe left right = true :=
    holds ▸ rising_top entries maxEvidencePerTopic
  have moved : (event.entry :: (top rankGe maxEvidencePerTopic entries).reverse).Perm
      (top rankGe maxEvidencePerTopic entries ++ [event.entry]) :=
    ((List.reverse_perm _).cons _).trans (List.perm_append_singleton _ _).symm
  unfold HoldsTop
  rw [sortedSets_zadd_zkeepLast _ _ rising, others, holds]
  change (top rankGe maxEvidencePerTopic (event.entry :: _)).reverse = _
  rw [rankGe_totalOrder.top_perm moved, rankGe_totalOrder.top_insert nodup]

/-- A member that was added before changes nothing. -/
theorem HoldsTop.zadd_again (holds : HoldsTop redis key maxEvidencePerTopic entries)
    (distinct : (entries.map (·.2)).Nodup) (known : event.entry ∈ entries) :
    HoldsTop ((redis.zadd key event.evidenceScore event.eventId).zkeepLast key maxEvidencePerTopic)
      key maxEvidencePerTopic entries := by
  have others : (redis.sortedSets key).filter (·.2 ≠ event.eventId) =
      ((top rankGe maxEvidencePerTopic entries).filter (· ≠ event.entry)).reverse := by
    rw [holds, List.filter_reverse]
    refine congrArg List.reverse (List.filter_congr ?_)
    intro entry mem
    have there := mem_of_mem_top mem
    have same : entry.2 = event.eventId ↔ entry = event.entry := by
      constructor
      · intro same
        exact List.inj_on_of_nodup_map distinct there known same
      · intro same
        rw [same]
        rfl
    exact decide_eq_decide.2 (not_congr same)
  have rising : (redis.sortedSets key).Pairwise fun left right => rankLe left right = true :=
    holds ▸ rising_top entries maxEvidencePerTopic
  have moved : (event.entry ::
      ((top rankGe maxEvidencePerTopic entries).filter (· ≠ event.entry)).reverse).Perm
      ((top rankGe maxEvidencePerTopic entries).filter (· ≠ event.entry) ++ [event.entry]) :=
    ((List.reverse_perm _).cons _).trans (List.perm_append_singleton _ _).symm
  unfold HoldsTop
  rw [sortedSets_zadd_zkeepLast _ _ rising, others]
  change (top rankGe maxEvidencePerTopic (event.entry :: _)).reverse = _
  rw [rankGe_totalOrder.top_perm moved,
    rankGe_totalOrder.top_insert_again distinct.of_map known]

end Evidence

/-! ## One call -/

section Call

variable {redis redis' : Redis} {key : RedisKey} {entries : List (Js.Number × String)}
  {event : ParsedRawEvent} {plan : WindowPlan} {maxEvidencePerTopic : ℕ}

theorem sortedSets_countStory (redis : Redis) (story : Option (RedisKey × String)) :
    (countStory redis story).2.sortedSets = redis.sortedSets := by
  cases story <;> rfl

theorem sortedSets_incrBy {counter : RedisKey} {amount : ℤ}
    (added : redis.incrBy counter amount = some redis') : redis'.sortedSets = redis.sortedSets := by
  obtain ⟨_, -, added⟩ := Option.bind_eq_some_iff.1 added
  dsimp only at added
  split at added
  · obtain rfl := Option.some.inj added
    rfl
  · cases added

/-- A round adds the event to one sorted set of the store it finds. -/
theorem applyPlan_eq_some (applied : applyPlan event maxEvidencePerTopic redis plan = some redis') :
    ∃ counted : Redis, counted.sortedSets = redis.sortedSets ∧
      redis' = (counted.zadd plan.evidenceKey event.evidenceScore event.eventId).zkeepLast
        plan.evidenceKey maxEvidencePerTopic := by
  have story := sortedSets_countStory redis plan.story
  unfold applyPlan at applied
  generalize countStory redis plan.story = result at story applied
  obtain ⟨shouldIncrement, stored⟩ := result
  obtain ⟨counted, added, rfl⟩ := Option.map_eq_some_iff.1 applied
  refine ⟨counted, ?_, rfl⟩
  cases shouldIncrement with
  | false =>
      obtain rfl := Option.some.inj added
      exact story
  | true => exact (sortedSets_incrBy added).trans story

/-- A round is refused and ends the loop, or the loop goes on from what it leaves. -/
theorem applyPlans_cases (plans : List WindowPlan) :
    (∃ refused : Redis, refused.sortedSets = redis.sortedSets ∧
        applyPlan event maxEvidencePerTopic redis plan = none ∧
        applyPlans event maxEvidencePerTopic (plan :: plans) redis = (false, refused)) ∨
      ∃ redis', applyPlan event maxEvidencePerTopic redis plan = some redis' ∧
        applyPlans event maxEvidencePerTopic (plan :: plans) redis =
          applyPlans event maxEvidencePerTopic plans redis' := by
  have story := sortedSets_countStory redis plan.story
  rw [applyPlans]
  unfold applyPlan
  generalize countStory redis plan.story = result at story ⊢
  obtain ⟨shouldIncrement, stored⟩ := result
  dsimp only at story ⊢
  cases (if shouldIncrement = true then stored.incrBy plan.counterKey event.volumeWeight
    else some stored) with
  | none => exact .inl ⟨stored, story, rfl, rfl⟩
  | some counted => exact .inr ⟨_, rfl, rfl⟩

theorem HoldsTop.of_eq (holds : HoldsTop redis key maxEvidencePerTopic entries)
    (same : redis'.sortedSets = redis.sortedSets) :
    HoldsTop redis' key maxEvidencePerTopic entries := by
  unfold HoldsTop
  rw [same]
  exact holds

theorem HoldsTop.applyPlan_of_ne (holds : HoldsTop redis key maxEvidencePerTopic entries)
    (applied : applyPlan event maxEvidencePerTopic redis plan = some redis')
    (different : key ≠ plan.evidenceKey) : HoldsTop redis' key maxEvidencePerTopic entries := by
  obtain ⟨counted, same, rfl⟩ := applyPlan_eq_some applied
  unfold HoldsTop
  rw [sortedSets_zadd_zkeepLast_of_ne different, same]
  exact holds

/-- Once the event was added, the rounds that are left change nothing. -/
theorem HoldsTop.applyPlans_again (holds : HoldsTop redis key maxEvidencePerTopic entries)
    (distinct : (entries.map (·.2)).Nodup) (known : event.entry ∈ entries)
    (plans : List WindowPlan) :
    HoldsTop (applyPlans event maxEvidencePerTopic plans redis).2 key maxEvidencePerTopic
      entries := by
  induction plans generalizing redis with
  | nil => exact holds
  | cons plan plans ih =>
      rcases applyPlans_cases plans with ⟨refused, same, -, rest⟩ | ⟨redis', applied, rest⟩
      · rw [rest]
        exact holds.of_eq same
      · rw [rest]
        by_cases here : key = plan.evidenceKey
        · obtain ⟨counted, same, rfl⟩ := applyPlan_eq_some applied
          subst here
          exact ih ((holds.of_eq same).zadd_again distinct known)
        · exact ih (holds.applyPlan_of_ne applied here)

/-- The rounds add the event to the set if one of them gets to it. -/
theorem HoldsTop.applyPlans (holds : HoldsTop redis key maxEvidencePerTopic entries)
    (distinct : (entries.map (·.2)).Nodup) (fresh : event.eventId ∉ entries.map (·.2))
    (plans : List WindowPlan) :
    HoldsTop (applyPlans event maxEvidencePerTopic plans redis).2 key maxEvidencePerTopic
      (if key ∈ evidenceKeys event maxEvidencePerTopic plans redis then entries ++ [event.entry]
        else entries) := by
  induction plans generalizing redis with
  | nil => exact holds
  | cons plan plans ih =>
      unfold evidenceKeys
      rcases applyPlans_cases plans with ⟨refused, same, none, rest⟩ | ⟨redis', applied, rest⟩
      · rw [rest, none, if_neg (List.not_mem_nil)]
        exact holds.of_eq same
      · rw [rest, applied]
        dsimp only
        by_cases here : key = plan.evidenceKey
        · obtain ⟨counted, same, rfl⟩ := applyPlan_eq_some applied
          subst here
          rw [if_pos List.mem_cons_self]
          have added := (holds.of_eq same).zadd_new distinct fresh
          have distinct' : ((entries ++ [event.entry]).map (·.2)).Nodup := by
            rw [List.map_append, List.map_singleton, ← List.concat_eq_append]
            exact distinct.concat fresh
          exact added.applyPlans_again distinct'
            (List.mem_append_right _ (List.mem_singleton_self _)) plans
        · have later := ih (holds.applyPlan_of_ne applied here)
          simp only [List.mem_cons, here, false_or]
          exact later

/-- A call runs the rounds, or adds nothing. -/
theorem WindowUpdate.apply_cases (update : WindowUpdate) :
    (update.apply maxEvidencePerTopic redis).2.sortedSets = redis.sortedSets ∧
        update.evidenceKeys maxEvidencePerTopic redis = [] ∨
      ∃ marked : Redis, marked.sortedSets = redis.sortedSets ∧
        (update.apply maxEvidencePerTopic redis).2 = (Trends.applyPlans update.event
          maxEvidencePerTopic (windowPlans update.event update.topics update.windows) marked).2 ∧
        update.evidenceKeys maxEvidencePerTopic redis = Trends.evidenceKeys update.event
          maxEvidencePerTopic (windowPlans update.event update.topics update.windows) marked := by
  unfold WindowUpdate.apply WindowUpdate.evidenceKeys
  rw [applyEventToWindows_eq]
  unfold applyByPlans
  by_cases none : update.topics = [] ∨ update.windows = []
  · rw [if_pos none, if_pos none]
    exact .inl ⟨rfl, rfl⟩
  · rw [if_neg none, if_neg none]
    cases chooseDedupWindow update.windows with
    | none => exact .inl ⟨rfl, rfl⟩
    | some dedupWindow =>
        dsimp only
        by_cases added : (redis.sadd (.dedup dedupWindow
            (getBucketStart update.event.fetchedAt dedupWindow)) update.event.eventId).1 = true
        · rw [if_pos added, if_pos added]
          exact .inr ⟨(redis.sadd (.dedup dedupWindow
            (getBucketStart update.event.fetchedAt dedupWindow)) update.event.eventId).2,
            rfl, rfl, rfl⟩
        · rw [if_neg added, if_neg added]
          exact .inl ⟨rfl, rfl⟩

/-- A call adds its event to the set, or leaves the set alone. -/
theorem HoldsTop.apply {update : WindowUpdate}
    (holds : HoldsTop redis key maxEvidencePerTopic entries)
    (distinct : (entries.map (·.2)).Nodup) (fresh : update.event.eventId ∉ entries.map (·.2)) :
    HoldsTop (update.apply maxEvidencePerTopic redis).2 key maxEvidencePerTopic
      (if key ∈ update.evidenceKeys maxEvidencePerTopic redis then entries ++ [update.event.entry]
        else entries) := by
  rcases @WindowUpdate.apply_cases redis maxEvidencePerTopic update with
    ⟨same, keys⟩ | ⟨marked, same, result, keys⟩
  · rw [keys, if_neg (List.not_mem_nil)]
    exact holds.of_eq same
  · rw [keys, result]
    exact (holds.of_eq same).applyPlans distinct fresh _

end Call

/-! ## Every sequence of calls -/

section Run

variable {redis : Redis} {key : RedisKey} {entries : List (Js.Number × String)}
  {updates : List WindowUpdate} {maxEvidencePerTopic : ℕ}

theorem HoldsTop.applyAll (holds : HoldsTop redis key maxEvidencePerTopic entries)
    (distinct : (entries.map (·.2) ++ updates.map (·.event.eventId)).Nodup) :
    HoldsTop (applyAll maxEvidencePerTopic redis updates) key maxEvidencePerTopic
      (entries ++ addedEntries maxEvidencePerTopic key redis updates) := by
  induction updates generalizing redis entries with
  | nil =>
      unfold addedEntries
      rw [List.append_nil]
      exact holds
  | cons update updates ih =>
      have parts := List.nodup_append.1 distinct
      have fresh : update.event.eventId ∉ entries.map (·.2) := by
        intro known
        exact parts.2.2 _ known _ List.mem_cons_self rfl
      have next := holds.apply parts.1 fresh
      unfold addedEntries
      dsimp only
      by_cases added : key ∈ update.evidenceKeys maxEvidencePerTopic redis
      · rw [if_pos added] at next ⊢
        have distinct' : ((entries ++ [update.event.entry]).map (·.2) ++
            updates.map (·.event.eventId)).Nodup := by
          rw [List.map_append, List.append_assoc]
          exact distinct
        rw [List.append_cons]
        exact ih next distinct'
      · rw [if_neg added] at next ⊢
        have distinct' : (entries.map (·.2) ++ updates.map (·.event.eventId)).Nodup :=
          distinct.sublist ((List.sublist_cons_self _ _).append_left _)
        exact ih next distinct'

/-- A loop that ends without an error adds the event for each plan. -/
theorem evidenceKeys_of_finished {event : ParsedRawEvent} {plans : List WindowPlan}
    (finished : (applyPlans event maxEvidencePerTopic plans redis).1 = true) :
    evidenceKeys event maxEvidencePerTopic plans redis = plans.map WindowPlan.evidenceKey := by
  induction plans generalizing redis with
  | nil => rfl
  | cons plan plans ih =>
      rcases applyPlans_cases plans with ⟨refused, -, -, rest⟩ | ⟨redis', applied, rest⟩
      · rw [rest] at finished
        cases finished
      · rw [rest] at finished
        unfold evidenceKeys
        rw [applied, List.map_cons, ← ih finished]

theorem mem_evidenceKey_windowPlans {event : ParsedRawEvent} {topics : List String}
    {windows : List TrendWindow} {window : TrendWindow} {topic : String} :
    RedisKey.evidence window topic ∈ (windowPlans event topics windows).map WindowPlan.evidenceKey ↔
      window ∈ windows ∧ topic ∈ topics := by
  unfold windowPlans
  rw [List.map_flatMap]
  simp only [List.mem_flatMap, List.mem_map]
  constructor
  · intro found
    obtain ⟨window', configured, plan, ⟨topic', tracked, rfl⟩, same⟩ := found
    injection same with sameWindow sameTopic
    exact ⟨sameWindow ▸ configured, sameTopic ▸ tracked⟩
  · intro found
    exact ⟨window, found.1, _, ⟨topic, found.2, rfl⟩, rfl⟩

theorem sets_incrBy {redis' : Redis} {counter : RedisKey} {amount : ℤ}
    (added : redis.incrBy counter amount = some redis') : redis'.sets = redis.sets := by
  obtain ⟨_, -, added⟩ := Option.bind_eq_some_iff.1 added
  dsimp only at added
  split at added
  · obtain rfl := Option.some.inj added
    rfl
  · cases added

theorem sets_countStory {story : Option (RedisKey × String)}
    (different : ∀ entry, story = some entry → key ≠ entry.1) :
    (countStory redis story).2.sets key = redis.sets key := by
  cases story with
  | none => rfl
  | some entry => exact Function.update_of_ne (different entry rfl) _ _

/-- The rounds write no set but those of the links. -/
theorem sets_applyPlans {event : ParsedRawEvent} {plans : List WindowPlan} (redis : Redis)
    (different : ∀ plan ∈ plans, ∀ entry, plan.story = some entry → key ≠ entry.1) :
    (applyPlans event maxEvidencePerTopic plans redis).2.sets key = redis.sets key := by
  induction plans generalizing redis with
  | nil => rfl
  | cons plan plans ih =>
      have rest := fun plan mem => different plan (List.mem_cons_of_mem _ mem)
      have story : (countStory redis plan.story).2.sets key = redis.sets key :=
        sets_countStory (different plan List.mem_cons_self)
      rw [applyPlans]
      generalize countStory redis plan.story = counted at story ⊢
      obtain ⟨shouldIncrement, stored⟩ := counted
      dsimp only at story ⊢
      cases shouldIncrement with
      | false => exact (ih _ rest).trans story
      | true =>
          rw [if_pos rfl]
          cases added : stored.incrBy plan.counterKey event.volumeWeight with
          | none => exact story
          | some stored' => exact (ih _ rest).trans ((congrFun (sets_incrBy added) key).trans story)

/-- The event is in no set of seen events. -/
def Unseen (redis : Redis) (eventId : String) : Prop :=
  ∀ window bucket, redis.sets (.dedup window bucket) eventId = false

theorem Unseen.apply {update : WindowUpdate} {eventId : String} (unseen : Unseen redis eventId)
    (other : eventId ≠ update.event.eventId) :
    Unseen (update.apply maxEvidencePerTopic redis).2 eventId := by
  intro window bucket
  have stories : ∀ plan ∈ windowPlans update.event update.topics update.windows, ∀ entry,
      plan.story = some entry → RedisKey.dedup window bucket ≠ entry.1 := by
    intro plan mem entry linked
    rw [windowPlans_eq] at mem
    obtain ⟨target, -, rfl⟩ := List.mem_map.1 mem
    rw [story_planFor] at linked
    split at linked
    · cases linked
    · obtain rfl := Option.some.inj linked
      exact RedisKey.noConfusion
  have marked : ∀ key member, member ≠ eventId →
      (redis.sadd key member).2.sets (.dedup window bucket) eventId = false := by
    intro key member apart
    have added : (redis.sadd key member).2.sets (.dedup window bucket) eventId = true ↔
        redis.sets (.dedup window bucket) eventId = true ∨
          (.dedup window bucket = key ∧ eventId = member) :=
      sets_sadd key (.dedup window bucket) member eventId
    have kept := added.not
    rw [not_or, Bool.not_eq_true, Bool.not_eq_true] at kept
    exact kept.2 ⟨unseen window bucket, fun same => apart same.2.symm⟩
  unfold WindowUpdate.apply
  rw [applyEventToWindows_eq]
  unfold applyByPlans
  split
  · exact unseen window bucket
  · split
    · exact unseen window bucket
    · rename_i dedupWindow _
      dsimp only
      have seen := marked (.dedup dedupWindow (getBucketStart update.event.fetchedAt dedupWindow))
        update.event.eventId other.symm
      split
      · exact (congrFun (sets_applyPlans _ stories) eventId).trans seen
      · exact seen

/-- A call that returns, for an event that was not seen, adds it for its windows and topics. -/
theorem mem_evidenceKeys_of_returned {update : WindowUpdate} {window : TrendWindow} {topic : String}
    (returned : (update.apply maxEvidencePerTopic redis).1.isSome = true)
    (unseen : Unseen redis update.event.eventId) :
    .evidence window topic ∈ update.evidenceKeys maxEvidencePerTopic redis ↔
      window ∈ update.windows ∧ topic ∈ update.topics := by
  unfold WindowUpdate.apply at returned
  rw [applyEventToWindows_eq] at returned
  unfold applyByPlans at returned
  unfold WindowUpdate.evidenceKeys
  split at returned
  · rename_i none
    rw [if_pos none]
    rcases none with none | none <;> simp [none]
  · rename_i some
    rw [if_neg some]
    cases chosen : chooseDedupWindow update.windows with
    | none =>
        rw [chooseDedupWindow_eq_none.1 chosen] at some
        exact absurd (.inr rfl) some
    | some dedupWindow =>
        rw [chosen] at returned
        dsimp only at returned ⊢
        have added : (redis.sadd (.dedup dedupWindow
            (getBucketStart update.event.fetchedAt dedupWindow)) update.event.eventId).1 = true :=
          sadd_fst_of_not_mem (Bool.eq_false_iff.1 (unseen _ _))
        rw [if_pos added] at returned ⊢
        have finished : (applyPlans update.event maxEvidencePerTopic
            (windowPlans update.event update.topics update.windows)
            (redis.sadd (.dedup dedupWindow (getBucketStart update.event.fetchedAt dedupWindow))
              update.event.eventId).2).1 = true := by
          by_contra stopped
          rw [if_neg stopped] at returned
          cases returned
        rw [evidenceKeys_of_finished finished]
        exact mem_evidenceKey_windowPlans

/-- Where no call throws, all events of the window and the topic are added. -/
theorem addedEntries_of_allReturn {window : TrendWindow} {topic : String}
    (returned : AllReturn maxEvidencePerTopic redis updates)
    (distinct : (updates.map (·.event.eventId)).Nodup)
    (unseen : ∀ update ∈ updates, Unseen redis update.event.eventId) :
    addedEntries maxEvidencePerTopic (.evidence window topic) redis updates =
      (updates.filter fun update => window ∈ update.windows ∧ topic ∈ update.topics).map
        (·.event.entry) := by
  induction updates generalizing redis with
  | nil => rfl
  | cons update updates ih =>
      unfold AllReturn answers at returned
      have here : .evidence window topic ∈ update.evidenceKeys maxEvidencePerTopic redis ↔
          window ∈ update.windows ∧ topic ∈ update.topics :=
        mem_evidenceKeys_of_returned (returned _ List.mem_cons_self)
          (unseen update List.mem_cons_self)
      rw [List.map_cons, List.nodup_cons] at distinct
      have later : ∀ other ∈ updates,
          Unseen (update.apply maxEvidencePerTopic redis).2 other.event.eventId := by
        intro other mem
        refine (unseen other (List.mem_cons_of_mem _ mem)).apply ?_
        intro same
        exact distinct.1 (same ▸ List.mem_map_of_mem mem)
      have rest := ih (fun result mem => returned result (List.mem_cons_of_mem _ mem)) distinct.2 later
      unfold addedEntries
      dsimp only
      rw [rest]
      by_cases added : window ∈ update.windows ∧ topic ∈ update.topics
      · rw [if_pos (here.2 added)]
        simp [added]
      · rw [if_neg fun mem => added (here.1 mem)]
        simp [added]

end Run

/-- A store without evidence, where no event was seen. -/
structure Redis.NoEvidence (redis : Redis) : Prop where
  evidence : ∀ window topic, redis.sortedSets (.evidence window topic) = []
  dedup : ∀ eventId, Unseen redis eventId

/-- The sorted set of a window and a topic holds the greatest of the events added to it, which are
all events applied to the two if no call throws; the snapshot reads them from the greatest on, and
the order in which they came is of no matter. -/
theorem evidence_topK {redis : Redis} (maxEvidencePerTopic : ℕ) {updates : List WindowUpdate}
    (fresh : redis.NoEvidence) (distinct : (updates.map (·.event.eventId)).Nodup)
    (window : TrendWindow) (topic : String) :
    let added := addedEntries maxEvidencePerTopic (.evidence window topic) redis updates
    let greatest := top rankGe maxEvidencePerTopic added
    let final := applyAll maxEvidencePerTopic redis updates
    final.sortedSets (.evidence window topic) = greatest.reverse ∧
      (∀ ctx : SnapshotContext, ctx.maxEvidencePerTopic = maxEvidencePerTopic → ∀ bucket,
        (topicMetric ctx final window bucket topic).evidenceEventIds = greatest.map (·.2)) ∧
      (∀ others, others.Perm added → top rankGe maxEvidencePerTopic others = greatest) ∧
      (AllReturn maxEvidencePerTopic redis updates →
        added = (updates.filter fun update =>
          window ∈ update.windows ∧ topic ∈ update.topics).map (·.event.entry)) := by
  intro added greatest final
  have empty : HoldsTop redis (.evidence window topic) maxEvidencePerTopic [] := by
    unfold HoldsTop top
    rw [fresh.evidence window topic, List.mergeSort_nil, List.take_nil, List.reverse_nil]
  have holds : final.sortedSets (.evidence window topic) = greatest.reverse :=
    HoldsTop.applyAll empty distinct
  refine ⟨holds, ?_, ?_, ?_⟩
  · intro ctx same bucket
    have short : greatest.length ≤ maxEvidencePerTopic := by
      change (top rankGe maxEvidencePerTopic added).length ≤ _
      rw [length_top]
      exact min_le_left _ _
    have stored : (final.sortedSets (.evidence window topic)).length ≤ ctx.maxEvidencePerTopic := by
      rw [holds, List.length_reverse, same]
      exact short
    change final.zrevRange (.evidence window topic) 0 (ctx.maxEvidencePerTopic - 1) = _
    rw [Redis.zrevRange_of_short stored, holds, List.reverse_reverse]
  · intro others same
    exact rankGe_totalOrder.top_perm same
  · intro returned
    exact addedEntries_of_allReturn returned distinct fun update _ => fresh.dedup _

theorem newRedis_noEvidence : newRedis.NoEvidence where
  evidence _ _ := rfl
  dedup _ _ _ := rfl

/-- An event with a score. -/
def scoredEvent (eventId : String) (score : ℚ) : ParsedRawEvent where
  eventId := eventId
  fetchedAt := 0
  url := none
  engagementScore := .finite score
  feedPriority := 50
  one_le_feedPriority := one_le_fifty

/-- Three events of one topic, the first two of equal score. -/
def tiedEvents : List WindowUpdate :=
  [⟨scoredEvent "a" 3, ["ai"], [.minutes15]⟩, ⟨scoredEvent "b" 3, ["ai"], [.minutes15]⟩,
    ⟨scoredEvent "c" 1, ["ai"], [.minutes15]⟩]

theorem evidence_topK_tiedEvents :
    let added := addedEntries 2 (.evidence .minutes15 "ai") newRedis tiedEvents
    let greatest := top rankGe 2 added
    let final := applyAll 2 newRedis tiedEvents
    final.sortedSets (.evidence .minutes15 "ai") = greatest.reverse ∧
      (∀ ctx : SnapshotContext, ctx.maxEvidencePerTopic = 2 → ∀ bucket,
        (topicMetric ctx final .minutes15 bucket "ai").evidenceEventIds = greatest.map (·.2)) ∧
      (∀ others, others.Perm added → top rankGe 2 others = greatest) ∧
      (AllReturn 2 newRedis tiedEvents →
        added = (tiedEvents.filter fun update =>
          .minutes15 ∈ update.windows ∧ "ai" ∈ update.topics).map (·.event.entry)) :=
  evidence_topK 2 newRedis_noEvidence (by decide) .minutes15 "ai"

end RisingIntelligence.Trends
