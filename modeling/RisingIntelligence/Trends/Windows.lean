import RisingIntelligence.Shared.Double
import Mathlib.Algebra.Order.Floor.Ring
import Mathlib.Data.List.Sort

/-!
# Bucketed counting

`applyEventToWindows` and the keys of `apps/trends/src/redis.ts`: the script that counts an event
once for each configured window and topic, and the write of the previous counts.

* Buckets are milliseconds; the source prints them into its keys as ISO strings.  The keys of one
  family never equal those of another, so they are kept as constructors.  Expiry is left out.
* The script reads the plans of the call out of one flat list of arguments.
  `applyEventToWindows_eq`: it does what the plans say, one after the other.
-/

namespace RisingIntelligence.Trends

/-- `"15m" | "60m"` -/
inductive TrendWindow : Type
  | minutes15
  | minutes60
  deriving DecidableEq

def getWindowSeconds : TrendWindow → ℤ
  | .minutes15 => 15 * 60
  | .minutes60 => 60 * 60

def windowMs (window : TrendWindow) : ℤ := getWindowSeconds window * 1000

/-- The division rounds down. -/
def getBucketStart (timestamp : ℤ) (window : TrendWindow) : ℤ :=
  timestamp / windowMs window * windowMs window

theorem windowMs_pos (window : TrendWindow) : 0 < windowMs window := by
  cases window <;> decide

theorem getBucketStart_le (t : ℤ) (window : TrendWindow) : getBucketStart t window ≤ t :=
  Int.ediv_mul_le t (windowMs_pos window).ne'

/-! ## The store -/

inductive RedisKey : Type
  | counter (window : TrendWindow) (topic : String) (bucket : ℤ)
  | previous (window : TrendWindow) (topic : String)
  | evidence (window : TrendWindow) (topic : String)
  | storyUrls (window : TrendWindow) (topic : String) (bucket : ℤ)
  | dedup (window : TrendWindow) (bucket : ℤ)
  | baseline (window : TrendWindow) (topic dayOfWeek : String)
  deriving DecidableEq

theorem tenToThe17_le : (10 : ℤ) ^ 17 ≤ 2 ^ 63 := by decide

/-- How `INCRBY` reads a whole Lua number.  Up to 17 digits it is written as it is; from there on the
versions of the server differ, but nothing from `2 ^ 63` on is accepted. -/
structure RedisServer where
  incrArgument : ℤ → Option ℤ
  incrArgument_small : ∀ n, 0 ≤ n → n < 10 ^ 17 → incrArgument n = some n
  incrArgument_large : ∀ n, 2 ^ 63 ≤ n → incrArgument n = none

/-- The format `%.17g` writes longer numbers with an exponent, which is refused. -/
def seventeenDigits : RedisServer where
  incrArgument n := if n < 10 ^ 17 then some n else none
  incrArgument_small _ _ small := if_pos small
  incrArgument_large _ large := if_neg (not_lt.2 (le_trans tenToThe17_le large))

/-- String values are decimal integers; a sorted set is listed by rising rank. -/
structure Redis where
  server : RedisServer
  strings : RedisKey → Option ℤ
  sets : RedisKey → String → Bool
  sortedSets : RedisKey → List (Js.Number × String)

def emptyRedis (server : RedisServer) : Redis where
  server := server
  strings _ := none
  sets _ _ := false
  sortedSets _ := []

def newRedis : Redis := emptyRedis seventeenDigits

namespace Redis

variable (redis : Redis)

def set (key : RedisKey) (value : ℤ) : Redis :=
  { redis with strings := Function.update redis.strings key (some value) }

/-- `INCRBY` of a Lua number; a sum outside the signed 64-bit range is an error. -/
def incrBy (key : RedisKey) (amount : ℤ) : Option Redis :=
  (redis.server.incrArgument amount).bind fun added =>
    let sum := (redis.strings key).getD 0 + added
    if -2 ^ 63 ≤ sum ∧ sum < 2 ^ 63 then some (redis.set key sum) else none

/-- `SADD` of one member, with whether it was new. -/
def sadd (key : RedisKey) (member : String) : Bool × Redis :=
  (!redis.sets key member,
    { redis with
      sets := Function.update redis.sets key (Function.update (redis.sets key) member true) })

end Redis

/-- Order of scores. -/
def scoreLe : Js.Number → Js.Number → Bool
  | .infinite true, _ => true
  | _, .infinite false => true
  | .finite left, .finite right => decide (left ≤ right)
  | _, _ => false

/-- Members of equal score are ordered by their bytes. -/
def rankLe (left right : Js.Number × String) : Bool :=
  if scoreLe left.1 right.1 && scoreLe right.1 left.1 then decide (left.2 ≤ right.2)
  else scoreLe left.1 right.1

namespace Redis

variable (redis : Redis)

def zadd (key : RedisKey) (score : Js.Number) (member : String) : Redis :=
  let others := (redis.sortedSets key).filter (·.2 ≠ member)
  { redis with
    sortedSets := Function.update redis.sortedSets key
      (others.orderedInsert (fun left right => rankLe left right = true) (score, member)) }

/-- The ranks from `start` to `stop` of `length` many, where a negative one counts from the end: how
many are before the range, and how many in it. -/
def rankRange (length : ℕ) (start stop : ℤ) : ℕ × ℕ :=
  let start := max 0 (if start < 0 then length + start else start)
  let stop := min ((length : ℤ) - 1) (if stop < 0 then length + stop else stop)
  if stop < start then (0, 0) else (start.toNat, (stop - start + 1).toNat)

/-- `ZREMRANGEBYRANK` -/
def zremrangeByRank (key : RedisKey) (start stop : ℤ) : Redis :=
  let members := redis.sortedSets key
  let (before, removed) := rankRange members.length start stop
  { redis with
    sortedSets := Function.update redis.sortedSets key
      (members.take before ++ members.drop (before + removed)) }

/-- `ZREVRANGE`, whose ranks are counted from the greatest member on. -/
def zrevRange (key : RedisKey) (start stop : ℤ) : List String :=
  let members := (redis.sortedSets key).reverse
  let (before, read) := rankRange members.length start stop
  ((members.drop before).take read).map (·.2)

/-- The sorted set without all but its last members. -/
def zkeepLast (key : RedisKey) (count : ℕ) : Redis :=
  let members := redis.sortedSets key
  { redis with
    sortedSets := Function.update redis.sortedSets key (members.drop (members.length - count)) }

theorem rankRange_cut (length count : ℕ) :
    rankRange length 0 (-(count + 1 : ℕ)) = (0, length - count) := by
  have negative : (-(count + 1 : ℕ) : ℤ) < 0 := by omega
  unfold rankRange
  dsimp only
  rw [if_neg (lt_irrefl _), if_pos negative]
  split
  · exact Prod.ext rfl (by omega)
  · exact Prod.ext rfl (by dsimp only; omega)

/-- The range to the negative rank leaves the last members. -/
theorem zremrangeByRank_cut (key : RedisKey) (count : ℕ) :
    redis.zremrangeByRank key 0 (-(count + 1 : ℕ)) = redis.zkeepLast key count := by
  unfold zremrangeByRank zkeepLast
  dsimp only
  rw [rankRange_cut, List.take_zero, List.nil_append, Nat.zero_add]

/-- The range of the first `count` ranks reads a set that has no more members. -/
theorem zrevRange_of_short {redis : Redis} {key : RedisKey} {count : ℕ}
    (short : (redis.sortedSets key).length ≤ count) :
    redis.zrevRange key 0 (count - 1) = (redis.sortedSets key).reverse.map (·.2) := by
  have whole : rankRange (redis.sortedSets key).length 0 (count - 1) =
      (0, (redis.sortedSets key).length) := by
    unfold rankRange
    dsimp only
    rw [if_neg (lt_irrefl _)]
    by_cases none : (count : ℤ) - 1 < 0
    · rw [if_pos none]
      split
      · exact Prod.ext rfl (by dsimp only; omega)
      · exact Prod.ext rfl (by dsimp only; omega)
    · rw [if_neg none]
      split
      · exact Prod.ext rfl (by dsimp only; omega)
      · exact Prod.ext rfl (by dsimp only; omega)
  unfold zrevRange
  dsimp only
  rw [List.length_reverse, whole, List.drop_zero, ← List.length_reverse, List.take_length]

end Redis

/-! ## One event -/

/-- The fields of an event that are counted; its priority comes from `extractFeedPriority`. -/
structure ParsedRawEvent where
  eventId : String
  fetchedAt : ℤ
  url : Option String
  engagementScore : Js.Number
  feedPriority : ℚ
  one_le_feedPriority : 1 ≤ feedPriority

/-- `(event.feedPriority ?? 50) / 50` -/
def ParsedRawEvent.priorityWeight (event : ParsedRawEvent) : ℚ :=
  Js.roundDouble (event.feedPriority / 50)

/-- `Math.round((event.engagementScore ?? 0) * priorityWeight)`, the weight being positive. -/
def ParsedRawEvent.evidenceScore (event : ParsedRawEvent) : Js.Number :=
  match event.engagementScore with
  | .infinite negative => .infinite negative
  | .finite score =>
      match Js.toDouble (score * event.priorityWeight) with
      | .infinite negative => .infinite negative
      | .finite product => .finite (Js.mathRound product)

/-- A rounded product is rounded down where the exact one would be rounded up. -/
example : ParsedRawEvent.evidenceScore ⟨"a", 0, none, .finite 25, 29, by norm_num⟩ = .finite 14 := by
  decide +kernel

/-- `Math.max(1, Math.round((event.feedPriority ?? 50) / 50))` -/
def ParsedRawEvent.volumeWeight (event : ParsedRawEvent) : ℤ :=
  max 1 (Js.mathRound event.priorityWeight)

/-- An entry of `windowPlans`; the key is missing where the event has no link. -/
structure WindowPlan where
  counterKey : RedisKey
  counterTtlSeconds : ℤ
  evidenceKey : RedisKey
  evidenceTtlSeconds : ℤ
  storyUrlsKey : Option RedisKey
  storyUrlsTtlSeconds : ℤ
  storyMember : String

/-- The link that is counted. -/
def WindowPlan.story (plan : WindowPlan) : Option (RedisKey × String) :=
  match plan.storyUrlsKey with
  | none => none
  | some key => if plan.storyMember = "" then none else some (key, plan.storyMember)

/-- The window with the longest buckets. -/
def chooseDedupWindow (windows : List TrendWindow) : Option TrendWindow :=
  (windows.mergeSort fun a b => decide (getWindowSeconds b ≤ getWindowSeconds a)).head?

def windowPlans (event : ParsedRawEvent) (topics : List String) (windows : List TrendWindow) :
    List WindowPlan :=
  windows.flatMap fun window =>
    let bucket := getBucketStart event.fetchedAt window
    let ttlSeconds := getWindowSeconds window * 3
    let evidenceTtlSeconds := getWindowSeconds window * 2
    let storyMember := event.url.getD ""
    topics.map fun topic => {
      counterKey := .counter window topic bucket
      counterTtlSeconds := ttlSeconds
      evidenceKey := .evidence window topic
      evidenceTtlSeconds := evidenceTtlSeconds
      storyUrlsKey := if storyMember = "" then none else some (.storyUrls window topic bucket)
      storyUrlsTtlSeconds := ttlSeconds
      storyMember := storyMember }

/-! ## The arguments -/

/-- An argument of the script, before it is written as a text. -/
inductive Arg : Type
  | key (key : RedisKey)
  | text (value : String)
  | number (value : Js.Number)

def Arg.whole (value : ℤ) : Arg := .number (.finite value)

/-- The part of `planArgs` for one plan. -/
def WindowPlan.args (plan : WindowPlan) : List Arg :=
  [.key plan.counterKey, .whole plan.counterTtlSeconds, .key plan.evidenceKey,
    .whole plan.evidenceTtlSeconds, (plan.storyUrlsKey.map Arg.key).getD (.text ""),
    .whole plan.storyUrlsTtlSeconds, .text plan.storyMember]

/-- What is handed to `redis.eval` behind the key. -/
def scriptArgs (event : ParsedRawEvent) (plans : List WindowPlan) (dedupTtlSeconds : ℤ)
    (maxEvidencePerTopic : ℕ) : List Arg :=
  [.text event.eventId, .whole dedupTtlSeconds, .whole maxEvidencePerTopic,
    .number event.evidenceScore, .whole plans.length, .whole event.volumeWeight] ++
      plans.flatMap WindowPlan.args

section Argv

variable (argv : List Arg) (index : ℕ)

/-- `ARGV[index]`, where the first argument has the index 1. -/
def argAt : Option Arg := argv[index - 1]?

def textAt : Option String :=
  match argAt argv index with
  | some (.text value) => some value
  | _ => none

def keyAt : Option RedisKey :=
  match argAt argv index with
  | some (.key key) => some key
  | _ => none

/-- A key or the empty text. -/
def optionalKeyAt : Option (Option RedisKey) :=
  match argAt argv index with
  | some (.key key) => some (some key)
  | some (.text "") => some none
  | _ => none

/-- `tonumber(ARGV[index])` -/
def numberAt : Option Js.Number :=
  match argAt argv index with
  | some (.number value) => some value
  | _ => none

def wholeAt : Option ℤ := (numberAt argv index).bind Js.Number.integer?

/-- The seven arguments from `argIndex` on. -/
def planAt (argIndex : ℕ) : Option WindowPlan := do
  let counterKey ← keyAt argv argIndex
  let counterTtlSeconds ← wholeAt argv (argIndex + 1)
  let evidenceKey ← keyAt argv (argIndex + 2)
  let evidenceTtlSeconds ← wholeAt argv (argIndex + 3)
  let storyUrlsKey ← optionalKeyAt argv (argIndex + 4)
  let storyUrlsTtlSeconds ← wholeAt argv (argIndex + 5)
  let storyMember ← textAt argv (argIndex + 6)
  return { counterKey, counterTtlSeconds, evidenceKey, evidenceTtlSeconds, storyUrlsKey,
           storyUrlsTtlSeconds, storyMember }

end Argv

/-- The local variables of the script that its loop reads. -/
structure ScriptLocals where
  eventId : String
  maxEvidencePerTopic : ℤ
  engagementScore : Js.Number
  planCount : ℤ
  volumeWeight : ℤ

def scriptLocals (argv : List Arg) : Option ScriptLocals := do
  let eventId ← textAt argv 1
  let maxEvidencePerTopic ← wholeAt argv 3
  let engagementScore ← numberAt argv 4
  let planCount ← wholeAt argv 5
  let volumeWeight ← wholeAt argv 6
  return { eventId, maxEvidencePerTopic, engagementScore, planCount, volumeWeight }

/-! ## The script -/

/-- `SADD` of the link; without one the event counts. -/
def countStory (redis : Redis) : Option (RedisKey × String) → Bool × Redis
  | none => (true, redis)
  | some (key, member) => redis.sadd key member

/-- The commands of one round.  An error of a command leaves what was written before. -/
def scriptRound (locals : ScriptLocals) (plan : WindowPlan) (redis : Redis) : Bool × Redis :=
  let (shouldIncrement, redis) := countStory redis plan.story
  let counted := if shouldIncrement then redis.incrBy plan.counterKey locals.volumeWeight
    else some redis
  match counted with
  | none => (false, redis)
  | some redis =>
      let redis := redis.zadd plan.evidenceKey locals.engagementScore locals.eventId
      (true, redis.zremrangeByRank plan.evidenceKey 0 (-(locals.maxEvidencePerTopic + 1)))

/-- The loop, with the rounds that are left and `argIndex`.  A missing argument is an error of the
command that it is passed to. -/
def scriptLoop (locals : ScriptLocals) (argv : List Arg) : ℕ → ℕ → Redis → Bool × Redis
  | 0, _, redis => (true, redis)
  | rounds + 1, argIndex, redis =>
      match planAt argv argIndex with
      | none => (false, redis)
      | some plan =>
          match scriptRound locals plan redis with
          | (false, redis) => (false, redis)
          | (true, redis) => scriptLoop locals argv rounds (argIndex + 7) redis

/-- `APPLY_EVENT_TO_WINDOWS_SCRIPT`; no answer where a command fails. -/
def applyEventToWindowsScript (redis : Redis) (dedupKey : RedisKey) (argv : List Arg) :
    Option ℤ × Redis :=
  match scriptLocals argv with
  | none => (none, redis)
  | some locals =>
      let (dedupAdded, redis) := redis.sadd dedupKey locals.eventId
      if dedupAdded then
        let (finished, redis) := scriptLoop locals argv locals.planCount.toNat 7 redis
        (if finished then some 1 else none, redis)
      else (some 0, redis)

structure WindowUpdateResult where
  duplicate : Bool
  buckets : List (TrendWindow × ℤ)

/-- `applyEventToWindows`; no result where it throws. -/
def applyEventToWindows (redis : Redis) (event : ParsedRawEvent) (topics : List String)
    (windows : List TrendWindow) (maxEvidencePerTopic : ℕ) : Option WindowUpdateResult × Redis :=
  if topics = [] ∨ windows = [] then (some { duplicate := false, buckets := [] }, redis)
  else
    let buckets := windows.map fun window => (window, getBucketStart event.fetchedAt window)
    match chooseDedupWindow windows with
    | none => (none, redis)
    | some dedupWindow =>
        let dedupKey := .dedup dedupWindow (getBucketStart event.fetchedAt dedupWindow)
        let (scriptResult, redis) := applyEventToWindowsScript redis dedupKey
          (scriptArgs event (windowPlans event topics windows) (getWindowSeconds dedupWindow * 3)
            maxEvidencePerTopic)
        match scriptResult with
        | some 0 => (some { duplicate := true, buckets := buckets }, redis)
        | some 1 => (some { duplicate := false, buckets := buckets }, redis)
        | _ => (none, redis)

/-- `writePreviousWindowCounts` -/
def writePreviousWindowCounts (redis : Redis) (window : TrendWindow)
    (countsByTopic : List (String × ℤ)) : Redis :=
  countsByTopic.foldl (fun redis entry => redis.set (.previous window entry.1) entry.2) redis

/-! ## The script follows the plans -/

/-- What the rounds do, plan by plan. -/
def applyPlans (event : ParsedRawEvent) (maxEvidencePerTopic : ℕ) :
    List WindowPlan → Redis → Bool × Redis
  | [], redis => (true, redis)
  | plan :: plans, redis =>
      let (shouldIncrement, redis) := countStory redis plan.story
      let counted := if shouldIncrement then redis.incrBy plan.counterKey event.volumeWeight
        else some redis
      match counted with
      | none => (false, redis)
      | some redis =>
          let redis := redis.zadd plan.evidenceKey event.evidenceScore event.eventId
          applyPlans event maxEvidencePerTopic plans
            (redis.zkeepLast plan.evidenceKey maxEvidencePerTopic)

/-- What a call does: an event that the set of its bucket does not have yet is counted by the plans. -/
def applyByPlans (redis : Redis) (event : ParsedRawEvent) (topics : List String)
    (windows : List TrendWindow) (maxEvidencePerTopic : ℕ) : Option WindowUpdateResult × Redis :=
  if topics = [] ∨ windows = [] then (some { duplicate := false, buckets := [] }, redis)
  else
    let buckets := windows.map fun window => (window, getBucketStart event.fetchedAt window)
    match chooseDedupWindow windows with
    | none => (none, redis)
    | some dedupWindow =>
        let dedupKey := .dedup dedupWindow (getBucketStart event.fetchedAt dedupWindow)
        let (dedupAdded, redis) := redis.sadd dedupKey event.eventId
        if dedupAdded then
          let (finished, redis) := applyPlans event maxEvidencePerTopic
            (windowPlans event topics windows) redis
          (if finished then some { duplicate := false, buckets := buckets } else none, redis)
        else (some { duplicate := true, buckets := buckets }, redis)

section Script

variable {argv front rest : List Arg} {event : ParsedRawEvent} {maxEvidencePerTopic : ℕ}

theorem argAt_append (i : ℕ) : argAt (front ++ rest) (front.length + 1 + i) = rest[i]? := by
  unfold argAt
  rw [List.getElem?_append_right (by omega)]
  congr 1
  omega

@[simp] theorem integer?_intCast (n : ℤ) : Js.Number.integer? (.finite n) = some n := by
  simp [Js.Number.integer?]

@[simp] theorem integer?_natCast (n : ℕ) : Js.Number.integer? (.finite n) = some (n : ℤ) :=
  integer?_intCast n

/-- The arguments from the place of a plan on are read back as the plan. -/
theorem planAt_args (plan : WindowPlan) :
    planAt (front ++ (plan.args ++ rest)) (front.length + 1) = some plan := by
  have at' : ∀ i (inside : i < 7),
      argAt (front ++ (plan.args ++ rest)) (front.length + 1 + i) = plan.args[i]? := by
    intro i inside
    rw [argAt_append, List.getElem?_append_left (by exact inside)]
  have first := at' 0 (by omega)
  have second := at' 1 (by omega)
  have third := at' 2 (by omega)
  have fourth := at' 3 (by omega)
  have fifth := at' 4 (by omega)
  have sixth := at' 5 (by omega)
  have seventh := at' 6 (by omega)
  rw [Nat.add_zero] at first
  obtain ⟨counterKey, counterTtl, evidenceKey, evidenceTtl, storyUrlsKey, storyUrlsTtl, storyMember⟩ :=
    plan
  unfold planAt keyAt wholeAt numberAt optionalKeyAt textAt
  rw [first, second, third, fourth, fifth, sixth, seventh]
  cases storyUrlsKey <;> simp [WindowPlan.args, Arg.whole]

theorem scriptLocals_scriptArgs (plans : List WindowPlan) (dedupTtlSeconds : ℤ) :
    scriptLocals (scriptArgs event plans dedupTtlSeconds maxEvidencePerTopic) = some {
      eventId := event.eventId
      maxEvidencePerTopic := maxEvidencePerTopic
      engagementScore := event.evidenceScore
      planCount := plans.length
      volumeWeight := event.volumeWeight } := by
  simp [scriptLocals, scriptArgs, textAt, wholeAt, numberAt, argAt, Arg.whole]

theorem scriptRound_eq {locals : ScriptLocals} (eventId : locals.eventId = event.eventId)
    (cut : locals.maxEvidencePerTopic = maxEvidencePerTopic)
    (score : locals.engagementScore = event.evidenceScore)
    (weight : locals.volumeWeight = event.volumeWeight) (plan : WindowPlan) (redis : Redis) :
    scriptRound locals plan redis = applyPlans event maxEvidencePerTopic [plan] redis := by
  have same : ∀ redis : Redis, redis.zremrangeByRank plan.evidenceKey 0
      (-(maxEvidencePerTopic + 1)) = redis.zkeepLast plan.evidenceKey maxEvidencePerTopic := by
    intro redis
    rw [← Redis.zremrangeByRank_cut, Nat.cast_add, Nat.cast_one]
  unfold scriptRound applyPlans
  rw [eventId, cut, score, weight]
  simp only [same]
  rfl

theorem applyPlans_cons_eq (plan : WindowPlan) (plans : List WindowPlan) (redis : Redis) :
    applyPlans event maxEvidencePerTopic (plan :: plans) redis =
      match applyPlans event maxEvidencePerTopic [plan] redis with
      | (false, redis) => (false, redis)
      | (true, redis) => applyPlans event maxEvidencePerTopic plans redis := by
  simp only [applyPlans]
  cases (if (countStory redis plan.story).1 then
      (countStory redis plan.story).2.incrBy plan.counterKey event.volumeWeight
    else some (countStory redis plan.story).2) with
  | none => rfl
  | some redis => rfl

/-- The loop reads one plan after the other and runs its round. -/
theorem scriptLoop_eq {locals : ScriptLocals} {plans : List WindowPlan}
    (round : ∀ plan redis, scriptRound locals plan redis =
      applyPlans event maxEvidencePerTopic [plan] redis) (front : List Arg) (redis : Redis) :
    scriptLoop locals (front ++ plans.flatMap WindowPlan.args) plans.length (front.length + 1) redis =
      applyPlans event maxEvidencePerTopic plans redis := by
  induction plans generalizing front redis with
  | nil => rfl
  | cons plan plans ih =>
      have next := ih (front ++ plan.args)
      have length : (front ++ plan.args).length + 1 = front.length + 1 + 7 := by
        rw [List.length_append]
        rfl
      rw [length, List.append_assoc] at next
      rw [List.flatMap_cons, List.length_cons, scriptLoop, planAt_args, applyPlans_cons_eq]
      dsimp only
      rw [round]
      split
      · rfl
      · exact next _

theorem applyEventToWindows_eq (redis : Redis) (topics : List String) (windows : List TrendWindow) :
    applyEventToWindows redis event topics windows maxEvidencePerTopic =
      applyByPlans redis event topics windows maxEvidencePerTopic := by
  unfold applyEventToWindows applyByPlans
  split
  · rfl
  cases chooseDedupWindow windows with
  | none => rfl
  | some dedupWindow =>
      have loop := @scriptLoop_eq event maxEvidencePerTopic
        { eventId := event.eventId
          maxEvidencePerTopic := maxEvidencePerTopic
          engagementScore := event.evidenceScore
          planCount := (windowPlans event topics windows).length
          volumeWeight := event.volumeWeight }
        (windowPlans event topics windows) (scriptRound_eq rfl rfl rfl rfl)
        [.text event.eventId, .whole (getWindowSeconds dedupWindow * 3), .whole maxEvidencePerTopic,
          .number event.evidenceScore, .whole (windowPlans event topics windows).length,
          .whole event.volumeWeight]
      dsimp only
      unfold applyEventToWindowsScript
      rw [scriptLocals_scriptArgs]
      dsimp only
      generalize redis.sadd _ event.eventId = added
      obtain ⟨dedupAdded, redis⟩ := added
      cases dedupAdded with
      | false => rfl
      | true =>
          have rounds : scriptLoop _ (scriptArgs event (windowPlans event topics windows)
              (getWindowSeconds dedupWindow * 3) maxEvidencePerTopic)
              ((windowPlans event topics windows).length : ℤ).toNat 7 redis =
                applyPlans event maxEvidencePerTopic (windowPlans event topics windows) redis :=
            loop redis
          simp only [if_true]
          rw [rounds]
          generalize applyPlans event maxEvidencePerTopic _ redis = applied
          obtain ⟨finished, redis⟩ := applied
          cases finished <;> rfl

end Script

/-! ## What an event leaves alone -/

namespace Redis

variable (redis : Redis) {key other : RedisKey}

/-- `GET` of a counter, read with `parseCount`. -/
def count (key : RedisKey) : ℤ := (redis.strings key).getD 0

theorem strings_set_self (value : ℤ) : (redis.set key value).strings key = some value :=
  Function.update_self ..

theorem strings_set_of_ne (different : other ≠ key) (value : ℤ) :
    (redis.set key value).strings other = redis.strings other :=
  Function.update_of_ne different ..

theorem strings_incrBy_of_ne {redis redis' : Redis} (different : other ≠ key) {amount : ℤ}
    (added : redis.incrBy key amount = some redis') :
    redis'.strings other = redis.strings other := by
  obtain ⟨read, -, added⟩ := Option.bind_eq_some_iff.1 added
  dsimp only at added
  split at added
  · cases added
    exact strings_set_of_ne redis different _
  · cases added

end Redis

theorem strings_countStory (redis : Redis) (story : Option (RedisKey × String)) :
    (countStory redis story).2.strings = redis.strings := by
  cases story <;> rfl

theorem strings_applyPlans {event : ParsedRawEvent} {maxEvidencePerTopic : ℕ}
    {plans : List WindowPlan} {key : RedisKey} (redis : Redis)
    (different : ∀ plan ∈ plans, key ≠ plan.counterKey) :
    (applyPlans event maxEvidencePerTopic plans redis).2.strings key = redis.strings key := by
  induction plans generalizing redis with
  | nil => rfl
  | cons plan plans ih =>
      have here := different plan (List.mem_cons_self ..)
      have rest := fun plan mem => different plan (List.mem_cons_of_mem _ mem)
      have story := congrFun (strings_countStory redis plan.story) key
      unfold applyPlans
      generalize countStory redis plan.story = counted at story ⊢
      obtain ⟨shouldIncrement, redis'⟩ := counted
      cases shouldIncrement with
      | false => exact (ih _ rest).trans story
      | true =>
          simp only [if_true]
          cases added : redis'.incrBy plan.counterKey event.volumeWeight with
          | none => exact story
          | some redis'' =>
              exact (ih _ rest).trans ((Redis.strings_incrBy_of_ne here added).trans story)

/-- An event writes only the counters of its own buckets. -/
theorem strings_applyEventToWindows {event : ParsedRawEvent} {topics : List String}
    {windows : List TrendWindow} {maxEvidencePerTopic : ℕ} {key : RedisKey} (redis : Redis)
    (different : ∀ window ∈ windows, ∀ topic ∈ topics,
      key ≠ .counter window topic (getBucketStart event.fetchedAt window)) :
    (applyEventToWindows redis event topics windows maxEvidencePerTopic).2.strings key =
      redis.strings key := by
  have plans : ∀ plan ∈ windowPlans event topics windows, key ≠ plan.counterKey := by
    intro plan mem
    simp only [windowPlans, List.mem_flatMap, List.mem_map] at mem
    obtain ⟨window, configured, topic, tracked, rfl⟩ := mem
    exact different window configured topic tracked
  rw [applyEventToWindows_eq]
  unfold applyByPlans
  split
  · rfl
  split
  · rfl
  · rename_i dedupWindow _
    dsimp only
    split
    · exact strings_applyPlans _ plans
    · rfl

theorem count_applyEventToWindows {event : ParsedRawEvent} {topics : List String}
    {windows : List TrendWindow} {maxEvidencePerTopic : ℕ} {key : RedisKey} (redis : Redis)
    (different : ∀ window ∈ windows, ∀ topic ∈ topics,
      key ≠ .counter window topic (getBucketStart event.fetchedAt window)) :
    (applyEventToWindows redis event topics windows maxEvidencePerTopic).2.count key =
      redis.count key :=
  congrArg (·.getD 0) (strings_applyEventToWindows redis different)

/-! ## What the write of the previous counts leaves -/

theorem strings_writePrevious_of_ne {window : TrendWindow} {counts : List (String × ℤ)}
    {key : RedisKey} (redis : Redis) (different : ∀ entry ∈ counts, key ≠ .previous window entry.1) :
    (writePreviousWindowCounts redis window counts).strings key = redis.strings key := by
  unfold writePreviousWindowCounts
  induction counts generalizing redis with
  | nil => rfl
  | cons entry counts ih =>
      have here := different entry (List.mem_cons_self ..)
      rw [List.foldl_cons, ih _ fun other mem => different other (List.mem_cons_of_mem _ mem)]
      exact Redis.strings_set_of_ne redis here _

theorem count_writePrevious_of_ne {window : TrendWindow} {counts : List (String × ℤ)}
    {key : RedisKey} (redis : Redis) (different : ∀ topic, key ≠ .previous window topic) :
    (writePreviousWindowCounts redis window counts).count key = redis.count key :=
  congrArg (·.getD 0) (strings_writePrevious_of_ne redis fun entry _ => different entry.1)

/-- Each topic has the count it was given, which is a function of the topic. -/
theorem count_writePrevious {window : TrendWindow} {topics : List String} {topic : String}
    (redis : Redis) (count : String → ℤ) (tracked : topic ∈ topics) :
    (writePreviousWindowCounts redis window (topics.map fun topic => (topic, count topic))).count
      (.previous window topic) = count topic := by
  induction topics generalizing redis with
  | nil => cases tracked
  | cons first rest ih =>
      by_cases later : topic ∈ rest
      · exact ih _ later
      · obtain rfl : topic = first := (List.mem_cons.1 tracked).resolve_right later
        have others : ∀ entry ∈ rest.map fun topic => (topic, count topic),
            RedisKey.previous window topic ≠ .previous window entry.1 := by
          intro entry mem same
          obtain ⟨other, there, rfl⟩ := List.mem_map.1 mem
          cases same
          exact later there
        have written := (strings_writePrevious_of_ne (redis.set _ _) others).trans
          (Redis.strings_set_self redis (count topic))
        exact congrArg (·.getD 0) written

end RisingIntelligence.Trends
