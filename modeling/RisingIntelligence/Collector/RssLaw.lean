import RisingIntelligence.Async.Expansion
import RisingIntelligence.Collector.Rss

/-!
# What the RSS adapter does in the long run

`RssWorld` has the clock, the maps of the adapter and what it requested and yielded.

`run_law`: however many polls there are, whatever the feeds answer, wherever they fail and whenever
the consumer ends a poll,

* two requests of one feed are at least its poll interval apart, less the jitter;
* two requests to one host whose feeds are spaced are at least the spacing of the first apart, if
  timers can wait so long;
* what is yielded of a feed is made of the items in front of its checkpoint, oldest first, and only
  of what its gates let through.
-/

namespace RisingIntelligence.Collector.Rss

open Async Program
open Js (Json)

/-! ## The world -/

structure RssWorld where
  clock : ℤ
  nextPollAt : String → Option ℤ
  nextRequestAt : String → Option ℤ
  /-- The requests so far, with their times. -/
  requests : List (FeedConfig × ℤ)
  /-- The checkpoint that was read last, the items that came after it and what was yielded of them. -/
  lastGuid : Option String
  items : List RssItem
  yielded : List AdapterRecord

namespace RssWorld

def start (clock : ℤ) : RssWorld where
  clock := clock
  nextPollAt _ := none
  nextRequestAt _ := none
  requests := []
  lastGuid := none
  items := []
  yielded := []

/-- Time goes on. -/
def Passes (w w' : RssWorld) : Prop := ∃ time, w.clock ≤ time ∧ w' = { w with clock := time }

def request (feed : FeedConfig) (items : List RssItem) (w : RssWorld) : RssWorld :=
  { w with requests := w.requests ++ [(feed, w.clock)], items := items, yielded := [] }

end RssWorld

/-- The longest delay of a timer. -/
def maxTimerMs : ℤ := 2 ^ 31 - 1

/-- What `setTimeout` waits at least: it takes a longer delay for one millisecond. -/
def timerMs (ms : ℤ) : ℤ := if ms ≤ maxTimerMs then ms else 1

/-- The calls that only take time. -/
def Quiet : RssCall → Prop
  | .now | .onFeedError _ | .onFeedSuccess _ _ | .enrichment _ | .fetchEdgarDetailMetadata _ => True
  | _ => False

/-- How the world answers. -/
inductive RssAnswers : Handler rssApi RssWorld
  | clock {w : RssWorld} {time : ℤ} : w.clock ≤ time →
    RssAnswers w .clock (.ok time) { w with clock := time }
  | random {w : RssWorld} {random : ℚ} : 0 ≤ random → random < 1 →
    RssAnswers w .random (.ok random) w
  | waited {w : RssWorld} {ms time : ℤ} : w.clock + timerMs ms ≤ time →
    RssAnswers w (.wait ms) (.ok ()) { w with clock := time }
  | checkpoint {w : RssWorld} {source key : String} {stored : Option String} :
    RssAnswers w (.getCheckpoint source key) (.ok stored)
      { w with lastGuid := stored, items := [], yielded := [] }
  | noCheckpoint {w : RssWorld} {source key error : String} :
    RssAnswers w (.getCheckpoint source key) (.error error) w
  | nextPollAt {w : RssWorld} {feedId : String} :
    RssAnswers w (.nextPollAt feedId) (.ok (w.nextPollAt feedId)) w
  | setNextPollAt {w : RssWorld} {feedId : String} {time : ℤ} :
    RssAnswers w (.setNextPollAt feedId time) (.ok ())
      { w with nextPollAt := Function.update w.nextPollAt feedId (some time) }
  | nextRequestAt {w : RssWorld} {host : String} :
    RssAnswers w (.nextRequestAt host) (.ok (w.nextRequestAt host)) w
  | setNextRequestAt {w : RssWorld} {host : String} {time : ℤ} :
    RssAnswers w (.setNextRequestAt host time) (.ok ())
      { w with nextRequestAt := Function.update w.nextRequestAt host (some time) }
  | parsed {w w' : RssWorld} {feed : FeedConfig} {items : Option (List RssItem)} :
    (w.request feed (items.getD [])).Passes w' → RssAnswers w (.parseURL feed) (.ok items) w'
  | unparsed {w w' : RssWorld} {feed : FeedConfig} {error : String} :
    (w.request feed []).Passes w' → RssAnswers w (.parseURL feed) (.error error) w'
  | yielded {w w' : RssWorld} {record : AdapterRecord} {resumed : Bool} :
    { w with yielded := w.yielded ++ [record] }.Passes w' →
    RssAnswers w (.yield record) (.ok resumed) w'
  | quiet {w w' : RssWorld} {c : RssCall} {reply : Except String c.Reply} : Quiet c → w.Passes w' →
    RssAnswers w c reply w'

/-! ## The law -/

variable (adapter : RSSAdapter)

/-- The shortest delay `scheduleNextPoll` can choose. -/
def leastDelay (feed : FeedConfig) : ℤ :=
  if isEdgar feed && 0 < adapter.edgarPollJitterRatio then
    max 1000 (round (getFeedPollIntervalMs adapter feed -
      getFeedPollIntervalMs adapter feed * adapter.edgarPollJitterRatio))
  else getFeedPollIntervalMs adapter feed

/-- The requests to the host are spaced by delays that a timer can wait. -/
def Spaceable (host : String) : Prop :=
  ∀ feed ∈ adapter.feeds, ∀ spacing : ℕ, requestWindow adapter feed = some (host, spacing) →
    (spacing : ℤ) ≤ maxTimerMs

structure Polite (w : RssWorld) : Prop where
  feeds : w.requests.Pairwise fun earlier later =>
    earlier.1.id = later.1.id → earlier.2 + leastDelay adapter earlier.1 ≤ later.2
  hosts : w.requests.Pairwise fun earlier later => ∀ (host : String) (spacing spacing' : ℕ),
    Spaceable adapter host → requestWindow adapter earlier.1 = some (host, spacing) →
      requestWindow adapter later.1 = some (host, spacing') → earlier.2 + (spacing : ℤ) ≤ later.2
  configured : ∀ request ∈ w.requests, request.1 ∈ adapter.feeds

/-- An entity term of the feed or of a feed of EDGAR. -/
def Watched (feed : FeedConfig) (term : String) : Prop :=
  ∃ other, (other = feed ∨ other ∈ adapter.feeds ∧ isEdgar other = true) ∧
    ∃ given ∈ other.entityTerms.getD [], Js.trim given = term

/-- A gated feed names a market, and an entity too where it is of high volume; a feed without a gate
names none. -/
structure Gated (feed : FeedConfig) (content : String) (policy : MarketPolicy) : Prop where
  gated : feed.marketGate = true → policy.marketProfiles ≠ [] ∧
    (∀ key ∈ policy.marketProfiles, ∃ profile ∈ adapter.marketFilterProfiles,
      profile.key = key ∧ profile.Matches adapter.filters content) ∧
    (inferSignalTier adapter feed = .highVolume →
      ∃ term, term ≠ "" ∧ adapter.filters.testTerm term content = true ∧ Watched adapter feed term)
  ungated : feed.marketGate = false → policy.marketProfiles = []

/-- What the feed says of an item, and for a filing its form, which is an allowed one. -/
structure Described (feed : FeedConfig) (guid : String) (sourceMeta : List (String × Json)) :
    Prop where
  described : ∃ filing, sourceMeta = feedSourceMeta adapter feed guid ++ filing ∧
    (isEdgar feed = false → filing = [])
  allowed : isEdgar feed = true → ∃ formType ∈ adapter.edgarFormsAllowlist,
    sourceMeta.lookup "form_type" = some (.string formType)

/-- The text of an item is its own unless it is short and articles are fetched. -/
def OwnText (item : RssItem) (text : String) : Prop :=
  adapter.enrichment = .noop ∨ falsy item.link = true ∨
    minRssContentLength ≤ Js.length (itemSnippet item) → text = itemSnippet item

/-- The record shows the item, and storing it passes the checkpoint on to the item. -/
structure Shows (feed : FeedConfig) (item : RssItem) (guid text : String) (record : AdapterRecord) :
    Prop where
  eventId : record.content.eventId = Js.trim ("rss:" ++ adapter.functions.hashString feed.url ++
    ":" ++ adapter.functions.hashString guid)
  title : record.content.title = normalizeOptionalString item.title
  url : record.content.url = normalizeOptionalString item.link
  text : record.content.text = Js.trim text
  checkpoint : record.checkpointKey = "last_guid_" ++ feed.id ∧ record.checkpointValue = guid

/-- The record is made of the item, which passed the gates of its feed. -/
def Publishable (feed : FeedConfig) (item : RssItem) (guid : String) (record : AdapterRecord) :
    Prop :=
  ∃ text fetchedAt sourceMeta policy,
    record = createCollectorSourceRecord {
      content := itemContent adapter feed item guid text fetchedAt sourceMeta policy
      checkpointKey := checkpointKey feed
      checkpointValue := guid } ∧
    Shows adapter feed item guid text record ∧ OwnText adapter item text ∧
    Gated adapter feed (Js.trim (item.title.getD "" ++ " " ++ text)) policy ∧
    Described adapter feed guid sourceMeta

/-- The records are made of some of the items, one after the other. -/
def MadeOf (feed : FeedConfig) (items : List (RssItem × String)) (records : List AdapterRecord) :
    Prop :=
  ∃ chosen : List (RssItem × String), chosen.Sublist items ∧
    List.Forall₂ (fun entry record => Publishable adapter feed entry.1 entry.2 record) chosen records

/-- What was yielded is made of the items in front of the checkpoint, the oldest first. -/
def Published (w : RssWorld) : Prop :=
  w.yielded = [] ∨ ∃ request, w.requests.getLast? = some request ∧
    MadeOf adapter request.1 (itemsToProcess w.lastGuid w.items).reverse w.yielded

structure RssLaw (w : RssWorld) : Prop where
  polite : Polite adapter w
  published : Published adapter w

/-! ## Phases of a poll -/

section Phases

variable {adapter} {feed : FeedConfig} {stored : Option String} {nowMs : ℤ} {w w' : RssWorld}

/-- What holds throughout. -/
structure Booked (adapter : RSSAdapter) (nowMs : ℤ) (w : RssWorld) : Prop
    extends RssLaw adapter w where
  begun : nowMs ≤ w.clock
  past : ∀ request ∈ w.requests, request.2 ≤ w.clock
  granted : ∀ request ∈ w.requests, ∀ (host : String) (spacing : ℕ), Spaceable adapter host →
    requestWindow adapter request.1 = some (host, spacing) →
      ∃ time, w.nextRequestAt host = some time ∧ request.2 + (spacing : ℤ) ≤ time
  /-- A timer can wait for the next request. -/
  near : ∀ host time, Spaceable adapter host → w.nextRequestAt host = some time →
    time ≤ w.clock + maxTimerMs

/-- The next poll of the feed of a request is scheduled. -/
def Scheduled (adapter : RSSAdapter) (w : RssWorld) (request : FeedConfig × ℤ) : Prop :=
  ∃ time, w.nextPollAt request.1.id = some time ∧ request.2 + leastDelay adapter request.1 ≤ time

/-- Between two attempts. -/
structure Resting (adapter : RSSAdapter) (nowMs : ℤ) (w : RssWorld) : Prop
    extends Booked adapter nowMs w where
  scheduled : ∀ request ∈ w.requests, Scheduled adapter w request

/-- The feed is due and not requested yet; `stored` was read last. -/
structure Asking (adapter : RSSAdapter) (nowMs : ℤ) (feed : FeedConfig) (stored : Option String)
    (w : RssWorld) : Prop extends Booked adapter nowMs w where
  others : ∀ request ∈ w.requests, request.1.id ≠ feed.id → Scheduled adapter w request
  due : ∀ request ∈ w.requests, request.1.id = feed.id →
    request.2 + leastDelay adapter request.1 ≤ w.clock
  checkpoint : w.lastGuid = stored

/-- The feed is being attempted, and perhaps requested. -/
structure Attempting (adapter : RSSAdapter) (nowMs : ℤ) (feed : FeedConfig) (w : RssWorld) : Prop
    extends Booked adapter nowMs w where
  others : ∀ request ∈ w.requests, request.1.id ≠ feed.id → Scheduled adapter w request
  own : ∀ request ∈ w.requests, request.1.id = feed.id →
    request.2 + leastDelay adapter request.1 ≤ w.clock ∨ request.1 = feed

theorem Asking.attempting (asking : Asking adapter nowMs feed stored w) :
    Attempting adapter nowMs feed w :=
  ⟨asking.toBooked, asking.others, fun request member same => .inl (asking.due request member same)⟩

/-! ### Time -/

theorem Booked.passes (booked : Booked adapter nowMs w) (passes : w.Passes w') :
    Booked adapter nowMs w' := by
  obtain ⟨time, later, rfl⟩ := passes
  refine ⟨⟨⟨booked.polite.feeds, booked.polite.hosts, booked.polite.configured⟩, booked.published⟩,
    booked.begun.trans later, fun request member => (booked.past request member).trans later,
    booked.granted, fun host next spaceable found => ?_⟩
  exact (booked.near host next spaceable found).trans (by dsimp only; omega)

theorem Resting.passes (resting : Resting adapter nowMs w) (passes : w.Passes w') :
    Resting adapter nowMs w' := by
  refine ⟨resting.toBooked.passes passes, ?_⟩
  obtain ⟨time, later, rfl⟩ := passes
  exact resting.scheduled

theorem Asking.passes (asking : Asking adapter nowMs feed stored w) (passes : w.Passes w') :
    Asking adapter nowMs feed stored w' := by
  refine ⟨asking.toBooked.passes passes, ?_, ?_, ?_⟩
  · obtain ⟨time, later, rfl⟩ := passes
    exact asking.others
  · obtain ⟨time, later, rfl⟩ := passes
    exact fun request member same => (asking.due request member same).trans later
  · obtain ⟨time, later, rfl⟩ := passes
    exact asking.checkpoint

theorem Attempting.passes (attempting : Attempting adapter nowMs feed w) (passes : w.Passes w') :
    Attempting adapter nowMs feed w' := by
  refine ⟨attempting.toBooked.passes passes, ?_, ?_⟩
  · obtain ⟨time, later, rfl⟩ := passes
    exact attempting.others
  · obtain ⟨time, later, rfl⟩ := passes
    exact fun request member same => (attempting.own request member same).imp_left fun due =>
      due.trans later

/-! ### Calls -/

theorem safe_callRss {c : RssCall} {J : RssWorld → Prop}
    {Q : Except Completion c.Reply → RssWorld → Prop} (before : J w)
    (answered : ∀ reply w', RssAnswers w c reply w' → J w' ∧ Q (reply.mapError .thrown) w') :
    (callRss c).safe RssAnswers J Q w := by
  refine ⟨before, fun reply w' step => ?_⟩
  have post := answered reply w' step
  rcases reply with e | value
  · exact post
  · exact post

theorem RssAnswers.passes {c : RssCall} {reply : Except String c.Reply} (quiet : Quiet c)
    (step : RssAnswers w c reply w') : w.Passes w' := by
  cases step with
  | quiet _ passes => exact passes
  | clock later => exact ⟨_, later, rfl⟩
  | waited later => exact quiet.elim
  | random _ _ => exact quiet.elim
  | checkpoint => exact quiet.elim
  | noCheckpoint => exact quiet.elim
  | nextPollAt => exact quiet.elim
  | setNextPollAt => exact quiet.elim
  | nextRequestAt => exact quiet.elim
  | setNextRequestAt => exact quiet.elim
  | parsed _ => exact quiet.elim
  | unparsed _ => exact quiet.elim
  | yielded _ => exact quiet.elim

/-- A part that only takes time. -/
theorem safe_quiet {α : Type} {P : RssWorld → Prop} {R : Except Completion α → Prop}
    {p : RssProgram α} (within : p.Within Quiet R)
    (passes : ∀ w w', P w → w.Passes w' → P w') (law : ∀ w, P w → RssLaw adapter w) (holds : P w) :
    p.safe RssAnswers (RssLaw adapter) (fun outcome w' => R outcome ∧ P w') w :=
  safe_of_within within holds (fun _ quiet _ _ _ holds step => passes _ _ holds (step.passes quiet))
    law

theorem safe_clock {P : RssWorld → Prop} (passes : ∀ w w', P w → w.Passes w' → P w')
    (law : ∀ w, P w → RssLaw adapter w) (holds : P w) :
    (callRss .clock).safe RssAnswers (RssLaw adapter)
      (fun outcome w' => outcome = .ok w'.clock ∧ P w') w := by
  refine safe_callRss (law w holds) fun reply w' step => ?_
  cases step with
  | clock later =>
      have holds' := passes _ _ holds ⟨_, later, rfl⟩
      exact ⟨law _ holds', rfl, holds'⟩
  | quiet quiet _ => exact quiet.elim

/-! ### Schedule -/

theorem safe_isFeedDue (resting : Resting adapter nowMs w) :
    (isFeedDue feed nowMs).safe RssAnswers (RssLaw adapter)
      (fun outcome w' => ∃ due, outcome = .ok due ∧ Resting adapter nowMs w' ∧
        (due = true → Asking adapter nowMs feed w'.lastGuid w')) w := by
  have read : (callRss (.nextPollAt feed.id)).safe RssAnswers (RssLaw adapter)
      (fun outcome w' => outcome = .ok (w.nextPollAt feed.id) ∧ w' = w) w := by
    refine safe_callRss resting.toRssLaw fun reply w' step => ?_
    cases step with
    | nextPollAt => exact ⟨resting.toRssLaw, rfl, rfl⟩
    | quiet quiet _ => exact quiet.elim
  refine safe_bind read (fun _ w' found law => ?_) fun _ _ found _ => nomatch found
  obtain ⟨same, rfl⟩ := found
  cases same
  refine ⟨law, _, rfl, resting, fun due => ⟨resting.toBooked, ?_, ?_, rfl⟩⟩
  · exact fun request member _ => resting.scheduled request member
  · intro request member same
    obtain ⟨time, next, least⟩ := resting.scheduled request member
    rw [same] at next
    rw [next] at due
    have arrived : time ≤ nowMs := by simpa using due
    exact least.trans (arrived.trans resting.begun)

theorem leastDelay_nonneg (feed : FeedConfig) : 0 ≤ leastDelay adapter feed := by
  unfold leastDelay
  split_ifs
  · exact le_max_of_le_left (by omega)
  · exact Int.natCast_nonneg _

theorem leastDelay_le {random : ℚ} (nonneg : 0 ≤ random)
    (jittered : (isEdgar feed && 0 < adapter.edgarPollJitterRatio) = true) :
    leastDelay adapter feed ≤ computeJitteredDelayMs (getFeedPollIntervalMs adapter feed)
      adapter.edgarPollJitterRatio random := by
  have positive : 0 < adapter.edgarPollJitterRatio := by
    simp only [Bool.and_eq_true, decide_eq_true_eq] at jittered
    exact jittered.2
  have scaled : 0 ≤ (getFeedPollIntervalMs adapter feed : ℚ) * adapter.edgarPollJitterRatio :=
    mul_nonneg (Nat.cast_nonneg _) positive.le
  unfold leastDelay computeJitteredDelayMs round
  rw [if_pos jittered]
  refine max_le_max le_rfl (Int.floor_le_floor ?_)
  nlinarith

/-- The delay is at least the shortest one. -/
theorem safe_pollDelay (attempting : Attempting adapter nowMs feed w) :
    (pollDelay adapter feed).safe RssAnswers (RssLaw adapter)
      (fun outcome w' => w' = w ∧ ∃ delay, outcome = .ok delay ∧ leastDelay adapter feed ≤ delay)
      w := by
  unfold pollDelay
  split_ifs with jittered
  · have drawn : (callRss .random).safe RssAnswers (RssLaw adapter)
        (fun outcome w' => w' = w ∧ ∃ random : ℚ, outcome = .ok random ∧ 0 ≤ random) w := by
      refine safe_callRss attempting.toRssLaw fun reply w' step => ?_
      cases step with
      | random nonneg _ => exact ⟨attempting.toRssLaw, rfl, _, rfl, nonneg⟩
      | quiet quiet _ => exact quiet.elim
    refine safe_bind drawn (fun _ w' drawn law => ?_) fun _ _ drawn _ => ?_
    · obtain ⟨rfl, random, same, nonneg⟩ := drawn
      cases same
      exact ⟨law, rfl, _, rfl, leastDelay_le nonneg jittered⟩
    · obtain ⟨_, _, same, _⟩ := drawn
      cases same
  · refine ⟨attempting.toRssLaw, rfl, _, rfl, ?_⟩
    unfold leastDelay
    rw [if_neg jittered]

theorem safe_scheduleNextPoll (attempting : Attempting adapter nowMs feed w) :
    (scheduleNextPoll adapter feed).safe RssAnswers (RssLaw adapter)
      (fun outcome w' => outcome = .ok () ∧ Resting adapter nowMs w') w := by
  refine safe_bind (safe_clock (fun _ _ => Attempting.passes) (fun _ holds => holds.toRssLaw)
    attempting) (fun time w₁ read _ => ?_) fun _ _ read _ => nomatch read
  obtain ⟨same, attempting₁⟩ := read
  cases same
  refine safe_bind (safe_pollDelay attempting₁) (fun delay w₂ chosen _ => ?_) fun _ _ chosen _ => ?_
  · obtain ⟨rfl, _, same, least⟩ := chosen
    cases same
    refine safe_callRss attempting₁.toRssLaw fun reply w₃ step => ?_
    cases step with
    | quiet quiet _ => exact quiet.elim
    | setNextPollAt =>
        have law : RssLaw adapter { w₂ with
            nextPollAt := Function.update w₂.nextPollAt feed.id (some (w₂.clock + delay)) } :=
          ⟨⟨attempting₁.polite.feeds, attempting₁.polite.hosts, attempting₁.polite.configured⟩,
            attempting₁.published⟩
        refine ⟨law, rfl, ⟨law, attempting₁.begun, attempting₁.past, attempting₁.granted,
          attempting₁.near⟩, ?_⟩
        intro request member
        by_cases own : request.1.id = feed.id
        · refine ⟨_, (congrArg _ own).trans (Function.update_self ..), ?_⟩
          rcases attempting₁.own request member own with due | same
          · exact due.trans (le_add_of_nonneg_right ((leastDelay_nonneg feed).trans least))
          · have before := attempting₁.past request member
            rw [same]
            omega
        · obtain ⟨time, next, due⟩ := attempting₁.others request member own
          exact ⟨time, (Function.update_of_ne own ..).trans next, due⟩
  · obtain ⟨_, _, same, _⟩ := chosen
    cases same

/-! ### Requests -/

/-- The feed may be requested now: its host is booked for it and free. -/
structure Ready (adapter : RSSAdapter) (nowMs : ℤ) (feed : FeedConfig) (stored : Option String)
    (w : RssWorld) : Prop extends Asking adapter nowMs feed stored w where
  window : ∀ (host : String) (spacing : ℕ), requestWindow adapter feed = some (host, spacing) →
    w.nextRequestAt host = some (w.clock + spacing) ∧
      ∀ request ∈ w.requests, ∀ spacing' : ℕ, Spaceable adapter host →
        requestWindow adapter request.1 = some (host, spacing') →
          request.2 + (spacing' : ℤ) ≤ w.clock

/-- The host is free. -/
structure Free (adapter : RSSAdapter) (nowMs : ℤ) (feed : FeedConfig) (stored : Option String)
    (host : String) (w : RssWorld) : Prop extends Asking adapter nowMs feed stored w where
  free : Spaceable adapter host → ∀ time, w.nextRequestAt host = some time → time ≤ w.clock

theorem Free.passes {host : String} (free : Free adapter nowMs feed stored host w)
    (passes : w.Passes w') : Free adapter nowMs feed stored host w' := by
  refine ⟨free.toAsking.passes passes, ?_⟩
  obtain ⟨time, later, rfl⟩ := passes
  exact fun spaceable booked next => (free.free spaceable booked next).trans later

/-- Booking a free host makes the feed ready. -/
theorem Free.ready {host : String} {spacing : ℕ} (configured : feed ∈ adapter.feeds)
    (free : Free adapter nowMs feed stored host w)
    (window : requestWindow adapter feed = some (host, spacing)) :
    Ready adapter nowMs feed stored { w with
      nextRequestAt := Function.update w.nextRequestAt host (some (w.clock + spacing)) } := by
  have earlier : ∀ request ∈ w.requests, ∀ spacing' : ℕ, Spaceable adapter host →
      requestWindow adapter request.1 = some (host, spacing') →
        request.2 + (spacing' : ℤ) ≤ w.clock := by
    intro request member spacing' spaceable same
    obtain ⟨time, next, late⟩ := free.granted request member host spacing' spaceable same
    exact late.trans (free.free spaceable time next)
  refine ⟨⟨⟨⟨⟨free.polite.feeds, free.polite.hosts, free.polite.configured⟩, free.published⟩,
    free.begun, free.past, ?_, ?_⟩, free.others, free.due, free.checkpoint⟩, ?_⟩
  · intro request member host' spacing' spaceable same
    by_cases here : host' = host
    · subst here
      refine ⟨_, Function.update_self .., (earlier request member spacing' spaceable same).trans ?_⟩
      exact le_add_of_nonneg_right (Int.natCast_nonneg _)
    · obtain ⟨time, next, late⟩ := free.granted request member host' spacing' spaceable same
      exact ⟨time, (Function.update_of_ne here ..).trans next, late⟩
  · intro host' time spaceable next
    dsimp only at next
    by_cases here : host' = host
    · subst here
      rw [Function.update_self] at next
      cases next
      exact Int.add_le_add_left (spaceable feed configured spacing window) _
    · rw [Function.update_of_ne here] at next
      exact free.near host' time spaceable next
  · intro host' spacing' same
    cases window.symm.trans same
    exact ⟨Function.update_self .., earlier⟩

theorem safe_waitForFeedRequestWindow (configured : feed ∈ adapter.feeds)
    (asking : Asking adapter nowMs feed stored w) :
    (waitForFeedRequestWindow adapter feed).safe RssAnswers (RssLaw adapter)
      (fun outcome w' => outcome = .ok () ∧ Ready adapter nowMs feed stored w') w := by
  unfold waitForFeedRequestWindow
  split
  next none =>
    exact ⟨asking.toRssLaw, rfl, asking, fun _ _ some => nomatch none.symm.trans some⟩
  next host spacing window =>
    refine safe_bind (safe_clock (fun _ _ => Asking.passes) (fun _ holds => holds.toRssLaw) asking)
      (fun now w₁ read _ => ?_) fun _ _ read _ => nomatch read
    obtain ⟨same, asking₁⟩ := read
    cases same
    have read : (callRss (.nextRequestAt host)).safe RssAnswers (RssLaw adapter)
        (fun outcome w' => outcome = .ok (w₁.nextRequestAt host) ∧ w' = w₁) w₁ := by
      refine safe_callRss asking₁.toRssLaw fun reply w' step => ?_
      cases step with
      | nextRequestAt => exact ⟨asking₁.toRssLaw, rfl, rfl⟩
      | quiet quiet _ => exact quiet.elim
    refine safe_bind read (fun nextAllowedAt w₂ found _ => ?_) fun _ _ found _ => nomatch found
    obtain ⟨same, rfl⟩ := found
    cases same
    have waited : (waitAtLeast ((w₂.nextRequestAt host).getD w₂.clock - w₂.clock)).safe RssAnswers
        (RssLaw adapter) (fun outcome w' => outcome = .ok () ∧ Free adapter nowMs feed stored host w')
        w₂ := by
      unfold waitAtLeast
      split_ifs with early
      · refine safe_callRss asking₁.toRssLaw fun reply w' step => ?_
        cases step with
        | quiet quiet _ => exact quiet.elim
        | @waited _ _ time later =>
            have asking' : Asking adapter nowMs feed stored { w₂ with clock := time } := by
              refine asking₁.passes ⟨time, ?_, rfl⟩
              unfold timerMs at later
              split_ifs at later <;> omega
            refine ⟨asking'.toRssLaw, rfl, asking', fun spaceable booked next => ?_⟩
            have next' : w₂.nextRequestAt host = some booked := next
            have near := asking₁.near host booked spaceable next'
            rw [next', Option.getD_some, timerMs, if_pos (by omega)] at later
            change booked ≤ time
            omega
      · refine ⟨asking₁.toRssLaw, rfl, asking₁, fun _ time next => ?_⟩
        rw [next, Option.getD_some] at early
        omega
    refine safe_bind waited (fun _ w₃ waited _ => ?_) fun _ _ waited _ => nomatch waited
    refine safe_bind (safe_clock (fun _ _ => Free.passes) (fun _ holds => holds.toRssLaw) waited.2)
      (fun granted w₄ read _ => ?_) fun _ _ read _ => nomatch read
    obtain ⟨same, free⟩ := read
    cases same
    refine safe_callRss free.toRssLaw fun reply w₅ step => ?_
    cases step with
    | quiet quiet _ => exact quiet.elim
    | setNextRequestAt =>
        have ready := free.ready configured window
        exact ⟨ready.toRssLaw, rfl, ready⟩

/-- A request when the feed is ready. -/
theorem Ready.request (ready : Ready adapter nowMs feed stored w) (configured : feed ∈ adapter.feeds)
    (items : List RssItem) : Attempting adapter nowMs feed (w.request feed items) := by
  have members : ∀ request ∈ (w.request feed items).requests,
      request ∈ w.requests ∨ request = (feed, w.clock) := by
    intro request member
    simpa [RssWorld.request] using member
  have polite : Polite adapter (w.request feed items) := by
    refine ⟨List.pairwise_append.2 ⟨ready.polite.feeds, List.pairwise_singleton .., ?_⟩,
      List.pairwise_append.2 ⟨ready.polite.hosts, List.pairwise_singleton .., ?_⟩, ?_⟩
    · intro request member later last same
      cases List.mem_singleton.1 last
      exact ready.due request member same
    · intro request member later last host spacing spacing' spaceable same same'
      cases List.mem_singleton.1 last
      exact (ready.window host spacing' same').2 request member spacing spaceable same
    · intro request member
      rcases members request member with before | rfl
      · exact ready.polite.configured request before
      · exact configured
  refine ⟨⟨⟨polite, .inl rfl⟩, ready.begun, ?_, ?_, ready.near⟩, ?_, ?_⟩
  · intro request member
    rcases members request member with before | rfl
    · exact ready.past request before
    · exact le_rfl
  · intro request member host spacing spaceable same
    rcases members request member with before | rfl
    · exact ready.granted request before host spacing spaceable same
    · exact ⟨_, (ready.window host spacing same).1, le_rfl⟩
  · intro request member other
    rcases members request member with before | rfl
    · exact ready.others request before other
    · exact absurd rfl other
  · intro request member same
    rcases members request member with before | rfl
    · exact .inl (ready.due request before same)
    · exact .inr rfl

/-! ### Gates -/

theorem within_callRss {c : RssCall} (quiet : Quiet c) :
    (callRss c).Within Quiet fun _ => True :=
  Within.settle (within_call quiet) fun outcome _ => by
    rcases outcome with e | value
    · trivial
    · trivial

theorem within_enrich (item : RssItem) :
    (((adapter.enrichment.enrich (itemSnippet item) item.link minRssContentLength).embed
      enrichmentEmbedding).mapError Completion.thrown).Within Quiet
      fun outcome => ∀ text, outcome = .ok text → OwnText adapter item text := by
  have enriched : (adapter.enrichment.enrich (itemSnippet item) item.link
      minRssContentLength).Within (fun _ => True) fun outcome =>
        ∀ text, outcome = .ok text → OwnText adapter item text := by
    unfold TextEnrichmentStrategy.enrich
    split
    · intro text same _
      exact (Except.ok.inj same).symm
    next fetching =>
      split_ifs with short
      · intro text same _
        exact (Except.ok.inj same).symm
      · rw [Bool.or_eq_true, decide_eq_true_eq, not_or] at short
        refine Within.mono (within_true _) (fun _ _ => trivial) fun outcome _ text _ own => ?_
        rcases own with none | none | long
        · exact nomatch fetching.symm.trans none
        · exact absurd none short.1
        · exact absurd long short.2
  refine Within.settle (enriched.embed fun _ _ => trivial) fun outcome own => ?_
  rcases outcome with e | text
  · exact fun _ same => nomatch same
  · intro other same
    exact own other (congrArg Except.ok (Except.ok.inj same))

theorem lookup_assign {key other : String} {value : Option String} {found : Json}
    {sourceMeta : List (String × Json)} (apart : other ≠ key)
    (there : sourceMeta.lookup other = some found) :
    (assign key value sourceMeta).lookup other = some found := by
  unfold assign
  split
  · have set := Js.Map.get_set key other (.string (by assumption)) sourceMeta
    rw [if_neg apart] at set
    exact set.trans there
  · exact there

/-- A filing that is kept has an allowed form. -/
def Filed (adapter : RSSAdapter) (outcome : Except Completion (Option (List (String × Json)))) :
    Prop :=
  ∀ sourceMeta, outcome = .ok (some sourceMeta) → ∃ formType ∈ adapter.edgarFormsAllowlist,
    sourceMeta.lookup "form_type" = some (.string formType)

theorem within_buildEdgarMetadata (item : RssItem) (title text : String) :
    (buildEdgarMetadata adapter feed item title text).Within Quiet (Filed adapter) := by
  unfold buildEdgarMetadata
  dsimp only
  split
  · exact fun _ same => nomatch same
  next formType found =>
    obtain ⟨_, allowed⟩ := Option.filter_eq_some_iff.1 found
    have member : formType ∈ adapter.edgarFormsAllowlist := of_decide_eq_true allowed
    split
    · have fetched : ((callRss (.fetchEdgarDetailMetadata (item.link.getD ""))).tryCatch
          fun (_ : Completion) => pure none : RssProgram (Option EdgarDetailMetadata)).Within Quiet
          fun _ => True :=
        (within_callRss (c := .fetchEdgarDetailMetadata _) trivial).settle fun outcome _ => by
          rcases outcome with e | detail
          · trivial
          · trivial
      refine fetched.bind (fun detail _ => ?_) fun _ _ _ same => nomatch same
      intro sourceMeta same
      cases same
      refine ⟨formType, member, ?_⟩
      split
      · simp
      · refine lookup_assign (by decide) (lookup_assign (by decide) (lookup_assign (by decide) ?_))
        simp
    · intro sourceMeta same
      cases same
      exact ⟨formType, member, by simp⟩

theorem lookup_feedSourceMeta (guid : String) :
    (feedSourceMeta adapter feed guid).lookup "form_type" = none := by
  unfold feedSourceMeta
  simp only [List.lookup_append]
  split <;> split <;> simp [List.lookup_cons]

theorem within_edgarSourceMeta (item : RssItem) (guid text : String) :
    (edgarSourceMeta adapter feed item guid text).Within Quiet fun outcome =>
      ∀ sourceMeta, outcome = .ok (some sourceMeta) → Described adapter feed guid sourceMeta := by
  unfold edgarSourceMeta
  split_ifs with edgar
  · refine (within_buildEdgarMetadata item _ text).bind (fun edgarMeta filed => ?_)
      fun _ _ _ same => nomatch same
    intro sourceMeta same
    obtain ⟨built, found, rfl⟩ : ∃ built, edgarMeta = some built ∧
        feedSourceMeta adapter feed guid ++ built = sourceMeta := by
      have mapped : edgarMeta.map (fun built => feedSourceMeta adapter feed guid ++ built) =
          some sourceMeta := Except.ok.inj same
      exact Option.map_eq_some_iff.1 mapped
    obtain ⟨formType, member, form⟩ := filed built (congrArg _ found)
    refine ⟨⟨built, rfl, fun other => absurd edgar (by simp [other])⟩, fun _ => ⟨formType, member, ?_⟩⟩
    rw [List.lookup_append, lookup_feedSourceMeta, Option.none_or]
    exact form
  · intro sourceMeta same
    cases same
    exact ⟨⟨[], (List.append_nil _).symm, fun _ => rfl⟩, fun other => absurd other edgar⟩

theorem mem_dedupeTerms {terms seen : List String} {term : String}
    (member : term ∈ dedupeTerms adapter seen terms) : ∃ given ∈ terms, Js.trim given = term := by
  induction terms generalizing seen with
  | nil => nomatch member
  | cons rawTerm rest ih =>
      unfold dedupeTerms at member
      dsimp only at member
      split_ifs at member
      · obtain ⟨given, there, same⟩ := ih member
        exact ⟨given, List.mem_cons_of_mem _ there, same⟩
      · rcases List.mem_cons.1 member with same | later
        · exact ⟨rawTerm, List.mem_cons_self, same.symm⟩
        · obtain ⟨given, there, same⟩ := ih later
          exact ⟨given, List.mem_cons_of_mem _ there, same⟩

theorem watched_of_mem {term : String} (member : term ∈ dedupeEntityTerms adapter
    (feed.entityTerms.getD [] ++ watchlistEntityTerms adapter)) :
    Watched adapter feed (Js.trim term) := by
  obtain ⟨given, there, rfl⟩ := mem_dedupeTerms member
  rw [Js.trim_trim]
  rcases List.mem_append.1 there with own | listed
  · exact ⟨feed, .inl rfl, given, own, rfl⟩
  · obtain ⟨first, origin, rfl⟩ := mem_dedupeTerms listed
    obtain ⟨other, found, term⟩ := List.mem_flatMap.1 origin
    obtain ⟨configured, edgar⟩ := List.mem_filter.1 found
    exact ⟨other, .inr ⟨configured, edgar⟩, first, term, (Js.trim_trim first).symm⟩

theorem gated_of_applyMarketPolicy {content : String} {policy : MarketPolicy}
    (applied : applyMarketPolicy adapter feed content = some policy) :
    Gated adapter feed content policy := by
  unfold applyMarketPolicy at applied
  by_cases gate : feed.marketGate = true
  case neg =>
    rw [if_neg gate] at applied
    cases applied
    exact ⟨fun other => absurd other gate, fun _ => rfl⟩
  refine ⟨fun _ => ?_, fun other => nomatch other.symm.trans gate⟩
  rw [if_pos gate] at applied
  dsimp only at applied
  by_cases unmatched : (MarketFilters.evaluateMarketFilters adapter.filters content
      adapter.marketFilterProfiles).marketProfiles = []
  · rw [if_pos unmatched] at applied
    cases applied
  rw [if_neg unmatched] at applied
  have markets : ∀ key ∈ (MarketFilters.evaluateMarketFilters adapter.filters content
      adapter.marketFilterProfiles).marketProfiles, ∃ profile ∈ adapter.marketFilterProfiles,
      profile.key = key ∧ profile.Matches adapter.filters content :=
    fun key member => MarketFilters.mem_marketProfiles.1 member
  cases tier : inferSignalTier adapter feed with
  | lowVolume =>
      rw [tier] at applied
      cases applied
      exact ⟨unmatched, markets, fun high => nomatch high⟩
  | highVolume =>
      rw [tier] at applied
      dsimp only at applied
      by_cases unnamed : MarketFilters.matchEntityTerms adapter.filters content (dedupeEntityTerms
          adapter (feed.entityTerms.getD [] ++ watchlistEntityTerms adapter)) = []
      · rw [if_pos unnamed] at applied
        cases applied
      rw [if_neg unnamed] at applied
      cases applied
      refine ⟨unmatched, markets, fun _ => ?_⟩
      obtain ⟨term, matched⟩ := List.exists_mem_of_ne_nil _ unnamed
      obtain ⟨nonempty, ⟨given, member, rfl⟩, tested⟩ :=
        MarketFilters.mem_matchEntityTerms.1 matched
      exact ⟨_, nonempty, tested, watched_of_mem member⟩

/-! ### Items -/

/-- Of the items in front of the checkpoint the oldest are done. -/
structure Reading (adapter : RSSAdapter) (nowMs : ℤ) (feed : FeedConfig) (stored : Option String)
    (items : List RssItem) (done : List (RssItem × String)) (w : RssWorld) : Prop
    extends Attempting adapter nowMs feed w where
  checkpoint : w.lastGuid = stored
  listed : w.items = items
  current : ∃ time, w.requests.getLast? = some (feed, time)
  inFront : done <+: (itemsToProcess stored items).reverse
  sent : MadeOf adapter feed done w.yielded

variable {items : List RssItem} {done : List (RssItem × String)}

theorem Reading.passes (reading : Reading adapter nowMs feed stored items done w)
    (passes : w.Passes w') : Reading adapter nowMs feed stored items done w' := by
  refine ⟨reading.toAttempting.passes passes, ?_, ?_, ?_, reading.inFront, ?_⟩ <;>
    obtain ⟨time, later, rfl⟩ := passes
  · exact reading.checkpoint
  · exact reading.listed
  · exact reading.current
  · exact reading.sent

/-- An item that nothing is yielded for. -/
theorem Reading.skip {item : RssItem × String}
    (reading : Reading adapter nowMs feed stored items done w)
    (next : done ++ [item] <+: (itemsToProcess stored items).reverse) :
    Reading adapter nowMs feed stored items (done ++ [item]) w := by
  obtain ⟨chosen, among, made⟩ := reading.sent
  exact ⟨reading.toAttempting, reading.checkpoint, reading.listed, reading.current, next,
    chosen, among.trans (List.sublist_append_left _ _), made⟩

/-- What is made of the oldest items that are done is made of all the items. -/
theorem MadeOf.mono {items items' : List (RssItem × String)} {records : List AdapterRecord}
    (made : MadeOf adapter feed items records) (inFront : items <+: items') :
    MadeOf adapter feed items' records := by
  obtain ⟨chosen, among, made⟩ := made
  exact ⟨chosen, among.trans inFront.sublist, made⟩

theorem Reading.yield {item : RssItem} {guid : String} {record : AdapterRecord}
    (reading : Reading adapter nowMs feed stored items done w)
    (next : done ++ [(item, guid)] <+: (itemsToProcess stored items).reverse)
    (publishable : Publishable adapter feed item guid record) :
    Reading adapter nowMs feed stored items (done ++ [(item, guid)])
      { w with yielded := w.yielded ++ [record] } := by
  have sent : MadeOf adapter feed (done ++ [(item, guid)]) (w.yielded ++ [record]) := by
    obtain ⟨chosen, among, made⟩ := reading.sent
    exact ⟨chosen ++ [(item, guid)], among.append (List.Sublist.refl _),
      List.rel_append made (.cons publishable .nil)⟩
  have published : Published adapter { w with yielded := w.yielded ++ [record] } := by
    obtain ⟨time, current⟩ := reading.current
    refine .inr ⟨_, current, ?_⟩
    dsimp only
    rw [reading.checkpoint, reading.listed]
    exact sent.mono next
  exact ⟨⟨⟨⟨⟨reading.polite.feeds, reading.polite.hosts, reading.polite.configured⟩, published⟩,
    reading.begun, reading.past, reading.granted, reading.near⟩, reading.others, reading.own⟩,
    reading.checkpoint, reading.listed, reading.current, next, sent⟩

theorem safe_yieldRecord {item : RssItem} {guid : String} {record : AdapterRecord}
    (reading : Reading adapter nowMs feed stored items done w)
    (next : done ++ [(item, guid)] <+: (itemsToProcess stored items).reverse)
    (publishable : Publishable adapter feed item guid record) :
    (yieldRecord record).safe RssAnswers (RssLaw adapter)
      (fun _ => Reading adapter nowMs feed stored items (done ++ [(item, guid)])) w := by
  have answered : (callRss (.yield record)).safe RssAnswers (RssLaw adapter)
      (fun _ => Reading adapter nowMs feed stored items (done ++ [(item, guid)])) w := by
    refine safe_callRss reading.toRssLaw fun reply w' step => ?_
    cases step with
    | quiet quiet _ => exact quiet.elim
    | yielded passes =>
        have reading' := (reading.yield next publishable).passes passes
        exact ⟨reading'.toRssLaw, reading'⟩
  refine safe_bind answered (fun resumed w' reading' law => ?_) fun _ _ reading' _ => reading'
  split_ifs
  · exact ⟨law, reading'⟩
  · exact ⟨law, reading'⟩

/-- Normalising the content again, as the record does, leaves it as it is. -/
theorem shows_itemContent (item : RssItem) (guid text fetchedAt : String)
    (sourceMeta : List (String × Json)) (policy : MarketPolicy) :
    Shows adapter feed item guid text (createCollectorSourceRecord {
      content := itemContent adapter feed item guid text fetchedAt sourceMeta policy
      checkpointKey := checkpointKey feed
      checkpointValue := guid }) := by
  have normalized : normalizeCollectorIngestionEvent
      (itemContent adapter feed item guid text fetchedAt sourceMeta policy) =
        itemContent adapter feed item guid text fetchedAt sourceMeta policy :=
    normalizeCollectedContent_create _
  have title : normalizeOptionalString (some (item.title.getD "")) =
      normalizeOptionalString item.title := by
    cases item.title with
    | none =>
        have blank : Js.trim "" = "" := Js.trim_empty
        simp [normalizeOptionalString, blank]
    | some title => rfl
  unfold createCollectorSourceRecord
  dsimp only
  rw [normalized]
  exact ⟨rfl, title, rfl, rfl, rfl, rfl⟩

/-- One item: whatever becomes of it, the feed is still being attempted. -/
theorem safe_processItem {item : RssItem} {guid : String}
    (reading : Reading adapter nowMs feed stored items done w)
    (next : done ++ [(item, guid)] <+: (itemsToProcess stored items).reverse) :
    (processItem adapter feed item guid).safe RssAnswers (RssLaw adapter)
      (fun outcome w' => Attempting adapter nowMs feed w' ∧
        (outcome = .ok () → Reading adapter nowMs feed stored items (done ++ [(item, guid)]) w'))
      w := by
  refine safe_bind (safe_quiet (within_enrich item) (fun _ _ => Reading.passes)
    (fun _ holds => holds.toRssLaw) reading) (fun text w₁ enriched _ => ?_)
    fun _ _ thrown _ => ⟨thrown.2.toAttempting, fun same => nomatch same⟩
  refine safe_bind (safe_quiet (within_edgarSourceMeta item guid text) (fun _ _ => Reading.passes)
    (fun _ holds => holds.toRssLaw) enriched.2) (fun sourceMeta w₂ filed law => ?_)
    fun _ _ thrown _ => ⟨thrown.2.toAttempting, fun same => nomatch same⟩
  obtain ⟨described, reading₂⟩ := filed
  split
  next sourceMeta policy applied =>
    refine safe_bind (safe_quiet (within_callRss (c := .now) trivial) (fun _ _ => Reading.passes)
      (fun _ holds => holds.toRssLaw) reading₂) (fun fetchedAt w₃ told _ => ?_)
      fun _ _ thrown _ => ⟨thrown.2.toAttempting, fun same => nomatch same⟩
    have publishable : Publishable adapter feed item guid (createCollectorSourceRecord {
        content := itemContent adapter feed item guid text fetchedAt sourceMeta policy
        checkpointKey := checkpointKey feed
        checkpointValue := guid }) :=
      ⟨text, fetchedAt, sourceMeta, policy, rfl, shows_itemContent .., enriched.1 text rfl,
        gated_of_applyMarketPolicy applied, described sourceMeta rfl⟩
    refine (safe_yieldRecord told.2 next publishable).mono (fun _ law => law) ?_
    exact fun _ _ _ reading₄ => ⟨reading₄.toAttempting, fun _ => reading₄⟩
  · exact ⟨law, reading₂.toAttempting, fun _ => reading₂.skip next⟩

theorem safe_processItems (rest : List (RssItem × String))
    (reading : Reading adapter nowMs feed stored items done w)
    (whole : done ++ rest = (itemsToProcess stored items).reverse) :
    (processItems adapter feed rest).safe RssAnswers (RssLaw adapter)
      (fun _ => Attempting adapter nowMs feed) w := by
  induction rest generalizing done w with
  | nil => exact ⟨reading.toRssLaw, reading.toAttempting⟩
  | cons first rest ih =>
      have regrouped : (done ++ [first]) ++ rest = (itemsToProcess stored items).reverse := by
        rw [List.append_assoc]
        exact whole
      refine safe_bind (safe_processItem reading ⟨rest, regrouped⟩) (fun _ w' processed _ => ?_)
        fun _ _ processed _ => processed.1
      exact ih (processed.2 rfl) regrouped

/-! ### Feeds and polls -/

theorem within_ignoringErrors {p : RssProgram Unit}
    (within : p.Within Quiet fun _ => True) : (ignoringErrors p).Within Quiet fun _ => True :=
  within.settle fun outcome _ => by
    rcases outcome with e | value
    · trivial
    · trivial

/-- Before anything of a feed is done, nothing of it was yielded. -/
theorem Ready.reading (ready : Ready adapter nowMs feed stored w) (configured : feed ∈ adapter.feeds)
    (items : List RssItem) :
    Reading adapter nowMs feed stored items [] (w.request feed items) where
  toAttempting := ready.request configured items
  checkpoint := ready.checkpoint
  listed := rfl
  current := ⟨w.clock, List.getLast?_concat⟩
  inFront := List.nil_prefix
  sent := ⟨[], List.nil_sublist _, .nil⟩

theorem safe_parseURL (configured : feed ∈ adapter.feeds)
    (ready : Ready adapter nowMs feed stored w) :
    (callRss (.parseURL feed)).safe RssAnswers (RssLaw adapter)
      (fun outcome w' => Attempting adapter nowMs feed w' ∧ ∀ items, outcome = .ok items →
        Reading adapter nowMs feed stored (items.getD []) [] w') w := by
  refine safe_callRss ready.toRssLaw fun reply w' step => ?_
  cases step with
  | quiet quiet _ => exact quiet.elim
  | parsed passes =>
      have reading := (ready.reading configured _).passes passes
      refine ⟨reading.toRssLaw, reading.toAttempting, fun items same => ?_⟩
      cases same
      exact reading
  | unparsed passes =>
      have attempting := (ready.request configured []).passes passes
      exact ⟨attempting.toRssLaw, attempting, fun _ same => nomatch same⟩

theorem safe_requestFeed (configured : feed ∈ adapter.feeds)
    (asking : Asking adapter nowMs feed stored w) :
    (requestFeed adapter feed).safe RssAnswers (RssLaw adapter)
      (fun outcome w' => Attempting adapter nowMs feed w' ∧ ∀ items, outcome = .ok items →
        Reading adapter nowMs feed stored (items.getD []) [] w') w := by
  have requested : (waitForFeedRequestWindow adapter feed >>= fun _ =>
      callRss (.parseURL feed)).safe RssAnswers (RssLaw adapter)
      (fun outcome w' => Attempting adapter nowMs feed w' ∧ ∀ items, outcome = .ok items →
        Reading adapter nowMs feed stored (items.getD []) [] w') w :=
    safe_bind (safe_waitForFeedRequestWindow configured asking)
      (fun _ _ waited _ => safe_parseURL configured waited.2) fun _ _ waited _ => nomatch waited
  refine (safe_settle _ _ _ _ _).2 (requested.mono (fun _ law => law) fun outcome w' law post => ?_)
  rcases outcome with e | items
  · refine safe_bind (safe_quiet (within_ignoringErrors
      (within_callRss (c := .onFeedError feed) trivial)) (fun _ _ => Attempting.passes) (fun _ holds => holds.toRssLaw) post.1)
      (fun _ w'' reported law' => ?_) fun _ _ reported _ => ?_
    · exact ⟨law', reported.2, fun _ same => nomatch same⟩
    · exact ⟨reported.2, fun _ same => nomatch same⟩
  · exact ⟨law, post⟩

theorem safe_fetchFeed (configured : feed ∈ adapter.feeds)
    (asking : Asking adapter nowMs feed stored w) :
    (fetchFeed adapter feed).safe RssAnswers (RssLaw adapter)
      (fun _ => Attempting adapter nowMs feed) w := by
  have read : (callRss (.getCheckpoint rss.name (checkpointKey feed))).safe RssAnswers
      (RssLaw adapter) (fun outcome w' => Attempting adapter nowMs feed w' ∧
        ∀ lastGuid, outcome = .ok lastGuid → Asking adapter nowMs feed lastGuid w') w := by
    refine safe_callRss asking.toRssLaw fun reply w' step => ?_
    cases step with
    | quiet quiet _ => exact quiet.elim
    | noCheckpoint =>
        exact ⟨asking.toRssLaw, asking.attempting, fun _ same => nomatch same⟩
    | @checkpoint _ _ _ lastGuid =>
        have law : RssLaw adapter { w with lastGuid := lastGuid, items := [], yielded := [] } :=
          ⟨⟨asking.polite.feeds, asking.polite.hosts, asking.polite.configured⟩, .inl rfl⟩
        have asking' : Asking adapter nowMs feed lastGuid
            { w with lastGuid := lastGuid, items := [], yielded := [] } :=
          ⟨⟨law, asking.begun, asking.past, asking.granted, asking.near⟩, asking.others, asking.due,
            rfl⟩
        refine ⟨law, asking'.attempting, fun _ same => ?_⟩
        cases same
        exact asking'
  refine safe_bind read (fun lastGuid w₁ found _ => ?_) fun _ _ found _ => found.1
  refine safe_bind (safe_requestFeed configured (found.2 lastGuid rfl)) (fun parsedFeed w₂ post _ => ?_)
    fun _ _ post _ => post.1
  refine safe_bind (safe_quiet (within_ignoringErrors
    (within_callRss (c := .onFeedSuccess feed (parsedFeed.getD []).length) trivial)) (fun _ _ => Reading.passes) (fun _ holds => holds.toRssLaw)
    (post.2 parsedFeed rfl)) (fun _ w₃ reported _ => ?_) fun _ _ reported _ => ?_
  · exact safe_processItems _ reported.2 rfl
  · exact reported.2.toAttempting

/-- The next poll of a feed is scheduled whatever became of the attempt. -/
theorem safe_attemptFeed (configured : feed ∈ adapter.feeds)
    (asking : Asking adapter nowMs feed stored w) :
    (attemptFeed adapter feed).safe RssAnswers (RssLaw adapter)
      (fun _ => Resting adapter nowMs) w := by
  refine (safe_settle _ _ _ _ _).2 ((safe_fetchFeed configured asking).mono (fun _ law => law)
    fun outcome w' _ attempting => ?_)
  refine safe_bind (safe_scheduleNextPoll attempting) (fun _ w'' scheduled law => ?_)
    fun _ _ scheduled _ => nomatch scheduled
  split
  · exact ⟨law, scheduled.2⟩
  · exact ⟨law, scheduled.2⟩
  · exact ⟨law, scheduled.2⟩

theorem safe_fetchFeeds (feeds : List FeedConfig) (configured : ∀ feed ∈ feeds, feed ∈ adapter.feeds)
    (attempted failed : ℕ) (resting : Resting adapter nowMs w) :
    (fetchFeeds adapter nowMs feeds attempted failed).safe RssAnswers (RssLaw adapter)
      (fun _ => Resting adapter nowMs) w := by
  induction feeds generalizing attempted failed w with
  | nil => exact ⟨resting.toRssLaw, resting⟩
  | cons feed feeds ih =>
      have others : ∀ feed ∈ feeds, feed ∈ adapter.feeds :=
        fun feed member => configured feed (List.mem_cons_of_mem _ member)
      refine safe_bind (safe_isFeedDue resting) (fun due w₁ read _ => ?_) fun _ _ read _ => ?_
      · obtain ⟨_, same, resting₁, asking⟩ := read
        cases same
        split_ifs with due
        · refine safe_bind (safe_attemptFeed (configured feed List.mem_cons_self) (asking due))
            (fun failure w₂ resting₂ _ => ?_) fun _ _ resting₂ _ => resting₂
          exact ih others _ _ resting₂
        · exact ih others _ _ resting₁
      · obtain ⟨_, same, _⟩ := read
        cases same

/-- Between two polls. -/
abbrev Idle (adapter : RSSAdapter) (w : RssWorld) : Prop := Resting adapter w.clock w

theorem Resting.idle (resting : Resting adapter nowMs w) : Idle adapter w :=
  ⟨⟨resting.toRssLaw, le_rfl, resting.past, resting.granted, resting.near⟩, resting.scheduled⟩

theorem safe_fetch (idle : Idle adapter w) :
    (fetch adapter).safe RssAnswers (RssLaw adapter) (fun _ => Idle adapter) w := by
  refine safe_bind (safe_clock (fun _ _ idle passes => (Resting.passes idle passes).idle)
    (fun _ (idle : Idle adapter _) => idle.toRssLaw) idle) (fun nowMs w₁ read _ => ?_)
    fun _ _ read _ => nomatch read
  obtain ⟨same, idle₁⟩ := read
  cases same
  refine safe_bind (safe_fetchFeeds adapter.feeds (fun _ member => member) 0 0 idle₁)
    (fun counts w₂ resting law => ?_) fun _ _ resting _ => resting.idle
  dsimp only
  split_ifs
  · exact ⟨law, resting.idle⟩
  · exact ⟨law, resting.idle⟩

theorem safe_polls (count : ℕ) (idle : Idle adapter w) :
    (polls adapter count).safe RssAnswers (RssLaw adapter) (fun _ => Idle adapter) w := by
  induction count generalizing w with
  | zero => exact ⟨idle.toRssLaw, idle⟩
  | succ count ih =>
      exact (safe_settle _ _ _ _ _).2 ((safe_fetch idle).mono (fun _ law => law)
        fun _ _ _ idle' => ih idle')

/-- Before the first poll. -/
structure Unstarted (w : RssWorld) : Prop where
  unrequested : w.requests = []
  unbooked : ∀ host, w.nextRequestAt host = none
  unsent : w.yielded = []

theorem Unstarted.idle (unstarted : Unstarted w) : Idle adapter w where
  polite := by
    refine ⟨?_, ?_, ?_⟩
    · simp [unstarted.unrequested]
    · simp [unstarted.unrequested]
    · simp [unstarted.unrequested]
  published := .inl unstarted.unsent
  begun := le_rfl
  past := by simp [unstarted.unrequested]
  granted := by simp [unstarted.unrequested]
  near host _ _ booked := nomatch (unstarted.unbooked host).symm.trans booked
  scheduled := by simp [unstarted.unrequested]

theorem safe_firstSchedules (feeds : List FeedConfig) (now : ℤ) (unstarted : Unstarted w) :
    (initialize_ feeds now).safe RssAnswers (RssLaw adapter)
      (fun outcome w' => outcome = .ok () ∧ Unstarted w') w := by
  induction feeds generalizing w with
  | nil => exact ⟨unstarted.idle.toRssLaw, rfl, unstarted⟩
  | cons feed feeds ih =>
      have set : (callRss (.setNextPollAt feed.id now)).safe RssAnswers (RssLaw adapter)
          (fun outcome w' => outcome = .ok () ∧ Unstarted w') w := by
        refine safe_callRss unstarted.idle.toRssLaw fun reply w' step => ?_
        cases step with
        | quiet quiet _ => exact quiet.elim
        | setNextPollAt =>
            have unstarted' : Unstarted { w with
                nextPollAt := Function.update w.nextPollAt feed.id (some now) } :=
              ⟨unstarted.unrequested, unstarted.unbooked, unstarted.unsent⟩
            exact ⟨unstarted'.idle.toRssLaw, rfl, unstarted'⟩
      exact safe_bind set (fun _ w' set _ => ih set.2) fun _ _ set _ => nomatch set

end Phases

/-- From the initialisation on, the law holds at every call of every run. -/
theorem run_law (count : ℕ) (clock : ℤ) :
    (run adapter count).safe RssAnswers (RssLaw adapter) (fun _ => RssLaw adapter)
      (RssWorld.start clock) := by
  have unstarted : Unstarted (RssWorld.start clock) := ⟨rfl, fun _ => rfl, rfl⟩
  have passes : ∀ w w', Unstarted w → w.Passes w' → Unstarted w' := by
    intro w w' unstarted passed
    rcases passed with ⟨time, _, rfl⟩
    exact ⟨unstarted.unrequested, unstarted.unbooked, unstarted.unsent⟩
  refine safe_bind (safe_clock passes (fun _ holds => holds.idle.toRssLaw) unstarted)
    (fun now w₁ told _ => ?_) fun _ _ told _ => nomatch told.1
  refine safe_bind (safe_firstSchedules adapter.feeds now told.2) (fun _ w₂ set law => ?_)
    fun _ _ set _ => nomatch set
  exact (safe_polls count set.2.idle).mono (fun _ law => law) fun _ _ law _ => law

end RisingIntelligence.Collector.Rss
