import RisingIntelligence.Collector.HackerNews
import Mathlib.Logic.Relation

/-!
# New stories are not lost

What one poll of the Hacker News adapter in `new` mode guarantees about the checkpoint, whatever
the service lists and answers and wherever the poll is cut off.

* `Progressed` is the invariant of the loop over the ids, `LoopEnd` what it leaves.
* `poll_law` is the law of one poll, `newStories_law` its run over any number of polls.
* `failed_story_starved`: a failed id is asked for again only where few listed ids stand before it.
-/

namespace RisingIntelligence.Collector.HackerNews

open Async PollWorld

variable {settings : Settings}

/-! ## What a trace says -/

/-- The requests that decide what a poll sees. -/
inductive Request : Type
  | list
  | item (storyId : Int)
  deriving DecidableEq

def requestOf : PollCall CollectedContent adapterApi → Option Request
  | .api (.fetchStoryIds _) => some .list
  | .api (.fetchItem storyId) => some (.item storyId)
  | _ => none

def requests (events : List AdapterEvent) : List Request :=
  events.filterMap fun event => requestOf event.call

/-- The story was fetched and turned into content without error, and the content was handed to
ingestion. -/
def Handled (settings : Settings) (storyId : Int) (events : List AdapterEvent) : Prop :=
  ∃ before segment after outcome, events = before ++ segment ++ after ∧
    (fetchStory settings storyId).Recorded (.ok outcome) segment ∧
    ∀ content, outcome = .processed (some content) →
      ∃ reply, ⟨.collector (.ingest (normalizeCollectorIngestionEvent content)), reply⟩ ∈ after

theorem requests_append (first second : List AdapterEvent) :
    requests (first ++ second) = requests first ++ requests second :=
  List.filterMap_append

theorem requests_eq_nil {events : List AdapterEvent}
    (quiet : ∀ event ∈ events, requestOf event.call = none) : requests events = [] :=
  List.filterMap_eq_nil_iff.2 quiet

theorem Handled.append {storyId : Int} {events : List AdapterEvent}
    (handled : Handled settings storyId events) (more : List AdapterEvent) :
    Handled settings storyId (events ++ more) := by
  obtain ⟨before, segment, after, outcome, rfl, recorded, ingested⟩ := handled
  refine ⟨before, segment, after ++ more, outcome, by simp, recorded, ?_⟩
  intro content produced
  obtain ⟨reply, found⟩ := ingested content produced
  exact ⟨reply, List.mem_append_left _ found⟩

/-- Neither a request nor a store. -/
def Quiet (c : PollCall CollectedContent adapterApi) : Prop :=
  stores c = false ∧ requestOf c = none

theorem enrich_quiet (strategy : TextEnrichmentStrategy) (text : String) (url : Option String)
    (minLength : Nat) : (strategy.enrich text url minLength).Within Quiet fun _ => True := by
  cases strategy with
  | noop => trivial
  | articleFetch =>
      simp only [TextEnrichmentStrategy.enrich]
      split
      · trivial
      · apply (Program.within_call ⟨rfl, rfl⟩).calls_bind
        intro article
        split
        · trivial
        · trivial

theorem publishedAtOf_quiet (item : HNItem) :
    (publishedAtOf settings item).Within Quiet fun _ => True := by
  unfold publishedAtOf
  split
  · trivial
  · split
    · trivial
    · trivial

theorem itemToCollectedContent_quiet (item : HNItem) :
    (itemToCollectedContent settings item).Within Quiet fun _ => True := by
  unfold itemToCollectedContent
  split
  · trivial
  · apply (enrich_quiet _ _ _ _).calls_bind
    intro enriched
    apply (Program.within_call ⟨rfl, rfl⟩).calls_bind
    intro fetchedAt
    exact (publishedAtOf_quiet item).calls_bind fun _ => trivial

theorem storyOf_quiet (item : Option HNItem) :
    (storyOf settings item).Within Quiet fun _ => True := by
  unfold storyOf
  split
  · trivial
  · split
    · trivial
    · exact (itemToCollectedContent_quiet _).calls_bind fun _ => trivial

theorem fetchStory_quiet (storyId : Int) :
    (fetchStory settings storyId).Within (stores · = false) fun _ => True := by
  have fetches : (callApi (.fetchItem storyId)).Within (stores · = false) fun _ => True :=
    ⟨rfl, fun _ => trivial⟩
  apply fetches.calls_bind
  intro item
  exact (storyOf_quiet item).mono (fun _ quiet => quiet.1) fun _ _ => trivial

theorem fetchStory_requests {storyId : Int} {outcome : Except String StoryOutcome}
    {events : List AdapterEvent} (recorded : (fetchStory settings storyId).Recorded outcome events) :
    requests events = [.item storyId] := by
  have quiet : ∀ reply : Except String (Option HNItem),
      (Program.onOk (storyOf settings) reply).Within Quiet fun _ => True := by
    rintro (error | item)
    · trivial
    · exact storyOf_quiet item
  cases recorded with
  | await reply rest =>
      have calls := (rest.within (quiet reply)).2
      have none := requests_eq_nil fun event found => (calls event found).2
      exact congrArg (Request.item storyId :: ·) none

/-! ## The loop over the ids -/

/-- Where the loop stands once the ids `done` have been processed; it started in `w₀`. -/
structure Progressed (settings : Settings) (lastMaxId : Int) (w₀ : AdapterWorld) (done : List Int)
    (state : CheckpointProgressState) (progress : PollProgress) (w : AdapterWorld) : Prop where
  rows : w.checkpoints = w₀.checkpoints
  events : ∃ events, w.trace = w₀.trace ++ events ∧ requests events = done.map .item ∧
    ∀ storyId ∈ done, storyId ≤ state.cursor → Handled settings storyId events
  cursor : state.cursor = lastMaxId ∨ state.cursor ∈ done
  /-- Until a story throws, the cursor is at the last id. -/
  unblocked : state.blocked = false → ∀ storyId ∈ done, storyId ≤ state.cursor
  /-- The checkpoint of the last ingested record is not ahead of the cursor. -/
  ingested : progress.lastCheckpointKey = none ∨ ∃ n,
    progress.lastCheckpointKey = some checkpointKey ∧
    progress.lastCheckpointValue = some (toString n) ∧ (n = lastMaxId ∨ n ∈ done) ∧ n ≤ state.cursor

/-- What the loop over `candidates` leaves: every candidate up to the checkpoint to be stored
was handled, and only a shutdown keeps a candidate from being fetched. -/
structure LoopEnd (settings : Settings) (lastMaxId : Int) (candidates : List Int)
    (w₀ : AdapterWorld) (progress : PollProgress) (w : AdapterWorld) : Prop where
  rows : w.checkpoints = w₀.checkpoints
  events : ∃ events, w.trace = w₀.trace ++ events ∧
    (∃ done, done <+: candidates ∧ requests events = done.map .item ∧
      (done = candidates ∨ ⟨.collector .shutdownRequested, .ok true⟩ ∈ events)) ∧
    (progress.lastCheckpointKey = none ∨ ∃ n,
      progress.lastCheckpointKey = some checkpointKey ∧
      progress.lastCheckpointValue = some (toString n) ∧ (n = lastMaxId ∨ n ∈ candidates) ∧
      ∀ storyId ∈ candidates, storyId ≤ n → Handled settings storyId events)

/-- Ids in the order they are processed, all above the checkpoint. -/
structure Ascending (lastMaxId : Int) (candidates : List Int) : Prop where
  above : ∀ storyId ∈ candidates, lastMaxId < storyId
  sorted : candidates.Pairwise (· < ·)

section Loop

variable {lastMaxId : Int} {w₀ w w' : AdapterWorld} {done rest : List Int} {storyId : Int}
  {state : CheckpointProgressState} {progress : PollProgress}

theorem Progressed.unstored (at' : Progressed settings lastMaxId w₀ done state progress w) :
    Unstored w₀ w := by
  obtain ⟨events, trace, _⟩ := at'.events
  exact ⟨at'.rows, by rw [trace]; exact List.prefix_append _ _⟩

theorem Ascending.cursor_lt {others : List Int} (ascending : Ascending lastMaxId (done ++ others))
    (at' : Progressed settings lastMaxId w₀ done state progress w) {other : Int}
    (ahead : other ∈ others) : state.cursor < other := by
  rcases at'.cursor with same | found
  · rw [same]
    exact ascending.above other (List.mem_append_right _ ahead)
  · exact (List.pairwise_append.1 ascending.sorted).2.2 _ found _ ahead

/-- Calls between two ids change nothing. -/
theorem Progressed.quiet (at' : Progressed settings lastMaxId w₀ done state progress w)
    (rows : w'.checkpoints = w.checkpoints) {events : List AdapterEvent}
    (trace : w'.trace = w.trace ++ events) (silent : requests events = []) :
    Progressed settings lastMaxId w₀ done state progress w' := by
  obtain ⟨before, trace', requested, handled⟩ := at'.events
  exact {
    rows := rows.trans at'.rows
    events := by
      refine ⟨before ++ events, by rw [trace, trace', List.append_assoc], ?_, ?_⟩
      · rw [requests_append, requested, silent, List.append_nil]
      · exact fun storyId found below => (handled storyId found below).append events
    cursor := at'.cursor
    unblocked := at'.unblocked
    ingested := at'.ingested }

/-- An id whose story threw: the cursor stays, and from now on it is blocked. -/
theorem Progressed.failed (ascending : Ascending lastMaxId (done ++ storyId :: rest))
    (at' : Progressed settings lastMaxId w₀ done state progress w)
    (rows : w'.checkpoints = w.checkpoints) {events : List AdapterEvent}
    (trace : w'.trace = w.trace ++ events) (requested : requests events = [.item storyId]) :
    Progressed settings lastMaxId w₀ (done ++ [storyId]) (onStoryFetchFailure state) progress w' := by
  have ahead : state.cursor < storyId := ascending.cursor_lt at' (by simp)
  obtain ⟨before, trace', requested', handled⟩ := at'.events
  exact {
    rows := rows.trans at'.rows
    events := by
      refine ⟨before ++ events, by rw [trace, trace', List.append_assoc], ?_, ?_⟩
      · rw [requests_append, requested, requested', List.map_append]
        rfl
      · intro other found below
        have below : other ≤ state.cursor := below
        rcases List.mem_append.1 found with old | new
        · exact (handled other old below).append events
        · have same : other = storyId := by simpa using new
          omega
    cursor := at'.cursor.imp_right (List.mem_append_left _)
    unblocked := by
      intro impossible
      cases impossible
    ingested := at'.ingested.imp_right fun ⟨n, key, value, origin, below⟩ =>
      ⟨n, key, value, origin.imp_right (List.mem_append_left _), below⟩ }

/-- An id whose story was handled: the cursor advances to it unless it is blocked. -/
theorem Progressed.processed (ascending : Ascending lastMaxId (done ++ storyId :: rest))
    (at' : Progressed settings lastMaxId w₀ done state progress w)
    (rows : w'.checkpoints = w.checkpoints) {events : List AdapterEvent}
    (trace : w'.trace = w.trace ++ events) (requested : requests events = [.item storyId])
    (handled : Handled settings storyId events) {progress' : PollProgress}
    (stored : progress' = progress ∨
      progress'.lastCheckpointKey = some checkpointKey ∧
      progress'.lastCheckpointValue = some (toString (onStoryProcessed state storyId).cursor)) :
    Progressed settings lastMaxId w₀ (done ++ [storyId]) (onStoryProcessed state storyId)
      progress' w' := by
  have ahead : state.cursor < storyId := ascending.cursor_lt at' (by simp)
  have advance : (onStoryProcessed state storyId).cursor = state.cursor ∧ state.blocked = true ∨
      (onStoryProcessed state storyId).cursor = storyId ∧ state.blocked = false := by
    cases blocked : state.blocked
    · exact .inr ⟨by simp [onStoryProcessed, blocked], rfl⟩
    · exact .inl ⟨by simp [onStoryProcessed, blocked], rfl⟩
  have cursor : (onStoryProcessed state storyId).cursor = lastMaxId ∨
      (onStoryProcessed state storyId).cursor ∈ done ++ [storyId] := by
    rcases advance with ⟨same, _⟩ | ⟨same, _⟩
    · rw [same]
      exact at'.cursor.imp_right (List.mem_append_left _)
    · exact .inr (by simp [same])
  obtain ⟨before, trace', requested', handled'⟩ := at'.events
  exact {
    rows := rows.trans at'.rows
    events := by
      refine ⟨before ++ events, by rw [trace, trace', List.append_assoc], ?_, ?_⟩
      · rw [requests_append, requested, requested', List.map_append]
        rfl
      · intro other found below
        rcases List.mem_append.1 found with old | new
        · apply (handled' other old ?_).append
          rcases advance with ⟨same, _⟩ | ⟨same, unblocked⟩
          · omega
          · exact at'.unblocked unblocked other old
        · obtain rfl : other = storyId := by simpa using new
          obtain ⟨first, segment, after, outcome, rfl, recorded, ingested⟩ := handled
          exact ⟨before ++ first, segment, after, outcome, by simp, recorded, ingested⟩
    cursor
    unblocked := by
      intro unblocked other found
      rcases advance with ⟨_, blocked⟩ | ⟨same, was⟩
      · simp [onStoryProcessed, blocked] at unblocked
      · rw [same]
        rcases List.mem_append.1 found with old | new
        · have := at'.unblocked was other old
          omega
        · have : other = storyId := by simpa using new
          omega
    ingested := by
      rcases stored with rfl | ⟨key, value⟩
      · refine at'.ingested.imp_right fun ⟨n, key, value, origin, below⟩ => ?_
        refine ⟨n, key, value, origin.imp_right (List.mem_append_left _), ?_⟩
        rcases advance with ⟨same, _⟩ | ⟨same, _⟩
        · omega
        · omega
      · exact .inr ⟨_, key, value, cursor, le_refl _⟩ }

/-- All ids are processed. -/
theorem Progressed.ended (at' : Progressed settings lastMaxId w₀ done state progress w) :
    LoopEnd settings lastMaxId done w₀ progress w := by
  obtain ⟨events, trace, requested, handled⟩ := at'.events
  exact ⟨at'.rows, events, trace, ⟨done, List.prefix_refl _, requested, .inl rfl⟩,
    at'.ingested.imp_right fun ⟨n, key, value, origin, below⟩ =>
      ⟨n, key, value, origin, fun other found le => handled other found (le_trans le below)⟩⟩

/-- The body broke on the record of `storyId`, so the checkpoint to be stored is an earlier one. -/
theorem Progressed.broke (ascending : Ascending lastMaxId (done ++ storyId :: rest))
    (at' : Progressed settings lastMaxId w₀ done state progress w)
    (rows : w'.checkpoints = w.checkpoints) {events : List AdapterEvent}
    (trace : w'.trace = w.trace ++ events ++ [⟨.collector .shutdownRequested, .ok true⟩])
    (requested : requests events = [.item storyId]) :
    LoopEnd settings lastMaxId (done ++ storyId :: rest) w₀ progress w' := by
  obtain ⟨before, trace', requested', handled⟩ := at'.events
  refine ⟨rows.trans at'.rows, before ++ events ++ [⟨.collector .shutdownRequested, .ok true⟩],
    by rw [trace, trace']; simp, ⟨done ++ [storyId], ⟨rest, by simp⟩, ?_, .inr (by simp)⟩, ?_⟩
  · have silent : requests [⟨.collector .shutdownRequested, .ok true⟩] = [] := rfl
    rw [requests_append, requests_append, requested, requested', silent, List.map_append,
      List.append_nil]
    rfl
  · refine at'.ingested.imp_right fun ⟨n, key, value, origin, below⟩ => ?_
    refine ⟨n, key, value, origin.imp_right (List.mem_append_left _), ?_⟩
    intro other found le
    rcases List.mem_append.1 found with old | new
    · exact ((handled other old (le_trans le below)).append _).append _
    · have := ascending.cursor_lt at' new
      omega

/-! ## One id -/

/-- What the `try` statement for `storyId` leaves. -/
def StoryEnd (settings : Settings) (lastMaxId : Int) (w₀ : AdapterWorld) (done : List Int)
    (storyId : Int) (rest : List Int) (consumed : Consumed String BodyEnd PollProgress)
    (w : AdapterWorld) : Prop :=
  match consumed with
  | .broke progress => LoopEnd settings lastMaxId (done ++ storyId :: rest) w₀ progress w
  | .ended (.ok (.skip state)) progress | .ended (.ok (.finish state)) progress =>
      Progressed settings lastMaxId w₀ (done ++ [storyId]) state progress w
  | .ended (.error _) _ => False

/-- The `try` statement after the story was fetched. -/
def afterStory (storyId : Int) (state : CheckpointProgressState) :
    Except String StoryOutcome → AdapterGenerator BodyEnd
  | .ok .noStory => pure (.skip (onStoryProcessed state storyId))
  | .ok (.processed none) => pure (.finish (onStoryProcessed state storyId))
  | .ok (.processed (some content)) =>
      .yield (createCollectorSourceRecord {
        content
        checkpointKey
        checkpointValue := toString (onStoryProcessed state storyId).cursor })
        (pure (.finish (onStoryProcessed state storyId)))
  | .error _ => pure (.finish (onStoryFetchFailure state))

theorem tryStory_eq (storyId : Int) (state : CheckpointProgressState) :
    tryStory settings storyId state =
      (Generator.ofProgram (fetchStory settings storyId)).settle (afterStory storyId state) := by
  unfold tryStory Generator.tryCatch
  refine (Generator.settle_settle _ _ _).trans (congrArg _ ?_)
  funext outcome
  rcases outcome with error | (_ | _ | content)
  · rfl
  · rfl
  · rfl
  · rfl

theorem handled_of_recorded {outcome : StoryOutcome} {segment : List AdapterEvent}
    (after : List AdapterEvent) (recorded : (fetchStory settings storyId).Recorded (.ok outcome) segment)
    (ingested : ∀ content, outcome = .processed (some content) →
      ∃ reply, ⟨.collector (.ingest (normalizeCollectorIngestionEvent content)), reply⟩ ∈ after) :
    Handled settings storyId (segment ++ after) :=
  ⟨[], segment, after, outcome, by simp, recorded, ingested⟩

theorem tryStory_safe (ascending : Ascending lastMaxId (done ++ storyId :: rest))
    (at' : Progressed settings lastMaxId w₀ done state progress w) :
    ((tryStory settings storyId state).consume processRecord progress).safe (handler hackerNews)
      (Unstored w₀)
      (fun outcome w' => ∀ consumed, outcome = .ok consumed →
        StoryEnd settings lastMaxId w₀ done storyId rest consumed w') w := by
  rw [tryStory_eq]
  apply Generator.safe_consume_settle
    (consume_ofProgram_safe (fetchStory_quiet storyId) at'.unstored progress)
  · rintro result _ w' ⟨_, segment, ⟨⟩, recorded, rows, trace⟩ unstored
    have requested := fetchStory_requests recorded
    rcases result with error | (_ | _ | content)
    · refine ⟨unstored, ?_⟩
      rintro _ ⟨⟩
      exact at'.failed ascending rows trace requested
    · refine ⟨unstored, ?_⟩
      rintro _ ⟨⟩
      have handled := handled_of_recorded [] recorded (by simp)
      exact at'.processed ascending rows trace requested (by simpa using handled) (.inl rfl)
    · refine ⟨unstored, ?_⟩
      rintro _ ⟨⟩
      have handled := handled_of_recorded [] recorded (by simp)
      exact at'.processed ascending rows trace requested (by simpa using handled) (.inl rfl)
    · apply consume_yield_safe unstored
      · intro batchCount status w'' rows' trace'
        have later : Unstored w₀ w'' := unstored.trans
          ⟨rows', by rw [trace']; exact List.prefix_append _ _⟩
        refine ⟨later, ?_⟩
        rintro _ ⟨⟩
        have handled := handled_of_recorded [⟨.collector .shutdownRequested, .ok false⟩,
            ⟨.collector (.ingest (normalizeCollectorIngestionEvent content)), .ok status⟩] recorded
          fun other same => ⟨.ok status, by cases same; simp⟩
        apply at'.processed ascending (rows'.trans rows)
          (by rw [trace', trace, List.append_assoc]; rfl) ?_ handled (.inr ⟨rfl, rfl⟩)
        rw [requests_append, requested]
        rfl
      · intro w'' rows' trace'
        rintro _ ⟨⟩
        exact at'.broke ascending (rows'.trans rows) (by rw [trace', trace]) requested
      · exact fun error w'' _ same => by cases same
  · rintro _ w' ⟨result, segment, same, _⟩
    cases same
  · rintro error w' ⟨result, segment, same, _⟩
    cases same

theorem delay_safe (at' : Progressed settings lastMaxId w₀ done state progress w) :
    (delayBetweenStoryRequests.consume processRecord progress).safe (handler hackerNews)
      (Unstored w₀)
      (fun outcome w' => ∃ result, outcome = .ok (.ended result progress) ∧
        Progressed settings lastMaxId w₀ done state progress w') w := by
  have quiet : (callApi .delay).Within (stores · = false) fun _ => True := ⟨rfl, fun _ => trivial⟩
  apply (consume_ofProgram_safe quiet at'.unstored progress).mono (fun _ holds => holds)
  rintro outcome w' _ ⟨result, events, rfl, recorded, rows, trace⟩
  refine ⟨result, rfl, at'.quiet rows trace ?_⟩
  cases recorded with
  | await reply rest =>
      cases rest
      rfl

/-- The loop over the ids, from any point of it. -/
theorem processStories_safe (rest : List Int) (done : List Int) (state : CheckpointProgressState)
    (progress : PollProgress) (w : AdapterWorld) (ascending : Ascending lastMaxId (done ++ rest))
    (at' : Progressed settings lastMaxId w₀ done state progress w) :
    ((processStories settings rest state).consume processRecord progress).safe (handler hackerNews)
      (Unstored w₀)
      (fun outcome w' => ∀ progress',
        outcome = .ok (.broke progress') ∨ outcome = .ok (.ended (.ok ()) progress') →
        LoopEnd settings lastMaxId (done ++ rest) w₀ progress' w') w := by
  induction rest generalizing done state progress w with
  | nil =>
      refine ⟨at'.unstored, ?_⟩
      intro progress' last
      rcases last with same | same
      · cases same
      · cases same
        rw [List.append_nil]
        exact at'.ended
  | cons storyId rest ih =>
      have regroup : done ++ storyId :: rest = done ++ [storyId] ++ rest := by simp
      have onward : ∀ state progress w,
          Progressed settings lastMaxId w₀ (done ++ [storyId]) state progress w →
          ((processStories settings rest state).consume processRecord progress).safe
            (handler hackerNews) (Unstored w₀)
            (fun outcome w' => ∀ progress',
              outcome = .ok (.broke progress') ∨ outcome = .ok (.ended (.ok ()) progress') →
              LoopEnd settings lastMaxId (done ++ storyId :: rest) w₀ progress' w') w := by
        intro state progress w next
        rw [regroup]
        exact ih (done ++ [storyId]) state progress w (regroup ▸ ascending) next
      apply Generator.safe_consume_settle (tryStory_safe ascending at')
      · intro result progress₁ w₁ story unstored
        rcases result with error | bodyEnd
        · exact (story _ rfl).elim
        · cases bodyEnd with
          | skip state₁ => exact onward state₁ progress₁ w₁ (story _ rfl)
          | finish state₁ =>
              apply Generator.safe_consume_settle (delay_safe (story _ rfl))
              · rintro delayed _ w₂ ⟨_, ⟨⟩, next⟩ visited
                rcases delayed with error | _
                · refine ⟨visited, ?_⟩
                  intro progress' last
                  rcases last with same | same
                  · cases same
                  · cases same
                · exact onward state₁ progress₁ w₂ next
              · rintro _ w₂ ⟨_, same, _⟩
                cases same
              · rintro error w₂ ⟨_, same, _⟩
                cases same
      · intro progress₁ w₁ story progress' last
        rcases last with same | same
        · cases same
          exact story _ rfl
        · cases same
      · intro error w₁ _ progress' last
        rcases last with same | same
        · cases same
        · cases same

end Loop

/-! ## The selected ids -/

theorem parseCheckpointValue_nonneg (value : Option String) : 0 ≤ parseCheckpointValue value := by
  unfold parseCheckpointValue
  split
  · split
    · exact le_refl 0
    · omega
  · exact le_refl 0

/-- A stored cursor reads back. -/
theorem parseCheckpointValue_toString {n : Int} (nonneg : 0 ≤ n) :
    parseCheckpointValue (some (toString n)) = n := by
  obtain ⟨k, rfl⟩ := Int.eq_ofNat_of_zero_le nonneg
  have read := Js.parseInt10_toString k
  simp only [parseCheckpointValue, Option.getD_some, read]
  rw [if_neg (by omega)]

section Selection

variable {storyIds : List Int} {maxItems lastMaxId storyId : Int}

/-- The listed ids above the checkpoint, oldest first, before the list is cut. -/
def newStoryIds (storyIds : List Int) (lastMaxId : Int) : List Int :=
  ((dedupeStoryIds storyIds).filter fun storyId => lastMaxId < storyId).mergeSort (· ≤ ·)

theorem select_initial (storyIds : List Int) (maxItems lastMaxId : Int) :
    selectStoryIdsForNewMode storyIds maxItems lastMaxId <+: newStoryIds storyIds lastMaxId :=
  Js.sliceTo_prefix _ _

theorem newStoryIds_perm : (newStoryIds storyIds lastMaxId).Perm
    ((dedupeStoryIds storyIds).filter fun storyId => lastMaxId < storyId) :=
  List.mergeSort_perm _ _

theorem mem_newStoryIds :
    storyId ∈ newStoryIds storyIds lastMaxId ↔ storyId ∈ storyIds ∧ lastMaxId < storyId := by
  rw [newStoryIds_perm.mem_iff, List.mem_filter, dedupeStoryIds, Js.mem_distinct,
    decide_eq_true_eq]

theorem newStoryIds_ascending (storyIds : List Int) (lastMaxId : Int) :
    Ascending lastMaxId (newStoryIds storyIds lastMaxId) where
  above _ found := (mem_newStoryIds.1 found).2
  sorted := by
    have ordered : (newStoryIds storyIds lastMaxId).Pairwise (· ≤ ·) := by
      have sorted : (newStoryIds storyIds lastMaxId).Pairwise fun a b => decide (a ≤ b) = true :=
        List.pairwise_mergeSort
          (by intro a b c; simp only [decide_eq_true_eq]; omega)
          (by intro a b; simp only [Bool.or_eq_true, decide_eq_true_eq]; omega) _
      exact sorted.imp of_decide_eq_true
    have nodup : (newStoryIds storyIds lastMaxId).Nodup :=
      newStoryIds_perm.nodup_iff.2 ((Js.nodup_distinct storyIds).filter _)
    exact (ordered.and nodup).imp fun both => lt_of_le_of_ne both.1 both.2

theorem select_ascending :
    Ascending lastMaxId (selectStoryIdsForNewMode storyIds maxItems lastMaxId) :=
  ⟨fun storyId found => (newStoryIds_ascending storyIds lastMaxId).above storyId
      ((select_initial storyIds maxItems lastMaxId).subset found),
    (newStoryIds_ascending storyIds lastMaxId).sorted.sublist
      (select_initial storyIds maxItems lastMaxId).sublist⟩

/-- The cut only drops ids above all the selected ones. -/
theorem select_downward {n : Int} (listed : storyId ∈ storyIds) (above : lastMaxId < storyId)
    (selected : n ∈ selectStoryIdsForNewMode storyIds maxItems lastMaxId) (below : storyId ≤ n) :
    storyId ∈ selectStoryIdsForNewMode storyIds maxItems lastMaxId := by
  have found : storyId ∈ newStoryIds storyIds lastMaxId := mem_newStoryIds.2 ⟨listed, above⟩
  have sorted := (newStoryIds_ascending storyIds lastMaxId).sorted
  obtain ⟨dropped, whole⟩ := select_initial storyIds maxItems lastMaxId
  rw [← whole] at found sorted
  rcases List.mem_append.1 found with kept | cut
  · exact kept
  · have later := (List.pairwise_append.1 sorted).2.2 n selected storyId cut
    omega

/-- An id is selected unless `maxItems` listed ids stand between the checkpoint and it. -/
theorem select_of_few (listed : storyId ∈ storyIds) (above : lastMaxId < storyId)
    (few : (((dedupeStoryIds storyIds).filter fun other =>
      lastMaxId < other ∧ other < storyId).length : Int) < maxItems) :
    storyId ∈ selectStoryIdsForNewMode storyIds maxItems lastMaxId := by
  have found : storyId ∈ newStoryIds storyIds lastMaxId := mem_newStoryIds.2 ⟨listed, above⟩
  have sorted := (newStoryIds_ascending storyIds lastMaxId).sorted
  have cut : selectStoryIdsForNewMode storyIds maxItems lastMaxId =
      (newStoryIds storyIds lastMaxId).take maxItems.toNat := by
    have positive : ¬maxItems < 0 := by omega
    simp only [selectStoryIdsForNewMode, Js.sliceTo, positive, if_false]
    rfl
  rw [cut]
  by_contra missing
  rw [← List.take_append_drop maxItems.toNat (newStoryIds storyIds lastMaxId)] at found sorted
  have dropped := (List.mem_append.1 found).resolve_left missing
  have lower : ∀ other ∈ (newStoryIds storyIds lastMaxId).take maxItems.toNat, other < storyId :=
    fun other kept => (List.pairwise_append.1 sorted).2.2 other kept storyId dropped
  have long : ((newStoryIds storyIds lastMaxId).take maxItems.toNat).length = maxItems.toNat := by
    have shorter := List.length_pos_of_mem dropped
    rw [List.length_drop] at shorter
    rw [List.length_take]
    omega
  have among : ((newStoryIds storyIds lastMaxId).take maxItems.toNat).Sublist
      ((newStoryIds storyIds lastMaxId).filter fun other => other < storyId) := by
    have all := List.filter_eq_self.2 fun other kept => decide_eq_true (lower other kept)
    rw [← all]
    exact (List.take_sublist _ _).filter _
  have counted : ((newStoryIds storyIds lastMaxId).filter fun other => other < storyId).length =
      ((dedupeStoryIds storyIds).filter fun other =>
        lastMaxId < other ∧ other < storyId).length := by
    rw [(newStoryIds_perm.filter _).length_eq, List.filter_filter]
    congr 1
    apply List.filter_congr
    intro other _
    simp [Bool.and_comm]
  have bound := among.length_le
  omega

end Selection

/-! ## One poll -/

/-- The checkpoint that the next poll reads. -/
def checkpoint (w : AdapterWorld) : Int := parseCheckpointValue (w.checkpoints checkpointKey)

/-- The service listed these ids. -/
def Listed (storyIds : List Int) (events : List AdapterEvent) : Prop :=
  ⟨.api (.fetchStoryIds "new"), .ok storyIds⟩ ∈ events

/-- The story threw. -/
def Failed (settings : Settings) (storyId : Int) (events : List AdapterEvent) : Prop :=
  ∃ before segment after error, events = before ++ segment ++ after ∧
    (fetchStory settings storyId).Recorded (.error error) segment

/-- The calls before the loop over the ids. -/
def opening (stored : Option String) (storyIds : List Int) : List AdapterEvent :=
  [⟨.getCheckpoint hackerNews.name checkpointKey, .ok stored⟩,
    ⟨.api (.fetchStoryIds "new"), .ok storyIds⟩]

/-- What `fetch` leaves when the loop over its records ends in `w₁`. -/
def FetchEnd (settings : Settings) (w : AdapterWorld)
    (consumed : Consumed String Unit PollProgress) (w₁ : AdapterWorld) : Prop :=
  ∀ progress, consumed = .broke progress ∨ consumed = .ended (.ok ()) progress →
    ∃ stored storyIds w₀, w₀.checkpoints = w.checkpoints ∧
      w₀.trace = w.trace ++ opening stored storyIds ∧
      LoopEnd settings (checkpoint w)
        (selectStoryIdsForNewMode storyIds settings.maxItems (checkpoint w)) w₀ progress w₁

theorem fetch_safe (settings : Settings) (w : AdapterWorld) :
    ((fetch settings).consume processRecord ⟨0, none, none⟩).safe (handler hackerNews) (Unstored w)
      (fun outcome w₁ => ∀ consumed, outcome = .ok consumed → FetchEnd settings w consumed w₁)
      w := by
  have threw : ∀ (error : String) progress w₁,
      FetchEnd settings w (.ended (.error error) progress) w₁ := by
    intro error progress w₁ progress' last
    rcases last with same | same
    · cases same
    · cases same
  refine ⟨.refl w, fun reply w₁ answered => ?_⟩
  obtain ⟨rows, trace⟩ := handler_unstored rfl answered
  have read : Unstored w w₁ := ⟨rows, by rw [trace]; exact List.prefix_append _ _⟩
  rcases reply with error | stored
  · refine ⟨read, ?_⟩
    rintro _ ⟨⟩
    exact threw _ _ _
  · have current : parseCheckpointValue stored = checkpoint w := by
      have same : stored = w.checkpoints checkpointKey := answered.2.1 rfl
      rw [same]
      rfl
    refine ⟨read, fun reply w₀ answered => ?_⟩
    obtain ⟨rows', trace'⟩ := handler_unstored rfl answered
    have listed : Unstored w w₀ := read.trans
      ⟨rows', by rw [trace']; exact List.prefix_append _ _⟩
    rcases reply with error | storyIds
    · refine ⟨listed, ?_⟩
      rintro _ ⟨⟩
      exact threw _ _ _
    · have first : Progressed settings (parseCheckpointValue stored) w₀ []
          ⟨parseCheckpointValue stored, false⟩ ⟨0, none, none⟩ w₀ :=
        ⟨rfl, ⟨[], by simp, rfl, by simp⟩, .inl rfl, by simp, .inl rfl⟩
      have ascending : Ascending (parseCheckpointValue stored) ([] ++ selectStoryIdsForNewMode
          storyIds settings.maxItems (parseCheckpointValue stored)) := select_ascending
      have loop := processStories_safe _ _ _ _ _ ascending first
      apply loop.mono (fun _ later => listed.trans later)
      rintro outcome w₁ _ post consumed rfl progress last
      refine ⟨stored, storyIds, w₀, rows'.trans rows, by rw [trace', trace]; simp [opening], ?_⟩
      rw [← current]
      exact post progress (last.imp (congrArg _) (congrArg _))

theorem split_unique {α : Type} {q : α → Prop} {before before' rest rest' : List α} {a a' : α}
    (same : before ++ a :: rest = before' ++ a' :: rest') (here : q a) (here' : q a')
    (none : ∀ x ∈ before, ¬q x) (none' : ∀ x ∈ before', ¬q x) : a :: rest = a' :: rest' := by
  induction before generalizing before' with
  | nil =>
      cases before' with
      | nil => exact same
      | cons x more =>
          have first : a = x := (List.cons.inj same).1
          exact absurd (first ▸ here) (none' x (by simp))
  | cons x more ih =>
      cases before' with
      | nil =>
          have first : x = a' := (List.cons.inj same).1
          exact absurd (first ▸ here') (none x (by simp))
      | cons x' more' =>
          exact ih (List.cons.inj same).2 (fun y found => none y (List.mem_cons_of_mem _ found))
            fun y found => none' y (List.mem_cons_of_mem _ found)

/-- Where an id is requested once, its story cannot both throw and be handled. -/
theorem handled_not_failed {storyId : Int} {events : List AdapterEvent}
    (once : (requests events).Nodup) (handled : Handled settings storyId events)
    (failed : Failed settings storyId events) : False := by
  obtain ⟨before, segment, after, outcome, shape, recorded, _⟩ := handled
  obtain ⟨before', segment', after', error, shape', recorded'⟩ := failed
  have starts : ∀ {outcome : Except String StoryOutcome} {segment : List AdapterEvent},
      (fetchStory settings storyId).Recorded outcome segment →
      ∃ event rest, segment = event :: rest ∧ requestOf event.call = some (.item storyId) := by
    intro outcome segment recorded
    cases recorded with
    | await reply rest => exact ⟨_, _, rfl, rfl⟩
  have alone : ∀ {before segment after : List AdapterEvent}, events = before ++ segment ++ after →
      requests segment = [.item storyId] →
      ∀ event ∈ before, ¬requestOf event.call = some (.item storyId) := by
    intro before segment after shape requested event found requests'
    rw [shape, requests_append, requests_append, requested] at once
    have disjoint := (List.nodup_append.1 (List.nodup_append.1 once).1).2.2
    exact disjoint _ (List.mem_filterMap.2 ⟨event, found, requests'⟩) _ (by simp) rfl
  have fresh := alone shape (fetchStory_requests recorded)
  have fresh' := alone shape' (fetchStory_requests recorded')
  obtain ⟨event, rest, rfl, here⟩ := starts recorded
  obtain ⟨event', rest', rfl, here'⟩ := starts recorded'
  have same : before ++ event :: (rest ++ after) = before' ++ event' :: (rest' ++ after') := by
    simpa using shape.symm.trans shape'
  have tails := split_unique (q := fun event => requestOf event.call = some (.item storyId))
    same here here' fresh fresh'
  exact nomatch recorded.unique recorded' tails

/-- What a poll that went from `w` to `w'` says about the checkpoint and the ids. -/
structure PollLaw (settings : Settings) (w w' : AdapterWorld) : Prop where
  /-- The checkpoint never decreases. -/
  monotone : checkpoint w ≤ checkpoint w'
  /-- Every listed id that the checkpoint has passed was fetched without error and what it
  produced was handed to ingestion. -/
  handled : ∀ events, w'.trace = w.trace ++ events → ∀ storyIds, Listed storyIds events →
    ∀ storyId ∈ storyIds, checkpoint w < storyId → storyId ≤ checkpoint w' →
    Handled settings storyId events
  /-- An id whose story threw stays above the checkpoint. -/
  failed : ∀ events, w'.trace = w.trace ++ events → ∀ storyId, checkpoint w < storyId →
    Failed settings storyId events → checkpoint w' < storyId

theorem PollLaw.of_unstored {w w' : AdapterWorld} (unstored : Unstored w w') :
    PollLaw settings w w' := by
  have same : checkpoint w' = checkpoint w := by rw [checkpoint, unstored.1, checkpoint]
  exact ⟨same.ge, fun _ _ _ _ storyId _ above below => by omega, fun _ _ storyId above _ => by omega⟩

/-- A poll whose loop ended, from there on. -/
structure AfterLoop (settings : Settings) (w w' : AdapterWorld) (stored : Option String)
    (storyIds : List Int) (n : Int) (loop tail : List AdapterEvent) : Prop where
  trace : w'.trace = w.trace ++ opening stored storyIds ++ loop ++ tail
  fetched : ∃ done, done <+: selectStoryIdsForNewMode storyIds settings.maxItems (checkpoint w) ∧
    requests loop = done.map .item ∧
    (done = selectStoryIdsForNewMode storyIds settings.maxItems (checkpoint w) ∨
      ⟨.collector .shutdownRequested, .ok true⟩ ∈ loop)
  tail : ∀ event ∈ tail, ∃ c, event.call = .collector c
  stored : checkpoint w' = n
  origin : n = checkpoint w ∨
    n ∈ selectStoryIdsForNewMode storyIds settings.maxItems (checkpoint w)
  handled : ∀ storyId ∈ selectStoryIdsForNewMode storyIds settings.maxItems (checkpoint w),
    storyId ≤ n → Handled settings storyId loop

section AfterLoop

variable {w w' : AdapterWorld} {stored : Option String} {storyIds : List Int} {n : Int}
  {loop tail : List AdapterEvent}

theorem AfterLoop.events (after : AfterLoop settings w w' stored storyIds n loop tail)
    {events : List AdapterEvent} (trace : w'.trace = w.trace ++ events) :
    events = opening stored storyIds ++ loop ++ tail := by
  have whole := after.trace
  rw [trace, List.append_assoc, List.append_assoc] at whole
  rw [List.append_assoc]
  exact List.append_cancel_left whole

theorem AfterLoop.requested (after : AfterLoop settings w w' stored storyIds n loop tail) :
    ∃ done, done <+: selectStoryIdsForNewMode storyIds settings.maxItems (checkpoint w) ∧
      requests (opening stored storyIds ++ loop ++ tail) = .list :: done.map .item ∧
      (done = selectStoryIdsForNewMode storyIds settings.maxItems (checkpoint w) ∨
        ⟨.collector .shutdownRequested, .ok true⟩ ∈ loop) := by
  obtain ⟨done, initial, requested, whole⟩ := after.fetched
  have silent : requests tail = [] := by
    apply requests_eq_nil
    intro event found
    obtain ⟨c, call⟩ := after.tail event found
    rw [call]
    rfl
  refine ⟨done, initial, ?_, whole⟩
  rw [requests_append, requests_append, requested, silent, List.append_nil]
  rfl

/-- The ids are requested once each. -/
theorem AfterLoop.once (after : AfterLoop settings w w' stored storyIds n loop tail) :
    (requests (opening stored storyIds ++ loop ++ tail)).Nodup := by
  obtain ⟨done, initial, all, _⟩ := after.requested
  have distinct : done.Nodup := (select_ascending.sorted.sublist initial.sublist).imp fun lt => lt.ne
  rw [all, List.nodup_cons]
  exact ⟨by simp, distinct.map fun _ _ same => by cases same; rfl⟩

theorem AfterLoop.selected (after : AfterLoop settings w w' stored storyIds n loop tail)
    {storyId : Int} (found : .item storyId ∈ requests (opening stored storyIds ++ loop ++ tail)) :
    storyId ∈ selectStoryIdsForNewMode storyIds settings.maxItems (checkpoint w) := by
  obtain ⟨done, initial, all, _⟩ := after.requested
  rw [all] at found
  obtain ⟨other, processed, same⟩ := List.mem_map.1 (List.mem_of_ne_of_mem (by simp) found)
  cases same
  exact initial.subset processed

/-- The list the poll worked on is the only one. -/
theorem AfterLoop.listed (after : AfterLoop settings w w' stored storyIds n loop tail)
    {others : List Int} (listed : Listed others (opening stored storyIds ++ loop ++ tail)) :
    others = storyIds := by
  rcases List.mem_append.1 listed with found | found
  · rcases List.mem_append.1 found with found | found
    · rcases List.mem_cons.1 found with same | found
      · cases same
      · cases List.mem_singleton.1 found
        rfl
    · obtain ⟨done, _, requested, _⟩ := after.fetched
      have request : Request.list ∈ requests loop := List.mem_filterMap.2 ⟨_, found, rfl⟩
      rw [requested] at request
      simp at request
  · obtain ⟨c, call⟩ := after.tail _ found
    cases call

theorem AfterLoop.handled_of_le (after : AfterLoop settings w w' stored storyIds n loop tail)
    {storyId : Int}
    (selected : storyId ∈ selectStoryIdsForNewMode storyIds settings.maxItems (checkpoint w))
    (below : storyId ≤ n) : Handled settings storyId (opening stored storyIds ++ loop ++ tail) := by
  obtain ⟨before, segment, rest, outcome, rfl, recorded, ingested⟩ :=
    after.handled storyId selected below
  apply Handled.append
  exact ⟨opening stored storyIds ++ before, segment, rest, outcome, by simp, recorded, ingested⟩

theorem AfterLoop.law (after : AfterLoop settings w w' stored storyIds n loop tail) :
    PollLaw settings w w' := by
  have passed : ∀ storyId ∈ storyIds, checkpoint w < storyId → storyId ≤ n →
      storyId ∈ selectStoryIdsForNewMode storyIds settings.maxItems (checkpoint w) := by
    intro storyId found above below
    rcases after.origin with same | selected
    · omega
    · exact select_downward found above selected below
  constructor
  · rw [after.stored]
    rcases after.origin with same | selected
    · exact same.ge
    · exact (select_ascending.above n selected).le
  · intro events trace others listed storyId found above below
    obtain rfl := after.events trace
    obtain rfl := after.listed listed
    rw [after.stored] at below
    exact after.handled_of_le (passed storyId found above below) below
  · intro events trace storyId above failed
    obtain rfl := after.events trace
    rw [after.stored]
    by_contra below
    obtain ⟨before, segment, rest, error, shape, recorded⟩ := failed
    -- the story was fetched in the loop, so its id is a selected one
    have requested : .item storyId ∈ requests (opening stored storyIds ++ loop ++ tail) := by
      rw [shape, requests_append, requests_append, fetchStory_requests recorded]
      simp
    have selected := after.selected requested
    exact handled_not_failed after.once (after.handled_of_le selected (by omega))
      ⟨before, segment, rest, error, shape, recorded⟩

end AfterLoop

/-- Once the loop has ended, the checkpoint is still the old one or that of the progress. -/
theorem finishing_checkpoint {w₁ w' : AdapterWorld} {progress : PollProgress}
    (rows : w'.checkpoints = w₁.checkpoints ∨
      w'.checkpoints = storedRows progress w₁.checkpoints) {n : Int} (nonneg : 0 ≤ n)
    (stored : progress.lastCheckpointKey = some checkpointKey ∧
      progress.lastCheckpointValue = some (toString n)) :
    checkpoint w' = checkpoint w₁ ∨ checkpoint w' = n := by
  have written : checkpointKey ≠ "" ∧ toString n ≠ "" := by
    refine ⟨by decide, fun empty => ?_⟩
    have unread : Js.parseInt10 "" = none := by decide
    obtain ⟨k, rfl⟩ := Int.eq_ofNat_of_zero_le nonneg
    have digits := Js.parseInt10_toString k
    rw [empty, unread] at digits
    cases digits
  rcases rows with same | new
  · left
    rw [checkpoint, same, checkpoint]
  · right
    rw [checkpoint, new, storedRows, stored.1, stored.2]
    simp only [written, ne_eq, not_false_eq_true, and_self, if_true, Function.update_self]
    exact parseCheckpointValue_toString nonneg

/-- What a poll did, once its loop has ended. -/
theorem afterLoop_of_end {w w₁ w' : AdapterWorld} {progress : PollProgress}
    (ended : LoopEnded (FetchEnd settings w) progress w₁) (unstored : Unstored w w₁)
    (finishing : Finishing progress w₁ w') :
    ∃ stored storyIds n loop tail, AfterLoop settings w w' stored storyIds n loop tail := by
  have fetched : ∃ stored storyIds w₀, w₀.checkpoints = w.checkpoints ∧
      w₀.trace = w.trace ++ opening stored storyIds ∧ LoopEnd settings (checkpoint w)
        (selectStoryIdsForNewMode storyIds settings.maxItems (checkpoint w)) w₀ progress w₁ :=
    ended.elim (fun broke => broke progress (.inl rfl)) fun all => all progress (.inr rfl)
  obtain ⟨stored, storyIds, w₀, _, opened, loopEnd⟩ := fetched
  obtain ⟨loop, trace, done, checkpoints⟩ := loopEnd.events
  obtain ⟨tail, trace', own⟩ := finishing.events
  have same : checkpoint w₁ = checkpoint w := by rw [checkpoint, unstored.1, checkpoint]
  have whole : w'.trace = w.trace ++ opening stored storyIds ++ loop ++ tail := by
    rw [trace', trace, opened]
  have unmoved : checkpoint w' = checkpoint w →
      AfterLoop settings w w' stored storyIds (checkpoint w) loop tail := fun still =>
    ⟨whole, done, own, still, .inl rfl, fun storyId selected below => by
      have := select_ascending.above storyId selected
      omega⟩
  rcases checkpoints with none | ⟨n, key, value, origin, handled⟩
  · have rows : w'.checkpoints = w₁.checkpoints := by
      have unchanged : storedRows progress w₁.checkpoints = w₁.checkpoints := by
        rw [storedRows, none]
      exact finishing.rows.elim id fun new => new.trans unchanged
    exact ⟨stored, storyIds, _, loop, tail, unmoved (by rw [checkpoint, rows, ← same, checkpoint])⟩
  · have nonneg : 0 ≤ n := by
      have := parseCheckpointValue_nonneg (w.checkpoints checkpointKey)
      rcases origin with rfl | selected
      · exact this
      · have := select_ascending.above n selected
        unfold checkpoint at this
        omega
    rcases finishing_checkpoint finishing.rows nonneg ⟨key, value⟩ with still | moved
    · exact ⟨stored, storyIds, _, loop, tail, unmoved (still.trans same)⟩
    · exact ⟨stored, storyIds, n, loop, tail, whole, done, own, moved, origin, handled⟩

theorem poll_law {w w' : AdapterWorld}
    (visited : (poll settings).Visits (handler hackerNews) w w') : PollLaw settings w w' := by
  have polled := (Program.safe_iff.1 (pollAdapter_safe (fetch_safe settings w))).1 w'
    visited
  rcases polled with unstored | ⟨progress, w₁, ended, unstored, finishing⟩
  · exact .of_unstored unstored
  · obtain ⟨stored, storyIds, n, loop, tail, after⟩ := afterLoop_of_end ended unstored finishing
    exact after.law

/-- A completed poll without a shutdown fetched every id of its list above the checkpoint, up to
`maxItems` of them. -/
theorem poll_fetches {w w' : AdapterWorld} {n : Nat}
    (run : (poll settings).Runs (handler hackerNews) w (.ok n) w') {events : List AdapterEvent}
    (trace : w'.trace = w.trace ++ events)
    (running : ⟨.collector .shutdownRequested, .ok true⟩ ∉ events) {storyIds : List Int}
    (listed : Listed storyIds events) {storyId : Int} (found : storyId ∈ storyIds)
    (above : checkpoint w < storyId)
    (few : (((dedupeStoryIds storyIds).filter fun other =>
      checkpoint w < other ∧ other < storyId).length : Int) < settings.maxItems) :
    .item storyId ∈ requests events := by
  obtain ⟨progress, w₁, ended, unstored, finishing, _⟩ :=
    (Program.safe_iff.1 (pollAdapter_safe (fetch_safe settings w))).2 _ w' run n rfl
  obtain ⟨stored, others, m, loop, tail, after⟩ := afterLoop_of_end ended unstored finishing
  obtain rfl := after.events trace
  obtain rfl := after.listed listed
  obtain ⟨done, _, all, whole⟩ := after.requested
  rcases whole with same | stopped
  · rw [all, same]
    have selected := select_of_few found above few
    exact List.mem_cons_of_mem _ (List.mem_map_of_mem selected)
  · exact absurd (by simp [stopped]) running

/-! ## Sequences of polls -/

/-- New-stories polling, over every sequence of polls that may each be cut off anywhere. -/
structure NewStoriesLaw (settings : Settings) : Prop where
  poll : ∀ w w', (poll settings).Visits (handler hackerNews) w w' → PollLaw settings w w'
  retried : ∀ w w' n, (HackerNews.poll settings).Runs (handler hackerNews) w (.ok n) w' →
    ∀ events, w'.trace = w.trace ++ events →
    ⟨.collector .shutdownRequested, .ok true⟩ ∉ events →
    ∀ storyIds, Listed storyIds events → ∀ storyId ∈ storyIds, checkpoint w < storyId →
    (((dedupeStoryIds storyIds).filter fun other =>
      checkpoint w < other ∧ other < storyId).length : Int) < settings.maxItems →
    .item storyId ∈ requests events
  monotone : ∀ w w',
    Relation.ReflTransGen ((HackerNews.poll settings).Visits (handler hackerNews)) w w' →
    checkpoint w ≤ checkpoint w'

theorem newStories_law (settings : Settings) : NewStoriesLaw settings where
  poll _ _ visited := poll_law visited
  retried _ _ _ run _ trace running _ listed _ found above few :=
    poll_fetches run trace running listed found above few
  monotone w w' polls := by
    induction polls with
    | refl => exact le_refl _
    | tail _ visited ih => exact ih.trans (poll_law visited).monotone

/-! ## One id a poll

Where a poll takes one id, a listed id that is no story stands in front of a failed one for good: it
yields no record, so no checkpoint is stored behind it. -/

def oneIdPerPoll : Settings where
  maxItems := 1
  enrichment := .noop
  functions := {
    extractUrls := fun _ => []
    extractHashtags := fun _ => []
    extractEntities := fun _ => ([], [])
    hashString := id
    isoFromSeconds := fun _ => none
    isoFromString := fun _ => none }

/-- The calls after a loop without records. -/
def emptyPollTail : List AdapterEvent :=
  [⟨.collector .now, .ok (0 : ℕ)⟩, ⟨.collector .lastSeenCleanupAt, .ok (0 : ℕ)⟩,
    ⟨.collector (.publishSourceHeartbeat ⟨"hackernews", 0, "healthy"⟩), .ok ()⟩]

/-- The story 5 is listed and cannot be fetched. -/
def failingPoll : List AdapterEvent :=
  opening none [5] ++ ([⟨.api (.fetchItem 5), .error "timeout"⟩, ⟨.api .delay, .ok ()⟩] ++
    emptyPollTail)

/-- It is listed again, behind an id that the service has no item for. -/
def starvedPoll : List AdapterEvent :=
  opening none [3, 5] ++ (⟨.api (.fetchItem 3), .ok none⟩ :: emptyPollTail)

/-- After the failing poll and so many others. -/
def starvedWorld : ℕ → AdapterWorld
  | 0 => ⟨fun _ => none, failingPoll⟩
  | polls + 1 => ⟨fun _ => none, (starvedWorld polls).trace ++ starvedPoll⟩

theorem select_failing : selectStoryIdsForNewMode [5] 1 0 = [5] := by
  have once : dedupeStoryIds [5] = [5] := by decide +kernel
  simp [selectStoryIdsForNewMode, once, Js.sliceTo]

theorem select_starved : selectStoryIdsForNewMode [3, 5] 1 0 = [3] := by
  have once : dedupeStoryIds [3, 5] = [3, 5] := by decide +kernel
  have sorted : [3, 5].mergeSort (fun a b : ℤ => decide (a ≤ b)) = [3, 5] :=
    List.mergeSort_of_pairwise (by simp)
  simp [selectStoryIdsForNewMode, once, sorted, Js.sliceTo]

theorem failingPoll_runs :
    (poll oneIdPerPoll).Runs (handler hackerNews) ⟨fun _ => none, []⟩ (.ok 0) (starvedWorld 0) := by
  refine .await (r := .ok none) (t := ⟨fun _ => none, _⟩) ⟨rfl, fun _ => rfl, rfl⟩ ?_
  refine .await (r := .ok [5]) (t := ⟨fun _ => none, _⟩) ⟨rfl, rfl⟩ ?_
  change (pollAdapter hackerNews (processStories oneIdPerPoll
    (selectStoryIdsForNewMode [5] 1 0) ⟨0, false⟩)).Runs _ _ _ _
  rw [select_failing]
  refine .await (r := .error "timeout") (t := ⟨fun _ => none, _⟩) ⟨rfl, rfl⟩ ?_
  refine .await (r := .ok ()) (t := ⟨fun _ => none, _⟩) ⟨rfl, rfl⟩ ?_
  refine .await (r := .ok (0 : ℕ)) (t := ⟨fun _ => none, _⟩) ⟨rfl, rfl⟩ ?_
  refine .await (r := .ok (0 : ℕ)) (t := ⟨fun _ => none, _⟩) ⟨rfl, rfl⟩ ?_
  refine .await (r := .ok ()) (t := ⟨fun _ => none, _⟩) ⟨rfl, rfl⟩ ?_
  exact .done

theorem starvedPoll_runs (trace : List AdapterEvent) :
    (poll oneIdPerPoll).Runs (handler hackerNews) ⟨fun _ => none, trace⟩ (.ok 0)
      ⟨fun _ => none, trace ++ starvedPoll⟩ := by
  refine .await (r := .ok none) (t := ⟨fun _ => none, _⟩) ⟨rfl, fun _ => rfl, rfl⟩ ?_
  refine .await (r := .ok [3, 5]) (t := ⟨fun _ => none, _⟩) ⟨rfl, rfl⟩ ?_
  change (pollAdapter hackerNews (processStories oneIdPerPoll
    (selectStoryIdsForNewMode [3, 5] 1 0) ⟨0, false⟩)).Runs _ _ _ _
  rw [select_starved]
  refine .await (r := .ok none) (t := ⟨fun _ => none, _⟩) ⟨rfl, rfl⟩ ?_
  refine .await (r := .ok (0 : ℕ)) (t := ⟨fun _ => none, _⟩) ⟨rfl, rfl⟩ ?_
  refine .await (r := .ok (0 : ℕ)) (t := ⟨fun _ => none, _⟩) ⟨rfl, rfl⟩ ?_
  refine .await (r := .ok ()) (t := ⟨fun _ => none, trace ++ starvedPoll⟩) ⟨?_, rfl⟩ ?_
  · simp only [starvedPoll, opening, emptyPollTail, List.append_assoc, List.cons_append,
      List.nil_append]
    rfl
  · exact .done

/-- The failed story is listed by every later poll, and none of them asks for it or stores a
checkpoint. -/
theorem failed_story_starved :
    (poll oneIdPerPoll).Runs (handler hackerNews) ⟨fun _ => none, []⟩ (.ok 0) (starvedWorld 0) ∧
      Failed oneIdPerPoll 5 failingPoll ∧
      ∀ polls, (poll oneIdPerPoll).Runs (handler hackerNews) (starvedWorld polls) (.ok 0)
          (starvedWorld (polls + 1)) ∧
        (starvedWorld (polls + 1)).trace = (starvedWorld polls).trace ++ starvedPoll ∧
        Listed [3, 5] starvedPoll ∧
        ⟨.collector .shutdownRequested, .ok true⟩ ∉ starvedPoll ∧
        checkpoint (starvedWorld (polls + 1)) = 0 ∧
        .item 5 ∉ requests starvedPoll := by
  refine ⟨failingPoll_runs, ?_, ?_⟩
  · exact ⟨opening none [5], [⟨.api (.fetchItem 5), .error "timeout"⟩], _, "timeout", rfl,
      .await _ .done⟩
  · intro polls
    have same : starvedWorld polls = ⟨fun _ => none, (starvedWorld polls).trace⟩ := by
      cases polls <;> rfl
    refine ⟨?_, rfl, ?_, ?_, ?_, ?_⟩
    · rw [same]
      exact starvedPoll_runs _
    · simp [Listed, starvedPoll, opening]
    · simp [starvedPoll, opening, emptyPollTail]
    · rfl
    · simp [requests, starvedPoll, opening, emptyPollTail, requestOf]

end RisingIntelligence.Collector.HackerNews
