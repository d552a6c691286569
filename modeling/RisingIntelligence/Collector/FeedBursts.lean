import RisingIntelligence.Collector.Lobsters

/-!
# Bursts in the Lobsters feed

Which items fall behind the checkpoint of a Lobsters poll without having been ingested.

* `Processed` reads the trace of the loop over the items as one outcome for each item.
* `poll_nothingSkipped_iff` says exactly when a completed poll skips nothing: nothing was
  ingested, or all new items fit into one poll and none that threw is older than an ingested one.
-/

namespace RisingIntelligence.Collector.Lobsters

open Async PollWorld

variable {settings : Settings}

/-! ## What a poll says about the feed -/

/-- The guids of the feed, newest first. -/
def feedGuids (items : List FeedItem) : List String := items.filterMap itemGuid

/-- The guids that stand ahead of a checkpoint. -/
def ahead (items : List FeedItem) (checkpoint : Option String) : List String :=
  (feedGuids items).takeWhile fun guid => some guid ≠ checkpoint

/-- Every item ahead of the old checkpoint was ingested or is still ahead of the new one. -/
def NothingSkipped (items : List FeedItem) (old new : Option String) (ingested : List String) :
    Prop :=
  ∀ guid ∈ ahead items old, guid ∈ ingested ∨ guid ∈ ahead items new

/-- What happened to an item: it could not be normalised, it was handed to ingestion, or the loop
stopped at a shutdown before that. -/
inductive ItemOutcome : Type
  | threw
  | ingested
  | stopped
  deriving DecidableEq

/-- The events of the loop over the items, with the outcome of each item that was reached. -/
inductive Processed (settings : Settings) :
    List (FeedItem × String) → List (String × ItemOutcome) → List AdapterEvent → Prop
  | nil : Processed settings [] [] []
  | threw {item : FeedItem} {guid error : String} {rest : List (FeedItem × String)}
      {outcomes : List (String × ItemOutcome)} {segment events : List AdapterEvent} :
    (itemToCollectedContent settings item guid).Recorded (.error error) segment →
    Processed settings rest outcomes events →
    Processed settings ((item, guid) :: rest) ((guid, .threw) :: outcomes) (segment ++ events)
  | ingested {item : FeedItem} {guid : String} {content : CollectedContent}
      {status : IngestionStatus} {rest : List (FeedItem × String)}
      {outcomes : List (String × ItemOutcome)} {segment events : List AdapterEvent} :
    (itemToCollectedContent settings item guid).Recorded (.ok content) segment →
    Processed settings rest outcomes events →
    Processed settings ((item, guid) :: rest) ((guid, .ingested) :: outcomes)
      (segment ++ [⟨.collector .shutdownRequested, .ok false⟩,
        ⟨.collector (.ingest (normalizeCollectorIngestionEvent content)), .ok status⟩] ++ events)
  | stopped {item : FeedItem} {guid : String} {content : CollectedContent}
      {rest : List (FeedItem × String)} {segment : List AdapterEvent} :
    (itemToCollectedContent settings item guid).Recorded (.ok content) segment →
    Processed settings ((item, guid) :: rest) [(guid, .stopped)]
      (segment ++ [⟨.collector .shutdownRequested, .ok true⟩])

def ingestedGuids (outcomes : List (String × ItemOutcome)) : List String :=
  (outcomes.filter fun outcome => outcome.2 = .ingested).map (·.1)

/-- No item that was not ingested is older than an ingested one; outcomes are oldest first. -/
def OldestFirst (outcomes : List (String × ItemOutcome)) : Prop :=
  outcomes.Pairwise fun older newer => newer.2 = .ingested → older.2 = .ingested

/-- The poll keeps up with the feed: it ingested nothing, or everything new fits into one poll
and the items that threw are newer than all ingested ones. -/
def KeepsUp (settings : Settings) (items : List FeedItem) (old : Option String)
    (outcomes : List (String × ItemOutcome)) : Prop :=
  ingestedGuids outcomes = [] ∨
    (ahead items old).length ≤ settings.maxItems ∧ OldestFirst outcomes

theorem Processed.guids {items : List (FeedItem × String)} {outcomes : List (String × ItemOutcome)}
    {events : List AdapterEvent} (processed : Processed settings items outcomes events) :
    outcomes.map (·.1) <+: items.map (·.2) := by
  induction processed with
  | nil => exact List.prefix_refl _
  | threw _ _ ih => exact List.cons_prefix_cons.2 ⟨rfl, ih⟩
  | ingested _ _ ih => exact List.cons_prefix_cons.2 ⟨rfl, ih⟩
  | stopped _ => exact List.cons_prefix_cons.2 ⟨rfl, List.nil_prefix⟩

/-! ## When nothing is skipped -/

theorem newItems_guids (items : List FeedItem) (lastGuid : Option String) :
    (newItems lastGuid items).1.map (·.2) = ahead items lastGuid := by
  unfold ahead feedGuids
  induction items with
  | nil => rfl
  | cons item rest ih =>
      rcases named : itemGuid item with _ | guid
      · simp only [newItems, named, List.filterMap_cons_none, ih]
      · by_cases reached : some guid = lastGuid
        · subst reached
          simp [newItems, named]
        · simp [newItems, named, reached, ih]

/-- The checkpoint is found when it occurs in the feed. -/
theorem newItems_found {items : List FeedItem} {guid : String} (occurs : guid ∈ feedGuids items) :
    (newItems (some guid) items).2 = true := by
  induction items with
  | nil => simp [feedGuids] at occurs
  | cons item rest ih =>
      rcases named : itemGuid item with _ | other
      · simp only [newItems, named]
        exact ih (by simpa [feedGuids, named] using occurs)
      · by_cases reached : some other = some guid
        · simp [newItems, named, reached]
        · simp only [newItems, named, reached, if_false]
          apply ih
          have different : guid ≠ other := fun same => reached (same ▸ rfl)
          simpa [feedGuids, named, different] using occurs

theorem itemsToProcess_guids {items : List FeedItem} {old : String}
    (occurs : old ∈ feedGuids items) :
    (itemsToProcess settings (some old) items).map (·.2) =
      (ahead items (some old)).take settings.maxItems := by
  simp only [itemsToProcess, newItems_found occurs, if_true, List.map_take, newItems_guids]

/-- What stands ahead of a new item is what stood ahead of it before. -/
theorem ahead_of_split {items : List FeedItem} {old : Option String} {guid : String}
    {newer older : List String} (split : ahead items old = newer ++ guid :: older)
    (distinct : (feedGuids items).Nodup) : ahead items (some guid) = newer := by
  obtain ⟨behind, whole⟩ := List.takeWhile_prefix (l := feedGuids items)
    fun guid => decide (some guid ≠ old)
  have shape : feedGuids items = newer ++ guid :: (older ++ behind) := by
    rw [← whole]
    unfold ahead at split
    rw [split, List.append_assoc, List.cons_append]
  rw [shape] at distinct
  have others : ∀ other ∈ newer, decide (some other ≠ some guid) = true := by
    intro other found
    have different := (List.nodup_append.1 distinct).2.2 other found guid (by simp)
    simpa using different
  rw [ahead, shape, List.takeWhile_append_of_pos others, List.takeWhile_cons_of_neg (by simp),
    List.append_nil]

theorem ingestedGuids_append (first second : List (String × ItemOutcome)) :
    ingestedGuids (first ++ second) = ingestedGuids first ++ ingestedGuids second := by
  simp [ingestedGuids]

theorem ingestedGuids_eq_nil {outcomes : List (String × ItemOutcome)} :
    ingestedGuids outcomes = [] ↔ ∀ outcome ∈ outcomes, outcome.2 ≠ .ingested := by
  simp [ingestedGuids, List.filter_eq_nil_iff]

/-- The outcomes around the last ingested item. -/
theorem split_last_ingested {outcomes : List (String × ItemOutcome)}
    (some : ingestedGuids outcomes ≠ []) :
    ∃ before guid after, outcomes = before ++ (guid, .ingested) :: after ∧
      ingestedGuids after = [] := by
  induction outcomes with
  | nil => exact absurd rfl some
  | cons outcome rest ih =>
      by_cases later : ingestedGuids rest = []
      · rcases outcome with ⟨guid, outcome⟩
        have this : outcome = .ingested := by
          by_contra other
          exact some (by simpa [ingestedGuids, other] using later)
        exact ⟨[], guid, rest, by rw [this]; rfl, later⟩
      · obtain ⟨before, guid, after, shape, none⟩ := ih later
        exact ⟨outcome :: before, guid, after, by rw [shape]; rfl, none⟩

/-- Before the last ingested item, `OldestFirst` leaves no room for another outcome. -/
theorem oldestFirst_iff {before after : List (String × ItemOutcome)} {guid : String}
    (none : ingestedGuids after = []) :
    OldestFirst (before ++ (guid, .ingested) :: after) ↔
      ∀ outcome ∈ before, outcome.2 = .ingested := by
  rw [ingestedGuids_eq_nil] at none
  unfold OldestFirst
  rw [List.pairwise_append, List.pairwise_cons]
  constructor
  · intro ⟨_, _, across⟩ outcome found
    exact across outcome found (guid, .ingested) (by simp) rfl
  · intro all
    refine ⟨?_, ⟨fun newer found ingested => absurd ingested (none newer found), ?_⟩,
      fun older found _ _ _ => all older found⟩
    · exact List.pairwise_of_forall_mem_list fun older found _ _ _ => all older found
    · exact List.pairwise_of_forall_mem_list fun _ _ newer found ingested =>
        absurd ingested (none newer found)

theorem all_ingested_iff {before : List (String × ItemOutcome)}
    (distinct : (before.map (·.1)).Nodup) :
    (∀ guid ∈ before.map (·.1), guid ∈ ingestedGuids before) ↔
      ∀ outcome ∈ before, outcome.2 = .ingested := by
  constructor
  · intro all outcome found
    have ingested := all outcome.1 (List.mem_map_of_mem found)
    obtain ⟨other, kept, same⟩ := List.mem_map.1 ingested
    obtain ⟨present, status⟩ := List.mem_filter.1 kept
    have this : other = outcome := List.inj_on_of_nodup_map distinct present found same
    rw [← this]
    simpa using status
  · intro all guid found
    obtain ⟨outcome, present, rfl⟩ := List.mem_map.1 found
    exact List.mem_map_of_mem (List.mem_filter.2 ⟨present, by simpa using all outcome present⟩)

/-- The law of one poll, on its outcomes. -/
theorem nothingSkipped_iff {items : List FeedItem} {old : String}
    {outcomes : List (String × ItemOutcome)} (distinct : (feedGuids items).Nodup)
    (processed : outcomes.map (·.1) <+:
      ((ahead items (some old)).take settings.maxItems).reverse) :
    NothingSkipped items (some old) ((ingestedGuids outcomes).getLast?.or (some old))
        (ingestedGuids outcomes) ↔
      KeepsUp settings items (some old) outcomes := by
  by_cases idle : ingestedGuids outcomes = []
  · simp [NothingSkipped, KeepsUp, idle]
  · obtain ⟨before, guid, after, rfl, none⟩ := split_last_ingested idle
    have ingested : ingestedGuids (before ++ (guid, .ingested) :: after) =
        ingestedGuids before ++ [guid] := by
      have last : ingestedGuids ((guid, .ingested) :: after) = [guid] := by
        simpa [ingestedGuids] using none
      rw [ingestedGuids_append, last]
    obtain ⟨unreached, whole⟩ := processed
    have kept : (ahead items (some old)).take settings.maxItems =
        (unreached.reverse ++ (after.map (·.1)).reverse) ++
          guid :: (before.map (·.1)).reverse := by
      have turned := congrArg List.reverse whole
      rw [List.reverse_reverse] at turned
      rw [← turned]
      simp
    have split : ahead items (some old) =
        (unreached.reverse ++ (after.map (·.1)).reverse) ++ guid ::
          ((before.map (·.1)).reverse ++ (ahead items (some old)).drop settings.maxItems) := by
      conv_lhs => rw [← List.take_append_drop settings.maxItems (ahead items (some old)), kept]
      simp
    have nodup : (ahead items (some old)).Nodup := distinct.sublist (List.takeWhile_sublist _)
    have order := nodup
    rw [split, List.nodup_append, List.nodup_cons] at order
    obtain ⟨_, ⟨alone, older⟩, disjoint⟩ := order
    have last : (ingestedGuids (before ++ (guid, .ingested) :: after)).getLast?.or (some old) =
        some guid := by
      rw [ingested, List.getLast?_concat, Option.some_or]
    have reached : ∀ other ∈ ingestedGuids (before ++ (guid, .ingested) :: after),
        other ∈ (ahead items (some old)).take settings.maxItems := by
      intro other found
      rw [ingested, List.mem_append, List.mem_singleton] at found
      rw [kept]
      rcases found with earlier | rfl
      · have item := (List.filter_sublist.map _).subset earlier
        simp [item]
      · simp
    -- the older part of the feed has to be ingested as a whole
    have wanted : NothingSkipped items (some old) (some guid)
        (ingestedGuids (before ++ (guid, .ingested) :: after)) ↔
          (∀ other ∈ before.map (·.1), other ∈ ingestedGuids before) ∧
            (ahead items (some old)).drop settings.maxItems = [] := by
      rw [NothingSkipped, ahead_of_split split distinct]
      constructor
      · intro all
        have behind : ∀ other ∈ (before.map (·.1)).reverse ++
            (ahead items (some old)).drop settings.maxItems,
            other ∈ ingestedGuids (before ++ (guid, .ingested) :: after) := by
          intro other found
          have present : other ∈ ahead items (some old) := by
            rw [split]
            exact List.mem_append_right _ (List.mem_cons_of_mem _ found)
          refine (all other present).resolve_right fun newer => ?_
          exact disjoint other newer other (List.mem_cons_of_mem _ found) rfl
        constructor
        · intro other found
          have ingestedOther := behind other (List.mem_append_left _ (List.mem_reverse.2 found))
          rw [ingested, List.mem_append, List.mem_singleton] at ingestedOther
          refine ingestedOther.resolve_right fun same => alone ?_
          rw [← same]
          exact List.mem_append_left _ (List.mem_reverse.2 found)
        · rw [List.eq_nil_iff_forall_not_mem]
          intro other cut
          have early := reached other (behind other (List.mem_append_right _ cut))
          have parts := nodup
          rw [← List.take_append_drop settings.maxItems (ahead items (some old)),
            List.nodup_append] at parts
          exact parts.2.2 other early other cut rfl
      · intro ⟨all, fits⟩ other present
        rw [split, fits, List.append_nil, List.mem_append, List.mem_cons] at present
        rcases present with newer | rfl | earlier
        · exact .inr newer
        · exact .inl (by simp [ingested])
        · left
          rw [ingested]
          exact List.mem_append_left _ (all other (List.mem_reverse.1 earlier))
    have distinctBefore : (before.map (·.1)).Nodup :=
      List.nodup_reverse.1 (older.sublist (List.sublist_append_left _ _))
    rw [last, wanted, all_ingested_iff distinctBefore, KeepsUp, oldestFirst_iff none,
      List.drop_eq_nil_iff]
    constructor
    · exact fun ⟨all, fits⟩ => .inr ⟨fits, all⟩
    · exact fun keeps => (keeps.resolve_left idle).symm

/-! ## The loop over the items -/

theorem enrich_unstored (strategy : TextEnrichmentStrategy) (text : String) (url : Option String)
    (minLength : Nat) :
    (strategy.enrich text url minLength).Within (stores · = false) fun _ => True := by
  cases strategy with
  | noop => trivial
  | articleFetch =>
      simp only [TextEnrichmentStrategy.enrich]
      split
      · trivial
      · apply Program.Within.calls_bind
        · exact ⟨rfl, fun _ => trivial⟩
        · intro article
          split
          · trivial
          · trivial

theorem itemToCollectedContent_unstored (item : FeedItem) (guid : String) :
    (itemToCollectedContent settings item guid).Within (stores · = false) fun _ => True := by
  apply (enrich_unstored _ _ _ _).calls_bind
  intro text
  exact ⟨rfl, fun reply => by cases reply <;> trivial⟩

/-- What the loop remembers after its outcomes: the guid of the last ingested item. -/
def Remembers (progress progress' : PollProgress) (outcomes : List (String × ItemOutcome)) : Prop :=
  match (ingestedGuids outcomes).getLast? with
  | none => progress'.lastCheckpointKey = progress.lastCheckpointKey ∧
      progress'.lastCheckpointValue = progress.lastCheckpointValue
  | some guid => progress'.lastCheckpointKey = some checkpointKey ∧
      progress'.lastCheckpointValue = some guid

theorem Remembers.ingested {progress progress₁ progress' : PollProgress} {guid : String}
    {outcomes : List (String × ItemOutcome)}
    (first : progress₁.lastCheckpointKey = some checkpointKey ∧
      progress₁.lastCheckpointValue = some guid)
    (rest : Remembers progress₁ progress' outcomes) :
    Remembers progress progress' ((guid, .ingested) :: outcomes) := by
  have joined : ingestedGuids ((guid, .ingested) :: outcomes) = guid :: ingestedGuids outcomes := by
    simp [ingestedGuids]
  unfold Remembers at rest ⊢
  rw [joined]
  rcases later : ingestedGuids outcomes with _ | ⟨other, more⟩
  · rw [later] at rest
    exact ⟨rest.1.trans first.1, rest.2.trans first.2⟩
  · rw [later] at rest
    rw [List.getLast?_cons_cons]
    exact rest

/-- How the loop over `items` ended, having started in `w` with `progress`. -/
def LoopEnd (settings : Settings) (items : List (FeedItem × String)) (progress : PollProgress)
    (w : AdapterWorld) (consumed : Consumed String Unit PollProgress) (w' : AdapterWorld) : Prop :=
  ∀ progress', consumed = .broke progress' ∨ consumed = .ended (.ok ()) progress' →
    ∃ outcomes events, Processed settings items outcomes events ∧
      w'.checkpoints = w.checkpoints ∧ w'.trace = w.trace ++ events ∧
      Remembers progress progress' outcomes

/-- The body of the loop after the item was normalised, or failed to be. -/
def afterItem (guid : String) : Except String CollectedContent → AdapterGenerator Unit
  | .ok content =>
      .yield (createCollectorSourceRecord { content, checkpointKey, checkpointValue := guid })
        (pure ())
  | .error _ => pure ()

theorem processItem_eq (item : FeedItem × String) :
    processItem settings item =
      (Generator.ofProgram (itemToCollectedContent settings item.1 item.2)).settle
        (afterItem item.2) := by
  unfold processItem Generator.tryCatch
  refine (Generator.settle_settle _ _ _).trans (congrArg _ ?_)
  funext outcome
  rcases outcome with error | content
  · rfl
  · rfl

theorem processItems_safe {w₀ : AdapterWorld} (items : List (FeedItem × String))
    (progress : PollProgress) (w : AdapterWorld) (start : Unstored w₀ w) :
    ((processItems settings items).consume processRecord progress).safe (handler lobsters)
      (Unstored w₀)
      (fun outcome w' => ∀ consumed, outcome = .ok consumed →
        LoopEnd settings items progress w consumed w') w := by
  induction items generalizing progress w with
  | nil =>
      refine ⟨start, ?_⟩
      rintro _ ⟨⟩ progress' last
      rcases last with same | same
      · cases same
      · cases same
        exact ⟨[], [], .nil, rfl, by simp, rfl, rfl⟩
  | cons item rest ih =>
      rcases item with ⟨item, guid⟩
      have whole : processItems settings ((item, guid) :: rest) =
          (Generator.ofProgram (itemToCollectedContent settings item guid)).settle fun outcome =>
            (afterItem guid outcome).settle (Generator.onOk fun _ => processItems settings rest) := by
        rw [← Generator.settle_settle, ← processItem_eq (item, guid)]
        rfl
      rw [whole]
      apply Generator.safe_consume_settle
        (consume_ofProgram_safe (itemToCollectedContent_unstored item guid) start progress)
      · rintro result _ w₁ ⟨_, segment, ⟨⟩, recorded, rows, trace⟩ normalised
        rcases result with error | content
        · apply (ih progress w₁ normalised).mono (fun _ holds => holds)
          rintro outcome w' _ post consumed same progress' last
          obtain ⟨outcomes, events, processed, rows', trace', remembers⟩ :=
            post consumed same progress' last
          exact ⟨_, _, .threw recorded processed, rows'.trans rows,
            by rw [trace', trace, List.append_assoc], remembers⟩
        · apply consume_yield_safe normalised
          · intro batchCount status w₂ rows' trace'
            have ingested : Unstored w₀ w₂ := normalised.trans
              ⟨rows', by rw [trace']; exact List.prefix_append _ _⟩
            apply (ih _ w₂ ingested).mono (fun _ holds => holds)
            rintro outcome w' _ post consumed same progress' last
            obtain ⟨outcomes, events, processed, rows'', trace'', remembers⟩ :=
              post consumed same progress' last
            exact ⟨_, _, .ingested recorded processed, (rows''.trans rows').trans rows,
              by rw [trace'', trace', trace, List.append_assoc, List.append_assoc, List.append_assoc]; rfl,
              remembers.ingested ⟨rfl, rfl⟩⟩
          · intro w₂ rows' trace' consumed same progress' last
            cases same
            rcases last with same | same
            · cases same
              exact ⟨_, _, .stopped recorded, rows'.trans rows,
                by rw [trace', trace, List.append_assoc], rfl, rfl⟩
            · cases same
          · exact fun error w₂ _ same => by cases same
      · rintro _ w' ⟨result, segment, same, _⟩
        cases same
      · rintro error w' ⟨result, segment, same, _⟩
        cases same

/-! ## A completed poll -/

/-- The calls before the loop over the items. -/
def opening (stored : Option String) (feed : Option (List FeedItem)) : List AdapterEvent :=
  [⟨.getCheckpoint lobsters.name checkpointKey, .ok stored⟩, ⟨.api (.parseURL rssUrl), .ok feed⟩]

/-- What `fetch` leaves when the loop over its records ends in `w₁`. -/
def FetchEnd (settings : Settings) (w : AdapterWorld)
    (consumed : Consumed String Unit PollProgress) (w₁ : AdapterWorld) : Prop :=
  ∀ progress, consumed = .broke progress ∨ consumed = .ended (.ok ()) progress →
    ∃ feed outcomes events,
      Processed settings
        (itemsToProcess settings (w.checkpoints checkpointKey) (feed.getD [])).reverse
        outcomes events ∧
      w₁.checkpoints = w.checkpoints ∧
      w₁.trace = w.trace ++ opening (w.checkpoints checkpointKey) feed ++ events ∧
      Remembers ⟨0, none, none⟩ progress outcomes

theorem fetch_safe (settings : Settings) (w : AdapterWorld) :
    ((fetch settings).consume processRecord ⟨0, none, none⟩).safe (handler lobsters) (Unstored w)
      (fun outcome w₁ => ∀ consumed, outcome = .ok consumed → FetchEnd settings w consumed w₁)
      w := by
  have threw : ∀ (error : String) progress w₁,
      FetchEnd settings w (.ended (.error error) progress) w₁ := by
    intro error progress w₁ progress' last
    rcases last with same | same
    · cases same
    · cases same
  refine ⟨.refl w, fun reply w₁ answered => ?_⟩
  obtain ⟨rows, trace⟩ := handler_unstored rfl answered
  have read : Unstored w w₁ := ⟨rows, by rw [trace]; exact List.prefix_append _ _⟩
  rcases reply with error | stored
  · refine ⟨read, ?_⟩
    rintro _ ⟨⟩
    exact threw _ _ _
  · obtain rfl : stored = w.checkpoints checkpointKey := answered.2.1 rfl
    refine ⟨read, fun reply w₀ answered => ?_⟩
    obtain ⟨rows', trace'⟩ := handler_unstored rfl answered
    have listed : Unstored w w₀ := read.trans
      ⟨rows', by rw [trace']; exact List.prefix_append _ _⟩
    rcases reply with error | feed
    · refine ⟨listed, ?_⟩
      rintro _ ⟨⟩
      exact threw _ _ _
    · apply (processItems_safe _ _ w₀ listed).mono (fun _ holds => holds)
      rintro outcome w₁ _ post consumed same progress last
      obtain ⟨outcomes, events, processed, rows'', trace'', remembers⟩ :=
        post consumed same progress last
      refine ⟨feed, outcomes, events, processed, (rows''.trans rows').trans rows, ?_, remembers⟩
      rw [trace'', trace', trace, List.append_assoc w.trace]
      rfl

theorem feedGuids_ne_empty {items : List FeedItem} {guid : String}
    (found : guid ∈ feedGuids items) : guid ≠ "" := by
  obtain ⟨item, _, named⟩ := List.mem_filterMap.1 found
  simpa using (Option.filter_eq_some_iff.1 named).2

/-- The checkpoint after a completed poll is the guid of the last ingested item. -/
theorem storedRows_remembers {progress : PollProgress} {outcomes : List (String × ItemOutcome)}
    {rows : String → Option String} (remembers : Remembers ⟨0, none, none⟩ progress outcomes)
    (named : ∀ guid ∈ ingestedGuids outcomes, guid ≠ "") :
    storedRows progress rows checkpointKey =
      (ingestedGuids outcomes).getLast?.or (rows checkpointKey) := by
  unfold Remembers at remembers
  rcases last : (ingestedGuids outcomes).getLast? with _ | guid
  · rw [last] at remembers
    simp only [storedRows, remembers.1, Option.none_or]
  · rw [last] at remembers
    have present : checkpointKey ≠ "" ∧ guid ≠ "" :=
      ⟨by decide, named guid (List.mem_of_getLast? last)⟩
    simp only [storedRows, remembers.1, remembers.2, present, ne_eq, not_false_eq_true, and_self,
      if_true, Function.update_self, Option.some_or]

/-- A completed poll over a feed in which the stored guid occurs: it skips nothing exactly when
it keeps up with the feed. -/
theorem poll_nothingSkipped_iff {w w' : AdapterWorld} {n : Nat}
    (run : (poll settings).Runs (handler lobsters) w (.ok n) w') {old : String}
    (stored : w.checkpoints checkpointKey = some old) {items : List FeedItem}
    {events : List AdapterEvent}
    (trace : w'.trace = w.trace ++ opening (some old) (some items) ++ events)
    (distinct : (feedGuids items).Nodup) (occurs : old ∈ feedGuids items) :
    ∃ outcomes loop tail, events = loop ++ tail ∧
      Processed settings (itemsToProcess settings (some old) items).reverse outcomes loop ∧
      (NothingSkipped items (some old) (w'.checkpoints checkpointKey) (ingestedGuids outcomes) ↔
        KeepsUp settings items (some old) outcomes) := by
  obtain ⟨progress, w₁, ended, unstored, finishing, rows⟩ :=
    (Program.safe_iff.1 (pollAdapter_safe (fetch_safe settings w))).2 _ w' run n rfl
  obtain ⟨feed, outcomes, loop, processed, rows₁, trace₁, remembers⟩ :=
    ended.elim (fun broke => broke progress (.inl rfl)) fun all => all progress (.inr rfl)
  obtain ⟨tail, trace₂, _⟩ := finishing.events
  rw [stored] at processed trace₁
  rw [trace₂, trace₁, List.append_assoc, List.append_assoc, List.append_assoc,
    List.append_cancel_left_eq] at trace
  have opened : feed = some items ∧ loop ++ tail = events := by
    simp only [opening, List.cons_append, List.nil_append, List.cons.injEq] at trace
    obtain ⟨_, listed, rest⟩ := trace
    cases listed
    exact ⟨rfl, rest⟩
  obtain ⟨rfl, rest⟩ := opened
  refine ⟨outcomes, loop, tail, rest.symm, processed, ?_⟩
  have initial := processed.guids
  rw [Option.getD_some, List.map_reverse, itemsToProcess_guids occurs] at initial
  have named : ∀ guid ∈ ingestedGuids outcomes, guid ≠ "" := by
    intro guid found
    have reached := initial.subset ((List.filter_sublist.map _).subset found)
    have new := List.mem_of_mem_take (List.mem_reverse.1 reached)
    exact feedGuids_ne_empty ((List.takeWhile_sublist _).subset new)
  rw [rows, storedRows_remembers remembers named, rows₁, stored]
  exact nothingSkipped_iff distinct initial

/-! ## A burst of two -/

/-- Content functions that extract nothing. -/
def plainFunctions : ContentFunctions where
  extractUrls _ := []
  extractHashtags _ := []
  extractEntities _ := ([], [])
  hashString guid := guid
  isoFromSeconds _ := none
  isoFromString _ := none

def onePerPoll : Settings := ⟨1, .noop, plainFunctions⟩

/-- Two items are new: the checkpoint is at the oldest one. -/
def burst : List FeedItem := [{ guid := some "c" }, { guid := some "b" }, { guid := some "a" }]

def beforeBurst : AdapterWorld := ⟨fun key => if key = checkpointKey then some "a" else none, []⟩

/-- The content of the newest item. -/
def burstContent : CollectedContent :=
  createCollectedContent {
    eventId := "lobsters:" ++ "c"
    source := .lobsters
    fetchedAt := "2026-01-01T00:00:00.000Z"
    title := some ""
    text := ""
    extracted := some { urls := some [], hashtags := some [] }
    sourceMeta := some [("collected_from", .string "lobsters"), ("guid", .string "c")] }

def burstLoop : List AdapterEvent :=
  [⟨.api .now, .ok "2026-01-01T00:00:00.000Z"⟩,
    ⟨.collector .shutdownRequested, .ok false⟩,
    ⟨.collector (.ingest (normalizeCollectorIngestionEvent burstContent)),
      .ok IngestionStatus.ingested⟩]

def burstTail : List AdapterEvent :=
  [⟨.collector (.setCheckpoint "lobsters" checkpointKey "c"), .ok ()⟩,
    ⟨.collector .now, .ok (0 : Nat)⟩, ⟨.collector .lastSeenCleanupAt, .ok (0 : Nat)⟩,
    ⟨.collector (.publishSourceHeartbeat ⟨"lobsters", 1, "healthy"⟩), .ok ()⟩]

def afterBurst : AdapterWorld where
  checkpoints := Function.update beforeBurst.checkpoints checkpointKey (some "c")
  trace := beforeBurst.trace ++ opening (some "a") (some burst) ++ (burstLoop ++ burstTail)

/-- A completed poll that ingests the newest item only. -/
theorem poll_runs_burst :
    (poll onePerPoll).Runs (handler lobsters) beforeBurst (.ok 1) afterBurst := by
  refine .await (r := .ok (some "a")) (t := ⟨beforeBurst.checkpoints, _⟩)
    ⟨rfl, fun _ => rfl, rfl⟩ ?_
  refine .await (r := .ok (some burst)) (t := ⟨beforeBurst.checkpoints, _⟩) ⟨rfl, rfl⟩ ?_
  refine .await (r := .ok "2026-01-01T00:00:00.000Z") (t := ⟨beforeBurst.checkpoints, _⟩)
    ⟨rfl, rfl⟩ ?_
  refine .await (r := .ok false) (t := ⟨beforeBurst.checkpoints, _⟩) ⟨rfl, rfl⟩ ?_
  refine .await (r := .ok IngestionStatus.ingested) (t := ⟨beforeBurst.checkpoints, _⟩)
    ⟨rfl, rfl⟩ ?_
  refine .await (r := .ok ()) (t := ⟨afterBurst.checkpoints, _⟩) ⟨rfl, (if_pos rfl).symm⟩ ?_
  refine .await (r := .ok (0 : Nat)) (t := ⟨afterBurst.checkpoints, _⟩) ⟨rfl, rfl⟩ ?_
  refine .await (r := .ok (0 : Nat)) (t := ⟨afterBurst.checkpoints, _⟩) ⟨rfl, rfl⟩ ?_
  refine .await (r := .ok ()) (t := ⟨afterBurst.checkpoints, _⟩) ⟨rfl, rfl⟩ ?_
  exact .done

theorem processed_burst :
    Processed onePerPoll (itemsToProcess onePerPoll (some "a") burst).reverse
      [("c", .ingested)] burstLoop := by
  have normalised : (itemToCollectedContent onePerPoll { guid := some "c" } "c").Recorded
      (.ok burstContent) [⟨.api .now, .ok "2026-01-01T00:00:00.000Z"⟩] := .await _ .done
  exact .ingested normalised .nil

theorem checkpoint_afterBurst : afterBurst.checkpoints checkpointKey = some "c" := by
  simp [afterBurst]

/-- The second item was neither ingested nor does it stand ahead of the new checkpoint. -/
theorem poll_skips_burst :
    (poll onePerPoll).Runs (handler lobsters) beforeBurst (.ok 1) afterBurst ∧
      Processed onePerPoll (itemsToProcess onePerPoll (some "a") burst).reverse
        [("c", .ingested)] burstLoop ∧
      ¬NothingSkipped burst (some "a") (afterBurst.checkpoints checkpointKey)
        (ingestedGuids [("c", .ingested)]) := by
  refine ⟨poll_runs_burst, processed_burst, fun nothingSkipped => ?_⟩
  rw [checkpoint_afterBurst] at nothingSkipped
  have second := nothingSkipped "b" (by decide)
  revert second
  decide

theorem poll_nothingSkipped_iff_burst :
    ∃ outcomes loop tail, burstLoop ++ burstTail = loop ++ tail ∧
      Processed onePerPoll (itemsToProcess onePerPoll (some "a") burst).reverse outcomes loop ∧
      (NothingSkipped burst (some "a") (afterBurst.checkpoints checkpointKey)
          (ingestedGuids outcomes) ↔
        KeepsUp onePerPoll burst (some "a") outcomes) :=
  poll_nothingSkipped_iff poll_runs_burst rfl rfl (by decide) (by decide)

end RisingIntelligence.Collector.Lobsters
