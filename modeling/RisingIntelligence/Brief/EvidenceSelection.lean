import RisingIntelligence.Brief.Types
import RisingIntelligence.Shared.Gathered
import RisingIntelligence.Shared.TopN

/-!
# Selection of evidence

The evidence strategies of `apps/brief/src/query-mode-selection.ts`.

The diversity strategy keeps one place for a curated source and one for a discussion, and gives the
others by engagement.  `diversity_spec` says what it selects of any list of distinct events.
-/

namespace RisingIntelligence.Brief

structure RawEventForSelection where
  eventId : String
  source : CanonicalSource
  publishedAt : Option Int
  fetchedAt : Int
  engagementScore : Option Int

def CURATED_SOURCES : List CanonicalSource := [.rss, .news, .github]

def DISCUSSION_SOURCES : List CanonicalSource := [.reddit, .hackernews, .bluesky, .mastodon]

inductive DiversitySourceBucket : Type
  | curated
  | discussion
  | other
  deriving DecidableEq

def resolveDiversitySourceBucket (source : CanonicalSource) : DiversitySourceBucket :=
  if source ∈ CURATED_SOURCES then .curated
  else if source ∈ DISCUSSION_SOURCES then .discussion
  else .other

def getEventRecencyTime (event : RawEventForSelection) : Int :=
  event.publishedAt.getD event.fetchedAt

-- events are objects, which a `Set` tells apart; `raw` reads the fields of one
variable {α : Type} (raw : α → RawEventForSelection)

/-- The comparator of `sortByEngagementThenRecency`. -/
def engagementLe (left right : α) : Bool :=
  let leftScore := (raw left).engagementScore.getD 0
  let rightScore := (raw right).engagementScore.getD 0
  if rightScore ≠ leftScore then decide (rightScore < leftScore)
  else decide (getEventRecencyTime (raw right) ≤ getEventRecencyTime (raw left))

def sortByEngagementThenRecency (events : List α) : List α := events.mergeSort (engagementLe raw)

def selectEvidenceByRecency (events : List α) (maxCount : Nat) : List α := events.take maxCount

def selectEvidenceByEngagement (events : List α) (maxCount : Nat) : List α :=
  (sortByEngagementThenRecency raw events).take maxCount

def eventsOfBucket (bucket : DiversitySourceBucket) (events : List α) : List α :=
  events.filter fun event => resolveDiversitySourceBucket (raw event).source = bucket

variable [DecidableEq α]

def seed (maxCount : Nat) (selected : List α) : Option α → List α
  | none => selected
  | some event =>
      if maxCount ≤ selected.length ∨ event ∈ selected then selected else selected ++ [event]

/-- The reserved places. -/
def diversitySeeds (events : List α) (maxCount : Nat) : List α :=
  seed maxCount (seed maxCount [] (eventsOfBucket raw .curated events).head?)
    (eventsOfBucket raw .discussion events).head?

def diversityRemaining (events : List α) (maxCount : Nat) : List α :=
  (eventsOfBucket raw .curated events ++ eventsOfBucket raw .discussion events ++
    eventsOfBucket raw .other events).filter (· ∉ diversitySeeds raw events maxCount)

/-- The places that are not reserved. -/
def diversityRest (events : List α) (maxCount : Nat) : List α :=
  (sortByEngagementThenRecency raw (diversityRemaining raw events maxCount)).take
    (maxCount - (diversitySeeds raw events maxCount).length)

def selectEvidenceByDiversity (events : List α) (maxCount : Nat) : List α :=
  diversitySeeds raw events maxCount ++ diversityRest raw events maxCount

/-- `Unsupported evidence strategy: ${strategy}` -/
structure UnsupportedStrategy where
  strategy : String

/-- A strategy that was read from a table is not one of its own properties where it is inherited. -/
def selectEvidence (events : List α) (strategy : Js.Keyed EvidenceStrategy) (maxCount : Nat) :
    Except UnsupportedStrategy (List α) :=
  if events = [] ∨ maxCount = 0 then .ok []
  else
    match strategy with
    | .inherited key => .error ⟨key⟩
    | .own .recency => .ok (selectEvidenceByRecency events maxCount)
    | .own .engagement => .ok (selectEvidenceByEngagement raw events maxCount)
    | .own .diversity => .ok (selectEvidenceByDiversity raw events maxCount)

/-! ## The order of engagement -/

section Order

variable {raw} {left right other : α}

omit [DecidableEq α] in
theorem engagementLe_iff : engagementLe raw left right = true ↔
    (raw right).engagementScore.getD 0 < (raw left).engagementScore.getD 0 ∨
      (raw right).engagementScore.getD 0 = (raw left).engagementScore.getD 0 ∧
        getEventRecencyTime (raw right) ≤ getEventRecencyTime (raw left) := by
  unfold engagementLe
  dsimp only
  split
  · rename_i different
    rw [decide_eq_true_eq]
    omega
  · rename_i same
    rw [decide_eq_true_eq]
    omega

omit [DecidableEq α] in
theorem engagementLe_trans (first : engagementLe raw left right = true)
    (second : engagementLe raw right other = true) : engagementLe raw left other = true := by
  rw [engagementLe_iff] at first second ⊢
  omega

omit [DecidableEq α] in
theorem engagementLe_total (left right : α) :
    (engagementLe raw left right || engagementLe raw right left) = true := by
  rw [Bool.or_eq_true, engagementLe_iff, engagementLe_iff]
  omega

end Order

/-! ## The diversity strategy -/

section Diversity

variable {raw} {events : List α} {bucket : DiversitySourceBucket} {event : α} {maxCount : Nat}

omit [DecidableEq α] in
theorem mem_eventsOfBucket : event ∈ eventsOfBucket raw bucket events ↔
    event ∈ events ∧ resolveDiversitySourceBucket (raw event).source = bucket := by
  unfold eventsOfBucket
  rw [List.mem_filter, decide_eq_true_eq]

omit [DecidableEq α] in
/-- Each event is in one bucket. -/
theorem buckets_perm (raw : α → RawEventForSelection) (events : List α) :
    (eventsOfBucket raw .curated events ++ eventsOfBucket raw .discussion events ++
      eventsOfBucket raw .other events).Perm events := by
  induction events with
  | nil => exact List.Perm.refl []
  | cons event events ih =>
      unfold eventsOfBucket at ih ⊢
      cases bucket : resolveDiversitySourceBucket (raw event).source with
      | curated => simpa [bucket] using ih
      | discussion =>
          simp only [List.filter_cons, bucket]
          simp only [List.append_assoc] at ih ⊢
          exact (List.perm_middle).trans (ih.cons event)
      | other =>
          simp only [List.filter_cons, bucket]
          exact (List.perm_middle).trans (ih.cons event)

omit [DecidableEq α] in
theorem head?_eventsOfBucket (first : (eventsOfBucket raw bucket events).head? = some event) :
    event ∈ events ∧ resolveDiversitySourceBucket (raw event).source = bucket :=
  mem_eventsOfBucket.1 (List.mem_of_head? first)

theorem seed_of_room {selected : List α} (room : selected.length < maxCount)
    (fresh : event ∉ selected) : seed maxCount selected (some event) = selected ++ [event] := by
  have free : ¬ (maxCount ≤ selected.length ∨ event ∈ selected) := by
    rw [not_or]
    exact ⟨Nat.not_le.2 room, fresh⟩
  exact if_neg free

/-- Seeding adds the candidate where there is room and it is new. -/
theorem seed_eq (maxCount : Nat) (selected : List α) (candidate : Option α) :
    seed maxCount selected candidate = selected ∨
      ∃ event, candidate = some event ∧ selected.length < maxCount ∧ event ∉ selected ∧
        seed maxCount selected candidate = selected ++ [event] := by
  cases candidate with
  | none => exact .inl rfl
  | some event =>
      by_cases free : maxCount ≤ selected.length ∨ event ∈ selected
      · exact .inl (if_pos free)
      · have added : seed maxCount selected (some event) = selected ++ [event] := if_neg free
        rw [not_or, not_le] at free
        exact .inr ⟨event, rfl, free.1, free.2, added⟩

/-- What seeding leaves: distinct events of the list that fit. -/
structure Seeded (raw : α → RawEventForSelection) (events : List α) (maxCount : Nat)
    (selected : List α) : Prop where
  nodup : selected.Nodup
  fits : selected.length ≤ maxCount
  reserved : ∀ event ∈ selected,
    (eventsOfBucket raw .curated events).head? = some event ∨
      (eventsOfBucket raw .discussion events).head? = some event

theorem Seeded.seed {selected : List α} {candidate : Option α}
    (seeded : Seeded raw events maxCount selected)
    (first : candidate = (eventsOfBucket raw .curated events).head? ∨
      candidate = (eventsOfBucket raw .discussion events).head?) :
    Seeded raw events maxCount (seed maxCount selected candidate) := by
  rcases seed_eq maxCount selected candidate with same | ⟨event, rfl, room, fresh, added⟩
  · rw [same]
    exact seeded
  · rw [added]
    constructor
    case nodup =>
      rw [← List.concat_eq_append]
      exact seeded.nodup.concat fresh
    case fits =>
      rw [List.length_append, List.length_singleton]
      exact room
    case reserved =>
      intro other mem
      rcases List.mem_append.1 mem with before | here
      · exact seeded.reserved other before
      · rw [List.mem_singleton.1 here]
        exact first.imp Eq.symm Eq.symm

theorem seeded_diversitySeeds (raw : α → RawEventForSelection) (events : List α) (maxCount : Nat) :
    Seeded raw events maxCount (diversitySeeds raw events maxCount) := by
  have empty : Seeded raw events maxCount [] := ⟨List.nodup_nil, Nat.zero_le _, nofun⟩
  exact (empty.seed (.inl rfl)).seed (.inr rfl)

omit [DecidableEq α] in
theorem Seeded.subset {selected : List α} (seeded : Seeded raw events maxCount selected) :
    selected ⊆ events := by
  intro event mem
  rcases seeded.reserved event mem with first | first
  · exact (head?_eventsOfBucket first).1
  · exact (head?_eventsOfBucket first).1

theorem mem_diversitySeeds_of_curated
    (first : (eventsOfBucket raw .curated events).head? = some event) (some : 1 ≤ maxCount) :
    event ∈ diversitySeeds raw events maxCount := by
  have one : seed maxCount [] (.some event) = [event] := seed_of_room some List.not_mem_nil
  unfold diversitySeeds
  rw [first, one]
  rcases seed_eq maxCount [event] (eventsOfBucket raw .discussion events).head? with
    same | ⟨other, -, -, -, added⟩
  · rw [same]
    exact List.mem_singleton_self event
  · rw [added]
    exact List.mem_append_left _ (List.mem_singleton_self event)

theorem mem_diversitySeeds_of_discussion
    (first : (eventsOfBucket raw .discussion events).head? = some event) (some : 1 ≤ maxCount)
    (room : 2 ≤ maxCount ∨ eventsOfBucket raw .curated events = []) :
    event ∈ diversitySeeds raw events maxCount := by
  unfold diversitySeeds
  rw [first]
  rcases seed_eq maxCount [] (eventsOfBucket raw .curated events).head? with
    same | ⟨other, head, -, -, added⟩
  · rw [same, seed_of_room some List.not_mem_nil]
    exact List.mem_singleton_self event
  · have curated := head?_eventsOfBucket head
    have discussion := head?_eventsOfBucket first
    have apart : event ∉ [other] := by
      intro same
      rw [List.mem_singleton.1 same, curated.2] at discussion
      exact DiversitySourceBucket.noConfusion discussion.2
    have two : 2 ≤ maxCount := by
      rcases room with two | none
      · exact two
      · rw [none] at head
        cases head
    rw [added, List.nil_append, seed_of_room two apart]
    exact List.mem_append_right _ (List.mem_singleton_self event)

theorem mem_diversityRemaining : event ∈ diversityRemaining raw events maxCount ↔
    event ∈ events ∧ event ∉ diversitySeeds raw events maxCount := by
  unfold diversityRemaining
  rw [List.mem_filter, (buckets_perm raw events).mem_iff, decide_eq_true_eq]

theorem nodup_diversityRemaining (distinct : events.Nodup) :
    (diversityRemaining raw events maxCount).Nodup :=
  ((buckets_perm raw events).nodup_iff.2 distinct).filter _

/-- The reserved places and the others are all events. -/
theorem perm_seeds_remaining (distinct : events.Nodup) :
    (diversitySeeds raw events maxCount ++ diversityRemaining raw events maxCount).Perm events := by
  have seeded := seeded_diversitySeeds raw events maxCount
  rw [List.perm_ext_iff_of_nodup _ distinct]
  · intro event
    rw [List.mem_append, mem_diversityRemaining]
    constructor
    · intro found
      rcases found with seeds | remaining
      · exact seeded.subset seeds
      · exact remaining.1
    · intro mem
      by_cases seeds : event ∈ diversitySeeds raw events maxCount
      · exact .inl seeds
      · exact .inr ⟨mem, seeds⟩
  · rw [List.nodup_append]
    refine ⟨seeded.nodup, nodup_diversityRemaining distinct, ?_⟩
    intro event seeds other remaining same
    exact (mem_diversityRemaining.1 remaining).2 (same ▸ seeds)

theorem mem_of_mem_diversityRest (mem : event ∈ diversityRest raw events maxCount) :
    event ∈ diversityRemaining raw events maxCount :=
  List.mem_mergeSort.1 (List.mem_of_mem_take mem)

theorem length_selectEvidenceByDiversity (distinct : events.Nodup) :
    (selectEvidenceByDiversity raw events maxCount).length = min events.length maxCount := by
  have fits := (seeded_diversitySeeds raw events maxCount).fits
  have same : (diversitySeeds raw events maxCount ++ diversityRemaining raw events maxCount).Perm
      events := perm_seeds_remaining distinct
  have all := same.length_eq
  unfold selectEvidenceByDiversity diversityRest sortByEngagementThenRecency
  rw [List.length_append, List.length_take, List.length_mergeSort]
  rw [List.length_append] at all
  omega

theorem nodup_selectEvidenceByDiversity (distinct : events.Nodup) :
    (selectEvidenceByDiversity raw events maxCount).Nodup := by
  unfold selectEvidenceByDiversity
  rw [List.nodup_append]
  refine ⟨(seeded_diversitySeeds raw events maxCount).nodup, ?_, ?_⟩
  · have sorted := (List.mergeSort_perm (diversityRemaining raw events maxCount)
      (engagementLe raw)).nodup_iff.2 (nodup_diversityRemaining distinct)
    exact sorted.sublist (List.take_sublist _ _)
  · intro event seeds other rest same
    exact (mem_diversityRemaining.1 (mem_of_mem_diversityRest rest)).2 (same ▸ seeds)

theorem selectEvidenceByDiversity_subset :
    selectEvidenceByDiversity raw events maxCount ⊆ events := by
  intro event mem
  rcases List.mem_append.1 mem with seeds | rest
  · exact (seeded_diversitySeeds raw events maxCount).subset seeds
  · exact (mem_diversityRemaining.1 (mem_of_mem_diversityRest rest)).1

omit [DecidableEq α] in
theorem exists_head?_eventsOfBucket (mem : event ∈ events)
    (inside : resolveDiversitySourceBucket (raw event).source = bucket) :
    ∃ first, (eventsOfBucket raw bucket events).head? = some first := by
  have found := mem_eventsOfBucket.2 ⟨mem, inside⟩
  cases listed : eventsOfBucket raw bucket events with
  | nil =>
      rw [listed] at found
      cases found
  | cons first rest => exact ⟨first, rfl⟩

theorem bucket_eq_curated_iff {source : CanonicalSource} :
    resolveDiversitySourceBucket source = .curated ↔ source ∈ CURATED_SOURCES := by
  cases source <;> decide

theorem bucket_eq_discussion_iff {source : CanonicalSource} :
    resolveDiversitySourceBucket source = .discussion ↔ source ∈ DISCUSSION_SOURCES := by
  cases source <;> decide

end Diversity

/-- What is selected fits, and is of the list. -/
theorem selectEvidence_fits {events selected : List α} {strategy : Js.Keyed EvidenceStrategy}
    {maxCount : Nat} (selects : selectEvidence raw events strategy maxCount = .ok selected) :
    selected.length ≤ maxCount ∧ selected ⊆ events := by
  unfold selectEvidence at selects
  by_cases none : events = [] ∨ maxCount = 0
  · rw [if_pos none] at selects
    obtain rfl := Except.ok.inj selects
    exact ⟨Nat.zero_le _, List.nil_subset _⟩
  · rw [if_neg none] at selects
    match strategy with
    | .inherited key => cases selects
    | .own .recency =>
        obtain rfl := Except.ok.inj selects
        exact ⟨List.length_take_le _ _, List.take_subset _ _⟩
    | .own .engagement =>
        obtain rfl := Except.ok.inj selects
        refine ⟨List.length_take_le _ _, fun event mem => ?_⟩
        exact List.mem_mergeSort.1 (List.mem_of_mem_take mem)
    | .own .diversity =>
        obtain rfl := Except.ok.inj selects
        refine ⟨?_, selectEvidenceByDiversity_subset⟩
        have fits := (seeded_diversitySeeds raw events maxCount).fits
        have rest : (diversityRest raw events maxCount).length ≤
            maxCount - (diversitySeeds raw events maxCount).length := List.length_take_le _ _
        unfold selectEvidenceByDiversity
        rw [List.length_append]
        omega

/-! ## Repeated events -/

section Repeated

/-- What a strategy places by its order, but for the last place. -/
def placedBeforeLast (events : List α) (strategy : Js.Keyed EvidenceStrategy) (maxCount : Nat) :
    List α :=
  match strategy with
  | .inherited _ => []
  | .own .recency => events.take (maxCount - 1)
  | .own .engagement => (sortByEngagementThenRecency raw events).take (maxCount - 1)
  | .own .diversity =>
      (sortByEngagementThenRecency raw (diversityRemaining raw events maxCount)).take
        (maxCount - (diversitySeeds raw events maxCount).length - 1)

variable {raw} {events selected : List α} {strategy : Js.Keyed EvidenceStrategy} {maxCount : Nat}

omit [DecidableEq α] in
theorem gathered_sortByEngagement (gathered : Gathered events) :
    Gathered (sortByEngagementThenRecency raw events) :=
  gathered.mergeSort (fun _ _ _ => engagementLe_trans) engagementLe_total

theorem gathered_diversityRemaining (gathered : Gathered events) :
    Gathered (diversityRemaining raw events maxCount) := by
  have bucket : ∀ bucket, Gathered (eventsOfBucket raw bucket events) :=
    fun _ => gathered.sublist List.filter_sublist
  refine Gathered.sublist (((bucket .curated).append (bucket .discussion) ?_).append
    (bucket .other) ?_) List.filter_sublist
  · intro event curated discussion
    have first := (mem_eventsOfBucket.1 curated).2
    rw [(mem_eventsOfBucket.1 discussion).2] at first
    cases first
  · intro event before other
    have last := (mem_eventsOfBucket.1 other).2
    rcases List.mem_append.1 before with curated | discussion
    · rw [(mem_eventsOfBucket.1 curated).2] at last
      cases last
    · rw [(mem_eventsOfBucket.1 discussion).2] at last
      cases last

theorem count_diversityRemaining {event : α}
    (mem : event ∈ diversityRemaining raw events maxCount) :
    (diversityRemaining raw events maxCount).count event = events.count event := by
  have fresh := (mem_diversityRemaining.1 mem).2
  have kept : decide (event ∉ diversitySeeds raw events maxCount) = true := decide_eq_true fresh
  rw [← (buckets_perm raw events).count_eq]
  exact List.count_filter (p := fun other => decide (other ∉ diversitySeeds raw events maxCount)) kept

theorem nodup_diversity_iff (gathered : Gathered events) :
    (selectEvidenceByDiversity raw events maxCount).Nodup ↔
      ∀ event ∈ placedBeforeLast raw events (.own .diversity) maxCount, events.count event ≤ 1 := by
  have sorted : Gathered (sortByEngagementThenRecency raw
      (diversityRemaining raw events maxCount)) :=
    gathered_sortByEngagement (gathered_diversityRemaining gathered)
  have same : (sortByEngagementThenRecency raw (diversityRemaining raw events maxCount)).Perm
      (diversityRemaining raw events maxCount) := List.mergeSort_perm _ _
  have rest : (selectEvidenceByDiversity raw events maxCount).Nodup ↔
      (diversityRest raw events maxCount).Nodup := by
    unfold selectEvidenceByDiversity
    rw [List.nodup_append]
    refine ⟨fun distinct => distinct.2.1, fun distinct => ⟨?_, distinct, ?_⟩⟩
    · exact (seeded_diversitySeeds raw events maxCount).nodup
    · intro event seeds other rest same
      exact (mem_diversityRemaining.1 (mem_of_mem_diversityRest rest)).2 (same ▸ seeds)
  rw [rest]
  unfold diversityRest placedBeforeLast
  rw [sorted.nodup_take_iff]
  refine forall_congr' fun event => forall_congr' fun mem => ?_
  have remaining := same.mem_iff.1 (List.mem_of_mem_take mem)
  rw [same.count_eq, count_diversityRemaining remaining]

theorem of_mem_placedBeforeLast {event : α}
    (mem : event ∈ placedBeforeLast raw events strategy maxCount) : event ∈ events ∧ maxCount ≠ 0 := by
  unfold placedBeforeLast at mem
  split at mem
  · cases mem
  all_goals
    have short := List.length_pos_of_mem mem
    rw [List.length_take] at short
    have there := List.mem_of_mem_take mem
  · exact ⟨there, by omega⟩
  · exact ⟨List.mem_mergeSort.1 there, by omega⟩
  · exact ⟨(mem_diversityRemaining.1 (List.mem_mergeSort.1 there)).1, by omega⟩

/-- No event is selected twice if those before the last place are listed once; the reserved places
repeat none. -/
theorem nodup_selectEvidence_iff (gathered : Gathered events)
    (selects : selectEvidence raw events strategy maxCount = .ok selected) :
    selected.Nodup ↔
      ∀ event ∈ placedBeforeLast raw events strategy maxCount, events.count event ≤ 1 := by
  unfold selectEvidence at selects
  by_cases none : events = [] ∨ maxCount = 0
  · rw [if_pos none] at selects
    obtain rfl := Except.ok.inj selects
    refine iff_of_true List.nodup_nil fun event mem => ?_
    have placed := of_mem_placedBeforeLast mem
    rcases none with empty | zero
    · rw [empty] at placed
      cases placed.1
    · exact absurd zero placed.2
  · rw [if_neg none] at selects
    match strategy with
    | .inherited key => cases selects
    | .own .recency =>
        obtain rfl := Except.ok.inj selects
        exact gathered.nodup_take_iff
    | .own .engagement =>
        obtain rfl := Except.ok.inj selects
        have same : (sortByEngagementThenRecency raw events).Perm events := List.mergeSort_perm _ _
        unfold selectEvidenceByEngagement
        rw [(gathered_sortByEngagement gathered).nodup_take_iff]
        simp only [same.count_eq]
        rfl
    | .own .diversity =>
        obtain rfl := Except.ok.inj selects
        exact nodup_diversity_iff gathered

end Repeated

/-- What the diversity strategy selects of distinct events: as many as fit, one of a curated source,
one of a discussion where there is a place for it, and for the other places the best. -/
theorem diversity_spec {events : List α} {maxCount : Nat} (distinct : events.Nodup)
    (some : 1 ≤ maxCount) :
    ∃ reserved rest, selectEvidence raw events (.own .diversity) maxCount = .ok (reserved ++ rest) ∧
      (reserved ++ rest).length = min events.length maxCount ∧
      (reserved ++ rest).Nodup ∧ reserved ++ rest ⊆ events ∧
      ((∃ event ∈ events, (raw event).source ∈ CURATED_SOURCES) →
        ∃ event ∈ reserved ++ rest, (raw event).source ∈ CURATED_SOURCES) ∧
      ((∃ event ∈ events, (raw event).source ∈ DISCUSSION_SOURCES) →
        (2 ≤ maxCount ∨ ¬ ∃ event ∈ events, (raw event).source ∈ CURATED_SOURCES) →
        ∃ event ∈ reserved ++ rest, (raw event).source ∈ DISCUSSION_SOURCES) ∧
      (∀ event ∈ reserved, (eventsOfBucket raw .curated events).head? = .some event ∨
        (eventsOfBucket raw .discussion events).head? = .some event) ∧
      ∀ chosen ∈ rest, ∀ left ∈ events, left ∉ reserved ++ rest →
        engagementLe raw chosen left = true := by
  refine ⟨diversitySeeds raw events maxCount, diversityRest raw events maxCount, ?_,
    length_selectEvidenceByDiversity distinct, nodup_selectEvidenceByDiversity distinct,
    selectEvidenceByDiversity_subset, ?_, ?_,
    (seeded_diversitySeeds raw events maxCount).reserved, ?_⟩
  · unfold selectEvidence
    by_cases none : events = [] ∨ maxCount = 0
    · have empty : events = [] := none.resolve_right (by omega)
      have nothing : (selectEvidenceByDiversity raw events maxCount).length =
          min events.length maxCount := length_selectEvidenceByDiversity distinct
      rw [empty, List.length_nil, Nat.zero_min, List.length_eq_zero_iff] at nothing
      rw [if_pos none, empty]
      exact congrArg Except.ok nothing.symm
    · rw [if_neg none]
      rfl
  · intro curated
    obtain ⟨event, mem, source⟩ := curated
    obtain ⟨first, head⟩ := exists_head?_eventsOfBucket mem (bucket_eq_curated_iff.2 source)
    exact ⟨first, List.mem_append_left _ (mem_diversitySeeds_of_curated head some),
      bucket_eq_curated_iff.1 (head?_eventsOfBucket head).2⟩
  · intro discussion room
    obtain ⟨event, mem, source⟩ := discussion
    obtain ⟨first, head⟩ := exists_head?_eventsOfBucket mem (bucket_eq_discussion_iff.2 source)
    have place : 2 ≤ maxCount ∨ eventsOfBucket raw .curated events = [] := by
      refine room.imp_right fun none => ?_
      rw [List.eq_nil_iff_forall_not_mem]
      intro other found
      obtain ⟨there, inside⟩ := mem_eventsOfBucket.1 found
      exact none ⟨other, there, bucket_eq_curated_iff.1 inside⟩
    exact ⟨first, List.mem_append_left _ (mem_diversitySeeds_of_discussion head some place),
      bucket_eq_discussion_iff.1 (head?_eventsOfBucket head).2⟩
  · intro chosen rest left mem out
    rw [List.mem_append, not_or] at out
    exact le_of_cut (fun _ _ _ => engagementLe_trans) engagementLe_total rest
      (mem_diversityRemaining.2 ⟨mem, out.1⟩) out.2

/-- A feed item and three discussions, of rising engagement. -/
def fourEvents : List (Fin 4) := [0, 1, 2, 3]

def fourRaw (event : Fin 4) : RawEventForSelection where
  eventId := toString event.val
  source := if event = 0 then .rss else .reddit
  publishedAt := none
  fetchedAt := event.val
  engagementScore := some event.val

theorem diversity_spec_fourEvents :
    ∃ reserved rest, selectEvidence fourRaw fourEvents (.own .diversity) 3 = .ok (reserved ++ rest) ∧
      (reserved ++ rest).length = min fourEvents.length 3 ∧
      (reserved ++ rest).Nodup ∧ reserved ++ rest ⊆ fourEvents ∧
      ((∃ event ∈ fourEvents, (fourRaw event).source ∈ CURATED_SOURCES) →
        ∃ event ∈ reserved ++ rest, (fourRaw event).source ∈ CURATED_SOURCES) ∧
      ((∃ event ∈ fourEvents, (fourRaw event).source ∈ DISCUSSION_SOURCES) →
        (2 ≤ 3 ∨ ¬ ∃ event ∈ fourEvents, (fourRaw event).source ∈ CURATED_SOURCES) →
        ∃ event ∈ reserved ++ rest, (fourRaw event).source ∈ DISCUSSION_SOURCES) ∧
      (∀ event ∈ reserved, (eventsOfBucket fourRaw .curated fourEvents).head? = some event ∨
        (eventsOfBucket fourRaw .discussion fourEvents).head? = some event) ∧
      ∀ chosen ∈ rest, ∀ left ∈ fourEvents, left ∉ reserved ++ rest →
        engagementLe fourRaw chosen left = true :=
  diversity_spec fourRaw (by decide) (by decide)

end RisingIntelligence.Brief
