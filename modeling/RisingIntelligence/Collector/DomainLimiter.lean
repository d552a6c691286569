import RisingIntelligence.Collector.ContentFetcher
import RisingIntelligence.Shared.Recency
import Mathlib.Tactic.Linarith
import Mathlib.Tactic.Ring

/-!
# The limiter of a domain

`InMemoryDomainRequestLimiter` of `apps/collector/src/content-fetcher.ts`: a call reserves the next
slot of its domain before it sleeps, in a map that forgets the domain reserved least recently when it
has too many.

* A call runs without interruption until it sleeps, so this part is one call of the program; the
  sleeps of any number of calls interleave.
* `spaced_of_sparing`: as long as no domain is forgotten whose slot is still ahead, the releases
  granted to a domain are spaced, in the order of the calls, and no call returns before its own.

Times are exact rationals, and the clock never goes back.
-/

namespace RisingIntelligence.Collector

open Async Js.Map

def MAX_TRACKED_DOMAINS : Nat := 10000

structure DomainLimiterConfig where
  api : Js.UrlApi
  domainDelayMs : ℚ

/-- When each domain may be asked next. -/
abbrev NextAllowedAt : Type := List (String × ℚ)

namespace DomainLimiter

def rememberRequest (domain : String) (nextAllowedAt : ℚ) (nextAllowedAtByDomain : NextAllowedAt) :
    NextAllowedAt :=
  let others :=
    if domain ∈ nextAllowedAtByDomain.map (·.1) then delete domain nextAllowedAtByDomain
    else nextAllowedAtByDomain
  evictOldest MAX_TRACKED_DOMAINS (set domain nextAllowedAt others)

/-- `wait(url)` until it sleeps: for how long, and the slots that are reserved. -/
def reserve (config : DomainLimiterConfig) (now : ℚ) (url : String)
    (nextAllowedAtByDomain : NextAllowedAt) : ℚ × NextAllowedAt :=
  if config.domainDelayMs ≤ 0 then (0, nextAllowedAtByDomain)
  else
    match ContentFetcher.extractDomain config.api url with
    | none => (0, nextAllowedAtByDomain)
    | some domain =>
        if domain = "" then (0, nextAllowedAtByDomain)
        else
          let nextAllowedAt := (get domain nextAllowedAtByDomain).getD now
          let scheduledAt := max now nextAllowedAt
          (scheduledAt - now,
            rememberRequest domain (scheduledAt + config.domainDelayMs) nextAllowedAtByDomain)

/-- The part of `wait` before it sleeps, and `setTimeout`. -/
inductive LimiterCall : Type
  | reserve (url : String)
  | sleep (delayMs : ℚ)

@[reducible] def LimiterCall.Reply : LimiterCall → Type
  | .reserve _ => ℚ
  | .sleep _ => Unit

abbrev limiter : Interface where
  Call := LimiterCall
  Reply := LimiterCall.Reply
  Error := Empty

def wait (url : String) : Program limiter Empty Unit := do
  let delayMs ← Program.call (I := limiter) (.reserve url)
  if 0 < delayMs then Program.call (I := limiter) (.sleep delayMs) else pure ()

/-- A call that was made, with the time of its release. -/
structure Grant (ι : Type) where
  caller : ι
  domain : Option String
  reservedAt : ℚ
  releasedAt : ℚ

structure LimiterWorld (ι : Type) where
  nextAllowedAtByDomain : NextAllowedAt
  clock : ℚ
  /-- In the order of the calls. -/
  grants : List (Grant ι)
  /-- When each caller last went on. -/
  wentOnAt : ι → ℚ

section World

variable {ι : Type} [DecidableEq ι]

/-- A call at a time. -/
def LimiterWorld.reserve (config : DomainLimiterConfig) (now : ℚ) (caller : ι) (url : String)
    (world : LimiterWorld ι) : LimiterWorld ι where
  nextAllowedAtByDomain := (DomainLimiter.reserve config now url world.nextAllowedAtByDomain).2
  clock := now
  grants := world.grants ++ [{
    caller
    domain := ContentFetcher.extractDomain config.api url
    reservedAt := now
    releasedAt := now + (DomainLimiter.reserve config now url world.nextAllowedAtByDomain).1 }]
  wentOnAt := Function.update world.wentOnAt caller now

/-- The longest delay of a timer; a longer one ends at once. -/
def MAX_TIMER_MS : ℚ := 2 ^ 31 - 1

/-- The clock is read once in a call, and moves on while the caller sleeps. -/
def timers (config : DomainLimiterConfig) (caller : ι) : Handler limiter (LimiterWorld ι)
  | world, .reserve url, reply, world' =>
      ∃ now, world.clock ≤ now ∧
        reply = .ok (reserve config now url world.nextAllowedAtByDomain).1 ∧
        world' = world.reserve config now caller url
  | world, .sleep delayMs, reply, world' =>
      ∃ now, world.clock ≤ now ∧
        (delayMs ≤ MAX_TIMER_MS → world.wentOnAt caller + delayMs ≤ now) ∧
        reply = .ok () ∧
        world' = { world with clock := now, wentOnAt := Function.update world.wentOnAt caller now }

end World

def LimiterWorld.start (ι : Type) (clock : ℚ) : LimiterWorld ι where
  nextAllowedAtByDomain := []
  clock
  grants := []
  wentOnAt _ := clock

/-- Calls that nobody has answered yet. -/
def startWaits {ι : Type} (urls : ι → String) (clock : ℚ) :
    Pool ι limiter Empty Unit (LimiterWorld ι) where
  threads i := wait (urls i)
  state := .start ι clock

/-- Two releases of a domain are far enough from each other. -/
def SpacedGrants {ι : Type} (config : DomainLimiterConfig) (grants : List (Grant ι)) : Prop :=
  grants.Pairwise fun earlier later => ∀ domain, domain ≠ "" → earlier.domain = some domain →
    later.domain = some domain → earlier.releasedAt + config.domainDelayMs ≤ later.releasedAt

/-- The caller went on no earlier than its release, if a timer can wait so long. -/
def Punctual {ι : Type} (caller : ι) (world : LimiterWorld ι) : Prop :=
  ∀ grant ∈ world.grants, grant.caller = caller →
    grant.releasedAt - grant.reservedAt ≤ MAX_TIMER_MS → grant.releasedAt ≤ world.wentOnAt caller

/-! ## The condition -/

/-- If a call has to forget a domain, then one whose slot is not ahead. -/
def Spares (config : DomainLimiterConfig) (now : ℚ) (url : String)
    (nextAllowedAtByDomain : NextAllowedAt) : Prop :=
  ∀ domain, domain ≠ "" → ContentFetcher.extractDomain config.api url = some domain →
    domain ∉ nextAllowedAtByDomain.map (·.1) →
      MAX_TRACKED_DOMAINS ≤ nextAllowedAtByDomain.length →
        ∀ oldest ∈ nextAllowedAtByDomain.head?, oldest.2 ≤ now

/-- The steps whose calls spare the slots that are ahead. -/
def sparing {ι : Type} [DecidableEq ι] (config : DomainLimiterConfig) (caller : ι) :
    Handler limiter (LimiterWorld ι) :=
  fun world c reply world' => timers config caller world c reply world' ∧
    ∀ url, c = .reserve url → Spares config world'.clock url world.nextAllowedAtByDomain

/-! ## The invariant -/

section Invariant

variable {ι : Type} {config : DomainLimiterConfig} {map : NextAllowedAt}
  {domain other url : String} {now nextAllowedAt : ℚ} {world world' : LimiterWorld ι}

theorem rememberRequest_eq :
    rememberRequest domain nextAllowedAt map = remember MAX_TRACKED_DOMAINS domain nextAllowedAt map := by
  unfold rememberRequest remember
  dsimp only
  by_cases known : domain ∈ map.map (·.1)
  · rw [if_pos known]
  · rw [if_neg known, delete_of_notMem known]

/-- Every domain that is tracked is tracked once, and not too many are. -/
structure Tracked (map : NextAllowedAt) : Prop where
  nodup : (map.map (·.1)).Nodup
  bounded : map.length ≤ MAX_TRACKED_DOMAINS

/-- A release that later ones of its domain keep away from: its slot is reserved, or is over. -/
def Reserved (config : DomainLimiterConfig) (map : NextAllowedAt) (clock : ℚ) (grant : Grant ι) :
    Prop :=
  ∀ domain, domain ≠ "" → grant.domain = some domain →
    (0 < config.domainDelayMs ∧ ∃ slot, get domain map = some slot ∧
      grant.releasedAt + config.domainDelayMs ≤ slot) ∨
      grant.releasedAt + config.domainDelayMs ≤ clock

structure Polite (config : DomainLimiterConfig) (world : LimiterWorld ι) : Prop where
  tracked : Tracked world.nextAllowedAtByDomain
  reserved : ∀ grant ∈ world.grants, Reserved config world.nextAllowedAtByDomain world.clock grant
  spaced : SpacedGrants config world.grants

/-- A slot is kept, or is not ahead. -/
def KeepsSlots (now : ℚ) (map map' : NextAllowedAt) : Prop :=
  ∀ domain slot, get domain map = some slot →
    (∃ slot', get domain map' = some slot' ∧ slot ≤ slot') ∨ slot ≤ now

/-- What a call has to do for its own release. -/
structure Takes (config : DomainLimiterConfig) (now : ℚ) (map map' : NextAllowedAt)
    (grant : Grant ι) : Prop where
  reserves : Reserved config map' now grant
  waits : ∀ domain, domain ≠ "" → grant.domain = some domain → now ≤ grant.releasedAt ∧
    (0 < config.domainDelayMs → ∀ slot, get domain map = some slot → slot ≤ grant.releasedAt)

theorem Polite.grant {map' : NextAllowedAt} {grant : Grant ι} {wentOnAt : ι → ℚ} (polite : Polite config world)
    (later : world.clock ≤ now) (tracked : Tracked map')
    (kept : KeepsSlots now world.nextAllowedAtByDomain map')
    (takes : Takes config now world.nextAllowedAtByDomain map' grant) :
    Polite config ⟨map', now, world.grants ++ [grant], wentOnAt⟩ where
  tracked := tracked
  reserved := by
    intro given mem domain named same
    rcases List.mem_append.1 mem with before | last
    · rcases polite.reserved given before domain named same with ⟨positive, slot, found, apart⟩ | past
      · rcases kept domain slot found with ⟨slot', found', least⟩ | past
        · exact .inl ⟨positive, slot', found', apart.trans least⟩
        · exact .inr (apart.trans past)
      · exact .inr (past.trans later)
    · rw [List.mem_singleton.1 last] at same ⊢
      exact takes.reserves domain named same
  spaced := by
    refine List.pairwise_append.2 ⟨polite.spaced, List.pairwise_singleton _ _, ?_⟩
    intro earlier before last mem domain named first second
    rw [List.mem_singleton.1 mem] at second ⊢
    obtain ⟨now_le, slots⟩ := takes.waits domain named second
    rcases polite.reserved earlier before domain named first with ⟨positive, slot, found, apart⟩ | past
    · exact apart.trans (slots positive slot found)
    · exact past.trans (later.trans now_le)

theorem KeepsSlots.refl : KeepsSlots now map map :=
  fun _ slot found => .inl ⟨slot, found, le_refl slot⟩

theorem Tracked.remember (tracked : Tracked map) :
    Tracked (remember MAX_TRACKED_DOMAINS domain nextAllowedAt map) where
  nodup := nodup_keys_remember tracked.nodup
  bounded := length_remember_le tracked.nodup tracked.bounded

/-- What a call forgets is not ahead. -/
theorem evicted_le (tracked : Tracked map) (named : domain ≠ "")
    (own : ContentFetcher.extractDomain config.api url = some domain)
    (spares : Spares config now url map) :
    ∀ entry ∈ evicted MAX_TRACKED_DOMAINS domain map, entry.2 ≤ now := by
  intro entry forgotten
  unfold evicted at forgotten
  by_cases known : domain ∈ map.map (·.1)
  · have room := length_delete_lt known
    have bounded := tracked.bounded
    rw [if_pos (by omega)] at forgotten
    cases forgotten
  · rw [delete_of_notMem known] at forgotten
    split at forgotten
    · cases forgotten
    · rename_i full
      exact spares domain named own known (Nat.not_lt.1 full) entry forgotten

theorem keepsSlots_remember (tracked : Tracked map)
    (spared : ∀ entry ∈ evicted MAX_TRACKED_DOMAINS domain map, entry.2 ≤ now)
    (own : ∀ slot, get domain map = some slot → slot ≤ nextAllowedAt) :
    KeepsSlots now map (remember MAX_TRACKED_DOMAINS domain nextAllowedAt map) := by
  intro other slot found
  by_cases same : other = domain
  · rw [same] at found ⊢
    exact .inl ⟨nextAllowedAt, get_remember tracked.nodup (by decide), own slot found⟩
  · by_cases forgotten : other ∈ (evicted MAX_TRACKED_DOMAINS domain map).map (·.1)
    · obtain ⟨entry, oldest, rfl⟩ := Option.mem_map.1 forgotten
      have listed := mem_of_mem_evicted oldest
      have slot_eq : get entry.1 map = some entry.2 := get_of_mem tracked.nodup listed
      rw [slot_eq] at found
      cases found
      exact .inr (spared entry oldest)
    · rw [← get_remember_of_ne nextAllowedAt tracked.nodup same forgotten] at found
      exact .inl ⟨slot, found, le_refl slot⟩

variable [DecidableEq ι]

/-- One call. -/
theorem Polite.reserve {caller : ι} (polite : Polite config world) (later : world.clock ≤ now)
    (spares : Spares config now url world.nextAllowedAtByDomain) :
    Polite config (world.reserve config now caller url) := by
  unfold LimiterWorld.reserve DomainLimiter.reserve
  by_cases delayed : config.domainDelayMs ≤ 0
  · rw [if_pos delayed]
    refine polite.grant later polite.tracked .refl ⟨fun domain _ _ => .inr ?_, fun domain _ _ =>
      ⟨?_, fun positive => ?_⟩⟩
    · change now + 0 + config.domainDelayMs ≤ now
      linarith
    · change now ≤ now + 0
      linarith
    · exact absurd positive (not_lt.2 delayed)
  · rw [if_neg delayed]
    have positive := not_le.1 delayed
    cases own : ContentFetcher.extractDomain config.api url with
    | none => exact polite.grant later polite.tracked .refl ⟨nofun, nofun⟩
    | some domain =>
        by_cases empty : domain = ""
        · rw [empty]
          dsimp only
          rw [if_pos rfl]
          have unnamed : ∀ other, other ≠ "" → some "" = some other → False := by
            intro other named same
            exact named (Option.some.inj same).symm
          exact polite.grant later polite.tracked .refl
            ⟨fun other named same => (unnamed other named same).elim,
              fun other named same => (unnamed other named same).elim⟩
        · dsimp only
          rw [if_neg empty, rememberRequest_eq]
          generalize scheduled :
            max now ((get domain world.nextAllowedAtByDomain).getD now) = scheduledAt
          have now_le : now ≤ scheduledAt := scheduled ▸ le_max_left _ _
          have slots : ∀ slot, get domain world.nextAllowedAtByDomain = some slot →
              slot ≤ scheduledAt := by
            intro slot found
            rw [found, Option.getD_some] at scheduled
            exact scheduled ▸ le_max_right _ _
          have released : now + (scheduledAt - now) = scheduledAt := by ring
          rw [released]
          refine polite.grant later polite.tracked.remember
            (keepsSlots_remember polite.tracked (evicted_le polite.tracked empty own spares)
              fun slot found => ?_) ⟨?_, ?_⟩
          · have reached := slots slot found
            linarith
          · intro other _ same
            cases same
            exact .inl ⟨positive, _, get_remember polite.tracked.nodup (by decide), le_refl _⟩
          · intro other _ same
            cases same
            exact ⟨now_le, fun _ => slots⟩

/-- Every step. -/
theorem Polite.step {caller : ι} {c : LimiterCall} {reply : Except Empty c.Reply}
    (polite : Polite config world) (answered : sparing config caller world c reply world') :
    Polite config world' := by
  obtain ⟨answered, spares⟩ := answered
  cases c with
  | reserve url =>
      obtain ⟨now, later, -, rfl⟩ := answered
      exact polite.reserve later (spares url rfl)
  | sleep delayMs =>
      obtain ⟨now, later, -, -, rfl⟩ := answered
      refine ⟨polite.tracked, fun grant mem domain named same => ?_, polite.spaced⟩
      exact (polite.reserved grant mem domain named same).imp_right fun past => past.trans later

/-! ## The callers -/

/-- What the others leave as it is: the grants of a caller, and when it went on. -/
structure LeavesAlone (caller : ι) (world world' : LimiterWorld ι) : Prop where
  grants : ∀ grant ∈ world'.grants, grant.caller = caller → grant ∈ world.grants
  wentOnAt : world'.wentOnAt caller = world.wentOnAt caller

omit [DecidableEq ι] in
theorem LeavesAlone.trans {caller : ι} {world'' : LimiterWorld ι}
    (first : LeavesAlone caller world world') (next : LeavesAlone caller world' world'') :
    LeavesAlone caller world world'' where
  grants grant mem own := first.grants grant (next.grants grant mem own) own
  wentOnAt := next.wentOnAt.trans first.wentOnAt

/-- Each call leaves the other callers alone. -/
def limiting (config : DomainLimiterConfig) : Discipline ι limiter (LimiterWorld ι) where
  handler := sparing config
  inv := Polite config
  rely := LeavesAlone
  guarantee caller world world' := ∀ other, caller ≠ other → LeavesAlone other world world'
  atCall _ _ _ := True
  rely_refl _ _ := ⟨fun _ mem _ => mem, rfl⟩
  rely_trans := .trans
  compatible apart kept := kept _ apart

theorem leavesAlone_reserve {caller other : ι} (apart : caller ≠ other) :
    LeavesAlone other world (world.reserve config now caller url) where
  grants grant mem own := by
    rcases List.mem_append.1 mem with before | last
    · exact before
    · rw [List.mem_singleton.1 last] at own
      exact absurd own apart
  wentOnAt := Function.update_of_ne apart.symm ..

/-- The one grant of a caller that has reserved its slot and is to sleep. -/
def Due (caller : ι) (delayMs : ℚ) (world : LimiterWorld ι) : Prop :=
  ∀ grant ∈ world.grants, grant.caller = caller → grant.reservedAt = world.wentOnAt caller ∧
    grant.releasedAt = world.wentOnAt caller + delayMs

omit [DecidableEq ι] in
theorem Due.alone {caller : ι} {delayMs : ℚ} (due : Due caller delayMs world)
    (alone : LeavesAlone caller world world') : Due caller delayMs world' := by
  intro grant mem own
  rw [alone.wentOnAt]
  exact due grant (alone.grants grant mem own) own

omit [DecidableEq ι] in
theorem Due.punctual {caller : ι} {delayMs : ℚ} (due : Due caller delayMs world)
    (elapsed : delayMs ≤ 0) : Punctual caller world := by
  intro grant mem own _
  have released := (due grant mem own).2
  linarith

omit [DecidableEq ι] in
theorem Punctual.alone {caller : ι} (punctual : Punctual caller world)
    (alone : LeavesAlone caller world world') : Punctual caller world' := by
  intro grant mem own short
  rw [alone.wentOnAt]
  exact punctual grant (alone.grants grant mem own) own short

theorem yields_reserve {caller : ι} (fresh : ∀ grant ∈ world.grants, grant.caller ≠ caller) :
    (Program.call (I := limiter) (.reserve url)).Yields (limiting config) caller
      (fun delayMs => Due caller delayMs) world := by
  refine Program.yields_call fun w₁ alone polite => ⟨trivial, fun reply w₂ answered => ?_⟩
  refine ⟨?_, polite.step answered, ?_⟩
  · obtain ⟨now, _, -, rfl⟩ := answered.1
    exact fun other apart => leavesAlone_reserve apart
  · intro delayMs w₃ same alone'
    refine Due.alone ?_ alone'
    obtain ⟨now, _, rfl, rfl⟩ := answered.1
    cases same
    intro grant mem own
    have went : (w₁.reserve config now caller url).wentOnAt caller = now := Function.update_self ..
    rw [went]
    rcases List.mem_append.1 mem with before | last
    · exact absurd own (fresh grant (alone.grants grant before own))
    · rw [List.mem_singleton.1 last]
      exact ⟨rfl, rfl⟩

theorem yields_sleep {caller : ι} {delayMs : ℚ} (due : Due caller delayMs world) :
    (Program.call (I := limiter) (.sleep delayMs)).Yields (limiting config) caller
      (fun _ => Punctual caller) world := by
  refine Program.yields_call fun w₁ alone polite => ⟨trivial, fun reply w₂ answered => ?_⟩
  have due₁ := due.alone alone
  refine ⟨?_, polite.step answered, ?_⟩
  · obtain ⟨now, _, -, -, rfl⟩ := answered.1
    exact fun other apart => ⟨fun _ mem _ => mem, Function.update_of_ne apart.symm ..⟩
  · intro _ w₃ _ alone'
    refine Punctual.alone ?_ alone'
    obtain ⟨now, _, slept, -, rfl⟩ := answered.1
    intro grant mem own short
    obtain ⟨reserved, released⟩ := due₁ grant mem own
    dsimp only
    rw [Function.update_self, released]
    exact slept (by linarith)

/-- A call that returns went on no earlier than its release. -/
theorem yields_wait {caller : ι} (fresh : ∀ grant ∈ world.grants, grant.caller ≠ caller) :
    (wait url).Yields (limiting config) caller (fun _ => Punctual caller) world := by
  refine (yields_reserve fresh).bind fun delayMs w₁ due => ?_
  split_ifs with positive
  · exact yields_sleep due
  · exact Program.yields_pure fun w₂ alone _ => (due.alone alone).punctual (not_lt.1 positive)

/-- In every interleaving of calls that spare the slots that are ahead, the releases of a domain are
spaced, and every call that has returned went on no earlier than its release. -/
theorem spaced_of_sparing (urls : ι → String) (clock : ℚ)
    {pool : Pool ι limiter Empty Unit (LimiterWorld ι)}
    (run : Pool.Steps (sparing config) (startWaits urls clock) pool) :
    SpacedGrants config pool.state.grants ∧
      ∀ i, pool.threads i = .done (.ok ()) → Punctual i pool.state := by
  have polite : Polite config (LimiterWorld.start ι clock) :=
    ⟨⟨List.nodup_nil, Nat.zero_le _⟩, nofun, .nil⟩
  have kept := Pool.Steps.kept (D := limiting config) run ⟨polite, fun i => yields_wait nofun⟩
  exact ⟨kept.1.spaced, fun i done => kept.finished done () rfl⟩

end Invariant

/-! ## A flood of domains -/

/-- A second between two requests. -/
def secondly : DomainLimiterConfig where
  api := Js.plainUrls
  domainDelayMs := 1000

def floodUrl (i : Nat) : Js.PlainUrl := ⟨"https:", List.replicate (i + 1) 'a', ['/']⟩

def floodDomain (i : Nat) : String := String.ofList (List.replicate (i + 1) 'a')

theorem shaped_floodUrl (i : Nat) : (floodUrl i).Shaped where
  protocol := .inl rfl
  host_ne_nil := List.cons_ne_nil _ _
  host := by
    intro c mem
    rw [List.eq_of_mem_replicate mem]
    decide
  path := ⟨[], rfl⟩
  segments := by
    intro c mem
    exact .inr (List.mem_singleton.1 mem)

theorem extractDomain_floodUrl (i : Nat) :
    ContentFetcher.extractDomain secondly.api (Js.plainUrls.href (floodUrl i)) =
      some (floodDomain i) := by
  have parsed : secondly.api.parse (Js.plainUrls.href (floodUrl i)) = some (floodUrl i) :=
    Js.PlainUrl.parse_href (shaped_floodUrl i)
  have solid : ∀ c ∈ List.replicate (i + 1) 'a', Js.isWhitespace c = false := by
    intro c mem
    rw [List.eq_of_mem_replicate mem]
    decide
  have lower : (List.replicate (i + 1) 'a').map Char.toLower = List.replicate (i + 1) 'a' := by
    rw [List.map_replicate]
    rfl
  rw [ContentFetcher.extractDomain, parsed]
  change some (String.ofList ((Js.trim (floodDomain i)).toList.map Char.toLower)) = _
  rw [Js.trim, floodDomain, String.toList_ofList, String.toList_ofList, Js.trimList_of_solid solid,
    lower]

theorem floodDomain_injective : Function.Injective floodDomain := by
  intro i j same
  have lengths := congrArg List.length (String.ofList_injective same)
  rw [List.length_replicate, List.length_replicate] at lengths
  omega

theorem floodDomain_ne_empty (i : Nat) : floodDomain i ≠ "" := by
  intro empty
  have letters := congrArg String.toList empty
  rw [floodDomain, String.toList_ofList] at letters
  cases letters

theorem reserve_floodUrl (i : Nat) (map : NextAllowedAt) :
    DomainLimiter.reserve secondly 0 (Js.plainUrls.href (floodUrl i)) map =
      (max 0 ((get (floodDomain i) map).getD 0) - 0,
        remember MAX_TRACKED_DOMAINS (floodDomain i)
          (max 0 ((get (floodDomain i) map).getD 0) + 1000) map) := by
  have positive : ¬ secondly.domainDelayMs ≤ 0 := by decide
  rw [DomainLimiter.reserve, if_neg positive, extractDomain_floodUrl]
  dsimp only
  rw [if_neg (floodDomain_ne_empty i), rememberRequest_eq]
  rfl

/-- Calls at time `0`, each for the domain that the order gives it. -/
def flood (order : Nat → Nat) : Nat → LimiterWorld Nat
  | 0 => .start Nat 0
  | count + 1 =>
      (flood order count).reserve secondly 0 count (Js.plainUrls.href (floodUrl (order count)))

variable {order : Nat → Nat}

theorem clock_flood (count : Nat) : (flood order count).clock = 0 := by
  cases count with
  | zero => rfl
  | succ count => rfl

theorem keys_flood (count : Nat) :
    (flood order count).nextAllowedAtByDomain.map (·.1) =
      recent MAX_TRACKED_DOMAINS ((List.range count).map fun i => floodDomain (order i)) := by
  induction count with
  | zero => rfl
  | succ count ih =>
      rw [flood, LimiterWorld.reserve, reserve_floodUrl, List.range_succ, List.map_append,
        List.map_singleton]
      exact keys_remember ih

theorem length_grants_flood (count : Nat) : (flood order count).grants.length = count := by
  induction count with
  | zero => rfl
  | succ count ih =>
      rw [flood, LimiterWorld.reserve, List.length_append, ih]
      rfl

/-- A domain that is not tracked is released at once. -/
theorem grants_flood_succ {count : Nat}
    (fresh : floodDomain (order count) ∉ (flood order count).nextAllowedAtByDomain.map (·.1)) :
    (flood order (count + 1)).grants =
      (flood order count).grants ++ [⟨count, some (floodDomain (order count)), 0, 0⟩] := by
  rw [flood, LimiterWorld.reserve, reserve_floodUrl, extractDomain_floodUrl,
    get_eq_none_iff.2 fresh]
  simp

theorem grants_flood_first (order : Nat → Nat) (count : Nat) :
    ∃ more, (flood order (count + 1)).grants = ⟨0, some (floodDomain (order 0)), 0, 0⟩ :: more := by
  induction count with
  | zero => exact ⟨[], grants_flood_succ nofun⟩
  | succ count ih =>
      obtain ⟨more, first⟩ := ih
      rw [flood, LimiterWorld.reserve]
      exact ⟨_, congrArg (· ++ _) first⟩

/-- Calls that are answered one after the other. -/
theorem exists_steps {H : Nat → Handler limiter (LimiterWorld Nat)} {urls : Nat → String}
    {worlds : Nat → LimiterWorld Nat} {count : Nat}
    (answers : ∀ i, i < count →
      ∃ delayMs, H i (worlds i) (.reserve (urls i)) (.ok delayMs) (worlds (i + 1))) :
    ∃ threads, Pool.Steps H ⟨fun i => wait (urls i), worlds 0⟩ ⟨threads, worlds count⟩ ∧
      ∀ i, count ≤ i → threads i = wait (urls i) := by
  induction count with
  | zero => exact ⟨_, .refl, fun i _ => rfl⟩
  | succ count ih =>
      obtain ⟨threads, run, waiting⟩ := ih fun i early => answers i (by omega)
      obtain ⟨delayMs, answered⟩ := answers count (by omega)
      refine ⟨_, run.tail (.answer count (waiting count (le_refl count)) answered), fun i later => ?_⟩
      rw [Function.update_of_ne (by omega)]
      exact waiting i (by omega)

/-- More domains than are tracked, and then the first one again. -/
def floodOrder (i : Nat) : Nat := if i = MAX_TRACKED_DOMAINS + 1 then 0 else i

theorem map_floodOrder :
    (List.range (MAX_TRACKED_DOMAINS + 1)).map (fun i => floodDomain (floodOrder i)) =
      floodDomain 0 :: (List.range MAX_TRACKED_DOMAINS).map fun i => floodDomain (i + 1) := by
  have same : (List.range (MAX_TRACKED_DOMAINS + 1)).map (fun i => floodDomain (floodOrder i)) =
      (List.range (MAX_TRACKED_DOMAINS + 1)).map floodDomain := by
    refine List.map_congr_left fun i mem => congrArg floodDomain (if_neg ?_)
    have bound := List.mem_range.1 mem
    omega
  rw [same, List.range_succ_eq_map, List.map_cons, List.map_map]
  rfl

/-- The slot of the first domain is forgotten while it is ahead, and its next call released at once. -/
theorem slot_forgotten :
    ∃ (urls : Nat → String) (pool : Pool Nat limiter Empty Unit (LimiterWorld Nat)),
    Pool.Steps (timers secondly) (startWaits urls 0) pool ∧
      (∃ domain last more, domain ≠ "" ∧
        pool.state.grants = ⟨0, some domain, 0, 0⟩ :: more ++ [⟨last, some domain, 0, 0⟩]) ∧
      ¬ SpacedGrants secondly pool.state.grants := by
  have answers : ∀ i, i < MAX_TRACKED_DOMAINS + 2 → ∃ delayMs,
      timers secondly i (flood floodOrder i) (.reserve (Js.plainUrls.href (floodUrl (floodOrder i))))
        (.ok delayMs) (flood floodOrder (i + 1)) :=
    fun i _ => ⟨_, 0, le_of_eq (clock_flood i), rfl, rfl⟩
  obtain ⟨threads, run, -⟩ := exists_steps answers
  have again : floodOrder (MAX_TRACKED_DOMAINS + 1) = 0 := if_pos rfl
  have fresh : floodDomain (floodOrder (MAX_TRACKED_DOMAINS + 1)) ∉
      (flood floodOrder (MAX_TRACKED_DOMAINS + 1)).nextAllowedAtByDomain.map (·.1) := by
    have nodup := (List.nodup_range (n := MAX_TRACKED_DOMAINS + 1)).map floodDomain_injective
    rw [List.range_succ_eq_map, List.map_cons, List.map_map] at nodup
    rw [keys_flood, map_floodOrder, again]
    exact notMem_recent nodup (by rw [List.length_map, List.length_range])
  obtain ⟨more, first⟩ := grants_flood_first floodOrder MAX_TRACKED_DOMAINS
  have grants : (flood floodOrder (MAX_TRACKED_DOMAINS + 2)).grants =
      ⟨0, some (floodDomain 0), 0, 0⟩ :: more ++
        [⟨MAX_TRACKED_DOMAINS + 1, some (floodDomain 0), 0, 0⟩] := by
    rw [grants_flood_succ fresh, first, again]
    rfl
  have unspaced : ¬ SpacedGrants secondly (flood floodOrder (MAX_TRACKED_DOMAINS + 2)).grants := by
    rw [grants]
    intro spaced
    have apart := (List.pairwise_cons.1 spaced).1 _
      (List.mem_append_right _ (List.mem_singleton.2 rfl)) (floodDomain 0)
      (floodDomain_ne_empty 0) rfl rfl
    change (0 : ℚ) + 1000 ≤ 0 at apart
    linarith
  exact ⟨_, ⟨threads, _⟩, run, ⟨floodDomain 0, _, more, floodDomain_ne_empty 0, grants⟩, unspaced⟩

theorem spaced_of_sparing_twice : ∃ pool : Pool Nat limiter Empty Unit (LimiterWorld Nat),
    Pool.Steps (sparing secondly) (startWaits (fun _ => Js.plainUrls.href (floodUrl 0)) 0) pool ∧
      pool.state.grants.length = 2 ∧ SpacedGrants secondly pool.state.grants ∧
      ∀ i, pool.threads i = .done (.ok ()) → Punctual i pool.state := by
  have answers : ∀ i, i < 2 → ∃ delayMs, sparing secondly i (flood (fun _ => 0) i)
      (.reserve (Js.plainUrls.href (floodUrl 0))) (.ok delayMs) (flood (fun _ => 0) (i + 1)) := by
    intro i early
    refine ⟨_, ⟨0, le_of_eq (clock_flood i), rfl, rfl⟩, ?_⟩
    -- two calls do not fill the map
    intro url _ domain _ _ _ full
    have keys : (flood (fun _ => 0) i).nextAllowedAtByDomain.map (·.1) = recent _ _ := keys_flood i
    have tracked := congrArg List.length keys
    have few := (List.dedup_sublist ((List.range i).map fun _ => floodDomain 0)).length_le
    rw [List.length_map, List.length_range] at few
    rw [List.length_map, length_recent] at tracked
    unfold MAX_TRACKED_DOMAINS at full
    omega
  obtain ⟨threads, run, -⟩ := @exists_steps (sparing secondly)
    (fun _ => Js.plainUrls.href (floodUrl 0)) (flood fun _ => 0) 2 answers
  have spaced := spaced_of_sparing (fun _ => Js.plainUrls.href (floodUrl 0)) 0 run
  exact ⟨_, run, length_grants_flood _, spaced⟩

end DomainLimiter

end RisingIntelligence.Collector
