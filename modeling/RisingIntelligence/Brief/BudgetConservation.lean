import RisingIntelligence.Brief.BudgetStores
import Mathlib.Tactic.Linarith
import Mathlib.Tactic.Ring

/-!
# Conservation of the day's spend

One worker runs governor operations one after the other, no call fails, and the mirror commands
started by its authorizations run beside it, each statement one atomic step.

Once everything has finished, row and cache should hold what the decisions add up to.  They need
not (`rollback_leaks`): a release before the mirror landed finds no row.  They do if the Postgres
ledger is only used while no mirror command is on its way (`governor_conserves`).
-/

namespace RisingIntelligence.Brief

open Async Program

/-! ## Operations -/

/-- An operation of the governor; a rollback and a settlement name the decision they dispose
of. -/
inductive GovernorOperation : Type
  | authorize (estimatedCostUsd : ℚ)
  | rollback (k : ℕ)
  | settle (k : ℕ) (actualCostUsd : ℚ)

/-- What has become of a decision. -/
inductive Decided : Type
  | refused
  | outstanding (decision : BriefBudgetDecision)
  | released
  | settled (actualCostUsd : ℚ)

/-- What a decision adds to the spend of the day. -/
def Decided.amountUsd : Decided → ℚ
  | .outstanding decision => decision.reservedCostUsd
  | .settled actualCostUsd => actualCostUsd
  | _ => 0

def totalUsd : List Decided → ℚ
  | [] => 0
  | first :: rest => first.amountUsd + totalUsd rest

/-- The operations in order; one that names no outstanding decision is left out. -/
def governorProgram (dateKey : String) (dailyBudgetUsd : ℚ) :
    List GovernorOperation → List Decided → LedgerProgram (List Decided)
  | [], decided => pure decided
  | .authorize estimatedCostUsd :: rest, decided => do
      let decision ← authorize {
        dateKey := dateKey
        dailyBudgetUsd := .finite dailyBudgetUsd
        estimatedCostUsd := estimatedCostUsd }
      governorProgram dateKey dailyBudgetUsd rest
        (decided ++ [if decision.authorized then .outstanding decision else .refused])
  | .rollback k :: rest, decided =>
      match decided[k]? with
      | some (.outstanding decision) => do
          let _ ← rollback decision
          governorProgram dateKey dailyBudgetUsd rest (decided.set k .released)
      | _ => governorProgram dateKey dailyBudgetUsd rest decided
  | .settle k actualCostUsd :: rest, decided =>
      match decided[k]? with
      | some (.outstanding decision) => do
          let _ ← settle decision actualCostUsd
          governorProgram dateKey dailyBudgetUsd rest (decided.set k (.settled actualCostUsd))
      | _ => governorProgram dateKey dailyBudgetUsd rest decided

/-- Estimates are positive and within the budget, actual costs not negative. -/
def GovernorOperation.Valid (dailyBudgetUsd : ℚ) : GovernorOperation → Prop
  | .authorize estimatedCostUsd => 0 < estimatedCostUsd ∧ estimatedCostUsd ≤ dailyBudgetUsd
  | .rollback _ => True
  | .settle _ actualCostUsd => 0 ≤ actualCostUsd

/-- The governor and the mirror commands in the order they are started. -/
inductive Actor : Type
  | governor
  | mirror (m : ℕ)
  deriving DecidableEq

def actorProgram (dateKey : String) (dailyBudgetUsd : ℚ) (operations : List GovernorOperation) :
    Actor → Program day BriefError (List Decided)
  | .governor => (governorProgram dateKey dailyBudgetUsd operations []).embed ledgerOfDay
  | .mirror _ => do
      let input ← call (I := day) .mirrorStarted
      (mirror input).embed ledgerOfDay
      pure []

/-! ## The world -/

/-- The stores, how far each mirror command is, how many were started, and what the statements
of the governor have added to the spend. -/
structure SpendWorld where
  stores : DayStores
  phase : ℕ → MirrorPhase
  started : ℕ
  added : ℚ

namespace SpendWorld

variable (w : SpendWorld)

def withStores (stores : DayStores) : SpendWorld := { w with stores := stores }

def setPhase (m : ℕ) (phase : MirrorPhase) : SpendWorld :=
  { w with phase := Function.update w.phase m phase }

def add (amount : ℚ) : SpendWorld := { w with added := w.added + amount }

/-- No mirror command has still to write. -/
def Mirrored : Prop := ∀ m, (w.phase m).carried = none

theorem phase_setPhase_self (m : ℕ) (phase : MirrorPhase) :
    (w.setPhase m phase).phase m = phase := by
  simp [setPhase]

theorem phase_setPhase_of_ne {m n : ℕ} (other : n ≠ m) (phase : MirrorPhase) :
    (w.setPhase m phase).phase n = w.phase n := by
  simp [setPhase, other]

end SpendWorld

/-- What the answer of a governor's statement adds, and the mirror command it starts. -/
def accountSpend (w : SpendWorld) : (c : LedgerCall) → Except BriefError c.Reply → SpendWorld
  | .evalReservation _ _ amount, .ok result =>
      if result.reserved then (w.add amount).setPhase w.started (.granted result.spentUsd) else w
  | .startMirror input, .ok _ =>
      { w.setPhase w.started (.running input) with started := w.started + 1 }
  | .reserveRow _ _ amount, .ok count => if count = 0 then w else w.add amount
  | .incrementRow _ amount, .ok count => if count = 0 then w else w.add amount
  | .decrementRow _ amount, .ok count => if count = 0 then w else w.add (-amount)
  | _, _ => w

/-- A mirror command is through when its create or update was made. -/
def accountLanding (m : ℕ) (w : SpendWorld) :
    (c : LedgerCall) → Except BriefError c.Reply → SpendWorld
  | .createRow .., .ok _ => w.setPhase m .landed
  | .updateRow .., .ok _ => w.setPhase m .landed
  | _, _ => w

/-- Every call succeeds. -/
inductive SpendAnswers : Actor → Handler day SpendWorld
  | governor {w : SpendWorld} (c : LedgerCall) :
    SpendAnswers .governor w (.statement c) (w.stores.exec c).1
      (accountSpend (w.withStores (w.stores.exec c).2) c (w.stores.exec c).1)
  | mirror {m : ℕ} {w : SpendWorld} (c : LedgerCall) :
    SpendAnswers (.mirror m) w (.statement c) (w.stores.exec c).1
      (accountLanding m (w.withStores (w.stores.exec c).2) c (w.stores.exec c).1)
  | started {m : ℕ} {w : SpendWorld} {input : BudgetMirrorCommandInput} :
    w.phase m = .running input → SpendAnswers (.mirror m) w .mirrorStarted (.ok input) w

/-! ## When spend is conserved -/

/-- The conditions on a step. -/
def Undisturbed : Actor → SpendWorld → DayCall → Prop
  -- the reservation script and the start of its mirror
  | .governor, _, .statement (.evalReservation ..) => True
  | .governor, _, .statement (.startMirror _) => True
  -- the Postgres ledger is used while no mirror command is on its way
  | .governor, w, .statement _ => w.Mirrored
  -- a mirror does not lower the row
  | .mirror _, w, .statement (.updateRow _ spentUsd _) => w.stores.spent ≤ spentUsd
  | _, _, _ => True

/-- The answers within these conditions. -/
def UndisturbedAnswers (actor : Actor) : Handler day SpendWorld :=
  fun w c reply w' => SpendAnswers actor w c reply w' ∧ Undisturbed actor w c

/-! ## The invariant -/

/-- The row never holds more than was added, and holds that much unless a mirror command is on
its way with it. -/
structure Conserved (w : SpendWorld) : Prop where
  row_le : w.stores.spent ≤ w.added
  row : w.stores.spent = w.added ∨ ∃ m, (w.phase m).carried = some w.added
  carried : ∀ m cached, (w.phase m).carried = some cached → 0 ≤ cached ∧ cached ≤ w.added

namespace Conserved

variable {w : SpendWorld} {amount : ℚ}

theorem spent_eq (conserved : Conserved w) (mirrored : w.Mirrored) : w.stores.spent = w.added := by
  rcases conserved.row with row | ⟨m, carried⟩
  · exact row
  · rw [mirrored m] at carried
    cases carried

/-- A row that holds what is added. -/
theorem of_mirrored {w' : SpendWorld} (mirrored : w'.Mirrored)
    (row : w'.stores.spent = w'.added) : Conserved w' where
  row_le := row.le
  row := .inl row
  carried m cached held := by
    rw [mirrored m] at held
    cases held

/-- A grant of the reservation script, on its way to the row. -/
theorem granted (conserved : Conserved w) (nonneg : 0 ≤ amount) (total : 0 ≤ w.added)
    (stores : DayStores) (same : stores.spent = w.stores.spent) :
    Conserved (((w.withStores stores).add amount).setPhase w.started
      (.granted (w.added + amount))) := by
  constructor
  case row_le =>
    have below := conserved.row_le
    exact (show stores.spent ≤ w.added + amount by linarith)
  case row => exact .inr ⟨w.started, by rw [SpendWorld.phase_setPhase_self]; rfl⟩
  case carried =>
    intro m cached held
    by_cases here : m = w.started
    · subst here
      rw [SpendWorld.phase_setPhase_self] at held
      obtain rfl : w.added + amount = cached := Option.some.inj held
      exact ⟨by linarith, le_refl _⟩
    · rw [SpendWorld.phase_setPhase_of_ne _ here] at held
      obtain ⟨positive, below⟩ := conserved.carried m cached held
      exact ⟨positive, (show cached ≤ w.added + amount by linarith)⟩

/-- A mirror command lands with a value between the row and what was added. -/
theorem landed (conserved : Conserved w) {m : ℕ} {cached value : ℚ}
    (held : (w.phase m).carried = some cached) (row : w.stores.spent ≤ value)
    (merged : cached ≤ value) (below : value ≤ w.added) :
    Conserved ((w.withStores (w.stores.setRow value)).setPhase m .landed) := by
  constructor
  case row_le => exact below
  case row =>
    rcases conserved.row with same | ⟨n, carried⟩
    · exact .inl (le_antisymm below (same ▸ row))
    · by_cases here : n = m
      · subst here
        obtain rfl : cached = w.added := Option.some.inj (held.symm.trans carried)
        exact .inl (le_antisymm below merged)
      · refine .inr ⟨n, ?_⟩
        rw [SpendWorld.phase_setPhase_of_ne _ here]
        exact carried
  case carried =>
    intro n other carried
    by_cases here : n = m
    · subst here
      rw [SpendWorld.phase_setPhase_self] at carried
      cases carried
    · rw [SpendWorld.phase_setPhase_of_ne _ here] at carried
      exact conserved.carried n other carried

end Conserved

/-! ## One actor -/

/-- The mirror command with its input. -/
def MirrorPhase.isBegun : MirrorPhase → Prop
  | .running _ | .landed => True
  | _ => False

/-- What a step of a mirror command may do to the phases. -/
def Lands (w w' : SpendWorld) (m : ℕ) : Prop :=
  w'.phase m = w.phase m ∨ ((w.phase m).isRunning = true ∧ w'.phase m = .landed)

def spendRely : Actor → SpendWorld → SpendWorld → Prop
  | .governor, w, w' => w'.added = w.added ∧ w'.started = w.started ∧
      w'.stores.redis = w.stores.redis ∧ ∀ m, Lands w w' m
  | .mirror m, w, w' => ((w.phase m).isBegun → w'.phase m = w.phase m) ∧
      ((w.phase m).isRunning = true → w.added ≤ w'.added) ∧
      (w.stores.row.isSome = true → w'.stores.row.isSome = true)

def spendGuarantee : Actor → SpendWorld → SpendWorld → Prop
  | .governor, w, w' => ∀ m, spendRely (.mirror m) w w'
  | .mirror m, w, w' => w'.added = w.added ∧ w'.started = w.started ∧
      w'.stores.redis = w.stores.redis ∧ Lands w w' m ∧ (∀ n ≠ m, w'.phase n = w.phase n) ∧
      (w.stores.row.isSome = true → w'.stores.row.isSome = true)

theorem spendRely_refl (actor : Actor) (w : SpendWorld) : spendRely actor w w := by
  cases actor with
  | governor => exact ⟨rfl, rfl, rfl, fun _ => .inl rfl⟩
  | mirror m => exact ⟨fun _ => rfl, fun _ => le_refl _, fun some => some⟩

theorem spendRely_trans {actor : Actor} {w₁ w₂ w₃ : SpendWorld} (first : spendRely actor w₁ w₂)
    (second : spendRely actor w₂ w₃) : spendRely actor w₁ w₃ := by
  cases actor with
  | governor =>
      obtain ⟨added, started, redis, lands⟩ := first
      obtain ⟨added', started', redis', lands'⟩ := second
      refine ⟨added'.trans added, started'.trans started, redis'.trans redis, fun m => ?_⟩
      rcases lands m with same | ⟨running, landed⟩
      · rcases lands' m with same' | ⟨running', landed'⟩
        · exact .inl (same'.trans same)
        · exact .inr ⟨same ▸ running', landed'⟩
      · rcases lands' m with same' | ⟨running', _⟩
        · exact .inr ⟨running, same'.trans landed⟩
        · rw [landed] at running'
          cases running'
  | mirror m =>
      obtain ⟨phase, added, row⟩ := first
      obtain ⟨phase', added', row'⟩ := second
      refine ⟨fun begun => ?_, fun running => ?_, fun some => row' (row some)⟩
      · have same := phase begun
        exact (phase' (same ▸ begun)).trans same
      · have begun : (w₁.phase m).isBegun := by
          cases held : w₁.phase m <;> simp_all [MirrorPhase.isRunning, MirrorPhase.isBegun]
        have same := phase begun
        exact (added running).trans (added' (same ▸ running))

theorem spendGuarantee_rely {actor other : Actor} {w w' : SpendWorld} (different : actor ≠ other)
    (guaranteed : spendGuarantee actor w w') : spendRely other w w' := by
  cases actor with
  | governor =>
      cases other with
      | governor => exact absurd rfl different
      | mirror m => exact guaranteed m
  | mirror m =>
      obtain ⟨added, started, redis, lands, others, row⟩ := guaranteed
      cases other with
      | governor =>
          refine ⟨added, started, redis, fun n => ?_⟩
          by_cases here : n = m
          · subst here
            exact lands
          · exact .inl (others n here)
      | mirror n =>
          have here : n ≠ m := fun same => different (same ▸ rfl)
          exact ⟨fun _ => others n here, fun _ => added.ge, row⟩

/-- Governor and mirror commands within the conditions. -/
def spendDiscipline : Discipline Actor day SpendWorld where
  handler := UndisturbedAnswers
  inv := Conserved
  rely := spendRely
  guarantee := spendGuarantee
  atCall _ _ _ := True
  rely_refl := spendRely_refl
  rely_trans := spendRely_trans
  compatible := spendGuarantee_rely

variable {α β : Type} {w w' : SpendWorld} {T amount : ℚ} {dateKey : String}

/-- The ledger program of an actor keeps its part, throws nothing and returns a value that
satisfies `Q`. -/
def Succeeding (actor : Actor) (p : LedgerProgram α) (Q : α → SpendWorld → Prop) (w : SpendWorld) :
    Prop :=
  (p.embed ledgerOfDay).Succeeds spendDiscipline actor Q w

namespace Succeeding

variable {actor : Actor}

theorem pure {a : α} {Q : α → SpendWorld → Prop} (holds : ∀ w', spendRely actor w w' → Q a w') :
    Succeeding actor (pure a) Q w :=
  succeeds_pure fun w' moved _ => holds w' moved

theorem settle {p : LedgerProgram α} {f : Except BriefError α → LedgerProgram β}
    {Q : α → SpendWorld → Prop} {Q' : β → SpendWorld → Prop} (first : Succeeding actor p Q w)
    (rest : ∀ a w', Q a w' → Succeeding actor (f (.ok a)) Q' w') :
    Succeeding actor (p.settle f) Q' w := by
  unfold Succeeding
  rw [embed_settle]
  exact Succeeds.settle first rest

theorem bind {p : LedgerProgram α} {f : α → LedgerProgram β} {Q : α → SpendWorld → Prop}
    {Q' : β → SpendWorld → Prop} (first : Succeeding actor p Q w)
    (rest : ∀ a w', Q a w' → Succeeding actor (f a) Q' w') : Succeeding actor (p >>= f) Q' w :=
  settle first rest

/-- One statement, then the rest. -/
theorem statement {c : LedgerCall} {f : Except BriefError c.Reply → LedgerProgram β}
    {Q : β → SpendWorld → Prop}
    (step : ∀ w₁, spendRely actor w w₁ → Conserved w₁ → ∀ reply w₂,
      UndisturbedAnswers actor w₁ (.statement c) reply w₂ →
        spendGuarantee actor w₁ w₂ ∧ Conserved w₂ ∧ Succeeding actor (f reply) Q w₂) :
    Succeeding actor ((statement c).settle f) Q w :=
  fun w₁ moved conserved => ⟨trivial, step w₁ moved conserved⟩

end Succeeding

/-! ### Statements of the governor -/

/-- Between two operations that have added `T`, but for the cache. -/
structure Synced (T : ℚ) (w : SpendWorld) : Prop where
  added : w.added = T
  idle : ∀ m, w.started ≤ m → w.phase m = .idle
  begun : ∀ m < w.started, (w.phase m).isBegun

/-- Between two operations that have added `T`. -/
structure Ready (T : ℚ) (w : SpendWorld) : Prop extends Synced T w where
  cached : w.stores.cached = T

theorem Lands.begun {m : ℕ} (lands : Lands w w' m) (begun : (w.phase m).isBegun) :
    (w'.phase m).isBegun := by
  rcases lands with same | ⟨_, landed⟩
  · rw [same]
    exact begun
  · rw [landed]
    trivial

theorem Lands.idle {m : ℕ} (lands : Lands w w' m) (idle : w.phase m = .idle) :
    w'.phase m = .idle := by
  rcases lands with same | ⟨running, _⟩
  · rw [same, idle]
  · rw [idle] at running
    cases running

theorem Synced.stable (synced : Synced T w) (moved : spendRely .governor w w') : Synced T w' := by
  obtain ⟨added, started, _, lands⟩ := moved
  constructor
  case added => exact added.trans synced.added
  case idle => exact fun m later => (lands m).idle (synced.idle m (started ▸ later))
  case begun => exact fun m before => (lands m).begun (synced.begun m (started ▸ before))

theorem Ready.stable (ready : Ready T w) (moved : spendRely .governor w w') : Ready T w' where
  toSynced := ready.toSynced.stable moved
  cached := by
    have same : w'.stores.cached = w.stores.cached := congrArg (·.getD 0) moved.2.2.1
    rw [same, ready.cached]

/-- The phases stay and nothing is taken from a running mirror command. -/
theorem governor_guarantee (phase : w'.phase = w.phase)
    (added : ∀ m, (w.phase m).isRunning = true → w.added ≤ w'.added)
    (row : w.stores.row.isSome = true → w'.stores.row.isSome = true) :
    spendGuarantee .governor w w' :=
  fun m => ⟨fun _ => congrFun phase m, added m, row⟩

theorem not_isRunning_of_mirrored (mirrored : w.Mirrored) (m : ℕ) :
    (w.phase m).isRunning ≠ true := by
  have nothing := mirrored m
  cases held : w.phase m <;> simp_all [MirrorPhase.isRunning, MirrorPhase.carried]

theorem step_spend_findRow {actor : Actor} {reply : Except BriefError (Option ℚ)}
    (answer : UndisturbedAnswers actor w (.statement (.findRow dateKey)) reply w') :
    reply = .ok w.stores.row ∧ w' = w := by
  obtain ⟨answer, _⟩ := answer
  cases answer with
  | governor => exact ⟨rfl, rfl⟩
  | mirror => exact ⟨rfl, rfl⟩

/-- The stores change but not the row. -/
theorem Conserved.sameRow (conserved : Conserved w) {stores : DayStores}
    (same : stores.spent = w.stores.spent) : Conserved (w.withStores stores) where
  row_le := (show stores.spent ≤ w.added from same ▸ conserved.row_le)
  row := conserved.row.imp_left fun row => (show stores.spent = w.added from same.trans row)
  carried := conserved.carried

/-- A cache write of the governor. -/
theorem step_spend_setCache {spentUsd : ℚ} {reply : Except BriefError Unit} (conserved : Conserved w)
    (answer : UndisturbedAnswers .governor w (.statement (.setCache dateKey spentUsd)) reply w') :
    spendGuarantee .governor w w' ∧ Conserved w' ∧ reply = .ok () ∧
      w' = w.withStores (w.stores.setRedis spentUsd) := by
  obtain ⟨answer, _⟩ := answer
  cases answer with
  | governor =>
      exact ⟨governor_guarantee rfl (fun _ _ => le_refl _) id, conserved.sameRow rfl, rfl, rfl⟩

theorem step_spend_upsertRow {budgetUsd : Js.Number} {reply : Except BriefError ℚ}
    (conserved : Conserved w)
    (answer : UndisturbedAnswers .governor w (.statement (.upsertRow dateKey budgetUsd)) reply w') :
    spendGuarantee .governor w w' ∧ Conserved w' ∧ reply = .ok w.added ∧
      w' = w.withStores (w.stores.setRow w.stores.spent) := by
  obtain ⟨answer, mirrored⟩ := answer
  cases answer with
  | governor =>
      refine ⟨governor_guarantee rfl (fun _ _ => le_refl _) fun _ => rfl, conserved.sameRow rfl, ?_,
        rfl⟩
      exact congrArg _ (conserved.spent_eq mirrored)

/-- What the script refused Postgres refuses too. -/
theorem step_spend_reserveRow {B : ℚ} {reply : Except BriefError Nat} (conserved : Conserved w)
    (full : ¬w.added + amount ≤ B) (within : amount ≤ B)
    (answer : UndisturbedAnswers .governor w
      (.statement (.reserveRow dateKey (some (max 0 (B - amount))) amount)) reply w') :
    reply = .ok 0 ∧ w' = w := by
  obtain ⟨answer, mirrored⟩ := answer
  have spent := conserved.spent_eq mirrored
  cases answer with
  | governor =>
      cases held : w.stores.row with
      | none =>
          rw [DayStores.exec_reserveRow_of_no_row held]
          exact ⟨rfl, rfl⟩
      | some row =>
          have limit : max 0 (B - amount) = B - amount := max_eq_right (by linarith)
          have refused : ¬row ≤ max 0 (B - amount) := by
            rw [limit, ← DayStores.spent_of_row held, spent]
            intro room
            exact full (by linarith)
          rw [DayStores.exec_reserveRow_of_full held refused]
          exact ⟨rfl, rfl⟩

/-- The row holds what was added, so it is there and the decrement matches it. -/
theorem step_spend_decrementRow {reply : Except BriefError Nat} (conserved : Conserved w)
    (positive : 0 < amount) (enough : amount ≤ w.added)
    (answer : UndisturbedAnswers .governor w (.statement (.decrementRow dateKey amount)) reply w') :
    spendGuarantee .governor w w' ∧ Conserved w' ∧ reply = .ok 1 ∧
      w' = (w.withStores (w.stores.setRow (w.added - amount))).add (-amount) := by
  obtain ⟨answer, mirrored⟩ := answer
  have spent := conserved.spent_eq mirrored
  cases answer with
  | governor =>
      cases held : w.stores.row with
      | none =>
          rw [DayStores.spent_of_no_row held] at spent
          linarith
      | some row =>
          rw [DayStores.spent_of_row held] at spent
          subst spent
          rw [DayStores.exec_decrementRow_of_le held enough]
          refine ⟨governor_guarantee rfl (fun m running => ?_) fun _ => rfl,
            .of_mirrored mirrored ?_, rfl, rfl⟩
          · exact absurd running (not_isRunning_of_mirrored mirrored m)
          · exact (show w.added - amount = w.added + -amount by ring)

theorem step_spend_incrementRow {reply : Except BriefError Nat} (conserved : Conserved w)
    (there : 0 < w.added)
    (answer : UndisturbedAnswers .governor w (.statement (.incrementRow dateKey amount)) reply w') :
    spendGuarantee .governor w w' ∧ Conserved w' ∧ reply = .ok 1 ∧
      w' = (w.withStores (w.stores.setRow (w.added + amount))).add amount := by
  obtain ⟨answer, mirrored⟩ := answer
  have spent := conserved.spent_eq mirrored
  cases answer with
  | governor =>
      cases held : w.stores.row with
      | none =>
          rw [DayStores.spent_of_no_row held] at spent
          linarith
      | some row =>
          rw [DayStores.spent_of_row held] at spent
          subst spent
          rw [DayStores.exec_incrementRow_of_row held]
          refine ⟨governor_guarantee rfl (fun m running => ?_) fun _ => rfl,
            .of_mirrored mirrored rfl, rfl, rfl⟩
          exact absurd running (not_isRunning_of_mirrored mirrored m)

/-- The script grants what fits and starts a mirror command with what it read back. -/
theorem step_spend_eval {B : ℚ} {reply : Except BriefError BudgetReservationResult}
    (conserved : Conserved w) (ready : Ready T w) (nonneg : 0 ≤ amount) (total : 0 ≤ T)
    (answer : UndisturbedAnswers .governor w
      (.statement (.evalReservation dateKey (.finite B) amount)) reply w') :
    spendGuarantee .governor w w' ∧ Conserved w' ∧
      ((reply = .ok ⟨true, T + amount⟩ ∧
          w' = ((w.withStores (w.stores.setRedis (T + amount))).add amount).setPhase w.started
            (.granted (T + amount))) ∨
        (reply = .ok ⟨false, T⟩ ∧ w' = w ∧ ¬T + amount ≤ B)) := by
  obtain ⟨answer, _⟩ := answer
  have cached := ready.cached
  have added := ready.added
  cases answer with
  | governor =>
      by_cases room : w.stores.cached + amount ≤ B
      · rw [DayStores.exec_eval_of_room room, cached]
        refine ⟨fun m => ⟨fun begun => ?_, fun _ => ?_, id⟩, ?_, .inl ⟨rfl, rfl⟩⟩
        · refine SpendWorld.phase_setPhase_of_ne _ (fun here => ?_) _
          have same : m = w.started := here
          have idle : w.phase m = .idle := ready.idle m same.ge
          rw [idle] at begun
          exact begun
        · exact (show w.added ≤ w.added + amount by linarith)
        · rw [← added]
          exact conserved.granted nonneg (added ▸ total) _ rfl
      · rw [DayStores.exec_eval_of_exceeds room]
        refine ⟨governor_guarantee rfl (fun _ _ => le_refl _) id, conserved, .inr ⟨?_, rfl, ?_⟩⟩
        · rw [cached]
        · rwa [cached] at room

/-- The script has granted and the mirror command is not started yet. -/
structure Granting (T : ℚ) (w : SpendWorld) : Prop where
  added : w.added = T
  cached : w.stores.cached = T
  granted : w.phase w.started = .granted T
  idle : ∀ m, w.started < m → w.phase m = .idle
  begun : ∀ m < w.started, (w.phase m).isBegun

theorem Granting.stable (granting : Granting T w) (moved : spendRely .governor w w') :
    Granting T w' := by
  obtain ⟨added, started, redis, lands⟩ := moved
  constructor
  case added => exact added.trans granting.added
  case cached =>
    have same : w'.stores.cached = w.stores.cached := congrArg (·.getD 0) redis
    rw [same, granting.cached]
  case granted =>
    rw [started]
    rcases lands w.started with same | ⟨running, _⟩
    · exact same.trans granting.granted
    · rw [granting.granted] at running
      cases running
  case idle => exact fun m later => (lands m).idle (granting.idle m (started ▸ later))
  case begun => exact fun m before => (lands m).begun (granting.begun m (started ▸ before))

/-- After a grant of the script. -/
theorem Ready.granting (ready : Ready T w) :
    Granting (T + amount) (((w.withStores (w.stores.setRedis (T + amount))).add amount).setPhase
      w.started (.granted (T + amount))) := by
  constructor
  case added => exact congrArg (· + amount) ready.added
  case cached => rfl
  case granted => exact SpendWorld.phase_setPhase_self _ _ _
  case idle =>
    intro m later
    have other : m ≠ w.started := (show w.started < m from later).ne'
    rw [SpendWorld.phase_setPhase_of_ne _ other]
    exact ready.idle m (show w.started < m from later).le
  case begun =>
    intro m before
    have other : m ≠ w.started := (show m < w.started from before).ne
    rw [SpendWorld.phase_setPhase_of_ne _ other]
    exact ready.begun m before

/-- The mirror command takes over what was granted. -/
theorem step_spend_startMirror {input : BudgetMirrorCommandInput}
    {reply : Except BriefError Unit} (conserved : Conserved w) (granting : Granting T w)
    (carries : input.cachedSpentUsd = T)
    (answer : UndisturbedAnswers .governor w (.statement (.startMirror input)) reply w') :
    spendGuarantee .governor w w' ∧ Conserved w' ∧ reply = .ok () ∧ Ready T w' := by
  obtain ⟨answer, _⟩ := answer
  have granted := granting.granted
  cases answer with
  | governor =>
      have others (m : ℕ) (other : m ≠ w.started) :
          ((w.withStores w.stores).setPhase w.started (.running input)).phase m = w.phase m :=
        SpendWorld.phase_setPhase_of_ne _ other _
      have mine : ((w.withStores w.stores).setPhase w.started (.running input)).phase w.started =
          .running input := SpendWorld.phase_setPhase_self _ _ _
      have carried (m : ℕ) :
          (((w.withStores w.stores).setPhase w.started (.running input)).phase m).carried =
            (w.phase m).carried := by
        by_cases here : m = w.started
        · rw [here, mine, granted]
          exact congrArg some carries
        · rw [others m here]
      refine ⟨fun m => ⟨fun begun => ?_, fun _ => le_refl _, id⟩, ?_, rfl, ?_⟩
      · refine others m fun here => ?_
        rw [here, granted] at begun
        exact begun
      · constructor
        case row_le => exact conserved.row_le
        case row => exact conserved.row.imp_right fun ⟨m, held⟩ => ⟨m, (carried m).trans held⟩
        case carried => exact fun m cached held => conserved.carried m cached ((carried m) ▸ held)
      · refine ⟨⟨granting.added, fun m later => ?_, fun m before => ?_⟩, granting.cached⟩
        · have after : w.started < m := later
          exact (others m after.ne').trans (granting.idle m after)
        · have within : m < w.started + 1 := before
          by_cases here : m = w.started
          · rw [here]
            exact mine ▸ trivial
          · have begun := granting.begun m (by omega)
            exact (others m here).symm ▸ begun

theorem Synced.withStores (synced : Synced T w) (stores : DayStores) :
    Synced T (w.withStores stores) where
  added := synced.added
  idle := synced.idle
  begun := synced.begun

/-! ### Programs of the governor -/

namespace Succeeding

theorem syncBudgetCacheBestEffort (synced : Synced T w) :
    Succeeding .governor (syncBudgetCacheBestEffort dateKey T) (fun _ => Ready T) w := by
  refine Succeeding.statement fun w₁ moved conserved reply w₂ answer => ?_
  obtain ⟨guaranteed, conserved', rfl, rfl⟩ := step_spend_setCache conserved answer
  have ready : Ready T (w₁.withStores (w₁.stores.setRedis T)) :=
    ⟨(synced.stable moved).withStores _, rfl⟩
  exact ⟨guaranteed, conserved', Succeeding.pure fun w' later => ready.stable later⟩

/-- A row that is read back holds what was added. -/
theorem getD_row (conserved : Conserved w) (mirrored : w.Mirrored) {record : ℚ}
    (expected : record = w.added ∨ record = 0) : w.stores.row.getD record = w.added := by
  have spent := conserved.spent_eq mirrored
  cases held : w.stores.row with
  | none =>
      rw [DayStores.spent_of_no_row held] at spent
      rcases expected with same | zero
      · exact same
      · exact zero.trans spent
  | some row =>
      rw [DayStores.spent_of_row held] at spent
      exact spent

theorem readBack (synced : Synced T w) :
    Succeeding .governor (readBack dateKey) (fun _ => Ready T) w := by
  refine Succeeding.statement fun w₁ moved conserved latest w₂ answer => ?_
  have mirrored : w₁.Mirrored := answer.2
  have synced₁ := synced.stable moved
  obtain ⟨rfl, rfl⟩ := step_spend_findRow answer
  have read : w₂.stores.row.getD 0 = T :=
    (getD_row conserved mirrored (.inr rfl)).trans synced₁.added
  refine ⟨governor_guarantee rfl (fun _ _ => le_refl _) id, conserved, ?_⟩
  simp only [onOk_ok, read]
  exact (syncBudgetCacheBestEffort synced₁).bind fun _ w' ready =>
    Succeeding.pure fun w'' later => ready.stable later

/-- Postgres after a refusal of the script: the row leaves no room either. -/
theorem postgresReserve {B : ℚ} (ready : Ready T w) (full : ¬T + amount ≤ B)
    (within : amount ≤ B) :
    Succeeding .governor (postgresReserve ⟨dateKey, .finite B, amount⟩)
      (fun result w' => result.reserved = false ∧ Ready T w') w := by
  refine Succeeding.statement fun w₁ moved conserved record w₂ answer => ?_
  obtain ⟨guaranteed, conserved', rfl, same⟩ := step_spend_upsertRow conserved answer
  have ready₁ := ready.stable moved
  have synced₂ : Synced T w₂ := same ▸ ready₁.toSynced.withStores _
  refine ⟨guaranteed, conserved', ?_⟩
  simp only [onOk_ok, maxSpendBeforeReservation]
  refine Succeeding.statement fun w₃ moved conserved count w₄ answer => ?_
  have synced₃ := synced₂.stable moved
  have full₃ : ¬w₃.added + amount ≤ B := synced₃.added ▸ full
  obtain ⟨rfl, rfl⟩ := step_spend_reserveRow conserved full₃ within answer
  refine ⟨governor_guarantee rfl (fun _ _ => le_refl _) id, conserved, ?_⟩
  simp only [onOk_ok, if_true]
  refine Succeeding.statement fun w₅ moved conserved latest w₆ answer => ?_
  have mirrored : w₅.Mirrored := answer.2
  have synced₅ := synced₃.stable moved
  obtain ⟨rfl, rfl⟩ := step_spend_findRow answer
  have record : w₁.added = w₆.added := ready₁.added.trans synced₅.added.symm
  have read : w₆.stores.row.getD w₁.added = T :=
    (getD_row conserved mirrored (.inl record)).trans synced₅.added
  refine ⟨governor_guarantee rfl (fun _ _ => le_refl _) id, conserved, ?_⟩
  simp only [onOk_ok, read]
  exact (syncBudgetCacheBestEffort synced₅).bind fun _ w' ready =>
    Succeeding.pure fun w'' later => ⟨rfl, ready.stable later⟩

/-- The script grants and starts the mirror command, or nothing happens. -/
theorem redisReserve {B : ℚ} (ready : Ready T w) (nonneg : 0 ≤ amount) (total : 0 ≤ T) :
    Succeeding .governor (redisReserve ⟨dateKey, .finite B, amount⟩)
      (fun result w' => (result.reserved = true ∧ Ready (T + amount) w') ∨
        (result.reserved = false ∧ Ready T w' ∧ ¬T + amount ≤ B)) w := by
  refine Succeeding.statement fun w₁ moved conserved cached w₂ answer => ?_
  have ready₁ := ready.stable moved
  obtain ⟨guaranteed, conserved', granted | refused⟩ :=
    step_spend_eval conserved ready₁ nonneg total answer
  · obtain ⟨rfl, same⟩ := granted
    have granting : Granting (T + amount) w₂ := same ▸ ready₁.granting
    refine ⟨guaranteed, conserved', ?_⟩
    simp only [onOk_ok, if_true]
    refine Succeeding.statement fun w₃ moved conserved reply w₄ answer => ?_
    obtain ⟨guaranteed, conserved', rfl, ready'⟩ :=
      step_spend_startMirror conserved (granting.stable moved) rfl answer
    exact ⟨guaranteed, conserved', Succeeding.pure fun w' later =>
      .inl ⟨rfl, ready'.stable later⟩⟩
  · obtain ⟨rfl, rfl, full⟩ := refused
    exact ⟨guaranteed, conserved', Succeeding.pure fun w' later =>
      .inr ⟨rfl, ready₁.stable later, full⟩⟩

theorem reserve {B : ℚ} (ready : Ready T w) (nonneg : 0 ≤ amount) (within : amount ≤ B)
    (total : 0 ≤ T) :
    Succeeding .governor (reserve ⟨dateKey, .finite B, amount⟩)
      (fun result w' => Ready (if result.reserved then T + amount else T) w') w := by
  refine (redisReserve ready nonneg total).settle fun cached w' reserved => ?_
  rcases reserved with ⟨granted, ready'⟩ | ⟨refused, ready', full⟩
  · simp only [granted, if_true]
    refine Succeeding.pure fun w'' later => ?_
    rw [granted]
    exact ready'.stable later
  · simp only [refused]
    refine Succeeds.mono (postgresReserve ready' full within) fun result w'' held => ?_
    obtain ⟨refused, ready''⟩ := held
    rw [refused]
    exact ready''

theorem authorize {B : ℚ} (ready : Ready T w) (nonneg : 0 ≤ amount) (within : amount ≤ B)
    (total : 0 ≤ T) :
    Succeeding .governor (authorize ⟨dateKey, .finite B, amount⟩)
      (fun decision w' => decision.reservedCostUsd = amount ∧
        Ready (if decision.authorized then T + amount else T) w') w :=
  (reserve ready nonneg within total).bind fun _ _ ready =>
    Succeeding.pure fun _ later => ⟨rfl, ready.stable later⟩

/-- A correction of the spend that leaves it not negative. -/
theorem updateSpentUsd {delta : ℚ} (ready : Ready T w) (positive : 0 < T) (left : 0 ≤ T + delta) :
    Succeeding .governor (updateSpentUsd dateKey delta) (fun _ => Ready (T + delta)) w := by
  unfold Brief.updateSpentUsd
  split
  · rename_i zero
    rw [zero, add_zero]
    exact readBack ready.toSynced
  rename_i nonzero
  split
  · refine Succeeding.statement fun w₁ moved conserved count w₂ answer => ?_
    have ready₁ := ready.stable moved
    have there : 0 < w₁.added := ready₁.added ▸ positive
    obtain ⟨guaranteed, conserved', rfl, same⟩ := step_spend_incrementRow conserved there answer
    have synced : Synced (T + delta) w₂ := by
      rw [same]
      exact ⟨congrArg (· + delta) ready₁.added, ready₁.idle, ready₁.begun⟩
    exact ⟨guaranteed, conserved', readBack synced⟩
  · rename_i notpos
    have amount : |delta| = -delta := abs_of_nonpos (not_lt.1 notpos)
    have given : 0 < -delta := by
      have less : delta < 0 := lt_of_le_of_ne (not_lt.1 notpos) nonzero
      linarith
    rw [amount]
    refine Succeeding.statement fun w₁ moved conserved count w₂ answer => ?_
    have ready₁ := ready.stable moved
    have enough : -delta ≤ w₁.added := by
      rw [ready₁.added]
      linarith
    obtain ⟨guaranteed, conserved', rfl, same⟩ :=
      step_spend_decrementRow conserved given enough answer
    have synced : Synced (T + delta) w₂ := by
      rw [same]
      refine ⟨?_, ready₁.idle, ready₁.begun⟩
      have sum : w₁.added + - -delta = T + delta := by
        rw [ready₁.added]
        ring
      exact sum
    exact ⟨guaranteed, conserved', readBack synced⟩

end Succeeding

/-! ### The decisions -/

/-- What decisions add is not negative, and what is reserved is positive. -/
def Sound (decided : List Decided) : Prop :=
  ∀ d ∈ decided, 0 ≤ d.amountUsd ∧ ∀ decision, d = .outstanding decision → 0 < d.amountUsd

theorem totalUsd_append_singleton (decided : List Decided) (last : Decided) :
    totalUsd (decided ++ [last]) = totalUsd decided + last.amountUsd := by
  induction decided with
  | nil => simp [totalUsd]
  | cons first rest ih =>
      simp only [List.cons_append, totalUsd, ih]
      ring

/-- A decision that is disposed of. -/
theorem totalUsd_set {decided : List Decided} {k : ℕ} {old : Decided} (held : decided[k]? = some old)
    (new : Decided) :
    totalUsd (decided.set k new) = totalUsd decided + (new.amountUsd - old.amountUsd) := by
  induction decided generalizing k with
  | nil => simp at held
  | cons first rest ih =>
      cases k with
      | zero =>
          obtain rfl : first = old := by simpa using held
          simp only [List.set_cons_zero, totalUsd]
          ring
      | succ k =>
          simp only [List.set_cons_succ, totalUsd, ih (k := k) (by simpa using held)]
          ring

theorem Sound.totalUsd_nonneg {decided : List Decided} (sound : Sound decided) :
    0 ≤ totalUsd decided := by
  induction decided with
  | nil => exact le_refl _
  | cons first rest ih =>
      have nonneg := (sound first (List.mem_cons_self ..)).1
      have others := ih fun d mem => sound d (List.mem_cons_of_mem _ mem)
      exact add_nonneg nonneg others

theorem Sound.amountUsd_le {decided : List Decided} (sound : Sound decided) {d : Decided}
    (mem : d ∈ decided) : d.amountUsd ≤ totalUsd decided := by
  induction decided with
  | nil => cases mem
  | cons first rest ih =>
      have tail : Sound rest := fun d mem => sound d (List.mem_cons_of_mem _ mem)
      have head := (sound first (List.mem_cons_self ..)).1
      have others := tail.totalUsd_nonneg
      simp only [totalUsd]
      rcases List.mem_cons.1 mem with rfl | later
      · linarith
      · linarith [ih tail later]

theorem Sound.append_singleton {decided : List Decided} (sound : Sound decided) {last : Decided}
    (nonneg : 0 ≤ last.amountUsd)
    (positive : ∀ decision, last = .outstanding decision → 0 < last.amountUsd) :
    Sound (decided ++ [last]) := by
  intro d mem
  rcases List.mem_append.1 mem with before | here
  · exact sound d before
  · obtain rfl := List.mem_singleton.1 here
    exact ⟨nonneg, positive⟩

theorem Sound.set {decided : List Decided} (sound : Sound decided) {k : ℕ} {new : Decided}
    (nonneg : 0 ≤ new.amountUsd) (disposed : ∀ decision, new ≠ .outstanding decision) :
    Sound (decided.set k new) := by
  intro d mem
  rcases List.mem_or_eq_of_mem_set mem with before | rfl
  · exact sound d before
  · exact ⟨nonneg, fun decision same => absurd same (disposed decision)⟩

/-- Disposing of an outstanding decision, which leaves the actual cost. -/
theorem Succeeding.dispose {decided : List Decided} {k : ℕ} {decision : BriefBudgetDecision}
    {new : Decided} {delta : ℚ} (sound : Sound decided) (ready : Ready (totalUsd decided) w)
    (held : decided[k]? = some (.outstanding decision)) (nonneg : 0 ≤ new.amountUsd)
    (gives : delta = new.amountUsd - decision.reservedCostUsd) :
    Succeeding .governor (Brief.updateSpentUsd dateKey delta)
      (fun _ => Ready (totalUsd (decided.set k new))) w := by
  have mem : Decided.outstanding decision ∈ decided := List.mem_of_getElem? held
  have positive : 0 < decision.reservedCostUsd := (sound _ mem).2 decision rfl
  have below : decision.reservedCostUsd ≤ totalUsd decided := sound.amountUsd_le mem
  have total : totalUsd (decided.set k new) = totalUsd decided + delta := by
    rw [totalUsd_set held new, gives]
    rfl
  rw [total]
  exact updateSpentUsd ready (by linarith) (by rw [gives]; linarith)

/-- The operations one after the other; between two of them the total is in both stores. -/
theorem Succeeding.governorProgram {B : ℚ} {operations : List GovernorOperation}
    {decided : List Decided} (valid : ∀ operation ∈ operations, operation.Valid B)
    (sound : Sound decided) (ready : Ready (totalUsd decided) w) :
    Succeeding .governor (governorProgram dateKey B operations decided)
      (fun decided' => Ready (totalUsd decided')) w := by
  induction operations generalizing decided w with
  | nil => exact Succeeding.pure fun w' later => ready.stable later
  | cons operation rest ih =>
      have valid' : ∀ operation ∈ rest, operation.Valid B := fun operation mem =>
        valid operation (List.mem_cons_of_mem _ mem)
      have here : operation.Valid B := valid operation (List.mem_cons_self ..)
      cases operation with
      | authorize estimatedCostUsd =>
          obtain ⟨positive, within⟩ := here
          refine (authorize ready positive.le within sound.totalUsd_nonneg).bind
            fun decision w' held => ?_
          obtain ⟨reserved, ready'⟩ := held
          by_cases granted : decision.authorized = true
          · simp only [granted, if_true] at ready' ⊢
            have amount : (Decided.outstanding decision).amountUsd = estimatedCostUsd := reserved
            refine ih valid' (sound.append_singleton ?_ fun _ _ => ?_) ?_
            · exact amount ▸ positive.le
            · exact amount ▸ positive
            · rwa [totalUsd_append_singleton, amount]
          · simp only [granted] at ready' ⊢
            refine ih valid' (sound.append_singleton (le_refl _) nofun) ?_
            rw [totalUsd_append_singleton]
            exact (add_zero (totalUsd decided)).symm ▸ ready'
      | rollback k =>
          unfold Brief.governorProgram
          split
          · rename_i decision held
            have mem : Decided.outstanding decision ∈ decided := List.mem_of_getElem? held
            have positive : 0 < decision.reservedCostUsd := (sound _ mem).2 decision rfl
            refine Succeeding.bind (Q := fun _ => Ready (totalUsd (decided.set k .released))) ?_
              fun _ w' ready' => ih valid' (sound.set (le_refl _) nofun) ready'
            unfold Brief.rollback
            rw [if_neg (not_le.2 positive)]
            exact dispose sound ready held (le_refl _) (zero_sub _).symm
          · exact ih valid' sound ready
      | settle k actualCostUsd =>
          unfold Brief.governorProgram
          split
          · rename_i decision held
            have nonneg : 0 ≤ actualCostUsd := here
            refine Succeeding.bind
              (Q := fun _ => Ready (totalUsd (decided.set k (.settled actualCostUsd)))) ?_
              fun _ w' ready' => ih valid' (sound.set nonneg nofun) ready'
            exact dispose sound ready held nonneg rfl
          · exact ih valid' sound ready

/-! ### Mirror commands -/

section Mirror

variable {m : ℕ} {input : BudgetMirrorCommandInput}

/-- A mirror command that has read the row and has still to write. -/
structure Merging (m : ℕ) (input : BudgetMirrorCommandInput) (w : SpendWorld) : Prop where
  running : w.phase m = .running input
  row : w.stores.row.isSome = true

theorem running_of_rely (running : w.phase m = .running input)
    (moved : spendRely (.mirror m) w w') : w'.phase m = .running input :=
  (moved.1 (by rw [running]; trivial)).trans running

theorem landed_of_rely (landed : w.phase m = .landed) (moved : spendRely (.mirror m) w w') :
    w'.phase m = .landed :=
  (moved.1 (by rw [landed]; trivial)).trans landed

theorem Merging.stable (merging : Merging m input w) (moved : spendRely (.mirror m) w w') :
    Merging m input w' where
  running := running_of_rely merging.running moved
  row := moved.2.2 merging.row

/-- A read of a mirror command. -/
theorem mirror_guarantee_refl : spendGuarantee (.mirror m) w w :=
  ⟨rfl, rfl, rfl, .inl rfl, fun _ _ => rfl, id⟩

/-- The write of a mirror command. -/
theorem mirror_landed {value : ℚ} (conserved : Conserved w) (running : w.phase m = .running input)
    (row : w.stores.spent ≤ value) (merged : input.cachedSpentUsd ≤ value)
    (below : value ≤ w.added) :
    spendGuarantee (.mirror m) w ((w.withStores (w.stores.setRow value)).setPhase m .landed) ∧
      Conserved ((w.withStores (w.stores.setRow value)).setPhase m .landed) := by
  have carried : (w.phase m).carried = some input.cachedSpentUsd := by
    rw [running]
    rfl
  refine ⟨⟨rfl, rfl, rfl, .inr ⟨?_, ?_⟩, fun n other => ?_, fun _ => rfl⟩,
    conserved.landed carried row merged below⟩
  · rw [running]
    rfl
  · exact SpendWorld.phase_setPhase_self _ m _
  · exact SpendWorld.phase_setPhase_of_ne _ other _

/-- The create lands or finds a row. -/
theorem step_spend_createRow {budgetUsd : Js.Number} {reply : Except BriefError Unit}
    (conserved : Conserved w) (running : w.phase m = .running input)
    (answer : UndisturbedAnswers (.mirror m) w
      (.statement (.createRow dateKey input.cachedSpentUsd budgetUsd)) reply w') :
    spendGuarantee (.mirror m) w w' ∧ Conserved w' ∧
      ((reply = .ok () ∧ w'.phase m = .landed) ∨
        (reply = .error (.prismaKnownRequest "P2002") ∧ Merging m input w')) := by
  obtain ⟨answer, _⟩ := answer
  have held : (w.phase m).carried = some input.cachedSpentUsd := by
    rw [running]
    rfl
  obtain ⟨nonneg, below⟩ := conserved.carried m _ held
  cases answer with
  | mirror =>
      cases row : w.stores.row with
      | none =>
          rw [DayStores.exec_createRow_of_no_row row]
          have empty : w.stores.spent ≤ input.cachedSpentUsd := by
            rw [DayStores.spent_of_no_row row]
            exact nonneg
          obtain ⟨guaranteed, conserved'⟩ :=
            mirror_landed conserved running empty (le_refl _) below
          exact ⟨guaranteed, conserved', .inl ⟨rfl, SpendWorld.phase_setPhase_self _ m _⟩⟩
      | some spent =>
          rw [DayStores.exec_createRow_of_row row]
          refine ⟨mirror_guarantee_refl, conserved, .inr ⟨rfl, running, ?_⟩⟩
          exact (show w.stores.row.isSome = true by rw [row]; rfl)

/-- The update lands: it writes neither less than the row nor more than was added. -/
theorem step_spend_updateRow {latest : ℚ} {budgetUsd : Js.Number} {reply : Except BriefError Unit}
    (conserved : Conserved w) (merging : Merging m input w) (read : latest ≤ w.added)
    (answer : UndisturbedAnswers (.mirror m) w
      (.statement (.updateRow dateKey (max latest input.cachedSpentUsd) budgetUsd)) reply w') :
    spendGuarantee (.mirror m) w w' ∧ Conserved w' ∧ reply = .ok () ∧ w'.phase m = .landed := by
  obtain ⟨answer, undisturbed⟩ := answer
  have row : w.stores.spent ≤ max latest input.cachedSpentUsd := undisturbed
  have held : (w.phase m).carried = some input.cachedSpentUsd := by
    rw [merging.running]
    rfl
  have below : max latest input.cachedSpentUsd ≤ w.added :=
    max_le read (conserved.carried m _ held).2
  obtain ⟨spent, there⟩ := Option.isSome_iff_exists.1 merging.row
  cases answer with
  | mirror =>
      rw [DayStores.exec_updateRow_of_row there]
      obtain ⟨guaranteed, conserved'⟩ :=
        mirror_landed conserved merging.running row (le_max_right _ _) below
      exact ⟨guaranteed, conserved', rfl, SpendWorld.phase_setPhase_self _ m _⟩

namespace Succeeding

theorem createTrackedSpend (running : w.phase m = .running input) :
    Succeeding (.mirror m) (createTrackedSpend input)
      (fun created w' => if created then w'.phase m = .landed else Merging m input w') w := by
  refine Succeeding.statement fun w₁ moved conserved tracked w₂ answer => ?_
  have running₁ := running_of_rely running moved
  obtain ⟨rfl, rfl⟩ := step_spend_findRow answer
  refine ⟨mirror_guarantee_refl, conserved, ?_⟩
  cases row : w₂.stores.row with
  | some spent =>
      simp only [onOk_ok]
      have merging : Merging m input w₂ := ⟨running₁, by rw [row]; rfl⟩
      exact Succeeding.pure fun w' later => merging.stable later
  | none =>
      simp only [onOk_ok]
      refine Succeeding.statement fun w₃ moved conserved reply w₄ answer => ?_
      obtain ⟨guaranteed, conserved', ⟨rfl, landed⟩ | ⟨rfl, merging⟩⟩ :=
        step_spend_createRow conserved (running_of_rely running₁ moved) answer
      · exact ⟨guaranteed, conserved', Succeeding.pure fun w' later => landed_of_rely landed later⟩
      · exact ⟨guaranteed, conserved', Succeeding.pure fun w' later => merging.stable later⟩

/-- What was read stays below what is added, since nothing is taken while the command runs. -/
theorem mergeTrackedSpend (merging : Merging m input w) :
    Succeeding (.mirror m) (mergeTrackedSpend input) (fun _ w' => w'.phase m = .landed) w := by
  refine Succeeding.statement fun w₁ moved conserved latest w₂ answer => ?_
  have merging₁ := merging.stable moved
  obtain ⟨rfl, rfl⟩ := step_spend_findRow answer
  refine ⟨mirror_guarantee_refl, conserved, ?_⟩
  obtain ⟨latest, row⟩ := Option.isSome_iff_exists.1 merging₁.row
  have below : latest ≤ w₂.added := DayStores.spent_of_row row ▸ conserved.row_le
  simp only [row, onOk_ok]
  refine Succeeding.statement fun w₃ moved conserved reply w₄ answer => ?_
  have more : w₂.added ≤ w₃.added := moved.2.1 (by rw [merging₁.running]; rfl)
  obtain ⟨guaranteed, conserved', rfl, landed⟩ :=
    step_spend_updateRow conserved (merging₁.stable moved) (below.trans more) answer
  exact ⟨guaranteed, conserved', Succeeding.pure fun w' later => landed_of_rely landed later⟩

theorem mirror (running : w.phase m = .running input) :
    Succeeding (.mirror m) (mirror input) (fun _ w' => w'.phase m = .landed) w := by
  have executed : Succeeding (.mirror m)
      (do
        let created ← Brief.createTrackedSpend input
        if created then Pure.pure () else Brief.mergeTrackedSpend input)
      (fun _ w' => w'.phase m = .landed) w := by
    refine (createTrackedSpend running).bind fun created w' held => ?_
    cases created with
    | true =>
        have landed : w'.phase m = .landed := held
        exact Succeeding.pure fun w'' later => landed_of_rely landed later
    | false => exact mergeTrackedSpend held
  exact executed.settle fun _ w' landed =>
    Succeeding.pure fun w'' later => landed_of_rely landed later

end Succeeding

end Mirror

/-! ## Any interleaving -/

/-- The start of the day. -/
def SpendWorld.start : SpendWorld where
  stores := ⟨none, none⟩
  phase _ := .idle
  started := 0
  added := 0

def spendPool (dateKey : String) (dailyBudgetUsd : ℚ) (operations : List GovernorOperation) :
    Pool Actor day BriefError (List Decided) SpendWorld where
  threads := actorProgram dateKey dailyBudgetUsd operations
  state := .start

/-- What an actor leaves when it is finished. -/
def Finished : Actor → List Decided → SpendWorld → Prop
  | .governor, decided, w => Ready (totalUsd decided) w
  | .mirror m, _, w => w.phase m = .landed

theorem ready_start : Ready 0 SpendWorld.start where
  added := rfl
  idle _ _ := rfl
  begun _ before := absurd before (Nat.not_lt_zero _)
  cached := rfl

theorem spendPool_kept {B : ℚ} {operations : List GovernorOperation}
    (valid : ∀ operation ∈ operations, operation.Valid B) :
    (spendPool dateKey B operations).Kept spendDiscipline
      fun actor outcome w => ∃ decided, outcome = .ok decided ∧ Finished actor decided w := by
  refine ⟨.of_mirrored (fun _ => rfl) rfl, fun actor => ?_⟩
  cases actor with
  | governor => exact Succeeding.governorProgram valid (fun _ mem => nomatch mem) ready_start
  | mirror m =>
      refine Succeeds.settle (Q := fun input w' => w'.phase m = .running input) ?_
        fun input w' running => ?_
      · refine fun w₁ _ conserved => ⟨trivial, fun reply w₂ answer => ?_⟩
        obtain ⟨answer, _⟩ := answer
        cases answer with
        | started running =>
            exact ⟨mirror_guarantee_refl, conserved, fun w' later _ =>
              ⟨_, rfl, running_of_rely running later⟩⟩
      · refine Succeeds.settle (Succeeding.mirror running) fun _ w'' landed => ?_
        exact succeeds_pure fun w' later _ => landed_of_rely landed later

/-- In every run whose steps meet the conditions, once the operations and the mirror commands they
started have finished, row and cache hold what the decisions add up to. -/
theorem governor_conserves {B : ℚ} {operations : List GovernorOperation}
    {pool : Pool Actor day BriefError (List Decided) SpendWorld}
    {outcome : Except BriefError (List Decided)}
    (valid : ∀ operation ∈ operations, operation.Valid B)
    (steps : Pool.Steps UndisturbedAnswers (spendPool dateKey B operations) pool)
    (finished : pool.threads .governor = .done outcome)
    (mirrored : ∀ m < pool.state.started, ∃ outcome, pool.threads (.mirror m) = .done outcome) :
    ∃ decided, outcome = .ok decided ∧ pool.state.stores.spent = totalUsd decided ∧
      ∀ spentUsd, pool.state.stores.redis = some spentUsd → spentUsd = totalUsd decided := by
  have kept := Pool.Steps.kept (D := spendDiscipline) steps (spendPool_kept valid)
  obtain ⟨decided, returned, left⟩ := kept.finished finished
  have ready : Ready (totalUsd decided) pool.state := left
  have through : pool.state.Mirrored := by
    intro m
    by_cases before : m < pool.state.started
    · obtain ⟨last, done⟩ := mirrored m before
      obtain ⟨_, _, landed⟩ := kept.finished done
      have phase : pool.state.phase m = .landed := landed
      rw [phase]
      rfl
    · rw [ready.idle m (not_lt.1 before)]
      rfl
  refine ⟨decided, returned, ?_, fun spentUsd held => ?_⟩
  · exact (Conserved.spent_eq kept.1 through).trans ready.added
  · have cached : pool.state.stores.redis.getD 0 = totalUsd decided := ready.cached
    rwa [held] at cached

/-! ### Two runs -/

variable {B : ℚ}

/-- The script grants an amount that fits, and the mirror command of the grant is started. -/
theorem authorize_of_room (dateKey : String) (room : w.stores.cached + amount ≤ B) :
    ∃ w', w'.stores = w.stores.setRedis (w.stores.cached + amount) ∧ w'.started = w.started + 1 ∧
      w'.phase = Function.update w.phase w.started
        (.running ⟨dateKey, .finite B, w.stores.cached + amount⟩) ∧
      ((authorize ⟨dateKey, .finite B, amount⟩).embed ledgerOfDay).Runs
        (UndisturbedAnswers .governor) w
        (.ok ⟨true, dateKey, .finite B, amount, w.stores.cached + amount⟩) w' := by
  have granted : SpendAnswers .governor w
      (.statement (.evalReservation dateKey (.finite B) amount)) _ _ := .governor _
  rw [DayStores.exec_eval_of_room room] at granted
  refine ⟨_, ?_, ?_, ?_, .await ⟨granted, trivial⟩ (.await ⟨.governor _, trivial⟩ .done)⟩
  all_goals simp [accountSpend, DayStores.exec, SpendWorld.withStores, SpendWorld.add,
    SpendWorld.setPhase]

/-- A mirror command that carries at least the row writes what it carries. -/
theorem mirror_lands {m : ℕ} {input : BudgetMirrorCommandInput} {operations : List GovernorOperation}
    (running : w.phase m = .running input) (above : w.stores.spent ≤ input.cachedSpentUsd) :
    (actorProgram dateKey B operations (.mirror m)).Runs (UndisturbedAnswers (.mirror m)) w (.ok [])
      ((w.withStores (w.stores.setRow input.cachedSpentUsd)).setPhase m .landed) := by
  have found : SpendAnswers (.mirror m) w (.statement (.findRow input.dateKey)) (.ok w.stores.row)
      w := .mirror _
  cases row : w.stores.row with
  | none =>
      have created : SpendAnswers (.mirror m) w
          (.statement (.createRow input.dateKey input.cachedSpentUsd input.dailyBudgetUsd)) _ _ :=
        .mirror _
      rw [row] at found
      rw [DayStores.exec_createRow_of_no_row row] at created
      exact .await ⟨.started running, trivial⟩
        (.await ⟨found, trivial⟩ (.await ⟨created, trivial⟩ .done))
  | some spent =>
      have held := DayStores.spent_of_row row
      have merged : max spent input.cachedSpentUsd = input.cachedSpentUsd :=
        max_eq_right (held ▸ above)
      have updated : SpendAnswers (.mirror m) w (.statement (.updateRow input.dateKey
          (max spent input.cachedSpentUsd) input.dailyBudgetUsd)) _ _ := .mirror _
      have higher : Undisturbed (.mirror m) w (.statement (.updateRow input.dateKey
          (max spent input.cachedSpentUsd) input.dailyBudgetUsd)) :=
        above.trans (le_max_right _ _)
      rw [row] at found
      rw [DayStores.exec_updateRow_of_row row] at updated
      rw [← merged]
      exact .await ⟨.started running, trivial⟩ (.await ⟨found, trivial⟩
        (.await ⟨found, trivial⟩ (.await ⟨updated, higher⟩ .done)))

/-- Once the only mirror command on its way has landed, none is. -/
theorem mirrored_of_landed {m : ℕ} {phase : MirrorPhase} {stores : DayStores} (mirrored : w.Mirrored)
    (only : w'.phase = Function.update w.phase m phase) :
    ((w'.withStores stores).setPhase m .landed).Mirrored := by
  intro n
  by_cases here : n = m
  · subst here
    rw [SpendWorld.phase_setPhase_self]
    rfl
  · have before := mirrored n
    rw [← Function.update_of_ne here phase w.phase, ← only] at before
    rw [SpendWorld.phase_setPhase_of_ne _ here]
    exact before

/-- A release that the row holds is taken from the row and written to the cache. -/
theorem updateSpentUsd_releases (dateKey : String) {spent : ℚ} (mirrored : w.Mirrored)
    (row : w.stores.row = some spent) (positive : 0 < amount) (enough : amount ≤ spent) :
    ∃ w', w'.stores = ⟨some (spent - amount), some (spent - amount)⟩ ∧ w'.started = w.started ∧
      w'.phase = w.phase ∧
      ((updateSpentUsd dateKey (-amount)).embed ledgerOfDay).Runs
        (UndisturbedAnswers .governor) w (.ok (spent - amount)) w' := by
  have taken : SpendAnswers .governor w (.statement (.decrementRow dateKey amount)) _ _ :=
    .governor _
  rw [DayStores.exec_decrementRow_of_le row enough] at taken
  unfold updateSpentUsd
  rw [if_neg (by linarith), if_neg (by linarith), abs_neg, abs_of_pos positive]
  refine ⟨_, ?_, ?_, ?_, .await ⟨taken, mirrored⟩ (.await ⟨.governor _, mirrored⟩
    (.await ⟨.governor _, mirrored⟩ .done))⟩
  all_goals simp [accountSpend, DayStores.exec, SpendWorld.withStores, SpendWorld.add,
    DayStores.setRow, DayStores.setRedis]

/-- Every mirror command that was started has finished, and row and cache hold `spentUsd`. -/
structure AtRest (dateKey : String) (B : ℚ) (operations : List GovernorOperation) (spentUsd : ℚ)
    (pool : Pool Actor day BriefError (List Decided) SpendWorld) : Prop where
  cached : pool.state.stores.cached = spentUsd
  spent : pool.state.stores.spent = spentUsd
  mirrored : pool.state.Mirrored
  finished : ∀ m < pool.state.started, ∃ outcome, pool.threads (.mirror m) = .done outcome
  waiting : ∀ m ≥ pool.state.started,
    pool.threads (.mirror m) = actorProgram dateKey B operations (.mirror m)

namespace AtRest

variable {operations : List GovernorOperation} {spentUsd : ℚ}
  {pool : Pool Actor day BriefError (List Decided) SpendWorld}

theorem start : AtRest dateKey B operations 0 (spendPool dateKey B operations) where
  cached := rfl
  spent := rfl
  mirrored _ := rfl
  finished m before := absurd before (Nat.not_lt_zero m)
  waiting _ _ := rfl

/-- A reservation is granted and its mirror command runs. -/
theorem authorize (atRest : AtRest dateKey B operations spentUsd pool) (nonneg : 0 ≤ amount)
    (room : spentUsd + amount ≤ B) {rest : BriefBudgetDecision → LedgerProgram (List Decided)}
    (next : pool.threads .governor =
      (Brief.authorize ⟨dateKey, .finite B, amount⟩ >>= rest).embed ledgerOfDay) :
    ∃ pool', Pool.Steps UndisturbedAnswers pool pool' ∧
      AtRest dateKey B operations (spentUsd + amount) pool' ∧
      pool'.threads .governor =
        (rest ⟨true, dateKey, .finite B, amount, spentUsd + amount⟩).embed ledgerOfDay := by
  obtain ⟨threads, w⟩ := pool
  have cached : w.stores.cached = spentUsd := atRest.cached
  have spent : w.stores.spent = spentUsd := atRest.spent
  subst cached
  obtain ⟨w', stores, started, phase, run⟩ := authorize_of_room dateKey room
  have reserved := Pool.Steps.of_runs_settle run (next.trans (embed_settle _ _ _))
  have running : w'.phase w.started = .running ⟨dateKey, .finite B, w.stores.cached + amount⟩ := by
    rw [phase, Function.update_self]
  have above : w'.stores.spent ≤ w.stores.cached + amount := by
    rw [stores, DayStores.spent_setRedis]
    linarith
  have waiting : Function.update threads .governor ((rest ⟨true, dateKey, .finite B, amount,
      w.stores.cached + amount⟩).embed ledgerOfDay) (.mirror w.started) =
        actorProgram dateKey B operations (.mirror w.started) :=
    (Function.update_of_ne (by simp) _ _).trans (atRest.waiting _ (le_refl _))
  have landing : (actorProgram dateKey B operations (.mirror w.started)).Runs _ _ _ _ :=
    mirror_lands running above
  rw [← waiting] at landing
  refine ⟨_, reserved.trans (Pool.Steps.of_runs landing), ?_, rfl⟩
  constructor
  case cached => rw [← DayStores.cached_setRedis w.stores (w.stores.cached + amount), ← stores]; rfl
  case spent => rfl
  case mirrored => exact mirrored_of_landed atRest.mirrored phase
  case finished =>
    intro m before
    have bound : m < w'.started := before
    by_cases here : m = w.started
    · subst here
      exact ⟨_, Function.update_self ..⟩
    · obtain ⟨outcome, done⟩ := atRest.finished m (show m < w.started by omega)
      refine ⟨outcome, ?_⟩
      simpa [here] using done
  case waiting =>
    intro m after
    have bound : w'.started ≤ m := after
    have here : m ≠ w.started := by omega
    have before := atRest.waiting m (show w.started ≤ m by omega)
    simpa [here] using before

/-- A reservation is given back or settled for less while no mirror command is on its way. -/
theorem release (atRest : AtRest dateKey B operations spentUsd pool) (positive : 0 < amount)
    (enough : amount ≤ spentUsd) {rest : ℚ → LedgerProgram (List Decided)}
    (next : pool.threads .governor =
      (updateSpentUsd dateKey (-amount) >>= rest).embed ledgerOfDay) :
    ∃ pool', Pool.Steps UndisturbedAnswers pool pool' ∧
      AtRest dateKey B operations (spentUsd - amount) pool' ∧
      pool'.threads .governor = (rest (spentUsd - amount)).embed ledgerOfDay := by
  obtain ⟨threads, w⟩ := pool
  have spent : w.stores.spent = spentUsd := atRest.spent
  have mirrored : w.Mirrored := atRest.mirrored
  have row : w.stores.row = some spentUsd := by
    cases held : w.stores.row with
    | none =>
        have empty := DayStores.spent_of_no_row held
        linarith
    | some value => rw [← spent, DayStores.spent_of_row held]
  obtain ⟨w', stores, started, phase, run⟩ :=
    updateSpentUsd_releases dateKey mirrored row positive enough
  refine ⟨_, Pool.Steps.of_runs_settle run (next.trans (embed_settle _ _ _)), ?_, rfl⟩
  constructor
  case cached => exact congrArg DayStores.cached stores
  case spent => exact congrArg DayStores.spent stores
  case mirrored => exact fun m => (congrArg (fun phase => (phase m).carried) phase).trans (mirrored m)
  case finished =>
    intro m before
    have bound : m < w'.started := before
    rw [started] at bound
    simpa using atRest.finished m bound
  case waiting =>
    intro m after
    have bound : w'.started ≤ m := after
    rw [started] at bound
    simpa using atRest.waiting m bound

end AtRest

/-- A reservation is given back and a second one settled for less, each after its mirror command has
landed. -/
theorem governor_conserves_half :
    ∃ pool, Pool.Steps UndisturbedAnswers (spendPool "2026-01-01" 1
        [.authorize (1 / 2), .rollback 0, .authorize (1 / 2), .settle 1 (1 / 4)]) pool ∧
      pool.threads .governor = .done (.ok [.released, .settled (1 / 4)]) ∧
      pool.state.stores.spent = 1 / 4 ∧
      ∃ decided, Except.ok [.released, .settled (1 / 4)] = (.ok decided : Except BriefError _) ∧
        pool.state.stores.spent = totalUsd decided ∧
        ∀ spentUsd, pool.state.stores.redis = some spentUsd → spentUsd = totalUsd decided := by
  let decision : BriefBudgetDecision := ⟨true, "2026-01-01", .finite 1, 1 / 2, 1 / 2⟩
  have positive : (0 : ℚ) < 1 / 2 := by norm_num
  have quarter : (0 : ℚ) < 1 / 4 := by norm_num
  have within : (1 / 2 : ℚ) ≤ 1 := by norm_num
  have undone : rollback decision = updateSpentUsd "2026-01-01" (-(1 / 2)) :=
    if_neg (not_le.2 positive)
  have settled : settle decision (1 / 4) = updateSpentUsd "2026-01-01" (-(1 / 4)) :=
    congrArg (updateSpentUsd _) (show (1 / 4 - 1 / 2 : ℚ) = -(1 / 4) by norm_num)
  have atRest₀ : AtRest "2026-01-01" 1 [.authorize (1 / 2), .rollback 0, .authorize (1 / 2),
      .settle 1 (1 / 4)] 0 _ := .start
  obtain ⟨pool₁, steps₁, atRest₁, next₁⟩ :=
    atRest₀.authorize positive.le (by linarith) rfl
  rw [zero_add] at atRest₁ next₁
  have next₁ : pool₁.threads .governor = (rollback decision >>= fun _ => governorProgram "2026-01-01" 1
      [.authorize (1 / 2), .settle 1 (1 / 4)] [.released]).embed ledgerOfDay := next₁
  rw [undone] at next₁
  obtain ⟨pool₂, steps₂, atRest₂, next₂⟩ := atRest₁.release positive (le_refl _) next₁
  rw [sub_self] at atRest₂
  obtain ⟨pool₃, steps₃, atRest₃, next₃⟩ :=
    atRest₂.authorize positive.le (by linarith) next₂
  rw [zero_add] at atRest₃ next₃
  have next₃ : pool₃.threads .governor = (settle decision (1 / 4) >>= fun _ =>
      governorProgram "2026-01-01" 1 [] [.released, .settled (1 / 4)]).embed ledgerOfDay := next₃
  rw [settled] at next₃
  obtain ⟨pool₄, steps₄, atRest₄, next₄⟩ := atRest₃.release quarter (by norm_num) next₃
  have steps := steps₁.trans (steps₂.trans (steps₃.trans steps₄))
  have spent : pool₄.state.stores.spent = 1 / 4 := atRest₄.spent.trans (by norm_num)
  have valid : ∀ operation ∈ [GovernorOperation.authorize (1 / 2), .rollback 0,
      .authorize (1 / 2), .settle 1 (1 / 4)], operation.Valid 1 := by
    intro operation mem
    simp only [List.mem_cons, List.not_mem_nil, or_false] at mem
    rcases mem with rfl | rfl | rfl | rfl
    · exact ⟨positive, within⟩
    · trivial
    · exact ⟨positive, within⟩
    · exact (show (0 : ℚ) ≤ 1 / 4 by norm_num)
  exact ⟨pool₄, steps, next₄, spent, governor_conserves valid steps next₄ atRest₄.finished⟩

/-- A rollback finds no row to take from. -/
theorem rollback_no_row {decision : BriefBudgetDecision} (positive : 0 < decision.reservedCostUsd)
    (row : w.stores.row = none) :
    ((rollback decision).embed ledgerOfDay).Runs (SpendAnswers .governor) w (.ok 0) w := by
  have unmatched : SpendAnswers .governor w
      (.statement (.decrementRow decision.dateKey decision.reservedCostUsd)) _ _ := .governor _
  have unclamped : SpendAnswers .governor w (.statement (.clampRow decision.dateKey)) _ _ :=
    .governor _
  rw [DayStores.exec_decrementRow_of_no_row row] at unmatched
  rw [DayStores.exec_clampRow_of_no_row row] at unclamped
  unfold rollback updateSpentUsd
  rw [if_neg (not_le.2 positive), if_neg (by linarith), if_neg (by linarith), abs_neg,
    abs_of_pos positive]
  exact .await unmatched (.await unclamped .done)

/-- A release before the mirror landed is lost: the mirror writes the amount afterwards. -/
theorem rollback_leaks :
    (∀ operation ∈ [GovernorOperation.authorize (1 / 2), .rollback 0], operation.Valid 1) ∧
    ∃ pool, Pool.Steps SpendAnswers
        (spendPool "2026-01-01" 1 [.authorize (1 / 2), .rollback 0]) pool ∧
      pool.threads .governor = .done (.ok [.released]) ∧
      (∀ m < pool.state.started, ∃ outcome, pool.threads (.mirror m) = .done outcome) ∧
      pool.state.stores.spent ≠ totalUsd [.released] := by
  have within : SpendWorld.start.stores.cached + 1 / 2 ≤ (1 : ℚ) := by
    rw [show SpendWorld.start.stores.cached = 0 from rfl]
    norm_num
  obtain ⟨w, stores, started, phase, run⟩ := authorize_of_room "2026-01-01" within
  have row : w.stores.row = none := congrArg DayStores.row stores
  have running : w.phase 0 = .running ⟨"2026-01-01", .finite 1, _⟩ := congrFun phase 0
  have positive : (0 : ℚ) < 1 / 2 := by norm_num
  have released : (actorProgram "2026-01-01" 1 [.authorize (1 / 2), .rollback 0] .governor).Runs
      (SpendAnswers .governor) .start (.ok [.released]) w :=
    (run.mono fun _ _ _ _ answer => answer.1).embed_bind
      ((rollback_no_row positive row).embed_bind .done)
  have above : w.stores.spent ≤ SpendWorld.start.stores.cached + 1 / 2 := by
    rw [DayStores.spent_of_no_row row, show SpendWorld.start.stores.cached = 0 from rfl]
    norm_num
  have landing : (actorProgram "2026-01-01" 1 [.authorize (1 / 2), .rollback 0] (.mirror 0)).Runs
      (SpendAnswers (.mirror 0)) w _ _ :=
    (mirror_lands running above).mono fun _ _ _ _ answer => answer.1
  refine ⟨fun operation mem => ?_, _, (Pool.Steps.of_runs released).trans
    (Pool.Steps.of_runs (i := Actor.mirror 0) landing), rfl, fun m before => ?_, ?_⟩
  · rcases List.mem_cons.1 mem with rfl | later
    · exact ⟨positive, (show (1 / 2 : ℚ) ≤ 1 by norm_num)⟩
    · obtain rfl := List.mem_singleton.1 later
      trivial
  · have only : m < w.started := before
    rw [started] at only
    obtain rfl : m = 0 := Nat.lt_one_iff.1 only
    exact ⟨_, rfl⟩
  · exact (show (0 + 1 / 2 : ℚ) ≠ 0 + 0 by norm_num)

end RisingIntelligence.Brief
