import RisingIntelligence.Async.Interleaving
import RisingIntelligence.Brief.BudgetStores
import Mathlib.Algebra.BigOperators.Pi
import Mathlib.Algebra.Order.BigOperators.Group.Finset
import Mathlib.Tactic.Linarith
import Mathlib.Tactic.Ring

/-!
# The daily cap

Any number of reservations of one day, each granted or refused and then kept, rolled back or
settled, run against the two stores together with their mirror commands, while Redis calls fail
and the Redis key disappears.  Every statement is one atomic step.

`outstanding` is what the granted reservations still hold.  The code grants beyond the daily
budget (`reserve_exceeds_budget`); `grants_within_budget` says under which conditions on its steps
it does not.
-/

namespace RisingIntelligence.Brief

open Async Program

/-! ## Reservations and their threads -/

/-- What becomes of a granted reservation. -/
inductive Ending : Type
  | kept
  | rolledBack
  | settled (actualCostUsd : ℚ)

/-- A reservation of the day; the actual cost never exceeds the reserved amount. -/
structure Life where
  amountUsd : ℚ
  ending : Ending
  amount_nonneg : 0 ≤ amountUsd
  settled_within : ∀ actual, ending = .settled actual → 0 ≤ actual ∧ actual ≤ amountUsd

namespace Life

/-- What the reservation holds after its ending. -/
def remainingUsd (life : Life) : ℚ :=
  match life.ending with
  | .kept => life.amountUsd
  | .rolledBack => 0
  | .settled actualCostUsd => actualCostUsd

theorem remaining_nonneg (life : Life) : 0 ≤ life.remainingUsd := by
  unfold remainingUsd
  cases ended : life.ending with
  | kept => exact life.amount_nonneg
  | rolledBack => exact le_refl 0
  | settled actual => exact (life.settled_within actual ended).1

theorem remaining_le (life : Life) : life.remainingUsd ≤ life.amountUsd := by
  unfold remainingUsd
  cases ended : life.ending with
  | kept => exact le_refl _
  | rolledBack => exact life.amount_nonneg
  | settled actual => exact (life.settled_within actual ended).2

/-- What a worker does with the decision. -/
def dispose (life : Life) (decision : BriefBudgetDecision) : LedgerProgram Unit :=
  match life.ending with
  | .kept => pure ()
  | .rolledBack => do
      let _ ← rollback decision
      pure ()
  | .settled actualCostUsd => do
      let _ ← settle decision actualCostUsd
      pure ()

/-- The ledger operations of one reservation. -/
def program (life : Life) (dateKey : String) (dailyBudgetUsd : ℚ) : LedgerProgram Unit := do
  let decision ← authorize {
    dateKey := dateKey
    dailyBudgetUsd := .finite dailyBudgetUsd
    estimatedCostUsd := life.amountUsd }
  if decision.authorized then life.dispose decision else pure ()

end Life

/-- The threads of a day: reservations, their mirror commands and losses of the Redis key. -/
inductive Thread (κ τ : Type) : Type
  | worker (i : κ)
  | mirror (i : κ)
  | outage (j : τ)
  deriving DecidableEq

variable {κ τ : Type}

/-- The program of each thread. -/
def threadProgram (dateKey : String) (dailyBudgetUsd : ℚ) (lives : κ → Life) :
    Thread κ τ → Program day BriefError Unit
  | .worker i => ((lives i).program dateKey dailyBudgetUsd).embed ledgerOfDay
  | .mirror _ => do
      let input ← call (I := day) .mirrorStarted
      (mirror input).embed ledgerOfDay
  | .outage _ => call (I := day) .loseKey

/-! ## The world -/

/-- The stores and what was granted: what each reservation holds, how far its mirror is, whether
a grant of Postgres has not been followed by a cache write, and the outstanding sum after each
grant. -/
structure DayWorld (κ : Type) where
  stores : DayStores
  charge : κ → ℚ
  phase : κ → MirrorPhase
  cacheBehind : Bool
  grants : List ℚ

namespace DayWorld

variable (w : DayWorld κ)

def withStores (stores : DayStores) : DayWorld κ := { w with stores := stores }

/-- No mirror command has still to write. -/
def Mirrored : Prop := ∀ i, (w.phase i).carried = none

/-- What all granted reservations hold. -/
def outstanding [Fintype κ] : ℚ := ∑ i, w.charge i

variable [DecidableEq κ]

def setCharge (i : κ) (amount : ℚ) : DayWorld κ :=
  { w with charge := Function.update w.charge i amount }

def setPhase (i : κ) (phase : MirrorPhase) : DayWorld κ :=
  { w with phase := Function.update w.phase i phase }

def grant [Fintype κ] (i : κ) (amount : ℚ) : DayWorld κ :=
  { w.setCharge i amount with grants := w.grants ++ [(w.setCharge i amount).outstanding] }

theorem phase_setPhase_self (i : κ) (phase : MirrorPhase) :
    (w.setPhase i phase).phase i = phase := by
  simp [setPhase]

theorem phase_setPhase_of_ne {i j : κ} (other : j ≠ i) (phase : MirrorPhase) :
    (w.setPhase i phase).phase j = w.phase j := by
  simp [setPhase, other]

theorem charge_setCharge_self (i : κ) (amount : ℚ) : (w.setCharge i amount).charge i = amount := by
  simp [setCharge]

theorem charge_setCharge_of_ne {i j : κ} (other : j ≠ i) (amount : ℚ) :
    (w.setCharge i amount).charge j = w.charge j := by
  simp [setCharge, other]

end DayWorld

variable [DecidableEq κ] [Fintype κ]

/-- What the answer of a worker's statement means for its reservation. -/
def account (life : Life) (i : κ) (w : DayWorld κ) :
    (c : LedgerCall) → Except BriefError c.Reply → DayWorld κ
  | .evalReservation _ _ amount, .ok result =>
      if result.reserved then (w.grant i amount).setPhase i (.granted result.spentUsd) else w
  | .reserveRow _ _ amount, .ok count =>
      if count = 0 then w else { w.grant i amount with cacheBehind := true }
  | .startMirror input, .ok _ => w.setPhase i (.running input)
  | .setCache .., .ok _ => { w with cacheBehind := false }
  | .decrementRow .., .ok count => if count = 0 then w else w.setCharge i life.remainingUsd
  | .clampRow _, .ok _ => w.setCharge i life.remainingUsd
  | _, _ => w

/-- A mirror command is through when its create or update was made. -/
def accountMirror (i : κ) (w : DayWorld κ) :
    (c : LedgerCall) → Except BriefError c.Reply → DayWorld κ
  | .createRow .., .ok _ => w.setPhase i .landed
  | .updateRow .., .ok _ => w.setPhase i .landed
  | _, _ => w

def LedgerCall.isRedis : LedgerCall → Bool
  | .evalReservation .. | .setCache .. => true
  | _ => false

/-- The answers of the day: Postgres succeeds, a Redis call may fail before or after its effect,
and the Redis key may be lost. -/
inductive DayAnswers (lives : κ → Life) : Thread κ τ → Handler day (DayWorld κ)
  | worker {i : κ} {w : DayWorld κ} (c : LedgerCall) :
    DayAnswers lives (.worker i) w (.statement c) (w.stores.exec c).1
      (account (lives i) i (w.withStores (w.stores.exec c).2) c (w.stores.exec c).1)
  | failed {i : κ} {w : DayWorld κ} {c : LedgerCall} {error : BriefError} :
    c.isRedis = true → DayAnswers lives (.worker i) w (.statement c) (.error error) w
  | replyLost {i : κ} {w : DayWorld κ} {c : LedgerCall} {error : BriefError} :
    c.isRedis = true → DayAnswers lives (.worker i) w (.statement c) (.error error)
      (w.withStores (w.stores.exec c).2)
  | mirror {i : κ} {w : DayWorld κ} (c : LedgerCall) :
    DayAnswers lives (.mirror i) w (.statement c) (w.stores.exec c).1
      (accountMirror i (w.withStores (w.stores.exec c).2) c (w.stores.exec c).1)
  | started {i : κ} {w : DayWorld κ} {input : BudgetMirrorCommandInput} :
    w.phase i = .running input → DayAnswers lives (.mirror i) w .mirrorStarted (.ok input) w
  | keyLost {j : τ} {w : DayWorld κ} :
    DayAnswers lives (.outage j) w .loseKey (.ok ())
      (w.withStores { w.stores with redis := none })

/-! ## When the cap holds -/

/-- The conditions on a step that changes anything. -/
def Coherent (lives : κ → Life) (dailyBudgetUsd : ℚ) :
    Thread κ τ → DayWorld κ → DayCall → Prop
  -- the reservation script runs while the cache holds every grant of Postgres
  | .worker _, w, .statement (.evalReservation ..) => w.cacheBehind = false
  -- Postgres grants no more than the whole budget, and when every grant of Redis is mirrored
  | .worker _, w, .statement (.reserveRow _ _ amount) => amount ≤ dailyBudgetUsd ∧ w.Mirrored
  -- a cache write follows every mirror and is at least the row
  | .worker _, w, .statement (.setCache _ spentUsd) => w.Mirrored ∧ w.stores.spent ≤ spentUsd
  -- clamping takes no more than the decrement would have
  | .worker i, w, .statement (.clampRow _) =>
      w.stores.spent ≤ (lives i).amountUsd - (lives i).remainingUsd
  -- a mirror does not lower the row
  | .mirror _, w, .statement (.updateRow _ spentUsd _) => w.stores.spent ≤ spentUsd
  -- the key is lost only when nothing is outstanding
  | .outage _, w, .loseKey => w.outstanding = 0
  | _, _, _ => True

/-- The answers of the day within these conditions. -/
def CoherentAnswers (lives : κ → Life) (dailyBudgetUsd : ℚ) (t : Thread κ τ) :
    Handler day (DayWorld κ) :=
  fun w c reply w' => DayAnswers lives t w c reply w' ∧
    (w' = w ∨ Coherent lives dailyBudgetUsd t w c)

/-! ## The invariant -/

/-- The cache and, up to mirrors on their way, the row hold what is outstanding. -/
structure Capped (dailyBudgetUsd : ℚ) (w : DayWorld κ) : Prop where
  charge_nonneg : ∀ i, 0 ≤ w.charge i
  carried_nonneg : ∀ i cached, (w.phase i).carried = some cached → 0 ≤ cached
  cache : w.cacheBehind = false → w.outstanding ≤ w.stores.cached
  row : w.outstanding ≤ w.stores.spent ∨
    ∃ i cached, (w.phase i).carried = some cached ∧ w.outstanding ≤ cached
  granted : ∀ outstanding ∈ w.grants, outstanding ≤ dailyBudgetUsd

theorem outstanding_setCharge (w : DayWorld κ) (i : κ) (amount : ℚ) :
    (w.setCharge i amount).outstanding = w.outstanding - w.charge i + amount := by
  have split := Finset.add_sum_erase Finset.univ w.charge (Finset.mem_univ i)
  simp only [DayWorld.outstanding, DayWorld.setCharge]
  rw [Finset.sum_update_of_mem (Finset.mem_univ i), ← Finset.erase_eq, ← split]
  ring

namespace Capped

variable {B amount cached : ℚ} {w : DayWorld κ} {i : κ}

omit [DecidableEq κ] in
theorem outstanding_nonneg (capped : Capped B w) : 0 ≤ w.outstanding :=
  Finset.sum_nonneg fun i _ => capped.charge_nonneg i

omit [DecidableEq κ] in
theorem covered (capped : Capped B w) (mirrored : w.Mirrored) :
    w.outstanding ≤ w.stores.spent := by
  rcases capped.row with row | ⟨i, cached, carried, _⟩
  · exact row
  · rw [mirrored i] at carried
    cases carried

theorem setCharge_nonneg (capped : Capped B w) (nonneg : 0 ≤ amount) (j : κ) :
    0 ≤ (w.setCharge i amount).charge j := by
  by_cases same : j = i
  · subst same
    rw [DayWorld.charge_setCharge_self]
    exact nonneg
  · rw [DayWorld.charge_setCharge_of_ne _ same]
    exact capped.charge_nonneg j

theorem outstanding_grant_le (capped : Capped B w) :
    (w.grant i amount).outstanding ≤ w.outstanding + amount := by
  have total : (w.grant i amount).outstanding = w.outstanding - w.charge i + amount :=
    outstanding_setCharge w i amount
  have nonneg := capped.charge_nonneg i
  linarith

theorem grants_grant (capped : Capped B w) (room : w.outstanding + amount ≤ B) :
    ∀ outstanding ∈ (w.grant i amount).grants, outstanding ≤ B := by
  intro outstanding mem
  rcases List.mem_append.1 mem with before | new
  · exact capped.granted outstanding before
  · rw [List.mem_singleton.1 new]
    exact capped.outstanding_grant_le.trans room

/-- A grant of the reservation script; what it read back is on its way to the row. -/
theorem evalGranted (capped : Capped B w) (behind : w.cacheBehind = false) (nonneg : 0 ≤ amount)
    (room : w.stores.cached + amount ≤ B) :
    Capped B (((w.withStores (w.stores.setRedis (w.stores.cached + amount))).grant i amount).setPhase
      i (.granted (w.stores.cached + amount))) := by
  have held := capped.cache behind
  have total : (w.grant i amount).outstanding ≤ w.stores.cached + amount :=
    capped.outstanding_grant_le.trans (by linarith)
  constructor
  case charge_nonneg => exact capped.setCharge_nonneg nonneg
  case carried_nonneg =>
    intro j cached carried
    by_cases same : j = i
    · subst same
      rw [DayWorld.phase_setPhase_self] at carried
      have written : w.stores.cached + amount = cached := Option.some.inj carried
      have outstanding := capped.outstanding_nonneg
      linarith
    · rw [DayWorld.phase_setPhase_of_ne _ same] at carried
      exact capped.carried_nonneg j cached carried
  case cache => exact fun _ => total
  case row => exact .inr ⟨i, _, by rw [DayWorld.phase_setPhase_self]; rfl, total⟩
  case granted => exact capped.grants_grant (by linarith)

/-- A grant of Postgres, with every grant of Redis in the row. -/
theorem rowGranted (capped : Capped B w) (mirrored : w.Mirrored) (nonneg : 0 ≤ amount)
    (room : w.stores.spent + amount ≤ B) :
    Capped B { (w.withStores (w.stores.setRow (w.stores.spent + amount))).grant i amount with
      cacheBehind := true } := by
  have held := capped.covered mirrored
  have total : (w.grant i amount).outstanding ≤ w.stores.spent + amount :=
    capped.outstanding_grant_le.trans (by linarith)
  constructor
  case charge_nonneg => exact capped.setCharge_nonneg nonneg
  case carried_nonneg => exact capped.carried_nonneg
  case cache => exact fun same => by cases same
  case row => exact .inl total
  case granted => exact capped.grants_grant (by linarith)

omit [DecidableEq κ] in
/-- The stores may change as long as both still hold what is outstanding. -/
theorem withStores (capped : Capped B w) {stores : DayStores}
    (cache : w.cacheBehind = false → w.outstanding ≤ w.stores.cached → w.outstanding ≤ stores.cached)
    (row : w.outstanding ≤ w.stores.spent → w.outstanding ≤ stores.spent) :
    Capped B (w.withStores stores) where
  charge_nonneg := capped.charge_nonneg
  carried_nonneg := capped.carried_nonneg
  cache behind := cache behind (capped.cache behind)
  row := capped.row.imp_left row
  granted := capped.granted

/-- A reservation gives back what its ending leaves; the row gives back no more. -/
theorem disposed {stores : DayStores} {remaining : ℚ} (capped : Capped B w)
    (nonneg : 0 ≤ remaining) (less : remaining ≤ w.charge i)
    (cache : stores.cached = w.stores.cached)
    (row : w.outstanding ≤ w.stores.spent →
      w.outstanding - w.charge i + remaining ≤ stores.spent) :
    Capped B ((w.withStores stores).setCharge i remaining) := by
  have total : ((w.withStores stores).setCharge i remaining).outstanding =
      w.outstanding - w.charge i + remaining := outstanding_setCharge _ i remaining
  constructor
  case charge_nonneg => exact capped.setCharge_nonneg nonneg
  case carried_nonneg => exact capped.carried_nonneg
  case cache =>
    intro behind
    have held := capped.cache behind
    rw [total]
    exact (show _ ≤ stores.cached by rw [cache]; linarith)
  case row =>
    rw [total]
    rcases capped.row with held | ⟨j, cached, carried, held⟩
    · exact .inl (row held)
    · exact .inr ⟨j, cached, carried, by linarith⟩
  case granted => exact capped.granted

/-- A mirror command carries its spend on. -/
theorem setPhase (capped : Capped B w) {phase : MirrorPhase}
    (same : phase.carried = (w.phase i).carried) : Capped B (w.setPhase i phase) := by
  have carried (j : κ) : ((w.setPhase i phase).phase j).carried = (w.phase j).carried := by
    by_cases h : j = i
    · subst h
      rw [DayWorld.phase_setPhase_self, same]
    · rw [DayWorld.phase_setPhase_of_ne _ h]
  constructor
  case charge_nonneg => exact capped.charge_nonneg
  case carried_nonneg => exact fun j cached held => capped.carried_nonneg j cached (carried j ▸ held)
  case cache => exact capped.cache
  case row =>
    exact capped.row.imp_right fun ⟨j, cached, held, total⟩ =>
      ⟨j, cached, (carried j).trans held, total⟩
  case granted => exact capped.granted

/-- A mirror command lands: the row holds its spend and what it held before. -/
theorem landed (capped : Capped B w) (carried : (w.phase i).carried = some cached) {value : ℚ}
    (row : w.stores.spent ≤ value) (merged : cached ≤ value) :
    Capped B ((w.withStores (w.stores.setRow value)).setPhase i .landed) := by
  constructor
  case charge_nonneg => exact capped.charge_nonneg
  case carried_nonneg =>
    intro j cached' held
    by_cases same : j = i
    · subst same
      rw [DayWorld.phase_setPhase_self] at held
      cases held
    · rw [DayWorld.phase_setPhase_of_ne _ same] at held
      exact capped.carried_nonneg j cached' held
  case cache => exact capped.cache
  case row =>
    rcases capped.row with held | ⟨j, cached', held, total⟩
    · exact .inl (held.trans row)
    · by_cases same : j = i
      · subst same
        obtain rfl : cached = cached' := Option.some.inj (carried.symm.trans held)
        exact .inl (total.trans merged)
      · refine .inr ⟨j, cached', ?_, total⟩
        rw [DayWorld.phase_setPhase_of_ne _ same]
        exact held
  case granted => exact capped.granted

end Capped

/-! ## What one statement does -/

variable {lives : κ → Life} {B : ℚ} {i : κ} {w w' : DayWorld κ}

namespace DayAnswers

/-- The reservation script grants, refuses, or throws with or without its effect. -/
theorem eval_cases {dateKey : String} {amount : ℚ}
    {reply : Except BriefError BudgetReservationResult}
    (answer : DayAnswers (τ := τ) lives (.worker i) w
      (.statement (.evalReservation dateKey (.finite B) amount)) reply w') :
    (reply = .ok ⟨true, w.stores.cached + amount⟩ ∧ w.stores.cached + amount ≤ B ∧
      w' = ((w.withStores (w.stores.setRedis (w.stores.cached + amount))).grant i amount).setPhase i
        (.granted (w.stores.cached + amount))) ∨
    (reply = .ok ⟨false, w.stores.cached⟩ ∧ w' = w) ∨
    (∃ error, reply = .error error) ∧
      (w' = w ∨ w' = w.withStores (w.stores.setRedis (w.stores.cached + amount))) := by
  by_cases room : w.stores.cached + amount ≤ B
  · cases answer with
    | worker =>
        rw [DayStores.exec_eval_of_room room]
        exact .inl ⟨rfl, room, rfl⟩
    | failed => exact .inr (.inr ⟨⟨_, rfl⟩, .inl rfl⟩)
    | replyLost =>
        rw [DayStores.exec_eval_of_room room]
        exact .inr (.inr ⟨⟨_, rfl⟩, .inr rfl⟩)
  · cases answer with
    | worker =>
        rw [DayStores.exec_eval_of_exceeds room]
        exact .inr (.inl ⟨rfl, rfl⟩)
    | failed => exact .inr (.inr ⟨⟨_, rfl⟩, .inl rfl⟩)
    | replyLost =>
        rw [DayStores.exec_eval_of_exceeds room]
        exact .inr (.inr ⟨⟨_, rfl⟩, .inl rfl⟩)

/-- A cache write takes effect or not, whatever it reports. -/
theorem setCache_cases {dateKey : String} {spentUsd : ℚ} {reply : Except BriefError Unit}
    (answer : DayAnswers (τ := τ) lives (.worker i) w (.statement (.setCache dateKey spentUsd))
      reply w') :
    w' = w ∨ ∃ behind,
      w' = { w.withStores (w.stores.setRedis spentUsd) with cacheBehind := behind } := by
  cases answer with
  | worker => exact .inr ⟨false, rfl⟩
  | failed => exact .inl rfl
  | replyLost => exact .inr ⟨w.cacheBehind, rfl⟩

/-- The conditional increment matches a row that leaves room for the amount. -/
theorem reserveRow_cases {dateKey : String} {maxSpend amount : ℚ} {reply : Except BriefError Nat}
    (answer : DayAnswers (τ := τ) lives (.worker i) w
      (.statement (.reserveRow dateKey (some maxSpend) amount)) reply w') :
    (reply = .ok 0 ∧ w' = w) ∨
    (reply = .ok 1 ∧ w.stores.spent ≤ maxSpend ∧
      w' = { (w.withStores (w.stores.setRow (w.stores.spent + amount))).grant i amount with
        cacheBehind := true }) := by
  cases answer with
  | failed redis => cases redis
  | replyLost redis => cases redis
  | worker =>
      cases held : w.stores.row with
      | none =>
          rw [DayStores.exec_reserveRow_of_no_row held]
          exact .inl ⟨rfl, rfl⟩
      | some spent =>
          rw [DayStores.spent_of_row held]
          by_cases room : spent ≤ maxSpend
          · rw [DayStores.exec_reserveRow_of_room held room]
            exact .inr ⟨rfl, room, rfl⟩
          · rw [DayStores.exec_reserveRow_of_full held room]
            exact .inl ⟨rfl, rfl⟩

/-- The decrement matches a row that holds the amount. -/
theorem decrementRow_cases {dateKey : String} {amount : ℚ} {reply : Except BriefError Nat}
    (answer : DayAnswers (τ := τ) lives (.worker i) w (.statement (.decrementRow dateKey amount))
      reply w') :
    (reply = .ok 0 ∧ w' = w) ∨
    (reply = .ok 1 ∧ w' = (w.withStores (w.stores.setRow (w.stores.spent - amount))).setCharge i
      (lives i).remainingUsd) := by
  cases answer with
  | failed redis => cases redis
  | replyLost redis => cases redis
  | worker =>
      cases held : w.stores.row with
      | none =>
          rw [DayStores.exec_decrementRow_of_no_row held]
          exact .inl ⟨rfl, rfl⟩
      | some spent =>
          rw [DayStores.spent_of_row held]
          by_cases enough : amount ≤ spent
          · rw [DayStores.exec_decrementRow_of_le held enough]
            exact .inr ⟨rfl, rfl⟩
          · rw [DayStores.exec_decrementRow_of_lt held enough]
            exact .inl ⟨rfl, rfl⟩

/-- The clamp empties a row that is there. -/
theorem clampRow_cases {dateKey : String} {reply : Except BriefError Nat}
    (answer : DayAnswers (τ := τ) lives (.worker i) w (.statement (.clampRow dateKey)) reply w') :
    ∃ stores, w' = (w.withStores stores).setCharge i (lives i).remainingUsd ∧
      stores.cached = w.stores.cached ∧ stores.spent = 0 := by
  cases answer with
  | failed redis => cases redis
  | replyLost redis => cases redis
  | worker =>
      cases held : w.stores.row with
      | none =>
          simp only [DayStores.exec, held]
          exact ⟨w.stores, rfl, rfl, by simp [DayStores.spent, held]⟩
      | some spent =>
          simp only [DayStores.exec, held]
          exact ⟨w.stores.setRow 0, rfl, rfl, rfl⟩

/-- A mirror's create is made or finds a row. -/
theorem createRow_cases {dateKey : String} {spentUsd : ℚ} {budgetUsd : Js.Number}
    {reply : Except BriefError Unit}
    (answer : DayAnswers (τ := τ) lives (.mirror i) w
      (.statement (.createRow dateKey spentUsd budgetUsd)) reply w') :
    w' = w ∨ (reply = .ok () ∧ w.stores.spent = 0 ∧
      w' = (w.withStores (w.stores.setRow spentUsd)).setPhase i .landed) := by
  cases answer with
  | mirror =>
      cases held : w.stores.row with
      | none =>
          rw [DayStores.exec_createRow_of_no_row held]
          exact .inr ⟨rfl, DayStores.spent_of_no_row held, rfl⟩
      | some spent =>
          rw [DayStores.exec_createRow_of_row held]
          exact .inl rfl

theorem updateRow_cases {dateKey : String} {spentUsd : ℚ} {budgetUsd : Js.Number}
    {reply : Except BriefError Unit}
    (answer : DayAnswers (τ := τ) lives (.mirror i) w
      (.statement (.updateRow dateKey spentUsd budgetUsd)) reply w') :
    w' = w ∨ w' = (w.withStores (w.stores.setRow spentUsd)).setPhase i .landed := by
  cases answer with
  | mirror =>
      cases held : w.stores.row with
      | none =>
          simp only [DayStores.exec, held]
          exact .inl rfl
      | some spent =>
          simp only [DayStores.exec, held]
          exact .inr rfl

end DayAnswers

/-! ## One thread -/

/-- Nothing but the stores and the grants' log changed. -/
def DayWorld.SameReservations (w w' : DayWorld κ) : Prop := w'.charge = w.charge ∧ w'.phase = w.phase

/-- What a thread relies on: a worker on what its reservation holds and on its mirror command
until that runs, a mirror command on its input. -/
def dayRely : Thread κ τ → DayWorld κ → DayWorld κ → Prop
  | .worker i, w, w' => w'.charge i = w.charge i ∧
      ((w.phase i).isRunning = false → w'.phase i = w.phase i)
  | .mirror i, w, w' => (w.phase i).isRunning = true → w'.phase i = w.phase i
  | .outage _, _, _ => True

/-- What a thread does at most. -/
def dayGuarantee : Thread κ τ → DayWorld κ → DayWorld κ → Prop
  | .worker i, w, w' => (∀ j ≠ i, w'.charge j = w.charge j ∧ w'.phase j = w.phase j) ∧
      ((w.phase i).isRunning = true → w'.phase i = w.phase i)
  | .mirror i, w, w' => w'.charge = w.charge ∧ (∀ j ≠ i, w'.phase j = w.phase j) ∧
      ((w.phase i).isRunning = false → w'.phase i = w.phase i)
  | .outage _, w, w' => w.SameReservations w'

omit [DecidableEq κ] [Fintype κ] in
theorem dayRely_refl (t : Thread κ τ) (w : DayWorld κ) : dayRely t w w := by
  cases t with
  | worker i => exact ⟨rfl, fun _ => rfl⟩
  | mirror i => exact fun _ => rfl
  | outage j => trivial

omit [DecidableEq κ] [Fintype κ] in
theorem dayRely_trans {t : Thread κ τ} {w₁ w₂ w₃ : DayWorld κ} (first : dayRely t w₁ w₂)
    (second : dayRely t w₂ w₃) : dayRely t w₁ w₃ := by
  cases t with
  | worker i =>
      refine ⟨second.1.trans first.1, fun idle => ?_⟩
      have same := first.2 idle
      exact (second.2 (same ▸ idle)).trans same
  | mirror i =>
      intro running
      have same := first running
      exact (second (same ▸ running)).trans same
  | outage j => trivial

omit [DecidableEq κ] [Fintype κ] in
theorem dayGuarantee_rely {t u : Thread κ τ} {w w' : DayWorld κ} (other : t ≠ u)
    (guaranteed : dayGuarantee t w w') : dayRely u w w' := by
  cases u with
  | outage j => trivial
  | worker j =>
      cases t with
      | worker i =>
          have different : j ≠ i := fun same => other (same ▸ rfl)
          exact ⟨(guaranteed.1 j different).1, fun _ => (guaranteed.1 j different).2⟩
      | mirror i =>
          refine ⟨congrFun guaranteed.1 j, fun idle => ?_⟩
          by_cases same : j = i
          · subst same
            exact guaranteed.2.2 idle
          · exact guaranteed.2.1 j same
      | outage i => exact ⟨congrFun guaranteed.1 j, fun _ => congrFun guaranteed.2 j⟩
  | mirror j =>
      cases t with
      | worker i =>
          intro running
          by_cases same : j = i
          · subst same
            exact guaranteed.2 running
          · exact (guaranteed.1 j same).2
      | mirror i =>
          have different : j ≠ i := fun same => other (same ▸ rfl)
          exact fun _ => guaranteed.2.1 j different
      | outage i => exact fun _ => congrFun guaranteed.2 j

/-- The threads of a day within the conditions. -/
def dayDiscipline (τ : Type) (lives : κ → Life) (dailyBudgetUsd : ℚ) :
    Discipline (Thread κ τ) day (DayWorld κ) where
  handler := CoherentAnswers lives dailyBudgetUsd
  inv := Capped dailyBudgetUsd
  rely := dayRely
  guarantee := dayGuarantee
  atCall _ _ _ := True
  rely_refl := dayRely_refl
  rely_trans := dayRely_trans
  compatible := dayGuarantee_rely

/-- The ledger program of a thread keeps the cap, and a value it returns satisfies `Q`. -/
abbrev KeepsCap (lives : κ → Life) (B : ℚ) (t : Thread κ τ) {α : Type} (p : LedgerProgram α)
    (Q : α → DayWorld κ → Prop) (w : DayWorld κ) : Prop :=
  Keeping (dayDiscipline τ lives B) t p Q w

/-- One statement, then the rest. -/
theorem KeepsCap.statement {t : Thread κ τ} {α : Type} {c : LedgerCall}
    {f : Except BriefError c.Reply → LedgerProgram α} {Q : α → DayWorld κ → Prop}
    (step : ∀ w₁, dayRely t w w₁ → Capped B w₁ → ∀ reply w₂,
      CoherentAnswers lives B t w₁ (.statement c) reply w₂ →
        dayGuarantee t w₁ w₂ ∧ Capped B w₂ ∧ KeepsCap lives B t (f reply) Q w₂) :
    KeepsCap lives B t ((statement c).settle f) Q w :=
  Keeping.statement fun w₁ moved capped => ⟨trivial, step w₁ moved capped⟩

/-! ### Statements of a worker -/

omit [DecidableEq κ] [Fintype κ] in
theorem DayWorld.SameReservations.guarantee {t : Thread κ τ} (same : w.SameReservations w') :
    dayGuarantee t w w' := by
  cases t with
  | worker i => exact ⟨fun j _ => ⟨congrFun same.1 j, congrFun same.2 j⟩, fun _ => congrFun same.2 i⟩
  | mirror i => exact ⟨same.1, fun j _ => congrFun same.2 j, fun _ => congrFun same.2 i⟩
  | outage j => exact same

omit [DecidableEq κ] in
/-- A cache write that follows every mirror and is at least the row. -/
theorem Capped.cacheWritten (capped : Capped B w) {spentUsd : ℚ} (mirrored : w.Mirrored)
    (most : w.stores.spent ≤ spentUsd) (behind : Bool) :
    Capped B { w.withStores (w.stores.setRedis spentUsd) with cacheBehind := behind } where
  charge_nonneg := capped.charge_nonneg
  carried_nonneg := capped.carried_nonneg
  cache _ := (capped.covered mirrored).trans most
  row := capped.row
  granted := capped.granted

theorem step_setCache {dateKey : String} {spentUsd : ℚ} {reply : Except BriefError Unit}
    (capped : Capped B w)
    (answer : CoherentAnswers (τ := τ) lives B (.worker i) w (.statement (.setCache dateKey spentUsd))
      reply w') :
    w.SameReservations w' ∧ Capped B w' := by
  obtain ⟨answer, rfl | coherent⟩ := answer
  · exact ⟨⟨rfl, rfl⟩, capped⟩
  · rcases answer.setCache_cases with rfl | ⟨behind, rfl⟩
    · exact ⟨⟨rfl, rfl⟩, capped⟩
    · exact ⟨⟨rfl, rfl⟩, capped.cacheWritten coherent.1 coherent.2 behind⟩

theorem step_findRow {t : Thread κ τ} {dateKey : String} {reply : Except BriefError (Option ℚ)}
    (answer : CoherentAnswers lives B t w (.statement (.findRow dateKey)) reply w') : w' = w := by
  obtain ⟨answer, _⟩ := answer
  cases answer with
  | failed redis => cases redis
  | replyLost redis => cases redis
  | worker => rfl
  | mirror => rfl

theorem step_upsertRow {dateKey : String} {budgetUsd : Js.Number} {reply : Except BriefError ℚ}
    (capped : Capped B w)
    (answer : CoherentAnswers (τ := τ) lives B (.worker i) w
      (.statement (.upsertRow dateKey budgetUsd)) reply w') :
    w.SameReservations w' ∧ Capped B w' := by
  obtain ⟨answer, _⟩ := answer
  cases answer with
  | failed redis => cases redis
  | replyLost redis => cases redis
  | worker => exact ⟨⟨rfl, rfl⟩, capped.withStores (fun _ held => held) fun held => held⟩

/-- The script's answer: a grant is what the reservation holds and its mirror has to write. -/
theorem step_eval {dateKey : String} {amount : ℚ} {reply : Except BriefError BudgetReservationResult}
    (capped : Capped B w) (nonneg : 0 ≤ amount) (idle : w.phase i = .idle)
    (answer : CoherentAnswers (τ := τ) lives B (.worker i) w
      (.statement (.evalReservation dateKey (.finite B) amount)) reply w') :
    dayGuarantee (.worker i : Thread κ τ) w w' ∧ Capped B w' ∧
      ∀ result, reply = .ok result → result.reserved = true →
        w'.charge i = amount ∧ w'.phase i = .granted result.spentUsd := by
  obtain ⟨answer, within⟩ := answer
  rcases answer.eval_cases with ⟨rfl, room, rfl⟩ | ⟨rfl, rfl⟩ | ⟨⟨error, rfl⟩, stores⟩
  · have behind : w.cacheBehind = false := by
      refine within.resolve_left fun same => ?_
      have longer := congrArg (fun w => w.grants.length) same
      simp [DayWorld.setPhase, DayWorld.grant, DayWorld.setCharge, DayWorld.withStores] at longer
    refine ⟨⟨fun j other => ⟨?_, ?_⟩, fun running => ?_⟩, capped.evalGranted behind nonneg room, ?_⟩
    · exact DayWorld.charge_setCharge_of_ne _ other _
    · exact DayWorld.phase_setPhase_of_ne _ other _
    · rw [idle] at running
      cases running
    · rintro result same -
      cases same
      exact ⟨DayWorld.charge_setCharge_self _ i amount, DayWorld.phase_setPhase_self _ i _⟩
  · refine ⟨DayWorld.SameReservations.guarantee ⟨rfl, rfl⟩, capped, fun result same granted => ?_⟩
    cases same
    cases granted
  · rcases stores with rfl | rfl
    · exact ⟨DayWorld.SameReservations.guarantee ⟨rfl, rfl⟩, capped, fun _ same => nomatch same⟩
    · refine ⟨DayWorld.SameReservations.guarantee ⟨rfl, rfl⟩, capped.withStores ?_ fun held => held,
        fun _ same => nomatch same⟩
      intro _ held
      exact held.trans (le_add_of_nonneg_right nonneg)

/-- The conditional increment: a grant is what the reservation holds. -/
theorem step_reserveRow {dateKey : String} {amount : ℚ} {reply : Except BriefError Nat}
    (capped : Capped B w) (nonneg : 0 ≤ amount)
    (answer : CoherentAnswers (τ := τ) lives B (.worker i) w
      (.statement (.reserveRow dateKey (some (max 0 (B - amount))) amount)) reply w') :
    dayGuarantee (.worker i : Thread κ τ) w w' ∧ Capped B w' ∧
      ∀ count, reply = .ok count → count ≠ 0 → w'.charge i = amount := by
  obtain ⟨answer, within⟩ := answer
  rcases answer.reserveRow_cases with ⟨rfl, rfl⟩ | ⟨rfl, room, rfl⟩
  · refine ⟨DayWorld.SameReservations.guarantee ⟨rfl, rfl⟩, capped, fun count same matched => ?_⟩
    cases same
    exact absurd rfl matched
  · have coherent : amount ≤ B ∧ w.Mirrored := by
      refine within.resolve_left fun same => ?_
      have longer := congrArg (fun w => w.grants.length) same
      simp [DayWorld.grant, DayWorld.setCharge, DayWorld.withStores] at longer
    have left : w.stores.spent + amount ≤ B := by
      have bound : max 0 (B - amount) = B - amount := max_eq_right (by linarith [coherent.1])
      rw [bound] at room
      linarith
    refine ⟨⟨fun j other => ⟨?_, rfl⟩, fun _ => rfl⟩,
      capped.rowGranted coherent.2 nonneg left, fun _ _ _ => ?_⟩
    · exact DayWorld.charge_setCharge_of_ne _ other _
    · exact DayWorld.charge_setCharge_self _ i amount

omit [Fintype κ] in
/-- A change of one reservation is a worker's. -/
theorem guarantee_setCharge {stores : DayStores} {amount : ℚ} :
    dayGuarantee (.worker i : Thread κ τ) w ((w.withStores stores).setCharge i amount) :=
  ⟨fun _ other => ⟨DayWorld.charge_setCharge_of_ne _ other _, rfl⟩, fun _ => rfl⟩

theorem step_decrementRow {dateKey : String} {reply : Except BriefError Nat} (capped : Capped B w)
    (held : w.charge i = (lives i).amountUsd)
    (answer : CoherentAnswers (τ := τ) lives B (.worker i) w
      (.statement (.decrementRow dateKey ((lives i).amountUsd - (lives i).remainingUsd))) reply w') :
    dayGuarantee (.worker i : Thread κ τ) w w' ∧ Capped B w' ∧
      (reply = .ok 0 → w'.charge i = (lives i).amountUsd) := by
  rcases answer.1.decrementRow_cases with ⟨rfl, rfl⟩ | ⟨rfl, rfl⟩
  · exact ⟨DayWorld.SameReservations.guarantee ⟨rfl, rfl⟩, capped, fun _ => held⟩
  · refine ⟨guarantee_setCharge, capped.disposed (lives i).remaining_nonneg ?_ rfl ?_, nofun⟩
    · rw [held]
      exact (lives i).remaining_le
    · intro row
      rw [DayStores.spent_setRow, held]
      linarith

theorem step_clampRow {dateKey : String} {reply : Except BriefError Nat} (capped : Capped B w)
    (held : w.charge i = (lives i).amountUsd)
    (answer : CoherentAnswers (τ := τ) lives B (.worker i) w (.statement (.clampRow dateKey))
      reply w') :
    dayGuarantee (.worker i : Thread κ τ) w w' ∧ Capped B w' := by
  obtain ⟨answer, within⟩ := answer
  rcases within with rfl | coherent
  · exact ⟨DayWorld.SameReservations.guarantee ⟨rfl, rfl⟩, capped⟩
  · obtain ⟨stores, rfl, cached, emptied⟩ := answer.clampRow_cases
    have bound : w.stores.spent ≤ (lives i).amountUsd - (lives i).remainingUsd := coherent
    refine ⟨guarantee_setCharge, capped.disposed (lives i).remaining_nonneg ?_ cached ?_⟩
    · rw [held]
      exact (lives i).remaining_le
    · intro row
      rw [emptied, held]
      linarith

theorem step_startMirror {input : BudgetMirrorCommandInput} {reply : Except BriefError Unit}
    (capped : Capped B w) (granted : w.phase i = .granted input.cachedSpentUsd)
    (answer : CoherentAnswers (τ := τ) lives B (.worker i) w (.statement (.startMirror input))
      reply w') :
    dayGuarantee (.worker i : Thread κ τ) w w' ∧ Capped B w' ∧ w'.charge = w.charge := by
  obtain ⟨answer, _⟩ := answer
  cases answer with
  | failed redis => cases redis
  | replyLost redis => cases redis
  | worker =>
      refine ⟨⟨fun j other => ⟨rfl, DayWorld.phase_setPhase_of_ne _ other _⟩, fun running => ?_⟩,
        Capped.setPhase capped (by rw [granted]; rfl), rfl⟩
      rw [granted] at running
      cases running

/-! ### Programs of a worker -/

namespace KeepsCap

variable {amount : ℚ} {dateKey : String}

theorem syncBudgetCacheBestEffort {spentUsd : ℚ} (held : w.charge i = amount) :
    KeepsCap lives B (.worker i : Thread κ τ) (syncBudgetCacheBestEffort dateKey spentUsd)
      (fun _ w' => w'.charge i = amount) w := by
  refine KeepsCap.statement fun w₁ moved capped reply w₂ answer => ?_
  obtain ⟨same, capped'⟩ := step_setCache capped answer
  have held' : w₂.charge i = amount := (congrFun same.1 i).trans (moved.1.trans held)
  refine ⟨same.guarantee, capped', ?_⟩
  cases reply with
  | ok _ => exact Keeping.pure fun w' later _ => later.1.trans held'
  | error _ => exact Keeping.pure fun w' later _ => later.1.trans held'

theorem readBack (held : w.charge i = amount) :
    KeepsCap lives B (.worker i : Thread κ τ) (readBack dateKey) (fun _ w' => w'.charge i = amount)
      w := by
  refine KeepsCap.statement fun w₁ moved capped reply w₂ answer => ?_
  obtain rfl := step_findRow answer
  have held' : w₂.charge i = amount := moved.1.trans held
  refine ⟨DayWorld.SameReservations.guarantee ⟨rfl, rfl⟩, capped, ?_⟩
  cases reply with
  | error e => exact yields_throw e _ _
  | ok latest =>
      exact (syncBudgetCacheBestEffort held').bind fun _ w' held => Keeping.pure fun w'' later _ =>
        later.1.trans held

theorem postgresReserve (nonneg : 0 ≤ amount) :
    KeepsCap lives B (.worker i : Thread κ τ) (postgresReserve ⟨dateKey, .finite B, amount⟩)
      (fun result w' => result.reserved = true → w'.charge i = amount) w := by
  refine KeepsCap.statement fun w₁ _ capped record w₂ answer => ?_
  obtain ⟨same, capped'⟩ := step_upsertRow capped answer
  refine ⟨same.guarantee, capped', ?_⟩
  cases record with
  | error e => exact yields_throw e _ _
  | ok record =>
      simp only [onOk_ok, maxSpendBeforeReservation]
      refine KeepsCap.statement fun w₃ _ capped count w₄ answer => ?_
      obtain ⟨guaranteed, capped', granted⟩ := step_reserveRow capped nonneg answer
      refine ⟨guaranteed, capped', ?_⟩
      cases count with
      | error e => exact yields_throw e _ _
      | ok count =>
          simp only [onOk_ok]
          split
          · refine KeepsCap.statement fun w₅ _ capped latest w₆ answer => ?_
            obtain rfl := step_findRow answer
            refine ⟨DayWorld.SameReservations.guarantee ⟨rfl, rfl⟩, capped, ?_⟩
            cases latest with
            | error e => exact yields_throw e _ _
            | ok latest =>
                refine (syncBudgetCacheBestEffort rfl).bind fun _ _ _ => ?_
                exact Keeping.pure fun _ _ _ refused => by cases refused
          · rename_i matched
            refine KeepsCap.statement fun w₅ moved capped latest w₆ answer => ?_
            obtain rfl := step_findRow answer
            refine ⟨DayWorld.SameReservations.guarantee ⟨rfl, rfl⟩, capped, ?_⟩
            cases latest with
            | error e => exact yields_throw e _ _
            | ok latest =>
                have held := moved.1.trans (granted count rfl matched)
                refine (syncBudgetCacheBestEffort held).bind fun _ w' held => ?_
                exact Keeping.pure fun w'' later _ _ => later.1.trans held

theorem redisReserve (nonneg : 0 ≤ amount) (idle : w.phase i = .idle) :
    KeepsCap lives B (.worker i : Thread κ τ) (redisReserve ⟨dateKey, .finite B, amount⟩)
      (fun result w' => result.reserved = true → w'.charge i = amount) w := by
  refine KeepsCap.statement fun w₁ moved capped cached w₂ answer => ?_
  have idle' : w₁.phase i = .idle := (moved.2 (by rw [idle]; rfl)).trans idle
  obtain ⟨guaranteed, capped', granted⟩ := step_eval capped nonneg idle' answer
  refine ⟨guaranteed, capped', ?_⟩
  cases cached with
  | error e => exact yields_throw e _ _
  | ok cached =>
      simp only [onOk_ok]
      split
      · rename_i reserved
        obtain ⟨held, phase⟩ := granted cached rfl reserved
        refine KeepsCap.statement fun w₃ moved capped reply w₄ answer => ?_
        have phase' : w₃.phase i = .granted cached.spentUsd :=
          (moved.2 (by rw [phase]; rfl)).trans phase
        obtain ⟨guaranteed, capped', same⟩ := step_startMirror capped phase' answer
        refine ⟨guaranteed, capped', ?_⟩
        have held' : w₄.charge i = amount :=
          (congrFun same i).trans (moved.1.trans held)
        cases reply with
        | error e => exact yields_throw e _ _
        | ok _ => exact Keeping.pure fun w' later _ _ => later.1.trans held'
      · rename_i refused
        exact Keeping.pure fun _ _ _ reserved => absurd reserved refused

/-- A grant of either store is what the reservation holds. -/
theorem reserve (nonneg : 0 ≤ amount) (idle : w.phase i = .idle) :
    KeepsCap lives B (.worker i : Thread κ τ) (reserve ⟨dateKey, .finite B, amount⟩)
      (fun result w' => result.reserved = true → w'.charge i = amount) w := by
  refine (redisReserve nonneg idle).settle (fun cached w' granted => ?_) fun e w' => ?_
  · by_cases reserved : cached.reserved = true
    · simp only [reserved, if_true]
      exact Keeping.pure fun w'' later _ _ => later.1.trans (granted reserved)
    · simp only [reserved]
      exact postgresReserve nonneg
  · exact postgresReserve nonneg

/-- Giving back what the ending leaves of a reservation. -/
theorem updateSpentUsd {delta : ℚ} (held : w.charge i = (lives i).amountUsd)
    (gives : delta = (lives i).remainingUsd - (lives i).amountUsd) :
    KeepsCap lives B (.worker i : Thread κ τ) (updateSpentUsd dateKey delta) (fun _ _ => True) w := by
  have less := (lives i).remaining_le
  have any {p : LedgerProgram ℚ} {Q : ℚ → DayWorld κ → Prop} {w : DayWorld κ}
      (keeping : KeepsCap lives B (.worker i : Thread κ τ) p Q w) :
      KeepsCap lives B (.worker i : Thread κ τ) p (fun _ _ => True) w :=
    Keeps.mono keeping fun _ _ _ _ _ _ => trivial
  unfold Brief.updateSpentUsd
  split
  · exact any (readBack held)
  split
  · linarith
  rename_i nonzero notpos
  have amount : |delta| = (lives i).amountUsd - (lives i).remainingUsd := by
    rw [abs_of_nonpos (by linarith), gives]
    ring
  rw [amount]
  refine KeepsCap.statement fun w₁ moved capped count w₂ answer => ?_
  obtain ⟨guaranteed, capped', unmatched⟩ :=
    step_decrementRow capped (moved.1.trans held) answer
  refine ⟨guaranteed, capped', ?_⟩
  cases count with
  | error e => exact yields_throw e _ _
  | ok count =>
      simp only [onOk_ok]
      split
      · rename_i none_matched
        subst none_matched
        refine KeepsCap.statement fun w₃ moved capped clamped w₄ answer => ?_
        obtain ⟨guaranteed, capped'⟩ :=
          step_clampRow capped (moved.1.trans (unmatched rfl)) answer
        refine ⟨guaranteed, capped', ?_⟩
        cases clamped with
        | error e => exact yields_throw e _ _
        | ok clamped =>
            simp only [onOk_ok]
            split
            · exact Keeping.pure fun _ _ _ => trivial
            · exact any (readBack rfl)
      · exact any (readBack rfl)

/-- The whole life of a reservation. -/
theorem program (idle : w.phase i = .idle) :
    KeepsCap lives B (.worker i : Thread κ τ) ((lives i).program dateKey B) (fun _ _ => True) w := by
  have reserved : KeepsCap lives B (.worker i : Thread κ τ)
      (Brief.reserve ⟨dateKey, .finite B, (lives i).amountUsd⟩)
      (fun result w' => result.reserved = true → w'.charge i = (lives i).amountUsd) w :=
    reserve (lives i).amount_nonneg idle
  have authorized : KeepsCap lives B (.worker i : Thread κ τ)
      (authorize ⟨dateKey, .finite B, (lives i).amountUsd⟩)
      (fun decision w' => decision.reservedCostUsd = (lives i).amountUsd ∧
        (decision.authorized = true → w'.charge i = (lives i).amountUsd)) w :=
    reserved.bind fun result w' granted =>
      Keeping.pure fun w'' later _ => ⟨rfl, fun reserved => later.1.trans (granted reserved)⟩
  refine authorized.bind fun decision w' ⟨amount, granted⟩ => ?_
  split
  · rename_i accepted
    have held := granted accepted
    unfold Life.dispose
    cases ended : (lives i).ending with
    | kept => exact Keeping.pure fun _ _ _ => trivial
    | rolledBack =>
        have nothing : (lives i).remainingUsd = 0 := by simp [Life.remainingUsd, ended]
        refine Keeping.bind (Q := fun _ _ => True) ?_ fun _ _ _ => Keeping.pure fun _ _ _ => trivial
        unfold rollback
        split
        · exact Keeping.pure fun _ _ _ => trivial
        · exact updateSpentUsd held (by rw [amount, nothing]; ring)
    | settled actual =>
        have rest : (lives i).remainingUsd = actual := by simp [Life.remainingUsd, ended]
        refine Keeping.bind (Q := fun _ _ => True) ?_ fun _ _ _ => Keeping.pure fun _ _ _ => trivial
        exact updateSpentUsd held (by rw [amount, rest])
  · exact Keeping.pure fun _ _ _ => trivial

end KeepsCap

/-! ### Mirror commands and outages -/

theorem step_landed {value cached : ℚ} (capped : Capped B w) (running : (w.phase i).isRunning = true)
    (carried : (w.phase i).carried = some cached) (row : w.stores.spent ≤ value)
    (merged : cached ≤ value) :
    dayGuarantee (.mirror i : Thread κ τ) w
      ((w.withStores (w.stores.setRow value)).setPhase i .landed) ∧
    Capped B ((w.withStores (w.stores.setRow value)).setPhase i .landed) := by
  refine ⟨⟨rfl, fun j other => DayWorld.phase_setPhase_of_ne _ other _, fun idle => ?_⟩,
    capped.landed carried row merged⟩
  rw [running] at idle
  cases idle

theorem step_createRow {input : BudgetMirrorCommandInput} {dateKey : String}
    {budgetUsd : Js.Number} {reply : Except BriefError Unit} (capped : Capped B w)
    (running : w.phase i = .running input)
    (answer : CoherentAnswers (τ := τ) lives B (.mirror i) w
      (.statement (.createRow dateKey input.cachedSpentUsd budgetUsd)) reply w') :
    dayGuarantee (.mirror i : Thread κ τ) w w' ∧ Capped B w' ∧
      ∀ e, reply = .error e → w'.phase i = .running input := by
  have carried : (w.phase i).carried = some input.cachedSpentUsd := by rw [running]; rfl
  rcases answer.1.createRow_cases with rfl | ⟨rfl, empty, rfl⟩
  · exact ⟨DayWorld.SameReservations.guarantee ⟨rfl, rfl⟩, capped, fun _ _ => running⟩
  · have row : w.stores.spent ≤ input.cachedSpentUsd := by
      rw [empty]
      exact capped.carried_nonneg i _ carried
    obtain ⟨guaranteed, capped'⟩ :=
      step_landed (τ := τ) capped (by rw [running]; rfl) carried row (le_refl _)
    exact ⟨guaranteed, capped', fun _ same => nomatch same⟩

theorem step_updateRow {input : BudgetMirrorCommandInput} {dateKey : String} {value : ℚ}
    {budgetUsd : Js.Number} {reply : Except BriefError Unit} (capped : Capped B w)
    (running : w.phase i = .running input) (merged : input.cachedSpentUsd ≤ value)
    (answer : CoherentAnswers (τ := τ) lives B (.mirror i) w
      (.statement (.updateRow dateKey value budgetUsd)) reply w') :
    dayGuarantee (.mirror i : Thread κ τ) w w' ∧ Capped B w' := by
  obtain ⟨answer, rfl | coherent⟩ := answer
  · exact ⟨DayWorld.SameReservations.guarantee ⟨rfl, rfl⟩, capped⟩
  · rcases answer.updateRow_cases with rfl | rfl
    · exact ⟨DayWorld.SameReservations.guarantee ⟨rfl, rfl⟩, capped⟩
    · exact step_landed capped (by rw [running]; rfl) (by rw [running]; rfl) coherent merged

namespace KeepsCap

variable {input : BudgetMirrorCommandInput}

omit [DecidableEq κ] [Fintype κ] in
theorem running_of_rely (running : w.phase i = .running input)
    (moved : dayRely (.mirror i : Thread κ τ) w w') : w'.phase i = .running input :=
  (moved (by rw [running]; rfl)).trans running

/-- The last read and write of the command. -/
theorem mergeTrackedSpend (running : w.phase i = .running input) :
    KeepsCap lives B (.mirror i : Thread κ τ) (mergeTrackedSpend input) (fun _ _ => True) w := by
  refine KeepsCap.statement fun w₁ moved capped latest w₂ answer => ?_
  obtain rfl := step_findRow answer
  have running₁ := running_of_rely running moved
  refine ⟨DayWorld.SameReservations.guarantee ⟨rfl, rfl⟩, capped, ?_⟩
  cases latest with
  | error e => exact yields_throw e _ _
  | ok latest =>
      cases latest with
      | none =>
          refine KeepsCap.statement fun w₃ moved capped reply w₄ answer => ?_
          have stepped := step_createRow capped (running_of_rely running₁ moved) answer
          refine ⟨stepped.1, stepped.2.1, ?_⟩
          cases reply with
          | ok _ => exact Keeping.pure fun _ _ _ => trivial
          | error e => exact yields_throw e _ _
      | some latest =>
          refine KeepsCap.statement fun w₃ moved capped reply w₄ answer => ?_
          have stepped := step_updateRow capped (running_of_rely running₁ moved)
            (le_max_right latest input.cachedSpentUsd) answer
          refine ⟨stepped.1, stepped.2, ?_⟩
          cases reply with
          | ok _ => exact Keeping.pure fun _ _ _ => trivial
          | error e => exact yields_throw e _ _

theorem createTrackedSpend (running : w.phase i = .running input) :
    KeepsCap lives B (.mirror i : Thread κ τ) (createTrackedSpend input)
      (fun created w' => created = false → w'.phase i = .running input) w := by
  refine KeepsCap.statement fun w₁ moved capped tracked w₂ answer => ?_
  obtain rfl := step_findRow answer
  have running₁ := running_of_rely running moved
  refine ⟨DayWorld.SameReservations.guarantee ⟨rfl, rfl⟩, capped, ?_⟩
  cases tracked with
  | error e => exact yields_throw e _ _
  | ok tracked =>
      cases tracked with
      | some _ => exact Keeping.pure fun w' later _ _ => running_of_rely (τ := τ) running₁ later
      | none =>
          refine KeepsCap.statement fun w₃ moved capped reply w₄ answer => ?_
          obtain ⟨guaranteed, capped', unmade⟩ :=
            step_createRow capped (running_of_rely running₁ moved) answer
          refine ⟨guaranteed, capped', ?_⟩
          cases reply with
          | ok _ => exact Keeping.pure fun _ _ _ made => by cases made
          | error e =>
              dsimp only
              split
              · exact Keeping.pure fun w' later _ _ => running_of_rely (τ := τ) (unmade e rfl) later
              · exact yields_throw e _ _

theorem mirror (running : w.phase i = .running input) :
    KeepsCap lives B (.mirror i : Thread κ τ) (mirror input) (fun _ _ => True) w := by
  refine Keeping.settle (Q := fun _ _ => True) ?_ (fun _ _ _ => Keeping.pure fun _ _ _ => trivial)
    fun _ _ => Keeping.pure fun _ _ _ => trivial
  refine (createTrackedSpend running).bind fun created w' running' => ?_
  cases created with
  | true => exact Keeping.pure fun _ _ _ => trivial
  | false => exact mergeTrackedSpend (running' rfl)

end KeepsCap

/-! ## Any number of threads -/

/-- The start of the day. -/
def DayWorld.start : DayWorld κ where
  stores := ⟨none, none⟩
  charge _ := 0
  phase _ := .idle
  cacheBehind := false
  grants := []

/-- All threads before their first call. -/
def dayPool (dateKey : String) (dailyBudgetUsd : ℚ) (lives : κ → Life) :
    Pool (Thread κ τ) day BriefError Unit (DayWorld κ) where
  threads := threadProgram dateKey dailyBudgetUsd lives
  state := .start

omit [DecidableEq κ] in
theorem capped_start : Capped B (DayWorld.start : DayWorld κ) where
  charge_nonneg _ := le_refl 0
  carried_nonneg _ _ carried := nomatch carried
  cache _ := le_of_eq (Finset.sum_const_zero)
  row := .inl (le_of_eq (Finset.sum_const_zero))
  granted _ mem := nomatch mem

theorem dayPool_kept (dateKey : String) :
    (dayPool (τ := τ) dateKey B lives).Kept (dayDiscipline τ lives B)
      fun _ outcome _ => ∀ a, outcome = .ok a → True := by
  refine ⟨capped_start, fun t => ?_⟩
  cases t with
  | worker i => exact KeepsCap.program rfl
  | mirror i =>
      refine Yields.bind (Q := fun input w' => w'.phase i = .running input) ?_ fun input w' running =>
        KeepsCap.mirror running
      refine yields_call fun w₁ _ capped => ⟨trivial, fun reply w₂ answer => ?_⟩
      obtain ⟨answer, _⟩ := answer
      cases answer with
      | started running =>
          have unchanged : w₁.SameReservations w₁ := ⟨rfl, rfl⟩
          refine ⟨unchanged.guarantee (t := (.mirror i : Thread κ τ)), capped, fun input w₃ same later => ?_⟩
          cases same
          exact KeepsCap.running_of_rely (τ := τ) running later
  | outage j =>
      refine yields_call fun w₁ _ capped => ⟨trivial, fun reply w₂ answer => ?_⟩
      obtain ⟨answer, within⟩ := answer
      cases answer with
      | keyLost =>
          refine ⟨⟨rfl, rfl⟩, ?_, fun _ _ _ _ => trivial⟩
          rcases within with same | nothing
          · rw [same]
            exact capped
          · refine capped.withStores (fun _ _ => ?_) fun held => held
            exact (show w₁.outstanding = 0 from nothing).le

/-- In every run whose steps meet the conditions, each grant leaves what is outstanding, the new
reservation included, within the daily budget. -/
theorem grants_within_budget {dateKey : String}
    {pool : Pool (Thread κ τ) day BriefError Unit (DayWorld κ)} [DecidableEq τ]
    (steps : Pool.Steps (CoherentAnswers lives B) (dayPool dateKey B lives) pool) :
    ∀ outstanding ∈ pool.state.grants, outstanding ≤ B :=
  (Pool.Steps.kept (D := dayDiscipline τ lives B) steps (dayPool_kept dateKey)).1.granted

/-- A reservation that is kept. -/
def keptLife (amountUsd : ℚ) (nonneg : 0 ≤ amountUsd) : Life where
  amountUsd := amountUsd
  ending := .kept
  amount_nonneg := nonneg
  settled_within _ ended := nomatch ended

/-! ### Two reservations -/

section Two

variable {amount : ℚ} (nonneg : 0 ≤ amount) {w : DayWorld Bool}

/-- The steps of two reservations of one amount that are kept. -/
abbrev TwoKept (B amount : ℚ) (nonneg : 0 ≤ amount) (t : Thread Bool Empty) :
    Handler day (DayWorld Bool) :=
  CoherentAnswers (fun _ => keptLife amount nonneg) B t

/-- The program of a thread of the two. -/
abbrev twoPrograms (B amount : ℚ) (nonneg : 0 ≤ amount) :
    Thread Bool Empty → Program day BriefError Unit :=
  threadProgram "2026-01-01" B fun _ => keptLife amount nonneg

/-- The script grants the first reservation of the day and its mirror is started. -/
theorem first_granted (room : amount ≤ B) : ∃ w : DayWorld Bool,
    w.stores = ⟨some amount, none⟩ ∧
    w.charge = Function.update (fun _ => 0) false amount ∧
    w.phase = Function.update (fun _ => .idle) false
      (.running ⟨"2026-01-01", .finite B, amount⟩) ∧
    w.cacheBehind = false ∧ w.grants = [amount] ∧
    (twoPrograms B amount nonneg (.worker false)).Runs (TwoKept B amount nonneg (.worker false))
      .start (.ok ()) w := by
  have cached : (DayWorld.start : DayWorld Bool).stores.cached + amount ≤ B := by
    simpa [DayWorld.start, DayStores.cached] using room
  have granted : DayAnswers (fun _ => keptLife amount nonneg) (.worker false : Thread Bool Empty)
      .start (.statement (.evalReservation "2026-01-01" (.finite B) amount)) _ _ := .worker _
  rw [DayStores.exec_eval_of_room cached] at granted
  refine ⟨_, ?_, ?_, ?_, ?_, ?_,
    .await ⟨granted, .inr rfl⟩ (.await ⟨.worker _, .inr trivial⟩ .done)⟩
  all_goals simp [account, DayStores.exec, DayStores.setRedis, DayStores.cached, DayWorld.start,
    DayWorld.grant, DayWorld.setCharge, DayWorld.setPhase, DayWorld.outstanding,
    DayWorld.withStores]

/-- Its mirror makes the row. -/
theorem first_mirrored (stores : w.stores = ⟨some amount, none⟩)
    (running : w.phase false = .running ⟨"2026-01-01", .finite B, amount⟩) :
    ∃ w' : DayWorld Bool, w'.stores = ⟨some amount, some amount⟩ ∧ w'.charge = w.charge ∧
      w'.phase = Function.update w.phase false .landed ∧ w'.grants = w.grants ∧
      (twoPrograms B amount nonneg (.mirror false)).Runs (TwoKept B amount nonneg (.mirror false))
        w (.ok ()) w' := by
  have row : w.stores.row = none := by rw [stores]
  have found : DayAnswers (fun _ => keptLife amount nonneg) (.mirror false : Thread Bool Empty) w
      (.statement (.findRow "2026-01-01")) (.ok w.stores.row) w := .mirror _
  rw [row] at found
  have created : DayAnswers (fun _ => keptLife amount nonneg) (.mirror false : Thread Bool Empty) w
      (.statement (.createRow "2026-01-01" amount (.finite B))) _ _ := .mirror _
  rw [DayStores.exec_createRow_of_no_row row] at created
  refine ⟨_, ?_, ?_, ?_, ?_, .await ⟨.started running, .inl rfl⟩ (.await ⟨found, .inl rfl⟩
    (.await ⟨created, .inr trivial⟩ .done))⟩
  all_goals simp [accountMirror, DayWorld.withStores, DayWorld.setPhase, DayStores.setRow, stores]

/-- Redis fails, and Postgres grants the second reservation. -/
theorem second_granted (room : amount + amount ≤ B)
    (stores : w.stores = ⟨some amount, some amount⟩) (mirrored : w.Mirrored) (charge : w.charge = Function.update (fun _ => 0) false amount)
    (granted : w.grants = [amount]) :
    ∃ w' : DayWorld Bool, w'.grants = [amount, amount + amount] ∧
      (twoPrograms B amount nonneg (.worker true)).Runs (TwoKept B amount nonneg (.worker true))
        w (.ok ()) w' := by
  obtain ⟨_, _, phase, behind, _⟩ := w
  cases stores
  cases charge
  cases granted
  have within : amount ≤ B := by linarith
  have limit : amount ≤ max 0 (B - amount) := le_max_of_le_right (by linarith)
  have refused : DayAnswers (fun _ => keptLife amount nonneg) (.worker true : Thread Bool Empty)
      ⟨⟨some amount, some amount⟩, Function.update (fun _ => 0) false amount, phase, behind, [amount]⟩
      (.statement (.evalReservation "2026-01-01" (.finite B) amount))
      (.error (.other "ECONNRESET")) _ := .failed rfl
  have increment : DayAnswers (fun _ => keptLife amount nonneg) (.worker true : Thread Bool Empty)
      ⟨⟨some amount, some amount⟩, Function.update (fun _ => 0) false amount, phase, behind, [amount]⟩
      (.statement (.reserveRow "2026-01-01" (some (max 0 (B - amount))) amount)) _ _ := .worker _
  rw [DayStores.exec_reserveRow_of_room rfl limit] at increment
  refine ⟨_, ?_, .await ⟨refused, .inl rfl⟩ (.await ⟨.worker _, .inr trivial⟩
    (.await ⟨increment, .inr ⟨within, mirrored⟩⟩ (.await ⟨.worker _, .inr trivial⟩
      (.await ⟨.worker _, .inr ⟨mirrored, le_refl _⟩⟩ .done))))⟩
  simp [account, DayStores.exec, DayStores.setRow, DayWorld.grant, DayWorld.setCharge,
    DayWorld.outstanding, DayWorld.withStores]

end Two

/-- One reservation is granted by Redis and its mirror lands; then Redis fails and Postgres grants the
other one. -/
theorem grants_within_budget_half :
    ∃ pool : Pool (Thread Bool Empty) day BriefError Unit (DayWorld Bool),
      Pool.Steps (TwoKept 1 (1 / 2) (by norm_num))
        (dayPool "2026-01-01" 1 fun _ => keptLife (1 / 2) (by norm_num)) pool ∧
      pool.state.grants = [1 / 2, 1 / 2 + 1 / 2] ∧
      ∀ outstanding ∈ pool.state.grants, outstanding ≤ 1 := by
  have nonneg : (0 : ℚ) ≤ 1 / 2 := by norm_num
  have within : (1 / 2 : ℚ) ≤ 1 := by norm_num
  have both : (1 / 2 + 1 / 2 : ℚ) ≤ 1 := by norm_num
  obtain ⟨w₁, stores₁, charge₁, phase₁, -, granted₁, first⟩ := first_granted nonneg within
  have running : w₁.phase false = .running ⟨"2026-01-01", .finite 1, 1 / 2⟩ := by simp [phase₁]
  obtain ⟨w₂, stores₂, charge₂, phase₂, granted₂, mirror⟩ := first_mirrored nonneg stores₁ running
  have mirrored : w₂.Mirrored := by
    intro i
    cases i with
    | false => simp [phase₂, MirrorPhase.carried]
    | true => simp [phase₂, phase₁, MirrorPhase.carried]
  obtain ⟨w₃, grants, second⟩ := second_granted nonneg both stores₂ mirrored
    (charge₂.trans charge₁) (granted₂.trans granted₁)
  have steps : Pool.Steps (TwoKept 1 (1 / 2) nonneg)
      (dayPool "2026-01-01" 1 fun _ => keptLife (1 / 2) nonneg) _ :=
    (Pool.Steps.of_runs first).trans
      ((Pool.Steps.of_runs (i := .mirror false) mirror).trans
        (Pool.Steps.of_runs (i := .worker true) second))
  exact ⟨_, steps, grants, grants_within_budget steps⟩

/-- Postgres grants a reservation that alone exceeds the budget: the script refuses it, the row is
empty and `Math.max(0, dailyBudgetUsd - amountUsd)` is zero. -/
theorem keptLife_exceeds (amount : ℚ) (nonneg : 0 ≤ B) (exceeding : B < amount) :
    ∃ w : DayWorld Unit, w.grants = [amount] ∧
      (threadProgram "2026-01-01" B (fun _ => keptLife amount (nonneg.trans exceeding.le))
        (.worker () : Thread Unit Empty)).Runs
        (DayAnswers (fun _ => keptLife amount (nonneg.trans exceeding.le))
          (.worker () : Thread Unit Empty)) .start (.ok ()) w := by
  let lives : Unit → Life := fun _ => keptLife amount (nonneg.trans exceeding.le)
  have full : ¬(DayWorld.start : DayWorld Unit).stores.cached + amount ≤ B := by
    simpa [DayWorld.start, DayStores.cached] using exceeding
  have refused : DayAnswers lives (.worker () : Thread Unit Empty) .start
      (.statement (.evalReservation "2026-01-01" (.finite B) amount)) _ _ := .worker _
  rw [DayStores.exec_eval_of_exceeds full] at refused
  have limit : max 0 (B - amount) = 0 := max_eq_left (by linarith)
  have incremented : DayAnswers lives (.worker () : Thread Unit Empty)
      ((DayWorld.start : DayWorld Unit).withStores ⟨none, some 0⟩)
      (.statement (.reserveRow "2026-01-01" (some (max 0 (B - amount))) amount)) _ _ := .worker _
  have row : ((DayWorld.start : DayWorld Unit).withStores ⟨none, some 0⟩).stores.row = some 0 := rfl
  rw [DayStores.exec_reserveRow_of_room row limit.ge] at incremented
  refine ⟨_, ?_, .await refused (.await (.worker _) (.await incremented (.await (.worker _)
    (.await (.worker _) .done))))⟩
  simp [account, DayStores.exec, DayWorld.start, DayWorld.grant, DayWorld.setCharge, DayWorld.outstanding,
    DayWorld.withStores]

/-- The cap fails without any failure or interleaving. -/
theorem grants_exceed_budget :
    ∃ pool : Pool (Thread Unit Empty) day BriefError Unit (DayWorld Unit),
      Pool.Steps (DayAnswers fun _ => keptLife (1 / 80) (by norm_num))
        (dayPool "2026-01-01" (1 / 100) fun _ => keptLife (1 / 80) (by norm_num)) pool ∧
      ∃ outstanding ∈ pool.state.grants, ¬outstanding ≤ 1 / 100 := by
  obtain ⟨w, grants, run⟩ :=
    keptLife_exceeds (B := 1 / 100) (1 / 80) (by norm_num) (by norm_num)
  refine ⟨_, Pool.Steps.of_runs run, 1 / 80, ?_, by norm_num⟩
  rw [grants]
  exact List.mem_singleton_self _

end RisingIntelligence.Brief
