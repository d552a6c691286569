import RisingIntelligence.Brief.BudgetStores
import Mathlib.Tactic.Linarith
import Mathlib.Tactic.NormNum

/-!
# A reservation alone

What a reservation does to the day's spend and request count with no concurrent writer, through
Postgres and through the proxy that asks Redis first.

The conditional increment compares the spend with `max 0 (daily - amount)`, so a day without spend
admits any amount.
-/

namespace RisingIntelligence.Brief

open Async Program

/-! ## Stores with the request count -/

/-- The columns of the tracking row, less the budget, which is never read. -/
structure TrackingRow where
  spentUsd : ℚ
  requestCount : Nat
  deriving DecidableEq

structure TrackedStores where
  redis : Option ℚ
  row : Option TrackingRow
  deriving DecidableEq

namespace TrackedStores

/-- The same stores without the request count. -/
def stores (s : TrackedStores) : DayStores where
  redis := s.redis
  row := s.row.map TrackingRow.spentUsd

def spent (s : TrackedStores) : ℚ := s.stores.spent

def requestCount (s : TrackedStores) : Nat := (s.row.map TrackingRow.requestCount).getD 0

def setRedis (s : TrackedStores) (value : ℚ) : TrackedStores := { s with redis := some value }

def setRow (s : TrackedStores) (spentUsd : ℚ) (requestCount : Nat) : TrackedStores :=
  { s with row := some { spentUsd := spentUsd, requestCount := requestCount } }

/-- The requests that the row has counted once a statement is answered. -/
def countAfter (s : TrackedStores) : (c : LedgerCall) → Except BriefError c.Reply → Nat
  | .reserveRow .., .ok matched => s.requestCount + matched
  | .createRow .., .ok _ => 1
  | .updateRow .., .ok _ => s.requestCount + 1
  | _, _ => s.requestCount

/-- The answer and the effect of a statement that succeeds. -/
def exec (s : TrackedStores) (c : LedgerCall) : Except BriefError c.Reply × TrackedStores :=
  let (reply, stores) := s.stores.exec c
  (reply, {
    redis := stores.redis
    row := stores.row.map fun spentUsd =>
      { spentUsd := spentUsd, requestCount := s.countAfter c reply } })

/-- The count adds nothing to what a statement answers and does. -/
theorem stores_exec (s : TrackedStores) (c : LedgerCall) :
    ((s.exec c).1, (s.exec c).2.stores) = s.stores.exec c := by
  unfold exec
  dsimp only
  have kept : ∀ stores : DayStores, ∀ count : Nat,
      TrackedStores.stores {
        redis := stores.redis
        row := stores.row.map fun spentUsd => { spentUsd := spentUsd, requestCount := count } } =
        stores := by
    intro stores count
    cases stores with
    | mk redis row => cases row <;> rfl
  rw [kept]

end TrackedStores

/-- The statements succeed, but the cache may refuse a write, before or after its effect. -/
def alone : Handler ledger TrackedStores := fun s c reply s' =>
  match c, reply with
  | .setCache _ spentUsd, .ok _ => s' = s.setRedis spentUsd
  | .setCache _ spentUsd, .error _ => s' = s ∨ s' = s.setRedis spentUsd
  | c, reply => s.exec c = (reply, s')

/-! ## Specification -/

/-- What a reservation is to do: it is granted exactly if the spend and the amount are within the
budget, and only then adds the amount and counts a request. -/
structure ReservedExactly (daily amount : ℚ) (before after : TrackedStores)
    (result : BudgetReservationResult) : Prop where
  decision : result.reserved = true ↔ before.spent + amount ≤ daily
  spent : after.spent = if result.reserved then before.spent + amount else before.spent
  returned : result.spentUsd = after.spent
  counted : after.requestCount = before.requestCount + if result.reserved then 1 else 0

/-- Whether the reservation script grants the amount on the spend. -/
def scriptReserves (dateKey : String) (spent daily amount : ℚ) : Bool :=
  match (DayStores.exec ⟨some spent, none⟩ (.evalReservation dateKey (.finite daily) amount)).1 with
  | .ok result => result.reserved
  | .error _ => false

/-- Every run through Postgres reserves exactly and decides as the script does, and so does every run
through the proxy while Redis holds the spend. -/
structure ReservationSpec (dateKey : String) (daily amount : ℚ) (before : TrackedStores) : Prop where
  postgres : ∀ outcome after, (postgresReserve ⟨dateKey, .finite daily, amount⟩).Runs alone before
    outcome after → ∃ result, outcome = .ok result ∧ ReservedExactly daily amount before after result
  script : ∀ result after, (postgresReserve ⟨dateKey, .finite daily, amount⟩).Runs alone before
    (.ok result) after → result.reserved = scriptReserves dateKey before.spent daily amount
  proxy : ∀ outcome after, (reserve ⟨dateKey, .finite daily, amount⟩).Runs alone
    (before.setRedis before.spent) outcome after → ∃ result, outcome = .ok result ∧
      result.reserved = scriptReserves dateKey before.spent daily amount

/-! ## Statements -/

namespace TrackedStores

variable {s : TrackedStores} {dateKey : String} {spent amount bound : ℚ} {count : Nat}

@[simp] theorem spent_setRow : (s.setRow spent count).spent = spent := rfl

@[simp] theorem spent_setRedis : (s.setRedis spent).spent = s.spent := rfl

theorem exec_upsertRow (budget : Js.Number) :
    s.exec (.upsertRow dateKey budget) = (.ok s.spent, s.setRow s.spent s.requestCount) := rfl

theorem exec_reserveRow_of_room (room : spent ≤ bound) :
    (s.setRow spent count).exec (.reserveRow dateKey (some bound) amount) =
      (.ok (1 : Nat), s.setRow (spent + amount) (count + 1)) := by
  have day : (s.setRow spent count).stores.exec (.reserveRow dateKey (some bound) amount) =
      (.ok (1 : Nat), (s.setRow spent count).stores.setRow (spent + amount)) :=
    DayStores.exec_reserveRow_of_room rfl room
  unfold exec
  rw [day]
  rfl

theorem exec_reserveRow_of_full (full : ¬spent ≤ bound) :
    (s.setRow spent count).exec (.reserveRow dateKey (some bound) amount) =
      (.ok (0 : Nat), s.setRow spent count) := by
  have day : (s.setRow spent count).stores.exec (.reserveRow dateKey (some bound) amount) =
      (.ok (0 : Nat), (s.setRow spent count).stores) :=
    DayStores.exec_reserveRow_of_full rfl full
  unfold exec
  rw [day]
  rfl

theorem exec_findRow :
    (s.setRow spent count).exec (.findRow dateKey) = (.ok (some spent), s.setRow spent count) := rfl

end TrackedStores

section Alone

variable {s s' : TrackedStores} {dateKey : String} {spent daily amount bound : ℚ} {count : Nat}

/-- A refused cache write is caught. -/
theorem wp_sync (spentUsd : ℚ) {Q : Except BriefError Unit → TrackedStores → Prop}
    (written : Q (.ok ()) (s.setRedis spentUsd)) (kept : Q (.ok ()) s) :
    (syncBudgetCacheBestEffort dateKey spentUsd).wp alone Q s := by
  unfold syncBudgetCacheBestEffort statement
  rw [wp_tryCatch, wp_call]
  intro reply s' answered
  cases reply with
  | ok value =>
      obtain rfl : s' = s.setRedis spentUsd := answered
      exact written
  | error e =>
      rcases answered with same | same
      · subst same
        exact kept
      · subst same
        exact written

/-- What Postgres decides. -/
def admitted (spent daily amount : ℚ) : Bool := decide (spent ≤ max 0 (daily - amount))

def spentAfter (spent daily amount : ℚ) : ℚ :=
  if admitted spent daily amount then spent + amount else spent

def countAfter (count : Nat) (spent daily amount : ℚ) : Nat :=
  count + if admitted spent daily amount then 1 else 0

theorem wp_postgresReserve {Q : Except BriefError BudgetReservationResult → TrackedStores → Prop}
    (post : ∀ s' : TrackedStores,
      s'.row = some { spentUsd := spentAfter s.spent daily amount
                      requestCount := countAfter s.requestCount s.spent daily amount } →
      Q (.ok { reserved := admitted s.spent daily amount
               spentUsd := spentAfter s.spent daily amount }) s') :
    (postgresReserve ⟨dateKey, .finite daily, amount⟩).wp alone Q s := by
  unfold postgresReserve statement
  rw [wp_bind, wp_call]
  intro record s₁ upserted
  obtain ⟨rfl, rfl⟩ := Prod.mk.inj ((TrackedStores.exec_upsertRow _).symm.trans upserted)
  dsimp only [onOk_ok]
  rw [wp_bind, wp_call]
  intro matched s₂ reserved
  have statement : (s.setRow s.spent s.requestCount).exec
      (.reserveRow dateKey (some (max 0 (daily - amount))) amount) = (matched, s₂) := reserved
  by_cases room : s.spent ≤ max 0 (daily - amount)
  · have granted : admitted s.spent daily amount = true := decide_eq_true room
    rw [TrackedStores.exec_reserveRow_of_room room] at statement
    obtain ⟨rfl, rfl⟩ := Prod.mk.inj statement
    dsimp only [onOk_ok]
    rw [if_neg (by decide : ¬ (1 : Nat) = 0), wp_bind, wp_call]
    intro latest s₃ found
    obtain ⟨rfl, rfl⟩ := Prod.mk.inj (TrackedStores.exec_findRow.symm.trans found)
    dsimp only [onOk_ok]
    unfold spentAfter countAfter at post
    rw [granted] at post
    rw [wp_bind]
    apply wp_sync
    · exact post _ rfl
    · exact post _ rfl
  · have refused : admitted s.spent daily amount = false := decide_eq_false room
    rw [TrackedStores.exec_reserveRow_of_full room] at statement
    obtain ⟨rfl, rfl⟩ := Prod.mk.inj statement
    dsimp only [onOk_ok]
    rw [if_pos rfl, wp_bind, wp_call]
    intro latest s₃ found
    obtain ⟨rfl, rfl⟩ := Prod.mk.inj (TrackedStores.exec_findRow.symm.trans found)
    dsimp only [onOk_ok]
    unfold spentAfter countAfter at post
    rw [refused] at post
    rw [wp_bind]
    apply wp_sync
    · exact post _ rfl
    · exact post _ rfl

theorem wp_reserve {Q : Except BriefError BudgetReservationResult → TrackedStores → Prop}
    (held : s.redis = some spent)
    (granted : spent + amount ≤ daily → ∀ s', Q (.ok ⟨true, spent + amount⟩) s')
    (refused : ¬ spent + amount ≤ daily →
      (postgresReserve ⟨dateKey, .finite daily, amount⟩).wp alone Q s) :
    (reserve ⟨dateKey, .finite daily, amount⟩).wp alone Q s := by
  have cached : s.stores.cached = spent := congrArg (·.getD 0) held
  unfold reserve redisReserve statement
  rw [wp_settle, wp_bind, wp_call]
  intro reply s₁ evaluated
  have script : s.exec (.evalReservation dateKey (.finite daily) amount) = (reply, s₁) := evaluated
  have effect := s.stores_exec (.evalReservation dateKey (.finite daily) amount)
  rw [script] at effect
  by_cases room : spent + amount ≤ daily
  · rw [DayStores.exec_eval_of_room (by rwa [cached]), cached] at effect
    obtain ⟨rfl, -⟩ := Prod.mk.inj effect
    dsimp only [onOk_ok]
    rw [if_pos rfl, wp_bind, wp_call]
    intro reply s₂ started
    obtain ⟨rfl, rfl⟩ := Prod.mk.inj (show (Except.ok (), _) = (reply, s₂) from started)
    exact granted room _
  · rw [DayStores.exec_eval_of_exceeds (by rwa [cached]), cached] at effect
    obtain ⟨rfl, unchanged⟩ := Prod.mk.inj effect
    have same : s₁ = s := by
      unfold TrackedStores.exec at script
      rw [DayStores.exec_eval_of_exceeds (by rwa [cached]), cached] at script
      obtain ⟨-, rfl⟩ := Prod.mk.inj script
      cases s with
      | mk redis row => cases row <;> rfl
    subst same
    exact refused room

theorem alone_total (s : TrackedStores) (c : LedgerCall) : ∃ reply s', alone s c reply s' := by
  cases c with
  | setCache dateKey spentUsd => exact ⟨.ok (), s.setRedis spentUsd, rfl⟩
  | _ => exact ⟨_, _, rfl⟩

theorem admitted_iff : admitted spent daily amount = true ↔ spent ≤ 0 ∨ spent + amount ≤ daily := by
  unfold admitted
  rw [decide_eq_true_eq, le_max_iff, le_sub_iff_add_le]

theorem scriptReserves_iff :
    scriptReserves dateKey spent daily amount = true ↔ spent + amount ≤ daily := by
  have cached : DayStores.cached ⟨some spent, none⟩ = spent := rfl
  unfold scriptReserves
  by_cases room : spent + amount ≤ daily
  · rw [DayStores.exec_eval_of_room (by rwa [cached])]
    exact iff_of_true rfl room
  · rw [DayStores.exec_eval_of_exceeds (by rwa [cached])]
    exact iff_of_false (by simp) room

/-- What Postgres answers and leaves behind. -/
theorem postgresReserve_result {outcome : Except BriefError BudgetReservationResult}
    (run : (postgresReserve ⟨dateKey, .finite daily, amount⟩).Runs alone s outcome s') :
    outcome = .ok { reserved := admitted s.spent daily amount
                    spentUsd := spentAfter s.spent daily amount } ∧
      s'.row = some { spentUsd := spentAfter s.spent daily amount
                      requestCount := countAfter s.requestCount s.spent daily amount } := by
  have post := @wp_postgresReserve s dateKey daily amount
    (fun outcome s' => outcome = .ok { reserved := admitted s.spent daily amount
                                       spentUsd := spentAfter s.spent daily amount } ∧
      s'.row = some { spentUsd := spentAfter s.spent daily amount
                      requestCount := countAfter s.requestCount s.spent daily amount })
    fun s' row => ⟨rfl, row⟩
  exact wp_iff_runs.1 post outcome s' run

/-- With an amount within the budget, or a day that has spent, Postgres decides as it should. -/
theorem admitted_eq_scriptReserves (nonneg : 0 ≤ spent) (fits : amount ≤ daily ∨ 0 < spent) :
    admitted spent daily amount = scriptReserves dateKey spent daily amount := by
  rw [Bool.eq_iff_iff, admitted_iff, scriptReserves_iff]
  constructor
  · intro either
    rcases either with nothing | room
    · obtain rfl : spent = 0 := le_antisymm nothing nonneg
      rcases fits with fits | some_
      · rwa [zero_add]
      · exact absurd some_ (lt_irrefl 0)
    · exact room
  · exact .inr

theorem reservationSpec_of_fits (nonneg : 0 ≤ s.spent) (fits : amount ≤ daily ∨ 0 < s.spent) :
    ReservationSpec dateKey daily amount s := by
  have same := @admitted_eq_scriptReserves dateKey s.spent daily amount nonneg fits
  constructor
  case postgres =>
    intro outcome after run
    obtain ⟨rfl, row⟩ := postgresReserve_result run
    have spent : after.spent = spentAfter s.spent daily amount := by
      unfold TrackedStores.spent TrackedStores.stores
      rw [row]
      rfl
    have count : after.requestCount = countAfter s.requestCount s.spent daily amount := by
      unfold TrackedStores.requestCount
      rw [row]
      rfl
    refine ⟨_, rfl, ?_⟩
    constructor
    case decision => rw [same, scriptReserves_iff]
    case spent => exact spent
    case returned => exact spent.symm
    case counted => exact count
  case script =>
    intro result after run
    obtain ⟨given, -⟩ := postgresReserve_result run
    cases given
    exact same
  case proxy =>
    intro outcome after run
    have post := @wp_reserve (s.setRedis s.spent) dateKey s.spent daily amount
      (fun outcome _ => ∃ result, outcome = .ok result ∧
        result.reserved = scriptReserves dateKey s.spent daily amount) rfl
      (fun room _ => ⟨_, rfl, (scriptReserves_iff.2 room).symm⟩)
      (fun _ => wp_postgresReserve fun _ _ => ⟨_, rfl, same⟩)
    exact wp_iff_runs.1 post outcome after run

end Alone

/-- A reservation alone keeps to its specification unless it asks for more than the whole budget on a
day without spend. -/
theorem reservationSpec_iff {dateKey : String} {daily amount : ℚ} {before : TrackedStores}
    (spent : 0 ≤ before.spent) :
    ReservationSpec dateKey daily amount before ↔ amount ≤ daily ∨ 0 < before.spent := by
  constructor
  · intro spec
    by_contra neither
    rw [not_or, not_le, not_lt] at neither
    obtain ⟨outcome, after, run⟩ :=
      exists_runs alone_total (postgresReserve ⟨dateKey, .finite daily, amount⟩) before
    obtain ⟨result, rfl, reserved⟩ := spec.postgres outcome after run
    obtain ⟨given, -⟩ := postgresReserve_result run
    cases given
    have within := reserved.decision.1 (admitted_iff.2 (.inl neither.2))
    linarith
  · exact reservationSpec_of_fits spent

theorem reservationSpec_iff_half : ReservationSpec "2024-01-01" 1 (1 / 2) ⟨none, none⟩ ↔
    (1 / 2 : ℚ) ≤ 1 ∨ 0 < TrackedStores.spent ⟨none, none⟩ :=
  reservationSpec_iff (le_refl 0)

/-- The first request of a day gets two dollars of a budget of one. -/
theorem first_request_exceeds :
    (∀ outcome after, (postgresReserve ⟨"2024-01-01", .finite 1, 2⟩).Runs alone ⟨none, none⟩ outcome
      after → outcome = .ok ⟨true, 2⟩) ∧
    (∃ outcome after, (postgresReserve ⟨"2024-01-01", .finite 1, 2⟩).Runs alone ⟨none, none⟩ outcome
      after) ∧
    ¬ ReservationSpec "2024-01-01" 1 2 ⟨none, none⟩ := by
  have given : ∀ outcome after, (postgresReserve ⟨"2024-01-01", .finite 1, 2⟩).Runs alone
      ⟨none, none⟩ outcome after → outcome = .ok ⟨true, 2⟩ := by
    intro outcome after run
    obtain ⟨rfl, -⟩ := postgresReserve_result run
    have taken : admitted (TrackedStores.spent ⟨none, none⟩) 1 2 = true :=
      admitted_iff.2 (.inl (le_refl 0))
    have sum : spentAfter (TrackedStores.spent ⟨none, none⟩) 1 2 = 2 := by
      unfold spentAfter
      rw [taken, if_pos rfl]
      exact zero_add 2
    rw [taken, sum]
  have runs := exists_runs alone_total (postgresReserve ⟨"2024-01-01", .finite 1, 2⟩) ⟨none, none⟩
  refine ⟨given, runs, ?_⟩
  intro spec
  obtain ⟨outcome, after, run⟩ := runs
  obtain ⟨result, same, reserved⟩ := spec.postgres outcome after run
  rw [given outcome after run] at same
  cases same
  have within := reserved.decision.1 rfl
  have nothing : TrackedStores.spent ⟨none, none⟩ = 0 := rfl
  rw [nothing] at within
  norm_num at within

end RisingIntelligence.Brief
