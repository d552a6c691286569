import RisingIntelligence.Async.Interleaving
import RisingIntelligence.Brief.BudgetLedger

/-!
# The stores of one day

What each statement of the ledger does to the Redis value and the tracking row of one day when it
succeeds, and the calls of the threads that share the two.  The other columns of the row are
written but never read.
-/

namespace RisingIntelligence.Brief

open Async Program

/-- The Redis value of the day and the spend in its row. -/
structure DayStores where
  redis : Option ℚ
  row : Option ℚ
  deriving DecidableEq

namespace DayStores

/-- `tonumber(redis.call("GET", key) or "0")` -/
def cached (s : DayStores) : ℚ := s.redis.getD 0

def spent (s : DayStores) : ℚ := s.row.getD 0

def setRedis (s : DayStores) (value : ℚ) : DayStores := { s with redis := some value }

def setRow (s : DayStores) (value : ℚ) : DayStores := { s with row := some value }

@[simp] theorem cached_setRedis (s : DayStores) (value : ℚ) : (s.setRedis value).cached = value :=
  rfl

@[simp] theorem spent_setRedis (s : DayStores) (value : ℚ) : (s.setRedis value).spent = s.spent :=
  rfl

@[simp] theorem cached_setRow (s : DayStores) (value : ℚ) : (s.setRow value).cached = s.cached :=
  rfl

@[simp] theorem spent_setRow (s : DayStores) (value : ℚ) : (s.setRow value).spent = value := rfl

end DayStores

/-- `value > bound` -/
def exceeds (value : ℚ) : Js.Number → Bool
  | .finite bound => decide (bound < value)
  | .infinite negative => negative

/-- The `spentUsd` part of a where clause. -/
def admits (maxSpend : Option ℚ) (spent : ℚ) : Bool :=
  match maxSpend with
  | some bound => decide (spent ≤ bound)
  | none => true

/-- The answer and the effect of a statement that succeeds. -/
def DayStores.exec (s : DayStores) : (c : LedgerCall) → Except BriefError c.Reply × DayStores
  | .evalReservation _ maxBudget amount =>
      if exceeds (s.cached + amount) maxBudget then (.ok ⟨false, s.cached⟩, s)
      else (.ok ⟨true, s.cached + amount⟩, s.setRedis (s.cached + amount))
  | .setCache _ spentUsd => (.ok (), s.setRedis spentUsd)
  | .startMirror _ => (.ok (), s)
  | .upsertRow .. => (.ok s.spent, s.setRow s.spent)
  | .reserveRow _ maxSpend amount =>
      match s.row with
      | none => (.ok (0 : Nat), s)
      | some spent =>
          if admits maxSpend spent then (.ok (1 : Nat), s.setRow (spent + amount))
          else (.ok (0 : Nat), s)
  | .incrementRow _ amount =>
      match s.row with
      | none => (.ok (0 : Nat), s)
      | some spent => (.ok (1 : Nat), s.setRow (spent + amount))
  | .decrementRow _ amount =>
      match s.row with
      | none => (.ok (0 : Nat), s)
      | some spent =>
          if amount ≤ spent then (.ok (1 : Nat), s.setRow (spent - amount)) else (.ok (0 : Nat), s)
  | .clampRow _ =>
      match s.row with
      | none => (.ok (0 : Nat), s)
      | some _ => (.ok (1 : Nat), s.setRow 0)
  | .findRow _ => (.ok s.row, s)
  | .createRow _ spentUsd _ =>
      match s.row with
      | none => (.ok (), s.setRow spentUsd)
      | some _ => (.error (.prismaKnownRequest "P2002"), s)
  | .updateRow _ spentUsd _ =>
      match s.row with
      | none => (.error (.prismaKnownRequest "P2025"), s)
      | some _ => (.ok (), s.setRow spentUsd)

namespace DayStores

variable {s : DayStores} {dateKey : String} {amount spent bound : ℚ}

theorem spent_of_row (held : s.row = some spent) : s.spent = spent := by
  simp [DayStores.spent, held]

theorem spent_of_no_row (held : s.row = none) : s.spent = 0 := by
  simp [DayStores.spent, held]

/-- The reservation script with room for the amount. -/
theorem exec_eval_of_room (room : s.cached + amount ≤ bound) :
    s.exec (.evalReservation dateKey (.finite bound) amount) =
      (.ok ⟨true, s.cached + amount⟩, s.setRedis (s.cached + amount)) := by
  simp [exec, exceeds, room]

theorem exec_eval_of_exceeds (full : ¬s.cached + amount ≤ bound) :
    s.exec (.evalReservation dateKey (.finite bound) amount) = (.ok ⟨false, s.cached⟩, s) := by
  simp [exec, exceeds, not_le.1 full]

/-- The conditional increment of a row that leaves room for the amount. -/
theorem exec_reserveRow_of_room (held : s.row = some spent) (room : spent ≤ bound) :
    s.exec (.reserveRow dateKey (some bound) amount) = (.ok (1 : Nat), s.setRow (spent + amount)) := by
  simp [exec, held, admits, room]

theorem exec_reserveRow_of_full (held : s.row = some spent) (full : ¬spent ≤ bound) :
    s.exec (.reserveRow dateKey (some bound) amount) = (.ok (0 : Nat), s) := by
  simp [exec, held, admits, full]

theorem exec_reserveRow_of_no_row (held : s.row = none) :
    s.exec (.reserveRow dateKey (some bound) amount) = (.ok (0 : Nat), s) := by
  simp [exec, held]

/-- The decrement of a row that holds the amount. -/
theorem exec_decrementRow_of_le (held : s.row = some spent) (enough : amount ≤ spent) :
    s.exec (.decrementRow dateKey amount) = (.ok (1 : Nat), s.setRow (spent - amount)) := by
  simp [exec, held, enough]

theorem exec_decrementRow_of_lt (held : s.row = some spent) (short : ¬amount ≤ spent) :
    s.exec (.decrementRow dateKey amount) = (.ok (0 : Nat), s) := by
  simp [exec, held, short]

theorem exec_decrementRow_of_no_row (held : s.row = none) :
    s.exec (.decrementRow dateKey amount) = (.ok (0 : Nat), s) := by
  simp [exec, held]

theorem exec_clampRow_of_no_row (held : s.row = none) :
    s.exec (.clampRow dateKey) = (.ok (0 : Nat), s) := by
  simp [exec, held]

theorem exec_incrementRow_of_row (held : s.row = some spent) :
    s.exec (.incrementRow dateKey amount) = (.ok (1 : Nat), s.setRow (spent + amount)) := by
  simp [exec, held]

theorem exec_createRow_of_no_row {budgetUsd : Js.Number} (held : s.row = none) :
    s.exec (.createRow dateKey amount budgetUsd) = (.ok (), s.setRow amount) := by
  simp [exec, held]

theorem exec_createRow_of_row {budgetUsd : Js.Number} (held : s.row = some spent) :
    s.exec (.createRow dateKey amount budgetUsd) = (.error (.prismaKnownRequest "P2002"), s) := by
  simp [exec, held]

theorem exec_updateRow_of_row {budgetUsd : Js.Number} (held : s.row = some spent) :
    s.exec (.updateRow dateKey amount budgetUsd) = (.ok (), s.setRow amount) := by
  simp [exec, held]

end DayStores

/-! ## Threads of a day -/

/-- The calls of the threads; a mirror command waits until it is started. -/
inductive DayCall : Type
  | statement (c : LedgerCall)
  | mirrorStarted
  | loseKey

@[reducible] def DayCall.Reply : DayCall → Type
  | .statement c => c.Reply
  | .mirrorStarted => BudgetMirrorCommandInput
  | .loseKey => Unit

abbrev day : Interface where
  Call := DayCall
  Reply := DayCall.Reply
  Error := BriefError

def ledgerOfDay : Embedding ledger day where
  call := .statement
  reply _ reply := reply

/-- How far the mirror command of a reservation is. -/
inductive MirrorPhase : Type
  | idle
  | granted (cachedSpentUsd : ℚ)
  | running (input : BudgetMirrorCommandInput)
  | landed

/-- The spend that a mirror command still has to write. -/
def MirrorPhase.carried : MirrorPhase → Option ℚ
  | .granted cachedSpentUsd => some cachedSpentUsd
  | .running input => some input.cachedSpentUsd
  | _ => none

def MirrorPhase.isRunning : MirrorPhase → Bool
  | .running _ => true
  | _ => false

/-- A ledger program as a thread of the day keeps its part, and a value it returns satisfies `Q`. -/
def Keeping {ι S α : Type} (D : Discipline ι day S) (t : ι) (p : LedgerProgram α)
    (Q : α → S → Prop) (s : S) : Prop :=
  (p.embed ledgerOfDay).Yields D t Q s

namespace Keeping

variable {ι S α β : Type} {D : Discipline ι day S} {t : ι} {s : S}

theorem pure {a : α} {Q : α → S → Prop} (holds : ∀ s', D.rely t s s' → D.inv s' → Q a s') :
    Keeping D t (pure a : LedgerProgram α) Q s :=
  yields_pure holds

theorem throw (e : BriefError) (Q : α → S → Prop) :
    Keeping D t (throw e : LedgerProgram α) Q s :=
  yields_throw e Q s

theorem settle {p : LedgerProgram α} {f : Except BriefError α → LedgerProgram β} {Q : α → S → Prop}
    {Q' : β → S → Prop} (first : Keeping D t p Q s)
    (value : ∀ a s', Q a s' → Keeping D t (f (.ok a)) Q' s')
    (error : ∀ e s', Keeping D t (f (.error e)) Q' s') : Keeping D t (p.settle f) Q' s := by
  unfold Keeping
  rw [embed_settle]
  exact Yields.settle first value error

theorem bind {p : LedgerProgram α} {f : α → LedgerProgram β} {Q : α → S → Prop}
    {Q' : β → S → Prop} (first : Keeping D t p Q s)
    (value : ∀ a s', Q a s' → Keeping D t (f a) Q' s') : Keeping D t (p >>= f) Q' s :=
  settle first value fun e _ => Keeping.throw e Q'

/-- One statement, then the rest. -/
theorem statement {c : LedgerCall} {f : Except BriefError c.Reply → LedgerProgram β}
    {Q : β → S → Prop}
    (step : ∀ s₁, D.rely t s s₁ → D.inv s₁ → D.atCall t (.statement c) s₁ ∧
      ∀ reply s₂, D.handler t s₁ (.statement c) reply s₂ →
        D.guarantee t s₁ s₂ ∧ D.inv s₂ ∧ Keeping D t (f reply) Q s₂) :
    Keeping D t ((statement c).settle f) Q s :=
  step

end Keeping

end RisingIntelligence.Brief
