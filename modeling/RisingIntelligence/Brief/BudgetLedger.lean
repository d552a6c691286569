import RisingIntelligence.Async.Program
import RisingIntelligence.Brief.Types

/-!
# The budget ledger

`createBriefBudgetLedger` and its governor (`apps/brief/src/budget-ledger.ts`) with the mirror
command they start (`budget-mirror.ts`), as programs over single statements: the Redis
reservation script and cache write, and each Prisma statement on the day's tracking row.

Amounts are exact rationals, so every amount is finite; the daily budget may be infinite.
-/

namespace RisingIntelligence.Brief

open Async

structure ReserveBudgetInput where
  dateKey : String
  dailyBudgetUsd : Js.Number
  amountUsd : ℚ

structure BudgetReservationResult where
  reserved : Bool
  spentUsd : ℚ

structure AuthorizeBudgetInput where
  dateKey : String
  dailyBudgetUsd : Js.Number
  estimatedCostUsd : ℚ

structure BriefBudgetDecision where
  authorized : Bool
  dateKey : String
  dailyBudgetUsd : Js.Number
  reservedCostUsd : ℚ
  spentUsd : ℚ

structure BudgetMirrorCommandInput where
  dateKey : String
  dailyBudgetUsd : Js.Number
  cachedSpentUsd : ℚ

/-! ## Statements -/

/-- The statements of the ledger.  `reserveRow` is the conditional increment of a reservation,
`decrementRow` the decrement of a row that holds at least the amount, `clampRow` sets the
spend to zero; `startMirror` fires the mirror command without awaiting it. -/
inductive LedgerCall : Type
  | evalReservation (dateKey : String) (maxBudget : Js.Number) (amount : ℚ)
  | setCache (dateKey : String) (spentUsd : ℚ)
  | startMirror (input : BudgetMirrorCommandInput)
  | upsertRow (dateKey : String) (budgetUsd : Js.Number)
  | reserveRow (dateKey : String) (maxSpend : Option ℚ) (amount : ℚ)
  | incrementRow (dateKey : String) (amount : ℚ)
  | decrementRow (dateKey : String) (amount : ℚ)
  | clampRow (dateKey : String)
  | findRow (dateKey : String)
  | createRow (dateKey : String) (spentUsd : ℚ) (budgetUsd : Js.Number)
  | updateRow (dateKey : String) (spentUsd : ℚ) (budgetUsd : Js.Number)

/-- An `updateMany` answers the number of rows it matched. -/
@[reducible] def LedgerCall.Reply : LedgerCall → Type
  | .evalReservation .. => BudgetReservationResult
  | .upsertRow .. => ℚ
  | .reserveRow .. | .incrementRow .. | .decrementRow .. | .clampRow _ => Nat
  | .findRow _ => Option ℚ
  | _ => Unit

abbrev ledger : Interface where
  Call := LedgerCall
  Reply := LedgerCall.Reply
  Error := BriefError

abbrev LedgerProgram (α : Type) : Type := Program ledger BriefError α

def statement (c : LedgerCall) : LedgerProgram c.Reply := Program.call (I := ledger) c

/-! ## Postgres -/

/-- `syncBudgetCacheBestEffort` -/
def syncBudgetCacheBestEffort (dateKey : String) (spentUsd : ℚ) : LedgerProgram Unit :=
  (statement (.setCache dateKey spentUsd)).tryCatch fun _ => pure ()

/-- `Math.max(0, dailyBudgetUsd - amountUsd)` where that is finite. -/
def maxSpendBeforeReservation (dailyBudgetUsd : Js.Number) (amountUsd : ℚ) : Option ℚ :=
  match dailyBudgetUsd with
  | .finite daily => some (max 0 (daily - amountUsd))
  | .infinite true => some 0
  | .infinite false => none

/-- `PostgresBudgetLedger.reserve` -/
def postgresReserve (input : ReserveBudgetInput) : LedgerProgram BudgetReservationResult := do
  let record ← statement (.upsertRow input.dateKey input.dailyBudgetUsd)
  let count ← statement (.reserveRow input.dateKey
    (maxSpendBeforeReservation input.dailyBudgetUsd input.amountUsd) input.amountUsd)
  if count = 0 then do
    let latest ← statement (.findRow input.dateKey)
    let spentUsd := latest.getD record
    syncBudgetCacheBestEffort input.dateKey spentUsd
    pure { reserved := false, spentUsd := spentUsd }
  else do
    let latest ← statement (.findRow input.dateKey)
    let spentUsd := latest.getD (record + input.amountUsd)
    syncBudgetCacheBestEffort input.dateKey spentUsd
    pure { reserved := true, spentUsd := spentUsd }

/-- Read the day's spend back and write it to the cache. -/
def readBack (dateKey : String) : LedgerProgram ℚ := do
  let latest ← statement (.findRow dateKey)
  let spentUsd := latest.getD 0
  syncBudgetCacheBestEffort dateKey spentUsd
  pure spentUsd

/-- `PostgresBudgetLedger.updateSpentUsd` -/
def updateSpentUsd (dateKey : String) (deltaUsd : ℚ) : LedgerProgram ℚ :=
  if deltaUsd = 0 then readBack dateKey
  else if 0 < deltaUsd then do
    let count ← statement (.incrementRow dateKey deltaUsd)
    if count = 0 then pure 0 else readBack dateKey
  else do
    let count ← statement (.decrementRow dateKey |deltaUsd|)
    if count = 0 then do
      let clamped ← statement (.clampRow dateKey)
      if clamped = 0 then pure 0 else readBack dateKey
    else readBack dateKey

/-! ## Redis first -/

/-- The reservation script and, when it reserved, the mirror. -/
def redisReserve (input : ReserveBudgetInput) : LedgerProgram BudgetReservationResult := do
  let cached ← statement (.evalReservation input.dateKey input.dailyBudgetUsd input.amountUsd)
  if cached.reserved then do
    statement (.startMirror {
      dateKey := input.dateKey
      dailyBudgetUsd := input.dailyBudgetUsd
      cachedSpentUsd := cached.spentUsd })
    pure cached
  else pure cached

/-- `RedisFirstBudgetLedgerProxy.reserve`: a refusal and a failure both go to Postgres. -/
def reserve (input : ReserveBudgetInput) : LedgerProgram BudgetReservationResult :=
  (redisReserve input).settle fun
    | .ok cached => if cached.reserved then pure cached else postgresReserve input
    | .error _ => postgresReserve input

/-! ## Governor -/

/-- `LedgerBackedBudgetGovernor.authorize` -/
def authorize (input : AuthorizeBudgetInput) : LedgerProgram BriefBudgetDecision := do
  let reservation ← reserve {
    dateKey := input.dateKey
    dailyBudgetUsd := input.dailyBudgetUsd
    amountUsd := input.estimatedCostUsd }
  pure {
    authorized := reservation.reserved
    dateKey := input.dateKey
    dailyBudgetUsd := input.dailyBudgetUsd
    reservedCostUsd := input.estimatedCostUsd
    spentUsd := reservation.spentUsd }

/-- `LedgerBackedBudgetGovernor.rollback` -/
def rollback (decision : BriefBudgetDecision) : LedgerProgram ℚ :=
  if decision.reservedCostUsd ≤ 0 then pure decision.spentUsd
  else updateSpentUsd decision.dateKey (-decision.reservedCostUsd)

/-- `LedgerBackedBudgetGovernor.settle` -/
def settle (decision : BriefBudgetDecision) (actualCostUsd : ℚ) : LedgerProgram ℚ :=
  updateSpentUsd decision.dateKey (actualCostUsd - decision.reservedCostUsd)

/-! ## Mirror -/

/-- The first half of the command: create the row where there is none; answers whether it did.
A row that appeared in the meantime is not an error. -/
def createTrackedSpend (input : BudgetMirrorCommandInput) : LedgerProgram Bool := do
  let tracked ← statement (.findRow input.dateKey)
  match tracked with
  | some _ => pure false
  | none =>
      (statement (.createRow input.dateKey input.cachedSpentUsd input.dailyBudgetUsd)).settle fun
        | .ok _ => pure true
        | .error error => if error.isDuplicateKey then pure false else Program.throw error

/-- The second half: the larger of the tracked and the cached spend. -/
def mergeTrackedSpend (input : BudgetMirrorCommandInput) : LedgerProgram Unit := do
  let latest ← statement (.findRow input.dateKey)
  match latest with
  | none => statement (.createRow input.dateKey input.cachedSpentUsd input.dailyBudgetUsd)
  | some latest =>
      statement (.updateRow input.dateKey (max latest input.cachedSpentUsd) input.dailyBudgetUsd)

/-- `MaxSpendBudgetMirrorCommand.execute`: an error is only logged. -/
def mirror (input : BudgetMirrorCommandInput) : LedgerProgram Unit :=
  Program.tryCatch
    (do
      let created ← createTrackedSpend input
      if created then pure () else mergeTrackedSpend input)
    fun (_ : BriefError) => pure ()

end RisingIntelligence.Brief
