import RisingIntelligence.Shared.Machine
import Mathlib.Algebra.Order.Group.Int
import Mathlib.Algebra.Order.Monoid.Defs

/-!
# The circuit breaker

`CircuitBreaker` of `packages/shared/src/runtime/circuit-breaker.ts`, against a machine with three
states.

The breaker has no state of its own for being open: a timestamp that is not `0` says so, and a flag
that `isOpen` sets as it answers says that the time is over.  `answers_eq`: a caller who records no
outcome before it was let through sees no difference.
-/

namespace RisingIntelligence.Runtime

variable {Time : Type} [AddCommMonoid Time] [LinearOrder Time]

structure CircuitBreakerConfig (Time : Type) where
  failureThreshold : ℕ
  openMs : Time

/-- The private fields of the breaker. -/
structure CircuitBreaker (Time : Type) where
  consecutiveFailures : ℕ
  openUntil : Time
  halfOpen : Bool

namespace CircuitBreaker

variable (config : CircuitBreakerConfig Time) (breaker : CircuitBreaker Time) (now : Time)

/-- The initial values of the fields. -/
def initial : CircuitBreaker Time where
  consecutiveFailures := 0
  openUntil := 0
  halfOpen := false

def isOpen : Bool × CircuitBreaker Time :=
  if breaker.openUntil ≤ now ∧ 0 < breaker.openUntil then (false, { breaker with halfOpen := true })
  else (decide (now < breaker.openUntil), breaker)

def isHalfOpen : Bool := breaker.halfOpen

def recordSuccess : CircuitBreaker Time where
  consecutiveFailures := 0
  openUntil := 0
  halfOpen := false

def recordFailure : Bool × CircuitBreaker Time :=
  if breaker.halfOpen then
    (true, { consecutiveFailures := 0, openUntil := now + config.openMs, halfOpen := false })
  else
    let consecutiveFailures := breaker.consecutiveFailures + 1
    if config.failureThreshold ≤ consecutiveFailures then
      (true, { breaker with consecutiveFailures := 0, openUntil := now + config.openMs })
    else (false, { breaker with consecutiveFailures })

end CircuitBreaker

/-! ## Calls -/

inductive BreakerCall (Time : Type) : Type
  | isOpen (now : Time)
  | isHalfOpen
  | recordSuccess
  | recordFailure (now : Time)

/-- The clock, where the call reads it. -/
def BreakerCall.now? : BreakerCall Time → Option Time
  | .isOpen now | .recordFailure now => some now
  | .isHalfOpen | .recordSuccess => none

/-- The answer of a call, which `recordSuccess` has none of. -/
def CircuitBreaker.call (config : CircuitBreakerConfig Time) (breaker : CircuitBreaker Time) :
    BreakerCall Time → Option Bool × CircuitBreaker Time
  | .isOpen now => ((breaker.isOpen now).1, (breaker.isOpen now).2)
  | .isHalfOpen => (breaker.isHalfOpen, breaker)
  | .recordSuccess => (none, .recordSuccess)
  | .recordFailure now =>
      ((breaker.recordFailure config now).1, (breaker.recordFailure config now).2)

/-! ## What the breaker is for -/

/-- Closed after so many failures in a row, open until a time, or letting one attempt through. -/
inductive BreakerState (Time : Type) : Type
  | closed (failures : ℕ)
  | opened (openUntil : Time)
  | halfOpen

/-- One call of the abstract breaker.  Outcomes are not recorded while it is open. -/
def BreakerState.call (config : CircuitBreakerConfig Time) :
    BreakerState Time → BreakerCall Time → Option Bool × BreakerState Time
  | .opened openUntil, .isOpen now =>
      if now < openUntil then (true, .opened openUntil) else (false, .halfOpen)
  | state, .isOpen _ => (false, state)
  | .halfOpen, .isHalfOpen => (true, .halfOpen)
  | state, .isHalfOpen => (false, state)
  | _, .recordSuccess => (none, .closed 0)
  | .closed failures, .recordFailure now =>
      if failures + 1 = config.failureThreshold then (true, .opened (now + config.openMs))
      else (false, .closed (failures + 1))
  | .halfOpen, .recordFailure now => (true, .opened (now + config.openMs))
  | .opened openUntil, .recordFailure _ => (false, .opened openUntil)

/-! ## The caller -/

/-- A breaker with what its caller has seen: the time of the last call that read the clock, and
whether it may record an outcome. -/
structure ObservedBreaker (Time : Type) where
  breaker : CircuitBreaker Time
  lastTime : Time
  mayRecord : Bool

/-- An outcome may be recorded once after `isOpen` was false. -/
def mayRecordAfter (mayRecord : Bool) (call : BreakerCall Time) (answer : Option Bool) : Bool :=
  match call with
  | .isOpen _ => decide (answer = some false)
  | .isHalfOpen => mayRecord
  | .recordSuccess | .recordFailure _ => false

def ObservedBreaker.call (config : CircuitBreakerConfig Time) (observed : ObservedBreaker Time)
    (call : BreakerCall Time) : Option Bool × ObservedBreaker Time :=
  let result := observed.breaker.call config call
  (result.1, {
    breaker := result.2
    lastTime := call.now?.getD observed.lastTime
    mayRecord := mayRecordAfter observed.mayRecord call result.1 })

/-- The clock is positive and does not go back, and between two outcomes `isOpen` was last false. -/
def ObservedBreaker.Allows (observed : ObservedBreaker Time) : BreakerCall Time → Prop
  | .isOpen now => 0 < now ∧ observed.lastTime ≤ now
  | .isHalfOpen => True
  | .recordSuccess => observed.mayRecord = true
  | .recordFailure now => 0 < now ∧ observed.lastTime ≤ now ∧ observed.mayRecord = true

/-- A new breaker; the first outcome may be recorded without asking. -/
def ObservedBreaker.initial : ObservedBreaker Time where
  breaker := .initial
  lastTime := 0
  mayRecord := true

/-- The calls of a caller like the persister. -/
def Disciplined (config : CircuitBreakerConfig Time) (calls : List (BreakerCall Time)) : Prop :=
  Guarded ObservedBreaker.Allows (ObservedBreaker.call config) .initial calls

/-! ## Agreement -/

section Agreement

variable {breaker : CircuitBreaker Time} {now : Time} {config : CircuitBreakerConfig Time}
  {observed : ObservedBreaker Time} {state : BreakerState Time} {call : BreakerCall Time}

/-- How the fields spell a state of the abstract breaker. -/
inductive Spells (config : CircuitBreakerConfig Time) :
    ObservedBreaker Time → BreakerState Time → Prop
  | closed {failures : ℕ} {lastTime : Time} {mayRecord : Bool} :
    failures < config.failureThreshold →
    Spells config ⟨⟨failures, 0, false⟩, lastTime, mayRecord⟩ (.closed failures)
  | opened {openUntil lastTime : Time} :
    0 < openUntil →
    Spells config ⟨⟨0, openUntil, false⟩, lastTime, false⟩ (.opened openUntil)
  | halfOpen {openUntil lastTime : Time} {mayRecord : Bool} :
    0 < openUntil → openUntil ≤ lastTime →
    Spells config ⟨⟨0, openUntil, true⟩, lastTime, mayRecord⟩ .halfOpen

theorem isOpen_of_lt (early : now < breaker.openUntil) : breaker.isOpen now = (true, breaker) := by
  unfold CircuitBreaker.isOpen
  rw [if_neg fun passed => not_lt_of_ge passed.1 early, decide_eq_true early]

theorem isOpen_of_le (opened : 0 < breaker.openUntil) (passed : breaker.openUntil ≤ now) :
    breaker.isOpen now = (false, { breaker with halfOpen := true }) :=
  if_pos ⟨passed, opened⟩

theorem isOpen_of_zero (closed : breaker.openUntil = 0) (positive : 0 < now) :
    breaker.isOpen now = (false, breaker) := by
  have later : ¬ now < breaker.openUntil := by
    rw [closed]
    exact not_lt_of_gt positive
  unfold CircuitBreaker.isOpen
  rw [if_neg fun passed => lt_irrefl 0 (closed ▸ passed.2), decide_eq_false later]

omit [LinearOrder Time] in
theorem recordFailure_of_halfOpen (halfOpen : breaker.halfOpen = true) :
    breaker.recordFailure config now = (true, ⟨0, now + config.openMs, false⟩) :=
  if_pos halfOpen

omit [LinearOrder Time] in
theorem recordFailure_of_closed (closed : breaker.halfOpen = false) :
    breaker.recordFailure config now =
      if config.failureThreshold ≤ breaker.consecutiveFailures + 1 then
        (true, { breaker with consecutiveFailures := 0, openUntil := now + config.openMs })
      else (false, { breaker with consecutiveFailures := breaker.consecutiveFailures + 1 }) := by
  unfold CircuitBreaker.recordFailure
  rw [if_neg (Bool.eq_false_iff.1 closed)]

theorem spells_isOpen (spells : Spells config observed state)
    (allowed : observed.Allows (.isOpen now)) :
    (observed.call config (.isOpen now)).1 = (state.call config (.isOpen now)).1 ∧
      Spells config (observed.call config (.isOpen now)).2 (state.call config (.isOpen now)).2 := by
  obtain ⟨positive, later⟩ := allowed
  cases spells with
  | @closed failures lastTime mayRecord few =>
      have answer := @isOpen_of_zero _ _ _ ⟨failures, 0, false⟩ now rfl positive
      unfold ObservedBreaker.call CircuitBreaker.call
      dsimp only
      rw [answer]
      exact ⟨rfl, .closed few⟩
  | @opened openUntil lastTime set =>
      unfold ObservedBreaker.call CircuitBreaker.call BreakerState.call
      dsimp only
      by_cases early : now < openUntil
      · rw [isOpen_of_lt early, if_pos early]
        exact ⟨rfl, .opened set⟩
      · have passed := not_lt.1 early
        rw [@isOpen_of_le _ _ _ ⟨0, openUntil, false⟩ now set passed, if_neg early]
        exact ⟨rfl, .halfOpen set passed⟩
  | @halfOpen openUntil lastTime mayRecord set passed =>
      have still := passed.trans later
      unfold ObservedBreaker.call CircuitBreaker.call
      dsimp only
      rw [@isOpen_of_le _ _ _ ⟨0, openUntil, true⟩ now set still]
      exact ⟨rfl, .halfOpen set still⟩

theorem spells_isHalfOpen (spells : Spells config observed state) :
    (observed.call config .isHalfOpen).1 = (state.call config .isHalfOpen).1 ∧
      Spells config (observed.call config .isHalfOpen).2 (state.call config .isHalfOpen).2 := by
  cases spells with
  | closed few => exact ⟨rfl, .closed few⟩
  | opened set => exact ⟨rfl, .opened set⟩
  | halfOpen set passed => exact ⟨rfl, .halfOpen set passed⟩

theorem spells_recordSuccess (some : 1 ≤ config.failureThreshold)
    (spells : Spells config observed state) :
    (observed.call config .recordSuccess).1 = (state.call config .recordSuccess).1 ∧
      Spells config (observed.call config .recordSuccess).2
        (state.call config .recordSuccess).2 := by
  cases spells with
  | closed few => exact ⟨rfl, .closed some⟩
  | opened set => exact ⟨rfl, .closed some⟩
  | halfOpen set passed => exact ⟨rfl, .closed some⟩

variable [IsOrderedAddMonoid Time]

theorem spells_recordFailure (nonneg : 0 ≤ config.openMs) (spells : Spells config observed state)
    (allowed : observed.Allows (.recordFailure now)) :
    (observed.call config (.recordFailure now)).1 = (state.call config (.recordFailure now)).1 ∧
      Spells config (observed.call config (.recordFailure now)).2
        (state.call config (.recordFailure now)).2 := by
  obtain ⟨positive, -, permitted⟩ := allowed
  have set : 0 < now + config.openMs := add_pos_of_pos_of_nonneg positive nonneg
  cases spells with
  | @closed failures lastTime mayRecord few =>
      have step := @recordFailure_of_closed _ _ ⟨failures, 0, false⟩ now config rfl
      unfold ObservedBreaker.call CircuitBreaker.call BreakerState.call
      dsimp only
      rw [step]
      by_cases last : failures + 1 = config.failureThreshold
      · rw [if_pos last.ge, if_pos last]
        exact ⟨rfl, .opened set⟩
      · have fewer : failures + 1 < config.failureThreshold := by omega
        rw [if_neg (not_le.2 fewer), if_neg last]
        exact ⟨rfl, .closed fewer⟩
  | opened _ => cases permitted
  | @halfOpen openUntil lastTime mayRecord _ _ =>
      have step := @recordFailure_of_halfOpen _ _ ⟨0, openUntil, true⟩ now config rfl
      unfold ObservedBreaker.call CircuitBreaker.call BreakerState.call
      dsimp only
      rw [step]
      exact ⟨rfl, .opened set⟩

theorem spells_call (some : 1 ≤ config.failureThreshold) (nonneg : 0 ≤ config.openMs)
    (spells : Spells config observed state) (allowed : observed.Allows call) :
    (observed.call config call).1 = (state.call config call).1 ∧
      Spells config (observed.call config call).2 (state.call config call).2 := by
  cases call with
  | isOpen now => exact spells_isOpen spells allowed
  | isHalfOpen => exact spells_isHalfOpen spells
  | recordSuccess => exact spells_recordSuccess some spells
  | recordFailure now => exact spells_recordFailure nonneg spells allowed

omit [IsOrderedAddMonoid Time] in
/-- Watching the calls changes no answer. -/
theorem answers_observed (calls : List (BreakerCall Time)) :
    answers (ObservedBreaker.call config) observed calls =
      answers (CircuitBreaker.call config) observed.breaker calls := by
  induction calls generalizing observed with
  | nil => rfl
  | cons call calls ih =>
      unfold answers
      rw [ih]
      rfl

/-- The breaker answers every disciplined caller as the machine with three states does. -/
theorem circuitBreaker_answers_eq (some : 1 ≤ config.failureThreshold) (nonneg : 0 ≤ config.openMs)
    {calls : List (BreakerCall Time)} (disciplined : Disciplined config calls) :
    answers (CircuitBreaker.call config) .initial calls =
      answers (BreakerState.call config) (.closed 0) calls := by
  have initial : Spells config .initial (.closed 0) := .closed some
  have simulates : ∀ observed state call, Spells config observed state → observed.Allows call →
      (observed.call config call).1 = (state.call config call).1 ∧
        Spells config (observed.call config call).2 (state.call config call).2 := by
    intro observed state call spells allowed
    exact spells_call some nonneg spells allowed
  have same := answers_eq_of_simulation simulates initial disciplined
  rw [answers_observed] at same
  exact same

end Agreement

/-- Two failures in a row open the breaker, and the attempt after the pause closes it. -/
def failingTwice : List (BreakerCall ℤ) :=
  [.isOpen 1, .recordFailure 2, .isOpen 3, .recordFailure 4, .isOpen 13, .isOpen 14, .isHalfOpen,
    .recordSuccess, .isOpen 15]

theorem circuitBreaker_answers_eq_failingTwice :
    answers (CircuitBreaker.call ⟨2, 10⟩) .initial failingTwice =
      answers (BreakerState.call ⟨2, 10⟩) (.closed 0) failingTwice := by
  have disciplined : Disciplined ⟨2, 10⟩ failingTwice := by
    unfold Disciplined failingTwice
    simp [Guarded, ObservedBreaker.Allows, ObservedBreaker.call, ObservedBreaker.initial]
    decide
  exact @circuitBreaker_answers_eq ℤ _ _ ⟨2, 10⟩ _ (by decide) (by decide) _ disciplined

end RisingIntelligence.Runtime
