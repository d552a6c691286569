import RisingIntelligence.Shared.Chain
import RisingIntelligence.Shared.JsString
import Mathlib.Algebra.Order.Floor.Ring
import Mathlib.Data.Rat.Floor

/-!
# Errors and delays

`packages/shared/src/runtime/backoff.ts`: what makes an error a rate limit or a transient one, and
how long to wait after it.

Errors are objects of a heap, so that an error may be its own cause, at any distance.
`classifyError_iff`: an error is of a kind exactly when something in its chain of causes is.
-/

namespace RisingIntelligence.Runtime

/-! ## Thrown values -/

/-- A value that is not `undefined`: an object of the heap, or something else. -/
inductive Candidate (n : ℕ) : Type
  | object (ref : Fin n)
  | primitive
  deriving DecidableEq

instance (n : ℕ) : Fintype (Candidate n) where
  elems := insert .primitive (Finset.univ.map ⟨.object, fun _ _ same => by cases same; rfl⟩)
  complete candidate := by
    cases candidate with
    | object ref =>
        exact Finset.mem_insert_of_mem (Finset.mem_map.2 ⟨ref, Finset.mem_univ ref, rfl⟩)
    | primitive => exact Finset.mem_insert_self _ _

/-- What is read of an object: its message where it is an `Error`, a finite number under `status`,
and what stands under `cause`, `none` for `undefined`. -/
structure ErrorObject (n : ℕ) where
  message : Option String
  status : Option ℚ
  cause : Option (Candidate n)

abbrev ErrorHeap (n : ℕ) : Type := Fin n → ErrorObject n

variable {n : ℕ} (heap : ErrorHeap n) (toLowerCase : String → String)

def getStatusCode : Candidate n → Option ℚ
  | .object ref => (heap ref).status
  | .primitive => none

def getErrorMessage : Candidate n → Option String
  | .object ref => (heap ref).message.map toLowerCase
  | .primitive => none

/-- An empty message includes nothing. -/
def includesAnyTerm (value : Option String) (terms : List String) : Bool :=
  match value with
  | none => false
  | some value => value ≠ "" && terms.any fun term => Js.includes value term

def getCause : Candidate n → Option (Candidate n)
  | .object ref => (heap ref).cause
  | .primitive => none

/-- `iterateCandidates`: the chain of causes, up to an object that was visited. -/
def iterateCandidates (error : Option (Candidate n)) : List (Candidate n) :=
  match error with
  | none => []
  | some candidate => Chain.follow (getCause heap) ∅ candidate

/-- `ErrorClassificationHandler`, by what it matches. -/
abbrev ErrorClassificationHandler (n : ℕ) : Type := Candidate n → Bool

def classifyError (error : Option (Candidate n)) (handlers : List (ErrorClassificationHandler n)) :
    Bool :=
  (iterateCandidates heap error).any fun candidate => handlers.any fun handler => handler candidate

def rateLimitHandlers : List (ErrorClassificationHandler n) :=
  [fun candidate => getStatusCode heap candidate = some 429,
    fun candidate =>
      includesAnyTerm (getErrorMessage heap toLowerCase candidate) ["429", "rate limit"]]

def transientHandlers : List (ErrorClassificationHandler n) :=
  [fun candidate => (getStatusCode heap candidate).any fun status =>
      decide (500 ≤ status ∧ status < 600),
    fun candidate => includesAnyTerm (getErrorMessage heap toLowerCase candidate)
      ["econnrefused", "enotfound", "etimedout", "econnreset", "socket hang up", "network"]]

def isRateLimitError (error : Option (Candidate n)) : Bool :=
  classifyError heap error (rateLimitHandlers heap toLowerCase)

def isTransientError (error : Option (Candidate n)) : Bool :=
  classifyError heap error (transientHandlers heap toLowerCase)

/-! ## Classification -/

/-- The candidate is the error or stands in its chain of causes. -/
def InCauses (error : Option (Candidate n)) (candidate : Candidate n) : Prop :=
  ∃ first steps, error = some first ∧ Chain.after (getCause heap) steps first = some candidate

variable {heap toLowerCase} {error : Option (Candidate n)}

theorem mem_iterateCandidates {candidate : Candidate n} :
    candidate ∈ iterateCandidates heap error ↔ InCauses heap error candidate := by
  unfold InCauses
  cases error with
  | none => simp [iterateCandidates]
  | some first => simp [iterateCandidates, Chain.mem_follow_iff]

/-- An error matches exactly when something in its chain of causes does, however the chain goes. -/
theorem classifyError_iff {handlers : List (ErrorClassificationHandler n)} :
    classifyError heap error handlers = true ↔
      ∃ candidate, InCauses heap error candidate ∧ ∃ handler ∈ handlers, handler candidate = true := by
  unfold classifyError
  simp only [List.any_eq_true, mem_iterateCandidates]

/-! ## Delays -/

structure BackoffConfig where
  baseDelayMs : ℚ
  maxDelayMs : ℚ
  jitterFactor : ℚ

/-- `DEFAULT_RATE_LIMIT_CONFIG` -/
def defaultRateLimitConfig : BackoffConfig := ⟨30000, 15 * 60 * 1000, 2 / 10⟩

/-- `DEFAULT_TRANSIENT_CONFIG` -/
def defaultTransientConfig : BackoffConfig := ⟨5000, 5 * 60 * 1000, 2 / 10⟩

/-- A configuration as the defaults are. -/
structure BackoffConfig.Sound (config : BackoffConfig) : Prop where
  base_nonneg : 0 ≤ config.baseDelayMs
  max_nonneg : 0 ≤ config.maxDelayMs
  jitter_nonneg : 0 ≤ config.jitterFactor

theorem defaultRateLimitConfig_sound : defaultRateLimitConfig.Sound := by
  constructor <;> decide +kernel

theorem defaultTransientConfig_sound : defaultTransientConfig.Sound := by
  constructor <;> decide +kernel

namespace BackoffConfig

variable (config : BackoffConfig)

/-- `cappedDelay` after so many attempts. -/
def cappedDelay (attempts : ℕ) : ℚ := min (config.baseDelayMs * 2 ^ attempts) config.maxDelayMs

/-- `totalDelay`; `random` is what `Math.random()` answers. -/
def totalDelay (attempts : ℕ) (random : ℚ) : ℤ :=
  let cappedDelay := config.cappedDelay attempts
  ⌊cappedDelay + cappedDelay * config.jitterFactor * random⌋

variable {config}

theorem Sound.cappedDelay_nonneg (sound : config.Sound) (attempts : ℕ) :
    0 ≤ config.cappedDelay attempts :=
  le_min (mul_nonneg sound.base_nonneg (pow_nonneg (by norm_num) attempts)) sound.max_nonneg

/-- The delays grow, up to the largest. -/
theorem Sound.cappedDelay_mono (sound : config.Sound) {fewer more : ℕ} (le : fewer ≤ more) :
    config.cappedDelay fewer ≤ config.cappedDelay more := by
  refine min_le_min_right _ (mul_le_mul_of_nonneg_left ?_ sound.base_nonneg)
  exact pow_le_pow_right₀ (by norm_num) le

/-- A delay is the capped one with some jitter on top. -/
theorem Sound.totalDelay_bounds (sound : config.Sound) (attempts : ℕ) {random : ℚ}
    (nonneg : 0 ≤ random) (below : random < 1) :
    ⌊config.cappedDelay attempts⌋ ≤ config.totalDelay attempts random ∧
      (config.totalDelay attempts random : ℚ) ≤
        config.cappedDelay attempts * (1 + config.jitterFactor) := by
  have capped := sound.cappedDelay_nonneg attempts
  have scaled : 0 ≤ config.cappedDelay attempts * config.jitterFactor :=
    mul_nonneg capped sound.jitter_nonneg
  constructor
  · exact Int.floor_le_floor (le_add_of_nonneg_right (mul_nonneg scaled nonneg))
  · refine (Int.floor_le _).trans ?_
    have jitter := mul_le_mul_of_nonneg_left below.le scaled
    rw [mul_add, mul_one]
    rw [mul_one] at jitter
    exact add_le_add_right jitter _

end BackoffConfig

end RisingIntelligence.Runtime
