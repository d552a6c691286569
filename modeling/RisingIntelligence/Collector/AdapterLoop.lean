import RisingIntelligence.Async.Loop
import RisingIntelligence.Collector.RunAdapter
import RisingIntelligence.Runtime.Resilience

/-!
# The loop of an adapter

`runAdapter` of `apps/collector/src/index.ts` around its poll cycles: the error policy
(`apps/collector/src/adapter-error-policy.ts`), the backoff and the sleep until the next poll.

* `shutdownRequested` may be set at any moment while the loop runs.
* The loop goes round until it is; `runAdapter` is cut off after any number of cycles.
-/

namespace RisingIntelligence.Collector

open Async RisingIntelligence.Runtime

/-! ## Calls -/

inductive CollectorErrorType : Type
  | parseError
  | kafkaError
  | authError
  | rateLimit
  | networkError
  deriving DecidableEq

/-- A value that `String` makes a text of, with the heap its causes live in. -/
structure PrintableError where
  objects : ℕ
  heap : ErrorHeap objects
  value : Option (Candidate objects)

/-- A thrown value: one that can be printed, or one that `String` raises an error for. -/
inductive ThrownError : Type
  | printable (error : PrintableError)
  | unprintable (raised : ThrownError)

/-- The calls of a poll cycle, timers, `Math.random` and the failure counts. -/
inductive AdapterLoopCall (Content : Type) : Type
  | poll (c : CollectorCall Content)
  | sleep (ms : ℤ)
  | random
  | incrementEventsFailed (errorType : CollectorErrorType)
  | incrementRateLimitBackoff

@[reducible] def AdapterLoopCall.Reply {Content : Type} : AdapterLoopCall Content → Type
  | .poll c => c.Reply
  | .random => ℚ
  | _ => Unit

abbrev adapterLoop (Content : Type) : Interface where
  Call := AdapterLoopCall Content
  Reply := AdapterLoopCall.Reply
  Error := ThrownError

variable {Content α : Type}

abbrev LoopProgram (Content α : Type) : Type := Program (adapterLoop Content) ThrownError α

def loopCall (c : AdapterLoopCall Content) : LoopProgram Content c.Reply :=
  Program.call (I := adapterLoop Content) c

def shutdownRequested : LoopProgram Content Bool := loopCall (.poll .shutdownRequested)

/-- The calls of a poll cycle as calls of the loop. -/
def pollEmbedding (Content : Type) : Embedding (collector Content ThrownError) (adapterLoop Content) where
  call := .poll
  reply _ reply := reply

/-! ## Backoff and error policy -/

/-- `BackoffManager.wait`; the manager's `attempts` go in and come out. -/
def wait (config : BackoffConfig) (attempts : ℕ) : LoopProgram Content ℕ := do
  let random ← loopCall .random
  loopCall (.sleep (config.totalDelay attempts random))
  pure (attempts + 1)

def waitRateLimit (attempts : ℕ) : LoopProgram Content ℕ := wait defaultRateLimitConfig attempts

def waitTransient (attempts : ℕ) : LoopProgram Content ℕ := wait defaultTransientConfig attempts

variable (toLowerCase : String → String)

/-- `mapUnknownErrorType` -/
def mapUnknownErrorType (error : PrintableError) : CollectorErrorType :=
  match error.value.bind (getErrorMessage error.heap toLowerCase) with
  | none => .parseError
  | some normalized =>
      if Js.includes normalized "kafka" then .kafkaError
      else if Js.includes normalized "auth" || Js.includes normalized "unauthorized" ||
          Js.includes normalized "forbidden" then .authError
      else .parseError

/-- `AdapterErrorHandlingStrategy`; `handle` answers the attempts made. -/
structure AdapterErrorHandlingStrategy (Content : Type) where
  name : String
  applies : PrintableError → Bool
  handle : PrintableError → ℕ → LoopProgram Content ℕ

def rateLimitStrategy : AdapterErrorHandlingStrategy Content where
  name := "rate-limit"
  applies error := isRateLimitError error.heap toLowerCase error.value
  handle _ attempts := do
    loopCall (.incrementEventsFailed .rateLimit)
    loopCall .incrementRateLimitBackoff
    waitRateLimit attempts

def transientStrategy : AdapterErrorHandlingStrategy Content where
  name := "transient"
  applies error := isTransientError error.heap toLowerCase error.value
  handle _ attempts := do
    loopCall (.incrementEventsFailed .networkError)
    waitTransient attempts

def fallbackStrategy : AdapterErrorHandlingStrategy Content where
  name := "fallback"
  applies _ := true
  handle error attempts := do
    loopCall (.incrementEventsFailed (mapUnknownErrorType toLowerCase error))
    waitTransient attempts

def defaultErrorHandlingStrategies : List (AdapterErrorHandlingStrategy Content) :=
  [rateLimitStrategy toLowerCase, transientStrategy toLowerCase, fallbackStrategy toLowerCase]

/-- `new Error(message)` -/
def thrownMessage (message : String) : ThrownError :=
  .printable {
    objects := 1
    heap := fun _ => { message := some message, status := none, cause := none }
    value := some (.object 0) }

/-- `handle` of the policy: the first strategy that matches. -/
def handleAdapterError (error : PrintableError) (attempts : ℕ) :
    List (AdapterErrorHandlingStrategy Content) → LoopProgram Content ℕ
  | [] => Program.throw (thrownMessage "Adapter error policy could not match any strategy")
  | strategy :: strategies =>
      if strategy.applies error then strategy.handle error attempts
      else handleAdapterError error attempts strategies

/-! ## The loop -/

/-- `sleepUntilNextPoll`: at most a second at a time. -/
def sleepUntilNextPoll : ℕ → LoopProgram Content Unit
  | 0 => pure ()
  | remainingMs + 1 => do
      let stop ← shutdownRequested
      if stop then pure ()
      else do
        let waitMs := min (remainingMs + 1) 1000
        loopCall (.sleep waitMs)
        sleepUntilNextPoll (remainingMs + 1 - waitMs)
termination_by remainingMs => remainingMs

/-- The variables of the loop: the number of the cycle and the backoff's attempts. -/
structure LoopState where
  cycle : ℕ
  attempts : ℕ

/-- What the loop is for: the adapter, what it yields in each cycle and how often it polls. -/
structure AdapterLoop (Content : Type) where
  adapter : Adapter
  records : ℕ → List (CollectorIngestionRecord Content)
  pollIntervalMs : ℕ

variable (loop : AdapterLoop Content)

/-- The `try` block once the cycle is over. -/
def afterCycle (cycle : ℕ) : LoopProgram Content (Turn LoopState Unit) := do
  let stop ← shutdownRequested
  if stop then pure (.leave ())
  else do
    sleepUntilNextPoll loop.pollIntervalMs
    pure (.again ⟨cycle + 1, 0⟩)

/-- The heartbeat of a failed cycle; errors of its publication are ignored. -/
def publishErrorHeartbeat : LoopProgram Content Unit :=
  (loopCall (.poll (.publishSourceHeartbeat ⟨loop.adapter.source, 0, "error"⟩))).tryCatch
    fun (_ : ThrownError) => pure ()

/-- The `catch` block: the error is reported, and unless shutdown is requested the policy waits.  An
error that `serializeError` cannot print ends the loop before anything else. -/
def afterError (state : LoopState) :
    ThrownError → LoopProgram Content (Turn LoopState Unit)
  | .unprintable raised => Program.throw raised
  | .printable error => do
      publishErrorHeartbeat loop
      let stop ← shutdownRequested
      if stop then pure (.leave ())
      else do
        let attempts ← handleAdapterError error state.attempts
          (defaultErrorHandlingStrategies toLowerCase)
        pure (.again ⟨state.cycle + 1, attempts⟩)

/-- One turn of `while (!ctx.shutdownRequested)`.  Nothing after the cycle throws, so that the
`catch` block has the attempts from before it. -/
def adapterTurn (state : LoopState) : LoopProgram Content (Turn LoopState Unit) := do
  let stop ← shutdownRequested
  if stop then pure (.leave ())
  else
    ((pollCycle loop.adapter (loop.records state.cycle)).embed (pollEmbedding Content) >>= fun _ =>
      afterCycle loop state.cycle).tryCatch (afterError toLowerCase loop state)

/-- `runAdapter` for a number of cycles. -/
def runAdapter (cycles : ℕ) : LoopProgram Content (Option Unit) :=
  Program.loop (adapterTurn toLowerCase loop) cycles ⟨0, 0⟩

end RisingIntelligence.Collector
