import RisingIntelligence.Brief.BudgetLedger
import RisingIntelligence.Brief.Types

/-!
# Processing a summary request

`processSummaryRequest` (`apps/brief/src/process.ts`) and what it runs: the result store, the
failure handling and `DefaultBriefOrchestrator.execute`.  The result table and the results
topic are the calls `findResult`, `createResult` and `publishResult`; budgeting, query-mode
resolution and generation are programs over an interface of their own, which can reach neither.

Health flags, metrics and log lines are left out.
-/

namespace RisingIntelligence.Brief

open Async

/-! ## Results -/

inductive BriefStatus : Type
  | success
  | failure
  deriving DecidableEq

structure BriefFailure where
  errorCode : String
  errorMessage : String
  retryable : Bool

/-- `BriefResultPayload`; `brief` is the body of a success. -/
structure BriefResultPayload (Body : Type) where
  requestId : String
  producedAt : String
  failure : Option BriefFailure
  brief : Option Body

/-- A row of `brief_results`. -/
structure BriefResultRow (Body : Type) where
  requestId : String
  producedAt : String
  status : BriefStatus
  result : BriefResultPayload Body

structure StoredBriefResult (Body : Type) where
  status : BriefStatus
  payload : BriefResultPayload Body

structure SuccessMetrics where
  highlightsCount : Nat
  citationsCount : Nat
  inputTokens : Nat
  outputTokens : Nat
  costUsd : ℚ

structure SuccessResult (Body : Type) where
  payload : BriefResultPayload Body
  metrics : SuccessMetrics

/-! ## Calls -/

/-- The calls of request processing; `external` are those of the budget, query-mode and
generation programs. -/
inductive BriefCall (Body C : Type) : Type
  | findResult (requestId : String)
  | createResult (row : BriefResultRow Body)
  | publishResult (requestId : String) (payload : BriefResultPayload Body)
  | external (c : C)

@[reducible] def BriefCall.Reply {Body C : Type} (R : C → Type) : BriefCall Body C → Type
  | .findResult _ => Option (BriefResultRow Body)
  | .external c => R c
  | _ => Unit

abbrev external (C : Type) (R : C → Type) : Interface where
  Call := C
  Reply := R
  Error := BriefError

abbrev brief (Body C : Type) (R : C → Type) : Interface where
  Call := BriefCall Body C
  Reply := BriefCall.Reply R
  Error := BriefError

variable {Body C : Type} {R : C → Type}

abbrev BriefProgram (Body C : Type) (R : C → Type) (α : Type) : Type :=
  Program (brief Body C R) BriefError α

abbrev ExternalProgram (C : Type) (R : C → Type) (α : Type) : Type :=
  Program (external C R) BriefError α

def await (c : BriefCall Body C) : BriefProgram Body C R (c.Reply R) :=
  Program.call (I := brief Body C R) c

def externalEmbedding (Body C : Type) (R : C → Type) :
    Embedding (external C R) (brief Body C R) where
  call := .external
  reply _ reply := reply

/-- A budget, query-mode or generation program as part of request processing. -/
def run {α : Type} (p : ExternalProgram C R α) : BriefProgram Body C R α :=
  p.embed (externalEmbedding Body C R)

/-! ## Result store -/

/-- The checks of `BriefResultPayloadSchema` after which a stored payload is used as it is. -/
def parseBriefResultPayload (isIsoDatetime : String → Bool) (payload : BriefResultPayload Body) :
    Except BriefError (BriefResultPayload Body) :=
  let invalid (path : String) : Except BriefError (BriefResultPayload Body) :=
    .error (.other ("Persisted brief result payload is invalid at '" ++ path ++ "'"))
  if payload.requestId = "" then invalid "request_id"
  else if isIsoDatetime payload.producedAt = false then invalid "produced_at"
  else
    match payload.failure with
    | none => .ok payload
    | some failure =>
        if failure.errorCode = "" then invalid "failure.error_code"
        else if failure.errorMessage = "" then invalid "failure.error_message"
        else .ok payload

/-- `PrismaBriefResultStore.load` -/
def load (isIsoDatetime : String → Bool) (requestId : String) :
    BriefProgram Body C R (Option (StoredBriefResult Body)) := do
  let existing ← await (.findResult requestId)
  match existing with
  | none => pure none
  | some row =>
      match parseBriefResultPayload isIsoDatetime row.result with
      | .ok payload => pure (some { status := row.status, payload := payload })
      | .error error => Program.throw error

inductive PersistOutcome : Type
  | created
  | duplicate
  deriving DecidableEq

/-- `PrismaBriefResultStore.persist` -/
def persist (payload : BriefResultPayload Body) (status : BriefStatus) :
    BriefProgram Body C R PersistOutcome :=
  (await (.createResult {
    requestId := payload.requestId
    producedAt := payload.producedAt
    status := status
    result := payload })).settle fun
    | .ok _ => pure .created
    | .error error => if error.isDuplicateKey then pure .duplicate else Program.throw error

/-- `republishPersistedResult` -/
def republishPersistedResult (isIsoDatetime : String → Bool) (requestId : String) :
    BriefProgram Body C R (Option BriefStatus) := do
  let existing ← load isIsoDatetime requestId
  match existing with
  | none => pure none
  | some stored => do
      await (.publishResult requestId stored.payload)
      pure (some stored.status)

/-! ## Failures -/

/-- `buildFailureBriefResultPayload` -/
def buildFailureBriefResultPayload (requestId producedAt code message : String)
    (retryable : Bool) : BriefResultPayload Body where
  requestId := requestId
  producedAt := producedAt
  failure := some { errorCode := code, errorMessage := message, retryable := retryable }
  brief := none

/-- What the processing of one request runs with: the language's case folding and date check,
the clock's reading and the configured budget. -/
structure Runtime where
  toLowerCase : String → String
  isIsoDatetime : String → Bool
  producedAt : String
  llmDailyBudgetUsd : Js.Number

/-- `emitFailureResult` -/
def emitFailureResult (runtime : Runtime) (requestId code message : String) (retryable : Bool) :
    BriefProgram Body C R Unit := do
  let failureResult :=
    buildFailureBriefResultPayload requestId runtime.producedAt code message retryable
  let persisted ← persist failureResult .failure
  match persisted with
  | .duplicate => do
      let republishedStatus ← republishPersistedResult runtime.isIsoDatetime requestId
      match republishedStatus with
      | none => Program.throw (.other
          ("Unable to republish existing failure result for request " ++ requestId))
      | some _ => pure ()
  | .created => await (.publishResult requestId failureResult)

inductive FailureHandlerOutcome : Type
  | handled
  | rethrow

/-- `classifyRetryableFailureCode` -/
def classifyRetryableFailureCode (toLowerCase : String → String) (message : String) : String :=
  let message := toLowerCase message
  if Js.includes message "timeout" || Js.includes message "timed out" ||
      Js.includes message "etimedout" || Js.includes message "abort" then "timeout"
  else "llm_error"

/-- `handleSummaryRequestFailure`: non-retryable errors, then errors after the result was
created, then errors of the model, then the rest. -/
def handleSummaryRequestFailure (runtime : Runtime) (requestId : String)
    (persistedCreated : Bool) : BriefError → BriefProgram Body C R FailureHandlerOutcome
  | .nonRetryable message code => do
      emitFailureResult runtime requestId code message false
      pure .handled
  | .llmGeneration message =>
      if persistedCreated then pure .rethrow
      else do
        emitFailureResult runtime requestId
          (classifyRetryableFailureCode runtime.toLowerCase message) message true
        pure .handled
  | _ => pure .rethrow

/-! ## Services -/

/-- What query mode replaces in a request. -/
structure QueryModeResolution where
  windows : List (Js.Keyed Int)
  query : ParsedSummaryQuery
  topics : List ParsedSummaryTopic
  coverageWarnings : List String

/-- `{ ...request, windows, query, topics, coverageWarnings }` -/
def ParsedSummaryRequest.resolved (request : ParsedSummaryRequest)
    (resolution : QueryModeResolution) : ParsedSummaryRequest :=
  { request with
    windows := resolution.windows
    query := some resolution.query
    topics := resolution.topics
    coverageWarnings := some resolution.coverageWarnings }

/-- The budget governor, the query-mode resolver (`none` passes the request through) and the
generation of a brief, as programs over their own calls. -/
structure BriefServices (Body C : Type) (R : C → Type) where
  authorize : AuthorizeBudgetInput → ExternalProgram C R BriefBudgetDecision
  rollback : BriefBudgetDecision → ExternalProgram C R ℚ
  settle : BriefBudgetDecision → ℚ → ExternalProgram C R ℚ
  resolve : ParsedSummaryRequest → ExternalProgram C R (Option QueryModeResolution)
  generate : ParsedSummaryRequest → ℚ → ExternalProgram C R (Body × SuccessMetrics)

/-- `Number(value.toFixed(digits))`, half up on the absolute value. -/
def toFixed (digits : Nat) (value : ℚ) : ℚ :=
  let scaled : ℚ := (|value| * 10 ^ digits + 1 / 2).floor / 10 ^ digits
  if value < 0 then -scaled else scaled

/-- `estimateRequestCostUsd` -/
def estimateRequestCostUsd (request : ParsedSummaryRequest) : ℚ :=
  let evidenceCount : Nat := request.topics.foldl (fun sum topic => sum + topic.evidence.length) 0
  toFixed 4 (1 / 100 + (request.topics.length : ℚ) * (2 / 1000) +
    (evidenceCount : ℚ) * (5 / 10000))

/-- `normalizeUsd` -/
def normalizeUsd (value : ℚ) : ℚ := if value ≤ 0 then 0 else toFixed 6 value

/-- `buildSuccessPayload` around a generated body. -/
def buildSuccessResult (services : BriefServices Body C R) (runtime : Runtime)
    (request : ParsedSummaryRequest) (estimatedCostUsd : ℚ) :
    BriefProgram Body C R (SuccessResult Body) := do
  let (body, metrics) ← run (services.generate request estimatedCostUsd)
  pure {
    payload := {
      requestId := request.requestId
      producedAt := runtime.producedAt
      failure := none
      brief := some body }
    metrics := metrics }

/-! ## Orchestration -/

/-- The mutable variables of `execute` that the `catch` block reads. -/
structure ExecutionState where
  budgetDecision : Option BriefBudgetDecision
  persistedCreated : Bool

/-- What the `try` block of `execute` throws, with the variables as they are then. -/
structure ExecutionFailure where
  error : BriefError
  state : ExecutionState

/-- Attach the variables to whatever `p` throws. -/
def failingIn {α : Type} (state : ExecutionState) (p : BriefProgram Body C R α) :
    Program (brief Body C R) ExecutionFailure α :=
  p.mapError fun error => { error := error, state := state }

/-- The result of another delivery was there first: release, then republish it. -/
def republishDuplicate (services : BriefServices Body C R) (runtime : Runtime)
    (requestId : String) (decision : BriefBudgetDecision) :
    Program (brief Body C R) ExecutionFailure Unit := do
  let _ ← failingIn ⟨some decision, false⟩ (run (services.rollback decision))
  let republishedStatus ← failingIn ⟨none, false⟩
    (republishPersistedResult runtime.isIsoDatetime requestId)
  match republishedStatus with
  | none => Program.throw ⟨.other
      ("Persisted result missing after duplicate insert for request " ++ requestId), ⟨none, false⟩⟩
  | some _ => pure ()

/-- Settle the reservation to the actual cost; a failure is only logged. -/
def settleReservation (services : BriefServices Body C R) (decision : BriefBudgetDecision)
    (costUsd : ℚ) : BriefProgram Body C R Unit :=
  if toFixed 6 (costUsd - decision.reservedCostUsd) ≠ 0 then
    Program.tryCatch
      (do
        let _ ← run (services.settle decision costUsd)
        pure ())
      fun (_ : BriefError) => pure ()
  else pure ()

/-- The `try` block: generation, persistence, settlement and publishing. -/
def generateAndPublish (services : BriefServices Body C R) (runtime : Runtime)
    (request : ParsedSummaryRequest) (estimatedCostUsd : ℚ) (decision : BriefBudgetDecision) :
    Program (brief Body C R) ExecutionFailure Unit := do
  let successResult ← failingIn ⟨some decision, false⟩
    (buildSuccessResult services runtime request estimatedCostUsd)
  let persisted ← failingIn ⟨some decision, false⟩ (persist successResult.payload .success)
  match persisted with
  | .duplicate => republishDuplicate services runtime request.requestId decision
  | .created =>
      failingIn ⟨some decision, true⟩ do
        settleReservation services decision successResult.metrics.costUsd
        await (.publishResult request.requestId successResult.payload)

/-- Release the reservation when it is still there and its result was not created. -/
def releaseUndisposed (services : BriefServices Body C R) (state : ExecutionState) :
    BriefProgram Body C R Unit :=
  match state.budgetDecision with
  | none => pure ()
  | some decision =>
      if decision.authorized && !state.persistedCreated then do
        let _ ← run (services.rollback decision)
        pure ()
      else pure ()

/-- The `catch` block: release what is still reserved, then let the handlers decide. -/
def handleExecutionFailure (services : BriefServices Body C R) (runtime : Runtime)
    (requestId : String) (failure : ExecutionFailure) : BriefProgram Body C R Unit := do
  releaseUndisposed services failure.state
  let outcome ← handleSummaryRequestFailure runtime requestId failure.state.persistedCreated
    failure.error
  match outcome with
  | .handled => pure ()
  | .rethrow => Program.throw failure.error

/-- The rest of `execute` once the budget answered. -/
def executeDecided (services : BriefServices Body C R) (runtime : Runtime)
    (request : ParsedSummaryRequest) (estimatedCostUsd : ℚ) (decision : BriefBudgetDecision) :
    BriefProgram Body C R Unit :=
  if decision.authorized then
    (generateAndPublish services runtime request estimatedCostUsd decision).tryCatch
      (handleExecutionFailure services runtime request.requestId)
  else
    emitFailureResult runtime request.requestId "budget_exceeded" "Daily brief budget exceeded"
      false

/-- What `execute` asks the budget for. -/
def budgetInput (runtime : Runtime) (request : ParsedSummaryRequest) (estimatedCostUsd : ℚ) :
    AuthorizeBudgetInput where
  dateKey := String.ofList (runtime.producedAt.toList.take 10)
  dailyBudgetUsd := (request.budget.bind (·.dailyBudgetUsd)).getD runtime.llmDailyBudgetUsd
  estimatedCostUsd := estimatedCostUsd

/-- `DefaultBriefOrchestrator.execute` -/
def execute (services : BriefServices Body C R) (runtime : Runtime)
    (request : ParsedSummaryRequest) : BriefProgram Body C R Unit := do
  let existingResult ← load runtime.isIsoDatetime request.requestId
  match existingResult with
  | some stored => await (.publishResult request.requestId stored.payload)
  | none => do
      let estimatedCostUsd := normalizeUsd (estimateRequestCostUsd request)
      let decision ← run (services.authorize (budgetInput runtime request estimatedCostUsd))
      executeDecided services runtime request estimatedCostUsd decision

/-- `SummaryRequestRuntimeFactory.create`; `none` when the request ended there. -/
def create (services : BriefServices Body C R) (runtime : Runtime)
    (request : ParsedSummaryRequest) : BriefProgram Body C R (Option ParsedSummaryRequest) :=
  (run (services.resolve request)).settle fun
    | .ok none => pure (some request)
    | .ok (some resolution) => pure (some (request.resolved resolution))
    | .error (.nonRetryable message code) => do
        emitFailureResult runtime request.requestId code message false
        pure none
    | .error error => Program.throw error

/-- `processSummaryRequest` -/
def processSummaryRequest (services : BriefServices Body C R) (runtime : Runtime)
    (request : ParsedSummaryRequest) : BriefProgram Body C R Unit := do
  let job ← create services runtime request
  match job with
  | none => pure ()
  | some request => execute services runtime request

end RisingIntelligence.Brief
