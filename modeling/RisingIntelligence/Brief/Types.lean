import RisingIntelligence.Pipeline.EvidenceRecord

/-!
# Brief requests

The request types of `apps/brief/src/types.ts`.  Instants are milliseconds.  A request type,
window, strategy or provider is whatever an object literal answered for its name, so it may be
inherited.
-/

namespace RisingIntelligence.Brief

abbrev Date : Type := Int

inductive SummaryRequestType : Type
  | daily
  | threshold
  deriving DecidableEq

def SummaryRequestType.name : SummaryRequestType → String
  | .daily => "daily"
  | .threshold => "threshold"

inductive EvidenceStrategy : Type
  | diversity
  | recency
  | engagement
  deriving DecidableEq

def EvidenceStrategy.name : EvidenceStrategy → String
  | .diversity => "diversity"
  | .recency => "recency"
  | .engagement => "engagement"

inductive LlmProvider : Type
  | internal
  | http
  | codexCli
  deriving DecidableEq

def LlmProvider.name : LlmProvider → String
  | .internal => "internal"
  | .http => "http"
  | .codexCli => "codex-cli"

structure ParsedSummaryMetric where
  topic : String
  window : Js.Keyed Int
  score : Js.Number
  volume : Js.Number
  acceleration : Js.Number

structure ParsedSummaryTopic where
  topic : String
  metrics : List ParsedSummaryMetric
  evidence : List BriefEvidenceRecord

structure BriefBudget where
  dailyBudgetUsd : Option Js.Number
  maxTopics : Option Int
  maxEvidencePerTopic : Option Int
  maxOutputTokens : Option Int

structure ParsedSummaryQuery where
  lookbackDays : Option Int
  topicGlobs : Option (List String)
  maxEventsPerTopic : Option Int
  evidenceStrategy : Option (Js.Keyed EvidenceStrategy)

structure ParsedSummaryReport where
  timezone : Option String
  startAt : Option Date
  endAt : Option Date

/-- `ParsedSummaryRequest`, which is also the prepared `BriefOrchestrationRequest`. -/
structure ParsedSummaryRequest where
  requestId : String
  requestedAt : Date
  type : Js.Keyed SummaryRequestType
  windows : List (Js.Keyed Int)
  budget : Option BriefBudget
  query : Option ParsedSummaryQuery
  report : Option ParsedSummaryReport
  topics : List ParsedSummaryTopic
  llmProvider : Option (Js.Keyed LlmProvider)
  coverageWarnings : Option (List String)

/-- A request without topics. -/
def ParsedSummaryRequest.empty (requestId : String) : ParsedSummaryRequest where
  requestId := requestId
  requestedAt := 0
  type := .own .daily
  windows := []
  budget := none
  query := none
  report := none
  topics := []
  llmProvider := none
  coverageWarnings := none

/-- What the brief service throws or catches, as far as it tells errors apart. -/
inductive BriefError : Type
  | nonRetryable (message code : String)
  | llmGeneration (message : String)
  | prismaKnownRequest (code : String)
  | other (message : String)
  deriving DecidableEq

/-- `isDuplicateKeyError`, `isDuplicateBudgetDateError` -/
def BriefError.isDuplicateKey (error : BriefError) : Bool :=
  error = .prismaKnownRequest "P2002"

end RisingIntelligence.Brief
