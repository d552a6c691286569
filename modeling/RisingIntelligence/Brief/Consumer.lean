import RisingIntelligence.Brief.ResultAgreement
import RisingIntelligence.Brief.SummaryRequest
import RisingIntelligence.Pipeline.Consumer

/-!
# The summary-request consumer

The consumer of the summary-requests topic (`apps/brief/src/index.ts`,
`apps/brief/src/brief-service.ts`): the batch strategy of `createTopicBatchHandler` around
`handleSummaryRequest`.

* `marked_processSummaryRequest`: processing returns only once a result of the request was
  published, on whichever of its paths.
* `acknowledged_requests_answered`: whatever the batches running side by side do and wherever
  their calls throw, a batch acknowledges a prefix of its messages, and every acknowledged
  message that decodes has its result stored and published.
-/

namespace RisingIntelligence.Brief

open Async Program Transport
open Js (MessageApi UrlApi)

variable {Body C : Type} {R : C → Type}

/-! ## The consumer -/

/-- `RuntimeContext`, as far as the handling of summary requests reads it.  Every message is
processed at a time of its own. -/
structure BriefRuntimeContext (Body C : Type) (R : C → Type) where
  api : MessageApi
  urls : UrlApi
  isTimeZone : String → Bool
  services : BriefServices Body C R
  runtime : MessageContext → Runtime

/-- `handleSummaryRequest`: what does not decode is logged and done with. -/
def handleSummaryRequest (ctx : BriefRuntimeContext Body C R) (context : MessageContext)
    (messageValue : Buffer) : BriefProgram Body C R Unit :=
  match deserializeSummaryRequest ctx.api ctx.urls ctx.isTimeZone messageValue with
  | .error _ => pure ()
  | .ok request => processSummaryRequest ctx.services (ctx.runtime context) request

/-- The options of `createTopicBatchHandler`; `20` is `LOOP_HEARTBEAT_INTERVAL_MESSAGES`. -/
def topicBatchOptions : CreateMessageBatchStrategyOptions Buffer BriefError where
  strategy := { deserialize := .ok, onEmptyValue := true, onDeserializeFailure := false }
  progressInterval := some 20
  acknowledge := some true
  onBatchCompleted := false

/-- What `createMessageBatchStrategy` makes of them. -/
def topicBatchStrategy : BatchStrategy Buffer BriefError where
  strategy := topicBatchOptions.strategy
  progressInterval := 20
  progressInterval_pos := by omega
  acknowledge := true
  onBatchCompleted := false

theorem createMessageBatchStrategy_topicBatchOptions :
    createMessageBatchStrategy topicBatchOptions = .ok topicBatchStrategy := by
  rfl

/-- `createTopicBatchHandler` for the summary requests, which closes over the context: an empty
value is only logged. -/
def summaryRequestCallbacks (ctx : BriefRuntimeContext Body C R) :
    Callbacks Unit Buffer (brief Body C R) where
  onEmptyValue _ _ := pure ()
  onDeserializeFailure _ _ _ := pure ()
  onMessage _ := handleSummaryRequest ctx
  onBatchCompleted _ := pure ()

/-- A batch of summary requests. -/
structure SummaryRequestBatch (Body C : Type) (R : C → Type) where
  ctx : BriefRuntimeContext Body C R
  batch : BatchContext
  messages : List PipelineMessage

def SummaryRequestBatch.consumer (delivered : SummaryRequestBatch Body C R) :
    Consumer Unit Buffer (brief Body C R) where
  options := topicBatchStrategy
  callbacks := summaryRequestCallbacks delivered.ctx
  ctx := ()
  batch := delivered.batch
  messages := delivered.messages

/-- The message decodes to the request. -/
def BriefRuntimeContext.Requests (ctx : BriefRuntimeContext Body C R) (message : PipelineMessage)
    (request : ParsedSummaryRequest) : Prop :=
  ∃ value, message.value = some value ∧
    deserializeSummaryRequest ctx.api ctx.urls ctx.isTimeZone value = .ok request

/-! ## Processing ends with a published result -/

/-- A result of the request is published. -/
def Answering (requestId : String) (c : BriefCall Body C) : Prop :=
  ∃ payload, c = .publishResult requestId payload

variable {ε α : Type} {requestId : String}

theorem marked_publishResult (payload : BriefResultPayload Body) :
    (await (.publishResult requestId payload) : BriefProgram Body C R _).Marked
      (Answering requestId) fun _ => False :=
  marked_call (I := brief Body C R) (S := Answering requestId) ⟨payload, rfl⟩

/-- It returns without publishing only where no result is stored. -/
theorem marked_republishPersistedResult (isIsoDatetime : String → Bool) :
    (republishPersistedResult isIsoDatetime requestId : BriefProgram Body C R _).Marked
      (Answering requestId) fun status => status = none := by
  refine (marked_true _).bind fun existing _ => ?_
  cases existing with
  | none => exact marked_pure rfl
  | some stored => exact (marked_publishResult stored.payload).bind_any

theorem marked_emitFailureResult (runtime : Runtime) (code message : String) (retryable : Bool) :
    (emitFailureResult runtime requestId code message retryable :
      BriefProgram Body C R Unit).Marked (Answering requestId) fun _ => False := by
  refine (marked_true _).bind fun persisted _ => ?_
  cases persisted with
  | created => exact marked_publishResult _
  | duplicate =>
      refine (marked_republishPersistedResult runtime.isIsoDatetime).bind fun status absent => ?_
      subst absent
      exact marked_throw _

theorem marked_handleSummaryRequestFailure (runtime : Runtime) (persistedCreated : Bool)
    (error : BriefError) :
    (handleSummaryRequestFailure runtime requestId persistedCreated error :
      BriefProgram Body C R _).Marked (Answering requestId) fun outcome => outcome = .rethrow := by
  have emitted (code message : String) (retryable : Bool) :
      (do emitFailureResult runtime requestId code message retryable; pure .handled :
        BriefProgram Body C R FailureHandlerOutcome).Marked (Answering requestId)
          fun outcome => outcome = .rethrow :=
    (marked_emitFailureResult runtime code message retryable).bind_any
  cases error with
  | nonRetryable message code => exact emitted code message false
  | llmGeneration message =>
      cases persistedCreated with
      | true => exact marked_pure rfl
      | false => exact emitted _ message true
  | prismaKnownRequest code => exact marked_pure rfl
  | other message => exact marked_pure rfl

/-- Attaching the variables to an error changes no value. -/
theorem marked_failingIn {state : ExecutionState} {p : BriefProgram Body C R α} {Q : α → Prop}
    {S : BriefCall Body C → Prop} (marked : p.Marked S Q) : (failingIn state p).Marked S Q :=
  Marked.settle marked (fun _ holds => marked_pure holds) fun _ => marked_throw _

variable (services : BriefServices Body C R) (runtime : Runtime)

theorem marked_republishDuplicate (decision : BriefBudgetDecision) :
    (republishDuplicate services runtime requestId decision).Marked (Answering requestId)
      fun _ => False := by
  refine (marked_true _).bind fun _ _ => ?_
  refine (marked_failingIn (marked_republishPersistedResult runtime.isIsoDatetime)).bind
    fun status absent => ?_
  subst absent
  exact marked_throw _

theorem marked_generateAndPublish (request : ParsedSummaryRequest) (estimatedCostUsd : ℚ)
    (decision : BriefBudgetDecision) :
    (generateAndPublish services runtime request estimatedCostUsd decision).Marked
      (Answering request.requestId) fun _ => False := by
  refine (marked_true _).bind fun result _ => (marked_true _).bind fun persisted _ => ?_
  cases persisted with
  | duplicate => exact marked_republishDuplicate services runtime decision
  | created =>
      exact marked_failingIn ((marked_true _).bind fun _ _ => marked_publishResult _)

theorem marked_handleExecutionFailure (failure : ExecutionFailure) :
    (handleExecutionFailure services runtime requestId failure).Marked (Answering requestId)
      fun _ => False := by
  refine (marked_true _).bind fun _ _ => ?_
  refine (marked_handleSummaryRequestFailure runtime _ _).bind fun outcome rethrown => ?_
  subst rethrown
  exact marked_throw _

theorem marked_execute (request : ParsedSummaryRequest) :
    (execute services runtime request).Marked (Answering request.requestId) fun _ => False := by
  refine (marked_true _).bind fun existing _ => ?_
  cases existing with
  | some stored => exact marked_publishResult stored.payload
  | none =>
      refine (marked_true _).bind fun decision _ => ?_
      unfold executeDecided
      split_ifs
      · exact (marked_generateAndPublish services runtime request _ decision).settle
          (fun _ never => never.elim) fun failure =>
            marked_handleExecutionFailure services runtime failure
      · exact marked_emitFailureResult runtime _ _ _

/-- A request that query mode could not resolve was answered; the others keep their id. -/
theorem marked_create (request : ParsedSummaryRequest) :
    (create services runtime request).Marked (Answering request.requestId)
      fun job => ∃ resolved, job = some resolved ∧ resolved.requestId = request.requestId := by
  refine (marked_true _).settle (fun resolution _ => ?_) fun error => ?_
  · cases resolution with
    | none => exact marked_pure ⟨request, rfl, rfl⟩
    | some resolution => exact marked_pure ⟨request.resolved resolution, rfl, rfl⟩
  · cases error with
    | nonRetryable message code =>
        exact (marked_emitFailureResult runtime code message false).bind_any
    | llmGeneration message => exact marked_throw _
    | prismaKnownRequest code => exact marked_throw _
    | other message => exact marked_throw _

/-- Processing returns only once a result of the request was published. -/
theorem marked_processSummaryRequest (request : ParsedSummaryRequest) :
    (processSummaryRequest services runtime request).Marked (Answering request.requestId)
      fun _ => False := by
  refine (marked_create services runtime request).bind fun job resolved => ?_
  obtain ⟨resolved, rfl, same⟩ := resolved
  rw [← same]
  exact marked_execute services runtime resolved

/-! ## Acknowledged requests are answered -/

variable {ι : Type}

/-- The deliveries' discipline, with published results that stay published. -/
def publications (ι Body C : Type) (R : C → Type) :
    Discipline ι (brief Body C R) (ResultWorld Body) :=
  (deliveries ι Body C R).also (fun w w' => w.published <+: w'.published)
    (fun _ => List.prefix_refl _) fun _ _ _ => List.IsPrefix.trans

theorem Answers.published_prefix {w w' : ResultWorld Body} {c : BriefCall Body C}
    {reply : Except BriefError (c.Reply R)} (answer : Answers w c reply w') :
    w.published <+: w'.published := by
  cases answer with
  | failed => exact List.prefix_refl _
  | found => exact List.prefix_refl _
  | inserted _ => exact List.prefix_refl _
  | published => exact List.prefix_append _ _
  | external => exact List.prefix_refl _

/-- A result of the request was published. -/
def ResultWorld.Answered (w : ResultWorld Body) (requestId : String) : Prop :=
  ∃ payload, (requestId, payload) ∈ w.published

theorem ResultWorld.Answered.mono {w w' : ResultWorld Body} (answered : w.Answered requestId)
    (grown : w.published <+: w'.published) : w'.Answered requestId := by
  obtain ⟨payload, mem⟩ := answered
  exact ⟨payload, grown.subset mem⟩

/-- A delivery that returns leaves its request answered. -/
theorem yields_processSummaryRequest (i : ι) (request : ParsedSummaryRequest)
    (w : ResultWorld Body) :
    (processSummaryRequest services runtime request).Yields (publications ι Body C R) i
      (fun _ w' => w'.Answered request.requestId) w := by
  have publishes := (publishes_processSummaryRequest (i := i) (w := w) services runtime request)
  have kept : (processSummaryRequest services runtime request).Keeps (publications ι Body C R) i
      (fun outcome w' => ∀ a, outcome = .ok a → Any a w') w :=
    Keeps.also publishes fun _ _ _ _ answer => Answers.published_prefix answer
  refine (Keeps.marked (F := fun w => w.Answered request.requestId) kept
    (marked_processSummaryRequest services runtime request) ?_ ?_ ?_).mono ?_
  · exact fun _ _ answered moved => answered.mono moved.2
  · exact fun _ _ answered moved => answered.mono moved.2
  · intro c w₁ value w₂ answering answer
    obtain ⟨payload, rfl⟩ := answering
    cases answer with
    | published => exact ⟨payload, List.mem_append_right _ (List.mem_singleton_self _)⟩
  · intro outcome w' _ holds a returned
    rcases holds.2 a returned with never | answered
    · exact never.elim
    · exact answered

section Batches

variable (batches : ι → SummaryRequestBatch Body C R)

/-- A message that decodes to a request is handled once the request is answered. -/
def Handled (i : ι) (message : PipelineMessage) (w : ResultWorld Body) : Prop :=
  ∀ request, (batches i).ctx.Requests message request → w.Answered request.requestId

theorem handled_lasting : Lasting (publications ι Body C R) (Handled batches) where
  others before moved request requests := (before request requests).mono moved.2
  own before moved request requests := (before request requests).mono moved.2

theorem yields_messageProgram (i : ι) (message : PipelineMessage) (w : ResultWorld Body) :
    ((batches i).consumer.messageProgram message).Yields (publications ι Body C R) i
      (fun _ => Handled batches i message) w := by
  unfold Consumer.messageProgram
  cases valued : message.value with
  | none =>
      refine yields_pure fun _ _ _ request requests => ?_
      obtain ⟨value, present, _⟩ := requests
      rw [valued] at present
      cases present
  | some value =>
      change (handleSummaryRequest (batches i).ctx _ value).Yields _ _ _ _
      have same {request : ParsedSummaryRequest} (requests : (batches i).ctx.Requests message request) :
          deserializeSummaryRequest (batches i).ctx.api (batches i).ctx.urls
            (batches i).ctx.isTimeZone value = .ok request := by
        obtain ⟨value', present, decoded⟩ := requests
        rw [valued] at present
        cases present
        exact decoded
      unfold handleSummaryRequest
      cases decoded : deserializeSummaryRequest (batches i).ctx.api (batches i).ctx.urls
          (batches i).ctx.isTimeZone value with
      | error error =>
          refine yields_pure fun _ _ _ request requests => ?_
          have impossible := (same requests).symm.trans decoded
          cases impossible
      | ok request =>
          refine (yields_processSummaryRequest _ _ i request w).mono
            fun _ _ _ answered a returned request' requests => ?_
          have agree := (same requests).symm.trans decoded
          cases agree
          exact answered a returned

theorem handles_batches : Handles (publications ι Body C R) (fun i => (batches i).consumer)
    (Handled batches) where
  message i message _ w := yields_messageProgram batches i message w
  completed _ _ := yields_pure fun _ _ _ => trivial

variable [DecidableEq ι]

/-- Whatever the batches running side by side do and wherever their calls throw, a batch
acknowledges a prefix of its messages, and every request among the acknowledged messages has its
result stored, and that result published. -/
theorem acknowledged_requests_answered {w : ResultWorld Body} (agreed : w.Agreed)
    {last : Pool ι (consuming (brief Body C R)) BriefError Unit (Consumed ι (ResultWorld Body))}
    (steps : Pool.Steps (Consumption fun _ => Answers)
      (delivered (fun i => (batches i).consumer) w) last) (i : ι) :
    last.state.acknowledged i <+: (batches i).messages.map (·.position) ∧
    ∀ message ∈ (batches i).messages.take (last.state.acknowledged i).length, ∀ request,
      (batches i).ctx.Requests message request →
        ∃ row, last.state.shared.row request.requestId = some row ∧
          (request.requestId, row.result) ∈ last.state.shared.published := by
  obtain ⟨agreed', settled⟩ := (handles_batches batches).settled (handled_lasting batches) agreed steps
  obtain ⟨acknowledged, handled⟩ := settled i
  refine ⟨acknowledged, fun message mem request requests => ?_⟩
  obtain ⟨payload, published⟩ := handled message mem request requests
  have consistent : last.state.shared.Agreed := agreed'
  obtain ⟨row, found, rfl⟩ := consistent.row_eq_some (consistent.stored _ _ published)
  exact ⟨row, found, published⟩

end Batches

/-- A request without topics, as JSON. -/
def dailyRequestJson : Js.Json :=
  .object [("request_id", .string "request-1"), ("requested_at", .string "2024-01-01T00:00:00.000Z"),
    ("type", .string "daily")]

def dailyRequestMessage : PipelineMessage where
  value := some dailyRequestJson.print.toUTF8
  position := "0"

/-- A batch of that request, for a budget that refuses. -/
def dailyRequestBatch : SummaryRequestBatch Unit Empty fun _ => Unit where
  ctx := {
    api := Js.messagesFor dailyRequestJson
    urls := Js.plainUrls
    isTimeZone := fun _ => false
    services := refusing
    runtime := fun _ => (twice false).runtime }
  batch := { topic := "summary-requests", partition := 0, highWatermark := "1" }
  messages := [dailyRequestMessage]

def dailyRequest : ParsedSummaryRequest :=
  { ParsedSummaryRequest.empty "request-1" with requestedAt := 1704067200000 }

theorem dailyRequestMessage_requests :
    dailyRequestBatch.ctx.Requests dailyRequestMessage dailyRequest := by
  have parsed : dailyRequestBatch.ctx.api.parse dailyRequestJson.print = .ok dailyRequestJson :=
    Js.messagesFor_roundTrips dailyRequestJson
  refine ⟨_, rfl, ?_⟩
  unfold deserializeSummaryRequest
  rw [MessageApi.toText_toUTF8, parsed]
  rfl

theorem dailyRequest_runs :
    (processSummaryRequest refusing (twice false).runtime dailyRequest).Runs Answers ⟨[], []⟩
      (.ok ()) (refusedWorld 1) := by
  refine .await (r := .ok none) .found ?_
  refine .await (r := .ok ()) (.inserted rfl) ?_
  refine .await (r := .ok ()) Answers.published ?_
  exact .done

theorem dailyRequestBatch_runs :
    dailyRequestBatch.consumer.processBatch.Runs (Consumption (fun _ => Answers) ())
      ⟨⟨[], []⟩, fun _ => []⟩ (.ok ())
      (Consumed.acknowledge ⟨refusedWorld 1, fun _ => []⟩ () "0") := by
  have run : (dailyRequestBatch.consumer.messageProgram dailyRequestMessage).Runs Answers
      ⟨[], []⟩ (.ok ()) (refusedWorld 1) := by
    obtain ⟨value, present, decoded⟩ := dailyRequestMessage_requests
    unfold Consumer.messageProgram
    rw [present]
    change (handleSummaryRequest dailyRequestBatch.ctx _ value).Runs Answers _ _ _
    unfold handleSummaryRequest
    rw [decoded]
    exact dailyRequest_runs
  exact Consumer.runs_single (H := fun _ => Answers) (i := ()) rfl rfl rfl _ run

theorem acknowledged_requests_answered_daily :
    ["0"] <+: ["0"] ∧
    ∀ message ∈ [dailyRequestMessage], ∀ request,
      dailyRequestBatch.ctx.Requests message request →
        ∃ row, (refusedWorld 1).row request.requestId = some row ∧
          (request.requestId, row.result) ∈ (refusedWorld 1).published := by
  have steps : Pool.Steps (Consumption fun _ => Answers)
      (delivered (fun _ : Unit => dailyRequestBatch.consumer) ⟨[], []⟩) _ :=
    Pool.Steps.of_runs (i := ()) dailyRequestBatch_runs
  exact acknowledged_requests_answered (w := ⟨[], []⟩) (fun _ => dailyRequestBatch)
    ⟨List.nodup_nil, by simp⟩ steps ()

end RisingIntelligence.Brief
