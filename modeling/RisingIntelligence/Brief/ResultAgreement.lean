import RisingIntelligence.Async.Interleaving
import RisingIntelligence.Brief.Orchestrator
import Mathlib.Data.List.Nodup

/-!
# Agreement of published results with stored results

Any number of deliveries of summary requests run `processSummaryRequest` against one result
table and one results topic.  The table inserts a row only where its `request_id` is absent;
every call may throw, before its effect or after it.

`deliveries_agree`: the table only grows, holds one row for each request, and everything ever
published under a request id is the payload of its row.
-/

namespace RisingIntelligence.Brief

open Async Program

variable {Body C : Type} {R : C → Type}

/-! ## The store and the topic -/

/-- The rows of `brief_results` in order of insertion and everything published so far. -/
structure ResultWorld (Body : Type) where
  rows : List (BriefResultRow Body)
  published : List (String × BriefResultPayload Body)

namespace ResultWorld

def row (w : ResultWorld Body) (requestId : String) : Option (BriefResultRow Body) :=
  w.rows.find? fun row => row.requestId = requestId

def insert (w : ResultWorld Body) (row : BriefResultRow Body) : ResultWorld Body :=
  { w with rows := w.rows ++ [row] }

def publish (w : ResultWorld Body) (requestId : String) (payload : BriefResultPayload Body) :
    ResultWorld Body :=
  { w with published := w.published ++ [(requestId, payload)] }

/-- A row of the request holds the payload. -/
def Stored (w : ResultWorld Body) (requestId : String) (payload : BriefResultPayload Body) :
    Prop :=
  ∃ row ∈ w.rows, row.requestId = requestId ∧ row.result = payload

/-- One row for each request, and nothing published that is not stored. -/
structure Agreed (w : ResultWorld Body) : Prop where
  unique : (w.rows.map (·.requestId)).Nodup
  stored : ∀ requestId payload, (requestId, payload) ∈ w.published → w.Stored requestId payload

end ResultWorld

/-- What the calls of request processing may answer.  `failed` is a call that throws before its
effect, also the insert of a row that is there. -/
inductive Answers : Handler (brief Body C R) (ResultWorld Body)
  | failed {w : ResultWorld Body} {c : BriefCall Body C} {error : BriefError} :
    Answers w c (.error error) w
  | found {w : ResultWorld Body} {requestId : String} :
    Answers w (.findResult requestId) (.ok (w.row requestId)) w
  | inserted {w : ResultWorld Body} {row : BriefResultRow Body} {reply : Except BriefError Unit} :
    w.row row.requestId = none → Answers w (.createResult row) reply (w.insert row)
  | published {w : ResultWorld Body} {requestId : String} {payload : BriefResultPayload Body}
      {reply : Except BriefError Unit} :
    Answers w (.publishResult requestId payload) reply (w.publish requestId payload)
  | external {w : ResultWorld Body} {c : C} {reply : R c} :
    Answers w (.external c) (.ok reply) w

namespace ResultWorld

variable {w w' : ResultWorld Body} {requestId : String} {payload : BriefResultPayload Body}

theorem Stored.mono (stored : w.Stored requestId payload) (grown : w.rows <+: w'.rows) :
    w'.Stored requestId payload := by
  obtain ⟨row, mem, same⟩ := stored
  exact ⟨row, grown.subset mem, same⟩

theorem mem_of_row_eq_some {row : BriefResultRow Body} (found : w.row requestId = some row) :
    row ∈ w.rows ∧ row.requestId = requestId := by
  refine ⟨List.mem_of_find?_eq_some found, ?_⟩
  simpa using List.find?_some found

theorem notMem_of_row_eq_none (absent : w.row requestId = none) :
    requestId ∉ w.rows.map (·.requestId) := by
  have none_matches := List.find?_eq_none.1 absent
  simpa using none_matches

/-- The row of a request is the one that holds the stored payload. -/
theorem Agreed.row_eq_some (agreed : w.Agreed) (stored : w.Stored requestId payload) :
    ∃ row, w.row requestId = some row ∧ row.result = payload := by
  obtain ⟨row, mem, rfl, rfl⟩ := stored
  cases found : w.row row.requestId with
  | none => exact absurd (List.mem_map_of_mem mem) (notMem_of_row_eq_none found)
  | some other =>
      obtain ⟨mem', same⟩ := mem_of_row_eq_some found
      exact ⟨other, rfl, congrArg _ (List.inj_on_of_nodup_map agreed.unique mem' mem same)⟩

theorem Agreed.filter_length_le_one (agreed : w.Agreed) (requestId : String) :
    (w.rows.filter fun row => row.requestId = requestId).length ≤ 1 := by
  have counted := List.nodup_iff_count_le_one.1 agreed.unique requestId
  rw [List.count_eq_countP, List.countP_map, List.countP_eq_length_filter] at counted
  have same_filter : ((fun id => id == requestId) ∘ fun row : BriefResultRow Body => row.requestId) =
      fun row => decide (row.requestId = requestId) := by
    funext row
    exact beq_eq_decide _ _
  rwa [same_filter] at counted

theorem Agreed.insert {row : BriefResultRow Body} (agreed : w.Agreed)
    (absent : w.row row.requestId = none) : (w.insert row).Agreed where
  unique := by
    have fresh := notMem_of_row_eq_none absent
    simpa [ResultWorld.insert, List.nodup_append, agreed.unique] using
      fun other mem same => fresh (List.mem_map.2 ⟨other, mem, same⟩)
  stored requestId payload mem :=
    (agreed.stored requestId payload mem).mono (List.prefix_append _ _)

theorem Agreed.publish (agreed : w.Agreed) (stored : w.Stored requestId payload) :
    (w.publish requestId payload).Agreed where
  unique := agreed.unique
  stored requestId' payload' mem := by
    rcases List.mem_append.1 mem with before | new
    · exact agreed.stored requestId' payload' before
    · obtain ⟨rfl, rfl⟩ : requestId' = requestId ∧ payload' = payload := by simpa using new
      exact stored

end ResultWorld

/-! ## One delivery -/

/-- What is published has to be stored at that moment. -/
def Publishable (c : BriefCall Body C) (w : ResultWorld Body) : Prop :=
  match c with
  | .publishResult requestId payload => w.Stored requestId payload
  | _ => True

/-- Every step keeps the agreement and only adds rows, as long as what it publishes is stored. -/
theorem Answers.kept {w w' : ResultWorld Body} {c : BriefCall Body C}
    {reply : Except BriefError (c.Reply R)} (answer : Answers w c reply w') (agreed : w.Agreed)
    (publishable : Publishable c w) : w.rows <+: w'.rows ∧ w'.Agreed := by
  cases answer with
  | failed => exact ⟨List.prefix_refl _, agreed⟩
  | found => exact ⟨List.prefix_refl _, agreed⟩
  | inserted absent => exact ⟨List.prefix_append _ _, agreed.insert absent⟩
  | published => exact ⟨List.prefix_refl _, agreed.publish publishable⟩
  | external => exact ⟨List.prefix_refl _, agreed⟩

/-- Deliveries rely on nothing but a table that only grows. -/
def deliveries (ι Body C : Type) (R : C → Type) :
    Discipline ι (brief Body C R) (ResultWorld Body) where
  handler _ := Answers
  inv := ResultWorld.Agreed
  rely _ w w' := w.rows <+: w'.rows
  guarantee _ w w' := w.rows <+: w'.rows
  atCall _ := Publishable
  rely_refl _ w := List.prefix_refl w.rows
  rely_trans first second := first.trans second
  compatible _ grown := grown

variable {ι ε ε' α β : Type} {i : ι} {w : ResultWorld Body}

/-- From `w` on, the delivery publishes only what is stored, and a value it returns satisfies
`Q`. -/
abbrev Publishes (i : ι) (p : Program (brief Body C R) ε α) (Q : α → ResultWorld Body → Prop)
    (w : ResultWorld Body) : Prop :=
  p.Yields (deliveries ι Body C R) i Q w

/-- No condition on the value. -/
def Any (_ : α) (_ : ResultWorld Body) : Prop := True

theorem publishes_any (a : α) : Publishes i (pure a : Program (brief Body C R) ε α) Any w :=
  yields_pure fun _ _ _ => trivial

/-- What is stored stays so during a program. -/
theorem Publishes.stored {p : Program (brief Body C R) ε α} {requestId : String}
    {payload : BriefResultPayload Body} {Q : α → ResultWorld Body → Prop}
    (publishes : Publishes i p Q w) (stored : w.Stored requestId payload) :
    Publishes i p (fun a w' => Q a w' ∧ w'.Stored requestId payload) w :=
  Yields.frame publishes stored (fun _ _ holds grown => holds.mono grown)
    fun _ _ holds grown => holds.mono grown

/-- One call, publishable whenever it is made. -/
theorem publishes_await (c : BriefCall Body C) {Q : c.Reply R → ResultWorld Body → Prop}
    (publishable : ∀ w', w.rows <+: w'.rows → Publishable c w')
    (post : ∀ w₁ w₂ w₃ value, Answers (R := R) w₁ c (.ok value) w₂ → w₂.rows <+: w₃.rows →
      Q value w₃) :
    Publishes i (await c : BriefProgram Body C R _) Q w := by
  refine yields_call fun w₁ grown agreed => ⟨publishable w₁ grown, fun reply w₂ answer => ?_⟩
  obtain ⟨grown', agreed'⟩ := answer.kept agreed (publishable w₁ grown)
  refine ⟨grown', agreed', fun value w₃ same later => ?_⟩
  subst same
  exact post w₁ w₂ w₃ value answer later

theorem publishes_publishResult {requestId : String} {payload : BriefResultPayload Body}
    (stored : w.Stored requestId payload) :
    Publishes i (await (.publishResult requestId payload) : BriefProgram Body C R _) Any w :=
  publishes_await _ (fun _ grown => stored.mono grown) fun _ _ _ _ _ _ => trivial

/-- Budget, query-mode and generation calls neither store nor publish. -/
theorem publishes_run (p : ExternalProgram C R α) :
    Publishes i (run p : BriefProgram Body C R α) Any w := by
  induction p generalizing w with
  | done outcome => exact fun _ _ _ _ _ => trivial
  | await c next ih =>
      intro w₁ _ agreed
      refine ⟨trivial, fun reply w₂ answer => ?_⟩
      obtain ⟨grown, agreed'⟩ := answer.kept agreed trivial
      exact ⟨grown, agreed', ih reply⟩

theorem publishes_findResult (requestId : String) :
    Publishes i (await (.findResult requestId) : BriefProgram Body C R _)
      (fun existing w' => ∀ row, existing = some row → w'.Stored requestId row.result) w := by
  refine publishes_await _ (fun _ _ => trivial) fun w₁ w₂ w₃ existing answer grown row same => ?_
  cases answer with
  | found =>
      obtain ⟨mem, keyed⟩ := ResultWorld.mem_of_row_eq_some same
      exact ⟨row, grown.subset mem, keyed, rfl⟩

theorem publishes_createResult (row : BriefResultRow Body) :
    Publishes i (await (.createResult row) : BriefProgram Body C R _)
      (fun _ w' => w'.Stored row.requestId row.result) w := by
  refine publishes_await _ (fun _ _ => trivial) fun w₁ w₂ w₃ _ answer grown => ?_
  cases answer with
  | inserted absent =>
      exact ⟨row, grown.subset (List.mem_append_right _ (List.mem_singleton_self row)), rfl, rfl⟩

/-! ### The result store -/

theorem parseBriefResultPayload_eq {isIsoDatetime : String → Bool}
    {payload payload' : BriefResultPayload Body}
    (parsed : parseBriefResultPayload isIsoDatetime payload = .ok payload') : payload' = payload := by
  simp only [parseBriefResultPayload] at parsed
  split at parsed
  · cases parsed
  split at parsed
  · cases parsed
  split at parsed
  · exact (Except.ok.inj parsed).symm
  split at parsed
  · cases parsed
  split at parsed
  · cases parsed
  · exact (Except.ok.inj parsed).symm

theorem publishes_load (isIsoDatetime : String → Bool) (requestId : String) :
    Publishes i (load isIsoDatetime requestId : BriefProgram Body C R _)
      (fun existing w' => ∀ stored, existing = some stored → w'.Stored requestId stored.payload)
      w := by
  refine (publishes_findResult requestId).bind fun existing w' found => ?_
  cases existing with
  | none => exact yields_pure fun _ _ _ stored same => by cases same
  | some row =>
      have held := found row rfl
      cases parsed : parseBriefResultPayload isIsoDatetime row.result with
      | error error => simpa only [parsed] using yields_throw _ _ _
      | ok payload =>
          obtain rfl := parseBriefResultPayload_eq parsed
          simp only [parsed]
          refine yields_pure fun w'' grown _ stored same => ?_
          cases same
          exact held.mono grown

theorem publishes_persist (payload : BriefResultPayload Body) (status : BriefStatus) :
    Publishes i (persist payload status : BriefProgram Body C R _)
      (fun outcome w' => outcome = .created → w'.Stored payload.requestId payload) w := by
  refine (publishes_createResult _).settle (fun _ w' created => ?_) fun error w' => ?_
  · exact yields_pure fun w'' grown _ _ => created.mono grown
  · by_cases duplicate : error.isDuplicateKey = true
    · simp only [duplicate, if_true]
      exact yields_pure fun _ _ _ same => by cases same
    · simp only [duplicate]
      exact yields_throw _ _ _

theorem publishes_republishPersistedResult (isIsoDatetime : String → Bool) (requestId : String) :
    Publishes i (republishPersistedResult isIsoDatetime requestId : BriefProgram Body C R _)
      Any w := by
  refine (publishes_load isIsoDatetime requestId).bind fun existing w' held => ?_
  cases existing with
  | none => exact publishes_any _
  | some stored =>
      exact (publishes_publishResult (held stored rfl)).bind fun _ _ _ =>
        publishes_any _

/-! ### Failures -/

theorem publishes_emitFailureResult (runtime : Runtime) (requestId code message : String)
    (retryable : Bool) :
    Publishes i (emitFailureResult runtime requestId code message retryable :
      BriefProgram Body C R Unit) Any w := by
  refine (publishes_persist _ _).bind fun persisted w' held => ?_
  cases persisted with
  | created => exact publishes_publishResult (held rfl)
  | duplicate =>
      refine (publishes_republishPersistedResult _ _).bind fun status _ _ => ?_
      cases status with
      | none => exact yields_throw _ _ _
      | some _ => exact publishes_any _

theorem publishes_handleSummaryRequestFailure (runtime : Runtime) (requestId : String)
    (persistedCreated : Bool) (error : BriefError) :
    Publishes i (handleSummaryRequestFailure runtime requestId persistedCreated error :
      BriefProgram Body C R _) Any w := by
  have rethrown : Publishes i (pure FailureHandlerOutcome.rethrow : BriefProgram Body C R _) Any w :=
    publishes_any _
  have emitted (code message : String) (retryable : Bool) :
      Publishes i (do emitFailureResult runtime requestId code message retryable; pure FailureHandlerOutcome.handled :
        BriefProgram Body C R _) Any w :=
    (publishes_emitFailureResult runtime requestId code message retryable).bind fun _ _ _ =>
      publishes_any _
  cases error with
  | nonRetryable message code => exact emitted code message false
  | llmGeneration message =>
      cases persistedCreated with
      | true => exact rethrown
      | false => exact emitted _ message true
  | prismaKnownRequest code => exact rethrown
  | other message => exact rethrown

/-! ### The orchestrator -/

variable (services : BriefServices Body C R) (runtime : Runtime)

/-- Attaching the variables to an error changes no call. -/
theorem Publishes.failingIn {state : ExecutionState} {p : BriefProgram Body C R α}
    {Q Q' : α → ResultWorld Body → Prop} (publishes : Publishes i p Q w)
    (stable : ∀ a w w', Q a w → w.rows <+: w'.rows → Q' a w') :
    Publishes i (failingIn state p) Q' w :=
  Yields.settle publishes
    (fun a w' holds => yields_pure fun w'' grown _ => stable a w' w'' holds grown)
    fun _ _ => yields_throw _ _ _

theorem publishes_buildSuccessResult (request : ParsedSummaryRequest) (estimatedCostUsd : ℚ) :
    Publishes i (buildSuccessResult services runtime request estimatedCostUsd)
      (fun result _ => result.payload.requestId = request.requestId) w :=
  (publishes_run _).bind fun _ _ _ => yields_pure fun _ _ _ => rfl

theorem publishes_settleReservation (decision : BriefBudgetDecision) (costUsd : ℚ) :
    Publishes i (settleReservation services decision costUsd) Any w := by
  unfold settleReservation
  split
  · refine Yields.tryCatch (Q := Any) ?_ (fun _ _ _ _ _ => trivial) fun _ _ =>
      publishes_any _
    exact (publishes_run _).bind fun _ _ _ => publishes_any _
  · exact publishes_any _

theorem publishes_republishDuplicate (requestId : String) (decision : BriefBudgetDecision) :
    Publishes i (republishDuplicate services runtime requestId decision) Any w := by
  refine ((publishes_run _).failingIn fun _ _ _ _ _ => trivial).bind (Q := Any) fun _ _ _ => ?_
  refine ((publishes_republishPersistedResult _ _).failingIn fun _ _ _ _ _ => trivial).bind
    (Q := Any) fun status _ _ => ?_
  cases status with
  | none => exact yields_throw _ _ _
  | some _ => exact publishes_any _

theorem publishes_generateAndPublish (request : ParsedSummaryRequest) (estimatedCostUsd : ℚ)
    (decision : BriefBudgetDecision) :
    Publishes i (generateAndPublish services runtime request estimatedCostUsd decision) Any w := by
  refine ((publishes_buildSuccessResult services runtime request estimatedCostUsd).failingIn
    fun _ _ _ same _ => same).bind fun result w₁ same_id => ?_
  refine ((publishes_persist result.payload .success).failingIn
    fun _ _ _ held grown created => (held created).mono grown).bind fun persisted w₂ held => ?_
  cases persisted with
  | duplicate => exact publishes_republishDuplicate services runtime request.requestId decision
  | created =>
      have stored := held rfl
      rw [same_id] at stored
      refine Publishes.failingIn (Q := Any) ?_ fun _ _ _ _ _ => trivial
      exact ((publishes_settleReservation services decision _).stored stored).bind fun _ _ held =>
        publishes_publishResult held.2

theorem publishes_releaseUndisposed (state : ExecutionState) :
    Publishes i (releaseUndisposed services state) Any w := by
  have nothing : Publishes i (pure () : BriefProgram Body C R Unit) Any w :=
    publishes_any _
  unfold releaseUndisposed
  cases state.budgetDecision with
  | none => exact nothing
  | some decision =>
      dsimp only
      split
      · exact (publishes_run _).bind fun _ _ _ => publishes_any _
      · exact nothing

theorem publishes_handleExecutionFailure (requestId : String) (failure : ExecutionFailure) :
    Publishes i (handleExecutionFailure services runtime requestId failure) Any w := by
  refine (publishes_releaseUndisposed services failure.state).bind fun _ _ _ => ?_
  refine (publishes_handleSummaryRequestFailure runtime requestId _ _).bind fun outcome _ _ => ?_
  cases outcome with
  | handled => exact publishes_any _
  | rethrow => exact yields_throw _ _ _

theorem publishes_execute (request : ParsedSummaryRequest) :
    Publishes i (execute services runtime request) Any w := by
  refine (publishes_load _ _).bind fun existing w₁ held => ?_
  cases existing with
  | some stored => exact publishes_publishResult (held stored rfl)
  | none =>
      refine (publishes_run _).bind fun decision w₂ _ => ?_
      unfold executeDecided
      split
      · exact (publishes_generateAndPublish services runtime request _ decision).tryCatch (fun _ _ _ _ _ => trivial)
          fun failure _ => publishes_handleExecutionFailure services runtime request.requestId failure
      · exact publishes_emitFailureResult runtime request.requestId _ _ _

theorem publishes_create (request : ParsedSummaryRequest) :
    Publishes i (create services runtime request) Any w := by
  refine (publishes_run _).settle (fun resolved w' _ => ?_) fun error w' => ?_
  · cases resolved with
    | none => exact publishes_any _
    | some resolution => exact publishes_any _
  · cases error with
    | nonRetryable message code =>
        exact (publishes_emitFailureResult runtime request.requestId code message false).bind
          fun _ _ _ => publishes_any _
    | llmGeneration message => exact yields_throw _ _ _
    | prismaKnownRequest code => exact yields_throw _ _ _
    | other message => exact yields_throw _ _ _

/-- A delivery, wherever it throws, publishes only what is stored at that moment. -/
theorem publishes_processSummaryRequest (request : ParsedSummaryRequest) :
    Publishes i (processSummaryRequest services runtime request) Any w := by
  refine (publishes_create services runtime request).bind fun job w' _ => ?_
  cases job with
  | none => exact publishes_any _
  | some request => exact publishes_execute services runtime request

/-! ## Any number of deliveries -/

/-- One delivery of a summary request. -/
structure Delivery (Body C : Type) (R : C → Type) where
  services : BriefServices Body C R
  runtime : Runtime
  request : ParsedSummaryRequest

abbrev DeliveryPool (ι Body C : Type) (R : C → Type) : Type :=
  Pool ι (brief Body C R) BriefError Unit (ResultWorld Body)

/-- The deliveries before their first step. -/
def arrived (delivery : ι → Delivery Body C R) (w : ResultWorld Body) : DeliveryPool ι Body C R where
  threads i :=
    processSummaryRequest (delivery i).services (delivery i).runtime (delivery i).request
  state := w

theorem arrived_kept {delivery : ι → Delivery Body C R} (agreed : w.Agreed) :
    (arrived delivery w).Kept (deliveries ι Body C R) fun _ outcome w' =>
      ∀ a, outcome = .ok a → Any a w' :=
  ⟨agreed, fun _ => publishes_processSummaryRequest _ _ _⟩

variable [DecidableEq ι]

/-- Between any two moments the table only grows, and at any moment it has one row for each
request and holds the payload of everything published so far. -/
theorem deliveries_agree {delivery : ι → Delivery Body C R} {middle last : DeliveryPool ι Body C R}
    (agreed : w.Agreed)
    (before : Pool.Steps (fun _ => Answers) (arrived delivery w) middle)
    (after : Pool.Steps (fun _ => Answers) middle last) :
    middle.state.rows <+: last.state.rows ∧
    (∀ requestId,
      (last.state.rows.filter fun row => row.requestId = requestId).length ≤ 1) ∧
    ∀ requestId payload, (requestId, payload) ∈ last.state.published →
      ∃ row, last.state.row requestId = some row ∧ row.result = payload := by
  have middle_kept := Pool.Steps.kept (D := deliveries ι Body C R) before (arrived_kept agreed)
  have last_kept := Pool.Steps.kept (D := deliveries ι Body C R) after middle_kept
  refine ⟨?_, ?_, ?_⟩
  · exact Pool.Steps.related (D := deliveries ι Body C R) (P := fun w w' => w.rows <+: w'.rows)
      after middle_kept (fun w => List.prefix_refl w.rows) List.IsPrefix.trans
      fun _ _ _ grown => grown
  · exact last_kept.1.filter_length_le_one
  · exact fun requestId payload mem =>
      last_kept.1.row_eq_some (last_kept.1.stored requestId payload mem)

/-- Services over no calls at all; the budget refuses. -/
def refusing : BriefServices Unit Empty fun _ => Unit where
  authorize input := pure {
    authorized := false
    dateKey := input.dateKey
    dailyBudgetUsd := input.dailyBudgetUsd
    reservedCostUsd := input.estimatedCostUsd
    spentUsd := 0 }
  rollback _ := pure 0
  settle _ _ := pure 0
  resolve _ := pure none
  generate _ _ := throw (.other "not reached")

/-- The request delivered at two times. -/
def twice (again : Bool) : Delivery Unit Empty fun _ => Unit where
  services := refusing
  runtime := {
    toLowerCase := id
    isIsoDatetime := fun _ => true
    producedAt := if again then "2026-01-01T00:05:00.000Z" else "2026-01-01T00:00:00.000Z"
    llmDailyBudgetUsd := .finite 0 }
  request := .empty "request-1"

/-- What the first delivery stores and both publish. -/
def refusedPayload : BriefResultPayload Unit :=
  buildFailureBriefResultPayload "request-1" "2026-01-01T00:00:00.000Z" "budget_exceeded"
    "Daily brief budget exceeded" false

def refusedWorld (published : Nat) : ResultWorld Unit where
  rows := [⟨"request-1", "2026-01-01T00:00:00.000Z", .failure, refusedPayload⟩]
  published := List.replicate published ("request-1", refusedPayload)

theorem refused_runs :
    (processSummaryRequest refusing (twice false).runtime (.empty "request-1")).Runs Answers ⟨[], []⟩
      (.ok ()) (refusedWorld 1) := by
  refine .await (r := .ok none) .found ?_
  refine .await (r := .ok ()) (.inserted rfl) ?_
  refine .await (r := .ok ()) Answers.published ?_
  exact .done

theorem republished_runs :
    (processSummaryRequest refusing (twice true).runtime (.empty "request-1")).Runs Answers
      (refusedWorld 1) (.ok ()) (refusedWorld 2) := by
  refine .await (r := .ok ((refusedWorld 1).row "request-1")) .found ?_
  refine .await (r := .ok ()) Answers.published ?_
  exact .done

theorem deliveries_agree_twice :
    [] <+: (refusedWorld 2).rows ∧
    (∀ requestId,
      ((refusedWorld 2).rows.filter fun row => row.requestId = requestId).length ≤ 1) ∧
    ∀ requestId payload, (requestId, payload) ∈ (refusedWorld 2).published →
      ∃ row, (refusedWorld 2).row requestId = some row ∧ row.result = payload := by
  have first : Pool.Steps (fun _ => Answers) (arrived twice ⟨[], []⟩) _ :=
    Pool.Steps.of_runs (i := false) refused_runs
  have both := first.trans (Pool.Steps.of_runs (i := true) republished_runs)
  exact deliveries_agree (w := ⟨[], []⟩) ⟨List.nodup_nil, by simp⟩ .refl both

end RisingIntelligence.Brief
