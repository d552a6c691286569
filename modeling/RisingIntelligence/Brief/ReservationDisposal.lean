import RisingIntelligence.Brief.Orchestrator
import Mathlib.Tactic.Linarith

/-!
# Disposal of a reservation

What a run of `execute` does with a reservation that its `authorize` granted.  The services are
those over the ledger, each statement tagged with the governor operation it belongs to, so that
the statements of a rollback can be told apart.  Every statement, store, publish and generation
call may succeed, throw before its effect or throw after it.

`marks` is what a trace says about the reservation; a program `Leaves` such marks, and
`disposed_iff` says for exactly which runs of `execute` the release took effect as often as it
should.
-/

namespace RisingIntelligence.Brief

open Async Program List

/-! ## Services over the ledger -/

/-- The calls of the services: the statements of each governor operation, and those of
query-mode resolution and generation. -/
inductive GovernorCall (G : Type) : Type
  | authorize (c : LedgerCall)
  | rollback (c : LedgerCall)
  | settle (c : LedgerCall)
  | other (c : G)

@[reducible] def GovernorCall.Reply {G : Type} (R : G → Type) : GovernorCall G → Type
  | .authorize c | .rollback c | .settle c => c.Reply
  | .other c => R c

variable {Body G : Type} {R : G → Type}

def authorizing (R : G → Type) :
    Embedding ledger (external (GovernorCall G) (GovernorCall.Reply R)) where
  call := .authorize
  reply _ reply := reply

def rollingBack (R : G → Type) :
    Embedding ledger (external (GovernorCall G) (GovernorCall.Reply R)) where
  call := .rollback
  reply _ reply := reply

def settling (R : G → Type) :
    Embedding ledger (external (GovernorCall G) (GovernorCall.Reply R)) where
  call := .settle
  reply _ reply := reply

def others (R : G → Type) :
    Embedding (external G R) (external (GovernorCall G) (GovernorCall.Reply R)) where
  call := .other
  reply _ reply := reply

/-- The governor over `createBriefBudgetLedger`, with any query-mode resolution and any
generation. -/
def governed
    (resolve : ParsedSummaryRequest → ExternalProgram G R (Option QueryModeResolution))
    (generate : ParsedSummaryRequest → ℚ → ExternalProgram G R (Body × SuccessMetrics)) :
    BriefServices Body (GovernorCall G) (GovernorCall.Reply R) where
  authorize input := (authorize input).embed (authorizing R)
  rollback decision := (rollback decision).embed (rollingBack R)
  settle decision actualCostUsd := (settle decision actualCostUsd).embed (settling R)
  resolve request := (resolve request).embed (others R)
  generate request estimatedCostUsd := (generate request estimatedCostUsd).embed (others R)

abbrev GovernedCall (Body G : Type) : Type := BriefCall Body (GovernorCall G)

abbrev GovernedProgram (Body G : Type) (R : G → Type) (ε α : Type) : Type :=
  Program (brief Body (GovernorCall G) (GovernorCall.Reply R)) ε α

/-! ## Observing a run -/

/-- A call of a run, its reply, and whether it took effect. -/
structure Observed (Body G : Type) (R : G → Type) where
  call : GovernedCall Body G
  reply : Except BriefError (call.Reply (GovernorCall.Reply R))
  applied : Bool

/-- A call that answered took effect, an `updateMany` if it matched a row. -/
def takesEffect : (c : GovernedCall Body G) → c.Reply (GovernorCall.Reply R) → Bool
  | .external (.rollback (.decrementRow ..)), count => decide (count ≠ 0)
  | .external (.rollback (.clampRow _)), count => decide (count ≠ 0)
  | _, _ => true

/-- A call that threw may have taken effect or not. -/
def Observed.Possible (observed : Observed Body G R) : Prop :=
  ∀ value, observed.reply = .ok value → observed.applied = takesEffect observed.call value

/-- Every outcome of every call, recorded. -/
def observing :
    Handler (brief Body (GovernorCall G) (GovernorCall.Reply R)) (List (Observed Body G R)) :=
  fun trace c reply trace' =>
    ∃ applied, Observed.Possible ⟨c, reply, applied⟩ ∧ trace' = trace ++ [⟨c, reply, applied⟩]

/-- What a call has to do with the reservation; `reported` says that it did not throw. -/
inductive Mark : Type
  /-- The success row was inserted. -/
  | inserted (reported : Bool)
  /-- A release took effect. -/
  | released (reported : Bool)
  /-- A statement of a rollback threw without effect. -/
  | interrupted
  /-- A rollback found no tracking row. -/
  | missed
  deriving DecidableEq

/-- The mark of a statement of a rollback.  Its cache write never makes it throw. -/
def rollbackMark : (c : LedgerCall) → Except BriefError c.Reply → Bool → Option Mark
  | .decrementRow .., .ok _, applied => if applied then some (.released true) else none
  | .clampRow _, .ok _, applied => some (if applied then .released true else .missed)
  | .decrementRow .., .error _, applied | .clampRow _, .error _, applied =>
      some (if applied then .released false else .interrupted)
  | .findRow _, .error _, _ => some .interrupted
  | _, _, _ => none

def Observed.mark : Observed Body G R → Option Mark
  | ⟨.createResult row, .ok _, applied⟩ =>
      if row.status = .success ∧ applied then some (.inserted true) else none
  | ⟨.createResult row, .error _, applied⟩ =>
      if row.status = .success ∧ applied then some (.inserted false) else none
  | ⟨.external (.rollback c), reply, applied⟩ => rollbackMark c reply applied
  | _ => none

def marks (trace : List (Observed Body G R)) : List Mark := trace.filterMap Observed.mark

/-! ## Exactly-once disposal -/

def Mark.isRelease : Mark → Bool
  | .released _ => true
  | _ => false

def Mark.isInsert : Mark → Bool
  | .inserted _ => true
  | _ => false

/-- A statement of a rollback threw. -/
def Mark.isThrow : Mark → Bool
  | .released reported => !reported
  | .interrupted => true
  | _ => false

/-- The marks of a run that disposes of its reservation once. -/
structure DisposedOnce (marks : List Mark) : Prop where
  at_most_once : marks.countP Mark.isRelease ≤ 1
  not_after_success : marks.any Mark.isInsert → marks.countP Mark.isRelease = 0
  released : ¬marks.any Mark.isInsert → ¬marks.any Mark.isThrow →
    marks.countP Mark.isRelease = 1

/-- The marks of a run in which the two flags of `execute` agree with the stores. -/
structure FlagsAgree (marks : List Mark) : Prop where
  /-- No release that took effect in a rollback that threw is followed by another. -/
  release_reported : ∀ reported, ¬[.released false, .released reported] <+ marks ∧
    ¬[.released true, .interrupted, .released reported] <+ marks
  /-- No insert of the success row that took effect and threw is followed by a release. -/
  insert_reported : ∀ reported, ¬[.inserted false, .released reported] <+ marks
  /-- The only rollback of a run without the success row finds the row of the day. -/
  row_found : marks ≠ [.missed]

instance (marks : List Mark) : Decidable (DisposedOnce marks) :=
  decidable_of_iff
    (marks.countP Mark.isRelease ≤ 1 ∧
      (marks.any Mark.isInsert → marks.countP Mark.isRelease = 0) ∧
      (¬marks.any Mark.isInsert → ¬marks.any Mark.isThrow → marks.countP Mark.isRelease = 1))
    ⟨fun ⟨once, after, released⟩ => ⟨once, after, released⟩,
      fun disposed => ⟨disposed.1, disposed.2, disposed.3⟩⟩

instance (marks : List Mark) : Decidable (FlagsAgree marks) :=
  decidable_of_iff
    ((∀ reported, ¬[.released false, .released reported] <+ marks ∧
        ¬[.released true, .interrupted, .released reported] <+ marks) ∧
      (∀ reported, ¬[.inserted false, .released reported] <+ marks) ∧ marks ≠ [.missed])
    ⟨fun ⟨released, inserted, found⟩ => ⟨released, inserted, found⟩,
      fun agree => ⟨agree.1, agree.2, agree.3⟩⟩

/-! ## The marks a program leaves -/

variable {ε ε' α β : Type}

@[simp] theorem marks_append (first rest : List (Observed Body G R)) :
    marks (first ++ rest) = marks first ++ marks rest :=
  List.filterMap_append

/-- Every run of the program adds marks, and ends in an outcome, that satisfy `P`. -/
def Leaves (p : GovernedProgram Body G R ε α) (P : Except ε α → List Mark → Prop) : Prop :=
  ∀ trace, p.wp observing
    (fun outcome trace' => ∃ added, marks trace' = marks trace ++ added ∧ P outcome added) trace

theorem leaves_done {outcome : Except ε α} {P : Except ε α → List Mark → Prop}
    (holds : P outcome []) : Leaves (.done outcome : GovernedProgram Body G R ε α) P :=
  fun trace => ⟨[], (List.append_nil (marks trace)).symm, holds⟩

theorem Leaves.mono {p : GovernedProgram Body G R ε α} {P P' : Except ε α → List Mark → Prop}
    (leaves : Leaves p P) (weaker : ∀ outcome added, P outcome added → P' outcome added) :
    Leaves p P' :=
  fun trace => (leaves trace).mono fun _ _ ⟨added, same, holds⟩ => ⟨added, same, weaker _ _ holds⟩

theorem Leaves.settle {p : GovernedProgram Body G R ε α}
    {f : Except ε α → GovernedProgram Body G R ε' β} {P : Except ε α → List Mark → Prop}
    {Q : Except ε' β → List Mark → Prop} (first : Leaves p P)
    (rest : ∀ outcome added, P outcome added →
      Leaves (f outcome) fun outcome' added' => Q outcome' (added ++ added')) :
    Leaves (p.settle f) Q := by
  intro trace
  refine (wp_settle p f _ trace).2 ((first trace).mono ?_)
  rintro outcome middle ⟨added, same, holds⟩
  refine (rest outcome added holds middle).mono ?_
  rintro outcome' last ⟨added', same', holds'⟩
  refine ⟨added ++ added', ?_, holds'⟩
  rw [same', same, List.append_assoc]

theorem Leaves.bind {p : GovernedProgram Body G R ε α} {f : α → GovernedProgram Body G R ε β}
    {P : Except ε α → List Mark → Prop} {Q : Except ε β → List Mark → Prop} (first : Leaves p P)
    (value : ∀ a added, P (.ok a) added →
      Leaves (f a) fun outcome' added' => Q outcome' (added ++ added'))
    (error : ∀ e added, P (.error e) added → Q (.error e) added) : Leaves (p >>= f) Q := by
  refine first.settle fun outcome added holds => ?_
  cases outcome with
  | ok a => exact value a added holds
  | error e =>
      refine leaves_done ?_
      rw [List.append_nil]
      exact error e added holds

theorem leaves_await (c : GovernedCall Body G)
    {P : Except BriefError (c.Reply (GovernorCall.Reply R)) → List Mark → Prop}
    (holds : ∀ reply applied, (⟨c, reply, applied⟩ : Observed Body G R).Possible →
      P reply (marks (R := R) [⟨c, reply, applied⟩])) :
    Leaves (await c : BriefProgram Body _ _ _) P := by
  rintro trace reply trace' ⟨applied, possible, rfl⟩
  exact ⟨_, marks_append trace _, holds reply applied possible⟩

/-! ### Programs without a mark -/

/-- The call has nothing to do with the disposal. -/
def Unmarked (c : GovernedCall Body G) : Prop :=
  match c with
  | .createResult row => row.status = .failure
  | .external (.rollback _) => False
  | _ => True

theorem Unmarked.marks_eq_nil {c : GovernedCall Body G} (unmarked : Unmarked c)
    (reply : Except BriefError (c.Reply (GovernorCall.Reply R))) (applied : Bool) :
    marks (R := R) [⟨c, reply, applied⟩] = [] := by
  cases c with
  | findResult requestId => cases reply <;> rfl
  | publishResult requestId payload => cases reply <;> rfl
  | createResult row =>
      have failure : row.status = .failure := unmarked
      cases reply <;> simp [marks, Observed.mark, failure]
  | external c =>
      cases c with
      | rollback c => exact unmarked.elim
      | authorize c => cases reply <;> rfl
      | settle c => cases reply <;> rfl
      | other c => cases reply <;> rfl

/-- The program has nothing to do with the disposal. -/
def Quiet (p : GovernedProgram Body G R ε α) : Prop := p.Within Unmarked fun _ => True

theorem Quiet.leaves {p : GovernedProgram Body G R ε α} (quiet : Quiet p) :
    Leaves p fun _ added => added = [] := by
  intro trace
  have kept := wp_of_within (H := observing) (P := fun trace' => marks trace' = marks trace) quiet rfl
    fun c unmarked before reply after same step => by
      obtain ⟨applied, _, rfl⟩ := step
      rw [marks_append, unmarked.marks_eq_nil, same, List.append_nil]
  exact kept.mono fun _ _ holds => ⟨[], by rw [holds.2, List.append_nil], rfl⟩

theorem quiet_done (outcome : Except ε α) :
    Quiet (.done outcome : GovernedProgram Body G R ε α) :=
  trivial

theorem Quiet.settle {p : GovernedProgram Body G R ε α}
    {f : Except ε α → GovernedProgram Body G R ε' β} (first : Quiet p)
    (rest : ∀ outcome, Quiet (f outcome)) : Quiet (p.settle f) :=
  Within.settle first fun outcome _ => rest outcome

theorem Quiet.bind {p : GovernedProgram Body G R ε α} {f : α → GovernedProgram Body G R ε β}
    (first : Quiet p) (value : ∀ a, Quiet (f a)) : Quiet (p >>= f) :=
  Within.bind first (fun a _ => value a) fun _ _ => trivial

theorem quiet_await {c : GovernedCall Body G} (unmarked : Unmarked c) :
    Quiet (await c : BriefProgram Body _ (GovernorCall.Reply R) _) :=
  ⟨unmarked, fun _ => trivial⟩

theorem quiet_load (isIsoDatetime : String → Bool) (requestId : String) :
    Quiet (load isIsoDatetime requestId : BriefProgram Body _ (GovernorCall.Reply R) _) := by
  refine (quiet_await (c := .findResult requestId) trivial).bind fun existing => ?_
  cases existing with
  | none => exact quiet_done _
  | some row =>
      dsimp only
      split
      · exact quiet_done _
      · exact quiet_done _

theorem quiet_republishPersistedResult (isIsoDatetime : String → Bool) (requestId : String) :
    Quiet (republishPersistedResult isIsoDatetime requestId :
      BriefProgram Body _ (GovernorCall.Reply R) _) := by
  refine (quiet_load isIsoDatetime requestId).bind fun existing => ?_
  cases existing with
  | none => exact quiet_done _
  | some stored => exact Quiet.bind (quiet_await trivial) fun _ => quiet_done _

theorem quiet_persist_failure (payload : BriefResultPayload Body) :
    Quiet (persist payload .failure : BriefProgram Body _ (GovernorCall.Reply R) _) := by
  refine Quiet.settle (quiet_await rfl) fun reply => ?_
  cases reply with
  | ok _ => exact quiet_done _
  | error error =>
      dsimp only
      split
      · exact quiet_done _
      · exact quiet_done _

theorem quiet_emitFailureResult (runtime : Runtime) (requestId code message : String)
    (retryable : Bool) :
    Quiet (emitFailureResult runtime requestId code message retryable :
      BriefProgram Body _ (GovernorCall.Reply R) _) := by
  refine (quiet_persist_failure _).bind fun persisted => ?_
  cases persisted with
  | created => exact quiet_await trivial
  | duplicate =>
      refine (quiet_republishPersistedResult _ _).bind fun status => ?_
      cases status with
      | none => exact quiet_done _
      | some _ => exact quiet_done _

theorem quiet_handleSummaryRequestFailure (runtime : Runtime) (requestId : String)
    (persistedCreated : Bool) (error : BriefError) :
    Quiet (handleSummaryRequestFailure runtime requestId persistedCreated error :
      BriefProgram Body _ (GovernorCall.Reply R) _) := by
  cases error with
  | nonRetryable message code =>
      exact (quiet_emitFailureResult runtime requestId code message false).bind fun _ =>
        quiet_done _
  | llmGeneration message =>
      cases persistedCreated with
      | true => exact quiet_done _
      | false =>
          exact (quiet_emitFailureResult runtime requestId _ message true).bind fun _ =>
            quiet_done _
  | prismaKnownRequest code => exact quiet_done _
  | other message => exact quiet_done _

/-! ### One rollback -/

/-- The marks of a rollback, by how it ended. -/
inductive RolledBack {α : Type} : Except BriefError α → List Mark → Prop
  | released {a : α} : RolledBack (.ok a) [.released true]
  | missed {a : α} : RolledBack (.ok a) [.missed]
  | releasedThrew {e : BriefError} : RolledBack (.error e) [.released false]
  | releasedInterrupted {e : BriefError} : RolledBack (.error e) [.released true, .interrupted]
  | interrupted {e : BriefError} : RolledBack (.error e) [.interrupted]

/-- A ledger program of a rollback. -/
abbrev rollingBackProgram (Body : Type) (R : G → Type) (p : LedgerProgram α) :
    GovernedProgram Body G R BriefError α :=
  run (p.embed (rollingBack R))

/-- One statement of a rollback. -/
theorem leaves_statement {c : LedgerCall} {f : Except BriefError c.Reply → LedgerProgram β}
    {Q : Except BriefError β → List Mark → Prop}
    (next : ∀ reply applied,
      (⟨.external (.rollback c), reply, applied⟩ : Observed Body G R).Possible →
      Leaves (rollingBackProgram Body R (f reply)) fun outcome added =>
        Q outcome ((rollbackMark c reply applied).toList ++ added)) :
    Leaves (rollingBackProgram Body R ((statement c).settle f)) Q := by
  have called := leaves_await (R := R) (.external (.rollback c) : GovernedCall Body G)
    (P := fun reply added => ∃ applied,
      (⟨.external (.rollback c), reply, applied⟩ : Observed Body G R).Possible ∧
        added = (rollbackMark c reply applied).toList)
    fun reply applied possible => ⟨applied, possible, by
      cases reply <;> cases same : rollbackMark c _ applied <;> simp [marks, Observed.mark, same]⟩
  refine called.settle (f := fun reply => rollingBackProgram Body R (f reply)) ?_
  rintro reply added ⟨applied, possible, rfl⟩
  exact next reply applied possible

/-- Reading the spend back throws or not, and its cache write is never seen. -/
theorem leaves_readBack (dateKey : String) :
    Leaves (rollingBackProgram Body R (readBack dateKey)) fun outcome added =>
      match outcome with
      | .ok _ => added = []
      | .error _ => added = [.interrupted] := by
  refine leaves_statement fun latest applied _ => ?_
  cases latest with
  | error e => exact leaves_done rfl
  | ok latest =>
      refine leaves_statement fun written applied' _ => ?_
      cases written with
      | error e => exact leaves_done rfl
      | ok _ => exact leaves_done rfl

theorem rolledBack_readBack {dateKey : String} :
    Leaves (rollingBackProgram Body R (readBack dateKey)) fun outcome added =>
      RolledBack outcome ([.released true] ++ added) :=
  (leaves_readBack dateKey).mono fun outcome added holds => by
    cases outcome with
    | ok spent => rw [show added = [] from holds]; exact .released
    | error e => rw [show added = [.interrupted] from holds]; exact .releasedInterrupted

/-- A rollback of a positive amount takes the branch of a negative delta. -/
theorem rollback_of_reserved {decision : BriefBudgetDecision}
    (reserved : 0 < decision.reservedCostUsd) :
    rollback decision = (do
      let count ← statement (.decrementRow decision.dateKey |(-decision.reservedCostUsd)|)
      if count = 0 then do
        let clamped ← statement (.clampRow decision.dateKey)
        if clamped = 0 then pure 0 else readBack decision.dateKey
      else readBack decision.dateKey) := by
  have negative : ¬0 < -decision.reservedCostUsd := by linarith
  have nonzero : -decision.reservedCostUsd ≠ 0 := by linarith
  simp only [rollback, not_le.2 reserved, if_false, updateSpentUsd, negative, nonzero]

theorem leaves_rollback {decision : BriefBudgetDecision} (reserved : 0 < decision.reservedCostUsd) :
    Leaves (rollingBackProgram Body R (rollback decision)) RolledBack := by
  rw [rollback_of_reserved reserved]
  refine leaves_statement fun count applied possible => ?_
  cases count with
  | error e =>
      cases applied with
      | true => exact leaves_done .releasedThrew
      | false => exact leaves_done .interrupted
  | ok count =>
      have effect := possible count rfl
      by_cases matched : count = 0
      · subst matched
        obtain rfl : applied = false := effect
        simp only [onOk_ok, if_true]
        refine leaves_statement fun clamped applied' possible' => ?_
        cases clamped with
        | error e =>
            cases applied' with
            | true => exact leaves_done .releasedThrew
            | false => exact leaves_done .interrupted
        | ok clamped =>
            have effect' := possible' clamped rfl
            by_cases found : clamped = 0
            · subst found
              obtain rfl : applied' = false := effect'
              exact leaves_done .missed
            · obtain rfl : applied' = true := by simpa [takesEffect, found] using effect'
              simp only [onOk_ok, found, if_false]
              exact rolledBack_readBack
      · obtain rfl : applied = true := by simpa [takesEffect, matched] using effect
        simp only [onOk_ok, matched, if_false]
        exact rolledBack_readBack

/-! ### The orchestrator -/

/-- What the insert of the success row leaves when it does not answer that it was made. -/
def NotReported (added : List Mark) : Prop := added = [] ∨ added = [.inserted false]

/-- The marks of a run that got a reservation: the success row was made, or there was one
rollback, or the rollback of the duplicate branch threw and the `catch` block made another. -/
inductive Disposal : List Mark → Prop
  | created : Disposal [.inserted true]
  | once {added rolled : List Mark} {outcome : Except BriefError ℚ} :
    NotReported added → RolledBack outcome rolled → Disposal (added ++ rolled)
  | twice {added rolled again : List Mark} {e : BriefError} {outcome : Except BriefError ℚ} :
    NotReported added → RolledBack (α := ℚ) (.error e) rolled → RolledBack outcome again →
      Disposal (added ++ (rolled ++ again))

/-- The marks of the `try` block, by what it hands to the `catch` block. -/
inductive Tried (decision : BriefBudgetDecision) :
    Except ExecutionFailure Unit → List Mark → Prop
  | created {outcome : Except ExecutionFailure Unit}
      (state : ∀ failure, outcome = .error failure → failure.state.persistedCreated = true) :
    Tried decision outcome [.inserted true]
  | failed {error : BriefError} {added : List Mark} :
    NotReported added → Tried decision (.error ⟨error, ⟨some decision, false⟩⟩) added
  | rolledBack {outcome : Except ExecutionFailure Unit} {added rolled : List Mark} {spent : ℚ}
      (state : ∀ failure, outcome = .error failure → failure.state.budgetDecision = none) :
    NotReported added → RolledBack (.ok spent) rolled → Tried decision outcome (added ++ rolled)
  | interrupted {error e : BriefError} {added rolled : List Mark} :
    NotReported added → RolledBack (α := ℚ) (.error e) rolled →
      Tried decision (.error ⟨error, ⟨some decision, false⟩⟩) (added ++ rolled)

variable {resolve : ParsedSummaryRequest → ExternalProgram G R (Option QueryModeResolution)}
  {generate : ParsedSummaryRequest → ℚ → ExternalProgram G R (Body × SuccessMetrics)}
  {runtime : Runtime} {decision : BriefBudgetDecision}

theorem leaves_failingIn {state : ExecutionState} {p : GovernedProgram Body G R BriefError α}
    {P : Except BriefError α → List Mark → Prop} {Q : Except ExecutionFailure α → List Mark → Prop}
    (leaves : Leaves p P) (value : ∀ a added, P (.ok a) added → Q (.ok a) added)
    (error : ∀ e added, P (.error e) added → Q (.error ⟨e, state⟩) added) :
    Leaves (failingIn state p) Q := by
  refine leaves.settle fun outcome added holds => ?_
  cases outcome with
  | ok a =>
      refine leaves_done ?_
      rw [List.append_nil]
      exact value a added holds
  | error e =>
      refine leaves_done ?_
      rw [List.append_nil]
      exact error e added holds

theorem leaves_failingIn_quiet {state : ExecutionState}
    {p : GovernedProgram Body G R BriefError α} (quiet : Quiet p) :
    Leaves (failingIn state p) fun outcome added =>
      added = [] ∧ ∀ failure, outcome = .error failure → failure.state = state :=
  leaves_failingIn quiet.leaves (fun _ _ none => ⟨none, fun _ same => by cases same⟩)
    fun _ _ none => ⟨none, fun _ same => by cases same; rfl⟩

/-- A program over another operation than a rollback. -/
theorem quiet_run_embed {I : Interface} {p : Program I BriefError α}
    {e : Embedding I (external (GovernorCall G) (GovernorCall.Reply R))}
    (elsewhere : ∀ c, Unmarked (.external (e.call c) : GovernedCall Body G)) :
    Quiet (run (p.embed e) : BriefProgram Body _ _ _) := by
  have inner : (p.embed e).Within (fun c => Unmarked (.external c : GovernedCall Body G)) fun _ => True :=
    (within_true p).embed fun c _ => elsewhere c
  exact inner.embed fun _ unmarked => unmarked

theorem quiet_buildSuccessResult (request : ParsedSummaryRequest) (estimatedCostUsd : ℚ) :
    Quiet (buildSuccessResult (governed resolve generate) runtime request estimatedCostUsd) :=
  Quiet.bind (quiet_run_embed fun _ => trivial) fun _ => quiet_done _

theorem quiet_settleReservation (costUsd : ℚ) :
    Quiet (settleReservation (governed resolve generate) decision costUsd) := by
  unfold settleReservation
  split
  · refine Quiet.settle (Quiet.bind (quiet_run_embed fun _ => trivial) fun _ => quiet_done _)
      fun outcome => ?_
    cases outcome with
    | ok _ => exact quiet_done _
    | error _ => exact quiet_done _
  · exact quiet_done _

theorem leaves_persist_success (payload : BriefResultPayload Body) :
    Leaves (persist payload .success : GovernedProgram Body G R _ _) fun outcome added =>
      match outcome with
      | .ok .created => added = [.inserted true]
      | _ => NotReported added := by
  have inserted := leaves_await (R := R) (.createResult {
      requestId := payload.requestId
      producedAt := payload.producedAt
      status := .success
      result := payload })
    (P := fun reply added => match reply with
      | .ok _ => added = [.inserted true]
      | .error _ => NotReported added) ?_
  · refine inserted.settle fun reply added holds => ?_
    cases reply with
    | ok _ => exact leaves_done (by rw [show added = [.inserted true] from holds]; rfl)
    | error error =>
        have unreported : NotReported (added ++ []) := by rwa [List.append_nil]
        dsimp only
        split
        · exact leaves_done unreported
        · exact leaves_done unreported
  · intro reply applied possible
    cases reply with
    | ok value =>
        obtain rfl : applied = true := possible value rfl
        rfl
    | error e =>
        cases applied with
        | true => exact .inr rfl
        | false => exact .inl rfl

theorem leaves_republishDuplicate (requestId : String) (reserved : 0 < decision.reservedCostUsd) :
    Leaves (republishDuplicate (governed resolve generate) runtime requestId decision)
      fun outcome rolled =>
        (∃ spent : ℚ, RolledBack (.ok spent) rolled ∧
          ∀ failure, outcome = .error failure → failure.state.budgetDecision = none) ∨
        ∃ e error : BriefError, outcome = .error ⟨error, ⟨some decision, false⟩⟩ ∧
          RolledBack (α := ℚ) (.error e) rolled := by
  have released := leaves_failingIn (Q := fun outcome rolled => match outcome with
      | .ok _ => ∃ spent : ℚ, RolledBack (.ok spent) rolled
      | .error failure => failure.state = ⟨some decision, false⟩ ∧
          ∃ e, RolledBack (α := ℚ) (.error e) rolled)
    (leaves_rollback reserved : Leaves (rollingBackProgram Body R (rollback decision)) RolledBack)
    (fun spent _ rolled => ⟨spent, rolled⟩)
    fun e _ rolled => ⟨rfl, e, rolled⟩
  refine released.bind ?_ ?_
  · rintro _ rolled ⟨spent, holds⟩
    refine (leaves_failingIn_quiet (quiet_republishPersistedResult _ requestId)).bind ?_ ?_
    · rintro status rest ⟨rfl, -⟩
      cases status with
      | none =>
          refine leaves_done (.inl ⟨spent, by simpa using holds, ?_⟩)
          intro failure same
          cases same
          rfl
      | some _ => exact leaves_done (.inl ⟨spent, by simpa using holds, fun _ same => by cases same⟩)
    · rintro failure rest ⟨rfl, state⟩
      refine .inl ⟨spent, by simpa using holds, fun failure' same => ?_⟩
      cases same
      rw [state failure rfl]
  · rintro ⟨error, state⟩ rolled ⟨same, e, holds⟩
    exact .inr ⟨e, error, by rw [show state = ⟨some decision, false⟩ from same], holds⟩

theorem leaves_generateAndPublish (request : ParsedSummaryRequest) (estimatedCostUsd : ℚ)
    (reserved : 0 < decision.reservedCostUsd) :
    Leaves (generateAndPublish (governed resolve generate) runtime request estimatedCostUsd decision)
      (Tried decision) := by
  refine (leaves_failingIn_quiet (quiet_buildSuccessResult request estimatedCostUsd)).bind ?_ ?_
  · rintro result _ ⟨rfl, -⟩
    have persisted := leaves_failingIn (Q := fun outcome added => match outcome with
        | .ok .created => added = [.inserted true]
        | .ok .duplicate => NotReported added
        | .error failure => failure.state = ⟨some decision, false⟩ ∧ NotReported added)
      (leaves_persist_success (R := R) result.payload)
      (fun outcome _ holds => by cases outcome <;> exact holds) fun e _ holds => ⟨rfl, holds⟩
    refine persisted.bind ?_ ?_
    · intro outcome added holds
      cases outcome with
      | duplicate =>
          have unreported : NotReported added := holds
          refine (leaves_republishDuplicate request.requestId reserved).mono ?_
          rintro outcome rolled (⟨spent, rolledBack, state⟩ | ⟨e, error, rfl, rolledBack⟩)
          · rw [List.nil_append]
            exact .rolledBack state unreported rolledBack
          · rw [List.nil_append]
            exact .interrupted unreported rolledBack
      | created =>
          obtain rfl : added = [.inserted true] := holds
          refine (leaves_failingIn_quiet ?_).mono ?_
          · exact (quiet_settleReservation _).bind fun _ => quiet_await trivial
          · rintro outcome rest ⟨rfl, state⟩
            exact .created fun failure same => by rw [state failure same]
    · rintro ⟨error, state⟩ added ⟨same, holds⟩
      obtain rfl : state = ⟨some decision, false⟩ := same
      exact .failed holds
  · rintro ⟨error, state⟩ _ ⟨rfl, same⟩
    obtain rfl : state = ⟨some decision, false⟩ := same _ rfl
    exact .failed (.inl rfl)

/-- The `catch` block disposes only in its release. -/
theorem leaves_handleExecutionFailure {failure : ExecutionFailure} {P : List Mark → Prop}
    (requestId : String)
    (release : Leaves (releaseUndisposed (governed resolve generate) failure.state)
      fun _ added => P added) :
    Leaves (handleExecutionFailure (governed resolve generate) runtime requestId failure)
      fun _ added => P added := by
  refine release.bind (fun _ added holds => ?_) fun _ _ holds => holds
  refine (quiet_handleSummaryRequestFailure runtime requestId _ _).leaves.bind ?_ ?_
  · rintro outcome _ rfl
    cases outcome with
    | handled => exact leaves_done (by simpa using holds)
    | rethrow => exact leaves_done (by simpa using holds)
  · rintro e _ rfl
    simpa using holds

theorem leaves_releaseUndisposed (granted : decision.authorized = true)
    (reserved : 0 < decision.reservedCostUsd) :
    Leaves (releaseUndisposed (governed resolve generate) ⟨some decision, false⟩)
      fun _ added => ∃ outcome : Except BriefError ℚ, RolledBack outcome added := by
  simp only [releaseUndisposed, granted, Bool.not_false, Bool.and_true, if_true]
  refine (leaves_rollback reserved).bind ?_ fun e _ rolled => ⟨.error e, rolled⟩
  intro spent added rolled
  exact leaves_done ⟨.ok spent, by simpa using rolled⟩

/-- Nothing is released once the decision was given back or the result was created. -/
theorem releaseUndisposed_eq_pure {services : BriefServices Body (GovernorCall G) (GovernorCall.Reply R)}
    {state : ExecutionState}
    (disposed : state.budgetDecision = none ∨ state.persistedCreated = true) :
    releaseUndisposed services state = pure () := by
  unfold releaseUndisposed
  cases held : state.budgetDecision with
  | none => rfl
  | some decision =>
      have created : state.persistedCreated = true := by simpa [held] using disposed
      simp [created]

/-- The rest of a run that got a reservation. -/
theorem leaves_executeDecided (request : ParsedSummaryRequest) (estimatedCostUsd : ℚ)
    (granted : decision.authorized = true) (reserved : 0 < decision.reservedCostUsd) :
    Leaves (executeDecided (governed resolve generate) runtime request estimatedCostUsd decision)
      fun _ added => Disposal added := by
  -- a caught failure that has nothing left to release
  have settled (failure : ExecutionFailure) {added : List Mark} (disposal : Disposal added)
      (disposed : failure.state.budgetDecision = none ∨ failure.state.persistedCreated = true) :
      Leaves (handleExecutionFailure (governed resolve generate) runtime request.requestId failure)
        fun _ added' => Disposal (added ++ added') := by
    refine leaves_handleExecutionFailure request.requestId ?_
    rw [releaseUndisposed_eq_pure disposed]
    exact leaves_done (by simpa using disposal)
  -- a caught failure with the reservation still held
  have released (error : BriefError) :
      Leaves (handleExecutionFailure (governed resolve generate) runtime request.requestId
        ⟨error, ⟨some decision, false⟩⟩)
        fun _ added => ∃ outcome : Except BriefError ℚ, RolledBack outcome added :=
    leaves_handleExecutionFailure request.requestId (leaves_releaseUndisposed granted reserved)
  simp only [executeDecided, granted, if_true]
  refine (leaves_generateAndPublish request estimatedCostUsd reserved).settle ?_
  intro outcome added tried
  cases tried with
  | created state =>
      cases outcome with
      | ok _ => exact leaves_done .created
      | error failure => exact settled failure .created (.inr (state failure rfl))
  | rolledBack state unreported rolled =>
      cases outcome with
      | ok _ => exact leaves_done (by simpa using .once unreported rolled)
      | error failure =>
          exact settled failure (.once unreported rolled) (.inl (state failure rfl))
  | failed unreported =>
      refine (released _).mono ?_
      rintro _ rolled ⟨outcome, rolledBack⟩
      exact .once unreported rolledBack
  | interrupted unreported rolled =>
      refine (released _).mono ?_
      rintro _ again ⟨outcome, rolledBack⟩
      simpa using .twice unreported rolled rolledBack

theorem Disposal.disposedOnce_iff {marks : List Mark} (disposal : Disposal marks) :
    DisposedOnce marks ↔ FlagsAgree marks := by
  cases disposal with
  | created => decide
  | once unreported rolled =>
      rcases unreported with rfl | rfl <;> cases rolled <;> decide
  | twice unreported rolled again =>
      rcases unreported with rfl | rfl <;> cases rolled <;> cases again <;> decide

/-! ## Runs of `execute` -/

/-- `execute` came to the answer `decision` of the budget through the calls of `trace`. -/
def AuthorizeReturned (services : BriefServices Body (GovernorCall G) (GovernorCall.Reply R))
    (runtime : Runtime) (request : ParsedSummaryRequest) (decision : BriefBudgetDecision)
    (trace : List (Observed Body G R)) : Prop :=
  ∃ loaded, (load runtime.isIsoDatetime request.requestId :
      BriefProgram Body _ (GovernorCall.Reply R) _).Runs observing [] (.ok none) loaded ∧
    (run (services.authorize (budgetInput runtime request
      (normalizeUsd (estimateRequestCostUsd request)))) :
      BriefProgram Body _ _ _).Runs observing loaded (.ok decision) trace

theorem runs_extend {p : GovernedProgram Body G R ε α} {t t' : List (Observed Body G R)}
    {outcome : Except ε α} (run : p.Runs observing t outcome t') : t <+: t' := by
  induction run with
  | done => exact List.prefix_refl _
  | await step _ ih =>
      obtain ⟨applied, _, rfl⟩ := step
      exact (List.prefix_append _ _).trans ih

/-- What a program did so far is determined by the calls and replies of a trace. -/
theorem runs_determined {p : GovernedProgram Body G R ε α} {t t₁ t₂ u : List (Observed Body G R)}
    {outcome₁ outcome₂ : Except ε α} (run₁ : p.Runs observing t outcome₁ t₁)
    (run₂ : p.Runs observing t outcome₂ t₂) (within₁ : t₁ <+: u) (within₂ : t₂ <+: u) :
    outcome₁ = outcome₂ ∧ t₁ = t₂ := by
  induction p generalizing t with
  | done outcome =>
      cases run₁
      cases run₂
      exact ⟨rfl, rfl⟩
  | await c next ih =>
      cases run₁ with
      | await step₁ rest₁ =>
      cases run₂ with
      | await step₂ rest₂ =>
        obtain ⟨applied₁, _, rfl⟩ := step₁
        obtain ⟨applied₂, _, rfl⟩ := step₂
        have same := (List.prefix_of_prefix_length_le ((runs_extend rest₁).trans within₁)
          ((runs_extend rest₂).trans within₂) (by simp)).eq_of_length (by simp)
        have same_event := List.append_cancel_left same
        simp only [List.cons.injEq, and_true, Observed.mk.injEq, heq_eq_eq, true_and] at same_event
        obtain ⟨rfl, rfl⟩ := same_event
        exact ih _ rest₁ rest₂

/-- Up to the answer of the budget nothing concerns the disposal. -/
theorem AuthorizeReturned.marks_eq_nil {request : ParsedSummaryRequest}
    {trace : List (Observed Body G R)}
    (answered : AuthorizeReturned (governed resolve generate) runtime request decision trace) :
    marks trace = [] := by
  obtain ⟨loaded, loads, authorizes⟩ := answered
  obtain ⟨_, same, rfl⟩ := wp_iff_runs.1 ((quiet_load _ _).leaves []) _ _ loads
  obtain ⟨_, same', rfl⟩ :=
    wp_iff_runs.1 ((quiet_run_embed (e := authorizing R) fun _ => trivial).leaves loaded) _ _
      authorizes
  rw [same', same]
  rfl

/-- A run of `execute` in which the budget answered goes on with its decision. -/
theorem AuthorizeReturned.rest {services : BriefServices Body (GovernorCall G) (GovernorCall.Reply R)}
    {request : ParsedSummaryRequest} {before trace : List (Observed Body G R)}
    {outcome : Except BriefError Unit}
    (answered : AuthorizeReturned services runtime request decision before)
    (reached : before <+: trace)
    (run : (execute services runtime request).Runs observing [] outcome trace) :
    (executeDecided services runtime request (normalizeUsd (estimateRequestCostUsd request))
      decision).Runs observing before outcome trace := by
  obtain ⟨loaded, loads, authorizes⟩ := answered
  obtain ⟨first, t, loads', run⟩ := runs_settle.1 run
  obtain ⟨rfl, rfl⟩ := runs_determined loads loads' ((runs_extend authorizes).trans reached)
    (runs_extend run)
  obtain ⟨second, t', authorizes', run⟩ := runs_settle.1 run
  obtain ⟨rfl, rfl⟩ := runs_determined authorizes authorizes' reached (runs_extend run)
  exact run

theorem AuthorizeReturned.execute_runs
    {services : BriefServices Body (GovernorCall G) (GovernorCall.Reply R)}
    {request : ParsedSummaryRequest} {before trace : List (Observed Body G R)}
    {outcome : Except BriefError Unit}
    (answered : AuthorizeReturned services runtime request decision before)
    (rest : (executeDecided services runtime request
      (normalizeUsd (estimateRequestCostUsd request)) decision).Runs observing before outcome trace) :
    (execute services runtime request).Runs observing [] outcome trace := by
  obtain ⟨loaded, loads, authorizes⟩ := answered
  exact runs_settle.2 ⟨_, _, loads, runs_settle.2 ⟨_, _, authorizes, rest⟩⟩

/-- In a run of `execute` with a reservation, the release takes effect exactly as often as it
should if and only if the flags agree with the stores. -/
theorem execute_disposedOnce_iff {request : ParsedSummaryRequest}
    {before trace : List (Observed Body G R)} {outcome : Except BriefError Unit}
    (run : (execute (governed resolve generate) runtime request).Runs observing [] outcome trace)
    (answered : AuthorizeReturned (governed resolve generate) runtime request decision before)
    (reached : before <+: trace) (granted : decision.authorized = true)
    (reserved : 0 < decision.reservedCostUsd) :
    DisposedOnce (marks trace) ↔ FlagsAgree (marks trace) := by
  have leaves : Leaves (executeDecided (governed resolve generate) runtime request _ decision)
      fun _ added => Disposal added :=
    leaves_executeDecided request (normalizeUsd (estimateRequestCostUsd request)) granted reserved
  obtain ⟨added, same, disposal⟩ :=
    wp_iff_runs.1 (leaves before) _ _ (answered.rest reached run)
  rw [answered.marks_eq_nil, List.nil_append] at same
  rw [same]
  exact disposal.disposedOnce_iff

/-- Generation without a call. -/
def generating : BriefServices Unit (GovernorCall Empty) (GovernorCall.Reply fun _ => Unit) :=
  governed (fun _ => pure none) fun _ _ => pure ((), ⟨0, 0, 1, 1, 1 / 100⟩)

def disposalRuntime : Runtime where
  toLowerCase := id
  isIsoDatetime _ := true
  producedAt := "2026-01-01T00:00:00.000Z"
  llmDailyBudgetUsd := .finite 5

/-- A statement of a rollback and its reply; it took effect. -/
def rollbackStep (c : LedgerCall) (reply : Except BriefError c.Reply) :
    Observed Unit Empty fun _ => Unit :=
  ⟨.external (.rollback c), reply, true⟩

/-- A rollback whose decrement finds the row and whose read of the row answers `latest`. -/
def rollbackTrace (decision : BriefBudgetDecision) (latest : Except BriefError (Option ℚ)) :
    List (Observed Unit Empty fun _ => Unit) :=
  [rollbackStep (.decrementRow decision.dateKey |(-decision.reservedCostUsd)|) (.ok (1 : Nat)),
    rollbackStep (.findRow decision.dateKey) latest] ++
  match latest with
  | .ok spent => [rollbackStep (.setCache decision.dateKey (spent.getD 0)) (.ok ())]
  | .error _ => []

theorem rollback_runs (reserved : 0 < decision.reservedCostUsd)
    (latest : Except BriefError (Option ℚ)) (t : List (Observed Unit Empty fun _ => Unit)) :
    (run (generating.rollback decision) : BriefProgram Unit _ _ _).Runs observing t
      (latest.map (·.getD 0)) (t ++ rollbackTrace decision latest) := by
  simp only [generating, governed, rollback_of_reserved reserved]
  refine .await (r := .ok (1 : Nat)) ⟨true, fun _ same => by cases same; rfl, rfl⟩ ?_
  refine .await (r := latest) ⟨true, fun _ _ => rfl, rfl⟩ ?_
  cases latest with
  | ok spent =>
      refine .await (r := .ok ()) ⟨true, fun _ _ => rfl, rfl⟩ ?_
      simp only [List.append_assoc]
      exact .done
  | error e =>
      simp only [List.append_assoc]
      exact .done

/-- The budget grants the reservation of a request without topics. -/
def grantedDecision : BriefBudgetDecision where
  authorized := true
  dateKey := "2026-01-01"
  dailyBudgetUsd := .finite 5
  reservedCostUsd := normalizeUsd (estimateRequestCostUsd (.empty "request-1"))
  spentUsd := 1 / 100

theorem grantedDecision_reserved : 0 < grantedDecision.reservedCostUsd := by
  decide +kernel

def grantedTrace : List (Observed Unit Empty fun _ => Unit) :=
  [⟨.findResult "request-1", .ok none, true⟩,
    ⟨.external (.authorize (.evalReservation "2026-01-01" (.finite 5)
      grantedDecision.reservedCostUsd)), .ok { reserved := true, spentUsd := 1 / 100 }, true⟩,
    ⟨.external (.authorize (.startMirror ⟨"2026-01-01", .finite 5, 1 / 100⟩)), .ok (), true⟩]

theorem grantedTrace_answers :
    AuthorizeReturned generating disposalRuntime (.empty "request-1") grantedDecision
      grantedTrace := by
  refine ⟨[⟨.findResult "request-1", .ok none, true⟩],
    .await (r := .ok none) ⟨true, fun _ _ => rfl, rfl⟩ .done, ?_⟩
  refine .await (r := .ok (⟨true, 1 / 100⟩ : BudgetReservationResult))
    ⟨true, fun _ _ => rfl, rfl⟩ ?_
  refine .await (r := .ok (() : Unit)) ⟨true, fun _ _ => rfl, rfl⟩ ?_
  exact .done

/-- The insert of the success row throws without effect. -/
def insertFailed (error : BriefError) : List (Observed Unit Empty fun _ => Unit) :=
  [⟨.createResult ⟨"request-1", disposalRuntime.producedAt, .success,
    ⟨"request-1", disposalRuntime.producedAt, none, some ()⟩⟩, .error error, false⟩]

/-- A run whose `try` block throws `m` with the reservation still held: the `catch` block
releases it. -/
theorem caught_runs {trace : List (Observed Unit Empty fun _ => Unit)} {m : String}
    (tried : (generateAndPublish generating disposalRuntime (.empty "request-1")
      grantedDecision.reservedCostUsd grantedDecision).Runs observing grantedTrace
      (.error ⟨.other m, ⟨some grantedDecision, false⟩⟩) trace) :
    (execute generating disposalRuntime (.empty "request-1")).Runs observing []
      (.error (.other m)) (trace ++ rollbackTrace grantedDecision (.ok (some 0))) := by
  refine grantedTrace_answers.execute_runs ?_
  have caught : (handleExecutionFailure generating disposalRuntime "request-1"
      ⟨.other m, ⟨some grantedDecision, false⟩⟩).Runs observing trace
      (.error (.other m)) (trace ++ rollbackTrace grantedDecision (.ok (some 0))) := by
    have rolledBack := rollback_runs grantedDecision_reserved (.ok (some 0)) trace
    exact runs_settle.2 ⟨.ok (), _, runs_settle.2 ⟨_, _, rolledBack, .done⟩, .done⟩
  exact runs_settle.2 ⟨_, _, tried, caught⟩

/-- The insert throws and its reservation is released. -/
def releasedOnce : List (Observed Unit Empty fun _ => Unit) :=
  grantedTrace ++ insertFailed (.other "timeout") ++ rollbackTrace grantedDecision (.ok (some 0))

theorem execute_disposedOnce_iff_releasedOnce :
    DisposedOnce (marks releasedOnce) ↔ FlagsAgree (marks releasedOnce) := by
  have reached : grantedTrace <+: releasedOnce := ⟨_, (List.append_assoc _ _ _).symm⟩
  refine execute_disposedOnce_iff (caught_runs (m := "timeout") ?_) grantedTrace_answers reached rfl
    grantedDecision_reserved
  exact .await (r := .error (BriefError.other "timeout")) ⟨false, (nomatch ·, ·), rfl⟩ .done

/-- The insert finds a row of another delivery, and the read after the release of the duplicate
branch throws. -/
def releasedTwice : List (Observed Unit Empty fun _ => Unit) :=
  grantedTrace ++ insertFailed (.prismaKnownRequest "P2002") ++
    rollbackTrace grantedDecision (.error (.other "connection reset")) ++
    rollbackTrace grantedDecision (.ok (some 0))

/-- The `catch` block releases what the duplicate branch has released. -/
theorem execute_releases_twice :
    (execute generating disposalRuntime (.empty "request-1")).Runs observing []
      (.error (.other "connection reset")) releasedTwice ∧
    AuthorizeReturned generating disposalRuntime (.empty "request-1") grantedDecision grantedTrace ∧
    grantedTrace <+: releasedTwice ∧ grantedDecision.authorized = true ∧
    0 < grantedDecision.reservedCostUsd ∧ ¬DisposedOnce (marks releasedTwice) := by
  refine ⟨caught_runs ?_, grantedTrace_answers, ⟨_, rfl⟩, rfl, grantedDecision_reserved, by decide⟩
  refine .await (r := .error (BriefError.prismaKnownRequest "P2002"))
    ⟨false, (nomatch ·, ·), rfl⟩ ?_
  have rolledBack := rollback_runs grantedDecision_reserved (.error (.other "connection reset"))
    (grantedTrace ++ insertFailed (.prismaKnownRequest "P2002"))
  have thrown : (republishDuplicate generating disposalRuntime "request-1" grantedDecision).Runs
      observing _ (.error ⟨.other "connection reset", ⟨some grantedDecision, false⟩⟩) _ :=
    runs_settle.2 ⟨_, _, runs_settle.2 ⟨_, _, rolledBack, .done⟩, .done⟩
  exact thrown

end RisingIntelligence.Brief
