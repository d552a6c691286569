import RisingIntelligence.Pipeline.Consumer
import RisingIntelligence.Shared.Replay

/-!
# Consuming a partition

A partition's log read by consumers that crash: each attempt is a batch delivered from a place
that was acknowledged before, cut off at any call.  Every message has an effect on the service's
state, which its callback applies at most once and has applied when it returns.

`PartitionSteps.replays`: the effects so far are those of a replay of the log, at least up to
what is acknowledged.
-/

namespace RisingIntelligence.Transport

open Async Program

variable {K : Interface} {Ctx Message S : Type}

/-! ## One attempt -/

/-- The callback of a message applies its effect once, and has applied it when it returns. -/
def AppliesOnce (H : Handler K S) (effect : PipelineMessage → S → S)
    (consumer : Consumer Ctx Message K) : Prop :=
  ∀ message s, (consumer.messageProgram message).safe H
    (fun s' => s' = s ∨ s' = effect message s)
    (fun outcome s' => outcome = .ok () → s' = effect message s) s

def effects (effect : PipelineMessage → S → S) (messages : List PipelineMessage) (s : S) : S :=
  messages.foldl (fun s message => effect message s) s

theorem effects_concat (effect : PipelineMessage → S → S) (messages : List PipelineMessage)
    (last : PipelineMessage) (s : S) :
    effects effect (messages ++ [last]) s = effect last (effects effect messages s) := by
  rw [effects, List.foldl_append]
  rfl

theorem effects_append (effect : PipelineMessage → S → S) (first rest : List PipelineMessage)
    (s : S) : effects effect (first ++ rest) s = effects effect rest (effects effect first s) :=
  List.foldl_append ..

/-- Of the batch, the effects of a first part are applied, at least of what is acknowledged. -/
def Advanced (effect : PipelineMessage → S → S) (messages : List PipelineMessage) (s : S)
    (t : Consumed Unit S) : Prop :=
  ∃ done rest, messages = done ++ rest ∧ (t.acknowledged ()).length ≤ done.length ∧
    t.shared = effects effect done s

section Attempt

variable {H : Handler K S} {effect : PipelineMessage → S → S} {consumer : Consumer Ctx Message K}
  {s : S} {t : Consumed Unit S} {J : Consumed Unit S → Prop}

theorem safe_operation {c : BatchOperation} (other : ∀ position, c ≠ .acknowledge position)
    (holds : J t) :
    (operation c).safe (Consumption (fun _ : Unit => H) ()) J (fun _ t' => t' = t) t := by
  refine ⟨holds, fun reply t' step => ?_⟩
  cases step with
  | acknowledged => exact absurd rfl (other _)
  | operated _ => exact ⟨holds, rfl⟩

theorem safe_serve {α : Type} {p : Program K K.Error α} {J : S → Prop}
    {Q : Except K.Error α → S → Prop} (acknowledged : Unit → List String)
    (safe : p.safe H J Q s) :
    (serve p).safe (Consumption (fun _ : Unit => H) ())
      (fun t => J t.shared ∧ t.acknowledged = acknowledged)
      (fun outcome t => Q outcome t.shared ∧ t.acknowledged = acknowledged) ⟨s, acknowledged⟩ := by
  induction p generalizing s with
  | done outcome => exact ⟨⟨safe.1, rfl⟩, safe.2, rfl⟩
  | await c next ih =>
      refine ⟨⟨safe.1, rfl⟩, fun reply t step => ?_⟩
      cases step with
      | served answered => exact ih _ (safe.2 _ _ answered)

theorem safe_keepAlive_of (now : Prop) [Decidable now] (holds : J t) :
    (consumer.expanded (if now then keepAlive else pure ())).safe
      (Consumption (fun _ : Unit => H) ()) J (fun _ t' => t' = t) t := by
  split_ifs
  · rw [Consumer.expanded_keepAlive]
    exact safe_operation (by simp) holds
  · exact ⟨holds, rfl⟩

theorem Advanced.here {messages done rest : List PipelineMessage}
    (split : messages = done ++ rest) (counted : (t.acknowledged ()).length ≤ done.length)
    (applied : t.shared = effects effect done s) : Advanced effect messages s t :=
  ⟨done, rest, split, counted, applied⟩

/-- After a message is handled: one more of the batch is done. -/
theorem safe_finishMessage {done rest : List PipelineMessage} {message : PipelineMessage}
    (handledCount : Nat) (split : consumer.messages = done ++ message :: rest)
    (counted : (t.acknowledged ()).length ≤ done.length)
    (applied : t.shared = effects effect (done ++ [message]) s) :
    (consumer.expanded (finishMessage consumer.options message handledCount)).safe
      (Consumption (fun _ : Unit => H) ()) (Advanced effect consumer.messages s)
      (fun _ t' => (t'.acknowledged ()).length ≤ (done ++ [message]).length ∧
        t'.shared = effects effect (done ++ [message]) s) t := by
  have regrouped : consumer.messages = (done ++ [message]) ++ rest :=
    split.trans (List.append_cons ..)
  have longer : (done ++ [message]).length = done.length + 1 := List.length_append
  have advanced : Advanced effect consumer.messages s t :=
    .here regrouped (by omega) applied
  unfold finishMessage
  by_cases acknowledges : consumer.options.acknowledge = true
  · simp only [acknowledges, if_true, Consumer.expanded_bind,
      Consumer.expanded_acknowledgePosition]
    have counted' : ((t.acknowledge () message.position).acknowledged ()).length ≤
        (done ++ [message]).length := by
      rw [Consumed.acknowledge_self, List.length_append, List.length_singleton]
      omega
    refine safe_bind (P := fun _ t' => t' = t.acknowledge () message.position)
      ⟨advanced, fun reply t' step => ?_⟩ (fun _ t' same _ => ?_) fun e t' same _ => ?_
    · cases step with
      | operated other => exact absurd rfl (other _)
      | acknowledged => exact ⟨.here regrouped counted' applied, rfl⟩
    · subst same
      refine (safe_keepAlive_of _ (.here regrouped counted' applied)).mono (fun _ holds => holds) ?_
      intro _ t' _ same
      subst same
      exact ⟨counted', applied⟩
    · subst same
      exact ⟨counted', applied⟩
  · simp only [acknowledges]
    refine (safe_keepAlive_of _ advanced).mono (fun _ holds => holds) ?_
    intro _ t' _ same
    subst same
    exact ⟨by omega, applied⟩

theorem safe_handleMessages (once : AppliesOnce H effect consumer)
    {done rest : List PipelineMessage} (handledCount : Nat)
    (split : consumer.messages = done ++ rest)
    (counted : (t.acknowledged ()).length ≤ done.length)
    (applied : t.shared = effects effect done s) :
    (consumer.expanded (handleMessages consumer.options consumer.ctx consumer.batch rest
      handledCount)).safe (Consumption (fun _ : Unit => H) ()) (Advanced effect consumer.messages s)
      (fun _ _ => True) t := by
  induction rest generalizing done handledCount t with
  | nil => exact ⟨.here split counted applied, trivial⟩
  | cons message rest ih =>
      have regrouped : consumer.messages = (done ++ [message]) ++ rest :=
        split.trans (List.append_cons ..)
      have longer : (done ++ [message]).length = done.length + 1 := List.length_append
      unfold handleMessages
      rw [Consumer.expanded_bind, Consumer.expanded_isActive]
      refine safe_bind (safe_operation (by simp) (.here split counted applied))
        (fun active t' same _ => ?_) fun _ _ _ _ => trivial
      subst same
      cases active with
      | false => exact ⟨.here split counted applied, trivial⟩
      | true =>
          simp only [if_true, Consumer.expanded_bind, Consumer.expanded_handleMessage]
          have served := safe_serve t'.acknowledged (once message t'.shared)
          refine safe_bind (served.mono (fun t₁ visited => ?_) fun _ _ _ post => post)
            (fun _ t₂ post _ => ?_) fun _ _ _ _ => trivial
          · rcases visited.1 with before | after
            · refine .here split ?_ (before.trans applied)
              rwa [visited.2]
            · refine .here regrouped ?_ ?_
              · rw [visited.2]
                omega
              · rw [after, applied, effects_concat]
          · have done' : t₂.shared = effects effect (done ++ [message]) s := by
              rw [post.1 rfl, applied, effects_concat]
            refine safe_bind (safe_finishMessage _ split (by rwa [post.2]) done')
              (fun _ t₃ post' _ => ?_) fun _ _ _ _ => trivial
            exact ih _ regrouped post'.1 post'.2

/-- At any call of a batch, the effects of a first part of it are applied. -/
theorem safe_processBatch (once : AppliesOnce H effect consumer)
    (completed : ∀ s, (consumer.callbacks.onBatchCompleted consumer.ctx).safe H (fun s' => s' = s)
      (fun _ s' => s' = s) s) :
    consumer.processBatch.safe (Consumption (fun _ : Unit => H) ())
      (Advanced effect consumer.messages s) (fun _ _ => True) ⟨s, fun _ => []⟩ := by
  have start : Advanced effect consumer.messages s ⟨s, fun _ => []⟩ :=
    .here (List.nil_append _).symm (Nat.le_refl 0) rfl
  unfold Consumer.processBatch BatchStrategy.processBatch
  rw [Consumer.expanded_bind, Consumer.expanded_isActive]
  refine safe_bind (safe_operation (by simp) start)
    (fun active t same _ => ?_) fun _ _ _ _ => trivial
  subst same
  cases active with
  | false => exact ⟨start, trivial⟩
  | true =>
      simp only [if_true, Consumer.expanded_bind, Consumer.expanded_commit]
      refine safe_bind (safe_handleMessages once 0 (List.nil_append _).symm (Nat.le_refl 0) rfl)
        (fun whole t _ advanced => ?_) fun _ _ _ _ => trivial
      refine safe_bind (safe_operation (c := .commit) (by simp) advanced)
        (fun _ t' same _ => ?_) fun _ _ _ _ => trivial
      subst same
      cases whole with
      | false => exact ⟨advanced, trivial⟩
      | true =>
          simp only [if_true]
          rw [Consumer.expanded_bind, Consumer.expanded_isActive]
          refine safe_bind (safe_operation (by simp) advanced)
            (fun stillActive t'' same _ => ?_) fun _ _ _ _ => trivial
          subst same
          cases stillActive with
          | false => exact ⟨advanced, trivial⟩
          | true =>
              simp only [if_true, Consumer.expanded_bind, Consumer.expanded_keepAlive]
              refine safe_bind (safe_operation (c := .keepAlive) (by simp)
                advanced) (fun _ t₁ same _ => ?_) fun _ _ _ _ => trivial
              subst same
              rw [Consumer.expanded_onBatchCompleted]
              split_ifs
              · refine (safe_serve t₁.acknowledged (completed t₁.shared)).mono
                  (fun t₂ visited => ?_) fun _ _ _ _ => trivial
                have same : t₂ = t₁ := by
                  cases t₂
                  cases visited.1
                  cases visited.2
                  rfl
                rwa [same]
              · exact ⟨advanced, trivial⟩

end Attempt

/-! ## Attempts over a log -/

/-- The service's state and how much of the log is acknowledged. -/
structure PartitionState (S : Type) where
  shared : S
  acknowledged : Nat

/-- One attempt: a batch is delivered from a place that was acknowledged before, and its consumer
is cut off at some call or comes to its end. -/
inductive PartitionStep (H : Handler K S) (consumer : List PipelineMessage → Consumer Ctx Message K)
    (log : List PipelineMessage) : PartitionState S → PartitionState S → Prop
  | attempt {p : PartitionState S} {t : Consumed Unit S} (origin count : Nat) :
    origin ≤ p.acknowledged →
    (consumer ((log.drop origin).take count)).processBatch.Visits (Consumption (fun _ => H) ())
      ⟨p.shared, fun _ => []⟩ t →
    PartitionStep H consumer log p
      ⟨t.shared, max p.acknowledged (origin + (t.acknowledged ()).length)⟩

theorem PartitionStep.of_visits {H : Handler K S}
    {consumer : List PipelineMessage → Consumer Ctx Message K} {log : List PipelineMessage}
    {p q : PartitionState S} {acknowledged : Unit → List String} (origin count : Nat)
    (known : origin ≤ p.acknowledged)
    (visits : (consumer ((log.drop origin).take count)).processBatch.Visits
      (Consumption (fun _ => H) ()) ⟨p.shared, fun _ => []⟩ ⟨q.shared, acknowledged⟩)
    (counted : q.acknowledged = max p.acknowledged (origin + (acknowledged ()).length)) :
    PartitionStep H consumer log p q := by
  obtain ⟨shared, _⟩ := q
  cases counted
  exact .attempt origin count known visits

abbrev PartitionSteps (H : Handler K S)
    (consumer : List PipelineMessage → Consumer Ctx Message K) (log : List PipelineMessage) :
    PartitionState S → PartitionState S → Prop :=
  Relation.ReflTransGen (PartitionStep H consumer log)

/-- The effects so far are those of a replay of the log that got at least as far as what is
acknowledged. -/
theorem PartitionSteps.replays {H : Handler K S} {effect : PipelineMessage → S → S}
    {consumer : List PipelineMessage → Consumer Ctx Message K} {log : List PipelineMessage}
    (delivers : ∀ messages, (consumer messages).messages = messages)
    (once : ∀ messages, AppliesOnce H effect (consumer messages))
    (completed : ∀ messages s, ((consumer messages).callbacks.onBatchCompleted
      (consumer messages).ctx).safe H (fun s' => s' = s) (fun _ s' => s' = s) s)
    {s : S} {p : PartitionState S} (steps : PartitionSteps H consumer log ⟨s, 0⟩ p) :
    ∃ done reached, Replays log done reached ∧ p.acknowledged ≤ reached ∧
      p.shared = effects effect done s := by
  induction steps with
  | refl => exact ⟨[], 0, .start, Nat.le_refl 0, rfl⟩
  | @tail p _ _ step ih =>
      obtain ⟨done, reached, replays, behind, applied⟩ := ih
      cases step with
      | @attempt t origin count known visits =>
          have visited := (safe_iff.1 (safe_processBatch (s := p.shared) (once _) (completed _))).1
            t visits
          obtain ⟨first, rest, split, counted, moved⟩ := visited
          rw [delivers] at split
          have passage : first = (log.drop origin).take first.length := by
            have prefixed : first <+: log.drop origin :=
              (split ▸ List.prefix_append first rest).trans (List.take_prefix _ _)
            exact List.prefix_iff_eq_take.1 prefixed
          have fits : origin + first.length ≤ log.length := by
            have total := congrArg List.length split
            rw [List.length_take, List.length_drop, List.length_append] at total
            have known' := replays.reached_le
            omega
          refine ⟨done ++ first, max reached (origin + first.length), ?_, ?_, ?_⟩
          · have longer := replays.resume (Nat.le_trans known behind) fits
            rwa [← passage] at longer
          · dsimp only
            omega
          · rw [moved, applied, effects_append]

end RisingIntelligence.Transport
