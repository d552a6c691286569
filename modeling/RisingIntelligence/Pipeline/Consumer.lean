import RisingIntelligence.Async.Expansion
import RisingIntelligence.Pipeline.Transport

/-!
# Consumers

A service's consumer: `BatchStrategy.processBatch` with the service's callbacks, each a
program over the service's own calls.  Any number of delivered batches run at once, each
over its messages, also the same messages several times; between two calls of one any
number of calls of the others may be answered, and every call may throw or never answer.

`Consumer.keeps`: when every callback that returns leaves its message handled and nothing
the services do undoes that, a batch acknowledges a prefix of its messages and every
acknowledged message is handled.
-/

namespace RisingIntelligence.Transport

open Async Program

/-! ## The calls of a consumer -/

/-- What a delivered batch offers its strategy. -/
inductive BatchOperation : Type
  | isActive
  | keepAlive
  | acknowledge (position : String)
  | commit

@[reducible] def BatchOperation.Reply : BatchOperation → Type
  | .isActive => Bool
  | _ => Unit

/-- The operations of the batch beside the calls of the service. -/
abbrev consuming (K : Interface) : Interface where
  Call := BatchOperation ⊕ K.Call
  Reply
    | .inl operation => operation.Reply
    | .inr c => K.Reply c
  Error := K.Error

variable {K : Interface} {Ctx Message ι S α : Type}

def operation (c : BatchOperation) : Program (consuming K) K.Error c.Reply :=
  Program.call (I := consuming K) (.inl c)

/-- The calls of the service as calls of the consumer. -/
def serving (K : Interface) : Embedding K (consuming K) where
  call := .inr
  reply _ reply := reply

def serve (p : Program K K.Error α) : Program (consuming K) K.Error α := p.embed (serving K)

/-- The callbacks of a `MessageStrategy`, and of its batches. -/
structure Callbacks (Ctx Message : Type) (K : Interface) where
  onEmptyValue : Ctx → MessageContext → Program K K.Error Unit
  onDeserializeFailure : Ctx → MessageContext → K.Error → Program K K.Error Unit
  onMessage : Ctx → MessageContext → Message → Program K K.Error Unit
  onBatchCompleted : Ctx → Program K K.Error Unit

/-- What a call of the strategy runs. -/
def Callbacks.answer (callbacks : Callbacks Ctx Message K) :
    (c : TransportCall Ctx Message K.Error) → Program (consuming K) K.Error c.Reply
  | .isActive => operation .isActive
  | .keepAlive => operation .keepAlive
  | .acknowledge position => operation (.acknowledge position)
  | .commit => operation .commit
  | .onEmptyValue ctx context => serve (callbacks.onEmptyValue ctx context)
  | .onDeserializeFailure ctx context error =>
      serve (callbacks.onDeserializeFailure ctx context error)
  | .onMessage ctx context decoded => serve (callbacks.onMessage ctx context decoded)
  | .onBatchCompleted ctx => serve (callbacks.onBatchCompleted ctx)

/-- A batch as it is delivered to a consumer. -/
structure Consumer (Ctx Message : Type) (K : Interface) where
  options : BatchStrategy Message K.Error
  callbacks : Callbacks Ctx Message K
  ctx : Ctx
  batch : BatchContext
  messages : List PipelineMessage

namespace Consumer

/-- A program of the strategy with its calls answered. -/
def expanded (consumer : Consumer Ctx Message K) (p : BatchProgram Ctx Message K.Error α) :
    Program (consuming K) K.Error α :=
  p.expand consumer.callbacks.answer

/-- `strategy.processBatch(ctx, batch, messages)` -/
def processBatch (consumer : Consumer Ctx Message K) : Program (consuming K) K.Error Unit :=
  consumer.expanded (consumer.options.processBatch consumer.ctx consumer.batch consumer.messages)

/-- What the service runs for one message. -/
def messageProgram (consumer : Consumer Ctx Message K) (message : PipelineMessage) :
    Program K K.Error Unit :=
  let options := consumer.options.strategy
  let context := messageContext consumer.batch message
  match message.value with
  | none => if options.onEmptyValue then consumer.callbacks.onEmptyValue consumer.ctx context
      else pure ()
  | some value =>
      match options.deserialize value with
      | .error error =>
          if options.onDeserializeFailure then
            consumer.callbacks.onDeserializeFailure consumer.ctx context error
          else pure ()
      | .ok decoded => consumer.callbacks.onMessage consumer.ctx context decoded

@[simp] theorem expanded_bind {β : Type} (consumer : Consumer Ctx Message K)
    (p : BatchProgram Ctx Message K.Error α) (f : α → BatchProgram Ctx Message K.Error β) :
    consumer.expanded (p >>= f) = consumer.expanded p >>= fun a => consumer.expanded (f a) :=
  expand_bind p f

@[simp] theorem expanded_isActive (consumer : Consumer Ctx Message K) :
    consumer.expanded isActive = operation .isActive :=
  expand_call _

@[simp] theorem expanded_keepAlive (consumer : Consumer Ctx Message K) :
    consumer.expanded keepAlive = operation .keepAlive :=
  expand_call _

@[simp] theorem expanded_acknowledgePosition (consumer : Consumer Ctx Message K)
    (position : String) :
    consumer.expanded (acknowledgePosition position) = operation (.acknowledge position) :=
  expand_call _

@[simp] theorem expanded_commit (consumer : Consumer Ctx Message K) :
    consumer.expanded commit = operation .commit :=
  expand_call _

/-- A callback that is there runs its program, one that is not runs nothing. -/
theorem expanded_callback (consumer : Consumer Ctx Message K) (present : Bool)
    {callback : BatchProgram Ctx Message K.Error Unit} {p : Program K K.Error Unit}
    (answered : consumer.expanded callback = serve p) :
    consumer.expanded (runMessageCallback present callback) =
      serve (if present then p else pure ()) := by
  cases present with
  | false => rfl
  | true => exact answered

theorem expanded_onBatchCompleted (consumer : Consumer Ctx Message K) (present : Bool) (ctx : Ctx) :
    consumer.expanded (runMessageCallback present
      (Program.call (I := transport Ctx Message K.Error) (TransportCall.onBatchCompleted ctx))) =
      serve (if present then consumer.callbacks.onBatchCompleted ctx else pure ()) :=
  consumer.expanded_callback present (expand_call _)

theorem expanded_handleMessage (consumer : Consumer Ctx Message K) (message : PipelineMessage) :
    consumer.expanded (handleMessage consumer.options consumer.ctx consumer.batch message) =
      serve (consumer.messageProgram message) := by
  unfold handleMessage messageProgram
  cases message.value with
  | none => exact consumer.expanded_callback _ (expand_call _)
  | some value =>
      dsimp only
      cases consumer.options.strategy.deserialize value with
      | error error => exact consumer.expanded_callback _ (expand_call _)
      | ok decoded => exact expand_call _

end Consumer

/-! ## Consumers side by side -/

/-- The state the services share, and what each batch acknowledged so far. -/
structure Consumed (ι S : Type) where
  shared : S
  acknowledged : ι → List String

/-- Batch `i` acknowledges one more position. -/
def Consumed.acknowledge [DecidableEq ι] (t : Consumed ι S) (i : ι) (position : String) :
    Consumed ι S :=
  { t with acknowledged := Function.update t.acknowledged i (t.acknowledged i ++ [position]) }

@[simp] theorem Consumed.acknowledge_self [DecidableEq ι] (t : Consumed ι S) (i : ι)
    (position : String) :
    (t.acknowledge i position).acknowledged i = t.acknowledged i ++ [position] :=
  Function.update_self ..

theorem Consumed.acknowledge_of_ne [DecidableEq ι] (t : Consumed ι S) {i j : ι}
    (other : j ≠ i) (position : String) :
    (t.acknowledge i position).acknowledged j = t.acknowledged j :=
  Function.update_of_ne other ..

/-- How a batch's calls are answered.  `acknowledge` records and returns; the other operations
of the batch may answer or throw anything, and the calls of the service are answered by `H`. -/
inductive Consumption [DecidableEq ι] (H : ι → Handler K S) (i : ι) :
    Handler (consuming K) (Consumed ι S)
  | operated {t : Consumed ι S} {c : BatchOperation} {reply : Except K.Error c.Reply} :
    (∀ position, c ≠ .acknowledge position) → Consumption H i t (.inl c) reply t
  | acknowledged {t : Consumed ι S} {position : String} :
    Consumption H i t (.inl (.acknowledge position)) (.ok ()) (t.acknowledge i position)
  | served {t : Consumed ι S} {c : K.Call} {reply : Except K.Error (K.Reply c)} {s : S} :
    H i t.shared c reply s → Consumption H i t (.inr c) reply { t with shared := s }

/-- What is said of a handled message holds from then on. -/
structure Lasting (D : Discipline ι K S) (handled : ι → PipelineMessage → S → Prop) : Prop where
  others : ∀ {i message s s'}, handled i message s → D.rely i s s' → handled i message s'
  own : ∀ {i message s s'}, handled i message s → D.guarantee i s s' → handled i message s'

section Law

variable [DecidableEq ι] (D : Discipline ι K S) (consumers : ι → Consumer Ctx Message K)
  (handled : ι → PipelineMessage → S → Prop)

/-- A prefix of the batch is acknowledged and every acknowledged message is handled. -/
def Settled (i : ι) (t : Consumed ι S) : Prop :=
  t.acknowledged i <+: (consumers i).messages.map (·.position) ∧
    ∀ message ∈ (consumers i).messages.take (t.acknowledged i).length, handled i message t.shared

/-- Position `position` is the next one to acknowledge, and its message is handled. -/
def Due (i : ι) (position : String) (t : Consumed ι S) : Prop :=
  ∃ done message rest, (consumers i).messages = done ++ message :: rest ∧
    t.acknowledged i = done.map (·.position) ∧ message.position = position ∧
      handled i message t.shared

/-- The services' discipline with the batches around it: a batch acknowledges what is due. -/
def consumption (lasting : Lasting D handled) : Discipline ι (consuming K) (Consumed ι S) where
  handler := Consumption D.handler
  inv t := D.inv t.shared ∧ ∀ i, Settled consumers handled i t
  rely i t t' := D.rely i t.shared t'.shared ∧ t'.acknowledged i = t.acknowledged i
  guarantee i t t' := (t'.shared = t.shared ∨ D.guarantee i t.shared t'.shared) ∧
    ∀ j, j ≠ i → t'.acknowledged j = t.acknowledged j
  atCall i
    | .inl (.acknowledge position), t => Due consumers handled i position t
    | .inl _, _ => True
    | .inr c, t => D.atCall i c t.shared
  rely_refl i t := ⟨D.rely_refl i t.shared, rfl⟩
  rely_trans first second := ⟨D.rely_trans first.1 second.1, second.2.trans first.2⟩
  compatible := by
    intro i j t t' other guaranteed
    refine ⟨?_, guaranteed.2 j (Ne.symm other)⟩
    rcases guaranteed.1 with same | moved
    · rw [same]
      exact D.rely_refl j t.shared
    · exact D.compatible other moved

variable {D consumers handled}

omit [DecidableEq ι] in
theorem Settled.of_shared {i : ι} {t t' : Consumed ι S} (settled : Settled consumers handled i t)
    (same : t'.acknowledged i = t.acknowledged i)
    (moved : ∀ message, handled i message t.shared → handled i message t'.shared) :
    Settled consumers handled i t' := by
  refine ⟨?_, fun message mem => ?_⟩
  · rw [same]
    exact settled.1
  · rw [same] at mem
    exact moved message (settled.2 message mem)

/-- Acknowledging what is due keeps a batch settled. -/
theorem Due.settled {i : ι} {position : String} {t : Consumed ι S}
    (due : Due consumers handled i position t) (settled : Settled consumers handled i t) :
    Settled consumers handled i (t.acknowledge i position) := by
  obtain ⟨done, message, rest, split, acknowledged, rfl, holds⟩ := due
  have length : (t.acknowledged i).length = done.length := by rw [acknowledged, List.length_map]
  have extended : (t.acknowledge i message.position).acknowledged i =
      (done ++ [message]).map (·.position) := by
    rw [Consumed.acknowledge_self, acknowledged, List.map_append, List.map_singleton]
  have regrouped : (consumers i).messages = (done ++ [message]) ++ rest :=
    split.trans (List.append_cons ..)
  refine ⟨?_, fun other mem => ?_⟩
  · rw [extended, regrouped]
    exact (List.prefix_append _ _).map _
  · rw [extended, List.length_map, regrouped, List.take_left' rfl] at mem
    rcases List.mem_append.1 mem with before | here
    · refine settled.2 other ?_
      rwa [split, length, List.take_left' rfl]
    · rw [List.mem_singleton.1 here]
      exact holds

variable (lasting : Lasting D handled)

/-- The service's own calls as part of a consumer. -/
theorem serving_part (i : ι) :
    Part D i (consumption D consumers handled lasting) i (serving K) Consumed.shared where
  rely t t' moved := moved.1
  inv t holds := holds.1
  atCall c t _ waiting := waiting
  answer c t reply t' step := by
    cases step with
    | served answered => exact answered
  guarantee c t reply t' holds step guaranteed inv := by
    cases step with
    | served answered =>
        refine ⟨⟨.inr guaranteed, fun _ _ => rfl⟩, inv, fun j => ?_⟩
        refine (holds.2 j).of_shared rfl fun message before => ?_
        by_cases same : j = i
        · subst same
          exact lasting.own before guaranteed
        · exact lasting.others before (D.compatible (Ne.symm same) guaranteed)

variable {P : List String → Prop}

/-- What a program of the service yields it yields in a consumer, which acknowledges nothing
meanwhile. -/
theorem yields_serve {i : ι} {p : Program K K.Error α} {Q : α → S → Prop} {t : Consumed ι S}
    (yields : p.Yields D i Q t.shared) (holds : P (t.acknowledged i)) :
    (serve p).Yields (consumption D consumers handled lasting) i
      (fun a t' => Q a t'.shared ∧ P (t'.acknowledged i)) t := by
  refine (Keeps.embed (F := fun t => P (t.acknowledged i)) (serving_part lasting i) yields holds
    (fun t t' before moved => ?_) fun c t' reply t'' before step => ?_).mono ?_
  · rwa [moved.2]
  · cases step with
    | served answered => exact before
  · exact fun outcome t' _ holds a returned => ⟨holds.1 a returned, holds.2⟩

/-- An operation of the batch other than `acknowledge` changes nothing. -/
theorem yields_operation {i : ι} {c : BatchOperation} {t : Consumed ι S}
    (other : ∀ position, c ≠ .acknowledge position) (holds : P (t.acknowledged i)) :
    (operation c).Yields (consumption D consumers handled lasting) i
      (fun _ t' => P (t'.acknowledged i)) t := by
  refine yields_call fun t₁ moved inv => ⟨?_, fun reply t₂ step => ?_⟩
  · cases c with
    | acknowledge position => exact absurd rfl (other position)
    | isActive => trivial
    | keepAlive => trivial
    | commit => trivial
  · cases step with
    | acknowledged => exact absurd rfl (other _)
    | operated _ =>
        refine ⟨⟨.inl rfl, fun _ _ => rfl⟩, inv, fun _ t₃ _ later => ?_⟩
        rwa [later.2, moved.2]

theorem yields_acknowledge {i : ι} {done rest : List PipelineMessage} {message : PipelineMessage}
    {t : Consumed ι S} (split : (consumers i).messages = done ++ message :: rest)
    (acknowledged : t.acknowledged i = done.map (·.position))
    (holds : handled i message t.shared) :
    (operation (.acknowledge message.position)).Yields (consumption D consumers handled lasting) i
      (fun _ t' => t'.acknowledged i = (done ++ [message]).map (·.position)) t := by
  refine yields_call fun t₁ moved inv => ?_
  have due : Due consumers handled i message.position t₁ :=
    ⟨done, message, rest, split, moved.2.trans acknowledged, rfl, lasting.others holds moved.1⟩
  refine ⟨due, fun reply t₂ step => ?_⟩
  cases step with
  | operated other => exact absurd rfl (other _)
  | acknowledged =>
      refine ⟨⟨.inl rfl, fun j other => t₁.acknowledge_of_ne other _⟩, ⟨inv.1, fun j => ?_⟩, ?_⟩
      · by_cases same : j = i
        · subst same
          exact due.settled (inv.2 j)
        · exact (inv.2 j).of_shared (t₁.acknowledge_of_ne same _) fun _ before => before
      · intro _ t₃ _ later
        rw [later.2, Consumed.acknowledge_self, moved.2, acknowledged, List.map_append,
          List.map_singleton]

/-! ## The message loop -/

/-- Every callback that returns leaves its message handled; the one that ends a batch keeps the
services' discipline. -/
structure Handles (D : Discipline ι K S) (consumers : ι → Consumer Ctx Message K)
    (handled : ι → PipelineMessage → S → Prop) : Prop where
  message : ∀ i, ∀ message ∈ (consumers i).messages, ∀ s,
    ((consumers i).messageProgram message).Yields D i (fun _ => handled i message) s
  completed : ∀ i s,
    ((consumers i).callbacks.onBatchCompleted (consumers i).ctx).Yields D i (fun _ _ => True) s

/-- Between two messages: where the options acknowledge at all, just the messages done so far are
acknowledged. -/
def Progress (consumer : Consumer Ctx Message K) (done : List PipelineMessage)
    (acknowledged : List String) : Prop :=
  consumer.options.acknowledge = true → acknowledged = done.map (·.position)

theorem yields_keepAlive_of {i : ι} {t : Consumed ι S} (now : Prop) [Decidable now]
    (holds : P (t.acknowledged i)) :
    ((consumers i).expanded (if now then keepAlive else pure ())).Yields
      (consumption D consumers handled lasting) i (fun _ t' => P (t'.acknowledged i)) t := by
  split_ifs
  · rw [Consumer.expanded_keepAlive]
    exact yields_operation lasting (fun _ same => nomatch same) holds
  · exact yields_pure fun t' moved _ => by rwa [moved.2]

theorem yields_finishMessage {i : ι} {done rest : List PipelineMessage}
    {message : PipelineMessage} {t : Consumed ι S} (handledCount : Nat)
    (split : (consumers i).messages = done ++ message :: rest)
    (progress : Progress (consumers i) done (t.acknowledged i))
    (holds : handled i message t.shared) :
    ((consumers i).expanded (finishMessage (consumers i).options message handledCount)).Yields
      (consumption D consumers handled lasting) i
      (fun _ t' => Progress (consumers i) (done ++ [message]) (t'.acknowledged i)) t := by
  unfold finishMessage
  by_cases acknowledges : (consumers i).options.acknowledge = true
  · simp only [acknowledges, if_true, Consumer.expanded_bind]
    rw [Consumer.expanded_acknowledgePosition]
    exact (yields_acknowledge lasting split (progress acknowledges) holds).bind fun _ _ next =>
      yields_keepAlive_of lasting _ fun _ => next
  · simp only [acknowledges]
    exact yields_keepAlive_of lasting _ fun on => absurd on acknowledges

theorem yields_isActive {i : ι} {t : Consumed ι S} (holds : P (t.acknowledged i)) :
    ((consumers i).expanded isActive).Yields (consumption D consumers handled lasting) i
      (fun _ t' => P (t'.acknowledged i)) t := by
  rw [Consumer.expanded_isActive]
  exact yields_operation lasting (fun _ same => nomatch same) holds

theorem yields_handleMessages (handles : Handles D consumers handled) {i : ι}
    {done rest : List PipelineMessage} {t : Consumed ι S} (handledCount : Nat)
    (split : (consumers i).messages = done ++ rest)
    (progress : Progress (consumers i) done (t.acknowledged i)) :
    ((consumers i).expanded (handleMessages (consumers i).options (consumers i).ctx
      (consumers i).batch rest handledCount)).Yields (consumption D consumers handled lasting) i
      (fun _ _ => True) t := by
  induction rest generalizing done handledCount t with
  | nil => exact yields_pure fun _ _ _ => trivial
  | cons message rest ih =>
      unfold handleMessages
      rw [Consumer.expanded_bind]
      refine (yields_isActive lasting progress).bind fun active t₁ progress₁ => ?_
      cases active with
      | false => exact yields_pure fun _ _ _ => trivial
      | true =>
          simp only [if_true, Consumer.expanded_bind, Consumer.expanded_handleMessage]
          have mem : message ∈ (consumers i).messages := by
            rw [split]
            exact List.mem_append_right _ List.mem_cons_self
          refine (yields_serve lasting (handles.message i message mem t₁.shared) progress₁).bind
            fun _ t₂ post => ?_
          refine (yields_finishMessage lasting _ split post.2 post.1).bind fun _ t₃ progress₃ => ?_
          exact ih _ (split.trans (List.append_cons ..)) progress₃

/-- The end of a batch: nothing is acknowledged there. -/
theorem yields_completed (handles : Handles D consumers handled) {i : ι} {t : Consumed ι S} :
    ((consumers i).expanded (do
      keepAlive
      runMessageCallback (consumers i).options.onBatchCompleted
        (Program.call (I := transport Ctx Message K.Error)
          (TransportCall.onBatchCompleted (consumers i).ctx)))).Yields
      (consumption D consumers handled lasting) i (fun _ _ => True) t := by
  rw [Consumer.expanded_bind, Consumer.expanded_keepAlive]
  refine (yields_operation (P := fun _ => True) (c := .keepAlive) lasting
    (fun _ same => nomatch same) trivial).bind fun _ t' _ => ?_
  rw [Consumer.expanded_onBatchCompleted]
  split_ifs
  · exact (yields_serve (P := fun _ => True) lasting (handles.completed i t'.shared) trivial).mono
      fun _ _ _ _ _ _ => trivial
  · exact yields_pure fun _ _ _ => trivial

/-- A batch keeps its part, wherever a call of it throws. -/
theorem yields_processBatch (handles : Handles D consumers handled) {i : ι} {t : Consumed ι S}
    (fresh : t.acknowledged i = []) :
    (consumers i).processBatch.Yields (consumption D consumers handled lasting) i
      (fun _ _ => True) t := by
  have nothing {t : Consumed ι S} : (pure () : Program (consuming K) K.Error Unit).Yields
      (consumption D consumers handled lasting) i (fun _ _ => True) t :=
    yields_pure fun _ _ _ => trivial
  unfold Consumer.processBatch BatchStrategy.processBatch
  rw [Consumer.expanded_bind]
  refine (yields_isActive lasting (P := fun acknowledged => acknowledged = []) fresh).bind
    fun active t₁ still => ?_
  cases active with
  | false => exact nothing
  | true =>
      simp only [if_true, Consumer.expanded_bind, Consumer.expanded_commit]
      refine (yields_handleMessages lasting handles 0 (List.nil_append _).symm
        fun _ => still).bind fun completed t₂ _ => ?_
      refine (yields_operation (P := fun _ => True) (c := .commit) lasting
        (fun _ same => nomatch same) trivial).bind fun _ t₃ _ => ?_
      cases completed with
      | false => exact nothing
      | true =>
          simp only [if_true]
          rw [Consumer.expanded_bind]
          refine (yields_isActive lasting (P := fun _ => True) trivial).bind
            fun stillActive t₄ _ => ?_
          cases stillActive with
          | false => exact nothing
          | true => exact yields_completed lasting handles

end Law

/-! ## A batch of one message -/

section Single

variable [DecidableEq ι] {H : ι → Handler K S} {i : ι} {t : Consumed ι S}

theorem runs_serve {p : Program K K.Error α} {outcome : Except K.Error α} {s s' : S}
    (run : p.Runs (H i) s outcome s') (acknowledged : ι → List String) :
    (serve p).Runs (Consumption H i) ⟨s, acknowledged⟩ outcome ⟨s', acknowledged⟩ := by
  induction run with
  | done => exact .done
  | await answered _ ih => exact .await (.served answered) ih

theorem runs_operation {c : BatchOperation} (other : ∀ position, c ≠ .acknowledge position)
    (reply : c.Reply) : (operation c).Runs (Consumption H i) t (.ok reply) t :=
  .await (.operated other) .done

/-- A batch whose only message is handled acknowledges it and returns. -/
theorem Consumer.runs_single {consumer : Consumer Ctx Message K} {message : PipelineMessage}
    {s s' : S} (single : consumer.messages = [message])
    (acknowledges : consumer.options.acknowledge = true)
    (silent : consumer.options.onBatchCompleted = false) (acknowledged : ι → List String)
    (run : (consumer.messageProgram message).Runs (H i) s (.ok ()) s') :
    consumer.processBatch.Runs (Consumption H i) ⟨s, acknowledged⟩ (.ok ())
      (Consumed.acknowledge ⟨s', acknowledged⟩ i message.position) := by
  have active {t : Consumed ι S} :
      (consumer.expanded isActive).Runs (Consumption H i) t (.ok true) t := by
    rw [Consumer.expanded_isActive]
    exact runs_operation (c := .isActive) (fun _ same => nomatch same) true
  have alive {t : Consumed ι S} :
      (consumer.expanded keepAlive).Runs (Consumption H i) t (.ok ()) t := by
    rw [Consumer.expanded_keepAlive]
    exact runs_operation (c := .keepAlive) (fun _ same => nomatch same) ()
  unfold Consumer.processBatch BatchStrategy.processBatch
  rw [single, Consumer.expanded_bind]
  refine runs_bind_ok.2 ⟨true, _, active, ?_⟩
  simp only [if_true, Consumer.expanded_bind]
  refine runs_bind_ok.2 ⟨true, Consumed.acknowledge ⟨s', acknowledged⟩ i message.position, ?_, ?_⟩
  · unfold handleMessages
    rw [Consumer.expanded_bind]
    refine runs_bind_ok.2 ⟨true, _, active, ?_⟩
    simp only [if_true, Consumer.expanded_bind, Consumer.expanded_handleMessage]
    refine runs_bind_ok.2 ⟨(), _, runs_serve run acknowledged, ?_⟩
    refine runs_bind_ok.2 ⟨(), _, ?_, .done⟩
    unfold finishMessage
    simp only [acknowledges, if_true, Consumer.expanded_bind, Consumer.expanded_acknowledgePosition]
    refine runs_bind_ok.2 ⟨(), _, .await .acknowledged .done, ?_⟩
    split_ifs
    · exact alive
    · exact .done
  · rw [Consumer.expanded_commit]
    refine runs_bind_ok.2 ⟨(), _, runs_operation (c := .commit) (fun _ same => nomatch same) (), ?_⟩
    simp only [if_true, Consumer.expanded_bind]
    refine runs_bind_ok.2 ⟨true, _, active, ?_⟩
    simp only [if_true, Consumer.expanded_bind, silent]
    exact runs_bind_ok.2 ⟨(), _, alive, .done⟩

theorem visits_serve {p : Program K K.Error α} {s s' : S} (visits : p.Visits (H i) s s')
    (acknowledged : ι → List String) :
    (serve p).Visits (Consumption H i) ⟨s, acknowledged⟩ ⟨s', acknowledged⟩ := by
  induction visits with
  | here => exact .here
  | await answered _ ih => exact .await (.served answered) ih

/-- A batch whose only message is cut off while it is handled. -/
theorem Consumer.visits_single {consumer : Consumer Ctx Message K} {message : PipelineMessage}
    {s s' : S} (single : consumer.messages = [message]) (acknowledged : ι → List String)
    (visits : (consumer.messageProgram message).Visits (H i) s s') :
    consumer.processBatch.Visits (Consumption H i) ⟨s, acknowledged⟩ ⟨s', acknowledged⟩ := by
  have active {t : Consumed ι S} :
      (consumer.expanded isActive).Runs (Consumption H i) t (.ok true) t := by
    rw [Consumer.expanded_isActive]
    exact runs_operation (c := .isActive) (fun _ same => nomatch same) true
  unfold Consumer.processBatch BatchStrategy.processBatch
  rw [single, Consumer.expanded_bind]
  refine active.visits_settle ?_
  simp only [onOk_ok, if_true, Consumer.expanded_bind]
  refine Visits.settle ?_
  unfold handleMessages
  rw [Consumer.expanded_bind]
  refine active.visits_settle ?_
  simp only [onOk_ok, if_true, Consumer.expanded_bind, Consumer.expanded_handleMessage]
  exact (visits_serve visits acknowledged).settle

end Single

/-! ## Any number of batches -/

section Batches

variable [DecidableEq ι] {D : Discipline ι K S} {consumers : ι → Consumer Ctx Message K}
  {handled : ι → PipelineMessage → S → Prop}

/-- The batches as they are delivered, over a state of the services. -/
def delivered (consumers : ι → Consumer Ctx Message K) (s : S) :
    Pool ι (consuming K) K.Error Unit (Consumed ι S) where
  threads i := (consumers i).processBatch
  state := ⟨s, fun _ => []⟩

/-- In every reachable state each batch acknowledged a prefix of its messages, every acknowledged
message is handled, and the services' invariant holds. -/
theorem Handles.settled (handles : Handles D consumers handled) (lasting : Lasting D handled)
    {s : S} (inv : D.inv s) {last : Pool ι (consuming K) K.Error Unit (Consumed ι S)}
    (steps : Pool.Steps (Consumption D.handler) (delivered consumers s) last) :
    D.inv last.state.shared ∧ ∀ i, Settled consumers handled i last.state := by
  have start : (delivered consumers s).Kept (consumption D consumers handled lasting)
      fun _ outcome t => ∀ a, outcome = .ok a → True := by
    refine ⟨⟨inv, fun i => ⟨List.nil_prefix, fun message mem => ?_⟩⟩, fun i => ?_⟩
    · simp [delivered] at mem
    · exact yields_processBatch lasting handles rfl
  exact (Pool.Steps.kept (D := consumption D consumers handled lasting) steps start).1

end Batches

end RisingIntelligence.Transport
