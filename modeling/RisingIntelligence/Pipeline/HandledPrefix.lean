import RisingIntelligence.Pipeline.Transport

/-!
# The handled prefix of a batch

What a run of `BatchStrategy.processBatch` leaves behind when acknowledgement is on: the
acknowledged positions are a prefix of the batch, and every acknowledged message had its
callback complete.  The environment is arbitrary: every callback, `keepAlive` and `commit`
may return or throw at any point and `isActive` may answer anything.

* `Handled` is the loop invariant, what a trace looks like between two messages;
* `Ending` lists how a run leaves the loop or the epilogue;
* `BatchStrategy.processBatch_law` reads the law off the two.
-/

namespace RisingIntelligence.Transport

open Async

variable {Ctx Message E : Type}

abbrev Trace (Ctx Message E : Type) : Type := List (Event (transport Ctx Message E))

/-- The synchronous calls return; every other call may also throw. -/
def Admits : (c : (transport Ctx Message E).Call) →
    Except (transport Ctx Message E).Error ((transport Ctx Message E).Reply c) → Prop
  | .isActive, reply => ∃ active, reply = .ok active
  | .acknowledge _, reply => reply = .ok ()
  | _, _ => True

/-! ## What a trace shows -/

def acknowledgement : Event (transport Ctx Message E) → Option String
  | ⟨.acknowledge position, _⟩ => some position
  | _ => none

def messageCall : Event (transport Ctx Message E) → Option (String × Message)
  | ⟨.onMessage _ context decoded, _⟩ => some (context.position, decoded)
  | _ => none

def completedMessage : Event (transport Ctx Message E) → Option (String × Message)
  | ⟨.onMessage _ context decoded, .ok _⟩ => some (context.position, decoded)
  | _ => none

def completedFailure : Event (transport Ctx Message E) → Option (String × E)
  | ⟨.onDeserializeFailure _ context error, .ok _⟩ => some (context.position, error)
  | _ => none

/-- A message callback: one of the three that concern a single message. -/
def TransportCall.isMessageCallback : TransportCall Ctx Message E → Bool
  | .onEmptyValue .. | .onDeserializeFailure .. | .onMessage .. => true
  | _ => false

/-- Handling a message is calling its callback or acknowledging it. -/
def TransportCall.isHandling : TransportCall Ctx Message E → Bool
  | .acknowledge _ => true
  | call => call.isMessageCallback

def threwCallback : Event (transport Ctx Message E) → Bool
  | ⟨call, .error _⟩ => call.isMessageCallback
  | ⟨_, .ok _⟩ => false

/-- The position and decoded value of a decodable message. -/
def decodedMessage (options : BatchStrategy Message E) (message : PipelineMessage) :
    Option (String × Message) :=
  message.value.bind fun value =>
    match options.strategy.deserialize value with
    | .ok decoded => some (message.position, decoded)
    | .error _ => none

/-- The position and error of an undecodable message whose failure the service wants to see. -/
def reportedFailure (options : BatchStrategy Message E) (message : PipelineMessage) :
    Option (String × E) :=
  message.value.bind fun value =>
    match options.strategy.deserialize value with
    | .ok _ => none
    | .error error =>
        if options.strategy.onDeserializeFailure then some (message.position, error) else none

/-- The callback call that belongs to a message. -/
def callbackOf (options : BatchStrategy Message E) (ctx : Ctx) (batch : BatchContext)
    (message : PipelineMessage) : TransportCall Ctx Message E :=
  match message.value with
  | none => .onEmptyValue ctx (messageContext batch message)
  | some value =>
      match options.strategy.deserialize value with
      | .error error => .onDeserializeFailure ctx (messageContext batch message) error
      | .ok decoded => .onMessage ctx (messageContext batch message) decoded

/-- The handled-prefix law of one run, read off its trace. -/
structure HandledPrefixLaw (options : BatchStrategy Message E) (ctx : Ctx) (batch : BatchContext)
    (messages : List PipelineMessage) (trace : Trace Ctx Message E) : Prop where
  /-- Acknowledged positions form a prefix of the batch. -/
  acknowledged_prefix :
    trace.filterMap acknowledgement <+: messages.map (·.position)
  /-- The completed `onMessage` calls are those of the acknowledged messages, one each. -/
  completed_messages :
    trace.filterMap completedMessage =
      (messages.take (trace.filterMap acknowledgement).length).filterMap (decodedMessage options)
  /-- The completed decode-failure callbacks are those of the acknowledged messages. -/
  completed_failures :
    trace.filterMap completedFailure =
      (messages.take (trace.filterMap acknowledgement).length).filterMap (reportedFailure options)
  /-- `onMessage` is called in batch order, and never for a message past the batch. -/
  calls_in_order :
    trace.filterMap messageCall <+: messages.filterMap (decodedMessage options)
  /-- Nothing follows a throwing message callback. -/
  thrown_last : trace.Pairwise fun event _ => threwCallback event = false
  /-- A throwing message callback was the callback of the first message that is not
  acknowledged, and nothing is committed. -/
  thrown : ∀ event ∈ trace, threwCallback event = true →
    (∀ other ∈ trace, other.call ≠ .commit) ∧
      ∃ message, messages[(trace.filterMap acknowledgement).length]? = some message ∧
        event.call = callbackOf options ctx batch message
  /-- The batch is reported complete only after all of it is acknowledged and committed. -/
  completed_batch : ∀ before event after, trace = before ++ event :: after →
    event.call = .onBatchCompleted ctx →
    before.filterMap acknowledgement = messages.map (·.position) ∧ ⟨.commit, .ok ()⟩ ∈ before
  /-- Nothing is handled after the batch was found inactive. -/
  inactive : trace.Pairwise fun event later =>
    event = ⟨.isActive, .ok false⟩ → later.call.isHandling = false

/-! ## The loop invariant -/

/-- An event that can stand in the trace of a loop that is still going. -/
def InLoop (event : Event (transport Ctx Message E)) : Prop :=
  threwCallback event = false ∧ event.call ≠ .commit ∧
    (∀ ctx, event.call ≠ .onBatchCompleted ctx) ∧ event ≠ ⟨.isActive, .ok false⟩

/-- The trace after exactly the messages `done` were handled. -/
structure Handled (options : BatchStrategy Message E) (done : List PipelineMessage)
    (trace : Trace Ctx Message E) : Prop where
  acknowledged : trace.filterMap acknowledgement = done.map (·.position)
  completed : trace.filterMap completedMessage = done.filterMap (decodedMessage options)
  called : trace.filterMap messageCall = done.filterMap (decodedMessage options)
  failures : trace.filterMap completedFailure = done.filterMap (reportedFailure options)
  inLoop : ∀ event ∈ trace, InLoop event

theorem Handled.nil (options : BatchStrategy Message E) :
    Handled options [] ([] : Trace Ctx Message E) :=
  ⟨rfl, rfl, rfl, rfl, by simp⟩

/-- An event that is about no message leaves the handled messages as they are. -/
theorem Handled.neutral {options : BatchStrategy Message E} {done : List PipelineMessage}
    {trace : Trace Ctx Message E} {event : Event (transport Ctx Message E)}
    (handled : Handled options done trace) (inLoop : InLoop event)
    (silent : event.call.isHandling = false) : Handled options done (trace ++ [event]) := by
  rcases event with ⟨call, reply⟩
  have hides : acknowledgement ⟨call, reply⟩ = none ∧ completedMessage ⟨call, reply⟩ = none ∧
      messageCall ⟨call, reply⟩ = none ∧ completedFailure ⟨call, reply⟩ = none := by
    cases call <;> first | exact ⟨rfl, rfl, rfl, rfl⟩ | cases silent
  obtain ⟨ack, completed, called, failed⟩ := hides
  refine ⟨?_, ?_, ?_, ?_, ?_⟩
  · simpa [List.filterMap_append, ack] using handled.acknowledged
  · simpa [List.filterMap_append, completed] using handled.completed
  · simpa [List.filterMap_append, called] using handled.called
  · simpa [List.filterMap_append, failed] using handled.failures
  · intro event member
    rcases List.mem_append.mp member with earlier | last
    · exact handled.inLoop event earlier
    · rw [List.mem_singleton.mp last]; exact inLoop

/-- The callback of a message, if the service has it, completes; then it is acknowledged. -/
theorem Handled.message {options : BatchStrategy Message E} {done : List PipelineMessage}
    {trace segment : Trace Ctx Message E}
    {message : PipelineMessage} (handled : Handled options done trace)
    (acknowledged : segment.filterMap acknowledgement = [message.position])
    (completed : segment.filterMap completedMessage = (decodedMessage options message).toList)
    (called : segment.filterMap messageCall = (decodedMessage options message).toList)
    (failures : segment.filterMap completedFailure = (reportedFailure options message).toList)
    (inLoop : ∀ event ∈ segment, InLoop event) :
    Handled options (done ++ [message]) (trace ++ segment) := by
  have single : ∀ {β : Type} (f : PipelineMessage → Option β),
      (done ++ [message]).filterMap f = done.filterMap f ++ (f message).toList := by
    intro β f
    rw [List.filterMap_append]
    cases found : f message <;> simp [found]
  refine ⟨?_, ?_, ?_, ?_, ?_⟩
  · rw [List.filterMap_append, handled.acknowledged, acknowledged, List.map_append]; rfl
  · rw [List.filterMap_append, handled.completed, completed, single]
  · rw [List.filterMap_append, handled.called, called, single]
  · rw [List.filterMap_append, handled.failures, failures, single]
  · intro event member
    rcases List.mem_append.mp member with earlier | later
    · exact handled.inLoop event earlier
    · exact inLoop event later

/-! ## One message -/

/-- The events of a message's callback when it did not throw. -/
structure CallbackDone (options : BatchStrategy Message E) (message : PipelineMessage)
    (segment : Trace Ctx Message E) : Prop where
  acknowledged : segment.filterMap acknowledgement = []
  completed : segment.filterMap completedMessage = (decodedMessage options message).toList
  called : segment.filterMap messageCall = (decodedMessage options message).toList
  failures : segment.filterMap completedFailure = (reportedFailure options message).toList
  inLoop : ∀ event ∈ segment, InLoop event

/-- The event of a message's callback that threw. -/
structure CallbackThrew (options : BatchStrategy Message E) (ctx : Ctx) (batch : BatchContext)
    (message : PipelineMessage) (event : Event (transport Ctx Message E)) : Prop where
  threw : threwCallback event = true
  call : event.call = callbackOf options ctx batch message
  completed : completedMessage event = none
  failures : completedFailure event = none
  called : messageCall event = decodedMessage options message

theorem handleMessage_spec (options : BatchStrategy Message E) (ctx : Ctx) (batch : BatchContext)
    (message : PipelineMessage) (trace : Trace Ctx Message E) :
    (handleMessage options ctx batch message).wp (recording Admits)
      (fun outcome trace' => match outcome with
        | .ok _ => ∃ segment, trace' = trace ++ segment ∧ CallbackDone options message segment
        | .error _ => ∃ event, trace' = trace ++ [event] ∧
            CallbackThrew options ctx batch message event) trace := by
  unfold handleMessage runMessageCallback
  split
  case h_1 empty =>
    split
    · rw [Program.wp_call_recording]
      rintro (error | value) -
      · exact ⟨_, rfl, rfl, by simp [callbackOf, empty], rfl, rfl,
          by simp [messageCall, decodedMessage, empty]⟩
      · exact ⟨_, rfl, rfl, by simp [decodedMessage, empty, completedMessage],
          by simp [decodedMessage, empty, messageCall],
          by simp [reportedFailure, empty, completedFailure], by simp [InLoop, threwCallback]⟩
    · rw [Program.wp_pure]
      exact ⟨[], by simp, rfl, by simp [decodedMessage, empty], by simp [decodedMessage, empty],
        by simp [reportedFailure, empty], by simp⟩
  case h_2 value found =>
    split
    case h_1 error failed =>
      split
      case isTrue present =>
        rw [Program.wp_call_recording]
        rintro (thrown | value) -
        · exact ⟨_, rfl, rfl, by simp [callbackOf, found, failed], rfl, rfl,
            by simp [messageCall, decodedMessage, found, failed]⟩
        · exact ⟨_, rfl, rfl, by simp [decodedMessage, found, failed, completedMessage],
            by simp [decodedMessage, found, failed, messageCall],
            by simp [reportedFailure, found, failed, present, completedFailure, messageContext],
            by simp [InLoop, threwCallback]⟩
      case isFalse absent =>
        rw [Program.wp_pure]
        exact ⟨[], by simp, rfl, by simp [decodedMessage, found, failed],
          by simp [decodedMessage, found, failed],
          by simp [reportedFailure, found, failed, absent], by simp⟩
    case h_2 decoded decodes =>
      rw [Program.wp_call_recording]
      rintro (thrown | value) -
      · exact ⟨_, rfl, rfl, by simp [callbackOf, found, decodes], rfl, rfl,
          by simp [messageCall, decodedMessage, found, decodes, messageContext]⟩
      · exact ⟨_, rfl, rfl,
          by simp [decodedMessage, found, decodes, completedMessage, messageContext],
          by simp [decodedMessage, found, decodes, messageCall, messageContext],
          by simp [reportedFailure, found, decodes, completedFailure],
          by simp [InLoop, threwCallback]⟩

/-! ## The loop -/

/-- How the message loop ends with the messages `rest` not handled: its outcome and last events. -/
inductive LoopEnd (options : BatchStrategy Message E) (ctx : Ctx) (batch : BatchContext) :
    List PipelineMessage → Except E Bool → Trace Ctx Message E → Prop
  | finished : LoopEnd options ctx batch [] (.ok true) []
  | inactive {rest : List PipelineMessage} :
    LoopEnd options ctx batch rest (.ok false) [⟨.isActive, .ok false⟩]
  | threw {message : PipelineMessage} {rest : List PipelineMessage}
      {event : Event (transport Ctx Message E)} {error : E} :
    CallbackThrew options ctx batch message event →
    LoopEnd options ctx batch (message :: rest) (.error error) [event]
  | keepAliveThrew {rest : List PipelineMessage} {error : E} :
    LoopEnd options ctx batch rest (.error error) [⟨.keepAlive, .error error⟩]

/-- Acknowledge and heartbeat after a completed callback. -/
theorem finishMessage_spec {options : BatchStrategy Message E} {done : List PipelineMessage}
    {message : PipelineMessage} {trace segment : Trace Ctx Message E} {handledCount : Nat}
    (acknowledging : options.acknowledge = true) (handled : Handled options done trace)
    (callback : CallbackDone options message segment) :
    (finishMessage options message handledCount).wp (recording Admits)
      (fun outcome trace' => match outcome with
        | .ok _ => Handled options (done ++ [message]) trace'
        | .error error => ∃ before, Handled options (done ++ [message]) before ∧
            trace' = before ++ [⟨.keepAlive, .error error⟩]) (trace ++ segment) := by
  have acked : Handled options (done ++ [message])
      (trace ++ segment ++ [⟨.acknowledge message.position, .ok ()⟩]) := by
    rw [List.append_assoc]
    apply handled.message
    · simp [List.filterMap_append, callback.acknowledged, acknowledgement]
    · simp [List.filterMap_append, callback.completed, completedMessage]
    · simp [List.filterMap_append, callback.called, messageCall]
    · simp [List.filterMap_append, callback.failures, completedFailure]
    · intro event member
      rcases List.mem_append.mp member with earlier | last
      · exact callback.inLoop event earlier
      · rw [List.mem_singleton.mp last]; simp [InLoop, threwCallback]
  unfold finishMessage
  rw [if_pos acknowledging, Program.wp_bind, acknowledgePosition]
  refine (Program.wp_call_recording _ _ _).2 ?_
  rintro _ rfl
  rw [Program.onOk_ok]
  split
  · refine (Program.wp_call_recording _ _ _).2 ?_
    rintro (error | value) -
    · exact ⟨_, acked, rfl⟩
    · exact acked.neutral (by simp [InLoop, threwCallback]) rfl
  · exact acked

/-- The loop invariant carries the messages handled so far from one iteration to the next. -/
theorem handleMessages_spec {options : BatchStrategy Message E} {ctx : Ctx} {batch : BatchContext}
    (acknowledging : options.acknowledge = true) (rest : List PipelineMessage) :
    ∀ {done : List PipelineMessage} {trace : Trace Ctx Message E} (handledCount : Nat),
      Handled options done trace →
      (handleMessages options ctx batch rest handledCount).wp (recording Admits)
        (fun outcome trace' => ∃ now later before tail, rest = now ++ later ∧
          Handled options (done ++ now) before ∧ trace' = before ++ tail ∧
          LoopEnd options ctx batch later outcome tail) trace := by
  induction rest with
  | nil =>
      intro done trace handledCount handled
      rw [handleMessages, Program.wp_pure]
      exact ⟨[], [], trace, [], rfl, by simpa using handled, by simp, .finished⟩
  | cons message rest ih =>
      intro done trace handledCount handled
      rw [handleMessages, Program.wp_bind, isActive]
      refine (Program.wp_call_recording _ _ _).2 ?_
      rintro _ ⟨active, rfl⟩
      rw [Program.onOk_ok]
      cases active with
      | false =>
          rw [if_neg Bool.false_ne_true, Program.wp_pure]
          exact ⟨[], _, trace, _, rfl, by simpa using handled, rfl, .inactive⟩
      | true =>
          have here : Handled options done (trace ++ [⟨.isActive, .ok true⟩]) :=
            handled.neutral (by simp [InLoop, threwCallback]) rfl
          rw [if_pos rfl, Program.wp_bind]
          refine (handleMessage_spec options ctx batch message _).mono ?_
          rintro (error | value) trace₁ callback
          · obtain ⟨event, rfl, threw⟩ := callback
            rw [Program.onOk_error, Program.wp_done]
            exact ⟨[], _, _, _, rfl, by simpa using here, rfl, .threw threw⟩
          · obtain ⟨segment, rfl, callback⟩ := callback
            rw [Program.onOk_ok, Program.wp_bind]
            refine (finishMessage_spec acknowledging here callback).mono ?_
            rintro (error | value) trace₂ finished
            · obtain ⟨before, acked, rfl⟩ := finished
              rw [Program.onOk_error, Program.wp_done]
              exact ⟨[message], rest, before, _, rfl, acked, rfl, .keepAliveThrew⟩
            · rw [Program.onOk_ok]
              refine (ih (handledCount + 1) finished).mono ?_
              rintro outcome trace₃ ⟨now, later, before, tail, rfl, acked, rfl, ends⟩
              exact ⟨message :: now, later, before, tail, rfl, by simpa using acked, rfl, ends⟩

/-! ## The whole run -/

/-- How a run of the strategy ends with the messages `rest` not handled. -/
inductive Ending (options : BatchStrategy Message E) (ctx : Ctx) (batch : BatchContext) :
    List PipelineMessage → Trace Ctx Message E → Prop
  | inactive {rest : List PipelineMessage} :
    Ending options ctx batch rest [⟨.isActive, .ok false⟩]
  | threw {message : PipelineMessage} {rest : List PipelineMessage}
      {event : Event (transport Ctx Message E)} :
    CallbackThrew options ctx batch message event →
    Ending options ctx batch (message :: rest) [event]
  | keepAliveThrew {rest : List PipelineMessage} {error : E} :
    Ending options ctx batch rest [⟨.keepAlive, .error error⟩]
  | stopped {rest : List PipelineMessage} {reply : Except E Unit} :
    Ending options ctx batch rest [⟨.isActive, .ok false⟩, ⟨.commit, reply⟩]
  | commitThrew {error : E} : Ending options ctx batch [] [⟨.commit, .error error⟩]
  | committed {epilogue : Trace Ctx Message E} :
    (∀ event ∈ epilogue, event.call.isHandling = false ∧ event.call ≠ .commit) →
    Ending options ctx batch [] (⟨.commit, .ok ()⟩ :: epilogue)

/-- Commit and report after a loop that went through the whole batch. -/
theorem epilogue_spec (options : BatchStrategy Message E) (ctx : Ctx) (trace : Trace Ctx Message E) :
    (do
      let stillActive ← isActive
      if stillActive then
        keepAlive
        runMessageCallback options.onBatchCompleted
          (Program.call (I := transport Ctx Message E) (TransportCall.onBatchCompleted ctx))
      else pure () : BatchProgram Ctx Message E Unit).wp (recording Admits)
      (fun _ trace' => ∃ epilogue, trace' = trace ++ epilogue ∧
        ∀ event ∈ epilogue, event.call.isHandling = false ∧ event.call ≠ .commit) trace := by
  rw [Program.wp_bind, isActive]
  refine (Program.wp_call_recording _ _ _).2 ?_
  rintro _ ⟨active, rfl⟩
  rw [Program.onOk_ok]
  cases active with
  | false =>
      rw [if_neg Bool.false_ne_true, Program.wp_pure]
      exact ⟨_, rfl, by simp [TransportCall.isHandling, TransportCall.isMessageCallback]⟩
  | true =>
      rw [if_pos rfl, Program.wp_bind, keepAlive]
      refine (Program.wp_call_recording _ _ _).2 ?_
      rintro (error | value) -
      · rw [Program.onOk_error, Program.wp_done]
        exact ⟨_, by rw [List.append_assoc],
          by simp [TransportCall.isHandling, TransportCall.isMessageCallback]⟩
      · rw [Program.onOk_ok, runMessageCallback]
        split
        · refine (Program.wp_call_recording _ _ _).2 ?_
          rintro reply -
          exact ⟨_, by rw [List.append_assoc, List.append_assoc],
            by simp [TransportCall.isHandling, TransportCall.isMessageCallback]⟩
        · rw [Program.wp_pure]
          exact ⟨_, by rw [List.append_assoc],
            by simp [TransportCall.isHandling, TransportCall.isMessageCallback]⟩

/-- Every run handles a prefix of the batch and then ends in one of the listed ways. -/
theorem processBatch_spec {options : BatchStrategy Message E} {ctx : Ctx} {batch : BatchContext}
    (acknowledging : options.acknowledge = true) (messages : List PipelineMessage) :
    (options.processBatch ctx batch messages).wp (recording Admits)
      (fun _ trace => ∃ done rest before tail, messages = done ++ rest ∧
        Handled options done before ∧ trace = before ++ tail ∧
        Ending options ctx batch rest tail) [] := by
  rw [BatchStrategy.processBatch, Program.wp_bind, isActive]
  refine (Program.wp_call_recording _ _ _).2 ?_
  rintro _ ⟨active, rfl⟩
  rw [Program.onOk_ok]
  cases active with
  | false =>
      rw [if_neg Bool.false_ne_true, Program.wp_pure]
      exact ⟨[], messages, [], _, rfl, .nil options, rfl, .inactive⟩
  | true =>
      have start : Handled options [] ([⟨.isActive, .ok true⟩] : Trace Ctx Message E) :=
        (Handled.nil options).neutral (by simp [InLoop, threwCallback]) rfl
      rw [if_pos rfl, Program.wp_bind]
      refine (handleMessages_spec acknowledging messages 0 start).mono ?_
      rintro outcome trace ⟨done, rest, before, tail, rfl, handled, rfl, ends⟩
      cases ends with
      | threw threw => exact ⟨done, _, before, _, rfl, handled, rfl, .threw threw⟩
      | keepAliveThrew => exact ⟨done, rest, before, _, rfl, handled, rfl, .keepAliveThrew⟩
      | inactive =>
          rw [Program.onOk_ok, Program.wp_bind, commit]
          refine (Program.wp_call_recording _ _ _).2 ?_
          rintro (error | value) -
          · exact ⟨done, rest, before, _, rfl, handled, List.append_assoc .., .stopped⟩
          · exact ⟨done, rest, before, _, rfl, handled, List.append_assoc .., .stopped⟩
      | finished =>
          rw [Program.onOk_ok, Program.wp_bind, commit]
          refine (Program.wp_call_recording _ _ _).2 ?_
          rintro (error | value) -
          · exact ⟨done, [], before, _, rfl, handled,
              congrArg (· ++ _) (List.append_nil before), .commitThrew⟩
          · rw [Program.onOk_ok, if_pos rfl]
            refine (epilogue_spec options ctx _).mono ?_
            rintro outcome trace ⟨epilogue, rfl, quiet⟩
            exact ⟨done, [], before, _, rfl, handled, by simp, .committed quiet⟩

/-! ## The law -/

theorem acknowledgement_of_threw {event : Event (transport Ctx Message E)}
    (threw : threwCallback event = true) : acknowledgement event = none := by
  rcases event with ⟨call, error | value⟩
  · cases call <;> first | rfl | cases threw
  · cases threw

/-- A call that handles no message shows in none of the observations. -/
theorem silent_of_not_handling {event : Event (transport Ctx Message E)}
    (silent : event.call.isHandling = false) :
    acknowledgement event = none ∧ completedMessage event = none ∧ completedFailure event = none ∧
      messageCall event = none ∧ threwCallback event = false := by
  rcases event with ⟨call, error | value⟩ <;>
    cases call <;> first | exact ⟨rfl, rfl, rfl, rfl, rfl⟩ | cases silent

namespace Ending

variable {options : BatchStrategy Message E} {ctx : Ctx} {batch : BatchContext}
  {rest : List PipelineMessage} {tail : Trace Ctx Message E}

/-- The last events are either one throwing callback or handle no message. -/
theorem cases_threw (ending : Ending options ctx batch rest tail) :
    (∃ message later event, rest = message :: later ∧ tail = [event] ∧
      CallbackThrew options ctx batch message event) ∨
    ∀ event ∈ tail, event.call.isHandling = false := by
  cases ending with
  | threw threw => exact .inl ⟨_, _, _, rfl, rfl, threw⟩
  | committed uncounted =>
      refine .inr fun event member => ?_
      rcases List.mem_cons.mp member with rfl | later
      · rfl
      · exact (uncounted _ later).1
  | _ => exact .inr (by simp [TransportCall.isHandling, TransportCall.isMessageCallback])

theorem silent (ending : Ending options ctx batch rest tail) :
    tail.filterMap acknowledgement = [] ∧ tail.filterMap completedMessage = [] ∧
      tail.filterMap completedFailure = [] := by
  simp only [List.filterMap_eq_nil_iff]
  rcases ending.cases_threw with ⟨message, later, event, rfl, rfl, threw⟩ | quiet
  · simp only [List.mem_singleton, forall_eq]
    exact ⟨acknowledgement_of_threw threw.threw, threw.completed, threw.failures⟩
  · exact ⟨fun event member => (silent_of_not_handling (quiet event member)).1,
      fun event member => (silent_of_not_handling (quiet event member)).2.1,
      fun event member => (silent_of_not_handling (quiet event member)).2.2.1⟩

theorem calls (ending : Ending options ctx batch rest tail) :
    tail.filterMap messageCall <+: rest.filterMap (decodedMessage options) := by
  rcases ending.cases_threw with ⟨message, later, event, rfl, rfl, threw⟩ | quiet
  · rw [← List.singleton_append (l := later), List.filterMap_append]
    simp [List.filterMap_cons, threw.called]
  · rw [List.filterMap_eq_nil_iff.mpr fun event member =>
      (silent_of_not_handling (quiet event member)).2.2.2.1]
    exact List.nil_prefix

theorem thrown_last (ending : Ending options ctx batch rest tail) :
    tail.Pairwise fun event _ => threwCallback event = false := by
  rcases ending.cases_threw with ⟨message, later, event, rfl, rfl, threw⟩ | quiet
  · exact List.pairwise_singleton ..
  · exact List.pairwise_of_forall_mem_list fun event member _ _ =>
      (silent_of_not_handling (quiet event member)).2.2.2.2

/-- Nothing is handled after an inactive answer. -/
theorem inactive_last (ending : Ending options ctx batch rest tail) :
    tail.Pairwise fun event later =>
      event = ⟨.isActive, .ok false⟩ → later.call.isHandling = false := by
  rcases ending.cases_threw with ⟨message, later, event, rfl, rfl, threw⟩ | quiet
  · exact List.pairwise_singleton ..
  · exact List.pairwise_of_forall_mem_list fun _ _ later member _ => quiet later member

/-- The batch is reported only after a commit that returned, and with nothing left. -/
theorem reported (ending : Ending options ctx batch rest tail)
    {earlier after : Trace Ctx Message E} {event : Event (transport Ctx Message E)}
    (split : tail = earlier ++ event :: after) (report : event.call = .onBatchCompleted ctx) :
    rest = [] ∧ ⟨.commit, .ok ()⟩ ∈ earlier := by
  have member : event ∈ tail := by simp [split]
  cases ending with
  | threw threw =>
      rw [List.mem_singleton.mp member, threw.call, callbackOf] at report
      split at report
      · cases report
      · split at report <;> cases report
  | committed uncounted =>
      refine ⟨rfl, ?_⟩
      cases earlier with
      | nil => rw [List.nil_append, List.cons.injEq] at split; rw [← split.1] at report; cases report
      | cons first more => rw [List.cons_append, List.cons.injEq] at split; simp [split.1]
  | stopped =>
      rcases List.mem_cons.mp member with rfl | last
      · cases report
      · rw [List.mem_singleton.mp last] at report; cases report
  | _ => rw [List.mem_singleton.mp member] at report; cases report

end Ending

/-- The handled-prefix law of `createMessageBatchStrategy` with acknowledgement on. -/
theorem BatchStrategy.processBatch_law {options : BatchStrategy Message E} {ctx : Ctx}
    {batch : BatchContext} {messages : List PipelineMessage} {outcome : Except E Unit}
    {trace : Trace Ctx Message E} (acknowledging : options.acknowledge = true)
    (run : (options.processBatch ctx batch messages).Runs (recording Admits) [] outcome trace) :
    HandledPrefixLaw options ctx batch messages trace := by
  obtain ⟨done, rest, before, tail, rfl, handled, rfl, ending⟩ :=
    Program.wp_iff_runs.1 (processBatch_spec acknowledging messages) _ _ run
  obtain ⟨noAck, noMessage, noFailure⟩ := ending.silent
  have acked : (before ++ tail).filterMap acknowledgement = done.map (·.position) := by
    rw [List.filterMap_append, handled.acknowledged, noAck, List.append_nil]
  have taken : (done ++ rest).take ((before ++ tail).filterMap acknowledgement).length = done := by
    rw [acked, List.length_map, List.take_left]
  constructor
  case acknowledged_prefix =>
    rw [acked, List.map_append]
    exact List.prefix_append ..
  case completed_messages =>
    rw [taken, List.filterMap_append, handled.completed, noMessage, List.append_nil]
  case completed_failures =>
    rw [taken, List.filterMap_append, handled.failures, noFailure, List.append_nil]
  case calls_in_order =>
    rw [List.filterMap_append, List.filterMap_append, handled.called]
    exact (List.prefix_append_right_inj _).mpr ending.calls
  case thrown_last =>
    refine List.pairwise_append.mpr ⟨?_, ending.thrown_last, ?_⟩
    · exact List.pairwise_of_forall_mem_list fun event member _ _ => (handled.inLoop event member).1
    · exact fun event member _ _ => (handled.inLoop event member).1
  case thrown =>
    intro event member threw
    have inTail : event ∈ tail := by
      rcases List.mem_append.mp member with earlier | last
      · simp [(handled.inLoop event earlier).1] at threw
      · exact last
    rcases ending.cases_threw with ⟨message, later, thrown, rfl, rfl, callback⟩ | quiet
    · obtain rfl := List.mem_singleton.mp inTail
      refine ⟨fun other otherMember => ?_, message, ?_, callback.call⟩
      · rcases List.mem_append.mp otherMember with earlier | last
        · exact (handled.inLoop other earlier).2.1
        · rw [List.mem_singleton.mp last, callback.call, callbackOf]
          split
          · simp
          · split <;> simp
      · rw [acked, List.length_map, List.getElem?_append_right le_rfl, Nat.sub_self]
        rfl
    · simp [(silent_of_not_handling (quiet event inTail)).2.2.2.2] at threw
  case completed_batch =>
    intro earlier event after split report
    rcases List.append_eq_append_iff.mp split with ⟨inTail, rfl, tailSplit⟩ | ⟨more, rfl, overlap⟩
    · obtain ⟨rfl, committed⟩ := ending.reported tailSplit report
      rw [tailSplit, List.filterMap_append, List.append_eq_nil_iff] at noAck
      exact ⟨by simp [List.filterMap_append, noAck.1, handled.acknowledged],
        List.mem_append_right _ committed⟩
    · cases more with
      | nil =>
          have whole : tail = [] ++ event :: after := by simpa using overlap.symm
          have committed := (ending.reported whole report).2
          simp at committed
      | cons first more =>
          rw [List.cons_append, List.cons.injEq] at overlap
          exact absurd report ((handled.inLoop event (by simp [overlap.1])).2.2.1 ctx)
  case inactive =>
    refine List.pairwise_append.mpr ⟨?_, ending.inactive_last, ?_⟩
    · exact List.pairwise_of_forall_mem_list fun event member _ _ inactive =>
        absurd inactive (handled.inLoop event member).2.2.2
    · exact fun event member _ _ inactive => absurd inactive (handled.inLoop event member).2.2.2

/-- A service that decodes everything and has no optional callback. -/
def plainStrategy : BatchStrategy Unit String where
  strategy := { deserialize := fun _ => .ok (), onEmptyValue := false, onDeserializeFailure := false }
  progressInterval := 50
  progressInterval_pos := by decide
  acknowledge := true
  onBatchCompleted := false

/-- A run of two messages: the empty one is acknowledged, the callback of the other throws. -/
def secondThrows : Trace Unit Unit String :=
  [⟨.isActive, .ok true⟩, ⟨.isActive, .ok true⟩, ⟨.acknowledge "0", .ok ()⟩,
    ⟨.isActive, .ok true⟩,
    ⟨.onMessage () ⟨"raw-events", 0, "1"⟩ (), .error "database unavailable"⟩]

theorem plainStrategy_runs_secondThrows :
    (plainStrategy.processBatch () ⟨"raw-events", 0, "1"⟩
      [⟨none, "0"⟩, ⟨some ByteArray.empty, "1"⟩]).Runs (recording Admits) []
      (.error "database unavailable") secondThrows := by
  refine .await (r := .ok true) ⟨⟨_, rfl⟩, rfl⟩ ?_
  refine .await (r := .ok true) ⟨⟨_, rfl⟩, rfl⟩ ?_
  refine .await (r := .ok ()) ⟨by rfl, rfl⟩ ?_
  refine .await (r := .ok true) ⟨⟨_, rfl⟩, rfl⟩ ?_
  refine .await (r := .error "database unavailable") ⟨trivial, rfl⟩ ?_
  exact .done

theorem BatchStrategy.processBatch_law_secondThrows :
    HandledPrefixLaw plainStrategy () ⟨"raw-events", 0, "1"⟩
      [⟨none, "0"⟩, ⟨some ByteArray.empty, "1"⟩] secondThrows :=
  BatchStrategy.processBatch_law rfl plainStrategy_runs_secondThrows

end RisingIntelligence.Transport
