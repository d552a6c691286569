import RisingIntelligence.Async.Program

/-!
# Starting up and unwinding

`initialization-rollback.ts` and `startup-facade.ts` of `packages/shared/src/runtime`, with the step
runner of `lifecycle.ts` and `serializeError` of `errors.ts`.

An initialisation is a program of its own: it connects resources through the facade and awaits
other code.  The facade registers what was connected, newest first, and `run` sweeps the registry
when the initialisation throws.  `run_unwinds_iff`: the sweep reaches every resource and the error
of the initialisation comes out, exactly when every error of a `disconnect` can be written to the
log.
-/

namespace RisingIntelligence.Runtime

open Async

/-! ## Errors -/

/-- A thrown value: an `Error`, a value with what `String` makes of it, or a value that `String`
raises an error for. -/
inductive Thrown : Type
  | error (name message : String) (stack : Option String)
  | value (text : String)
  | unprintable (raised : Thrown)

structure SerializedError where
  message : String
  name : Option String
  stack : Option String

/-- The variables of the process that `serializeError` looks up. -/
structure ErrorEnvironment where
  logErrorStacks : Option String
  nodeEnv : Option String

def shouldIncludeStackByDefault (env : ErrorEnvironment) : Bool :=
  if env.logErrorStacks = some "true" then true
  else if env.logErrorStacks = some "false" then false
  else env.nodeEnv = some "development" || env.nodeEnv = some "test"

def serializeError (env : ErrorEnvironment) (error : Thrown) (includeStack : Option Bool) :
    Except Thrown (SerializedError ⊕ String) :=
  match error with
  | .error name message stack =>
      let withStack := includeStack.getD (shouldIncludeStackByDefault env)
      .ok (.inl { message, name := some name, stack := if withStack then stack else none })
  | .value text => .ok (.inr text)
  | .unprintable raised => .error raised

/-! ## The facade -/

/-- What a service starts up with: its resources, each known by its pair of `connect` and
`disconnect`, and the other code it awaits. -/
structure Surroundings where
  Connection : Type
  Resource : Connection → Type
  Other : Type
  Answer : Other → Type

variable {S : Surroundings} {α : Type}

structure StartupResourceConnection (S : Surroundings) where
  name : String
  connection : S.Connection
  disconnectErrorMessage : Option String := none

structure StartupResourceSpec (S : Surroundings) where
  name : String
  connection : S.Connection
  disconnectErrorMessage : Option String := none
  rollbackAction : Option String := none

structure InitializationResourceStep (S : Surroundings) where
  name : String
  connection : S.Connection
  rollbackErrorMessage : String

/-- A step as the resource builder registers it: to run it is to disconnect the resource. -/
structure ShutdownStep (S : Surroundings) where
  name : String
  connection : S.Connection
  resource : S.Resource connection
  errorMessage : Option String

inductive StartupCall (S : Surroundings) : Type
  | connect (connection : S.Connection)
  | disconnect (connection : S.Connection) (resource : S.Resource connection)
  | warn (step : String) (error : SerializedError ⊕ String) (message : String)
  | other (call : S.Other)

@[reducible] def StartupCall.Reply : StartupCall S → Type
  | .connect connection => S.Resource connection
  | .disconnect _ _ => Unit
  | .warn _ _ _ => Unit
  | .other call => S.Answer call

/-- The calls that leave the facade. -/
abbrev startup (S : Surroundings) : Interface where
  Call := StartupCall S
  Reply := StartupCall.Reply
  Error := Thrown

def callStartup (c : StartupCall S) : Program (startup S) Thrown c.Reply :=
  Program.call (I := startup S) c

/-- One turn of the loop of `runShutdownSteps`; the registered steps have no `onSuccess`. -/
def runShutdownStep (env : ErrorEnvironment) (step : ShutdownStep S) :
    Program (startup S) Thrown Unit :=
  (callStartup (.disconnect step.connection step.resource)).tryCatch fun error =>
    match serializeError env error none with
    | .error raised => .throw raised
    | .ok serialized =>
        callStartup (.warn step.name serialized
          (step.errorMessage.getD (step.name ++ " shutdown step failed")))

def runShutdownSteps (env : ErrorEnvironment) :
    List (ShutdownStep S) → Program (startup S) Thrown Unit
  | [] => pure ()
  | step :: steps => do
      runShutdownStep env step
      runShutdownSteps env steps

/-- `steps.unshift(step)` -/
def register (step : ShutdownStep S) (steps : List (ShutdownStep S)) : List (ShutdownStep S) :=
  step :: steps

/-- The registry is emptied before the first step runs, and stays empty if one throws. -/
def rollback (env : ErrorEnvironment) (steps : List (ShutdownStep S)) :
    Program (startup S) Empty (Except Thrown Unit × List (ShutdownStep S)) :=
  if steps.length = 0 then pure (.ok (), steps)
  else (runShutdownSteps env steps).settle fun outcome => pure (outcome, [])

def create (step : InitializationResourceStep S) (steps : List (ShutdownStep S)) :
    Program (startup S) Thrown (S.Resource step.connection × List (ShutdownStep S)) := do
  let resource ← callStartup (.connect step.connection)
  pure (resource, register
    { name := step.name
      connection := step.connection
      resource
      errorMessage := some step.rollbackErrorMessage } steps)

def defaultDisconnectErrorMessage (name : String) (rollbackAction : Option String) : String :=
  name ++ " " ++ rollbackAction.getD "cleanup" ++ " failed during initialization rollback"

def connect (resource : StartupResourceConnection S) (steps : List (ShutdownStep S)) :
    Program (startup S) Thrown (S.Resource resource.connection × List (ShutdownStep S)) :=
  create
    { name := resource.name
      connection := resource.connection
      rollbackErrorMessage :=
        resource.disconnectErrorMessage.getD (defaultDisconnectErrorMessage resource.name none) } steps

/-- `create` of the connection factory, which the connector of a service goes through. -/
def createConnection (spec : StartupResourceSpec S) : StartupResourceConnection S where
  name := spec.name
  connection := spec.connection
  disconnectErrorMessage := some (spec.disconnectErrorMessage.getD
    (defaultDisconnectErrorMessage spec.name (some (spec.rollbackAction.getD "cleanup"))))

/-! ## Initialisations -/

inductive FacadeCall (S : Surroundings) : Type
  | connect (resource : StartupResourceConnection S)
  | other (call : S.Other)

@[reducible] def FacadeCall.Reply : FacadeCall S → Type
  | .connect resource => S.Resource resource.connection
  | .other call => S.Answer call

/-- What the callback given to `run` may await. -/
abbrev facade (S : Surroundings) : Interface where
  Call := FacadeCall S
  Reply := FacadeCall.Reply
  Error := Thrown

/-- What the facade answers to a call.  A failed `connect` registers nothing. -/
def answer : (call : FacadeCall S) → List (ShutdownStep S) →
    Program (startup S) Empty (Except Thrown call.Reply × List (ShutdownStep S))
  | .connect resource, steps => (connect resource steps).settle fun outcome =>
      match outcome with
      | .ok (value, registered) => pure (.ok value, registered)
      | .error error => pure (.error error, steps)
  | .other call, steps => (callStartup (.other call)).settle fun reply => pure (reply, steps)

/-- The callback with the facade behind its calls; it may catch the error of a `connect`. -/
def initialized (initialization : Program (facade S) Thrown α) (steps : List (ShutdownStep S)) :
    Program (startup S) Empty (Except Thrown α × List (ShutdownStep S)) :=
  initialization.serve answer steps

/-- What `run` rejects with: the error it caught, or the one that its `rollback` threw. -/
inductive StartupFailure : Type
  | initialization (error : Thrown)
  | rollback (error : Thrown)

def run (env : ErrorEnvironment) (initialization : Program (facade S) Thrown α)
    (steps : List (ShutdownStep S)) :
    Program (startup S) Empty (Except StartupFailure α × List (ShutdownStep S)) := do
  let (outcome, registered) ← initialized initialization steps
  match outcome with
  | .ok result => pure (.ok result, registered)
  | .error error => do
      let (swept, left) ← rollback env registered
      match swept with
      | .ok () => pure (.error (.initialization error), left)
      | .error raised => pure (.error (.rollback raised), left)

/-! ## What a trace shows -/

/-- The calls of the callback as they leave the facade. -/
def seen : Event (facade S) → Event (startup S)
  | ⟨.connect resource, reply⟩ => ⟨.connect resource.connection, reply⟩
  | ⟨.other call, reply⟩ => ⟨.other call, reply⟩

/-- The resource that a call created. -/
def connected : Event (startup S) → Option (Σ connection, S.Resource connection)
  | ⟨.connect connection, .ok resource⟩ => some ⟨connection, resource⟩
  | _ => none

/-- The resource that a call was to disconnect. -/
def disconnected : Event (startup S) → Option (Σ connection, S.Resource connection)
  | ⟨.disconnect connection resource, _⟩ => some ⟨connection, resource⟩
  | _ => none

/-- What a failed `disconnect` threw can be written to the log. -/
def Loggable (env : ErrorEnvironment) : Event (startup S) → Prop
  | ⟨.disconnect _ _, .error error⟩ => ∃ serialized, serializeError env error none = .ok serialized
  | _ => True

/-- The logger did not throw. -/
def Logged : Event (startup S) → Prop
  | ⟨.warn _ _ _, reply⟩ => reply = .ok ()
  | _ => True

/-- What `run` promises.  Once the initialisation succeeded nothing more is called; once it threw,
every resource it had created is disconnected, the last one first, its error comes out, and another
`rollback` does nothing. -/
def Unwound (env : ErrorEnvironment) (initialization : Program (facade S) Thrown α)
    (result : Except StartupFailure α) (left : List (ShutdownStep S))
    (events : List (Event (startup S))) : Prop :=
  ∃ outcome own after, initialization.Recorded outcome own ∧ events = own.map seen ++ after ∧
    (∀ value, outcome = .ok value →
      result = .ok value ∧ after = [] ∧ events.filterMap disconnected = []) ∧
    ∀ error, outcome = .error error →
      result = .error (.initialization error) ∧
        events.filterMap disconnected = ((own.map seen).filterMap connected).reverse ∧
        rollback env left = pure (.ok (), left)

def ShutdownStep.live (step : ShutdownStep S) : Σ connection, S.Resource connection :=
  ⟨step.connection, step.resource⟩

variable {env : ErrorEnvironment}

/-! ## The sweep -/

/-- The awaited call of a step. -/
def ShutdownStep.ran (step : ShutdownStep S) (reply : Except Thrown Unit) : Event (startup S) :=
  ⟨.disconnect step.connection step.resource, reply⟩

/-- The line that is logged when a step failed. -/
def ShutdownStep.warned (step : ShutdownStep S) (error : SerializedError ⊕ String)
    (reply : Except Thrown Unit) : Event (startup S) :=
  ⟨.warn step.name error (step.errorMessage.getD (step.name ++ " shutdown step failed")), reply⟩

/-- A step ran, or its error was logged, or its error could not be written. -/
theorem runShutdownStep_cases {step : ShutdownStep S} {outcome : Except Thrown Unit}
    {events : List (Event (startup S))}
    (recorded : (runShutdownStep env step).Recorded outcome events) :
    (outcome = .ok () ∧ events = [step.ran (.ok ())]) ∨
      (∃ error text, serializeError env error none = .ok text ∧
        events = [step.ran (.error error), step.warned text outcome]) ∨
      ∃ error raised, serializeError env error none = .error raised ∧ outcome = .error raised ∧
        events = [step.ran (.error error)] := by
  obtain ⟨reply, before, after, called, handled, rfl⟩ := Program.recorded_settle.1 recorded
  have ran : before = [step.ran reply] := Program.recorded_call.1 called
  subst ran
  rcases reply with error | value
  · rw [Program.onError_error] at handled
    rcases serialized : serializeError env error none with raised | text
    · rw [serialized] at handled
      obtain ⟨thrown, rfl⟩ := Program.recorded_done.1 handled
      exact .inr (.inr ⟨error, raised, serialized, thrown, rfl⟩)
    · rw [serialized] at handled
      have warned : after = [step.warned text outcome] := Program.recorded_call.1 handled
      subst warned
      exact .inr (.inl ⟨error, text, serialized, rfl⟩)
  · obtain ⟨returned, rfl⟩ := Program.recorded_done.1 handled
    exact .inl ⟨returned, rfl⟩

theorem runShutdownStep_recorded {step : ShutdownStep S} {outcome : Except Thrown Unit}
    {events : List (Event (startup S))}
    (recorded : (runShutdownStep env step).Recorded outcome events)
    (logs : ∀ event ∈ events, Logged event) :
    events.filterMap disconnected = [step.live] ∧
      (outcome = .ok () ↔ ∀ event ∈ events, Loggable env event) := by
  rcases runShutdownStep_cases recorded with
    ⟨rfl, rfl⟩ | ⟨error, text, serialized, rfl⟩ | ⟨error, raised, serialized, rfl, rfl⟩
  · refine ⟨rfl, fun _ => ?_, fun _ => rfl⟩
    exact List.forall_mem_singleton.2 trivial
  · have quiet : outcome = .ok () := logs _ (List.mem_cons_of_mem _ (List.mem_singleton_self _))
    refine ⟨rfl, fun _ => ?_, fun _ => quiet⟩
    exact List.forall_mem_cons.2 ⟨⟨text, serialized⟩, List.forall_mem_singleton.2 trivial⟩
  · refine ⟨rfl, fun same => (nomatch same), fun loggable => ?_⟩
    obtain ⟨text, written⟩ := loggable _ (List.mem_singleton_self _)
    rw [serialized] at written
    cases written

/-- The sweep goes on to the next step as long as errors can be written. -/
theorem runShutdownSteps_recorded {steps : List (ShutdownStep S)} {outcome : Except Thrown Unit}
    {events : List (Event (startup S))}
    (recorded : (runShutdownSteps env steps).Recorded outcome events)
    (logs : ∀ event ∈ events, Logged event) :
    (outcome = .ok () → events.filterMap disconnected = steps.map ShutdownStep.live) ∧
      (outcome = .ok () ↔ ∀ event ∈ events, Loggable env event) := by
  induction steps generalizing events with
  | nil =>
      obtain ⟨rfl, rfl⟩ := Program.recorded_done.1 recorded
      exact ⟨fun _ => rfl, by simp⟩
  | cons step steps ih =>
      obtain ⟨first, before, after, ran, rest, rfl⟩ := Program.recorded_settle.1 recorded
      have logsBefore : ∀ event ∈ before, Logged event := fun event mem =>
        logs event (List.mem_append_left _ mem)
      have logsAfter : ∀ event ∈ after, Logged event := fun event mem =>
        logs event (List.mem_append_right _ mem)
      obtain ⟨swept, loggable⟩ := runShutdownStep_recorded ran logsBefore
      rcases first with raised | value
      · obtain ⟨rfl, rfl⟩ := Program.recorded_done.1 rest
        simpa using loggable
      · obtain ⟨sweptAfter, loggableAfter⟩ := ih rest logsAfter
        have fine : ∀ event ∈ before, Loggable env event := loggable.1 rfl
        constructor
        · intro returned
          rw [List.filterMap_append, swept, sweptAfter returned]
          rfl
        · rw [loggableAfter, List.forall_mem_append]
          exact ⟨fun all => ⟨fine, all⟩, fun all => all.2⟩

/-! ## The registry -/

theorem connect_recorded {resource : StartupResourceConnection S} {steps : List (ShutdownStep S)}
    {outcome : Except Thrown (S.Resource resource.connection × List (ShutdownStep S))}
    {events : List (Event (startup S))}
    (recorded : (connect resource steps).Recorded outcome events) :
    (∃ error, outcome = .error error ∧
        events = [seen ⟨.connect resource, .error error⟩]) ∨
      ∃ value registered, outcome = .ok (value, registered) ∧
        events = [seen ⟨.connect resource, .ok value⟩] ∧
        registered.map ShutdownStep.live =
          ⟨resource.connection, value⟩ :: steps.map ShutdownStep.live := by
  obtain ⟨reply, before, after, called, rest, rfl⟩ := Program.recorded_settle.1 recorded
  have traced : before = [⟨.connect resource.connection, reply⟩] := Program.recorded_call.1 called
  subst traced
  rcases reply with error | value
  · obtain ⟨thrown, rfl⟩ := Program.recorded_done.1 rest
    exact .inl ⟨error, thrown, rfl⟩
  · obtain ⟨returned, rfl⟩ := Program.recorded_done.1 rest
    exact .inr ⟨value, _, returned, rfl, rfl⟩

/-- An answered call left the facade as it is, and what it created is at the head. -/
theorem answer_recorded {call : FacadeCall S} {steps registered : List (ShutdownStep S)}
    {reply : Except Thrown call.Reply} {events : List (Event (startup S))}
    (recorded : (answer call steps).Recorded (.ok (reply, registered)) events) :
    events = [seen ⟨call, reply⟩] ∧
      registered.map ShutdownStep.live =
        (events.filterMap connected).reverse ++ steps.map ShutdownStep.live := by
  cases call with
  | connect resource =>
      obtain ⟨first, before, after, called, rest, rfl⟩ := Program.recorded_settle.1 recorded
      rcases connect_recorded called with ⟨error, rfl, rfl⟩ | ⟨value, held, rfl, rfl, added⟩
      · obtain ⟨same, rfl⟩ := Program.recorded_done.1 rest
        cases same
        exact ⟨rfl, rfl⟩
      · obtain ⟨same, rfl⟩ := Program.recorded_done.1 rest
        cases same
        exact ⟨rfl, added⟩
  | other call =>
      obtain ⟨first, before, after, called, rest, rfl⟩ := Program.recorded_settle.1 recorded
      obtain rfl := Program.recorded_call.1 called
      obtain ⟨same, rfl⟩ := Program.recorded_done.1 rest
      cases same
      exact ⟨rfl, rfl⟩

/-- The registry holds what the callback created, the last one first. -/
theorem initialized_recorded {initialization : Program (facade S) Thrown α}
    {steps registered : List (ShutdownStep S)} {outcome : Except Thrown α}
    {events : List (Event (startup S))}
    (recorded : (initialized initialization steps).Recorded (.ok (outcome, registered)) events) :
    ∃ own, initialization.Recorded outcome own ∧ events = own.map seen ∧
      registered.map ShutdownStep.live =
        (events.filterMap connected).reverse ++ steps.map ShutdownStep.live := by
  refine Program.recorded_serve (P := fun held own events registered =>
    events = own.map seen ∧ registered.map ShutdownStep.live =
      (events.filterMap connected).reverse ++ held.map ShutdownStep.live)
    (fun _ => ⟨rfl, rfl⟩) ?_ recorded
  intro call held reply held' before answered own after registered rest
  obtain ⟨traced, kept⟩ := answer_recorded answered
  obtain ⟨rfl, added⟩ := rest
  constructor
  · rw [traced]
    rfl
  · rw [added, kept, List.filterMap_append, List.reverse_append, List.append_assoc]

theorem rollback_recorded {steps left : List (ShutdownStep S)} {swept : Except Thrown Unit}
    {events : List (Event (startup S))}
    (recorded : (rollback env steps).Recorded (.ok (swept, left)) events) :
    left = [] ∧ (runShutdownSteps env steps).Recorded swept events := by
  unfold rollback at recorded
  split at recorded
  · rename_i empty
    obtain rfl := List.length_eq_zero_iff.1 empty
    obtain ⟨same, rfl⟩ := Program.recorded_done.1 recorded
    cases same
    exact ⟨rfl, .done⟩
  · obtain ⟨first, before, after, ran, rest, rfl⟩ := Program.recorded_settle.1 recorded
    obtain ⟨same, rfl⟩ := Program.recorded_done.1 rest
    cases same
    exact ⟨rfl, (List.append_nil before).symm ▸ ran⟩

/-- A second `rollback` calls nothing, whatever the first one came to. -/
theorem rollback_rollback {steps left : List (ShutdownStep S)} {swept : Except Thrown Unit}
    {events : List (Event (startup S))}
    (recorded : (rollback env steps).Recorded (.ok (swept, left)) events) :
    rollback env left = pure (.ok (), left) := by
  obtain ⟨rfl, _⟩ := rollback_recorded recorded
  rfl

/-- The two ways through `run`. -/
theorem run_recorded {initialization : Program (facade S) Thrown α}
    {steps left : List (ShutdownStep S)} {result : Except StartupFailure α}
    {events : List (Event (startup S))}
    (recorded : (run env initialization steps).Recorded (.ok (result, left)) events) :
    ∃ outcome registered before after,
      (initialized initialization steps).Recorded (.ok (outcome, registered)) before ∧
        events = before ++ after ∧
        ((∃ value, outcome = .ok value ∧ result = .ok value ∧ after = []) ∨
          ∃ error swept, outcome = .error error ∧
            (rollback env registered).Recorded (.ok (swept, left)) after ∧
            ((swept = .ok () ∧ result = .error (.initialization error)) ∨
              ∃ raised, swept = .error raised ∧ result = .error (.rollback raised))) := by
  obtain ⟨⟨outcome, registered⟩, before, after, first, rest, rfl⟩ :=
    Program.recorded_bind_ok.1 recorded
  refine ⟨outcome, registered, before, after, first, rfl, ?_⟩
  rcases outcome with error | value
  · obtain ⟨⟨swept, emptied⟩, sweep, last, ran, tail, rfl⟩ := Program.recorded_bind_ok.1 rest
    rcases swept with raised | done
    · obtain ⟨same, rfl⟩ := Program.recorded_done.1 tail
      cases same
      rw [List.append_nil]
      exact .inr ⟨error, _, rfl, ran, .inr ⟨raised, rfl, rfl⟩⟩
    · obtain ⟨same, rfl⟩ := Program.recorded_done.1 tail
      cases same
      rw [List.append_nil]
      exact .inr ⟨error, _, rfl, ran, .inl ⟨rfl, rfl⟩⟩
  · obtain ⟨same, rfl⟩ := Program.recorded_done.1 rest
    cases same
    exact .inl ⟨value, rfl, rfl, rfl⟩

/-! ## Every initialisation is unwound -/

theorem disconnected_seen (own : List (Event (facade S))) :
    (own.map seen).filterMap disconnected = [] := by
  rw [List.filterMap_map, List.filterMap_eq_nil_iff]
  intro event _
  rcases event with ⟨_ | _, _⟩ <;> rfl

theorem loggable_seen (own : List (Event (facade S))) :
    ∀ event ∈ own.map seen, Loggable env event := by
  intro event mem
  obtain ⟨⟨_ | _, _⟩, _, rfl⟩ := List.mem_map.1 mem <;> trivial

/-- The error of a `rollback` is never the error of the initialisation. -/
theorem not_unwound_of_rollback {initialization : Program (facade S) Thrown α}
    {left : List (ShutdownStep S)} {events : List (Event (startup S))} {raised : Thrown} :
    ¬Unwound env initialization (.error (.rollback raised)) left events := by
  intro ⟨outcome, _, _, _, _, returned, threw⟩
  rcases outcome with error | value
  · obtain ⟨same, _⟩ := threw error rfl
    cases same
  · obtain ⟨same, _⟩ := returned value rfl
    cases same

/-- The registry of a new facade is empty.  Whatever the initialisation and its calls do, `run`
keeps its promise exactly when every error of a `disconnect` can be written to the log. -/
theorem run_unwinds_iff (env : ErrorEnvironment) (initialization : Program (facade S) Thrown α)
    {result : Except StartupFailure α} {left : List (ShutdownStep S)}
    {events : List (Event (startup S))}
    (recorded : (run env initialization []).Recorded (.ok (result, left)) events)
    (logs : ∀ event ∈ events, Logged event) :
    Unwound env initialization result left events ↔ ∀ event ∈ events, Loggable env event := by
  obtain ⟨outcome, registered, before, after, first, rfl, ending⟩ := run_recorded recorded
  obtain ⟨own, start, rfl, held⟩ := initialized_recorded first
  rcases ending with ⟨value, rfl, rfl, rfl⟩ | ⟨error, swept, rfl, ran, ending⟩
  · rw [List.append_nil]
    constructor
    · exact fun _ => loggable_seen own
    · intro _
      refine ⟨.ok value, own, [], start, (List.append_nil _).symm, ?_, fun _ same => nomatch same⟩
      intro returned same
      cases same
      exact ⟨rfl, rfl, disconnected_seen own⟩
  · have again := rollback_rollback ran
    obtain ⟨rfl, sweep⟩ := rollback_recorded ran
    have logsAfter : ∀ event ∈ after, Logged event := fun event mem =>
      logs event (List.mem_append_right _ mem)
    obtain ⟨all, loggable⟩ := runShutdownSteps_recorded sweep logsAfter
    rcases ending with ⟨rfl, rfl⟩ | ⟨raised, rfl, rfl⟩
    · have written : ∀ event ∈ own.map seen ++ after, Loggable env event :=
        List.forall_mem_append.2 ⟨loggable_seen own, loggable.1 rfl⟩
      have reached : (own.map seen ++ after).filterMap disconnected =
          ((own.map seen).filterMap connected).reverse := by
        rw [List.filterMap_append, disconnected_seen, all rfl, held]
        simp
      constructor
      · exact fun _ => written
      · intro _
        refine ⟨.error error, own, after, start, rfl, fun _ same => (nomatch same), ?_⟩
        intro thrown same
        cases same
        exact ⟨rfl, reached, again⟩
    · constructor
      · exact fun unwound => absurd unwound not_unwound_of_rollback
      · intro written
        have swept := loggable.2 (List.forall_mem_append.1 written).2
        cases swept

/-! ## A startup that fails -/

/-- Resources that are all alike, and one other call. -/
abbrev stores : Surroundings where
  Connection := String
  Resource _ := Unit
  Other := Unit
  Answer _ := Unit

def connectStore (name rollbackAction : String) : Program (facade stores) Thrown Unit :=
  Program.call (I := facade stores)
    (.connect (createConnection { name, connection := name, rollbackAction := some rollbackAction }))

def startStores : Program (facade stores) Thrown Unit := do
  connectStore "postgres" "disconnect"
  connectStore "redis" "disconnect"
  Program.call (I := facade stores) (.other ())

def production : ErrorEnvironment where
  logErrorStacks := none
  nodeEnv := some "production"

/-- `new Error("missing allowlist")` -/
def missingAllowlist : Thrown := .error "Error" "missing allowlist" none

def connectionLost : Thrown := .error "Error" "connection lost" none

/-- `Object.create(null)` -/
def bareObject : Thrown :=
  .unprintable (.error "TypeError" "Cannot convert object to primitive value" none)

def started : List (Event (startup stores)) :=
  [⟨.connect "postgres", .ok ()⟩, ⟨.connect "redis", .ok ()⟩, ⟨.other (), .error missingAllowlist⟩]

def storesLost : List (Event (startup stores)) :=
  [⟨.disconnect "redis" (), .error connectionLost⟩,
    ⟨.warn "redis" (.inl { message := "connection lost", name := some "Error", stack := none })
      "redis disconnect failed during initialization rollback", .ok ()⟩,
    ⟨.disconnect "postgres" (), .ok ()⟩]

theorem startStores_recorded :
    (run production startStores []).Recorded
      (.ok (.error (.initialization missingAllowlist), [])) (started ++ storesLost) := by
  apply Program.Recorded.await (I := startup stores) (c := .connect "postgres") (.ok ())
  apply Program.Recorded.await (I := startup stores) (c := .connect "redis") (.ok ())
  apply Program.Recorded.await (I := startup stores) (c := .other ()) (.error missingAllowlist)
  apply Program.Recorded.await (I := startup stores) (c := .disconnect "redis" ())
    (.error connectionLost)
  apply Program.Recorded.await (I := startup stores) (c := .warn _ _ _) (.ok ())
  apply Program.Recorded.await (I := startup stores) (c := .disconnect "postgres" ()) (.ok ())
  exact .done

theorem run_unwinds_iff_startStores :
    Unwound production startStores (.error (.initialization missingAllowlist)) []
        (started ++ storesLost) ↔
      ∀ event ∈ started ++ storesLost, Loggable production event :=
  run_unwinds_iff production startStores startStores_recorded
    (by simp [started, storesLost, Logged])

/-- The first store is never disconnected, and what failed the startup is lost. -/
theorem sweep_stopped :
    (run production startStores []).Recorded
        (.ok (.error (.rollback
          (.error "TypeError" "Cannot convert object to primitive value" none)), []))
        (started ++ [⟨.disconnect "redis" (), .error bareObject⟩]) ∧
      ¬Unwound production startStores
        (.error (.rollback (.error "TypeError" "Cannot convert object to primitive value" none))) []
        (started ++ [⟨.disconnect "redis" (), .error bareObject⟩]) := by
  refine ⟨?_, not_unwound_of_rollback⟩
  apply Program.Recorded.await (I := startup stores) (c := .connect "postgres") (.ok ())
  apply Program.Recorded.await (I := startup stores) (c := .connect "redis") (.ok ())
  apply Program.Recorded.await (I := startup stores) (c := .other ()) (.error missingAllowlist)
  apply Program.Recorded.await (I := startup stores) (c := .disconnect "redis" ())
    (.error bareObject)
  exact .done

end RisingIntelligence.Runtime
