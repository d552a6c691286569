import RisingIntelligence.Runtime.Startup
import RisingIntelligence.Shared.Trace
import Mathlib.Data.List.TakeWhile

/-!
# The life of a service

`runService` of `packages/shared/src/runtime/lifecycle.ts`: the handlers of the process, `start`
and `requestShutdown`, as a machine that an event takes from one turn of the event loop to the next.

`runService_law`: whatever happens in whatever order, the service is shut down at most once and
with what `initialize` returned; it exits with zero exactly where the first request to stop is a
signal and, once there is something to shut down, `shutdown` returns in time; and a service that was
asked to stop exits, unless the error that `shutdown` threw cannot be written to the log.
-/

namespace RisingIntelligence.Runtime

variable {Ctx : Type}

/-! ## The machine -/

/-- Where `start` is. -/
inductive StartPhase : Type
  | initializing
  | running
  | ended
  deriving DecidableEq

/-- The variables of `runService` and what it awaits. -/
structure Service (Ctx : Type) where
  context : Option Ctx
  shuttingDown : Bool
  start : StartPhase
  /-- `finalExitCode`, while `shutdown` is awaited and its timeout is set. -/
  awaited : Option Nat
  /-- The contexts `shutdown` was called with. -/
  shutdowns : List Ctx
  exited : Option Nat

inductive ServiceEvent (Ctx : Type) : Type
  /-- `SIGTERM` or `SIGINT` -/
  | signal
  | uncaughtException (error : Thrown)
  | unhandledRejection (reason : Thrown)
  | initialized (context : Ctx)
  | ran
  | startFailed (error : Thrown)
  | shutdownReturned
  | shutdownFailed (error : Thrown)
  | timeoutReached

namespace Service

def launched : Service Ctx where
  context := none
  shuttingDown := false
  start := .initializing
  awaited := none
  shutdowns := []
  exited := none

/-- `process.exit` -/
def exit (code : Nat) (s : Service Ctx) : Service Ctx := { s with awaited := none, exited := some code }

/-- `requestShutdown`, up to the first `await`. -/
def requestShutdown (exitCode : Nat) (s : Service Ctx) : Service Ctx :=
  if s.shuttingDown then s
  else
    match s.context with
    | none => { s with shuttingDown := true }.exit exitCode
    | some context =>
        { s with
          shuttingDown := true
          awaited := some exitCode
          shutdowns := s.shutdowns ++ [context] }

variable (env : ErrorEnvironment)

/-- An error in the handler itself ends the process with code 7. -/
def onUncaughtException (error : Thrown) (s : Service Ctx) : Service Ctx :=
  match serializeError env error none with
  | .ok _ => s.requestShutdown 1
  | .error _ => s.exit 7

/-- An error in the handler is an uncaught exception. -/
def onUnhandledRejection (reason : Thrown) (s : Service Ctx) : Service Ctx :=
  match serializeError env reason none with
  | .ok _ => s.requestShutdown 1
  | .error raised => s.onUncaughtException env raised

/-- The `catch` block of `start`; what it throws is an unhandled rejection. -/
def onStartFailed (error : Thrown) (s : Service Ctx) : Service Ctx :=
  match serializeError env error none with
  | .ok _ => { s with start := .ended }.requestShutdown 1
  | .error raised => { s with start := .ended }.onUnhandledRejection env raised

/-- The `catch` block around `shutdown`; the timeout is cleared before what it throws is an
unhandled rejection. -/
def onShutdownFailed (error : Thrown) (s : Service Ctx) : Service Ctx :=
  match serializeError env error none with
  | .ok _ => s.exit 1
  | .error raised => { s with awaited := none }.onUnhandledRejection env raised

/-- What an event does, where it can happen. -/
def step (s : Service Ctx) (event : ServiceEvent Ctx) : Option (Service Ctx) :=
  if s.exited.isSome then none
  else
    match event with
    | .signal => some (s.requestShutdown 0)
    | .uncaughtException error => some (s.onUncaughtException env error)
    | .unhandledRejection reason => some (s.onUnhandledRejection env reason)
    | .initialized context =>
        if s.start = .initializing then some { s with context := some context, start := .running }
        else none
    | .ran => if s.start = .running then some { s with start := .ended } else none
    | .startFailed error => if s.start = .ended then none else some (s.onStartFailed env error)
    | .shutdownReturned => s.awaited.map fun finalExitCode => s.exit finalExitCode
    | .shutdownFailed error => if s.awaited.isSome then some (s.onShutdownFailed env error) else none
    | .timeoutReached => if s.awaited.isSome then some (s.exit 1) else none

end Service

/-! ## Requests to stop -/

section Requests

variable {env : ErrorEnvironment} {past : List (ServiceEvent Ctx)} {s s' : Service Ctx}

def ServiceEvent.asksToStop : ServiceEvent Ctx → Bool
  | .signal | .uncaughtException _ | .unhandledRejection _ | .startFailed _ => true
  | _ => false

/-- The events before the first request to stop. -/
def quiet (events : List (ServiceEvent Ctx)) : List (ServiceEvent Ctx) :=
  events.takeWhile fun event => !event.asksToStop

/-- The first request to stop and the events after it. -/
def fromRequest (events : List (ServiceEvent Ctx)) : List (ServiceEvent Ctx) :=
  events.dropWhile fun event => !event.asksToStop

theorem quiet_append_fromRequest : quiet past ++ fromRequest past = past :=
  List.takeWhile_append_dropWhile

/-- More events after a request. -/
theorem later_events {asked event : ServiceEvent Ctx} {after : List (ServiceEvent Ctx)}
    (requested : fromRequest past = asked :: after) :
    fromRequest (past ++ [event]) = asked :: (after ++ [event]) ∧
      quiet (past ++ [event]) = quiet past := by
  have differs : (quiet past).length ≠ past.length := by
    intro same
    have lengths := congrArg List.length (@quiet_append_fromRequest _ past)
    rw [List.length_append, requested, List.length_cons] at lengths
    omega
  constructor
  · unfold fromRequest at requested ⊢
    rw [List.dropWhile_append, requested]
    simp
  · unfold quiet at differs ⊢
    rw [List.takeWhile_append, if_neg differs]

theorem fromRequest_eq_nil : fromRequest past = [] ↔ ∀ event ∈ past, event.asksToStop = false := by
  simp [fromRequest, List.dropWhile_eq_nil_iff]

theorem quiet_of_fromRequest (none : fromRequest past = []) : quiet past = past := by
  have whole := @quiet_append_fromRequest _ past
  rwa [none, List.append_nil] at whole

/-- An event where nothing was requested before. -/
theorem first_request {event : ServiceEvent Ctx} (none : fromRequest past = [])
    (asks : event.asksToStop = true) :
    fromRequest (past ++ [event]) = [event] ∧ quiet (past ++ [event]) = past := by
  have all := quiet_of_fromRequest none
  unfold fromRequest at none ⊢
  unfold quiet at all ⊢
  constructor
  · rw [List.dropWhile_append, none]
    simp [asks]
  · rw [List.takeWhile_append, all]
    simp [asks]

theorem no_request {event : ServiceEvent Ctx} (none : fromRequest past = [])
    (other : event.asksToStop = false) : fromRequest (past ++ [event]) = [] := by
  rw [fromRequest_eq_nil] at none ⊢
  intro e member
  rcases List.mem_append.1 member with before | last
  · exact none e before
  · rwa [List.mem_singleton.1 last]

/-! ## The law -/

/-- The error cannot be written to the log. -/
def Unwritten (env : ErrorEnvironment) (error : Thrown) : Prop :=
  ∃ raised, serializeError env error none = .error raised

/-- The first request is a signal; it finds nothing to shut down, or `shutdown` returns in the end. -/
def Graceful (events : List (ServiceEvent Ctx)) : Prop :=
  (fromRequest events = [.signal] ∧ ∀ context, .initialized context ∉ quiet events) ∨
    (∃ context, .initialized context ∈ quiet events) ∧
      ∃ between, fromRequest events = .signal :: between ++ [.shutdownReturned]

structure ServiceLaw (env : ErrorEnvironment) (events : List (ServiceEvent Ctx))
    (s : Service Ctx) : Prop where
  once : s.shutdowns.length ≤ 1
  initialized : ∀ context ∈ s.shutdowns, .initialized context ∈ quiet events
  graceful : s.exited = some 0 ↔ Graceful events
  codes : ∀ code, s.exited = some code → code ∈ [0, 1, 7]
  stops : fromRequest events ≠ [] → s.exited.isSome ∨
    s.step env .timeoutReached = some (s.exit 1) ∨
      ∃ error, .shutdownFailed error ∈ events ∧ Unwritten env error

/-! ## Phases -/

/-- Nothing asked the service to stop. -/
structure Serving (past : List (ServiceEvent Ctx)) (s : Service Ctx) : Prop where
  unasked : fromRequest past = []
  accepting : s.shuttingDown = false
  running : s.exited = none
  idle : s.awaited = none
  shutdowns : s.shutdowns = []
  context : ∀ context, s.context = some context →
    .initialized context ∈ past ∧ s.start ≠ .initializing
  uninitialized : s.context = none → ∀ context, .initialized context ∉ past
  returned : .shutdownReturned ∉ past

/-- `shutdown` was called when the first request came, and did not return. -/
structure Stopping (past : List (ServiceEvent Ctx)) (s : Service Ctx) : Prop where
  asked : fromRequest past ≠ []
  shuttingDown : s.shuttingDown = true
  running : s.exited = none
  shutdowns : ∃ context, s.shutdowns = [context] ∧ .initialized context ∈ quiet past
  returned : .shutdownReturned ∉ past
  started : s.start ≠ .initializing

/-- `shutdown` is awaited, with its timeout set. -/
structure Awaiting (past : List (ServiceEvent Ctx)) (s : Service Ctx) : Prop
    extends Stopping past s where
  awaited : ∃ code, s.awaited = some code ∧ code ≤ 1 ∧
    (code = 0 ↔ ∃ between, fromRequest past = .signal :: between)

/-- `shutdown` threw what cannot be written to the log. -/
structure Stuck (env : ErrorEnvironment) (past : List (ServiceEvent Ctx)) (s : Service Ctx) : Prop
    extends Stopping past s where
  idle : s.awaited = none
  failed : ∃ error, .shutdownFailed error ∈ past ∧ Unwritten env error

/-- The process is gone. -/
structure Exited (past : List (ServiceEvent Ctx)) (s : Service Ctx) : Prop where
  code : ∃ code, s.exited = some code ∧ code ∈ [0, 1, 7] ∧ (code = 0 ↔ Graceful past)
  once : s.shutdowns.length ≤ 1
  initialized : ∀ context ∈ s.shutdowns, .initialized context ∈ quiet past

inductive ServicePhase (env : ErrorEnvironment) (past : List (ServiceEvent Ctx))
    (s : Service Ctx) : Prop
  | serving (phase : Serving past s)
  | awaiting (phase : Awaiting past s)
  | stuck (phase : Stuck env past s)
  | exited (phase : Exited past s)

theorem not_graceful_of_unasked (unasked : fromRequest past = []) : ¬ Graceful past := by
  rintro (⟨signal, _⟩ | ⟨_, between, signal⟩)
  · cases unasked.symm.trans signal
  · cases unasked.symm.trans signal

theorem Stopping.not_graceful (stopping : Stopping past s) : ¬ Graceful past := by
  obtain ⟨context, _, initialized⟩ := stopping.shutdowns
  rintro (⟨_, uninitialized⟩ | ⟨_, between, requested⟩)
  · exact uninitialized context initialized
  · refine stopping.returned ?_
    rw [← @quiet_append_fromRequest _ past, requested]
    simp

/-- A phase has what the law asks for. -/
theorem ServicePhase.law (phase : ServicePhase env past s) : ServiceLaw env past s := by
  rcases phase with serving | awaiting | stuck | exited
  · refine ⟨by simp [serving.shutdowns], by simp [serving.shutdowns], ?_, ?_, ?_⟩
    · simp [serving.running, not_graceful_of_unasked serving.unasked]
    · simp [serving.running]
    · exact fun asked => absurd serving.unasked asked
  · obtain ⟨context, called, initialized⟩ := awaiting.shutdowns
    obtain ⟨code, awaited, _⟩ := awaiting.awaited
    refine ⟨by simp [called], by simpa [called] using initialized, ?_, ?_, ?_⟩
    · simp [awaiting.running, awaiting.not_graceful]
    · simp [awaiting.running]
    · exact fun _ => .inr (.inl (by simp [Service.step, awaiting.running, awaited]))
  · obtain ⟨context, called, initialized⟩ := stuck.shutdowns
    refine ⟨by simp [called], by simpa [called] using initialized, ?_, ?_, ?_⟩
    · simp [stuck.running, stuck.not_graceful]
    · simp [stuck.running]
    · exact fun _ => .inr (.inr stuck.failed)
  · obtain ⟨code, ended, among, graceful⟩ := exited.code
    refine ⟨exited.once, exited.initialized, ?_, ?_, ?_⟩
    · rw [ended, Option.some.injEq, graceful]
    · intro code' same
      cases ended.symm.trans same
      exact among
    · simp [ended]

/-! ## What an event does to a phase -/

variable {event : ServiceEvent Ctx} {code : Nat}

theorem graceful_first (unasked : fromRequest past = []) (asks : event.asksToStop = true) :
    Graceful (past ++ [event]) ↔
      event = .signal ∧ ∀ context, .initialized context ∉ past := by
  obtain ⟨first, before⟩ := first_request unasked asks
  unfold Graceful
  rw [first, before]
  constructor
  · rintro (⟨signal, uninitialized⟩ | ⟨_, between, signal⟩)
    · cases signal
      exact ⟨rfl, uninitialized⟩
    · have lengths := congrArg List.length signal
      simp at lengths
  · rintro ⟨rfl, uninitialized⟩
    exact .inl ⟨rfl, uninitialized⟩

theorem Stopping.graceful_later (stopping : Stopping past s) :
    Graceful (past ++ [event]) ↔
      event = .shutdownReturned ∧ ∃ between, fromRequest past = .signal :: between := by
  obtain ⟨asked, after, requested⟩ := List.exists_cons_of_ne_nil stopping.asked
  obtain ⟨later, before⟩ := @later_events _ _ _ event _ requested
  obtain ⟨context, _, initialized⟩ := stopping.shutdowns
  unfold Graceful
  rw [later, before, requested]
  constructor
  · rintro (⟨_, uninitialized⟩ | ⟨_, between, signal⟩)
    · exact absurd initialized (uninitialized context)
    · obtain ⟨first, last⟩ := List.cons.inj signal
      obtain ⟨_, same⟩ := List.append_inj' last rfl
      cases first
      cases same
      exact ⟨rfl, after, rfl⟩
  · rintro ⟨rfl, between, signal⟩
    cases signal
    exact .inr ⟨⟨context, initialized⟩, after, rfl⟩

theorem not_returned (returned : .shutdownReturned ∉ past) (other : event ≠ .shutdownReturned) :
    .shutdownReturned ∉ past ++ [event] := by
  intro member
  rcases List.mem_append.1 member with early | last
  · exact returned early
  · exact other (List.mem_singleton.1 last).symm

theorem ne_shutdownReturned (asks : event.asksToStop = true) :
    event ≠ .shutdownReturned := by
  rintro rfl
  cases asks

/-- A request while nothing asked the service to stop. -/
theorem Serving.request (serving : Serving past s) (asks : event.asksToStop = true)
    (small : code ≤ 1) (signal : code = 0 ↔ event = .signal) :
    ServicePhase env (past ++ [event]) (s.requestShutdown code) := by
  obtain ⟨first, before⟩ := first_request serving.unasked asks
  unfold Service.requestShutdown
  rw [if_neg (by simp [serving.accepting])]
  cases found : s.context with
  | none =>
      have uninitialized := serving.uninitialized found
      refine .exited ⟨⟨code, rfl, ?_, ?_⟩, ?_, ?_⟩
      · simp only [List.mem_cons]
        omega
      · rw [graceful_first serving.unasked asks, signal, and_iff_left uninitialized]
      · simp [Service.exit, serving.shutdowns]
      · simp [Service.exit, serving.shutdowns]
  | some context =>
      obtain ⟨initialized, started⟩ := serving.context context found
      refine .awaiting ⟨⟨?_, rfl, serving.running, ⟨context, ?_, ?_⟩, ?_, started⟩,
        ⟨code, rfl, small, ?_⟩⟩
      · rw [first]
        exact List.cons_ne_nil _ _
      · simp [serving.shutdowns]
      · rwa [before]
      · exact not_returned serving.returned (ne_shutdownReturned asks)
      · rw [first, signal]
        constructor
        · rintro rfl
          exact ⟨[], rfl⟩
        · intro requested
          obtain ⟨_, same⟩ := requested
          exact (List.cons.inj same).1

/-- An error while nothing asked the service to stop. -/
theorem Serving.uncaughtException (serving : Serving past s) (asks : event.asksToStop = true)
    (error : event ≠ .signal) (thrown : Thrown) :
    ServicePhase env (past ++ [event]) (s.onUncaughtException env thrown) := by
  unfold Service.onUncaughtException
  split
  · exact serving.request asks le_rfl ⟨(fun same => nomatch same), fun same => absurd same error⟩
  · refine .exited ⟨⟨7, rfl, by simp, ?_⟩, ?_, ?_⟩
    · rw [graceful_first serving.unasked asks]
      exact ⟨(fun same => nomatch same), fun graceful => absurd graceful.1 error⟩
    · simp [Service.exit, serving.shutdowns]
    · simp [Service.exit, serving.shutdowns]

theorem Serving.unhandledRejection (serving : Serving past s) (asks : event.asksToStop = true)
    (error : event ≠ .signal) (thrown : Thrown) :
    ServicePhase env (past ++ [event]) (s.onUnhandledRejection env thrown) := by
  unfold Service.onUnhandledRejection
  split
  · exact serving.request asks le_rfl ⟨(fun same => nomatch same), fun same => absurd same error⟩
  · exact serving.uncaughtException asks error _

theorem Serving.startFailed (serving : Serving past s) (thrown : Thrown) :
    ServicePhase env (past ++ [.startFailed thrown]) (s.onStartFailed env thrown) := by
  have ended : Serving past { s with start := .ended } :=
    ⟨serving.unasked, serving.accepting, serving.running, serving.idle, serving.shutdowns,
      fun context found => ⟨(serving.context context found).1, by simp⟩, serving.uninitialized,
      serving.returned⟩
  unfold Service.onStartFailed
  split
  · exact ended.request rfl le_rfl ⟨(fun same => nomatch same), fun same => nomatch same⟩
  · exact @Serving.unhandledRejection _ env _ _ (.startFailed thrown) ended rfl (by simp) _

theorem Serving.ran (serving : Serving past s) :
    Serving (past ++ [.ran]) { s with start := .ended } := by
  refine ⟨no_request serving.unasked rfl, serving.accepting, serving.running, serving.idle,
    serving.shutdowns, fun context found => ?_, fun none context member => ?_, fun member => ?_⟩
  · exact ⟨List.mem_append_left _ (serving.context context found).1, by simp⟩
  · rcases List.mem_append.1 member with early | last
    · exact serving.uninitialized none context early
    · cases List.mem_singleton.1 last
  · have other : (.ran : ServiceEvent Ctx) ≠ .shutdownReturned := by simp
    exact not_returned serving.returned other member

theorem Serving.initialized (serving : Serving past s) (context : Ctx) :
    Serving (past ++ [.initialized context])
      { s with context := some context, start := .running } := by
  refine ⟨no_request serving.unasked rfl, serving.accepting, serving.running, serving.idle,
    serving.shutdowns, fun found same => ?_, (fun none => nomatch none), fun member => ?_⟩
  · cases same
    exact ⟨List.mem_append_right _ (List.mem_singleton.2 rfl), by simp⟩
  · have other : (.initialized context : ServiceEvent Ctx) ≠ .shutdownReturned := by simp
    exact not_returned serving.returned other member

/-- A further event leaves a service that is stopping as it is, but for what `start` does. -/
theorem Awaiting.later {start : StartPhase} (awaiting : Awaiting past s)
    (other : event ≠ .shutdownReturned) (started : start ≠ .initializing) :
    Awaiting (past ++ [event]) { s with start := start } := by
  obtain ⟨asked, after, requested⟩ := List.exists_cons_of_ne_nil awaiting.asked
  obtain ⟨more, before⟩ := @later_events _ _ _ event _ requested
  obtain ⟨context, called, initialized⟩ := awaiting.shutdowns
  obtain ⟨code, awaited, small, signal⟩ := awaiting.awaited
  have still : fromRequest (past ++ [event]) ≠ [] := by simp [more]
  refine ⟨⟨still, awaiting.shuttingDown, awaiting.running, ⟨context, called, ?_⟩,
    not_returned awaiting.returned other, started⟩, ⟨code, awaited, small, ?_⟩⟩
  · rwa [before]
  · rw [signal, requested, more]
    simp

theorem Stuck.later {start : StartPhase} (stuck : Stuck env past s)
    (other : event ≠ .shutdownReturned) (started : start ≠ .initializing) :
    Stuck env (past ++ [event]) { s with start := start } := by
  obtain ⟨asked, after, requested⟩ := List.exists_cons_of_ne_nil stuck.asked
  obtain ⟨more, before⟩ := @later_events _ _ _ event _ requested
  obtain ⟨context, called, initialized⟩ := stuck.shutdowns
  obtain ⟨error, failed, unwritten⟩ := stuck.failed
  have still : fromRequest (past ++ [event]) ≠ [] := by simp [more]
  refine ⟨⟨still, stuck.shuttingDown, stuck.running, ⟨context, called, ?_⟩,
    not_returned stuck.returned other, started⟩, stuck.idle, error, List.mem_append_left _ failed,
    unwritten⟩
  rwa [before]

/-- The process ends while the service is stopping. -/
theorem Stopping.exit (stopping : Stopping past s) (among : code ∈ [0, 1, 7])
    (graceful : code = 0 ↔ event = .shutdownReturned ∧ ∃ between,
      fromRequest past = .signal :: between) :
    Exited (past ++ [event]) (s.exit code) := by
  obtain ⟨asked, after, requested⟩ := List.exists_cons_of_ne_nil stopping.asked
  obtain ⟨more, before⟩ := @later_events _ _ _ event _ requested
  obtain ⟨context, called, initialized⟩ := stopping.shutdowns
  refine ⟨⟨code, rfl, among, graceful.trans stopping.graceful_later.symm⟩, ?_, ?_⟩
  · simp [Service.exit, called]
  · simpa [Service.exit, called, before] using initialized

/-- An exit with an error. -/
theorem Stopping.exitError (stopping : Stopping past s) (among : code ∈ [1, 7])
    (other : event ≠ .shutdownReturned) : Exited (past ++ [event]) (s.exit code) := by
  have error : code ≠ 0 := by
    rintro rfl
    simp at among
  exact stopping.exit (List.mem_cons_of_mem _ among)
    ⟨fun same => absurd same error, fun returned => absurd returned.1 other⟩

theorem requestShutdown_of_shuttingDown (stopping : s.shuttingDown = true) :
    s.requestShutdown code = s := by
  simp [Service.requestShutdown, stopping]

/-- An error that comes up while the service is stopping changes nothing, or ends the process. -/
theorem onUncaughtException_cases (stopping : s.shuttingDown = true) (thrown : Thrown) :
    s.onUncaughtException env thrown = s ∨ s.onUncaughtException env thrown = s.exit 7 := by
  unfold Service.onUncaughtException
  split
  · exact .inl (requestShutdown_of_shuttingDown stopping)
  · exact .inr rfl

theorem onUnhandledRejection_cases (stopping : s.shuttingDown = true) (thrown : Thrown) :
    s.onUnhandledRejection env thrown = s ∨ s.onUnhandledRejection env thrown = s.exit 7 := by
  unfold Service.onUnhandledRejection
  split
  · exact .inl (requestShutdown_of_shuttingDown stopping)
  · exact onUncaughtException_cases stopping _

theorem onStartFailed_cases (stopping : s.shuttingDown = true) (thrown : Thrown) :
    s.onStartFailed env thrown = { s with start := .ended } ∨
      s.onStartFailed env thrown = { s with start := .ended }.exit 7 := by
  have ended : { s with start := .ended }.shuttingDown = true := stopping
  unfold Service.onStartFailed
  split
  · exact .inl (requestShutdown_of_shuttingDown ended)
  · exact onUnhandledRejection_cases ended _

theorem Awaiting.shutdownFailed (awaiting : Awaiting past s) (thrown : Thrown) :
    ServicePhase env (past ++ [.shutdownFailed thrown]) (s.onShutdownFailed env thrown) := by
  have other : (.shutdownFailed thrown : ServiceEvent Ctx) ≠ .shutdownReturned := by simp
  unfold Service.onShutdownFailed
  split
  · exact .exited (awaiting.toStopping.exitError (by simp) other)
  next raised unwritten =>
    have later := awaiting.later other awaiting.started
    have cleared : Stopping (past ++ [.shutdownFailed thrown]) { s with awaited := none } :=
      ⟨later.asked, later.shuttingDown, later.running, later.shutdowns, later.returned,
        later.started⟩
    have stuck : Stuck env (past ++ [.shutdownFailed thrown]) { s with awaited := none } :=
      ⟨cleared, rfl, thrown, List.mem_append_right _ (List.mem_singleton.2 rfl), raised, unwritten⟩
    rcases @onUnhandledRejection_cases _ env _ cleared.shuttingDown raised with same | same
    · rw [same]
      exact .stuck stuck
    · rw [same]
      exact .exited (awaiting.toStopping.exitError (by simp) other)

/-- What holds of a service that is stopping, awaiting or stuck, after any event but the ones
`shutdown` and its timeout bring. -/
theorem phase_of_stopping {J : List (ServiceEvent Ctx) → Service Ctx → Prop}
    (stopping : Stopping past s)
    (later : ∀ {start}, start ≠ StartPhase.initializing →
      J (past ++ [event]) { s with start := start })
    (phase : ∀ {past s}, J past s → ServicePhase env past s)
    (stepped : s.step env event = some s') (returned : event ≠ .shutdownReturned)
    (failed : ∀ error, event ≠ .shutdownFailed error) (timeout : event ≠ .timeoutReached) :
    ServicePhase env (past ++ [event]) s' := by
  have down := stopping.shuttingDown
  have same : J (past ++ [event]) s := later stopping.started
  have exits : Exited (past ++ [event]) (s.exit 7) := stopping.exitError (by simp) returned
  unfold Service.step at stepped
  rw [if_neg (by simp [stopping.running])] at stepped
  cases event with
  | shutdownReturned => exact absurd rfl returned
  | shutdownFailed error => exact absurd rfl (failed error)
  | timeoutReached => exact absurd rfl timeout
  | initialized context =>
      cases stepped.symm.trans (if_neg stopping.started)
  | signal =>
      cases stepped
      rw [requestShutdown_of_shuttingDown down]
      exact phase same
  | uncaughtException error =>
      cases stepped
      rcases @onUncaughtException_cases _ env _ down error with kept | gone
      · exact kept.symm ▸ phase same
      · exact gone.symm ▸ .exited exits
  | unhandledRejection reason =>
      cases stepped
      rcases @onUnhandledRejection_cases _ env _ down reason with kept | gone
      · exact kept.symm ▸ phase same
      · exact gone.symm ▸ .exited exits
  | startFailed error =>
      obtain ⟨_, same⟩ := Option.ite_none_left_eq_some.1 stepped
      cases same
      rcases @onStartFailed_cases _ env _ down error with kept | gone
      · exact kept.symm ▸ phase (later (by simp))
      · exact gone.symm ▸ .exited ⟨exits.code, exits.once, exits.initialized⟩
  | ran =>
      obtain ⟨_, same⟩ := Option.ite_none_right_eq_some.1 stepped
      cases same
      exact phase (later (by simp))

/-- One event takes a phase to a phase. -/
theorem ServicePhase.step (phase : ServicePhase env past s)
    (stepped : s.step env event = some s') : ServicePhase env (past ++ [event]) s' := by
  cases phase with
  | serving serving =>
      unfold Service.step at stepped
      rw [if_neg (by simp [serving.running])] at stepped
      cases event with
      | signal =>
          cases stepped
          exact serving.request rfl (Nat.zero_le 1) ⟨fun _ => rfl, fun _ => rfl⟩
      | uncaughtException error =>
          cases stepped
          exact serving.uncaughtException rfl (by simp) error
      | unhandledRejection reason =>
          cases stepped
          exact serving.unhandledRejection rfl (by simp) reason
      | startFailed error =>
          obtain ⟨_, same⟩ := Option.ite_none_left_eq_some.1 stepped
          cases same
          exact serving.startFailed error
      | initialized context =>
          obtain ⟨_, same⟩ := Option.ite_none_right_eq_some.1 stepped
          cases same
          exact .serving (serving.initialized context)
      | ran =>
          obtain ⟨_, same⟩ := Option.ite_none_right_eq_some.1 stepped
          cases same
          exact .serving serving.ran
      | shutdownReturned => simp [serving.idle] at stepped
      | shutdownFailed error => simp [serving.idle] at stepped
      | timeoutReached => simp [serving.idle] at stepped
  | awaiting awaiting =>
      obtain ⟨code, awaited, small, signal⟩ := awaiting.awaited
      by_cases returned : event = .shutdownReturned
      · subst returned
        have exits : s' = s.exit code := by
          simpa [Service.step, awaiting.running, awaited] using stepped.symm
        have among : code ∈ [0, 1, 7] := by
          simp only [List.mem_cons]
          omega
        rw [exits]
        exact .exited (awaiting.toStopping.exit among (by simpa using signal))
      by_cases timeout : event = .timeoutReached
      · subst timeout
        have exits : s' = s.exit 1 := by
          simpa [Service.step, awaiting.running, awaited] using stepped.symm
        rw [exits]
        exact .exited (awaiting.toStopping.exitError (by simp) returned)
      by_cases failed : ∃ error, event = .shutdownFailed error
      · obtain ⟨error, same⟩ := failed
        subst same
        have fails : s' = s.onShutdownFailed env error := by
          simpa [Service.step, awaiting.running, awaited] using stepped.symm
        rw [fails]
        exact awaiting.shutdownFailed error
      · exact phase_of_stopping awaiting.toStopping (awaiting.later returned) .awaiting
          stepped returned (fun error same => failed ⟨error, same⟩) timeout
  | stuck stuck =>
      have nothing : event ≠ .shutdownReturned ∧ (∀ error, event ≠ .shutdownFailed error) ∧
          event ≠ .timeoutReached := by
        refine ⟨fun same => ?_, fun error same => ?_, fun same => ?_⟩ <;> subst same <;>
          simp [Service.step, stuck.running, stuck.idle] at stepped
      exact phase_of_stopping stuck.toStopping (stuck.later nothing.1) .stuck stepped
        nothing.1 nothing.2.1 nothing.2.2
  | exited exited =>
      obtain ⟨code, ended, _⟩ := exited.code
      simp [Service.step, ended] at stepped

theorem serving_launched : Serving [] (Service.launched : Service Ctx) where
  unasked := rfl
  accepting := rfl
  running := rfl
  idle := rfl
  shutdowns := rfl
  context _ found := nomatch found
  uninitialized _ _ member := nomatch member
  returned member := nomatch member

end Requests

/-- The law of a service, in every state of every run. -/
theorem runService_law (env : ErrorEnvironment) {events : List (ServiceEvent Ctx)}
    {s : Service Ctx} (ran : trace (Service.step env) .launched events = some s) :
    ServiceLaw env events s := by
  have phase : ServicePhase env ([] ++ events) s :=
    trace_invariant (J := ServicePhase env) (fun _ _ _ _ phase => phase.step)
      (.serving serving_launched) ran
  exact phase.law

/-- A service that is interrupted while its database connection does not close. -/
def interrupted : List (ServiceEvent String) :=
  [.initialized "runtime", .ran, .signal, .unhandledRejection (.value "late"), .timeoutReached]

theorem runService_law_interrupted :
    (trace (Service.step ⟨none, none⟩) .launched interrupted).map (·.exited) = some (some 1) ∧
      ∃ s, ServiceLaw ⟨none, none⟩ interrupted s :=
  ⟨rfl, _, @runService_law String ⟨none, none⟩ interrupted _ rfl⟩

end RisingIntelligence.Runtime
