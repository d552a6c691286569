import RisingIntelligence.Collector.AdapterLoop

/-!
# What the loop of an adapter does in the long run

`LoopWorld` watches the calls of `runAdapter`; shutdown may be requested before any of them.

`runAdapter_law`: whatever the polls do and however often they fail, at every call of every run

* a poll starts only when the wait after the last cycle is over: the whole poll interval after a
  completed one, one backoff for every failed one since;
* the backoffs since the last completed cycle are in order those of attempts 0, 1, 2, ...;
* every failed cycle was counted once, and every rate limit noted once;
* once shutdown is requested, at most one more ingestion or sleep starts;
* the loop throws only where the error of a poll cannot be printed.
-/

namespace RisingIntelligence.Collector

open Async Program RisingIntelligence.Runtime

variable {Content : Type}

/-! ## The world that watches -/

/-- What the last heartbeat said. -/
inductive LoopPhase : Type
  | starting
  | idle
  | failing
  deriving DecidableEq

structure LoopWorld where
  shutdown : Bool
  phase : LoopPhase
  /-- The time slept since the last completed cycle, and the longest sleep of it. -/
  idleMs : ℤ
  longestIdleMs : ℤ
  /-- The backoffs since the last completed cycle. -/
  backoffs : List ℤ
  /-- The failed cycles since the last completed one, and all of them. -/
  failedSince : ℕ
  failedCycles : ℕ
  counted : ℕ
  countedRateLimits : ℕ
  rateLimitBackoffs : ℕ
  /-- Whether some poll started too early. -/
  early : Bool
  /-- The ingestions and sleeps that started after shutdown was requested. -/
  late : ℕ

namespace LoopWorld

def start : LoopWorld where
  shutdown := false
  phase := .starting
  idleMs := 0
  longestIdleMs := 0
  backoffs := []
  failedSince := 0
  failedCycles := 0
  counted := 0
  countedRateLimits := 0
  rateLimitBackoffs := 0
  early := false
  late := 0

/-- The wait after the last cycle is over. -/
def Rested (pollIntervalMs : ℕ) (w : LoopWorld) : Prop :=
  (w.phase = .idle → w.idleMs = pollIntervalMs) ∧
    (w.phase = .failing → w.backoffs.length = w.failedSince)

instance (pollIntervalMs : ℕ) (w : LoopWorld) : Decidable (w.Rested pollIntervalMs) :=
  inferInstanceAs (Decidable (_ ∧ _))

def requestShutdown (w : LoopWorld) : LoopWorld := { w with shutdown := true }

/-- A poll asks for a record. -/
def poll (pollIntervalMs : ℕ) (w : LoopWorld) : LoopWorld :=
  { w with early := w.early || !decide (w.Rested pollIntervalMs) }

def begin (w : LoopWorld) : LoopWorld := { w with late := w.late + if w.shutdown then 1 else 0 }

def completeCycle (w : LoopWorld) : LoopWorld :=
  { w with phase := .idle, idleMs := 0, longestIdleMs := 0, backoffs := [], failedSince := 0 }

def failCycle (w : LoopWorld) : LoopWorld :=
  { w with
    phase := .failing
    failedSince := w.failedSince + 1
    failedCycles := w.failedCycles + 1 }

def sleep (ms : ℤ) (w : LoopWorld) : LoopWorld :=
  if w.phase = .failing then { w.begin with backoffs := w.backoffs ++ [ms] }
  else { w.begin with idleMs := w.idleMs + ms, longestIdleMs := max w.longestIdleMs ms }

def count (errorType : CollectorErrorType) (w : LoopWorld) : LoopWorld :=
  { w with
    counted := w.counted + 1
    countedRateLimits := w.countedRateLimits + if errorType = .rateLimit then 1 else 0 }

def noteRateLimit (w : LoopWorld) : LoopWorld :=
  { w with rateLimitBackoffs := w.rateLimitBackoffs + 1 }

end LoopWorld

/-- How the world answers: a poll call answers or throws anything, the flags, timers and counts
only return. -/
inductive LoopCallAnswers (pollIntervalMs : ℕ) : Handler (adapterLoop Content) LoopWorld
  | stop {w : LoopWorld} :
    LoopCallAnswers pollIntervalMs w (.poll .shutdownRequested) (.ok w.shutdown) w
  | record {w : LoopWorld} {reply : Except ThrownError Unit} :
    LoopCallAnswers pollIntervalMs w (.poll .nextRecord) reply (w.poll pollIntervalMs)
  | ingest {w : LoopWorld} {content : Content} {reply : Except ThrownError IngestionStatus} :
    LoopCallAnswers pollIntervalMs w (.poll (.ingest content)) reply w.begin
  | healthy {w : LoopWorld} {heartbeat : CollectorHeartbeat} : heartbeat.status = "healthy" →
    LoopCallAnswers pollIntervalMs w (.poll (.publishSourceHeartbeat heartbeat)) (.ok ())
      w.completeCycle
  | unpublished {w : LoopWorld} {heartbeat : CollectorHeartbeat} {error : ThrownError} :
    heartbeat.status = "healthy" →
    LoopCallAnswers pollIntervalMs w (.poll (.publishSourceHeartbeat heartbeat)) (.error error) w
  | failed {w : LoopWorld} {heartbeat : CollectorHeartbeat} {reply : Except ThrownError Unit} :
    heartbeat.status = "error" →
    LoopCallAnswers pollIntervalMs w (.poll (.publishSourceHeartbeat heartbeat)) reply w.failCycle
  | closed {w : LoopWorld} {reply : Except ThrownError Unit} :
    LoopCallAnswers pollIntervalMs w (.poll .closeStream) reply w
  | checkpoint {w : LoopWorld} {source key value : String} {reply : Except ThrownError Unit} :
    LoopCallAnswers pollIntervalMs w (.poll (.setCheckpoint source key value)) reply w
  | now {w : LoopWorld} {reply : Except ThrownError ℕ} :
    LoopCallAnswers pollIntervalMs w (.poll .now) reply w
  | lastCleanup {w : LoopWorld} {reply : Except ThrownError ℕ} :
    LoopCallAnswers pollIntervalMs w (.poll .lastSeenCleanupAt) reply w
  | cleanup {w : LoopWorld} {olderThan : String} {reply : Except ThrownError Unit} :
    LoopCallAnswers pollIntervalMs w (.poll (.cleanupSeen olderThan)) reply w
  | slept {w : LoopWorld} {ms : ℤ} :
    LoopCallAnswers pollIntervalMs w (.sleep ms) (.ok ()) (w.sleep ms)
  | random {w : LoopWorld} {random : ℚ} : 0 ≤ random → random < 1 →
    LoopCallAnswers pollIntervalMs w .random (.ok random) w
  | counted {w : LoopWorld} {errorType : CollectorErrorType} :
    LoopCallAnswers pollIntervalMs w (.incrementEventsFailed errorType) (.ok ())
      (w.count errorType)
  | noted {w : LoopWorld} :
    LoopCallAnswers pollIntervalMs w .incrementRateLimitBackoff (.ok ()) w.noteRateLimit

/-- Shutdown may be requested before any call; what is thrown satisfies `throws`. -/
def LoopAnswers (throws : ThrownError → Prop) (pollIntervalMs : ℕ) :
    Handler (adapterLoop Content) LoopWorld :=
  fun w c reply w' => (∀ error, reply = .error error → throws error) ∧
    (LoopCallAnswers pollIntervalMs w c reply w' ∨
      LoopCallAnswers pollIntervalMs w.requestShutdown c reply w')

/-! ## The law -/

/-- A delay of the backoff after so many attempts: the capped one and at most a fifth more. -/
def BackoffDelay (attempts : ℕ) (delay : ℤ) : Prop :=
  ∃ config ∈ [defaultRateLimitConfig, defaultTransientConfig],
    ⌊config.cappedDelay attempts⌋ ≤ delay ∧
      (delay : ℚ) ≤ config.cappedDelay attempts * (1 + config.jitterFactor)

structure LoopLaw (pollIntervalMs : ℕ) (w : LoopWorld) : Prop where
  punctual : w.early = false
  idle : w.idleMs ≤ pollIntervalMs ∧ w.longestIdleMs ≤ 1000
  backoffs : ∀ attempts delay, w.backoffs[attempts]? = some delay → BackoffDelay attempts delay
  failures : w.counted ≤ w.failedCycles ∧ w.failedCycles ≤ w.counted + 1
  rateLimits : w.rateLimitBackoffs ≤ w.countedRateLimits ∧
    w.countedRateLimits ≤ w.rateLimitBackoffs + 1
  stopping : w.late ≤ 1

/-! ## Between two heartbeats -/

section Polls

variable {throws : ThrownError → Prop} {pollIntervalMs attempts : ℕ} {w w' : LoopWorld}

/-- The law holds, and nothing started late as long as shutdown is not requested. -/
structure Lawful (pollIntervalMs : ℕ) (w : LoopWorld) : Prop extends LoopLaw pollIntervalMs w where
  quiet : w.shutdown = false → w.late = 0

theorem Lawful.requestShutdown (lawful : Lawful pollIntervalMs w) :
    Lawful pollIntervalMs w.requestShutdown where
  toLoopLaw := ⟨lawful.punctual, lawful.idle, lawful.backoffs, lawful.failures, lawful.rateLimits,
    lawful.stopping⟩
  quiet running := nomatch running

/-- Starting something when nothing started late is lawful. -/
theorem late_begin (early : w.late = 0) : w.begin.late ≤ 1 := by
  unfold LoopWorld.begin
  dsimp only
  split_ifs <;> omega

theorem quiet_begin (early : w.late = 0) : w.begin.shutdown = false → w.begin.late = 0 := by
  intro running
  have stopped : w.shutdown = false := running
  simp [LoopWorld.begin, early, stopped]

/-- A cycle polls: so many cycles failed since the last completed one, each was counted and is
followed by its backoff, and the time to rest is over. -/
structure Polling (pollIntervalMs attempts : ℕ) (w : LoopWorld) : Prop
    extends Lawful pollIntervalMs w where
  counted : w.counted = w.failedCycles
  noted : w.rateLimitBackoffs = w.countedRateLimits
  waited : w.backoffs.length = attempts
  failed : w.failedSince = attempts
  rested : w.phase = .idle → w.idleMs = pollIntervalMs

theorem Polling.requestShutdown (polling : Polling pollIntervalMs attempts w) :
    Polling pollIntervalMs attempts w.requestShutdown :=
  ⟨polling.toLawful.requestShutdown, polling.counted, polling.noted, polling.waited,
    polling.failed, polling.rested⟩

theorem Polling.poll (polling : Polling pollIntervalMs attempts w) :
    Polling pollIntervalMs attempts (w.poll pollIntervalMs) := by
  have rested : w.Rested pollIntervalMs :=
    ⟨polling.rested, fun _ => polling.waited.trans polling.failed.symm⟩
  have same : w.poll pollIntervalMs = w := by
    simp [LoopWorld.poll, rested]
  rwa [same]

theorem Polling.begin (polling : Polling pollIntervalMs attempts w) (early : w.late = 0) :
    Polling pollIntervalMs attempts w.begin :=
  ⟨⟨⟨polling.punctual, polling.idle, polling.backoffs, polling.failures, polling.rateLimits,
    late_begin early⟩, quiet_begin early⟩, polling.counted, polling.noted, polling.waited,
    polling.failed, polling.rested⟩

/-- The calls of a cycle beside the ones that start or report something. -/
def Unobserved : CollectorCall Content → Prop
  | .shutdownRequested | .ingest _ | .publishSourceHeartbeat _ => False
  | _ => True

theorem Polling.unobserved {c : CollectorCall Content} {reply : Except ThrownError c.Reply}
    (polling : Polling pollIntervalMs attempts w) (other : Unobserved c)
    (step : LoopAnswers throws pollIntervalMs w (.poll c) reply w') :
    Polling pollIntervalMs attempts w' := by
  have once : ∀ {w w' : LoopWorld}, Polling pollIntervalMs attempts w →
      LoopCallAnswers pollIntervalMs w (.poll c) reply w' → Polling pollIntervalMs attempts w' := by
    intro w w' polling step
    cases step with
    | record => exact polling.poll
    | closed => exact polling
    | checkpoint => exact polling
    | now => exact polling
    | lastCleanup => exact polling
    | cleanup => exact polling
    | stop => exact other.elim
    | ingest => exact other.elim
    | healthy _ => exact other.elim
    | unpublished _ => exact other.elim
    | failed _ => exact other.elim
  rcases step.2 with step | step
  · exact once polling step
  · exact once polling.requestShutdown step

/-- How the calls of a cycle are answered. -/
abbrev PollAnswers (throws : ThrownError → Prop) (pollIntervalMs : ℕ) : Handler (collector Content ThrownError) LoopWorld :=
  along (LoopAnswers throws pollIntervalMs) (pollEmbedding Content)

theorem safe_unobserved {α : Type} {p : CollectorProgram Content ThrownError α}
    (within : p.Within Unobserved fun _ => True) (polling : Polling pollIntervalMs attempts w) :
    p.safe (PollAnswers throws pollIntervalMs) (LoopLaw pollIntervalMs)
      (fun _ => Polling pollIntervalMs attempts) w := by
  refine (safe_of_within within polling (fun c other s reply s' polling step => ?_)
    fun s polling => polling.toLoopLaw).mono (fun _ holds => holds) fun _ _ _ post => post.2
  obtain ⟨answered, rfl, step⟩ := step
  exact polling.unobserved other step

theorem safe_await_unobserved {c : CollectorCall Content} (other : Unobserved c)
    (polling : Polling pollIntervalMs attempts w) :
    (await (E := ThrownError) c).safe (PollAnswers throws pollIntervalMs) (LoopLaw pollIntervalMs)
      (fun _ => Polling pollIntervalMs attempts) w :=
  safe_unobserved ⟨other, fun _ => trivial⟩ polling

/-- Where shutdown is read and not requested, nothing started late. -/
theorem shutdown_read (polling : Polling pollIntervalMs attempts w)
    {reply : Except ThrownError Bool}
    (step : @LoopAnswers Content throws pollIntervalMs w (.poll .shutdownRequested) reply w') :
    ∃ stop, reply = .ok stop ∧ Polling pollIntervalMs attempts w' ∧ (stop = false → w'.late = 0) := by
  rcases step.2 with step | step
  · cases step with
    | stop => exact ⟨_, rfl, polling, polling.quiet⟩
  · cases step with
    | stop => exact ⟨_, rfl, polling.requestShutdown, polling.requestShutdown.quiet⟩

theorem ingested {content : Content} (polling : Polling pollIntervalMs attempts w)
    (early : w.late = 0) {reply : Except ThrownError IngestionStatus}
    (step : LoopAnswers throws pollIntervalMs w (.poll (.ingest content)) reply w') :
    Polling pollIntervalMs attempts w' := by
  rcases step.2 with step | step
  · cases step with
    | ingest => exact polling.begin early
  · cases step with
    | ingest => exact polling.requestShutdown.begin early

theorem within_storeLastCheckpoint (adapter : Adapter) (progress : PollProgress) :
    (storeLastCheckpoint adapter progress : CollectorProgram Content ThrownError Unit).Within
      Unobserved fun _ => True := by
  unfold storeLastCheckpoint
  split
  · split
    · exact ⟨trivial, fun _ => trivial⟩
    · trivial
  · trivial

theorem within_cleanupSeenWhenDue :
    (cleanupSeenWhenDue : CollectorProgram Content ThrownError Unit).Within Unobserved
      fun _ => True := by
  refine Within.calls_bind ⟨trivial, fun _ => trivial⟩ fun now => ?_
  refine Within.calls_bind ⟨trivial, fun _ => trivial⟩ fun last => ?_
  split
  · exact ⟨trivial, fun _ => trivial⟩
  · trivial

theorem safe_drain (records : List (CollectorIngestionRecord Content)) (progress : PollProgress)
    (polling : Polling pollIntervalMs attempts w) :
    (drain records progress).safe (PollAnswers throws pollIntervalMs) (LoopLaw pollIntervalMs)
      (fun _ => Polling pollIntervalMs attempts) w := by
  induction records generalizing progress w with
  | nil =>
      have asked := @safe_await_unobserved _ throws _ _ _ (.nextRecord : CollectorCall Content)
        trivial polling
      exact safe_bind asked (fun _ _ polling _ => ⟨polling.toLoopLaw, polling⟩)
        fun _ _ polling _ => polling
  | cons record rest ih =>
      have asked := @safe_await_unobserved _ throws _ _ _ (.nextRecord : CollectorCall Content)
        trivial polling
      refine safe_bind asked (fun _ w₁ polling₁ _ => ?_) fun _ _ polling _ => polling
      refine ⟨polling₁.toLoopLaw, fun reply w₂ step => ?_⟩
      obtain ⟨answered, rfl, step⟩ := step
      obtain ⟨stop, rfl, polling₂, early⟩ := shutdown_read polling₁ step
      cases stop with
      | true =>
          have closed := @safe_await_unobserved _ throws _ _ _ (.closeStream : CollectorCall Content)
            trivial polling₂
          have broken : (await .closeStream >>= fun _ =>
              (pure progress : CollectorProgram Content ThrownError PollProgress)).safe
              (PollAnswers throws pollIntervalMs) (LoopLaw pollIntervalMs)
              (fun _ => Polling pollIntervalMs attempts) w₂ :=
            safe_bind closed (fun _ _ polling _ => ⟨polling.toLoopLaw, polling⟩)
              fun _ _ polling _ => polling
          exact broken
      | false =>
          refine ⟨polling₂.toLoopLaw, fun status w₃ step => ?_⟩
          obtain ⟨answered, rfl, step⟩ := step
          have polling₃ := ingested polling₂ (early rfl) step
          rcases answered with e | status
          · exact ⟨polling₃.toLoopLaw, polling₃⟩
          · exact ih _ polling₃

/-- What a transparent program throws, a call threw. -/
theorem safe_and_thrown {α : Type} {p : CollectorProgram Content ThrownError α} {J : LoopWorld → Prop}
    {Q : Except ThrownError α → LoopWorld → Prop} (transparent : p.Transparent)
    (holds : p.safe (PollAnswers throws pollIntervalMs) J Q w) :
    p.safe (PollAnswers throws pollIntervalMs) J
      (fun outcome w' => (∀ e, outcome = .error e → throws e) ∧ Q outcome w') w := by
  obtain ⟨visits, runs⟩ := safe_iff.1 holds
  refine safe_iff.2 ⟨visits, fun outcome w' run => ⟨?_, runs outcome w' run⟩⟩
  refine transparent.thrown run fun s c e s' answered => ?_
  obtain ⟨reply, same, step⟩ := answered
  exact step.1 e same

/-- The cycle is complete: the time to rest runs from now. -/
structure Idle (pollIntervalMs : ℕ) (sleptMs : ℤ) (w : LoopWorld) : Prop
    extends Lawful pollIntervalMs w where
  counted : w.counted = w.failedCycles
  noted : w.rateLimitBackoffs = w.countedRateLimits
  phase : w.phase = .idle
  waited : w.backoffs = []
  failed : w.failedSince = 0
  slept : w.idleMs = sleptMs

theorem Polling.completeCycle (polling : Polling pollIntervalMs attempts w) :
    Idle pollIntervalMs 0 w.completeCycle :=
  ⟨⟨⟨polling.punctual, ⟨Int.natCast_nonneg _, Int.natCast_nonneg 1000⟩,
    (fun _ _ none => nomatch none), polling.failures, polling.rateLimits, polling.stopping⟩,
    polling.quiet⟩, polling.counted, polling.noted, rfl, rfl, rfl, rfl⟩

theorem transparent_await (c : CollectorCall Content) : (await (E := ThrownError) c).Transparent :=
  transparent_call (I := collector Content ThrownError) c

theorem transparent_drain (records : List (CollectorIngestionRecord Content))
    (progress : PollProgress) :
    (drain records progress : CollectorProgram Content ThrownError PollProgress).Transparent := by
  induction records generalizing progress with
  | nil => exact (transparent_await .nextRecord).bind fun _ => transparent_pure _
  | cons record rest ih =>
      refine (transparent_await .nextRecord).bind fun _ => ?_
      refine (transparent_await .shutdownRequested).bind fun stop => ?_
      cases stop with
      | true => exact (transparent_await .closeStream).bind fun _ => transparent_pure _
      | false => exact (transparent_await (.ingest record.content)).bind fun _ => ih _

/-- A cycle throws what one of its calls threw. -/
theorem transparent_pollCycle (adapter : Adapter)
    (records : List (CollectorIngestionRecord Content)) :
    (pollCycle adapter records : CollectorProgram Content ThrownError ℕ).Transparent := by
  refine (transparent_drain records _).bind fun progress => ?_
  have stored : (storeLastCheckpoint adapter progress :
      CollectorProgram Content ThrownError Unit).Transparent := by
    unfold storeLastCheckpoint
    split
    · split
      · exact transparent_await _
      · exact transparent_pure ()
    · exact transparent_pure ()
  have cleaned : (cleanupSeenWhenDue : CollectorProgram Content ThrownError Unit).Transparent := by
    refine (transparent_await .now).bind fun now => ?_
    refine (transparent_await .lastSeenCleanupAt).bind fun last => ?_
    split
    · exact transparent_await _
    · exact transparent_pure ()
  exact stored.bind fun _ => cleaned.bind fun _ => (transparent_await _).bind fun _ =>
    transparent_pure _

/-- A cycle that returns is complete, and one that throws leaves the world polling. -/
theorem safe_pollCycle (adapter : Adapter) (records : List (CollectorIngestionRecord Content))
    (polling : Polling pollIntervalMs attempts w) :
    (pollCycle adapter records).safe (PollAnswers throws pollIntervalMs) (LoopLaw pollIntervalMs)
      (fun outcome w' => match outcome with
        | .ok _ => Idle pollIntervalMs 0 w'
        | .error _ => Polling pollIntervalMs attempts w') w := by
  refine safe_bind (safe_drain records _ polling) (fun progress w₁ polling₁ _ => ?_)
    fun _ _ polling _ => polling
  refine safe_bind (safe_unobserved (within_storeLastCheckpoint adapter progress) polling₁)
    (fun _ w₂ polling₂ _ => ?_) fun _ _ polling _ => polling
  refine safe_bind (safe_unobserved within_cleanupSeenWhenDue polling₂)
    (fun _ w₃ polling₃ _ => ?_) fun _ _ polling _ => polling
  refine ⟨polling₃.toLoopLaw, fun reply w₄ step => ?_⟩
  obtain ⟨answered, rfl, step⟩ := step
  have apart : ("healthy" : String) ≠ "error" := by decide
  have published : ∀ {w}, Polling pollIntervalMs attempts w →
      LoopCallAnswers pollIntervalMs w (.poll (.publishSourceHeartbeat
        ⟨adapter.source, progress.batchCount, "healthy"⟩)) answered w₄ →
      (∃ e, answered = .error e ∧ Polling pollIntervalMs attempts w₄) ∨
        (answered = .ok () ∧ Idle pollIntervalMs 0 w₄) := by
    intro w polling step
    cases step with
    | healthy _ => exact .inr ⟨rfl, polling.completeCycle⟩
    | unpublished _ => exact .inl ⟨_, rfl, polling⟩
    | failed other => exact absurd other apart
  have ended := step.2.elim (published polling₃) (published polling₃.requestShutdown)
  rcases ended with ⟨e, rfl, polling₄⟩ | ⟨rfl, idle⟩
  · exact ⟨polling₄.toLoopLaw, polling₄⟩
  · exact ⟨idle.toLoopLaw, idle⟩

end Polls

/-! ## From the heartbeat to the next cycle -/

section Turns

variable {throws : ThrownError → Prop} {pollIntervalMs attempts : ℕ} {w w' : LoopWorld}

/-- A call of the loop itself, when what holds before it survives a request to shut down. -/
theorem safe_loopCall {c : AdapterLoopCall Content} {P : LoopWorld → Prop}
    {Q : Except ThrownError c.Reply → LoopWorld → Prop}
    (request : ∀ w, P w → P w.requestShutdown) (before : ∀ w, P w → LoopLaw pollIntervalMs w)
    (after : ∀ reply w, Q reply w → LoopLaw pollIntervalMs w)
    (once : ∀ w reply w', P w → LoopCallAnswers pollIntervalMs w c reply w' → Q reply w')
    (holds : P w) :
    (loopCall c).safe (LoopAnswers throws pollIntervalMs) (LoopLaw pollIntervalMs) Q w := by
  refine ⟨before w holds, fun reply w' step => ?_⟩
  have answered : Q reply w' := by
    rcases step.2 with step | step
    · exact once _ _ _ holds step
    · exact once _ _ _ (request w holds) step
  exact ⟨after reply w' answered, answered⟩

theorem safe_shutdownRequested {P : LoopWorld → Prop} (request : ∀ w, P w → P w.requestShutdown)
    (lawful : ∀ w, P w → LoopLaw pollIntervalMs w) (holds : P w) :
    (shutdownRequested : LoopProgram Content Bool).safe (LoopAnswers throws pollIntervalMs)
      (LoopLaw pollIntervalMs)
      (fun outcome w' => ∃ stop, outcome = .ok stop ∧ P w' ∧ w'.shutdown = stop) w := by
  refine safe_loopCall request lawful (fun _ w read => ?_) (fun w reply w' holds step => ?_) holds
  · obtain ⟨_, _, holds, _⟩ := read
    exact lawful w holds
  · cases step with
    | stop => exact ⟨_, rfl, holds, rfl⟩

theorem Idle.requestShutdown {sleptMs : ℤ} (idle : Idle pollIntervalMs sleptMs w) :
    Idle pollIntervalMs sleptMs w.requestShutdown :=
  ⟨idle.toLawful.requestShutdown, idle.counted, idle.noted, idle.phase, idle.waited, idle.failed,
    idle.slept⟩

theorem Idle.sleep {sleptMs ms : ℤ} (idle : Idle pollIntervalMs sleptMs w) (early : w.late = 0)
    (chunk : ms ≤ 1000) (within : sleptMs + ms ≤ pollIntervalMs) :
    Idle pollIntervalMs (sleptMs + ms) (w.sleep ms) := by
  have slept : w.sleep ms =
      { w.begin with idleMs := w.idleMs + ms, longestIdleMs := max w.longestIdleMs ms } := by
    simp [LoopWorld.sleep, idle.phase]
  rw [slept]
  have total : w.idleMs + ms = sleptMs + ms := by rw [idle.slept]
  refine ⟨⟨⟨idle.punctual, ⟨?_, max_le idle.idle.2 chunk⟩, idle.backoffs, idle.failures,
    idle.rateLimits, late_begin early⟩, quiet_begin early⟩, idle.counted, idle.noted, idle.phase,
    idle.waited, idle.failed, total⟩
  exact total.trans_le within

/-- The loop goes round: where shutdown is not requested, the time to rest is over. -/
structure Head (pollIntervalMs attempts : ℕ) (w : LoopWorld) : Prop
    extends Lawful pollIntervalMs w where
  counted : w.counted = w.failedCycles
  noted : w.rateLimitBackoffs = w.countedRateLimits
  waited : w.backoffs.length = attempts
  failed : w.failedSince = attempts
  rested : w.shutdown = false → w.phase = .idle → w.idleMs = pollIntervalMs

theorem Head.requestShutdown (head : Head pollIntervalMs attempts w) :
    Head pollIntervalMs attempts w.requestShutdown :=
  ⟨head.toLawful.requestShutdown, head.counted, head.noted, head.waited, head.failed,
    fun running => nomatch running⟩

theorem Head.polling (head : Head pollIntervalMs attempts w) (running : w.shutdown = false) :
    Polling pollIntervalMs attempts w :=
  ⟨head.toLawful, head.counted, head.noted, head.waited, head.failed, head.rested running⟩

theorem Idle.head {sleptMs : ℤ} (idle : Idle pollIntervalMs sleptMs w)
    (rested : w.shutdown = false → sleptMs = pollIntervalMs) : Head pollIntervalMs 0 w where
  toLawful := idle.toLawful
  counted := idle.counted
  noted := idle.noted
  waited := List.length_eq_zero_iff.2 idle.waited
  failed := idle.failed
  rested running _ := idle.slept.trans (rested running)

/-- The sleep ends after the rest of the interval, or where shutdown was requested. -/
theorem safe_sleepUntilNextPoll {remainingMs : ℕ} {sleptMs : ℤ}
    (idle : Idle pollIntervalMs sleptMs w) (rest : sleptMs + remainingMs = pollIntervalMs) :
    (sleepUntilNextPoll remainingMs : LoopProgram Content Unit).safe (LoopAnswers throws pollIntervalMs)
      (LoopLaw pollIntervalMs)
      (fun outcome w' => outcome = .ok () ∧ Head pollIntervalMs 0 w') w := by
  induction remainingMs using Nat.strong_induction_on generalizing sleptMs w with
  | _ remainingMs ih =>
    cases remainingMs with
    | zero =>
        unfold sleepUntilNextPoll
        have ended : sleptMs = pollIntervalMs := by simpa using rest
        exact ⟨idle.toLoopLaw, rfl, idle.head fun _ => ended⟩
    | succ remainingMs =>
        unfold sleepUntilNextPoll
        refine safe_bind (safe_shutdownRequested (P := Idle pollIntervalMs sleptMs)
          (fun _ => Idle.requestShutdown) (fun _ idle => idle.toLoopLaw) idle)
          (fun stop w₁ read _ => ?_)
          fun _ _ read _ => nomatch read
        obtain ⟨stop, same, idle₁, requested⟩ := read
        cases same
        cases stop with
        | true =>
            exact ⟨idle₁.toLoopLaw, rfl, idle₁.head fun running => nomatch requested.symm.trans running⟩
        | false =>
            have shorter : remainingMs + 1 - min (remainingMs + 1) 1000 < remainingMs + 1 := by omega
            have chunk : ((min (remainingMs + 1) 1000 : ℕ) : ℤ) ≤ 1000 := by omega
            have within : sleptMs + (min (remainingMs + 1) 1000 : ℕ) ≤ pollIntervalMs := by omega
            refine safe_bind (safe_loopCall
              (Q := fun reply w' => reply = .ok () ∧
                Idle pollIntervalMs (sleptMs + (min (remainingMs + 1) 1000 : ℕ)) w')
              (P := fun w => Idle pollIntervalMs sleptMs w ∧ w.late = 0)
              (fun _ holds => ⟨holds.1.requestShutdown, holds.2⟩)
              (fun _ holds => holds.1.toLoopLaw) (fun _ _ holds => holds.2.toLoopLaw)
              (fun w reply w' holds step => ?_) ⟨idle₁, idle₁.quiet requested⟩)
              (fun _ w₂ slept _ => ?_) fun _ _ slept _ => nomatch slept
            · cases step with
              | slept => exact ⟨rfl, holds.1.sleep holds.2 chunk within⟩
            · exact ih _ shorter slept.2 (by omega)

/-- How a turn ends: the loop is left only where shutdown was requested, and what is thrown was raised
by printing an error. -/
def TurnEnd (throws : ThrownError → Prop) (pollIntervalMs : ℕ)
    (outcome : Except ThrownError (Turn LoopState Unit)) (w : LoopWorld) : Prop :=
  match outcome with
  | .ok (.again state) => Head pollIntervalMs state.attempts w
  | .ok (.leave _) => w.shutdown = true
  | .error raised => throws (.unprintable raised)

theorem safe_afterCycle (loop : AdapterLoop Content) (cycle : ℕ)
    (idle : Idle loop.pollIntervalMs 0 w) :
    (afterCycle loop cycle).safe (LoopAnswers throws loop.pollIntervalMs)
      (LoopLaw loop.pollIntervalMs)
      (fun outcome w' => ∃ turn, outcome = .ok turn ∧
        TurnEnd throws loop.pollIntervalMs (.ok turn) w') w := by
  refine safe_bind (safe_shutdownRequested (P := Idle loop.pollIntervalMs 0)
    (fun _ => Idle.requestShutdown) (fun _ idle => idle.toLoopLaw) idle) (fun stop w₁ read _ => ?_)
    fun _ _ read _ => nomatch read
  obtain ⟨stop, same, idle₁, requested⟩ := read
  cases same
  cases stop with
  | true => exact ⟨idle₁.toLoopLaw, _, rfl, requested⟩
  | false =>
      refine safe_bind (safe_sleepUntilNextPoll idle₁ (by omega)) (fun _ w₂ slept law => ?_)
        fun _ _ slept _ => nomatch slept
      exact ⟨law, _, rfl, slept.2⟩

/-- A cycle failed: that many counts and notes of it are missing, and its backoff. -/
structure Failing (pollIntervalMs attempts uncounted unnoted : ℕ) (w : LoopWorld) : Prop
    extends Lawful pollIntervalMs w where
  counted : w.counted + uncounted = w.failedCycles
  noted : w.rateLimitBackoffs + unnoted = w.countedRateLimits
  phase : w.phase = .failing
  waited : w.backoffs.length = attempts
  failed : w.failedSince = attempts + 1

theorem Polling.failCycle (polling : Polling pollIntervalMs attempts w) :
    Failing pollIntervalMs attempts 1 0 w.failCycle :=
  have failures : w.counted ≤ w.failedCycles + 1 ∧ w.failedCycles + 1 ≤ w.counted + 1 := by
    have counted := polling.counted
    omega
  ⟨⟨⟨polling.punctual, polling.idle, polling.backoffs, failures, polling.rateLimits,
    polling.stopping⟩, polling.quiet⟩, congrArg (· + 1) polling.counted, polling.noted, rfl,
    polling.waited, congrArg (· + 1) polling.failed⟩

variable {uncounted unnoted : ℕ}

theorem Failing.requestShutdown (failing : Failing pollIntervalMs attempts uncounted unnoted w) :
    Failing pollIntervalMs attempts uncounted unnoted w.requestShutdown :=
  ⟨failing.toLawful.requestShutdown, failing.counted, failing.noted, failing.phase, failing.waited,
    failing.failed⟩

/-- The notes that a count asks for. -/
def CollectorErrorType.notes (errorType : CollectorErrorType) : ℕ :=
  if errorType = .rateLimit then 1 else 0

theorem Failing.count {errorType : CollectorErrorType}
    (failing : Failing pollIntervalMs attempts 1 0 w) :
    Failing pollIntervalMs attempts 0 errorType.notes (w.count errorType) := by
  have notes : errorType.notes ≤ 1 := by
    unfold CollectorErrorType.notes
    split_ifs <;> omega
  have counted := failing.counted
  have noted : w.rateLimitBackoffs + errorType.notes = w.countedRateLimits + errorType.notes :=
    congrArg (· + errorType.notes) failing.noted
  refine ⟨⟨⟨failing.punctual, failing.idle, failing.backoffs, ?_, ?_, failing.stopping⟩,
    failing.quiet⟩, counted, noted, failing.phase, failing.waited, failing.failed⟩
  · change w.counted + 1 ≤ w.failedCycles ∧ w.failedCycles ≤ w.counted + 1 + 1
    omega
  · change w.rateLimitBackoffs ≤ w.countedRateLimits + errorType.notes ∧
      w.countedRateLimits + errorType.notes ≤ w.rateLimitBackoffs + 1
    omega

theorem Failing.noteRateLimit (failing : Failing pollIntervalMs attempts 0 1 w) :
    Failing pollIntervalMs attempts 0 0 w.noteRateLimit := by
  have noted := failing.noted
  refine ⟨⟨⟨failing.punctual, failing.idle, failing.backoffs, failing.failures, ?_,
    failing.stopping⟩, failing.quiet⟩, failing.counted, noted, failing.phase, failing.waited,
    failing.failed⟩
  change w.rateLimitBackoffs + 1 ≤ w.countedRateLimits ∧
    w.countedRateLimits ≤ w.rateLimitBackoffs + 1 + 1
  omega

theorem Failing.sleep {delay : ℤ} (failing : Failing pollIntervalMs attempts 0 0 w)
    (early : w.late = 0) (backoff : BackoffDelay attempts delay) :
    Head pollIntervalMs (attempts + 1) (w.sleep delay) := by
  have slept : w.sleep delay = { w.begin with backoffs := w.backoffs ++ [delay] } := by
    simp [LoopWorld.sleep, failing.phase]
  rw [slept]
  have backoffs : ∀ earlier next, (w.backoffs ++ [delay])[earlier]? = some next →
      BackoffDelay earlier next := by
    intro earlier next found
    rcases lt_or_ge earlier w.backoffs.length with before | last
    · rw [List.getElem?_append_left before] at found
      exact failing.backoffs earlier next found
    · rw [List.getElem?_append_right last, List.getElem?_singleton] at found
      split_ifs at found with position
      cases found
      have same : earlier = attempts := by
        have waited := failing.waited
        omega
      exact same ▸ backoff
  refine ⟨⟨⟨failing.punctual, failing.idle, backoffs, failing.failures, failing.rateLimits,
    late_begin early⟩, quiet_begin early⟩, failing.counted, failing.noted, ?_, failing.failed,
    fun _ idle => nomatch failing.phase.symm.trans idle⟩
  exact List.length_append.trans (congrArg (· + 1) failing.waited)

/-- What holds while the error policy runs. -/
abbrev Handling (pollIntervalMs attempts uncounted unnoted : ℕ) (w : LoopWorld) : Prop :=
  Failing pollIntervalMs attempts uncounted unnoted w ∧ w.late = 0

/-- A call of the error policy. -/
theorem safe_handling {c : AdapterLoopCall Content}
    {Q : Except ThrownError c.Reply → LoopWorld → Prop}
    (after : ∀ reply w, Q reply w → LoopLaw pollIntervalMs w)
    (once : ∀ w reply w', Handling pollIntervalMs attempts uncounted unnoted w →
      LoopCallAnswers pollIntervalMs w c reply w' → Q reply w')
    (handling : Handling pollIntervalMs attempts uncounted unnoted w) :
    (loopCall c).safe (LoopAnswers throws pollIntervalMs) (LoopLaw pollIntervalMs) Q w :=
  safe_loopCall (fun _ holds => ⟨holds.1.requestShutdown, holds.2⟩)
    (fun _ holds => holds.1.toLoopLaw) after once handling

theorem safe_wait {config : BackoffConfig} (sound : config.Sound)
    (member : config ∈ [defaultRateLimitConfig, defaultTransientConfig])
    (handling : Handling pollIntervalMs attempts 0 0 w) :
    (wait config attempts : LoopProgram Content ℕ).safe (LoopAnswers throws pollIntervalMs)
      (LoopLaw pollIntervalMs)
      (fun outcome w' => outcome = .ok (attempts + 1) ∧ Head pollIntervalMs (attempts + 1) w') w := by
  refine safe_bind (safe_handling (Q := fun reply w' => ∃ random, reply = .ok random ∧
    0 ≤ random ∧ random < 1 ∧ Handling pollIntervalMs attempts 0 0 w')
    (fun _ _ drawn => ?_) (fun w reply w' holds step => ?_) handling) (fun random w₁ drawn _ => ?_)
    fun _ _ drawn _ => nomatch drawn
  · obtain ⟨_, _, _, _, holds⟩ := drawn
    exact holds.1.toLoopLaw
  · cases step with
    | random nonneg below => exact ⟨_, rfl, nonneg, below, holds⟩
  · obtain ⟨random, same, nonneg, below, handling₁⟩ := drawn
    cases same
    have backoff : BackoffDelay attempts (config.totalDelay attempts random) :=
      ⟨config, member, sound.totalDelay_bounds attempts nonneg below⟩
    refine safe_bind (safe_handling (Q := fun reply w' => reply = .ok () ∧
      Head pollIntervalMs (attempts + 1) w') (fun _ _ slept => slept.2.toLoopLaw)
      (fun w reply w' holds step => ?_) handling₁) (fun _ w₂ slept law => ?_)
      fun _ _ slept _ => nomatch slept
    · cases step with
      | slept => exact ⟨rfl, holds.1.sleep holds.2 backoff⟩
    · exact ⟨law, rfl, slept.2⟩

/-- What the error policy leaves behind. -/
abbrev Handled (pollIntervalMs attempts : ℕ) (outcome : Except ThrownError ℕ) (w : LoopWorld) :
    Prop :=
  outcome = .ok (attempts + 1) ∧ Head pollIntervalMs (attempts + 1) w

theorem safe_waitTransient (handling : Handling pollIntervalMs attempts 0 0 w) :
    (waitTransient attempts : LoopProgram Content ℕ).safe (LoopAnswers throws pollIntervalMs)
      (LoopLaw pollIntervalMs) (Handled pollIntervalMs attempts) w :=
  safe_wait defaultTransientConfig_sound (by simp) handling

theorem safe_waitRateLimit (handling : Handling pollIntervalMs attempts 0 0 w) :
    (waitRateLimit attempts : LoopProgram Content ℕ).safe (LoopAnswers throws pollIntervalMs)
      (LoopLaw pollIntervalMs) (Handled pollIntervalMs attempts) w :=
  safe_wait defaultRateLimitConfig_sound (by simp) handling

theorem safe_incrementEventsFailed (errorType : CollectorErrorType)
    (handling : Handling pollIntervalMs attempts 1 0 w) :
    (loopCall (.incrementEventsFailed errorType) : LoopProgram Content Unit).safe
      (LoopAnswers throws pollIntervalMs) (LoopLaw pollIntervalMs)
      (fun reply w' => reply = .ok () ∧ Handling pollIntervalMs attempts 0 errorType.notes w') w := by
  refine safe_handling (fun _ _ counted => counted.2.1.toLoopLaw) (fun w reply w' holds step => ?_)
    handling
  cases step with
  | counted => exact ⟨rfl, holds.1.count, holds.2⟩

theorem safe_incrementRateLimitBackoff (handling : Handling pollIntervalMs attempts 0 1 w) :
    (loopCall .incrementRateLimitBackoff : LoopProgram Content Unit).safe
      (LoopAnswers throws pollIntervalMs) (LoopLaw pollIntervalMs)
      (fun reply w' => reply = .ok () ∧ Handling pollIntervalMs attempts 0 0 w') w := by
  refine safe_handling (fun _ _ noted => noted.2.1.toLoopLaw) (fun w reply w' holds step => ?_)
    handling
  cases step with
  | noted => exact ⟨rfl, holds.1.noteRateLimit, holds.2⟩

/-- A count without a note, and the transient backoff. -/
theorem safe_countedTransient (errorType : CollectorErrorType) (other : errorType ≠ .rateLimit)
    (handling : Handling pollIntervalMs attempts 1 0 w) :
    (loopCall (.incrementEventsFailed errorType) >>= fun _ => waitTransient attempts :
      LoopProgram Content ℕ).safe (LoopAnswers throws pollIntervalMs) (LoopLaw pollIntervalMs)
      (Handled pollIntervalMs attempts) w := by
  have notes : errorType.notes = 0 := if_neg other
  refine safe_bind (safe_incrementEventsFailed errorType handling) (fun _ w₁ counted _ => ?_)
    fun _ _ counted _ => nomatch counted
  exact safe_waitTransient (notes ▸ counted.2)

theorem mapUnknownErrorType_ne (toLowerCase : String → String) (error : PrintableError) :
    mapUnknownErrorType toLowerCase error ≠ .rateLimit := by
  unfold mapUnknownErrorType
  split
  · nofun
  · split_ifs <;> nofun

/-- Whichever strategy matches counts the failure once, notes a rate limit once and backs off
once; some strategy matches. -/
theorem safe_handleAdapterError (toLowerCase : String → String) (error : PrintableError)
    (handling : Handling pollIntervalMs attempts 1 0 w) :
    (handleAdapterError error attempts
      (defaultErrorHandlingStrategies toLowerCase : List (AdapterErrorHandlingStrategy Content))).safe
      (LoopAnswers throws pollIntervalMs) (LoopLaw pollIntervalMs) (Handled pollIntervalMs attempts) w := by
  unfold defaultErrorHandlingStrategies
  simp only [handleAdapterError]
  split
  · refine safe_bind (safe_incrementEventsFailed .rateLimit handling) (fun _ w₁ counted _ => ?_)
      fun _ _ counted _ => nomatch counted
    refine safe_bind (safe_incrementRateLimitBackoff counted.2) (fun _ w₂ noted _ => ?_)
      fun _ _ noted _ => nomatch noted
    exact safe_waitRateLimit noted.2
  · split
    · exact safe_countedTransient .networkError nofun handling
    · exact safe_countedTransient _ (mapUnknownErrorType_ne toLowerCase error) handling

theorem safe_publishErrorHeartbeat (loop : AdapterLoop Content)
    (polling : Polling loop.pollIntervalMs attempts w) :
    (publishErrorHeartbeat loop).safe (LoopAnswers throws loop.pollIntervalMs)
      (LoopLaw loop.pollIntervalMs)
      (fun outcome w' => outcome = .ok () ∧ Failing loop.pollIntervalMs attempts 1 0 w') w := by
  have apart : ("error" : String) ≠ "healthy" := by decide
  have failed : (loopCall (.poll (.publishSourceHeartbeat ⟨loop.adapter.source, 0, "error"⟩)) :
      LoopProgram Content Unit).safe (LoopAnswers throws loop.pollIntervalMs)
      (LoopLaw loop.pollIntervalMs)
      (fun _ w' => Failing loop.pollIntervalMs attempts 1 0 w') w := by
    refine safe_loopCall (P := Polling loop.pollIntervalMs attempts)
      (fun _ => Polling.requestShutdown) (fun _ polling => polling.toLoopLaw)
      (fun _ _ failing => failing.toLoopLaw) (fun w reply w' polling step => ?_) polling
    cases step with
    | failed _ => exact polling.failCycle
    | healthy other => exact absurd other apart
    | unpublished other => exact absurd other apart
  refine (safe_settle _ _ _ _ _).2 (failed.mono (fun _ law => law) fun outcome w' law failing => ?_)
  rcases outcome with e | value
  · exact ⟨law, rfl, failing⟩
  · exact ⟨law, rfl, failing⟩

theorem safe_afterError (toLowerCase : String → String) (loop : AdapterLoop Content)
    (state : LoopState) {error : ThrownError} (thrown : throws error)
    (polling : Polling loop.pollIntervalMs state.attempts w) :
    (afterError toLowerCase loop state error).safe (LoopAnswers throws loop.pollIntervalMs)
      (LoopLaw loop.pollIntervalMs) (TurnEnd throws loop.pollIntervalMs) w := by
  rcases error with error | raised
  case unprintable => exact ⟨polling.toLoopLaw, thrown⟩
  refine safe_bind (safe_publishErrorHeartbeat loop polling) (fun _ w₁ failed _ => ?_)
    fun _ _ failed _ => nomatch failed
  refine safe_bind (safe_shutdownRequested (P := Failing loop.pollIntervalMs state.attempts 1 0)
    (fun _ => Failing.requestShutdown) (fun _ failing => failing.toLoopLaw) failed.2)
    (fun stop w₂ read _ => ?_) fun _ _ read _ => nomatch read
  obtain ⟨stop, same, failing, requested⟩ := read
  cases same
  cases stop with
  | true => exact ⟨failing.toLoopLaw, requested⟩
  | false =>
      refine safe_bind (safe_handleAdapterError toLowerCase error ⟨failing, failing.quiet requested⟩)
        (fun _ w₃ handled law => ?_) fun _ _ handled _ => nomatch handled
      obtain ⟨same, head⟩ := handled
      cases same
      exact ⟨law, head⟩

/-- One turn keeps the head of the loop. -/
theorem safe_adapterTurn (toLowerCase : String → String) (loop : AdapterLoop Content)
    (state : LoopState) (head : Head loop.pollIntervalMs state.attempts w) :
    (adapterTurn toLowerCase loop state).safe (LoopAnswers throws loop.pollIntervalMs)
      (LoopLaw loop.pollIntervalMs) (TurnEnd throws loop.pollIntervalMs) w := by
  refine safe_bind (safe_shutdownRequested (P := Head loop.pollIntervalMs state.attempts)
    (fun _ => Head.requestShutdown) (fun _ head => head.toLoopLaw) head) (fun stop w₁ read _ => ?_)
    fun _ _ read _ => nomatch read
  obtain ⟨stop, same, head₁, requested⟩ := read
  cases same
  cases stop with
  | true => exact ⟨head₁.toLoopLaw, requested⟩
  | false =>
      have polled := @safe_pollCycle _ throws _ _ _ loop.adapter (loop.records state.cycle)
        (head₁.polling requested)
      have cycle := (safe_and_thrown (transparent_pollCycle _ _) polled).embed
      -- the `catch` block is entered from a poll only: nothing after the cycle throws
      have tried : ((pollCycle loop.adapter (loop.records state.cycle)).embed
          (pollEmbedding Content) >>= fun _ => afterCycle loop state.cycle).safe
          (LoopAnswers throws loop.pollIntervalMs) (LoopLaw loop.pollIntervalMs)
          (fun outcome w' => match outcome with
            | .error e => throws e ∧ Polling loop.pollIntervalMs state.attempts w'
            | .ok turn => TurnEnd throws loop.pollIntervalMs (.ok turn) w') w₁ := by
        refine safe_bind cycle (fun _ w₂ idle _ => ?_)
          fun e _ polling _ => ⟨polling.1 e rfl, polling.2⟩
        refine (safe_afterCycle loop state.cycle idle.2).mono (fun _ law => law)
          fun outcome w₃ _ ended => ?_
        obtain ⟨turn, rfl, ended⟩ := ended
        exact ended
      refine (safe_settle _ _ _ _ _).2 (tried.mono (fun _ law => law) fun outcome w₂ law ended => ?_)
      rcases outcome with e | turn
      · exact safe_afterError toLowerCase loop state ended.1 ended.2
      · exact ⟨law, ended⟩

theorem head_start : Head pollIntervalMs 0 LoopWorld.start where
  punctual := rfl
  idle := ⟨Int.natCast_nonneg _, by decide⟩
  backoffs _ _ none := nomatch none
  failures := ⟨le_rfl, Nat.zero_le _⟩
  rateLimits := ⟨le_rfl, Nat.zero_le _⟩
  stopping := Nat.zero_le 1
  quiet _ := rfl
  counted := rfl
  noted := rfl
  waited := rfl
  failed := rfl
  rested _ phase := nomatch phase

end Turns

end RisingIntelligence.Collector
