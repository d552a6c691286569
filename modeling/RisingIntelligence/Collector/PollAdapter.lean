import RisingIntelligence.Async.Generator
import RisingIntelligence.Collector.RunAdapter
import Mathlib.Logic.Function.Basic

/-!
# Poll cycles over an adapter's generator

The same `try` block of `runAdapter` as in `RunAdapter`, now with the `fetch()` generator of an
adapter in place of a given list of records, so that what the adapter does between two records
is part of the cycle.

* `polling` are the calls of a cycle: those of the collector, a checkpoint read and the calls
  of the adapter's own interface.
* `PollWorld` has the adapter's checkpoint rows and everything that was called so far.
-/

namespace RisingIntelligence.Collector

open Async

inductive PollCall (Content : Type) (Api : Interface) : Type
  | collector (c : CollectorCall Content)
  | getCheckpoint (source checkpointKey : String)
  | api (c : Api.Call)

@[reducible] def PollCall.Reply {Content : Type} {Api : Interface} : PollCall Content Api → Type
  | .collector c => c.Reply
  | .getCheckpoint _ _ => Option String
  | .api c => Api.Reply c

abbrev polling (Content : Type) (Api : Interface) : Interface where
  Call := PollCall Content Api
  Reply := PollCall.Reply
  Error := Api.Error

variable {Content : Type} {Api : Interface}

/-- `fetch()` of an adapter. -/
abbrev RecordGenerator (Content : Type) (Api : Interface) (α : Type) : Type :=
  Generator (polling Content Api) (CollectorIngestionRecord Content) Api.Error α

abbrev PollProgram (Content : Type) (Api : Interface) (α : Type) : Type :=
  Program (polling Content Api) Api.Error α

/-- The collector's own calls as calls of a cycle. -/
def ofCollector (Content : Type) (Api : Interface) :
    Embedding (collector Content Api.Error) (polling Content Api) where
  call := .collector
  reply _ reply := reply

def ask (c : PollCall Content Api) : PollProgram Content Api c.Reply :=
  Program.call (I := polling Content Api) c

/-- The body of the `for await` loop. -/
def processRecord (progress : PollProgress) (record : CollectorIngestionRecord Content) :
    PollProgram Content Api (Signal PollProgress) := do
  let stop ← ask (.collector .shutdownRequested)
  if stop then pure (.break progress)
  else do
    let status ← ask (.collector (.ingest record.content))
    pure (.next {
      batchCount := if status = .ingested then progress.batchCount + 1 else progress.batchCount
      lastCheckpointKey := some record.checkpointKey
      lastCheckpointValue := some record.checkpointValue })

/-- What follows the loop. -/
def finishPoll (adapter : Adapter) (progress : PollProgress) :
    CollectorProgram Content Api.Error Nat := do
  storeLastCheckpoint adapter progress
  cleanupSeenWhenDue
  await (.publishSourceHeartbeat ⟨adapter.source, progress.batchCount, "healthy"⟩)
  pure progress.batchCount

/-- One poll cycle of `runAdapter`. -/
def pollAdapter (adapter : Adapter) (fetch : RecordGenerator Content Api Unit) :
    PollProgram Content Api Nat := do
  let progress ← fetch.forAwait processRecord ⟨0, none, none⟩
  (finishPoll adapter progress).embed (ofCollector Content Api)

/-! ## The checkpoint table -/

structure PollWorld (Content : Type) (Api : Interface) where
  /-- The adapter's rows of the checkpoint table. -/
  checkpoints : String → Option String
  /-- Every call so far, with what it answered. -/
  trace : List (Event (polling Content Api))

namespace PollWorld

/-- Only a `setCheckpoint` that returns writes a row; the adapter reads its own rows. -/
def handler (adapter : Adapter) : Handler (polling Content Api) (PollWorld Content Api) :=
  fun w c reply w' =>
    w'.trace = w.trace ++ [⟨c, reply⟩] ∧
      match c, reply with
      | .collector (.setCheckpoint source key value), .ok _ =>
          w'.checkpoints = if source = adapter.name
            then Function.update w.checkpoints key (some value) else w.checkpoints
      | .getCheckpoint source key, .ok stored =>
          (source = adapter.name → stored = w.checkpoints key) ∧ w'.checkpoints = w.checkpoints
      | _, _ => w'.checkpoints = w.checkpoints

variable {adapter : Adapter} {w w' : PollWorld Content Api}

/-- Nothing was stored since `w`, and no call was forgotten. -/
def Unstored (w w' : PollWorld Content Api) : Prop :=
  w'.checkpoints = w.checkpoints ∧ w.trace <+: w'.trace

theorem Unstored.refl (w : PollWorld Content Api) : Unstored w w := ⟨rfl, List.prefix_refl _⟩

theorem Unstored.trans {w'' : PollWorld Content Api} (first : Unstored w w')
    (second : Unstored w' w'') : Unstored w w'' :=
  ⟨second.1.trans first.1, first.2.trans second.2⟩

/-- A call that stores no checkpoint. -/
def stores : PollCall Content Api → Bool
  | .collector (.setCheckpoint _ _ _) => true
  | _ => false

theorem handler_unstored {c : PollCall Content Api} {reply : Except Api.Error c.Reply}
    (quiet : stores c = false) (answered : handler adapter w c reply w') :
    w'.checkpoints = w.checkpoints ∧ w'.trace = w.trace ++ [⟨c, reply⟩] := by
  obtain ⟨recorded, effect⟩ := answered
  constructor
  · rcases c with ⟨_⟩ | _ | _
    all_goals cases reply
    all_goals simp_all [stores]
    all_goals rename_i c _; cases c <;> simp_all
  · exact recorded

/-- A program that stores nothing only adds its calls to the trace. -/
theorem quiet_safe {α : Type} {p : PollProgram Content Api α}
    (quiet : p.Within (stores · = false) fun _ => True) (w : PollWorld Content Api) :
    p.safe (handler adapter) (Unstored w)
      (fun outcome w' => ∃ events, p.Recorded outcome events ∧
        w'.checkpoints = w.checkpoints ∧ w'.trace = w.trace ++ events) w := by
  induction p generalizing w with
  | done outcome => exact ⟨.refl w, [], .done, rfl, by simp⟩
  | await c next ih =>
      constructor
      · exact .refl w
      · intro reply w' answered
        obtain ⟨checkpoints, trace⟩ := handler_unstored quiet.1 answered
        have later : Unstored w w' := ⟨checkpoints, by rw [trace]; exact List.prefix_append _ _⟩
        apply (ih reply (quiet.2 reply) w').mono
        · exact fun _ visited => later.trans visited
        · rintro outcome w'' _ ⟨events, recorded, checkpoints', trace'⟩
          have extended : w''.trace = w.trace ++ ⟨c, reply⟩ :: events := by
            rw [trace', trace, List.append_assoc, List.singleton_append]
          exact ⟨_, .await reply recorded, checkpoints'.trans checkpoints, extended⟩

/-- What the body of the loop does with a record: it breaks at a requested shutdown, and
otherwise ingests the record and remembers its checkpoint. -/
inductive BodyEvents (progress : PollProgress) (record : CollectorIngestionRecord Content) :
    Signal PollProgress → List (Event (polling Content Api)) → Prop
  | stopped :
    BodyEvents progress record (.break progress) [⟨.collector .shutdownRequested, .ok true⟩]
  | ingested (status : IngestionStatus) (batchCount : Nat) :
    BodyEvents progress record
      (.next ⟨batchCount, some record.checkpointKey, some record.checkpointValue⟩)
      [⟨.collector .shutdownRequested, .ok false⟩, ⟨.collector (.ingest record.content), .ok status⟩]

theorem processRecord_quiet (progress : PollProgress) (record : CollectorIngestionRecord Content) :
    (processRecord progress record : PollProgram Content Api (Signal PollProgress)).Within
      (stores · = false) fun _ => True := by
  unfold processRecord ask
  refine Program.Within.bind (R := fun _ => True) ⟨rfl, fun _ => trivial⟩ ?_ fun _ _ => trivial
  intro stop _
  split
  · trivial
  · exact Program.Within.bind (R := fun _ => True) ⟨rfl, fun _ => trivial⟩
      (fun _ _ => trivial) fun _ _ => trivial

theorem processRecord_recorded {progress : PollProgress} {record : CollectorIngestionRecord Content}
    {signal : Signal PollProgress} {events : List (Event (polling Content Api))}
    (recorded : (processRecord progress record).Recorded (.ok signal) events) :
    BodyEvents progress record signal events := by
  cases recorded with
  | await reply rest =>
      rcases reply with _ | stop
      · cases rest
      · rcases stop with _ | _
        · cases rest with
          | await reply rest =>
              rcases reply with _ | status
              · cases rest
              · cases rest
                exact .ingested status _
        · cases rest
          exact .stopped

/-! ### The loop -/

/-- A part of the generator that yields nothing. -/
theorem consume_ofProgram_safe {α σ : Type} {p : PollProgram Content Api α}
    {body : σ → CollectorIngestionRecord Content → PollProgram Content Api (Signal σ)}
    (quiet : p.Within (stores · = false) fun _ => True) (start : Unstored w w') (s : σ) :
    ((Generator.ofProgram p).consume body s).safe (handler adapter) (Unstored w)
      (fun outcome w'' => ∃ result events, outcome = .ok (.ended result s) ∧
        p.Recorded result events ∧ w''.checkpoints = w'.checkpoints ∧
        w''.trace = w'.trace ++ events) w' := by
  rw [Generator.consume_ofProgram]
  apply Program.safe.settle ((quiet_safe quiet w').mono (fun _ later => start.trans later)
    fun _ _ _ post => post)
  rintro result w'' ⟨events, recorded, checkpoints, trace⟩ visited
  exact ⟨visited, result, events, rfl, recorded, checkpoints, trace⟩

/-- A record that the generator yields, and the rest of the loop. -/
theorem consume_yield_safe {α : Type} {record : CollectorIngestionRecord Content}
    {resume : RecordGenerator Content Api α} {progress : PollProgress}
    {Q : Except Api.Error (Consumed Api.Error α PollProgress) → PollWorld Content Api → Prop}
    (start : Unstored w w')
    (next : ∀ batchCount status w'', w''.checkpoints = w'.checkpoints →
      w''.trace = w'.trace ++ [⟨.collector .shutdownRequested, .ok false⟩,
        ⟨.collector (.ingest record.content), .ok status⟩] →
      (resume.consume processRecord
        ⟨batchCount, some record.checkpointKey, some record.checkpointValue⟩).safe
        (handler adapter) (Unstored w) Q w'')
    (broke : ∀ w'', w''.checkpoints = w'.checkpoints →
      w''.trace = w'.trace ++ [⟨.collector .shutdownRequested, .ok true⟩] →
      Q (.ok (.broke progress)) w'')
    (thrown : ∀ error w'', Q (.error error) w'') :
    ((Generator.yield record resume).consume processRecord progress).safe (handler adapter)
      (Unstored w) Q w' := by
  have body := (show Program.safe (handler adapter) _ _ _ _ from
    quiet_safe (processRecord_quiet progress record) w').mono (K := Unstored w)
    (fun _ later => start.trans later) fun _ _ _ post => post
  apply Program.safe_bind body
  · rintro signal w'' ⟨events, recorded, checkpoints, trace⟩ visited
    cases processRecord_recorded recorded with
    | stopped => exact ⟨visited, broke w'' checkpoints trace⟩
    | ingested status batchCount => exact next batchCount status w'' checkpoints trace
  · exact fun error w'' _ _ => thrown error w''

/-! ### The end of a cycle -/

/-- The rows once the progress of a loop is stored. -/
def storedRows (progress : PollProgress) (rows : String → Option String) :
    String → Option String :=
  match progress.lastCheckpointKey, progress.lastCheckpointValue with
  | some key, some value =>
      if key ≠ "" ∧ value ≠ "" then Function.update rows key (some value) else rows
  | _, _ => rows

/-- What can have happened since the loop ended in `w`: calls of the collector itself, and the
progress may be stored. -/
structure Finishing (progress : PollProgress) (w w' : PollWorld Content Api) : Prop where
  events : ∃ events, w'.trace = w.trace ++ events ∧ ∀ event ∈ events, ∃ c, event.call = .collector c
  rows : w'.checkpoints = w.checkpoints ∨ w'.checkpoints = storedRows progress w.checkpoints

theorem Finishing.refl (progress : PollProgress) (w : PollWorld Content Api) :
    Finishing progress w w :=
  ⟨⟨[], by simp, by simp⟩, .inl rfl⟩

theorem Finishing.append {progress : PollProgress} {w'' : PollWorld Content Api}
    (first : Finishing progress w w') (same : w''.checkpoints = w'.checkpoints)
    {events : List (Event (polling Content Api))} (trace : w''.trace = w'.trace ++ events)
    (own : ∀ event ∈ events, ∃ c, event.call = .collector c) : Finishing progress w w'' := by
  obtain ⟨before, trace', own'⟩ := first.events
  constructor
  · refine ⟨before ++ events, by rw [trace, trace', List.append_assoc], ?_⟩
    intro event found
    rcases List.mem_append.1 found with old | new
    · exact own' event old
    · exact own event new
  · rw [same]
    exact first.rows

/-- A call of the collector that stores nothing, made while a cycle finishes. -/
theorem finishing_quiet {progress : PollProgress} {α : Type} {p : CollectorProgram Content Api.Error α}
    (quiet : p.Within (fun c => stores ((ofCollector Content Api).call c) = false) fun _ => True)
    (start : Finishing progress w w') :
    (p.embed (ofCollector Content Api)).safe (handler adapter) (Finishing progress w)
      (fun _ w'' => Finishing progress w w'' ∧ w''.checkpoints = w'.checkpoints) w' := by
  induction p generalizing w' with
  | done outcome => exact ⟨start, start, rfl⟩
  | await c next ih =>
      constructor
      · exact start
      · intro reply w'' answered
        obtain ⟨checkpoints, trace⟩ := handler_unstored quiet.1 answered
        have next := start.append checkpoints trace (by simp [ofCollector])
        apply (ih _ (quiet.2 _) next).mono (fun _ holds => holds)
        exact fun _ _ _ holds => ⟨holds.1, holds.2.trans checkpoints⟩

theorem storeLastCheckpoint_safe (progress : PollProgress) (w : PollWorld Content Api) :
    ((storeLastCheckpoint adapter progress).embed (ofCollector Content Api)).safe (handler adapter)
      (Finishing progress w)
      (fun outcome w' => Finishing progress w w' ∧
        ∀ u, outcome = .ok u → w'.checkpoints = storedRows progress w.checkpoints) w := by
  have start := Finishing.refl progress w
  unfold storeLastCheckpoint
  rcases progress with ⟨count, _ | key, _ | value⟩
  · exact ⟨start, start, fun _ _ => rfl⟩
  · exact ⟨start, start, fun _ _ => rfl⟩
  · exact ⟨start, start, fun _ _ => rfl⟩
  · by_cases present : key ≠ "" ∧ value ≠ ""
    · simp only [present, ne_eq, not_false_eq_true, and_self, if_true]
      constructor
      · exact start
      · intro reply w' answered
        obtain ⟨trace, effect⟩ := answered
        have events : w'.trace = w.trace ++ [⟨.collector (.setCheckpoint adapter.name key value), reply⟩] :=
          trace
        have own : ∃ events, w'.trace = w.trace ++ events ∧
            ∀ event ∈ events, ∃ c, event.call = PollCall.collector c := ⟨_, events, by simp⟩
        rcases reply with error | done
        · have finishing : Finishing ⟨count, some key, some value⟩ w w' := ⟨own, .inl effect⟩
          exact ⟨finishing, finishing, fun _ same => by cases same⟩
        · have stored : w'.checkpoints = storedRows ⟨count, some key, some value⟩ w.checkpoints := by
            simpa [storedRows, present, ofCollector] using effect
          have finishing : Finishing ⟨count, some key, some value⟩ w w' := ⟨own, .inr stored⟩
          exact ⟨finishing, finishing, fun _ _ => stored⟩
    · simp only [present, if_false]
      have stored : storedRows ⟨count, some key, some value⟩ w.checkpoints = w.checkpoints := by
        simp only [storedRows, present, if_false]
      exact ⟨start, start, fun _ _ => stored.symm⟩

/-- From the end of the loop to the end of the cycle. -/
theorem finishPoll_safe (progress : PollProgress) (w : PollWorld Content Api) :
    ((finishPoll adapter progress).embed (ofCollector Content Api)).safe (handler adapter)
      (Finishing progress w)
      (fun outcome w' => Finishing progress w w' ∧
        ∀ n, outcome = .ok n → w'.checkpoints = storedRows progress w.checkpoints) w := by
  have rest : (do
      cleanupSeenWhenDue
      await (.publishSourceHeartbeat ⟨adapter.source, progress.batchCount, "healthy"⟩)
      pure progress.batchCount : CollectorProgram Content Api.Error Nat).Within
        (fun c => stores ((ofCollector Content Api).call c) = false) fun _ => True := by
    refine Program.Within.bind (R := fun _ => True) ?_ ?_ fun _ _ => trivial
    · refine Program.Within.bind (R := fun _ => True) ⟨rfl, fun _ => trivial⟩ ?_ fun _ _ => trivial
      intro now _
      refine Program.Within.bind (R := fun _ => True) ⟨rfl, fun _ => trivial⟩ ?_ fun _ _ => trivial
      intro last _
      split
      · exact ⟨rfl, fun _ => trivial⟩
      · trivial
    · intro _ _
      exact Program.Within.bind (R := fun _ => True) ⟨rfl, fun _ => trivial⟩
        (fun _ _ => trivial) fun _ _ => trivial
  have split := Program.embed_settle (ofCollector Content Api) (storeLastCheckpoint adapter progress)
    (Program.onOk fun _ => do
      cleanupSeenWhenDue
      await (.publishSourceHeartbeat ⟨adapter.source, progress.batchCount, "healthy"⟩)
      pure progress.batchCount)
  refine split.symm ▸ Program.safe.settle (storeLastCheckpoint_safe progress w) ?_
  rintro (error | _) w' ⟨finishing, stored⟩ _
  · exact ⟨finishing, finishing, fun _ same => by cases same⟩
  · apply (finishing_quiet rest finishing).mono (fun _ holds => holds)
    exact fun _ w'' _ holds => ⟨holds.1, fun _ _ => holds.2.trans (stored () rfl)⟩

/-- A loop that ended in `w₁` with this progress, whether its body broke or not. -/
def LoopEnded (P : Consumed Api.Error Unit PollProgress → PollWorld Content Api → Prop)
    (progress : PollProgress) (w₁ : PollWorld Content Api) : Prop :=
  P (.broke progress) w₁ ∨ P (.ended (.ok ()) progress) w₁

/-- Nothing is stored before the loop has ended, and then only its progress. -/
def Polled (P : Consumed Api.Error Unit PollProgress → PollWorld Content Api → Prop)
    (w w' : PollWorld Content Api) : Prop :=
  Unstored w w' ∨ ∃ progress w₁, LoopEnded P progress w₁ ∧ Unstored w w₁ ∧ Finishing progress w₁ w'

/-- From what the loop guarantees to what the cycle guarantees. -/
theorem pollAdapter_safe {fetch : RecordGenerator Content Api Unit}
    {P : Consumed Api.Error Unit PollProgress → PollWorld Content Api → Prop}
    (loop : (fetch.consume processRecord ⟨0, none, none⟩).safe (handler adapter) (Unstored w)
      (fun outcome w' => ∀ consumed, outcome = .ok consumed → P consumed w') w) :
    (pollAdapter adapter fetch).safe (handler adapter) (Polled P w)
      (fun outcome w' => ∀ n, outcome = .ok n → ∃ progress w₁, LoopEnded P progress w₁ ∧
        Unstored w w₁ ∧ Finishing progress w₁ w' ∧
        w'.checkpoints = storedRows progress w₁.checkpoints) w := by
  have drained := loop.mono (K := Polled P w) (fun _ unstored => .inl unstored)
    (fun _ w₁ unstored post => (⟨unstored, post⟩ : Unstored w w₁ ∧ _))
  have forAwait : (fetch.forAwait processRecord ⟨0, none, none⟩).safe (handler adapter) (Polled P w)
      (fun outcome w₁ => Unstored w w₁ ∧ ∀ progress, outcome = .ok progress →
        LoopEnded P progress w₁) w := by
    apply Program.safe_bind drained
    · rintro consumed w₁ ⟨unstored, post⟩ visited
      rcases consumed with progress | ⟨_ | _, progress⟩
      · refine ⟨visited, unstored, ?_⟩
        rintro _ ⟨⟩
        exact .inl (post _ rfl)
      · exact ⟨visited, unstored, fun _ same => by cases same⟩
      · refine ⟨visited, unstored, ?_⟩
        rintro _ ⟨⟩
        exact .inr (post _ rfl)
    · exact fun error w₁ post _ => ⟨post.1, fun _ same => by cases same⟩
  apply Program.safe_bind forAwait
  · rintro progress w₁ ⟨unstored, ended⟩ _
    have loopEnded := ended progress rfl
    apply (finishPoll_safe progress w₁).mono
    · exact fun w' finishing => .inr ⟨progress, w₁, loopEnded, unstored, finishing⟩
    · exact fun outcome w' _ post n same =>
        ⟨progress, w₁, loopEnded, unstored, post.1, post.2 n same⟩
  · exact fun error w₁ _ _ n same => by cases same

end PollWorld

end RisingIntelligence.Collector
