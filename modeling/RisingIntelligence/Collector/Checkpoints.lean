import RisingIntelligence.Collector.RunAdapter
import Mathlib.Logic.Function.Basic

/-!
# Checkpoints of a poll cycle

What a completed poll cycle leaves in the checkpoint table.  Only one checkpoint is stored, that
of the last ingested record, while an adapter may use a key for each of its feeds.

* `pollCycle_spec` gives the table after a completed cycle;
* `pollCycle_complete_iff` says for which record streams every key got its last value.
-/

namespace RisingIntelligence.Collector

open Async

variable {Content E : Type}

/-- The checkpoint table by source and key, and how many `ingest` calls of the cycle returned. -/
structure CheckpointWorld where
  checkpoints : String → String → Option String
  ingested : Nat

/-- Only `setCheckpoint` writes the adapter's checkpoints; the rows of other adapters may change
at any call. -/
def answers (adapter : Adapter) : Handler (collector Content E) CheckpointWorld :=
  fun s c reply s' =>
    match c with
    | .setCheckpoint source key value =>
        s'.ingested = s.ingested ∧
          ((∃ answer, reply = .ok answer) ∧
              s'.checkpoints source = Function.update (s.checkpoints source) key (some value) ∨
            (∃ error, reply = .error error) ∧ s'.checkpoints adapter.name = s.checkpoints adapter.name)
    | .ingest _ =>
        s'.checkpoints adapter.name = s.checkpoints adapter.name ∧
          ((∃ status, reply = .ok status) ∧ s'.ingested = s.ingested + 1 ∨
            (∃ error, reply = .error error) ∧ s'.ingested = s.ingested)
    | _ => s'.checkpoints adapter.name = s.checkpoints adapter.name ∧ s'.ingested = s.ingested

/-! ## Complete checkpoints -/

/-- The value of the last record that carries the key. -/
def lastValue (records : List (CollectorIngestionRecord Content)) (key : String) :
    Option String :=
  ((records.filter fun record => record.checkpointKey = key).getLast?).map (·.checkpointValue)

/-- Every key that occurs has the value of its last record, every other one is unchanged. -/
def CheckpointsComplete (before after : String → Option String)
    (records : List (CollectorIngestionRecord Content)) : Prop :=
  ∀ key, after key = (lastValue records key).or (before key)

/-- Every key but that of the last record already had the value of its last record. -/
def OtherKeysCurrent (before : String → Option String)
    (records : List (CollectorIngestionRecord Content)) : Prop :=
  ∀ last ∈ records.getLast?, ∀ record ∈ records, record.checkpointKey ≠ last.checkpointKey →
    before record.checkpointKey = lastValue records record.checkpointKey

theorem lastValue_of_absent {records : List (CollectorIngestionRecord Content)} {key : String}
    (absent : ∀ record ∈ records, record.checkpointKey ≠ key) : lastValue records key = none := by
  have none : (records.filter fun record => record.checkpointKey = key) = [] :=
    List.filter_eq_nil_iff.mpr fun record member => by simpa using absent record member
  rw [lastValue, none]
  rfl

theorem lastValue_isSome {records : List (CollectorIngestionRecord Content)}
    {record : CollectorIngestionRecord Content} (member : record ∈ records) :
    (lastValue records record.checkpointKey).isSome := by
  have kept : record ∈ records.filter fun other => other.checkpointKey = record.checkpointKey :=
    List.mem_filter.mpr ⟨member, by simp⟩
  rw [lastValue, Option.isSome_map, List.getLast?_isSome]
  exact List.ne_nil_of_mem kept

theorem lastValue_last (init : List (CollectorIngestionRecord Content))
    (last : CollectorIngestionRecord Content) :
    lastValue (init ++ [last]) last.checkpointKey = some last.checkpointValue := by
  simp [lastValue, List.filter_append]

/-- The stored checkpoint completes the table exactly when the other keys needed no update. -/
theorem complete_update_iff (before : String → Option String)
    (init : List (CollectorIngestionRecord Content)) (last : CollectorIngestionRecord Content) :
    CheckpointsComplete before
        (Function.update before last.checkpointKey (some last.checkpointValue)) (init ++ [last]) ↔
      OtherKeysCurrent before (init ++ [last]) := by
  constructor
  · intro complete final isLast record member different
    obtain rfl : last = final := by simpa using isLast
    obtain ⟨value, found⟩ := Option.isSome_iff_exists.mp (lastValue_isSome member)
    have here := complete record.checkpointKey
    rw [Function.update_of_ne different, found, Option.some_or] at here
    rw [here, found]
  · intro current key
    by_cases same : key = last.checkpointKey
    · rw [same, Function.update_self, lastValue_last, Option.some_or]
    · rw [Function.update_of_ne same]
      by_cases occurs : ∃ record ∈ init ++ [last], record.checkpointKey = key
      · obtain ⟨record, member, rfl⟩ := occurs
        obtain ⟨value, found⟩ := Option.isSome_iff_exists.mp (lastValue_isSome member)
        rw [current last (by simp) record member same, found, Option.some_or]
      · rw [lastValue_of_absent fun record member different => occurs ⟨record, member, different⟩,
          Option.none_or]

/-! ## A completed cycle -/

/-- What the loop has done once exactly the records `done` were ingested. -/
structure Drained (adapter : Adapter) (before : String → Option String)
    (done : List (CollectorIngestionRecord Content)) (progress : PollProgress)
    (s : CheckpointWorld) : Prop where
  checkpoints : s.checkpoints adapter.name = before
  ingested : s.ingested = done.length
  key : progress.lastCheckpointKey = done.getLast?.map (·.checkpointKey)
  value : progress.lastCheckpointValue = done.getLast?.map (·.checkpointValue)

theorem Drained.neutral {adapter : Adapter} {before : String → Option String}
    {done : List (CollectorIngestionRecord Content)} {progress : PollProgress}
    {s s' : CheckpointWorld} (drained : Drained adapter before done progress s)
    (quiet : s'.checkpoints adapter.name = s.checkpoints adapter.name ∧ s'.ingested = s.ingested) :
    Drained adapter before done progress s' :=
  ⟨quiet.1.trans drained.checkpoints, quiet.2.trans drained.ingested, drained.key, drained.value⟩

theorem drain_spec {adapter : Adapter} {before : String → Option String}
    (rest : List (CollectorIngestionRecord Content)) :
    ∀ {done : List (CollectorIngestionRecord Content)} {progress : PollProgress}
      {s : CheckpointWorld}, Drained adapter before done progress s →
      (drain rest progress : CollectorProgram Content E _).wp (answers adapter)
        (fun outcome s' => ∀ progress', outcome = .ok progress' → ∃ now later,
          rest = now ++ later ∧ Drained adapter before (done ++ now) progress' s') s := by
  induction rest with
  | nil =>
      rintro done progress s drained (error | value) s₁ quiet
      · rintro progress' ⟨⟩
      · rintro progress' ⟨⟩
        exact ⟨[], [], rfl, by simpa using drained.neutral quiet⟩
  | cons record rest ih =>
      intro done progress s drained
      rintro (error | value) s₁ quiet
      · rintro progress' ⟨⟩
      have drained₁ := drained.neutral quiet
      rintro (error | stop) s₂ quiet
      · rintro progress' ⟨⟩
      have drained₂ := drained₁.neutral quiet
      cases stop with
      | true =>
          rintro (error | closed) s₃ quiet
          · rintro progress' ⟨⟩
          · rintro progress' ⟨⟩
            exact ⟨[], _, rfl, by simpa using drained₂.neutral quiet⟩
      | false =>
          rintro (error | status) s₃ ⟨kept, ⟨_, counted⟩ | ⟨failed, _⟩⟩
          · rintro progress' ⟨⟩
          · rintro progress' ⟨⟩
          · have drained₃ : Drained adapter before (done ++ [record]) {
                batchCount :=
                  if status = .ingested then progress.batchCount + 1 else progress.batchCount
                lastCheckpointKey := some record.checkpointKey
                lastCheckpointValue := some record.checkpointValue } s₃ :=
              ⟨kept.trans drained₂.checkpoints, by simp [counted, drained₂.ingested],
                by simp, by simp⟩
            refine (ih drained₃).mono fun outcome s₄ all progress' same => ?_
            obtain ⟨now, later, rfl, final⟩ := all progress' same
            exact ⟨record :: now, later, rfl, by simpa using final⟩
          · obtain ⟨error, ⟨⟩⟩ := failed

/-- A record whose checkpoint the `if` of the cycle lets through. -/
def Checkpointable (record : CollectorIngestionRecord Content) : Prop :=
  record.checkpointKey ≠ "" ∧ record.checkpointValue ≠ ""

/-- The table after a cycle that ingested the records `done`. -/
def stored (before : String → Option String) (done : List (CollectorIngestionRecord Content)) :
    String → Option String :=
  match done.getLast? with
  | none => before
  | some last => Function.update before last.checkpointKey (some last.checkpointValue)

theorem storeLastCheckpoint_spec {adapter : Adapter} {before : String → Option String}
    {done : List (CollectorIngestionRecord Content)} {progress : PollProgress}
    {s : CheckpointWorld} (drained : Drained adapter before done progress s)
    (checkpointable : ∀ record ∈ done, Checkpointable record) :
    (storeLastCheckpoint adapter progress : CollectorProgram Content E _).wp (answers adapter)
      (fun outcome s' => ∀ value, outcome = .ok value →
        s'.checkpoints adapter.name = stored before done ∧ s'.ingested = done.length) s := by
  unfold storeLastCheckpoint stored
  rw [drained.key, drained.value]
  cases final : done.getLast? with
  | none => exact fun _ _ => ⟨drained.checkpoints, drained.ingested⟩
  | some last =>
      have nonempty : last.checkpointKey ≠ "" ∧ last.checkpointValue ≠ "" :=
        checkpointable last (List.mem_of_getLast? final)
      simp only [Option.map_some]
      rw [if_pos nonempty]
      rintro (error | answer) s₁ ⟨counted, ⟨⟨_, ⟨⟩⟩, written⟩ | ⟨⟨_, ⟨⟩⟩, _⟩⟩
      · rintro _ ⟨⟩
      · rintro _ ⟨⟩
        exact ⟨by rw [written, drained.checkpoints], counted.trans drained.ingested⟩

/-- A call that neither ingests nor stores a checkpoint. -/
def Quiet : CollectorCall Content → Prop
  | .ingest _ | .setCheckpoint .. => False
  | _ => True

theorem await_within (c : CollectorCall Content) (quiet : Quiet c) :
    (await c : CollectorProgram Content E _).Within Quiet fun _ => True :=
  ⟨quiet, fun _ => trivial⟩

theorem cleanupAndReport_within (heartbeat : CollectorHeartbeat) (count : Nat) :
    (do
      cleanupSeenWhenDue
      await (.publishSourceHeartbeat heartbeat)
      pure count : CollectorProgram Content E Nat).Within Quiet fun _ => True := by
  refine Program.Within.bind (R := fun _ => True) ?_ (fun _ _ => ?_) fun _ _ => trivial
  · refine (await_within .now trivial).bind (fun _ _ => ?_) fun _ _ => trivial
    refine (await_within .lastSeenCleanupAt trivial).bind (fun _ _ => ?_) fun _ _ => trivial
    split
    · exact await_within _ trivial
    · trivial
  · exact (await_within (.publishSourceHeartbeat heartbeat) trivial).bind (fun _ _ => trivial)
      fun _ _ => trivial

theorem answers_quiet {adapter : Adapter} {c : CollectorCall Content} (quiet : Quiet c)
    {s s' : CheckpointWorld} {reply : Except E c.Reply}
    (step : answers (E := E) adapter s c reply s') :
    s'.checkpoints adapter.name = s.checkpoints adapter.name ∧ s'.ingested = s.ingested := by
  cases c <;> first | exact step | exact quiet.elim

/-- After a completed cycle the table is `stored` for the records whose ingestion returned. -/
theorem pollCycle_spec {adapter : Adapter} {records : List (CollectorIngestionRecord Content)}
    (checkpointable : ∀ record ∈ records, Checkpointable record) {s s' : CheckpointWorld}
    {count : Nat} (fresh : s.ingested = 0)
    (run : (pollCycle adapter records : CollectorProgram Content E _).Runs (answers adapter)
      s (.ok count) s') :
    s'.checkpoints adapter.name =
      stored (s.checkpoints adapter.name) (records.take s'.ingested) := by
  have start : Drained adapter (s.checkpoints adapter.name)
      ([] : List (CollectorIngestionRecord Content)) ⟨0, none, none⟩ s :=
    ⟨rfl, fresh, rfl, rfl⟩
  have spec : (pollCycle adapter records : CollectorProgram Content E _).wp (answers adapter)
      (fun outcome s' => ∀ count, outcome = .ok count → ∃ done later, records = done ++ later ∧
        s'.checkpoints adapter.name = stored (s.checkpoints adapter.name) done ∧
          s'.ingested = done.length) s := by
    refine (Program.wp_bind _ _ _ _).2 ((drain_spec records start).mono ?_)
    rintro (error | progress) s₁ drained
    · rintro _ ⟨⟩
    obtain ⟨done, later, split, drained⟩ := drained progress rfl
    have nonempty : ∀ record ∈ done, Checkpointable record :=
      fun record member => checkpointable record (split ▸ List.mem_append_left later member)
    refine (Program.wp_bind _ _ _ _).2 ((storeLastCheckpoint_spec drained nonempty).mono ?_)
    rintro (error | value) s₂ storing
    · rintro _ ⟨⟩
    refine (Program.wp_of_within (P := fun s' => s'.checkpoints adapter.name =
        stored (s.checkpoints adapter.name) done ∧ s'.ingested = done.length)
      (cleanupAndReport_within _ _) (storing value rfl) ?_).mono ?_
    · rintro c quiet s₃ reply s₄ holds step
      obtain ⟨kept, counted⟩ := answers_quiet quiet step
      exact ⟨kept.trans holds.1, counted.trans holds.2⟩
    · exact fun _ _ holds _ _ => ⟨done, later, split, holds.2⟩
  obtain ⟨done, later, rfl, written, counted⟩ := Program.wp_iff_runs.1 spec _ _ run count rfl
  rw [written, counted, List.take_left]

/-- A completed cycle leaves every checkpoint complete exactly when each key but the last
record's already had its last value. -/
theorem pollCycle_complete_iff {adapter : Adapter}
    {records : List (CollectorIngestionRecord Content)}
    (checkpointable : ∀ record ∈ records, Checkpointable record) {s s' : CheckpointWorld}
    {count : Nat} (fresh : s.ingested = 0)
    (run : (pollCycle adapter records : CollectorProgram Content E _).Runs (answers adapter)
      s (.ok count) s') :
    CheckpointsComplete (s.checkpoints adapter.name) (s'.checkpoints adapter.name)
        (records.take s'.ingested) ↔
      OtherKeysCurrent (s.checkpoints adapter.name) (records.take s'.ingested) := by
  rw [pollCycle_spec checkpointable fresh run]
  generalize records.take s'.ingested = done
  rcases List.eq_nil_or_concat done with rfl | ⟨init, last, rfl⟩
  · simp [CheckpointsComplete, OtherKeysCurrent, stored, lastValue]
  · rw [List.concat_eq_append, stored, List.getLast?_concat]
    exact complete_update_iff _ init last

/-! ## Two feeds in one cycle -/

def rss : Adapter := ⟨"rss", "rss"⟩

def twoFeeds : List (CollectorIngestionRecord Unit) :=
  [⟨(), "last_guid_a", "1"⟩, ⟨(), "last_guid_b", "2"⟩]

def noCheckpoints : CheckpointWorld := ⟨fun _ _ => none, 0⟩

/-- The world after both records were ingested and the cycle completed. -/
def afterTwoFeeds : CheckpointWorld where
  checkpoints := Function.update (fun _ _ => none) "rss"
    (Function.update (fun _ => none) "last_guid_b" (some "2"))
  ingested := 2

theorem pollCycle_runs_twoFeeds :
    (pollCycle rss twoFeeds : CollectorProgram Unit String Nat).Runs (answers rss)
      noCheckpoints (.ok 2) afterTwoFeeds := by
  have ingested : ∀ n, answers (E := String) rss ⟨fun _ _ => none, n⟩ (.ingest ())
      (.ok IngestionStatus.ingested) ⟨fun _ _ => none, n + 1⟩ :=
    fun n => ⟨rfl, .inl ⟨⟨_, rfl⟩, rfl⟩⟩
  refine .await (r := .ok ()) ⟨rfl, rfl⟩ ?_
  refine .await (r := .ok false) ⟨rfl, rfl⟩ ?_
  refine .await (ingested 0) ?_
  refine .await (r := .ok ()) ⟨rfl, rfl⟩ ?_
  refine .await (r := .ok false) ⟨rfl, rfl⟩ ?_
  refine .await (ingested 1) ?_
  refine .await (r := .ok ()) ⟨rfl, rfl⟩ ?_
  refine .await (r := .ok ()) (t := afterTwoFeeds)
    ⟨rfl, .inl ⟨⟨_, rfl⟩, by simp [afterTwoFeeds, rss]⟩⟩ ?_
  refine .await (r := .ok (0 : Nat)) ⟨rfl, rfl⟩ ?_
  refine .await (r := .ok (0 : Nat)) ⟨rfl, rfl⟩ ?_
  refine .await (r := .ok ()) ⟨rfl, rfl⟩ ?_
  exact .done

/-- The first feed keeps no checkpoint. -/
theorem pollCycle_loses_first_feed :
    (pollCycle rss twoFeeds : CollectorProgram Unit String Nat).Runs (answers rss)
        noCheckpoints (.ok 2) afterTwoFeeds ∧
      ¬ CheckpointsComplete (noCheckpoints.checkpoints rss.name)
        (afterTwoFeeds.checkpoints rss.name) (twoFeeds.take afterTwoFeeds.ingested) := by
  refine ⟨pollCycle_runs_twoFeeds, fun complete => ?_⟩
  have first := complete "last_guid_a"
  simp [afterTwoFeeds, rss, twoFeeds, noCheckpoints, lastValue] at first

theorem pollCycle_complete_iff_twoFeeds :
    CheckpointsComplete (noCheckpoints.checkpoints rss.name)
        (afterTwoFeeds.checkpoints rss.name) (twoFeeds.take afterTwoFeeds.ingested) ↔
      OtherKeysCurrent (noCheckpoints.checkpoints rss.name)
        (twoFeeds.take afterTwoFeeds.ingested) :=
  pollCycle_complete_iff (by simp [twoFeeds, Checkpointable]) rfl pollCycle_runs_twoFeeds

end RisingIntelligence.Collector
