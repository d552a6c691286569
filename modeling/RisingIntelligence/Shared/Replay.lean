import RisingIntelligence.Shared.FirstOfEach

/-!
# Replayed logs

A reader of a log that may lose its place: each time it starts again at a place it has already
passed, or at the end of what it has read, and reads on for a while.  `Replays log done reached`
says that `done` is everything it read, with its repetitions, and that it got as far as `reached`.

`Replays.firstOfEach_eq`: what is new to a consumer that remembers keys is the same as if it had
read the log once.
-/

namespace RisingIntelligence

variable {α β κ : Type} [DecidableEq κ] {key : β → κ}

/-! ## First occurrences of appended lists -/

theorem firstOfEach_append_congr {items items' : List β}
    (same : firstOfEach key items = firstOfEach key items') (rest : List β) :
    firstOfEach key (items ++ rest) = firstOfEach key (items' ++ rest) := by
  induction rest using List.reverseRecOn with
  | nil => simpa only [List.append_nil] using same
  | append_singleton rest last ih =>
      rw [← List.append_assoc, ← List.append_assoc, firstOfEach_concat, firstOfEach_concat, ih]

theorem firstOfEach_append_of_seen {items rest : List β}
    (seen : ∀ item ∈ rest, item ∈ items) :
    firstOfEach key (items ++ rest) = firstOfEach key items := by
  induction rest using List.reverseRecOn with
  | nil => rw [List.append_nil]
  | append_singleton rest last ih =>
      have before := ih fun item mem => seen item (List.mem_append_left _ mem)
      have known : last ∈ items := seen last (List.mem_append_right _ (List.mem_singleton_self _))
      rw [← List.append_assoc, firstOfEach_concat_of_mem, before]
      exact List.mem_map_of_mem (List.mem_append_left _ known)

/-! ## Reading a log again -/

/-- Everything read of a log so far and how far the reader got. -/
inductive Replays (log : List α) : List α → Nat → Prop
  | start : Replays log [] 0
  | resume {done : List α} {reached : Nat} {origin count : Nat} :
    Replays log done reached → origin ≤ reached → origin + count ≤ log.length →
    Replays log (done ++ (log.drop origin).take count) (max reached (origin + count))

variable {log done : List α} {reached : Nat}

theorem Replays.reached_le (replays : Replays log done reached) : reached ≤ log.length := by
  induction replays with
  | start => exact Nat.zero_le _
  | resume _ _ fits ih => omega

/-- A passage that ends within what was read repeats some of it. -/
theorem mem_take_of_mem_passage {origin count : Nat} (within : origin + count ≤ reached) {item : α}
    (mem : item ∈ (log.drop origin).take count) : item ∈ log.take reached := by
  rw [List.take_drop] at mem
  exact (List.take_prefix_take_left within).subset (List.mem_of_mem_drop mem)

/-- A passage that goes on: it repeats the end of what was read and adds what follows. -/
theorem passage_beyond {origin count : Nat} (behind : origin ≤ reached)
    (beyond : reached ≤ origin + count) (known : reached ≤ log.length) :
    (log.drop origin).take count = (log.take reached).drop origin ++
      (log.drop reached).take (origin + count - reached) ∧
    log.take (origin + count) = log.take reached ++
      (log.drop reached).take (origin + count - reached) := by
  have longer : log.take (origin + count) = log.take reached ++
      (log.drop reached).take (origin + count - reached) := by
    rw [← List.take_add, Nat.add_sub_cancel' beyond]
  refine ⟨?_, longer⟩
  rw [List.take_drop, longer, List.drop_append_of_le_length]
  rw [List.length_take]
  omega

/-- The consumer sees the same first occurrences as in one reading of the log. -/
theorem Replays.firstOfEach_eq (replays : Replays log done reached) (f : α → Option β) :
    firstOfEach key (done.filterMap f) = firstOfEach key ((log.take reached).filterMap f) := by
  induction replays with
  | start => simp
  | resume replays behind fits ih =>
      rename_i done reached origin count
      rw [List.filterMap_append]
      refine (firstOfEach_append_congr ih _).trans ?_
      rcases Nat.le_total (origin + count) reached with within | beyond
      · rw [Nat.max_eq_left within]
        refine firstOfEach_append_of_seen fun item mem => ?_
        obtain ⟨source, there, same⟩ := List.mem_filterMap.1 mem
        exact List.mem_filterMap.2 ⟨source, mem_take_of_mem_passage within there, same⟩
      · obtain ⟨passage, longer⟩ := passage_beyond behind beyond replays.reached_le
        rw [Nat.max_eq_right beyond, passage, longer, List.filterMap_append, List.filterMap_append,
          ← List.append_assoc]
        refine firstOfEach_append_congr (firstOfEach_append_of_seen fun item mem => ?_) _
        obtain ⟨source, there, same⟩ := List.mem_filterMap.1 mem
        exact List.mem_filterMap.2 ⟨source, List.mem_of_mem_drop there, same⟩

/-- Nothing was read that is not in the log. -/
theorem Replays.subset (replays : Replays log done reached) : done ⊆ log := by
  induction replays with
  | start => exact List.nil_subset _
  | resume _ _ _ ih =>
      exact List.append_subset.2 ⟨ih, List.Subset.trans (List.take_subset _ _) (List.drop_subset _ _)⟩

end RisingIntelligence
