import Mathlib.Data.Fintype.Card
import Mathlib.Data.Finset.Card

/-!
# Following a chain

Each item of a finite type has at most one successor.  `follow` goes on from one to the next and
stops at an item it meets again, so that it ends on a chain that runs into a circle.

`mem_follow_iff`: nothing that can be reached is missed.
-/

namespace RisingIntelligence.Chain

variable {α : Type} [DecidableEq α] (next : α → Option α)

/-- The items met from `item` on; the first one that is met again ends the list. -/
def follow [Fintype α] (met : Finset α) (item : α) : List α :=
  if known : item ∈ met then [item]
  else
    match next item with
    | none => [item]
    | some rest => item :: follow (insert item met) rest
termination_by Fintype.card α - met.card
decreasing_by
  have longer := Finset.card_insert_of_notMem known
  have bound := Finset.card_le_univ (insert item met)
  omega

/-- The item `steps` further on. -/
def after : Nat → α → Option α
  | 0, item => some item
  | steps + 1, item => (next item).bind (after steps)

variable {next} [Fintype α] {met : Finset α} {item other : α}

theorem mem_follow_self : item ∈ follow next met item := by
  rw [follow]
  split
  · exact List.mem_singleton_self item
  · cases next item with
    | none => exact List.mem_singleton_self item
    | some rest => exact List.mem_cons_self

theorem follow_of_next {rest : α} (fresh : item ∉ met) (successor : next item = some rest) :
    follow next met item = item :: follow next (insert item met) rest := by
  rw [follow, dif_neg fresh, successor]

/-- What is met can be reached. -/
theorem exists_after_of_mem (mem : other ∈ follow next met item) :
    ∃ steps, after next steps item = some other := by
  induction met, item using follow.induct next with
  | case1 met item known =>
      rw [follow, dif_pos known, List.mem_singleton] at mem
      exact ⟨0, congrArg some mem.symm⟩
  | case2 met item fresh ended =>
      rw [follow, dif_neg fresh, ended, List.mem_singleton] at mem
      exact ⟨0, congrArg some mem.symm⟩
  | case3 met item fresh rest successor ih =>
      rw [follow_of_next fresh successor] at mem
      rcases List.mem_cons.1 mem with rfl | later
      · exact ⟨0, rfl⟩
      · obtain ⟨steps, reached⟩ := ih later
        refine ⟨steps + 1, ?_⟩
        rw [after, successor]
        exact reached

/-- What is reached in some steps is met, or was already on a way that passed an item met before.
The induction is on the steps: a circle back to the item itself leaves fewer of them. -/
theorem mem_follow_or {steps : Nat} (reached : after next steps item = some other) :
    other ∈ follow next met item ∨
      ∃ before ∈ met, ∃ fewer ≤ steps, after next fewer before = some other := by
  induction steps using Nat.strong_induction_on generalizing item met with
  | _ steps ih =>
      by_cases fresh : item ∈ met
      · exact .inr ⟨item, fresh, steps, Nat.le_refl _, reached⟩
      · cases steps with
        | zero =>
            cases reached
            exact .inl mem_follow_self
        | succ steps =>
            obtain ⟨rest, successor, reached⟩ := Option.bind_eq_some_iff.1 reached
            have followed := follow_of_next fresh successor
            rcases @ih steps (Nat.lt_succ_self _) (insert item met) rest reached with
              later | ⟨before, known, fewer, within, again⟩
            · rw [followed]
              exact .inl (List.mem_cons_of_mem _ later)
            · rcases Finset.mem_insert.1 known with rfl | known
              · rcases @ih fewer (by omega) met _ again with here | earlier
                · exact .inl here
                · obtain ⟨before', known', fewer', within', again'⟩ := earlier
                  exact .inr ⟨before', known', fewer', by omega, again'⟩
              · exact .inr ⟨before, known, fewer, by omega, again⟩

/-- Followed from the start, everything that can be reached is met, and nothing else. -/
theorem mem_follow_iff :
    other ∈ follow next ∅ item ↔ ∃ steps, after next steps item = some other := by
  refine ⟨exists_after_of_mem, fun reachable => ?_⟩
  obtain ⟨steps, reached⟩ := reachable
  have found : other ∈ follow next ∅ item ∨ _ := mem_follow_or reached
  rcases found with met | ⟨before, known, _⟩
  · exact met
  · exact absurd known (Finset.notMem_empty before)

end RisingIntelligence.Chain
