import RisingIntelligence.Async.Expansion

/-!
# Loops

A loop that may go round for ever, cut off after any number of turns.  What holds of `loop` for
every number of turns holds of every finite part of the unbounded loop.

* `Turn` is how a turn ends: the loop goes on with new variables, or is left with a value.
* `Program.safe_loop` is the invariant rule, `Program.safe_loop_variant` the rule for loops that end.
-/

namespace Async

/-- How a turn of a loop ends. -/
inductive Turn (σ α : Type) : Type
  | again (state : σ)
  | leave (value : α)

namespace Program

variable {I : Interface} {ε σ α S : Type}

/-- At most `turns` turns of a loop; `none` where it was cut off. -/
def loop (body : σ → Program I ε (Turn σ α)) : Nat → σ → Program I ε (Option α)
  | 0, _ => pure none
  | turns + 1, state => do
      let turn ← body state
      match turn with
      | .again state => loop body turns state
      | .leave value => pure (some value)

variable {body : σ → Program I ε (Turn σ α)} {H : Handler I S} {J : S → Prop}

/-- The invariant of a loop: `V` relates the variables to the state between two turns. -/
theorem safe_loop {V : σ → S → Prop} {Q : Except ε (Option α) → S → Prop}
    (turn : ∀ state s, V state s → (body state).safe H J (fun outcome s' =>
      match outcome with
      | .ok (.again state') => V state' s'
      | .ok (.leave value) => Q (.ok (some value)) s'
      | .error e => Q (.error e) s') s)
    (cut : ∀ state s, V state s → J s ∧ Q (.ok none) s) (turns : Nat) {state : σ} {s : S}
    (holds : V state s) : (loop body turns state).safe H J Q s := by
  induction turns generalizing state s with
  | zero => exact cut state s holds
  | succ turns ih =>
      refine safe_bind (turn state s holds) (fun ended s' post visited => ?_)
        fun e s' post _ => post
      cases ended with
      | again state' => exact ih post
      | leave value => exact ⟨visited, post⟩

/-- The variant of a loop: where each turn makes a number smaller, more turns than that are enough. -/
theorem safe_loop_variant {V : Nat → σ → S → Prop} {Q : Except ε (Option α) → S → Prop}
    (turn : ∀ left state s, V left state s → (body state).safe H J (fun outcome s' =>
      match outcome with
      | .ok (.again state') => ∃ less < left, V less state' s'
      | .ok (.leave value) => Q (.ok (some value)) s'
      | .error e => Q (.error e) s') s)
    {turns left : Nat} (enough : left < turns) {state : σ} {s : S} (holds : V left state s) :
    (loop body turns state).safe H J Q s := by
  induction turns generalizing left state s with
  | zero => exact absurd enough (Nat.not_lt_zero _)
  | succ turns ih =>
      refine safe_bind (turn left state s holds) (fun ended s' post visited => ?_)
        fun e s' post _ => post
      cases ended with
      | again state' =>
          obtain ⟨less, smaller, holds⟩ := post
          exact ih (Nat.lt_of_lt_of_le smaller (Nat.le_of_lt_succ enough)) holds
      | leave value => exact ⟨visited, post⟩

end Program

end Async
