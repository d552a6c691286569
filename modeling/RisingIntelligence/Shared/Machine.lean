import Mathlib.Init

/-!
# Machines that answer calls

A machine is a function that takes a state and a call to an answer and the next state.  Two machines
whose states stay related, and that answer alike from related states, answer every sequence of calls
alike.

The calls may be restricted: `Guarded` asks of each call what the state before it allows.
-/

namespace RisingIntelligence

variable {σ τ κ ο : Type}

/-- The answers to a sequence of calls. -/
def answers (step : σ → κ → ο × σ) : σ → List κ → List ο
  | _, [] => []
  | state, call :: calls => (step state call).1 :: answers step (step state call).2 calls

/-- The state after a sequence of calls. -/
def stateAfter (step : σ → κ → ο × σ) (state : σ) (calls : List κ) : σ :=
  calls.foldl (fun state call => (step state call).2) state

/-- Each call is allowed in the state that it finds. -/
def Guarded (guard : σ → κ → Prop) (step : σ → κ → ο × σ) : σ → List κ → Prop
  | _, [] => True
  | state, call :: calls => guard state call ∧ Guarded guard step (step state call).2 calls

section Simulation

variable {step : σ → κ → ο × σ} {spec : τ → κ → ο × τ} {guard : σ → κ → Prop}
  {related : σ → τ → Prop} {state : σ} {abstract : τ}

/-- The answers agree as long as the states are related. -/
theorem answers_eq_of_simulation
    (simulates : ∀ state abstract call, related state abstract → guard state call →
      (step state call).1 = (spec abstract call).1 ∧
        related (step state call).2 (spec abstract call).2)
    {calls : List κ} (initial : related state abstract) (guarded : Guarded guard step state calls) :
    answers step state calls = answers spec abstract calls := by
  induction calls generalizing state abstract with
  | nil => rfl
  | cons call calls ih =>
      obtain ⟨allowed, rest⟩ := guarded
      obtain ⟨same, kept⟩ := simulates state abstract call initial allowed
      have later := ih kept rest
      unfold answers
      rw [same, later]

end Simulation

end RisingIntelligence
