import Mathlib.Data.Option.Basic

/-!
# Events of a partial machine

A machine that an event takes to its next state, where the event can happen at all.  An invariant
of such a machine may speak of the events so far (`trace_invariant`).
-/

namespace RisingIntelligence

variable {σ κ : Type} {step : σ → κ → Option σ} {state state' : σ} {events later : List κ}

/-- The state after some events, where all of them can happen. -/
def trace (step : σ → κ → Option σ) : σ → List κ → Option σ
  | state, [] => some state
  | state, event :: events => (step state event).bind fun next => trace step next events

/-- An invariant of the state and the events that led to it. -/
theorem trace_invariant {J : List κ → σ → Prop}
    (keeps : ∀ past state event next, J past state → step state event = some next →
      J (past ++ [event]) next)
    {past : List κ} (holds : J past state) (ran : trace step state events = some state') :
    J (past ++ events) state' := by
  induction events generalizing past state with
  | nil =>
      cases ran
      rwa [List.append_nil]
  | cons event events ih =>
      obtain ⟨next, stepped, rest⟩ := Option.bind_eq_some_iff.1 ran
      rw [List.append_cons]
      exact ih (keeps past state event next holds stepped) rest

end RisingIntelligence
