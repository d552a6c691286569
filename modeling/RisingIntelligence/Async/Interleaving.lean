import RisingIntelligence.Async.Program
import Mathlib.Logic.Function.Basic

/-!
# Interleaving and rely-guarantee reasoning

A `Pool` is any number of programs that share one state.  A step of the pool lets one of
them have its pending call answered and run to its next call; between two calls of one
program any number of calls of the others may be answered.

* `Discipline` fixes, for each program, what it relies on between its calls and what it
  guarantees at each of them, together with an invariant of the shared state; a program's
  guarantee is what every other one relies on.
* `Program.Keeps` says that a program keeps its part, and composes as `wp` does.
* `Pool.Steps.keeps`: when every program keeps its part, the invariant holds in every
  reachable state and every program still keeps its part there.
-/

namespace Async

/-- Programs that share a state. -/
structure Pool (ι : Type) (I : Interface) (ε α S : Type) where
  threads : ι → Program I ε α
  state : S

/-- Rely-guarantee conditions for programs indexed by `ι`. -/
structure Discipline (ι : Type) (I : Interface) (S : Type) where
  handler : ι → Handler I S
  inv : S → Prop
  rely : ι → S → S → Prop
  guarantee : ι → S → S → Prop
  /-- What holds whenever a program waits for a call. -/
  atCall : ι → I.Call → S → Prop
  rely_refl : ∀ i s, rely i s s
  rely_trans : ∀ {i s₁ s₂ s₃}, rely i s₁ s₂ → rely i s₂ s₃ → rely i s₁ s₃
  compatible : ∀ {i j s s'}, i ≠ j → guarantee i s s' → rely j s s'

variable {ι S : Type} {I : Interface} {ε ε' α β : Type}

/-! ## One program -/

namespace Program

/-- From `s` on, whatever the others do within the rely, the program keeps the guarantee and
the invariant and ends in `Q`. -/
def Keeps (D : Discipline ι I S) (i : ι) :
    Program I ε α → (Except ε α → S → Prop) → S → Prop
  | .done outcome, Q, s => ∀ s', D.rely i s s' → D.inv s' → Q outcome s'
  | .await c next, Q, s => ∀ s', D.rely i s s' → D.inv s' → D.atCall i c s' ∧
      ∀ reply s'', D.handler i s' c reply s'' →
        D.guarantee i s' s'' ∧ D.inv s'' ∧ (next reply).Keeps D i Q s''

variable {D : Discipline ι I S} {i : ι}

/-- What others may do leaves a program that keeps its part doing so. -/
theorem Keeps.stable {p : Program I ε α} {Q : Except ε α → S → Prop} {s s' : S}
    (keeps : p.Keeps D i Q s) (moved : D.rely i s s') : p.Keeps D i Q s' := by
  cases p with
  | done outcome => exact fun s'' later inv => keeps s'' (D.rely_trans moved later) inv
  | await c next => exact fun s'' later inv => keeps s'' (D.rely_trans moved later) inv

theorem keeps_settle (p : Program I ε α) (f : Except ε α → Program I ε' β)
    (Q : Except ε' β → S → Prop) (s : S) :
    (p.settle f).Keeps D i Q s ↔
      p.Keeps D i (fun outcome s' => (f outcome).Keeps D i Q s') s := by
  induction p generalizing s with
  | done outcome =>
      constructor
      · exact fun keeps s' moved _ => Keeps.stable keeps moved
      · intro keeps
        rw [settle]
        have here : ∀ s', D.rely i s s' → D.inv s' → (f outcome).Keeps D i Q s' := keeps
        cases next : f outcome with
        | done final =>
            rw [next] at here
            exact fun s' moved inv => here s' moved inv s' (D.rely_refl i s') inv
        | await c rest =>
            rw [next] at here
            exact fun s' moved inv => here s' moved inv s' (D.rely_refl i s') inv
  | await c next ih =>
      refine forall_congr' fun s' => imp_congr_right fun _ => imp_congr_right fun _ => ?_
      refine and_congr_right fun _ => forall_congr' fun reply => forall_congr' fun s'' => ?_
      exact imp_congr_right fun _ => and_congr_right fun _ => and_congr_right fun _ => ih reply s''

theorem keeps_bind (p : Program I ε α) (f : α → Program I ε β) (Q : Except ε β → S → Prop)
    (s : S) :
    (p >>= f).Keeps D i Q s ↔
      p.Keeps D i (fun outcome s' => (onOk f outcome).Keeps D i Q s') s :=
  keeps_settle p _ Q s

theorem keeps_tryCatch (p : Program I ε α) (f : ε → Program I ε' α)
    (Q : Except ε' α → S → Prop) (s : S) :
    (p.tryCatch f).Keeps D i Q s ↔
      p.Keeps D i (fun outcome s' => (onError f outcome).Keeps D i Q s') s :=
  keeps_settle p _ Q s

/-- Rule of consequence. -/
theorem Keeps.mono {p : Program I ε α} {Q Q' : Except ε α → S → Prop} {s : S}
    (keeps : p.Keeps D i Q s) (weaker : ∀ outcome s', D.inv s' → Q outcome s' → Q' outcome s') :
    p.Keeps D i Q' s := by
  induction p generalizing s with
  | done outcome => exact fun s' moved inv => weaker outcome s' inv (keeps s' moved inv)
  | await c next ih =>
      intro s' moved inv
      obtain ⟨waiting, answered⟩ := keeps s' moved inv
      refine ⟨waiting, fun reply s'' step => ?_⟩
      obtain ⟨guaranteed, inv', rest⟩ := answered reply s'' step
      exact ⟨guaranteed, inv', ih reply rest⟩

/-- Sequencing: `R` holds between the two, and an error must already satisfy `Q` stably. -/
theorem Keeps.bind {p : Program I ε α} {f : α → Program I ε β} {R : Except ε α → S → Prop}
    {Q : Except ε β → S → Prop} {s : S} (first : p.Keeps D i R s)
    (value : ∀ a s', D.inv s' → R (.ok a) s' → (f a).Keeps D i Q s')
    (error : ∀ e s', D.inv s' → R (.error e) s' → (throw e : Program I ε β).Keeps D i Q s') :
    (p >>= f).Keeps D i Q s := by
  refine (keeps_bind p f Q s).2 (first.mono fun outcome s' inv holds => ?_)
  cases outcome with
  | ok a => exact value a s' inv holds
  | error e => exact error e s' inv holds

/-- Frame rule: what neither the others nor the program's own calls disturb still holds. -/
theorem Keeps.frame {F : S → Prop} {p : Program I ε α} {Q : Except ε α → S → Prop} {s : S}
    (keeps : p.Keeps D i Q s) (holds : F s) (others : ∀ s s', F s → D.rely i s s' → F s')
    (own : ∀ s s', F s → D.guarantee i s s' → F s') :
    p.Keeps D i (fun outcome s' => Q outcome s' ∧ F s') s := by
  induction p generalizing s with
  | done outcome => exact fun s' moved inv => ⟨keeps s' moved inv, others s s' holds moved⟩
  | await c next ih =>
      intro s' moved inv
      obtain ⟨waiting, answered⟩ := keeps s' moved inv
      refine ⟨waiting, fun reply s'' step => ?_⟩
      obtain ⟨guaranteed, inv', rest⟩ := answered reply s'' step
      exact ⟨guaranteed, inv', ih reply rest (own s' s'' (others s s' holds moved) guaranteed)⟩

/-- A program whose calls all preserve `P` keeps its part as long as `P` does. -/
theorem Keeps.of_within {P : S → Prop} {R : Except ε α → Prop} {calls : I.Call → Prop}
    {p : Program I ε α} {s : S} (within : p.Within calls R) (holds : P s)
    (stable : ∀ s s', P s → D.rely i s s' → P s')
    (call : ∀ c, calls c → ∀ s, P s → D.inv s → D.atCall i c s ∧
      ∀ reply s', D.handler i s c reply s' → D.guarantee i s s' ∧ D.inv s' ∧ P s') :
    p.Keeps D i (fun outcome s' => R outcome ∧ P s') s := by
  induction p generalizing s with
  | done outcome => exact fun s' moved _ => ⟨within, stable s s' holds moved⟩
  | await c next ih =>
      intro s' moved inv
      obtain ⟨waiting, answered⟩ := call c within.1 s' (stable s s' holds moved) inv
      refine ⟨waiting, fun reply s'' step => ?_⟩
      obtain ⟨guaranteed, inv', holds'⟩ := answered reply s'' step
      exact ⟨guaranteed, inv', ih reply (within.2 reply) holds'⟩

/-- The program keeps its part and any value it returns satisfies `Q`. -/
def Yields (D : Discipline ι I S) (i : ι) (p : Program I ε α) (Q : α → S → Prop) (s : S) : Prop :=
  p.Keeps D i (fun outcome s' => ∀ a, outcome = .ok a → Q a s') s

theorem yields_throw (e : ε) (Q : α → S → Prop) (s : S) :
    (throw e : Program I ε α).Yields D i Q s :=
  fun _ _ _ _ same => nomatch same

theorem yields_pure {a : α} {Q : α → S → Prop} {s : S}
    (holds : ∀ s', D.rely i s s' → D.inv s' → Q a s') :
    (pure a : Program I ε α).Yields D i Q s := by
  intro s' moved inv a' same
  cases same
  exact holds s' moved inv

theorem Yields.settle {p : Program I ε α} {f : Except ε α → Program I ε' β} {Q : α → S → Prop}
    {Q' : β → S → Prop} {s : S} (first : p.Yields D i Q s)
    (value : ∀ a s', Q a s' → (f (.ok a)).Yields D i Q' s')
    (error : ∀ e s', (f (.error e)).Yields D i Q' s') : (p.settle f).Yields D i Q' s := by
  refine (keeps_settle p f _ s).2 (Keeps.mono first fun outcome s' _ holds => ?_)
  cases outcome with
  | ok a => exact value a s' (holds a rfl)
  | error e => exact error e s'

theorem Yields.bind {p : Program I ε α} {f : α → Program I ε β} {Q : α → S → Prop}
    {Q' : β → S → Prop} {s : S} (first : p.Yields D i Q s)
    (value : ∀ a s', Q a s' → (f a).Yields D i Q' s') : (p >>= f).Yields D i Q' s :=
  first.settle value fun e s' => yields_throw e Q' s'

/-- A handler that takes over yields the same as the program it guards. -/
theorem Yields.tryCatch {p : Program I ε α} {f : ε → Program I ε' α} {Q : α → S → Prop} {s : S}
    (first : p.Yields D i Q s) (stable : ∀ a s s', Q a s → D.rely i s s' → Q a s')
    (error : ∀ e s', (f e).Yields D i Q s') : (p.tryCatch f).Yields D i Q s :=
  first.settle (fun a s' holds => yields_pure fun s'' moved _ => stable a s' s'' holds moved) error

/-- Frame rule for values. -/
theorem Yields.frame {F : S → Prop} {p : Program I ε α} {Q : α → S → Prop} {s : S}
    (first : p.Yields D i Q s) (holds : F s) (others : ∀ s s', F s → D.rely i s s' → F s')
    (own : ∀ s s', F s → D.guarantee i s s' → F s') : p.Yields D i (fun a s' => Q a s' ∧ F s') s :=
  (Keeps.frame first holds others own).mono fun _ _ _ kept a same => ⟨kept.1 a same, kept.2⟩

/-- One call: the assertion at the call, then guarantee, invariant and a stable postcondition. -/
theorem yields_call {c : I.Call} {Q : I.Reply c → S → Prop} {s : S}
    (step : ∀ s₁, D.rely i s s₁ → D.inv s₁ → D.atCall i c s₁ ∧
      ∀ reply s₂, D.handler i s₁ c reply s₂ → D.guarantee i s₁ s₂ ∧ D.inv s₂ ∧
        ∀ value s₃, reply = .ok value → D.rely i s₂ s₃ → Q value s₃) :
    (call c).Yields D i Q s := by
  intro s₁ moved inv
  obtain ⟨waiting, answered⟩ := step s₁ moved inv
  refine ⟨waiting, fun reply s₂ answer => ?_⟩
  obtain ⟨guaranteed, inv', post⟩ := answered reply s₂ answer
  exact ⟨guaranteed, inv', fun s₃ later _ value same => post value s₃ same later⟩

/-- The program keeps its part, throws nothing, and returns a value that satisfies `Q`. -/
def Succeeds (D : Discipline ι I S) (i : ι) (p : Program I ε α) (Q : α → S → Prop) (s : S) :
    Prop :=
  p.Keeps D i (fun outcome s' => ∃ a, outcome = .ok a ∧ Q a s') s

theorem succeeds_pure {a : α} {Q : α → S → Prop} {s : S}
    (holds : ∀ s', D.rely i s s' → D.inv s' → Q a s') :
    (pure a : Program I ε α).Succeeds D i Q s :=
  fun s' moved inv => ⟨a, rfl, holds s' moved inv⟩

theorem Succeeds.settle {p : Program I ε α} {f : Except ε α → Program I ε' β} {Q : α → S → Prop}
    {Q' : β → S → Prop} {s : S} (first : p.Succeeds D i Q s)
    (rest : ∀ a s', Q a s' → (f (.ok a)).Succeeds D i Q' s') : (p.settle f).Succeeds D i Q' s := by
  refine (keeps_settle p f _ s).2 (Keeps.mono first fun outcome s' _ holds => ?_)
  obtain ⟨a, rfl, held⟩ := holds
  exact rest a s' held

theorem Succeeds.mono {p : Program I ε α} {Q Q' : α → S → Prop} {s : S}
    (first : p.Succeeds D i Q s) (weaker : ∀ a s', Q a s' → Q' a s') : p.Succeeds D i Q' s :=
  Keeps.mono first fun _ s' _ ⟨a, same, held⟩ => ⟨a, same, weaker a s' held⟩

end Program

/-! ## The pool -/

namespace Pool

variable {D : Discipline ι I S} {Q : ι → Except ε α → S → Prop} {pool pool' : Pool ι I ε α S}

/-- The invariant holds and every program keeps its part. -/
def Kept (D : Discipline ι I S) (Q : ι → Except ε α → S → Prop) (pool : Pool ι I ε α S) : Prop :=
  D.inv pool.state ∧ ∀ i, (pool.threads i).Keeps D i (Q i) pool.state

theorem Kept.finished (kept : pool.Kept D Q) {i : ι} {outcome : Except ε α}
    (done : pool.threads i = .done outcome) : Q i outcome pool.state := by
  have mine := kept.2 i
  rw [done] at mine
  exact mine _ (D.rely_refl i _) kept.1

theorem Kept.waiting (kept : pool.Kept D Q) {i : ι} {c : I.Call}
    {next : Except I.Error (I.Reply c) → Program I ε α}
    (pending : pool.threads i = .await c next) : D.atCall i c pool.state := by
  have mine := kept.2 i
  rw [pending] at mine
  exact (mine _ (D.rely_refl i _) kept.1).1

variable [DecidableEq ι]

/-- One program's pending call is answered and it runs on to its next call. -/
inductive Step (H : ι → Handler I S) : Pool ι I ε α S → Pool ι I ε α S → Prop
  | answer {threads : ι → Program I ε α} {s s' : S} (i : ι) {c : I.Call}
      {next : Except I.Error (I.Reply c) → Program I ε α} {r : Except I.Error (I.Reply c)} :
    threads i = .await c next → H i s c r s' →
    Step H ⟨threads, s⟩ ⟨Function.update threads i (next r), s'⟩

/-- Any number of steps of a pool. -/
abbrev Steps (H : ι → Handler I S) : Pool ι I ε α S → Pool ι I ε α S → Prop :=
  Relation.ReflTransGen (Step H)

/-- The first part of a program runs from start to end with no call of another one in between. -/
theorem Steps.of_runs_settle {H : ι → Handler I S} {threads : ι → Program I ε α} {i : ι} {s s' : S}
    {p : Program I ε' β} {f : Except ε' β → Program I ε α} {outcome : Except ε' β}
    (run : p.Runs (H i) s outcome s') (program : threads i = p.settle f) :
    Steps H ⟨threads, s⟩ ⟨Function.update threads i (f outcome), s'⟩ := by
  induction run generalizing threads with
  | done =>
      have rest : threads i = f _ := program
      rw [← rest, Function.update_eq_self]
  | await answered _ ih =>
      refine .head (.answer i program answered) ?_
      simpa using ih (Function.update_self ..)

/-- A program that runs from start to end with no call of another one in between. -/
theorem Steps.of_runs {H : ι → Handler I S} {threads : ι → Program I ε α} {i : ι} {s s' : S}
    {outcome : Except ε α} (run : (threads i).Runs (H i) s outcome s') :
    Steps H ⟨threads, s⟩ ⟨Function.update threads i (.done outcome), s'⟩ :=
  of_runs_settle run (Program.settle_done (threads i)).symm

/-- Programs whose calls are all of the given ones, in a state where `J` holds. -/
def Confined (calls : ι → I.Call → Prop) (J : S → Prop) (pool : Pool ι I ε α S) : Prop :=
  (∀ i, (pool.threads i).Within (calls i) fun _ => True) ∧ J pool.state

theorem Step.confined {H : ι → Handler I S} {J : S → Prop} {calls : ι → I.Call → Prop}
    (step : Step H pool pool') (confined : pool.Confined calls J)
    (call : ∀ i c, calls i c → ∀ s reply s', J s → H i s c reply s' → J s') :
    pool'.Confined calls J := by
  cases step with
  | answer i pending answered =>
      rename_i threads s s' c next r
      have mine : Program.Within (calls i) (fun _ => True) (threads i) := confined.1 i
      rw [pending] at mine
      refine ⟨fun j => ?_, call i c mine.1 s r s' confined.2 answered⟩
      by_cases same : j = i
      · subst same
        simpa using mine.2 r
      · simpa only [Function.update_of_ne same] using confined.1 j

/-- Calls that all preserve `J` preserve it in any order. -/
theorem Steps.confined {H : ι → Handler I S} {J : S → Prop} {calls : ι → I.Call → Prop}
    (steps : Steps H pool pool') (confined : pool.Confined calls J)
    (call : ∀ i c, calls i c → ∀ s reply s', J s → H i s c reply s' → J s') :
    pool'.Confined calls J := by
  induction steps with
  | refl => exact confined
  | tail _ step ih => exact step.confined ih call

/-- One step keeps what the programs keep, and is one of their guarantees. -/
theorem Step.kept (step : Step D.handler pool pool') (kept : pool.Kept D Q) :
    pool'.Kept D Q ∧ ∃ i, D.guarantee i pool.state pool'.state := by
  cases step with
  | answer i pending answered =>
      rename_i threads s s' c next r
      have mine := kept.2 i
      simp only [pending] at mine
      obtain ⟨guaranteed, inv, rest⟩ :=
        (mine s (D.rely_refl i s) kept.1).2 r s' answered
      refine ⟨⟨inv, fun j => ?_⟩, i, guaranteed⟩
      by_cases same : j = i
      · subst same
        simpa using rest
      · simp only [Function.update_of_ne same]
        exact (kept.2 j).stable (D.compatible (Ne.symm same) guaranteed)

theorem Steps.kept (steps : Steps D.handler pool pool') (start : pool.Kept D Q) :
    pool'.Kept D Q := by
  induction steps with
  | refl => exact start
  | tail _ step ih => exact (step.kept ih).1

/-- What every guarantee implies holds between any two states of a run. -/
theorem Steps.related {P : S → S → Prop} (steps : Steps D.handler pool pool')
    (start : pool.Kept D Q) (refl : ∀ s, P s s)
    (trans : ∀ {s₁ s₂ s₃}, P s₁ s₂ → P s₂ s₃ → P s₁ s₃)
    (guaranteed : ∀ i s s', D.guarantee i s s' → P s s') : P pool.state pool'.state := by
  induction steps with
  | refl => exact refl _
  | tail steps step ih =>
      obtain ⟨i, moved⟩ := (step.kept (Steps.kept steps start)).2
      exact trans ih (guaranteed i _ _ moved)

end Pool

end Async
