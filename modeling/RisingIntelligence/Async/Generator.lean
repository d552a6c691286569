import RisingIntelligence.Async.Program

/-!
# Asynchronous generators

An `async function*` seen from outside: between its awaited calls it may yield values.  A
`for await` loop runs its body on each of them.  When the body breaks or throws, the generator
is dropped where it stands: its own `catch` sees neither.

* `Generator.settle` continues after success and failure alike, as for programs.
* `Generator.consume` is the loop; `consume_settle` and `safe_consume_settle` take it through
  a generator piece by piece.
-/

namespace Async

/-- An asynchronous generator of values in `Y` that finishes with a value or an error. -/
inductive Generator (I : Interface) (Y ε α : Type) : Type
  | done (outcome : Except ε α) : Generator I Y ε α
  | await (call : I.Call) (next : Except I.Error (I.Reply call) → Generator I Y ε α) :
    Generator I Y ε α
  | yield (value : Y) (resume : Generator I Y ε α) : Generator I Y ε α

namespace Generator

variable {I : Interface} {Y ε ε' α β σ : Type}

def settle : Generator I Y ε α → (Except ε α → Generator I Y ε' β) → Generator I Y ε' β
  | .done outcome, f => f outcome
  | .await call next, f => .await call fun reply => (next reply).settle f
  | .yield value resume, f => .yield value (resume.settle f)

/-- The value of an outcome goes on to `f`, an error is thrown on. -/
def onOk (f : α → Generator I Y ε β) : Except ε α → Generator I Y ε β
  | .ok a => f a
  | .error e => .done (.error e)

/-- The error of an outcome goes on to `f`, a value is returned. -/
def onError (f : ε → Generator I Y ε' α) : Except ε α → Generator I Y ε' α
  | .ok a => .done (.ok a)
  | .error e => f e

instance : Monad (Generator I Y ε) where
  pure a := .done (.ok a)
  bind g f := g.settle (onOk f)

/-- `throw e` -/
def throw (e : ε) : Generator I Y ε α := .done (.error e)

/-- `yield value` -/
def emit (value : Y) : Generator I Y ε Unit := .yield value (.done (.ok ()))

/-- `try { g } catch (e) { f e }` -/
def tryCatch (g : Generator I Y ε α) (f : ε → Generator I Y ε' α) : Generator I Y ε' α :=
  g.settle (onError f)

theorem settle_settle {ε'' γ : Type} (g : Generator I Y ε α) (f : Except ε α → Generator I Y ε' β)
    (h : Except ε' β → Generator I Y ε'' γ) :
    (g.settle f).settle h = g.settle fun outcome => (f outcome).settle h := by
  induction g with
  | done outcome => rfl
  | await c next ih => simp only [settle, ih]
  | yield value resume ih => simp only [settle, ih]

/-- A generator that yields nothing. -/
def ofProgram : Program I ε α → Generator I Y ε α
  | .done outcome => .done outcome
  | .await call next => .await call fun reply => ofProgram (next reply)

/-- `await call` -/
def call (c : I.Call) : Generator I Y I.Error (I.Reply c) := ofProgram (Program.call c)

/-! ## Loops over a generator -/

end Generator

/-- How the body of a loop ends: it goes on, or it breaks. -/
inductive Signal (σ : Type) : Type
  | next (state : σ)
  | break (state : σ)

/-- How a loop over a generator ends: its body broke, or the generator finished. -/
inductive Consumed (ε α σ : Type) : Type
  | broke (state : σ)
  | ended (outcome : Except ε α) (state : σ)

namespace Generator

variable {I : Interface} {Y ε ε' α β σ : Type}

/-- Run the body on every value the generator yields. -/
def consume (body : σ → Y → Program I ε' (Signal σ)) :
    Generator I Y ε α → σ → Program I ε' (Consumed ε α σ)
  | .done outcome, s => pure (.ended outcome s)
  | .await c next, s => .await c fun reply => (next reply).consume body s
  | .yield value resume, s => do
      match ← body s value with
      | .next s' => resume.consume body s'
      | .break s' => pure (.broke s')

/-- `for await (const value of g) { body }` with the variables of the loop in `σ`. -/
def forAwait (g : Generator I Y ε α) (body : σ → Y → Program I ε (Signal σ)) (s : σ) :
    Program I ε σ := do
  match ← g.consume body s with
  | .broke s' => pure s'
  | .ended (.ok _) s' => pure s'
  | .ended (.error e) _ => Program.throw e

theorem consume_settle {ε'' : Type} {body : σ → Y → Program I ε'' (Signal σ)}
    (g : Generator I Y ε α) (f : Except ε α → Generator I Y ε' β) (s : σ) :
    (g.settle f).consume body s = g.consume body s >>= fun
      | .broke s' => pure (.broke s')
      | .ended outcome s' => (f outcome).consume body s' := by
  induction g generalizing s with
  | done outcome => rfl
  | await c next ih =>
      simp only [settle, consume, ih]
      rfl
  | yield value resume ih =>
      simp only [settle, consume]
      rw [Program.bind_bind]
      congr 1
      funext signal
      cases signal with
      | next s' => exact ih s'
      | «break» s' => rfl

theorem consume_ofProgram {body : σ → Y → Program I ε' (Signal σ)} (p : Program I ε α) (s : σ) :
    (ofProgram p).consume body s = p.settle fun outcome => pure (.ended outcome s) := by
  induction p with
  | done outcome => rfl
  | await c next ih => simp only [ofProgram, consume, Program.settle, ih]

/-! ## Safety of loops -/

variable {S : Type} {H : Handler I S} {J : S → Prop}

/-- A part of the generator, and then the rest of the loop. -/
theorem safe_consume_settle {ε'' : Type} {body : σ → Y → Program I ε'' (Signal σ)}
    {g : Generator I Y ε α} {f : Except ε α → Generator I Y ε' β}
    {P : Except ε'' (Consumed ε α σ) → S → Prop} {Q : Except ε'' (Consumed ε' β σ) → S → Prop}
    {s : σ} {w : S} (first : (g.consume body s).safe H J P w)
    (rest : ∀ outcome s' w', P (.ok (.ended outcome s')) w' → J w' →
      ((f outcome).consume body s').safe H J Q w')
    (broke : ∀ s' w', P (.ok (.broke s')) w' → Q (.ok (.broke s')) w')
    (thrown : ∀ e w', P (.error e) w' → Q (.error e) w') :
    ((g.settle f).consume body s).safe H J Q w := by
  rw [consume_settle]
  apply Program.safe_bind first
  · intro consumed w' post visited
    cases consumed with
    | broke s' => exact ⟨visited, broke s' w' post⟩
    | ended outcome s' => exact rest outcome s' w' post visited
  · exact fun e w' post _ => thrown e w' post

end Generator

end Async
