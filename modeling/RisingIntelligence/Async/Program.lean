import Mathlib.Logic.Relation

/-!
# Asynchronous programs

A program of an event-loop language, seen from outside: it runs synchronously to
its next awaited call, hands the call out and continues with the reply, or with
the error the call threw.  `Program I ε α` is that tree.  `Interface` names the
calls; nothing here says what a call does.

* `Program.settle` continues after success and failure alike; sequencing, catching
  and relabelling of errors are instances of it.
* `Handler` gives the calls a meaning over a state, `Program.Runs` is the big-step
  reading of a program under a handler, and `Program.wp` is the weakest
  precondition that computes on the tree (`Program.wp_iff_runs`).
-/

namespace Async

/-- The calls a program may await, the reply of each, and what a call may throw. -/
structure Interface where
  Call : Type
  Reply : Call → Type
  Error : Type

/-- An asynchronous function: finished with a value or an error, or waiting for a call. -/
inductive Program (I : Interface) (ε α : Type) : Type
  | done (outcome : Except ε α) : Program I ε α
  | await (call : I.Call) (next : Except I.Error (I.Reply call) → Program I ε α) : Program I ε α

namespace Program

variable {I : Interface} {ε ε' α β : Type}

/-- Continue with the outcome of `p`, whichever it is. -/
def settle : Program I ε α → (Except ε α → Program I ε' β) → Program I ε' β
  | .done outcome, f => f outcome
  | .await call next, f => .await call fun reply => (next reply).settle f

/-- The value of an outcome goes on to `f`, an error is thrown on. -/
def onOk (f : α → Program I ε β) : Except ε α → Program I ε β
  | .ok a => f a
  | .error e => .done (.error e)

/-- The error of an outcome goes on to `f`, a value is returned. -/
def onError (f : ε → Program I ε' α) : Except ε α → Program I ε' α
  | .ok a => .done (.ok a)
  | .error e => f e

@[simp] theorem onOk_ok (f : α → Program I ε β) (a : α) : onOk f (.ok a) = f a := rfl

@[simp] theorem onOk_error (f : α → Program I ε β) (e : ε) :
    onOk f (.error e) = .done (.error e) := rfl

@[simp] theorem onError_ok (f : ε → Program I ε' α) (a : α) :
    onError f (.ok a) = .done (.ok a) := rfl

@[simp] theorem onError_error (f : ε → Program I ε' α) (e : ε) : onError f (.error e) = f e :=
  rfl

instance : Monad (Program I ε) where
  pure a := .done (.ok a)
  bind p f := p.settle (onOk f)

/-- `throw e` -/
def throw (e : ε) : Program I ε α := .done (.error e)

/-- `await call` -/
def call (c : I.Call) : Program I I.Error (I.Reply c) := .await c .done

/-- `try { p } catch (e) { f e }`; the handler may throw errors of another type. -/
def tryCatch (p : Program I ε α) (f : ε → Program I ε' α) : Program I ε' α := p.settle (onError f)

/-- Relabel what `p` throws. -/
def mapError (g : ε → ε') (p : Program I ε α) : Program I ε' α := p.tryCatch fun e => throw (g e)

@[simp] theorem settle_done (p : Program I ε α) : p.settle .done = p := by
  induction p with
  | done outcome => rfl
  | await c next ih => simp only [settle, ih]

theorem settle_settle {ε'' γ : Type} (p : Program I ε α) (f : Except ε α → Program I ε' β)
    (g : Except ε' β → Program I ε'' γ) :
    (p.settle f).settle g = p.settle fun outcome => (f outcome).settle g := by
  induction p with
  | done outcome => rfl
  | await c next ih => simp only [settle, ih]

theorem bind_bind {γ : Type} (p : Program I ε α) (f : α → Program I ε β)
    (g : β → Program I ε γ) : p >>= f >>= g = p >>= fun a => f a >>= g := by
  have continues : (fun outcome => (onOk f outcome).settle (onOk g)) =
      onOk fun a => (f a).settle (onOk g) := by
    funext outcome
    cases outcome <;> rfl
  exact (settle_settle p _ _).trans (congrArg p.settle continues)

/-- Whatever is replied, the program makes only calls in `P` and finishes in `R`. -/
def Within (P : I.Call → Prop) (R : Except ε α → Prop) : Program I ε α → Prop
  | .done outcome => R outcome
  | .await c next => P c ∧ ∀ reply, (next reply).Within P R

variable {P P' : I.Call → Prop}

theorem Within.settle {R : Except ε α → Prop} {R' : Except ε' β → Prop} {p : Program I ε α}
    {f : Except ε α → Program I ε' β} (first : p.Within P R)
    (rest : ∀ outcome, R outcome → (f outcome).Within P R') : (p.settle f).Within P R' := by
  induction p with
  | done outcome => exact rest outcome first
  | await c next ih => exact ⟨first.1, fun reply => ih reply (first.2 reply)⟩

theorem Within.bind {R : Except ε α → Prop} {R' : Except ε β → Prop} {p : Program I ε α}
    {f : α → Program I ε β} (first : p.Within P R) (value : ∀ a, R (.ok a) → (f a).Within P R')
    (error : ∀ e, R (.error e) → R' (.error e)) : (p >>= f).Within P R' :=
  first.settle fun outcome holds =>
    match outcome, holds with
    | .ok a, holds => value a holds
    | .error e, holds => error e holds

/-- What `Within` says of the calls alone, for a single call and for a sequence. -/
theorem within_call {c : I.Call} (holds : P c) :
    (call c).Within P fun _ => True :=
  ⟨holds, fun _ => trivial⟩

theorem Within.calls_bind {p : Program I ε α} {f : α → Program I ε β}
    (first : p.Within P fun _ => True) (rest : ∀ a, (f a).Within P fun _ => True) :
    (p >>= f).Within P fun _ => True :=
  first.bind (fun a _ => rest a) fun _ _ => trivial

theorem Within.mono {R R' : Except ε α → Prop} {p : Program I ε α} (within : p.Within P R)
    (calls : ∀ c, P c → P' c) (outcomes : ∀ outcome, R outcome → R' outcome) :
    p.Within P' R' := by
  induction p with
  | done outcome => exact outcomes outcome within
  | await c next ih => exact ⟨calls c within.1, fun reply => ih reply (within.2 reply)⟩

end Program

/-- The calls of `I` as calls of `J`, with how a reply of `J` reads as one of `I`. -/
structure Embedding (I J : Interface) where
  call : I.Call → J.Call
  reply : ∀ c, Except J.Error (J.Reply (call c)) → Except I.Error (I.Reply c)

namespace Program

variable {I J : Interface} {ε ε' α β : Type}

/-- A program run with its calls embedded in a larger interface. -/
def embed (f : Embedding I J) : Program I ε α → Program J ε α
  | .done outcome => .done outcome
  | .await c next => .await (f.call c) fun reply => (next (f.reply c reply)).embed f

theorem embed_settle (e : Embedding I J) (p : Program I ε α) (f : Except ε α → Program I ε' β) :
    (p.settle f).embed e = (p.embed e).settle fun outcome => (f outcome).embed e := by
  induction p with
  | done outcome => rfl
  | await c next ih =>
      simp only [settle, embed, ih]

theorem Within.embed {f : Embedding I J} {P : I.Call → Prop} {P' : J.Call → Prop}
    {R : Except ε α → Prop} {p : Program I ε α} (within : p.Within P R)
    (calls : ∀ c, P c → P' (f.call c)) : (p.embed f).Within P' R := by
  induction p with
  | done outcome => exact within
  | await c next ih => exact ⟨calls c within.1, fun reply => ih _ (within.2 _)⟩

/-- Nothing is excluded. -/
theorem within_true (p : Program I ε α) : p.Within (fun _ => True) fun _ => True := by
  induction p with
  | done outcome => trivial
  | await c next ih => exact ⟨trivial, fun reply => ih reply⟩

end Program

/-! ## Meaning over a state -/

/-- How a state answers calls: `H s c reply s'` says that in `s` the call `c` may
answer (or throw) `reply` and leave `s'`. -/
abbrev Handler (I : Interface) (S : Type) : Type :=
  S → (c : I.Call) → Except I.Error (I.Reply c) → S → Prop

namespace Program

variable {I : Interface} {ε ε' α β S : Type} {H : Handler I S}

/-- A complete run of a program. -/
inductive Runs (H : Handler I S) : Program I ε α → S → Except ε α → S → Prop
  | done {outcome : Except ε α} {s : S} : Runs H (.done outcome) s outcome s
  | await {c : I.Call} {next : Except I.Error (I.Reply c) → Program I ε α} {s t u : S}
      {r : Except I.Error (I.Reply c)} {outcome : Except ε α} :
    H s c r t → Runs H (next r) t outcome u → Runs H (.await c next) s outcome u

theorem Runs.mono {H' : Handler I S} {p : Program I ε α} {s u : S} {outcome : Except ε α}
    (run : p.Runs H s outcome u)
    (answers : ∀ s c reply s', H s c reply s' → H' s c reply s') : p.Runs H' s outcome u := by
  induction run with
  | done => exact .done
  | await answered _ ih => exact .await (answers _ _ _ _ answered) ih

/-- A run of a program and its continuation is a run of one and then of the other. -/
theorem runs_settle {p : Program I ε α} {f : Except ε α → Program I ε' β} {s u : S}
    {outcome : Except ε' β} :
    (p.settle f).Runs H s outcome u ↔
      ∃ first t, p.Runs H s first t ∧ (f first).Runs H t outcome u := by
  induction p generalizing s with
  | done first =>
      constructor
      · exact fun rest => ⟨first, s, .done, rest⟩
      · rintro ⟨_, _, run, rest⟩
        cases run
        exact rest
  | await c next ih =>
      constructor
      · intro run
        cases run with
        | await answered rest =>
            obtain ⟨first, t, run, last⟩ := (ih _).1 rest
            exact ⟨first, t, .await answered run, last⟩
      · rintro ⟨first, t, run, last⟩
        cases run with
        | await answered rest => exact .await answered ((ih _).2 ⟨first, t, rest, last⟩)

/-- A run that returns went through both programs. -/
theorem runs_bind_ok {p : Program I ε α} {f : α → Program I ε β} {s u : S} {b : β} :
    (p >>= f).Runs H s (.ok b) u ↔ ∃ a t, p.Runs H s (.ok a) t ∧ (f a).Runs H t (.ok b) u := by
  constructor
  · intro run
    obtain ⟨first, t, first_run, rest⟩ := runs_settle.1 run
    cases first with
    | ok a => exact ⟨a, t, first_run, rest⟩
    | error e => cases rest
  · intro parts
    obtain ⟨a, t, first_run, rest⟩ := parts
    exact runs_settle.2 ⟨.ok a, t, first_run, rest⟩

/-- A handler that answers every call runs every program to its end. -/
theorem exists_runs (total : ∀ s c, ∃ reply s', H s c reply s') (p : Program I ε α) (s : S) :
    ∃ outcome s', p.Runs H s outcome s' := by
  induction p generalizing s with
  | done outcome => exact ⟨outcome, s, .done⟩
  | await c next ih =>
      obtain ⟨reply, s', answered⟩ := total s c
      obtain ⟨outcome, s'', rest⟩ := ih reply s'
      exact ⟨outcome, s'', .await answered rest⟩

theorem Runs.embed_bind {J : Interface} {e : Embedding I J} {H : Handler J S} {p : Program I ε α}
    {f : α → Program I ε β} {a : α} {s t u : S} {outcome : Except ε β}
    (first : (p.embed e).Runs H s (.ok a) t) (rest : ((f a).embed e).Runs H t outcome u) :
    ((p >>= f).embed e).Runs H s outcome u := by
  have sequenced := embed_settle e p (onOk f)
  exact sequenced.symm ▸ runs_settle.2 ⟨.ok a, t, first, rest⟩

/-- The states a run goes through, complete or cut off after any call. -/
inductive Visits (H : Handler I S) : Program I ε α → S → S → Prop
  | here {p : Program I ε α} {s : S} : Visits H p s s
  | await {c : I.Call} {next : Except I.Error (I.Reply c) → Program I ε α} {s t u : S}
      {r : Except I.Error (I.Reply c)} :
    H s c r t → Visits H (next r) t u → Visits H (.await c next) s u

theorem Runs.visits {p : Program I ε α} {s t : S} {outcome : Except ε α}
    (run : p.Runs H s outcome t) : p.Visits H s t := by
  induction run with
  | done => exact .here
  | await answered _ ih => exact .await answered ih

/-- Every state visited from `s` satisfies `J` and every complete run ends in `Q`. -/
def safe (H : Handler I S) : Program I ε α → (S → Prop) → (Except ε α → S → Prop) → S → Prop
  | .done outcome, J, Q, s => J s ∧ Q outcome s
  | .await c next, J, Q, s => J s ∧ ∀ reply s', H s c reply s' → (next reply).safe H J Q s'

theorem safe_iff {p : Program I ε α} {J : S → Prop} {Q : Except ε α → S → Prop} {s : S} :
    p.safe H J Q s ↔
      (∀ t, p.Visits H s t → J t) ∧ ∀ outcome t, p.Runs H s outcome t → Q outcome t := by
  induction p generalizing s with
  | done outcome =>
      constructor
      · intro holds
        constructor
        · intro t visited
          cases visited
          exact holds.1
        · intro outcome' t run
          cases run
          exact holds.2
      · intro all
        exact ⟨all.1 s .here, all.2 outcome s .done⟩
  | await c next ih =>
      constructor
      · intro holds
        constructor
        · intro t visited
          cases visited with
          | here => exact holds.1
          | await answered rest => exact ((ih _).1 (holds.2 _ _ answered)).1 t rest
        · intro outcome t run
          cases run with
          | await answered rest => exact ((ih _).1 (holds.2 _ _ answered)).2 outcome t rest
      · intro all
        constructor
        · exact all.1 s .here
        · intro reply s' answered
          apply (ih reply).2
          exact ⟨fun t visited => all.1 t (.await answered visited),
            fun outcome t run => all.2 outcome t (.await answered run)⟩

@[simp] theorem safe_pure (a : α) (J : S → Prop) (Q : Except ε α → S → Prop) (s : S) :
    (pure a : Program I ε α).safe H J Q s ↔ J s ∧ Q (.ok a) s :=
  Iff.rfl

@[simp] theorem safe_throw (e : ε) (J : S → Prop) (Q : Except ε α → S → Prop) (s : S) :
    (throw e : Program I ε α).safe H J Q s ↔ J s ∧ Q (.error e) s :=
  Iff.rfl

theorem safe_settle (p : Program I ε α) (f : Except ε α → Program I ε' β) (J : S → Prop)
    (Q : Except ε' β → S → Prop) (s : S) :
    (p.settle f).safe H J Q s ↔ p.safe H J (fun outcome s' => (f outcome).safe H J Q s') s := by
  induction p generalizing s with
  | done outcome =>
      constructor
      · intro holds
        exact ⟨(safe_iff.1 holds).1 s .here, holds⟩
      · exact fun holds => holds.2
  | await c next ih =>
      exact and_congr_right' (forall_congr' fun reply => forall_congr' fun s' =>
        imp_congr_right fun _ => ih reply s')

theorem safe.visited {p : Program I ε α} {J : S → Prop} {Q : Except ε α → S → Prop} {s : S}
    (holds : p.safe H J Q s) : J s :=
  (safe_iff.1 holds).1 s .here

/-- Rule of consequence. -/
theorem safe.mono {p : Program I ε α} {J K : S → Prop} {Q Q' : Except ε α → S → Prop} {s : S}
    (holds : p.safe H J Q s) (states : ∀ s', J s' → K s')
    (outcomes : ∀ outcome s', J s' → Q outcome s' → Q' outcome s') : p.safe H K Q' s := by
  obtain ⟨visits, runs⟩ := safe_iff.1 holds
  rw [safe_iff]
  exact ⟨fun t visited => states t (visits t visited), fun outcome t run =>
    outcomes outcome t (visits t run.visits) (runs outcome t run)⟩

/-- Sequencing, with what the first program leaves stated in between. -/
theorem safe.settle {p : Program I ε α} {f : Except ε α → Program I ε' β} {J : S → Prop}
    {P : Except ε α → S → Prop} {Q : Except ε' β → S → Prop} {s : S} (first : p.safe H J P s)
    (rest : ∀ outcome s', P outcome s' → J s' → (f outcome).safe H J Q s') :
    (p.settle f).safe H J Q s := by
  rw [safe_settle]
  exact first.mono (fun _ visited => visited) fun outcome s' visited post =>
    rest outcome s' post visited

theorem safe_bind {p : Program I ε α} {f : α → Program I ε β} {J : S → Prop}
    {P : Except ε α → S → Prop} {Q : Except ε β → S → Prop} {s : S} (first : p.safe H J P s)
    (value : ∀ a s', P (.ok a) s' → J s' → (f a).safe H J Q s')
    (error : ∀ e s', P (.error e) s' → J s' → Q (.error e) s') : (p >>= f).safe H J Q s :=
  first.settle fun outcome s' post visited =>
    match outcome, post with
    | .ok a, post => value a s' post visited
    | .error e, post => ⟨visited, error e s' post visited⟩

/-- A call and its continuation: the error of the call is thrown on. -/
theorem safe_call_bind (c : I.Call) (f : I.Reply c → Program I I.Error α) (J : S → Prop)
    (Q : Except I.Error α → S → Prop) (s : S) :
    (call c >>= f).safe H J Q s ↔
      J s ∧ (∀ value s', H s c (.ok value) s' → (f value).safe H J Q s') ∧
        ∀ e s', H s c (.error e) s' → J s' ∧ Q (.error e) s' := by
  constructor
  · intro holds
    exact ⟨holds.1, fun value s' answered => holds.2 _ s' answered,
      fun e s' answered => holds.2 _ s' answered⟩
  · intro ⟨now, onValue, onError⟩
    constructor
    · exact now
    · intro reply s' answered
      rcases reply with e | value
      · exact onError e s' answered
      · exact onValue value s' answered

/-- The weakest precondition: every complete run from `s` ends in `Q`. -/
def wp (H : Handler I S) : Program I ε α → (Except ε α → S → Prop) → S → Prop
  | .done outcome, Q, s => Q outcome s
  | .await c next, Q, s => ∀ reply s', H s c reply s' → (next reply).wp H Q s'

@[simp] theorem wp_done (outcome : Except ε α) (Q : Except ε α → S → Prop) (s : S) :
    (Program.done outcome : Program I ε α).wp H Q s ↔ Q outcome s :=
  Iff.rfl

/-- The weakest precondition is sound and complete for complete runs. -/
theorem wp_iff_runs {p : Program I ε α} {Q : Except ε α → S → Prop} {s : S} :
    p.wp H Q s ↔ ∀ outcome s', p.Runs H s outcome s' → Q outcome s' := by
  induction p generalizing s with
  | done outcome =>
      refine ⟨fun post outcome' s' run => ?_, fun all => all _ _ .done⟩
      cases run
      exact post
  | await c next ih =>
      constructor
      · intro pre outcome s' run
        cases run with
        | await step rest => exact (ih _).1 (pre _ _ step) _ _ rest
      · intro all reply s' step
        exact (ih reply).2 fun outcome s'' rest => all _ _ (.await step rest)

theorem wp_settle (p : Program I ε α) (f : Except ε α → Program I ε' β)
    (Q : Except ε' β → S → Prop) (s : S) :
    (p.settle f).wp H Q s ↔ p.wp H (fun outcome s' => (f outcome).wp H Q s') s := by
  induction p generalizing s with
  | done outcome => rfl
  | await c next ih =>
      exact forall_congr' fun reply => forall_congr' fun s' => imp_congr_right fun _ => ih reply s'

/-- Rule of consequence. -/
theorem wp.mono {p : Program I ε α} {Q Q' : Except ε α → S → Prop} {s : S}
    (pre : p.wp H Q s) (weaker : ∀ outcome s', Q outcome s' → Q' outcome s') : p.wp H Q' s :=
  wp_iff_runs.2 fun outcome s' run => weaker outcome s' (wp_iff_runs.1 pre outcome s' run)

/-- Calls that all preserve `P` make a program that does. -/
theorem wp_of_within {P : S → Prop} {R : Except ε α → Prop} {calls : I.Call → Prop}
    {p : Program I ε α} {s : S} (within : p.Within calls R) (holds : P s)
    (call : ∀ c, calls c → ∀ s reply s', P s → H s c reply s' → P s') :
    p.wp H (fun outcome s' => R outcome ∧ P s') s := by
  induction p generalizing s with
  | done outcome => exact ⟨within, holds⟩
  | await c next ih =>
      exact fun reply s' step => ih reply (within.2 reply) (call c within.1 s reply s' holds step)

@[simp] theorem wp_pure (a : α) (Q : Except ε α → S → Prop) (s : S) :
    (pure a : Program I ε α).wp H Q s ↔ Q (.ok a) s :=
  Iff.rfl

@[simp] theorem wp_throw (e : ε) (Q : Except ε α → S → Prop) (s : S) :
    (throw e : Program I ε α).wp H Q s ↔ Q (.error e) s :=
  Iff.rfl

@[simp] theorem wp_call (c : I.Call) (Q : Except I.Error (I.Reply c) → S → Prop) (s : S) :
    (call c).wp H Q s ↔ ∀ reply s', H s c reply s' → Q reply s' :=
  Iff.rfl

theorem wp_bind (p : Program I ε α) (f : α → Program I ε β) (Q : Except ε β → S → Prop) (s : S) :
    (p >>= f).wp H Q s ↔ p.wp H (fun outcome s' => (onOk f outcome).wp H Q s') s :=
  wp_settle p _ Q s

theorem wp_tryCatch (p : Program I ε α) (f : ε → Program I ε' α) (Q : Except ε' α → S → Prop)
    (s : S) :
    (p.tryCatch f).wp H Q s ↔ p.wp H (fun outcome s' => (onError f outcome).wp H Q s') s :=
  wp_settle p _ Q s

/-! ## A known end -/

/-- The program returned a value in `R` and left `t`. -/
def returned (R : α → Prop) (t : S) : Except ε α → S → Prop := fun outcome s =>
  (∃ a, outcome = .ok a ∧ R a) ∧ s = t

/-- The program threw and left `t`. -/
def threw (t : S) : Except ε α → S → Prop := fun outcome s => (∃ e, outcome = .error e) ∧ s = t

theorem wp_bind_of_returned {p : Program I ε α} {f : α → Program I ε β} {R : α → Prop}
    {Q : Except ε β → S → Prop} {s t : S} (first : p.wp H (returned R t) s)
    (rest : ∀ a, R a → (f a).wp H Q t) : (p >>= f).wp H Q s := by
  rw [wp_bind]
  refine first.mono fun outcome s' post => ?_
  obtain ⟨⟨a, rfl, holds⟩, rfl⟩ := post
  exact rest a holds

theorem wp_bind_of_threw {p : Program I ε α} {f : α → Program I ε β} {s t : S}
    (first : p.wp H (threw t) s) : (p >>= f).wp H (threw t) s := by
  rw [wp_bind]
  refine first.mono fun outcome s' post => ?_
  obtain ⟨⟨e, rfl⟩, rfl⟩ := post
  exact ⟨⟨e, rfl⟩, rfl⟩

theorem wp_tryCatch_of_returned {p : Program I ε α} {f : ε → Program I ε' α} {R : α → Prop}
    {s t : S} (first : p.wp H (returned R t) s) : (p.tryCatch f).wp H (returned R t) s := by
  rw [wp_tryCatch]
  refine first.mono fun outcome s' post => ?_
  obtain ⟨⟨a, rfl, holds⟩, rfl⟩ := post
  exact ⟨⟨a, rfl, holds⟩, rfl⟩

theorem wp_tryCatch_of_threw {p : Program I ε α} {f : ε → Program I ε' α}
    {Q : Except ε' α → S → Prop} {s t : S} (first : p.wp H (threw t) s)
    (rest : ∀ e, (f e).wp H Q t) : (p.tryCatch f).wp H Q s := by
  rw [wp_tryCatch]
  refine first.mono fun outcome s' post => ?_
  obtain ⟨⟨e, rfl⟩, rfl⟩ := post
  exact rest e

/-! ## Runs without failing calls -/

/-- The answers of a handler that no call fails. -/
def answering (H : Handler I S) : Handler I S := fun s c reply s' =>
  (∃ value, reply = .ok value) ∧ H s c reply s'

/-- As long as every call answers, the program returns a value. -/
def Responsive : Program I ε α → Prop
  | .done outcome => ∃ a, outcome = .ok a
  | .await _ next => ∀ value, (next (.ok value)).Responsive

theorem responsive_pure (a : α) : (pure a : Program I ε α).Responsive := ⟨a, rfl⟩

theorem Responsive.settle {p : Program I ε α} {f : Except ε α → Program I ε' β}
    (first : p.Responsive) (rest : ∀ a, (f (.ok a)).Responsive) : (p.settle f).Responsive := by
  induction p with
  | done outcome =>
      obtain ⟨a, rfl⟩ := first
      exact rest a
  | await c next ih => exact fun value => ih _ (first value)

theorem Responsive.bind {p : Program I ε α} {f : α → Program I ε β} (first : p.Responsive)
    (rest : ∀ a, (f a).Responsive) : (p >>= f).Responsive :=
  first.settle rest

theorem responsive_call (c : I.Call) : (call c).Responsive := fun value => ⟨value, rfl⟩

theorem Responsive.returns {p : Program I ε α} {s t : S} {outcome : Except ε α}
    (responsive : p.Responsive) (run : p.Runs (answering H) s outcome t) :
    ∃ a, outcome = .ok a := by
  induction run with
  | done => exact responsive
  | await answered _ ih =>
      obtain ⟨⟨value, rfl⟩, _⟩ := answered
      exact ih (responsive value)

end Program

/-! ## Errors that are thrown on -/

namespace Program

variable {I : Interface} {α β S : Type} {H : Handler I S}

/-- An error of a call is thrown on at once, and nothing else is thrown. -/
def Transparent : Program I I.Error α → Prop
  | .done outcome => ∃ a, outcome = .ok a
  | .await _ next => (∀ error, next (.error error) = .throw error) ∧
      ∀ value, (next (.ok value)).Transparent

theorem transparent_pure (a : α) : (pure a : Program I I.Error α).Transparent := ⟨a, rfl⟩

theorem transparent_call (c : I.Call) : (call c).Transparent := ⟨fun _ => rfl, fun value => ⟨value, rfl⟩⟩

theorem Transparent.bind {p : Program I I.Error α} {f : α → Program I I.Error β}
    (first : p.Transparent) (rest : ∀ a, (f a).Transparent) : (p >>= f).Transparent := by
  induction p with
  | done outcome =>
      obtain ⟨a, rfl⟩ := first
      exact rest a
  | await c next ih =>
      refine ⟨fun error => ?_, fun value => ih _ (first.2 value)⟩
      change (next (.error error) >>= f) = .throw error
      rw [first.1 error]
      rfl

/-- What such a program throws, some call threw. -/
theorem Transparent.thrown {throws : I.Error → Prop} {p : Program I I.Error α} {s t : S}
    {outcome : Except I.Error α} (transparent : p.Transparent) (run : p.Runs H s outcome t)
    (answers : ∀ s c e s', H s c (.error e) s' → throws e) : ∀ e, outcome = .error e → throws e := by
  induction run with
  | done =>
      rintro e rfl
      obtain ⟨a, same⟩ := transparent
      cases same
  | @await c next s t u reply outcome answered rest ih =>
      rcases reply with error | value
      · rw [transparent.1 error] at rest
        cases rest
        rintro e ⟨⟩
        exact answers _ _ _ _ answered
      · exact ih (transparent.2 value)

end Program

/-! ## Traces -/

/-- A call together with its reply. -/
structure Event (I : Interface) where
  call : I.Call
  reply : Except I.Error (I.Reply call)

/-- The calls of a complete run, in order, with their replies. -/
inductive Program.Recorded {I : Interface} {ε α : Type} :
    Program I ε α → Except ε α → List (Event I) → Prop
  | done {outcome : Except ε α} : Recorded (.done outcome) outcome []
  | await {c : I.Call} {next : Except I.Error (I.Reply c) → Program I ε α}
      {outcome : Except ε α} {events : List (Event I)} (r : Except I.Error (I.Reply c)) :
    Recorded (next r) outcome events → Recorded (.await c next) outcome (⟨c, r⟩ :: events)

theorem Program.Recorded.within {I : Interface} {ε α : Type} {P : I.Call → Prop}
    {R : Except ε α → Prop} {p : Program I ε α} {outcome : Except ε α} {events : List (Event I)}
    (recorded : p.Recorded outcome events) (within : p.Within P R) :
    R outcome ∧ ∀ event ∈ events, P event.call := by
  induction recorded with
  | done => exact ⟨within, by simp⟩
  | await r _ ih =>
      obtain ⟨holds, calls⟩ := ih (within.2 r)
      exact ⟨holds, List.forall_mem_cons.2 ⟨within.1, calls⟩⟩

/-- A program that ran to its end on the same replies ended in the same way. -/
theorem Program.Recorded.unique {I : Interface} {ε α : Type} {p : Program I ε α}
    {first second : Except ε α} {events events' rest rest' : List (Event I)}
    (one : p.Recorded first events) (two : p.Recorded second events')
    (same : events ++ rest = events' ++ rest') : first = second := by
  induction one generalizing events' with
  | done =>
      cases two
      rfl
  | await r _ ih =>
      cases two with
      | await r' two =>
          obtain ⟨head, tail⟩ := List.cons.inj same
          cases head
          exact ih two tail

/-- The trace of a program and its continuation is that of one and then that of the other. -/
theorem Program.recorded_settle {I : Interface} {ε ε' α β : Type} {p : Program I ε α}
    {f : Except ε α → Program I ε' β} {outcome : Except ε' β} {events : List (Event I)} :
    (p.settle f).Recorded outcome events ↔
      ∃ first before after, p.Recorded first before ∧ (f first).Recorded outcome after ∧
        events = before ++ after := by
  induction p generalizing events with
  | done first =>
      constructor
      · exact fun rest => ⟨first, [], events, .done, rest, rfl⟩
      · intro ⟨_, _, _, recorded, rest, traced⟩
        cases recorded
        exact traced ▸ rest
  | await c next ih =>
      constructor
      · intro recorded
        cases recorded with
        | await r rest =>
            obtain ⟨first, before, after, start, last, rfl⟩ := (ih r).1 rest
            exact ⟨first, _, after, .await r start, last, rfl⟩
      · intro ⟨first, _, after, recorded, last, traced⟩
        cases recorded with
        | await r start =>
            subst traced
            exact .await r ((ih r).2 ⟨first, _, after, start, last, rfl⟩)

theorem Program.recorded_call {I : Interface} {c : I.Call} {outcome : Except I.Error (I.Reply c)}
    {events : List (Event I)} : (Program.call c).Recorded outcome events ↔ events = [⟨c, outcome⟩] := by
  constructor
  · intro recorded
    cases recorded with
    | await r rest =>
        cases rest
        rfl
  · intro traced
    exact traced ▸ .await outcome .done

theorem Program.recorded_done {I : Interface} {ε α : Type} {first outcome : Except ε α}
    {events : List (Event I)} :
    (Program.done first : Program I ε α).Recorded outcome events ↔ outcome = first ∧ events = [] := by
  constructor
  · intro recorded
    cases recorded
    exact ⟨rfl, rfl⟩
  · intro ⟨same, traced⟩
    subst same traced
    exact .done

/-- A trace that returns went through both programs. -/
theorem Program.recorded_bind_ok {I : Interface} {ε α β : Type} {p : Program I ε α}
    {f : α → Program I ε β} {b : β} {events : List (Event I)} :
    (p >>= f).Recorded (.ok b) events ↔
      ∃ a before after, p.Recorded (.ok a) before ∧ (f a).Recorded (.ok b) after ∧
        events = before ++ after := by
  constructor
  · intro recorded
    obtain ⟨first, before, after, start, rest, traced⟩ := recorded_settle.1 recorded
    cases first with
    | ok a => exact ⟨a, before, after, start, rest, traced⟩
    | error e => cases rest
  · intro ⟨a, before, after, start, rest, traced⟩
    exact recorded_settle.2 ⟨.ok a, before, after, start, rest, traced⟩

/-- The handler that gives any admitted reply and only records what happened. -/
def recording {I : Interface} (admits : (c : I.Call) → Except I.Error (I.Reply c) → Prop) :
    Handler I (List (Event I)) :=
  fun trace c reply trace' => admits c reply ∧ trace' = trace ++ [⟨c, reply⟩]

@[simp] theorem Program.wp_call_recording {I : Interface}
    {admits : (c : I.Call) → Except I.Error (I.Reply c) → Prop} (c : I.Call)
    (Q : Except I.Error (I.Reply c) → List (Event I) → Prop) (trace : List (Event I)) :
    (Program.call c).wp (recording admits) Q trace ↔
      ∀ reply, admits c reply → Q reply (trace ++ [⟨c, reply⟩]) := by
  simp only [Program.wp_call, recording, and_imp]
  exact ⟨fun all reply admitted => all reply _ admitted rfl,
    fun all reply _ admitted same => same ▸ all reply admitted⟩

/-! ## Calls answered by programs -/

section Serve

variable {I J : Interface} {σ ε α : Type}

/-- A program whose calls are answered by programs over another interface, which share a state. -/
def Program.serve (answer : (c : I.Call) → σ → Program J Empty (Except I.Error (I.Reply c) × σ)) :
    Program I ε α → σ → Program J Empty (Except ε α × σ)
  | .done outcome, s => pure (outcome, s)
  | .await c next, s => answer c s >>= fun answered => (next answered.1).serve answer answered.2

variable {answer : (c : I.Call) → σ → Program J Empty (Except I.Error (I.Reply c) × σ)}

/-- What relates the trace of one answer to its call relates the trace of the whole to a trace of
the program. -/
theorem Program.recorded_serve {P : σ → List (Event I) → List (Event J) → σ → Prop}
    (done : ∀ s, P s [] [] s)
    (step : ∀ c s reply s' before, (answer c s).Recorded (.ok (reply, s')) before →
      ∀ own after t, P s' own after t → P s (⟨c, reply⟩ :: own) (before ++ after) t)
    {p : Program I ε α} {s t : σ} {outcome : Except ε α} {events : List (Event J)}
    (recorded : (p.serve answer s).Recorded (.ok (outcome, t)) events) :
    ∃ own, p.Recorded outcome own ∧ P s own events t := by
  induction p generalizing s events with
  | done result =>
      obtain ⟨same, rfl⟩ := recorded_done.1 recorded
      cases same
      exact ⟨[], .done, done _⟩
  | await c next ih =>
      obtain ⟨⟨reply, s'⟩, before, after, answered, rest, rfl⟩ := recorded_bind_ok.1 recorded
      obtain ⟨own, start, holds⟩ := ih reply rest
      exact ⟨⟨c, reply⟩ :: own, .await reply start, step c s reply s' before answered own after t holds⟩

end Serve

end Async
