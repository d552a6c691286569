import RisingIntelligence.Async.Interleaving

/-!
# Programs inside programs

A program whose calls are themselves programs, and a program that is part of a larger one.

* `Program.expand` replaces every call by a program over another interface.
* `Program.Marked` says that a value is only returned once a certain call was answered;
  `Program.Keeps.marked` turns the answered call into a fact about the state.
* `Program.Keeps.embed` carries a rely-guarantee proof into a larger interface and state;
  `Discipline.also` adds to the rely what every call satisfies anyway.
-/

namespace Async

namespace Program

variable {I J : Interface} {ε ε' α β : Type}

/-! ## Expansion of calls -/

/-- Every call of the program is answered by a program of its own. -/
def expand (answer : (c : I.Call) → Program J I.Error (I.Reply c)) :
    Program I ε α → Program J ε α
  | .done outcome => .done outcome
  | .await c next => (answer c).settle fun reply => (next reply).expand answer

variable {answer : (c : I.Call) → Program J I.Error (I.Reply c)}

theorem expand_settle (p : Program I ε α) (f : Except ε α → Program I ε' β) :
    (p.settle f).expand answer = (p.expand answer).settle fun outcome => (f outcome).expand answer := by
  induction p with
  | done outcome => rfl
  | await c next ih => simp only [settle, expand, settle_settle, ih]

theorem expand_bind (p : Program I ε α) (f : α → Program I ε β) :
    (p >>= f).expand answer = p.expand answer >>= fun a => (f a).expand answer := by
  have continues : (fun outcome => (onOk f outcome).expand answer) =
      onOk fun a => (f a).expand answer := by
    funext outcome
    cases outcome <;> rfl
  exact (expand_settle p _).trans (congrArg (p.expand answer).settle continues)

@[simp] theorem expand_pure (a : α) :
    (pure a : Program I ε α).expand answer = pure a := rfl

@[simp] theorem expand_call (c : I.Call) : (call c).expand answer = answer c := settle_done _

/-! ## States visited on the way -/

theorem Visits.settle {S : Type} {H : Handler I S} {p : Program I ε α}
    {f : Except ε α → Program I ε' β} {s t : S} (visits : p.Visits H s t) :
    (p.settle f).Visits H s t := by
  induction visits with
  | here => exact .here
  | await answered _ ih => exact .await answered ih

theorem Runs.visits_settle {S : Type} {H : Handler I S} {p : Program I ε α}
    {f : Except ε α → Program I ε' β} {s t u : S} {outcome : Except ε α}
    (run : p.Runs H s outcome t) (visits : (f outcome).Visits H t u) :
    (p.settle f).Visits H s u := by
  induction run with
  | done => exact visits
  | await answered _ ih => exact .await answered (ih visits)

/-- Calls that all preserve `P` make a program that is safe as long as `P` is. -/
theorem safe_of_within {S : Type} {H : Handler I S} {P P' : S → Prop} {calls : I.Call → Prop}
    {R : Except ε α → Prop} {p : Program I ε α} {s : S} (within : p.Within calls R) (holds : P s)
    (call : ∀ c, calls c → ∀ s reply s', P s → H s c reply s' → P s') (safe : ∀ s, P s → P' s) :
    p.safe H P' (fun outcome s' => R outcome ∧ P s') s := by
  induction p generalizing s with
  | done outcome => exact ⟨safe s holds, within, holds⟩
  | await c next ih =>
      exact ⟨safe s holds, fun reply s' step =>
        ih reply (within.2 reply) (call c within.1 s reply s' holds step)⟩

/-- How a handler of the whole answers the calls of a part. -/
def along {S : Type} (H : Handler J S) (e : Embedding I J) : Handler I S := fun s c reply s' =>
  ∃ answered, e.reply c answered = reply ∧ H s (e.call c) answered s'

/-- An embedded program is safe when the program is, its calls being answered by the whole. -/
theorem safe.embed {S : Type} {H : Handler J S} {e : Embedding I J} {p : Program I ε α}
    {P : S → Prop} {Q : Except ε α → S → Prop} {s : S} (safe : p.safe (along H e) P Q s) :
    (p.embed e).safe H P Q s := by
  induction p generalizing s with
  | done outcome => exact safe
  | await c next ih =>
      exact ⟨safe.1, fun reply s' step => ih _ (safe.2 _ s' ⟨reply, rfl, step⟩)⟩

/-! ## Values behind a call -/

/-- A value outside `Q` is returned only once a call in `S` was answered. -/
def Marked (S : I.Call → Prop) (Q : α → Prop) : Program I ε α → Prop
  | .done outcome => ∀ a, outcome = .ok a → Q a
  | .await c next => (∀ e, (next (.error e)).Marked S Q) ∧
      ∀ value, ¬ S c → (next (.ok value)).Marked S Q

variable {S : I.Call → Prop} {Q : α → Prop} {Q' : β → Prop}

theorem marked_pure {a : α} (holds : Q a) : (pure a : Program I ε α).Marked S Q := by
  intro a' same
  cases same
  exact holds

theorem marked_throw (e : ε) : (throw e : Program I ε α).Marked S Q := fun _ same => nomatch same

/-- Nothing is asked of the value. -/
theorem marked_true (p : Program I ε α) : p.Marked S fun _ => True := by
  induction p with
  | done outcome => exact fun _ _ => trivial
  | await c next ih => exact ⟨fun e => ih _, fun value _ => ih _⟩

/-- The call itself. -/
theorem marked_call {c : I.Call} (marks : S c) : (call c).Marked S fun _ => False :=
  ⟨fun e => marked_throw e, fun _ other => absurd marks other⟩

theorem Marked.settle {p : Program I ε α} {f : Except ε α → Program I ε' β} (first : p.Marked S Q)
    (value : ∀ a, Q a → (f (.ok a)).Marked S Q') (error : ∀ e, (f (.error e)).Marked S Q') :
    (p.settle f).Marked S Q' := by
  induction p with
  | done outcome =>
      rcases outcome with e | a
      · exact error e
      · exact value a (first a rfl)
  | await c next ih => exact ⟨fun e => ih _ (first.1 e), fun v other => ih _ (first.2 v other)⟩

theorem Marked.bind {p : Program I ε α} {f : α → Program I ε β} (first : p.Marked S Q)
    (rest : ∀ a, Q a → (f a).Marked S Q') : (p >>= f).Marked S Q' :=
  first.settle rest fun e => marked_throw e

theorem Marked.mono {R : α → Prop} {p : Program I ε α} (marked : p.Marked S Q)
    (weaker : ∀ a, Q a → R a) : p.Marked S R := by
  induction p with
  | done outcome => exact fun a same => weaker a (marked a same)
  | await c next ih => exact ⟨fun e => ih _ (marked.1 e), fun v other => ih _ (marked.2 v other)⟩

/-- A value that is never returned without the call may be followed by anything. -/
theorem Marked.bind_any {p : Program I ε α} {f : α → Program I ε β}
    (first : p.Marked S fun _ => False) : (p >>= f).Marked S Q' :=
  first.bind fun _ never => never.elim

/-- What an answered call in `S` establishes for good holds where a value outside `Q` is
returned. -/
theorem Keeps.marked {ι T : Type} {D : Discipline ι I T} {i : ι} {p : Program I ε α}
    {R : Except ε α → T → Prop} {F : T → Prop} {t : T} (keeps : p.Keeps D i R t)
    (marked : p.Marked S Q)
    (stable : ∀ t t', F t → D.rely i t t' → F t') (own : ∀ t t', F t → D.guarantee i t t' → F t')
    (establish : ∀ c t value t', S c → D.handler i t c (.ok value) t' → F t') :
    p.Keeps D i (fun outcome t' => R outcome t' ∧ ∀ a, outcome = .ok a → Q a ∨ F t') t := by
  induction p generalizing t with
  | done outcome =>
      exact fun t' moved inv => ⟨keeps t' moved inv, fun a same => .inl (marked a same)⟩
  | await c next ih =>
      intro t' moved inv
      obtain ⟨waiting, answered⟩ := keeps t' moved inv
      refine ⟨waiting, fun reply t'' step => ?_⟩
      obtain ⟨guaranteed, inv', rest⟩ := answered reply t'' step
      refine ⟨guaranteed, inv', ?_⟩
      rcases reply with e | value
      · exact ih _ rest (marked.1 e)
      · by_cases marks : S c
        · have held : F t'' := establish c t' value t'' marks step
          exact (Keeps.frame rest held stable own).mono fun _ _ _ framed =>
            ⟨framed.1, fun _ _ => .inr framed.2⟩
        · exact ih _ rest (marked.2 value marks)

/-! ## Part of a larger program -/

/-- A discipline over a part of the state and of the calls, as it shows in the whole. -/
structure Part {ι κ S T : Type} (D : Discipline ι I S) (i : ι) (E : Discipline κ J T) (k : κ)
    (e : Embedding I J) (view : T → S) : Prop where
  rely : ∀ t t', E.rely k t t' → D.rely i (view t) (view t')
  inv : ∀ t, E.inv t → D.inv (view t)
  atCall : ∀ c t, E.inv t → D.atCall i c (view t) → E.atCall k (e.call c) t
  answer : ∀ c t reply t', E.handler k t (e.call c) reply t' →
    D.handler i (view t) c (e.reply c reply) (view t')
  guarantee : ∀ c t reply t', E.inv t → E.handler k t (e.call c) reply t' →
    D.guarantee i (view t) (view t') → D.inv (view t') → E.guarantee k t t' ∧ E.inv t'

/-- What a program keeps in its part it keeps in the whole, beside a fact `F` about the whole that
neither its own calls nor the others touch. -/
theorem Keeps.embed {ι κ S T : Type} {D : Discipline ι I S} {i : ι} {E : Discipline κ J T} {k : κ}
    {e : Embedding I J} {view : T → S} (part : Part D i E k e view) {p : Program I ε α}
    {R : Except ε α → S → Prop} {F : T → Prop} {t : T} (keeps : p.Keeps D i R (view t))
    (holds : F t) (others : ∀ t t', F t → E.rely k t t' → F t')
    (own : ∀ c t reply t', F t → E.handler k t (e.call c) reply t' → F t') :
    (p.embed e).Keeps E k (fun outcome t' => R outcome (view t') ∧ F t') t := by
  induction p generalizing t with
  | done outcome =>
      exact fun t' moved inv =>
        ⟨keeps _ (part.rely t t' moved) (part.inv t' inv), others t t' holds moved⟩
  | await c next ih =>
      intro t' moved inv
      have held := others t t' holds moved
      obtain ⟨waiting, answered⟩ := keeps _ (part.rely t t' moved) (part.inv t' inv)
      refine ⟨part.atCall c t' inv waiting, fun reply t'' step => ?_⟩
      obtain ⟨guaranteed, inv', rest⟩ := answered _ _ (part.answer c t' reply t'' step)
      obtain ⟨guaranteed', inv''⟩ := part.guarantee c t' reply t'' inv step guaranteed inv'
      exact ⟨guaranteed', inv'', ih _ rest (own c t' reply t'' held step)⟩

/-! ## More to rely on -/

end Program

/-- The discipline strengthened by a relation that every answered call satisfies. -/
def Discipline.also {ι S : Type} {I : Interface} (D : Discipline ι I S) (P : S → S → Prop)
    (refl : ∀ s, P s s) (trans : ∀ s₁ s₂ s₃, P s₁ s₂ → P s₂ s₃ → P s₁ s₃) :
    Discipline ι I S where
  handler := D.handler
  inv := D.inv
  rely i s s' := D.rely i s s' ∧ P s s'
  guarantee i s s' := D.guarantee i s s' ∧ P s s'
  atCall := D.atCall
  rely_refl i s := ⟨D.rely_refl i s, refl s⟩
  rely_trans first second := ⟨D.rely_trans first.1 second.1, trans _ _ _ first.2 second.2⟩
  compatible other guaranteed := ⟨D.compatible other guaranteed.1, guaranteed.2⟩

theorem Program.Keeps.also {ι S ε α : Type} {I : Interface} {D : Discipline ι I S} {i : ι}
    {P : S → S → Prop} {refl : ∀ s, P s s}
    {trans : ∀ s₁ s₂ s₃, P s₁ s₂ → P s₂ s₃ → P s₁ s₃} {p : Program I ε α}
    {Q : Except ε α → S → Prop} {s : S} (keeps : p.Keeps D i Q s)
    (answered : ∀ c s reply s', D.handler i s c reply s' → P s s') :
    p.Keeps (D.also P refl trans) i Q s := by
  induction p generalizing s with
  | done outcome => exact fun s' moved inv => keeps s' moved.1 inv
  | await c next ih =>
      intro s' moved inv
      obtain ⟨waiting, continues⟩ := keeps s' moved.1 inv
      refine ⟨waiting, fun reply s'' step => ?_⟩
      obtain ⟨guaranteed, inv', rest⟩ := continues reply s'' step
      exact ⟨⟨guaranteed, answered c s' reply s'' step⟩, inv', ih _ rest⟩

end Async
