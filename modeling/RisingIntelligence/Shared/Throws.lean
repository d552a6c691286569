import Mathlib.Data.List.Forall2

/-!
# Code that may throw

When a sequence, a change of the error or a loop of functions that may throw returns a value.
-/

namespace RisingIntelligence

variable {ε ε' α β γ : Type}

theorem bind_eq_ok {first : Except ε α} {rest : α → Except ε β} {result : β} :
    first >>= rest = .ok result ↔ ∃ value, first = .ok value ∧ rest value = .ok result := by
  cases first with
  | error error =>
      constructor
      · intro done
        cases done
      · intro holds
        rcases holds with ⟨_, done, -⟩
        cases done
  | ok value =>
      constructor
      · intro done
        exact ⟨value, rfl, done⟩
      · intro holds
        rcases holds with ⟨_, same, done⟩
        cases same
        exact done

theorem map_eq_ok {first : Except ε α} {f : α → β} {result : β} :
    first.map f = .ok result ↔ ∃ value, first = .ok value ∧ f value = result := by
  cases first <;> simp [Except.map]

theorem mapError_eq_ok {first : Except ε α} {f : ε → ε'} {result : α} :
    first.mapError f = .ok result ↔ first = .ok result := by
  cases first <;> simp [Except.mapError]

theorem eq_ok_of_toOption {first : Except ε α} {result : α} (found : first.toOption = some result) :
    first = .ok result := by
  cases first with
  | error error => cases found
  | ok value => exact congrArg Except.ok (Option.some.inj found)

/-- A loop that may throw, item by item. -/
theorem mapM_eq_ok {f : β → Except ε γ} {values : List β} {results : List γ} :
    values.mapM f = .ok results ↔
      List.Forall₂ (fun value result => f value = .ok result) values results := by
  induction values generalizing results with
  | nil =>
      rw [List.forall₂_nil_left_iff]
      constructor
      · intro done
        cases done
        rfl
      · intro none
        rw [none]
        rfl
  | cons value values ih =>
      rw [List.mapM_cons, List.forall₂_cons_left_iff, bind_eq_ok]
      constructor
      · intro done
        obtain ⟨result, first, done⟩ := done
        obtain ⟨later, rest, same⟩ := bind_eq_ok.1 done
        cases same
        exact ⟨result, later, first, ih.1 rest, rfl⟩
      · intro holds
        obtain ⟨result, later, first, rest, rfl⟩ := holds
        exact ⟨result, first, bind_eq_ok.2 ⟨later, ih.2 rest, rfl⟩⟩

/-- A loop of calls that all return. -/
theorem mapM_eq_map {f : β → Except ε γ} {g : β → γ} {values : List β}
    (each : ∀ value ∈ values, f value = .ok (g value)) : values.mapM f = .ok (values.map g) := by
  rw [mapM_eq_ok, List.forall₂_map_right_iff]
  exact List.forall₂_same.2 each

/-- A loop returns iff it does for each item. -/
theorem exists_mapM_iff {f : β → Except ε γ} {values : List β} :
    (∃ results, values.mapM f = .ok results) ↔ ∀ value ∈ values, ∃ result, f value = .ok result := by
  simp only [mapM_eq_ok]
  induction values with
  | nil => exact iff_of_true ⟨[], .nil⟩ nofun
  | cons value values ih =>
      rw [List.forall_mem_cons, ← ih]
      constructor
      · intro done
        obtain ⟨_, all⟩ := done
        cases all with
        | cons first rest => exact ⟨⟨_, first⟩, _, rest⟩
      · intro done
        obtain ⟨⟨result, first⟩, results, rest⟩ := done
        exact ⟨result :: results, .cons first rest⟩

/-- A loop over items that are all accepted. -/
theorem exists_mapM_eq_ok {f : β → Except ε γ} {encode : α → β} {Related : α → γ → Prop}
    {items : List α}
    (each : ∀ item ∈ items, ∃ result, f (encode item) = .ok result ∧ Related item result) :
    ∃ results, (items.map encode).mapM f = .ok results ∧ List.Forall₂ Related items results := by
  induction items with
  | nil => exact ⟨[], rfl, .nil⟩
  | cons item items ih =>
      rcases each item List.mem_cons_self with ⟨result, done, related⟩
      rcases ih fun other mem => each other (List.mem_cons_of_mem item mem) with
        ⟨results, rest, all⟩
      refine ⟨result :: results, ?_, .cons related all⟩
      rw [List.map_cons, List.mapM_cons, done, rest]
      rfl

theorem option_mapM_eq_ok {f : α → Except ε β} {value : Option α} {result : Option β} :
    value.mapM f = .ok result ↔
      value = none ∧ result = none ∨
        ∃ v r, value = some v ∧ result = some r ∧ f v = .ok r := by
  cases value with
  | none =>
      constructor
      · intro done
        cases done
        exact .inl ⟨rfl, rfl⟩
      · intro holds
        rcases holds with ⟨-, rfl⟩ | ⟨_, _, present, -⟩
        · rfl
        · cases present
  | some v =>
      change ((do let r ← f v; return some r) : Except ε (Option β)) = .ok result ↔ _
      rw [bind_eq_ok]
      constructor
      · intro holds
        rcases holds with ⟨r, done, same⟩
        cases same
        exact .inr ⟨v, r, rfl, rfl, done⟩
      · intro holds
        rcases holds with ⟨present, -⟩ | ⟨_, r, present, same, done⟩
        · cases present
        · cases present
          exact ⟨r, done, congrArg Except.ok same.symm⟩

theorem map_eq_of_forall₂ {Related : α → β → Prop} {items : List α} {results : List β} {f : β → γ}
    {g : α → γ} (related : List.Forall₂ Related items results)
    (same : ∀ item result, Related item result → f result = g item) :
    results.map f = items.map g := by
  induction related with
  | nil => rfl
  | cons head _ ih => rw [List.map_cons, List.map_cons, same _ _ head, ih]

theorem forall_mem_iff_of_forall₂ {Related : α → β → Prop} {items : List α} {results : List β}
    {P : α → Prop} {Q : β → Prop} (related : List.Forall₂ Related items results)
    (same : ∀ item result, Related item result → (P item ↔ Q result)) :
    (∀ result ∈ results, Q result) ↔ ∀ item ∈ items, P item := by
  induction related with
  | nil => exact ⟨nofun, nofun⟩
  | cons head _ ih => rw [List.forall_mem_cons, List.forall_mem_cons, ih, same _ _ head]

theorem exists_of_mem_forall₂ {Related : α → β → Prop} {items : List α} {results : List β}
    (related : List.Forall₂ Related items results) {result : β} (mem : result ∈ results) :
    ∃ item ∈ items, Related item result := by
  induction related with
  | nil => cases mem
  | cons head _ ih =>
      rcases List.mem_cons.1 mem with rfl | later
      · exact ⟨_, List.mem_cons_self, head⟩
      · obtain ⟨item, there, found⟩ := ih later
        exact ⟨item, List.mem_cons_of_mem _ there, found⟩

theorem forall₂_iff_of_forall₂ {Related Paired : α → β → Prop} {items : List α} {results : List β}
    {P : α → Prop} (related : List.Forall₂ Related items results)
    (same : ∀ item result, Related item result → (Paired item result ↔ P item)) :
    List.Forall₂ Paired items results ↔ ∀ item ∈ items, P item := by
  induction related with
  | nil => exact iff_of_true .nil nofun
  | cons head _ ih => rw [List.forall₂_cons, List.forall_mem_cons, ih, same _ _ head]

end RisingIntelligence
