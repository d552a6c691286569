import Mathlib.Algebra.BigOperators.Group.List.Basic
import Mathlib.Algebra.GroupWithZero.Nat
import Mathlib.Data.List.Basic

/-!
# Shrinking passes

A pass over a list that leaves it as it is or makes it lighter.  What several such passes leave as
it is, each of them leaves as it is.
-/

namespace RisingIntelligence

variable {α : Type} {weight : α → ℕ} {first second : List α → List α} {values : List α}

def totalWeightOf (weight : α → ℕ) (values : List α) : ℕ := (values.map weight).sum

@[simp]
theorem totalWeightOf_nil : totalWeightOf weight [] = 0 := rfl

@[simp]
theorem totalWeightOf_cons (value : α) (values : List α) :
    totalWeightOf weight (value :: values) = weight value + totalWeightOf weight values :=
  List.sum_cons

@[simp]
theorem totalWeightOf_append (values others : List α) :
    totalWeightOf weight (values ++ others) =
      totalWeightOf weight values + totalWeightOf weight others := by
  unfold totalWeightOf
  rw [List.map_append, List.sum_append]

@[simp]
theorem totalWeightOf_reverse (values : List α) :
    totalWeightOf weight values.reverse = totalWeightOf weight values := by
  unfold totalWeightOf
  rw [List.map_reverse, List.sum_reverse]

theorem length_le_totalWeightOf (positive : ∀ value, 0 < weight value) (values : List α) :
    values.length ≤ totalWeightOf weight values := by
  induction values with
  | nil => exact Nat.le_refl 0
  | cons value values ih =>
      have here := positive value
      rw [List.length_cons, totalWeightOf_cons]
      omega

/-- A part that is not the whole is lighter. -/
theorem eq_or_totalWeightOf_lt (positive : ∀ value, 0 < weight value) {part : List α}
    (sublist : part.Sublist values) :
    part = values ∨ totalWeightOf weight part < totalWeightOf weight values := by
  induction sublist with
  | slnil => exact .inl rfl
  | cons value _ ih =>
      have here := positive value
      right
      rw [totalWeightOf_cons]
      rcases ih with rfl | lighter
      · omega
      · omega
  | cons_cons value _ ih =>
      rw [totalWeightOf_cons, totalWeightOf_cons]
      exact ih.imp (congrArg (value :: ·)) fun lighter => by omega

def Shrinks (weight : α → ℕ) (pass : List α → List α) : Prop :=
  ∀ values, pass values = values ∨ totalWeightOf weight (pass values) < totalWeightOf weight values

theorem Shrinks.of_sublist (positive : ∀ value, 0 < weight value)
    (sublist : ∀ values, (first values).Sublist values) : Shrinks weight first :=
  fun values => eq_or_totalWeightOf_lt positive (sublist values)

theorem Shrinks.weight_le (shrinks : Shrinks weight first) (values : List α) :
    totalWeightOf weight (first values) ≤ totalWeightOf weight values := by
  rcases shrinks values with same | lighter
  · exact Nat.le_of_eq (congrArg (totalWeightOf weight) same)
  · omega

theorem Shrinks.eq_self_iff (shrinks : Shrinks weight first) :
    first values = values ↔ totalWeightOf weight values ≤ totalWeightOf weight (first values) := by
  constructor
  · intro same
    exact Nat.le_of_eq (congrArg (totalWeightOf weight) same.symm)
  · intro whole
    rcases shrinks values with same | lighter
    · exact same
    · omega

theorem Shrinks.comp_eq_self_iff (shrinks : Shrinks weight first) (shrinks' : Shrinks weight second) :
    second (first values) = values ↔ first values = values ∧ second values = values := by
  constructor
  · intro same
    have weighs := shrinks'.weight_le (first values)
    rw [same] at weighs
    have kept := shrinks.eq_self_iff.2 weighs
    rw [kept] at same
    exact ⟨kept, same⟩
  · rintro ⟨kept, same⟩
    rw [kept, same]

theorem Shrinks.comp (shrinks : Shrinks weight first) (shrinks' : Shrinks weight second) :
    Shrinks weight fun values => second (first values) := by
  intro values
  have weighs := shrinks'.weight_le (first values)
  rcases shrinks values with same | lighter
  · dsimp only
    rw [same]
    exact shrinks' values
  · right
    dsimp only
    omega

end RisingIntelligence
