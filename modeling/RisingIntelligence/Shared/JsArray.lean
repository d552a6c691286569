import Mathlib.Data.List.Nodup

/-!
# Arrays of the runtime

* `distinct` is `[...new Set(values)]`, and what the loops build that keep a `Set` of what they
  have already pushed: each value once, in the order of its first occurrence.
* `sliceTo` is `values.slice(0, end)`, which counts a negative end from the back.
-/

namespace RisingIntelligence.Js

variable {α : Type} [BEq α] [LawfulBEq α]

/-- `[...new Set(values)]` -/
def distinct (values : List α) : List α := values.eraseDups

omit [LawfulBEq α] in
@[simp] theorem distinct_nil : distinct ([] : List α) = [] := rfl

omit [LawfulBEq α] in
theorem distinct_cons (value : α) (rest : List α) :
    distinct (value :: rest) = value :: distinct (rest.filter fun other => !other == value) :=
  List.eraseDups_cons

@[simp] theorem mem_distinct {value : α} {values : List α} :
    value ∈ distinct values ↔ value ∈ values :=
  List.mem_eraseDups

theorem nodup_distinct (values : List α) : (distinct values).Nodup := by
  cases values with
  | nil => exact List.nodup_nil
  | cons value rest =>
      rw [distinct_cons, List.nodup_cons]
      constructor
      · simp
      · exact nodup_distinct (rest.filter fun other => !other == value)
termination_by values.length
decreasing_by
  have shorter := List.length_filter_le (fun other => !other == value) rest
  simp only [List.length_cons]
  omega

theorem distinct_of_nodup {values : List α} (nodup : values.Nodup) : distinct values = values := by
  induction values with
  | nil => rfl
  | cons value rest ih =>
      rw [List.nodup_cons] at nodup
      have kept : rest.filter (fun other => !other == value) = rest := by
        rw [List.filter_eq_self]
        intro other found
        have different : other ≠ value := fun same => nodup.1 (same ▸ found)
        simpa using different
      rw [distinct_cons, kept, ih nodup.2]

@[simp] theorem distinct_distinct (values : List α) : distinct (distinct values) = distinct values :=
  distinct_of_nodup (nodup_distinct values)

omit [LawfulBEq α] in
theorem distinct_sublist (values : List α) : (distinct values).Sublist values := by
  cases values with
  | nil => exact List.Sublist.refl []
  | cons value rest =>
      rw [distinct_cons]
      exact ((distinct_sublist (rest.filter fun other => !other == value)).trans
        List.filter_sublist).cons_cons value
termination_by values.length
decreasing_by
  have shorter := List.length_filter_le (fun other => !other == value) rest
  simp only [List.length_cons]
  omega

omit [LawfulBEq α] in
theorem distinct_eq_nil {values : List α} : distinct values = [] ↔ values = [] := by
  cases values with
  | nil => simp
  | cons value rest => simp [distinct_cons]

/-- `values.slice(0, end)` -/
def sliceTo {β : Type} (values : List β) (stop : Int) : List β :=
  if stop < 0 then values.take (values.length + stop).toNat else values.take stop.toNat

theorem sliceTo_prefix {β : Type} (values : List β) (stop : Int) : sliceTo values stop <+: values := by
  unfold sliceTo
  split
  · exact List.take_prefix _ _
  · exact List.take_prefix _ _

end RisingIntelligence.Js
