import Mathlib.Data.List.Dedup
import Mathlib.Data.List.Nodup
import Mathlib.Data.List.Induction

/-!
# The first item of each key

`firstOfEach key items` scans a list and keeps an item unless one with its key was kept before, as a
consumer does that remembers the keys it has seen.
-/

namespace RisingIntelligence

variable {α κ : Type} [DecidableEq κ] {key : α → κ}

def firstOfEach (key : α → κ) (items : List α) : List α :=
  items.foldl (fun kept item => if key item ∈ kept.map key then kept else kept ++ [item]) []

@[simp] theorem firstOfEach_nil : firstOfEach key [] = [] := rfl

theorem firstOfEach_concat (items : List α) (item : α) :
    firstOfEach key (items ++ [item]) =
      if key item ∈ (firstOfEach key items).map key then firstOfEach key items
      else firstOfEach key items ++ [item] := by
  unfold firstOfEach
  rw [List.foldl_append]
  rfl

theorem firstOfEach_sublist (items : List α) : (firstOfEach key items).Sublist items := by
  induction items using List.reverseRecOn with
  | nil => exact List.Sublist.refl []
  | append_singleton items last ih =>
      rw [firstOfEach_concat]
      split
      · exact ih.trans (List.sublist_append_left items [last])
      · exact ih.append (List.Sublist.refl [last])

theorem mem_of_mem_firstOfEach {items : List α} {item : α} (kept : item ∈ firstOfEach key items) :
    item ∈ items :=
  (firstOfEach_sublist items).subset kept

/-- Every key that occurs is kept once. -/
theorem mem_map_firstOfEach {items : List α} {k : κ} :
    k ∈ (firstOfEach key items).map key ↔ k ∈ items.map key := by
  induction items using List.reverseRecOn with
  | nil => rfl
  | append_singleton items last ih =>
      rw [firstOfEach_concat, List.map_append, List.mem_append, ← ih]
      split
      · rename_i seen
        constructor
        · exact Or.inl
        · rintro (before | here)
          · exact before
          · rw [List.map_singleton, List.mem_singleton] at here
            exact here ▸ seen
      · rw [List.map_append, List.mem_append]

theorem firstOfEach_concat_of_mem {items : List α} {item : α} (seen : key item ∈ items.map key) :
    firstOfEach key (items ++ [item]) = firstOfEach key items := by
  rw [firstOfEach_concat, if_pos (mem_map_firstOfEach.2 seen)]

theorem firstOfEach_concat_of_notMem {items : List α} {item : α}
    (fresh : key item ∉ items.map key) :
    firstOfEach key (items ++ [item]) = firstOfEach key items ++ [item] := by
  rw [firstOfEach_concat, if_neg fun seen => fresh (mem_map_firstOfEach.1 seen)]

theorem nodup_map_firstOfEach (items : List α) : ((firstOfEach key items).map key).Nodup := by
  induction items using List.reverseRecOn with
  | nil => exact List.nodup_nil
  | append_singleton items last ih =>
      rw [firstOfEach_concat]
      split
      · exact ih
      · rename_i fresh
        rw [List.map_append, List.map_singleton, ← List.concat_eq_append]
        exact ih.concat fresh

theorem firstOfEach_cons (first : α) (items : List α) :
    firstOfEach key (first :: items) =
      first :: (firstOfEach key items).filter fun item => decide (key item ≠ key first) := by
  induction items using List.reverseRecOn with
  | nil => rfl
  | append_singleton items last ih =>
      rw [← List.cons_append]
      by_cases seen : key last ∈ (first :: items).map key
      · rw [firstOfEach_concat_of_mem seen, ih]
        rcases List.mem_cons.1 seen with same | earlier
        · rw [firstOfEach_concat]
          split
          · rfl
          · simp [same]
        · rw [firstOfEach_concat_of_mem earlier]
      · rw [firstOfEach_concat_of_notMem seen, ih]
        rw [List.map_cons, List.mem_cons, not_or] at seen
        rw [firstOfEach_concat_of_notMem seen.2]
        simp [seen.1]

theorem firstOfEach_of_nodup {items : List α} (nodup : (items.map key).Nodup) :
    firstOfEach key items = items := by
  induction items using List.reverseRecOn with
  | nil => rfl
  | append_singleton items last ih =>
      rw [List.map_append, List.map_singleton, ← List.concat_eq_append, List.nodup_concat] at nodup
      rw [firstOfEach_concat_of_notMem nodup.1, ih nodup.2]

/-- One item for each key. -/
theorem length_firstOfEach (items : List α) :
    (firstOfEach key items).length = (items.map key).dedup.length := by
  have same : ((firstOfEach key items).map key).Perm (items.map key).dedup := by
    refine (List.perm_ext_iff_of_nodup (nodup_map_firstOfEach items) (List.nodup_dedup _)).2 ?_
    intro k
    rw [mem_map_firstOfEach, List.mem_dedup]
  rw [← same.length_eq, List.length_map]

end RisingIntelligence
