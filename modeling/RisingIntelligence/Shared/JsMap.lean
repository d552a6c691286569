import Mathlib.Data.List.Nodup

/-!
# `Map` of the runtime

A `Map` lists its entries in the order in which their keys were first set; setting a key again
replaces the value and keeps the place.
-/

namespace RisingIntelligence.Js.Map

variable {κ α : Type} [DecidableEq κ]

/-- `map.set(key, value)` -/
def set (key : κ) (value : α) : List (κ × α) → List (κ × α)
  | [] => [(key, value)]
  | entry :: rest => if entry.1 = key then (key, value) :: rest else entry :: set key value rest

/-- `map.get(key)` -/
def get (key : κ) (map : List (κ × α)) : Option α := map.lookup key

@[simp] theorem get_nil (key : κ) : get key ([] : List (κ × α)) = none := rfl

theorem get_cons (key : κ) (entry : κ × α) (rest : List (κ × α)) :
    get key (entry :: rest) = if key = entry.1 then some entry.2 else get key rest := by
  unfold get
  rw [List.lookup_cons]
  by_cases same : key = entry.1
  · simp [same]
  · have differ : (key == entry.1) = false := beq_eq_false_iff_ne.2 same
    rw [differ, if_neg same]

theorem get_set (key other : κ) (value : α) (map : List (κ × α)) :
    get other (set key value map) = if other = key then some value else get other map := by
  induction map with
  | nil => rw [set, get_cons]
  | cons entry rest ih =>
      rw [set]
      split
      · rename_i same
        rw [get_cons, get_cons, ← same]
        split <;> rfl
      · rename_i different
        rw [get_cons, get_cons, ih]
        split
        · rename_i here
          rw [if_neg fun same => different (here.symm.trans same)]
        · rfl

theorem keys_set (key : κ) (value : α) (map : List (κ × α)) :
    (set key value map).map (·.1) =
      if key ∈ map.map (·.1) then map.map (·.1) else map.map (·.1) ++ [key] := by
  induction map with
  | nil => rfl
  | cons entry rest ih =>
      rw [set]
      split
      · rename_i same
        simp [same]
      · rename_i different
        have apart : key ≠ entry.1 := fun same => different same.symm
        simp only [List.map_cons, ih, List.mem_cons, apart, false_or]
        split <;> rfl

theorem nodup_keys_set (key : κ) (value : α) {map : List (κ × α)}
    (nodup : (map.map (·.1)).Nodup) : ((set key value map).map (·.1)).Nodup := by
  rw [keys_set]
  split
  · exact nodup
  · rename_i fresh
    rw [← List.concat_eq_append]
    exact nodup.concat fresh

theorem mem_of_get {key : κ} {value : α} {map : List (κ × α)} (found : get key map = some value) :
    (key, value) ∈ map := by
  induction map with
  | nil => cases found
  | cons entry rest ih =>
      rw [get_cons] at found
      split at found
      · rename_i here
        cases found
        subst here
        exact List.mem_cons_self ..
      · exact List.mem_cons_of_mem _ (ih found)

theorem get_of_mem {entry : κ × α} {map : List (κ × α)} (nodup : (map.map (·.1)).Nodup)
    (mem : entry ∈ map) : get entry.1 map = some entry.2 := by
  induction map with
  | nil => cases mem
  | cons first rest ih =>
      obtain ⟨fresh, nodup⟩ := List.nodup_cons.1 nodup
      rw [get_cons]
      rcases List.mem_cons.1 mem with rfl | later
      · rw [if_pos rfl]
      · have other : entry.1 ≠ first.1 := by
          intro same
          have there : entry.1 ∈ rest.map (·.1) := List.mem_map_of_mem later
          rw [same] at there
          exact fresh there
        rw [if_neg other]
        exact ih nodup later

/-- Maps that answer alike have the same entries. -/
theorem perm_of_get_eq {map other : List (κ × α)} (nodup : (map.map (·.1)).Nodup)
    (nodup' : (other.map (·.1)).Nodup) (same : ∀ key, get key map = get key other) :
    map.Perm other := by
  rw [List.perm_ext_iff_of_nodup nodup.of_map nodup'.of_map]
  intro entry
  constructor
  · intro mem
    exact mem_of_get ((same entry.1).symm.trans (get_of_mem nodup mem))
  · intro mem
    exact mem_of_get ((same entry.1).trans (get_of_mem nodup' mem))

/-! ## Deleting -/

/-- `map.delete(key)` -/
def delete (key : κ) (map : List (κ × α)) : List (κ × α) :=
  map.filter fun entry => decide (entry.1 ≠ key)

theorem get_delete (key other : κ) (map : List (κ × α)) :
    get other (delete key map) = if other = key then none else get other map := by
  induction map with
  | nil => rw [delete, List.filter_nil, get_nil, ite_self]
  | cons entry rest ih =>
      unfold delete at ih ⊢
      rw [List.filter_cons]
      by_cases here : entry.1 = key
      · rw [if_neg (by simp [here]), ih, get_cons]
        by_cases same : other = key
        · rw [if_pos same, if_pos same]
        · have apart : other ≠ entry.1 := fun equal => same (equal.trans here)
          rw [if_neg same, if_neg same, if_neg apart]
      · rw [if_pos (decide_eq_true here), get_cons, get_cons, ih]
        by_cases found : other = entry.1
        · have apart : other ≠ key := fun equal => here (found.symm.trans equal)
          rw [if_pos found, if_pos found, if_neg apart]
        · rw [if_neg found, if_neg found]

theorem keys_delete (key : κ) (map : List (κ × α)) :
    (delete key map).map (·.1) = (map.map (·.1)).filter fun other => decide (other ≠ key) := by
  rw [delete, List.filter_map]
  rfl

theorem notMem_keys_delete (key : κ) (map : List (κ × α)) : key ∉ (delete key map).map (·.1) := by
  rw [keys_delete, List.mem_filter]
  intro mem
  exact of_decide_eq_true mem.2 rfl

theorem delete_of_notMem {key : κ} {map : List (κ × α)} (absent : key ∉ map.map (·.1)) :
    delete key map = map := by
  refine List.filter_eq_self.2 fun entry mem => decide_eq_true fun same => absent ?_
  rw [← same]
  exact List.mem_map_of_mem mem

theorem set_of_notMem {key : κ} (value : α) {map : List (κ × α)} (absent : key ∉ map.map (·.1)) :
    set key value map = map ++ [(key, value)] := by
  induction map with
  | nil => rfl
  | cons entry rest ih =>
      rw [List.map_cons, List.mem_cons, not_or] at absent
      rw [set, if_neg fun same => absent.1 same.symm, ih absent.2, List.cons_append]

theorem get_eq_none_iff {key : κ} {map : List (κ × α)} :
    get key map = none ↔ key ∉ map.map (·.1) := by
  induction map with
  | nil => simp
  | cons entry rest ih =>
      rw [get_cons, List.map_cons, List.mem_cons, not_or, ← ih]
      by_cases here : key = entry.1
      · simp [here]
      · simp [here]

/-- `map.size > limit` forgets the entry of `map.keys().next()`. -/
def evictOldest (limit : Nat) (map : List (κ × α)) : List (κ × α) :=
  if map.length ≤ limit then map
  else
    match map.head? with
    | some oldest => delete oldest.1 map
    | none => map

theorem evictOldest_eq {limit : Nat} {map : List (κ × α)} (nodup : (map.map (·.1)).Nodup) :
    evictOldest limit map = if map.length ≤ limit then map else map.tail := by
  unfold evictOldest
  cases map with
  | nil => rfl
  | cons oldest rest =>
      obtain ⟨fresh, -⟩ := List.nodup_cons.1 nodup
      have kept : delete oldest.1 (oldest :: rest) = rest := by
        rw [delete, List.filter_cons, if_neg (by simp)]
        exact delete_of_notMem fresh
      rw [List.head?_cons, List.tail_cons]
      dsimp only
      rw [kept]

/-! ## Grouping -/

section Group

variable {γ : Type} (keyOf : γ → κ) (update : Option α → γ → α)

/-- The loop that sets the entry of each item to what it makes of the entry it finds. -/
def group (items : List γ) (map : List (κ × α)) : List (κ × α) :=
  items.foldl (fun map item => set (keyOf item) (update (get (keyOf item) map) item) map) map

variable {keyOf update}

theorem group_cons (item : γ) (items : List γ) (map : List (κ × α)) :
    group keyOf update (item :: items) map =
      group keyOf update items (set (keyOf item) (update (get (keyOf item) map) item) map) :=
  rfl

theorem group_append (items others : List γ) (map : List (κ × α)) :
    group keyOf update (items ++ others) map =
      group keyOf update others (group keyOf update items map) :=
  List.foldl_append

/-- The entry of a key is made of the items with that key, one after the other. -/
theorem get_group (key : κ) (items : List γ) (map : List (κ × α)) :
    get key (group keyOf update items map) =
      (items.filter fun item => keyOf item = key).foldl (fun found item => some (update found item))
        (get key map) := by
  induction items generalizing map with
  | nil => rfl
  | cons item items ih =>
      rw [group_cons, ih, get_set]
      by_cases here : keyOf item = key
      · simp only [List.filter_cons, here, decide_true, if_true, List.foldl_cons]
      · have apart : key ≠ keyOf item := fun same => here same.symm
        simp only [List.filter_cons, here, apart, decide_false, Bool.false_eq_true, if_false]

theorem nodup_keys_group (items : List γ) {map : List (κ × α)} (nodup : (map.map (·.1)).Nodup) :
    ((group keyOf update items map).map (·.1)).Nodup := by
  induction items generalizing map with
  | nil => exact nodup
  | cons item items ih => exact ih (nodup_keys_set _ _ nodup)

theorem mem_keys_group {key : κ} {items : List γ} {map : List (κ × α)} :
    key ∈ (group keyOf update items map).map (·.1) ↔
      key ∈ map.map (·.1) ∨ key ∈ items.map keyOf := by
  induction items generalizing map with
  | nil => simp [group]
  | cons item items ih =>
      rw [group_cons, ih, keys_set, List.map_cons, List.mem_cons]
      split
      · rename_i known
        constructor
        · intro found
          exact found.imp_right .inr
        · intro found
          rcases found with before | rfl | later
          · exact .inl before
          · exact .inl known
          · exact .inr later
      · rw [List.mem_append, List.mem_singleton, or_assoc]

end Group

end RisingIntelligence.Js.Map
