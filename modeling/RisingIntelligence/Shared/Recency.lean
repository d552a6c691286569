import RisingIntelligence.Shared.FirstOfEach
import RisingIntelligence.Shared.JsMap

/-!
# Maps of the keys used last

A map with a limit in which each use of a key sets it anew, at the end, and which then forgets its
oldest entry if there is one too many.

* `recent limit keys` is the list of the last `limit` distinct keys of a sequence.
* `keys_remember` says that a map whose keys are the recent ones keeps them so.
* `get_remember` says which key loses its value: the evicted one only.
-/

namespace RisingIntelligence

variable {κ α : Type} [DecidableEq κ] {limit : Nat} {keys : List κ} {key other : κ} {value : α}
  {map : List (κ × α)}

/-! ## Recent keys -/

/-- The last `limit` distinct keys of a sequence, the latest at the end. -/
def recent (limit : Nat) (keys : List κ) : List κ :=
  ((firstOfEach id keys.reverse).take limit).reverse

theorem nodup_firstOfEach (keys : List κ) : (firstOfEach id keys).Nodup := by
  have nodup : ((firstOfEach id keys).map id).Nodup := nodup_map_firstOfEach keys
  rwa [List.map_id] at nodup

theorem nodup_recent : (recent limit keys).Nodup :=
  List.nodup_reverse.2 ((List.take_sublist ..).nodup (nodup_firstOfEach _))

theorem length_recent : (recent limit keys).length = min limit keys.dedup.length := by
  have same : keys.reverse.dedup.Perm keys.dedup := by
    refine (List.perm_ext_iff_of_nodup (List.nodup_dedup _) (List.nodup_dedup _)).2 fun key => ?_
    rw [List.mem_dedup, List.mem_dedup, List.mem_reverse]
  rw [recent, List.length_reverse, List.length_take, length_firstOfEach, List.map_id,
    same.length_eq]

/-- A full list loses its head. -/
def cut (limit : Nat) (items : List α) : List α :=
  if items.length ≤ limit then items else items.tail

theorem cut_reverse {items : List α} (bound : items.length ≤ limit + 1) :
    cut limit items.reverse = (items.take limit).reverse := by
  unfold cut
  rw [List.length_reverse]
  split
  · rename_i fits
    rw [List.take_of_length_le fits]
  · have full : items.length - 1 = limit := by omega
    rw [List.tail_reverse, List.dropLast_eq_take, full]

/-- One item fewer is enough if at most one is filtered out. -/
theorem take_filter_take (nodup : keys.Nodup) (count : Nat) :
    ((keys.take (count + 1)).filter fun other => decide (other ≠ key)).take count =
      (keys.filter fun other => decide (other ≠ key)).take count := by
  induction keys generalizing count with
  | nil => rfl
  | cons first rest ih =>
      obtain ⟨fresh, nodup⟩ := List.nodup_cons.1 nodup
      rw [List.take_succ_cons, List.filter_cons, List.filter_cons]
      by_cases here : first = key
      · -- the key does not come again
        have apart : ∀ other ∈ rest, decide (other ≠ key) = true := by
          intro other mem
          refine decide_eq_true fun same => fresh ?_
          rwa [here, ← same]
        have kept : ∀ other ∈ rest.take count, decide (other ≠ key) = true :=
          fun other mem => apart other (List.mem_of_mem_take mem)
        rw [if_neg (by simp [here]), if_neg (by simp [here]), List.filter_eq_self.2 apart,
          List.filter_eq_self.2 kept, List.take_take, Nat.min_self]
      · rw [if_pos (decide_eq_true here), if_pos (decide_eq_true here)]
        cases count with
        | zero => rfl
        | succ count => rw [List.take_succ_cons, List.take_succ_cons, ih nodup]

/-- A key that is used moves to the end. -/
theorem recent_concat :
    recent limit (keys ++ [key]) =
      cut limit (((recent limit keys).filter fun other => decide (other ≠ key)) ++ [key]) := by
  have turned : ((recent limit keys).filter fun other => decide (other ≠ key)) ++ [key] =
      (key :: ((firstOfEach id keys.reverse).take limit).filter
        fun other => decide (other ≠ key)).reverse := by
    rw [recent, List.filter_reverse, List.reverse_cons]
  have short := List.length_filter_le (fun other => decide (other ≠ key))
    ((firstOfEach id keys.reverse).take limit)
  rw [List.length_take] at short
  rw [turned, cut_reverse (by rw [List.length_cons]; omega), recent, List.reverse_append,
    List.reverse_singleton, List.singleton_append, firstOfEach_cons]
  cases limit with
  | zero => rfl
  | succ limit =>
      rw [List.take_succ_cons, List.take_succ_cons, take_filter_take (nodup_firstOfEach _)]
      rfl

/-- Enough other keys make one forgotten. -/
theorem notMem_recent (nodup : (key :: keys).Nodup) (many : limit ≤ keys.length) :
    key ∉ recent limit (key :: keys) := by
  have kept : recent limit (key :: keys) = (key :: keys).drop (keys.length + 1 - limit) := by
    rw [recent, firstOfEach_of_nodup (by rwa [List.map_id, List.nodup_reverse]), List.take_reverse,
      List.reverse_reverse, List.length_cons]
  have some : keys.length + 1 - limit = keys.length - limit + 1 := by omega
  rw [kept, some, List.drop_succ_cons]
  exact fun mem => (List.nodup_cons.1 nodup).1 (List.mem_of_mem_drop mem)

/-! ## The map -/

namespace Js.Map

/-- Set `key` anew, and forget the oldest entry of a map that is too large. -/
def remember (limit : Nat) (key : κ) (value : α) (map : List (κ × α)) : List (κ × α) :=
  evictOldest limit (set key value (delete key map))

theorem nodup_keys_delete (nodup : (map.map (·.1)).Nodup) :
    ((delete key map).map (·.1)).Nodup := by
  rw [keys_delete]
  exact nodup.filter _

theorem remember_eq (nodup : (map.map (·.1)).Nodup) :
    remember limit key value map = cut limit (delete key map ++ [(key, value)]) := by
  rw [remember, evictOldest_eq (nodup_keys_set _ _ (nodup_keys_delete nodup)),
    set_of_notMem _ (notMem_keys_delete key map)]
  rfl

theorem cut_sublist (items : List α) : (cut limit items).Sublist items := by
  unfold cut
  split
  · exact .refl items
  · exact List.tail_sublist items

theorem map_cut {β : Type} (f : α → β) (items : List α) :
    (cut limit items).map f = cut limit (items.map f) := by
  unfold cut
  rw [List.length_map, ← List.map_tail]
  split <;> rfl

/-- The recent keys stay the recent ones. -/
theorem keys_remember (holds : map.map (·.1) = recent limit keys) :
    (remember limit key value map).map (·.1) = recent limit (keys ++ [key]) := by
  have nodup : (map.map (·.1)).Nodup := holds ▸ nodup_recent
  rw [remember_eq nodup, map_cut, List.map_append, keys_delete, holds, recent_concat]
  rfl

theorem mem_of_mem_remember {entry : κ × α} (nodup : (map.map (·.1)).Nodup)
    (mem : entry ∈ remember limit key value map) : entry = (key, value) ∨ entry ∈ map := by
  rw [remember_eq nodup] at mem
  rcases List.mem_append.1 ((cut_sublist _).subset mem) with before | last
  · exact .inr (List.mem_of_mem_filter before)
  · exact .inl (List.mem_singleton.1 last)

theorem nodup_keys_remember (nodup : (map.map (·.1)).Nodup) :
    ((remember limit key value map).map (·.1)).Nodup := by
  rw [remember_eq nodup, ← set_of_notMem value (notMem_keys_delete key map)]
  exact ((cut_sublist _).map _).nodup (nodup_keys_set _ _ (nodup_keys_delete nodup))

theorem length_delete_lt (known : key ∈ map.map (·.1)) : (delete key map).length < map.length := by
  obtain ⟨entry, mem, rfl⟩ := List.mem_map.1 known
  exact List.length_filter_lt_length_iff_exists.2 ⟨entry, mem, by simp⟩

theorem length_remember_le (nodup : (map.map (·.1)).Nodup) (bound : map.length ≤ limit) :
    (remember limit key value map).length ≤ limit := by
  have shorter : (delete key map).length ≤ map.length := List.length_filter_le _ _
  rw [remember_eq nodup, cut, List.length_append, List.length_singleton]
  split
  · rename_i fits
    rwa [List.length_append, List.length_singleton]
  · rw [List.length_tail, List.length_append, List.length_singleton]
    omega

/-- A key that is new is only added. -/
theorem remember_of_notMem (absent : key ∉ map.map (·.1)) :
    remember limit key value map = evictOldest limit (set key value map) := by
  rw [remember, delete_of_notMem absent]

/-- For a key that is known there is room. -/
theorem remember_of_mem (bound : map.length ≤ limit) (known : key ∈ map.map (·.1)) :
    remember limit key value map = set key value (delete key map) := by
  have shorter := length_delete_lt known
  rw [remember, evictOldest, if_pos]
  rw [set_of_notMem _ (notMem_keys_delete key map), List.length_append, List.length_singleton]
  omega

/-- The entry that a use of `key` evicts. -/
def evicted (limit : Nat) (key : κ) (map : List (κ × α)) : Option (κ × α) :=
  if (delete key map).length < limit then none else (delete key map).head?

theorem mem_of_mem_evicted {entry : κ × α} (oldest : entry ∈ evicted limit key map) :
    entry ∈ map := by
  unfold evicted at oldest
  split at oldest
  · cases oldest
  · exact List.mem_of_mem_filter (List.mem_of_mem_head? oldest)

/-- The other keys keep their value, but for the evicted one. -/
theorem get_remember_of_ne (value : α) (nodup : (map.map (·.1)).Nodup) (apart : other ≠ key)
    (kept : other ∉ (evicted limit key map).map (·.1)) :
    get other (remember limit key value map) = get other map := by
  have same : get other (set key value (delete key map)) = get other map := by
    rw [get_set, if_neg apart, get_delete, if_neg apart]
  rw [← same, remember, evictOldest_eq (nodup_keys_set _ _ (nodup_keys_delete nodup)),
    set_of_notMem _ (notMem_keys_delete key map)]
  split
  · rfl
  · rename_i full
    rw [List.length_append, List.length_singleton] at full
    rw [evicted, if_neg (by omega)] at kept
    cases emptied : delete key map with
    | nil =>
        rw [List.nil_append, List.tail_cons, get_nil, get_cons, if_neg apart, get_nil]
    | cons oldest rest =>
        rw [emptied, List.head?_cons] at kept
        rw [List.cons_append, List.tail_cons, get_cons, if_neg fun same => kept ?_]
        rw [same]
        exact rfl

/-- The key that is used has the value it is given. -/
theorem get_remember (nodup : (map.map (·.1)).Nodup) (positive : 1 ≤ limit) :
    get key (remember limit key value map) = some value := by
  rw [remember, evictOldest_eq (nodup_keys_set _ _ (nodup_keys_delete nodup))]
  split
  · rw [get_set, if_pos rfl]
  · rename_i full
    rw [set_of_notMem _ (notMem_keys_delete key map)] at full ⊢
    cases emptied : delete key map with
    | nil =>
        rw [emptied, List.nil_append, List.length_singleton] at full
        omega
    | cons oldest rest =>
        have absent := notMem_keys_delete key map
        rw [emptied, List.map_cons, List.mem_cons, not_or] at absent
        rw [List.cons_append, List.tail_cons, ← set_of_notMem value absent.2, get_set, if_pos rfl]

end Js.Map

end RisingIntelligence
