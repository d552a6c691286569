import Mathlib.Data.List.Basic
import Mathlib.Order.Lattice

/-!
# Tables read in pages

A table whose rows are in the order of a key, read page by page: each page starts behind the last
row of the one before.  Between two pages the table may become another.

* `KeyedTable.page` is a page, `KeyedTable.mem_page_of_covered` that it leaves out no row before
  its end.
* `KeyedTable.write` is a transaction that updates rows by their keys; it keeps the keys.
-/

namespace RisingIntelligence

variable {κ ρ υ : Type} [LinearOrder κ] {key : ρ → κ}

/-- Rows in the strict order of their keys. -/
structure KeyedTable (key : ρ → κ) where
  rows : List ρ
  sorted : rows.Pairwise fun row later => key row < key later

namespace KeyedTable

variable {t : KeyedTable key} {keep : ρ → Bool} {after : Option κ} {count : ℕ} {k : κ} {row : ρ}

/-- The row of a key. -/
def find (t : KeyedTable key) (k : κ) : Option ρ := t.rows.find? fun row => key row = k

/-- The rows behind a key that are asked for. -/
def behind (t : KeyedTable key) (keep : ρ → Bool) (after : Option κ) : List ρ :=
  t.rows.filter fun row => keep row && after.all (· < key row)

/-- The first of them. -/
def page (t : KeyedTable key) (keep : ρ → Bool) (after : Option κ) (count : ℕ) : List ρ :=
  (t.behind keep after).take count

theorem find_eq_some : t.find k = some row ↔ row ∈ t.rows ∧ key row = k := by
  constructor
  · intro found
    exact ⟨List.mem_of_find?_eq_some found, by simpa using List.find?_some found⟩
  · intro ⟨member, same⟩
    obtain ⟨before, rest, split⟩ := List.append_of_mem member
    have earlier := t.sorted
    rw [split, List.pairwise_append] at earlier
    unfold find
    rw [split, List.find?_append, List.find?_cons_of_pos (by simpa using same)]
    have missed : before.find? (fun row => decide (key row = k)) = none := by
      rw [List.find?_eq_none]
      intro first mem
      have less := earlier.2.2 first mem row List.mem_cons_self
      rw [same] at less
      simpa using ne_of_lt less
    rw [missed, Option.none_or]

theorem mem_behind :
    row ∈ t.behind keep after ↔
      row ∈ t.rows ∧ keep row = true ∧ ∀ last, after = some last → last < key row := by
  unfold behind
  rw [List.mem_filter, Bool.and_eq_true, Option.all_eq_true_iff_get]
  cases after with
  | none => simp
  | some last => simp

theorem behind_sorted (t : KeyedTable key) (keep : ρ → Bool) (after : Option κ) :
    (t.behind keep after).Pairwise fun row later => key row < key later :=
  t.sorted.filter _

theorem page_sorted (t : KeyedTable key) (keep : ρ → Bool) (after : Option κ) (count : ℕ) :
    (t.page keep after count).Pairwise fun row later => key row < key later :=
  (t.behind_sorted keep after).take

theorem length_page_le : (t.page keep after count).length ≤ count :=
  List.length_take_le count _

theorem mem_behind_of_mem_page (member : row ∈ t.page keep after count) :
    row ∈ t.behind keep after :=
  List.mem_of_mem_take member

/-- A page has every row up to its last one. -/
theorem mem_page_of_covered {last : ρ} (member : row ∈ t.behind keep after)
    (covered : last ∈ t.page keep after count) (upTo : key row ≤ key last) :
    row ∈ t.page keep after count := by
  have ordered := t.behind_sorted keep after
  unfold page at covered ⊢
  rw [← List.take_append_drop count (t.behind keep after)] at member ordered
  rcases List.mem_append.1 member with taken | later
  · exact taken
  · exact absurd ((List.pairwise_append.1 ordered).2.2 last covered row later) upTo.not_gt

/-- A page that is not full has all rows. -/
theorem page_eq_behind (short : (t.page keep after count).length < count) :
    t.page keep after count = t.behind keep after := by
  unfold page at short ⊢
  rw [List.length_take] at short
  exact List.take_of_length_le (by omega)

/-- Rows in order that leave out no row up to their last one are the first rows. -/
theorem prefix_of_covered {first rows : List ρ}
    (ordered : first.Pairwise fun row later => key row < key later)
    (sorted : rows.Pairwise fun row later => key row < key later) (subset : ∀ row ∈ first, row ∈ rows)
    (covered : ∀ row ∈ rows, (∃ last ∈ first, key row ≤ key last) → row ∈ first) :
    first <+: rows := by
  induction rows generalizing first with
  | nil =>
      have none := List.eq_nil_iff_forall_not_mem.2 fun row member => by cases subset row member
      exact none ▸ List.prefix_rfl
  | cons least rows ih =>
      cases first with
      | nil => exact List.nil_prefix
      | cons head first =>
          obtain ⟨head_lt, ordered⟩ := List.pairwise_cons.1 ordered
          obtain ⟨least_lt, rest_sorted⟩ := List.pairwise_cons.1 sorted
          have same : head = least := by
            rcases List.mem_cons.1 (subset head List.mem_cons_self) with same | later
            · exact same
            · have less := least_lt head later
              rcases List.mem_cons.1 (covered least List.mem_cons_self
                ⟨head, List.mem_cons_self, le_of_lt less⟩) with same | member
              · exact same.symm
              · exact absurd (head_lt least member) (lt_asymm less)
          subst same
          refine (List.prefix_cons_inj head).2 (ih ordered rest_sorted ?_ ?_)
          · intro row member
            rcases List.mem_cons.1 (subset row (List.mem_cons_of_mem _ member)) with same | mem
            · exact absurd (head_lt row member) (same ▸ lt_irrefl _)
            · exact mem
          · intro row member upTo
            obtain ⟨last, mem, le⟩ := upTo
            rcases List.mem_cons.1 (covered row (List.mem_cons_of_mem _ member)
              ⟨last, List.mem_cons_of_mem _ mem, le⟩) with same | mem
            · exact absurd (least_lt row member) (same ▸ lt_irrefl _)
            · exact mem

/-! ## Updates -/

section Write

variable {apply : υ → ρ → ρ} {updates later : List (κ × υ)} {update : υ}

/-- What some updates, each of the row of its key, make of a row. -/
def applied (apply : υ → ρ → ρ) (updates : List (κ × υ)) (k : κ) (row : ρ) : ρ :=
  updates.foldl (fun row update => if update.1 = k then apply update.2 row else row) row

theorem applied_cons (first : κ × υ) :
    applied apply (first :: updates) k row =
      applied apply updates k (if first.1 = k then apply first.2 row else row) :=
  rfl

theorem applied_append :
    applied apply (updates ++ later) k row =
      applied apply later k (applied apply updates k row) :=
  List.foldl_append

theorem key_applied (keeps : ∀ update row, key (apply update row) = key row) :
    key (applied apply updates k row) = key row := by
  induction updates generalizing row with
  | nil => rfl
  | cons first updates ih =>
      rw [applied_cons, ih]
      split_ifs
      · exact keeps _ _
      · rfl

theorem applied_of_not_mem (missing : k ∉ updates.map (·.1)) :
    applied apply updates k row = row := by
  induction updates with
  | nil => rfl
  | cons first updates ih =>
      rw [List.map_cons, List.mem_cons, not_or] at missing
      rw [applied_cons, if_neg (Ne.symm missing.1), ih missing.2]

/-- A row with one update. -/
theorem applied_of_mem (distinct : (updates.map (·.1)).Nodup) (member : (k, update) ∈ updates) :
    applied apply updates k row = apply update row := by
  obtain ⟨before, rest, rfl⟩ := List.append_of_mem member
  rw [List.map_append, List.map_cons, List.nodup_append, List.nodup_cons] at distinct
  have before_missing : k ∉ before.map (·.1) := fun mem =>
    distinct.2.2 k mem k List.mem_cons_self rfl
  rw [applied_append, applied_of_not_mem before_missing, applied_cons, if_pos rfl,
    applied_of_not_mem distinct.2.1.1]

theorem sorted_applied (keeps : ∀ update row, key (apply update row) = key row)
    (t : KeyedTable key) (updates : List (κ × υ)) :
    (t.rows.map fun row => applied apply updates (key row) row).Pairwise
      fun row later => key row < key later := by
  refine List.pairwise_map.2 (t.sorted.imp fun {row later} less => ?_)
  rwa [key_applied keeps, key_applied keeps]

/-- All updates, or `none` where a row to update is missing. -/
def write (apply : υ → ρ → ρ) (keeps : ∀ update row, key (apply update row) = key row)
    (updates : List (κ × υ)) (t : KeyedTable key) : Option (KeyedTable key) :=
  if updates.all fun update => (t.find update.1).isSome then
    some {
      rows := t.rows.map fun row => applied apply updates (key row) row
      sorted := sorted_applied keeps t updates }
  else none

theorem find_write {keeps : ∀ update row, key (apply update row) = key row} {t' : KeyedTable key}
    (written : t.write apply keeps updates = some t') :
    t'.find k = (t.find k).map (applied apply updates k) := by
  unfold write at written
  split at written
  · cases written
    ext row'
    rw [find_eq_some, Option.map_eq_some_iff, List.mem_map]
    constructor
    · intro ⟨changed, same⟩
      obtain ⟨row, member, rfl⟩ := changed
      rw [key_applied keeps] at same
      exact ⟨row, find_eq_some.2 ⟨member, same⟩, by rw [same]⟩
    · intro holds
      obtain ⟨row, found, rfl⟩ := holds
      obtain ⟨member, same⟩ := find_eq_some.1 found
      exact ⟨⟨row, member, by rw [same]⟩, (key_applied keeps).trans same⟩
  · cases written

end Write

end KeyedTable

end RisingIntelligence
