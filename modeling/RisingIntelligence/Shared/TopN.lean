import Mathlib.Data.List.Count
import Mathlib.Data.List.Dedup
import Mathlib.Data.List.Perm.Subperm
import Mathlib.Data.List.Sort

/-!
# The first of a sorted list

The first `n` values of a list in a total order.  Values that are not among the first of a part are
not among the first of the whole, so a list may be cut to its first values before others are added.

* `rank` counts the values of a list that come before a value.
* `top_top_append_iff` says when values that are added more than once change the first ones.
-/

namespace RisingIntelligence

variable {α : Type}

structure TotalOrder (le : α → α → Bool) : Prop where
  trans : ∀ a b c, le a b = true → le b c = true → le a c = true
  total : ∀ a b, (le a b || le b a) = true
  antisymm : ∀ a b, le a b = true → le b a = true → a = b

/-- Values kept in front of a sorted list come before those that were cut off. -/
theorem le_of_cut {le : α → α → Bool} (trans : ∀ a b c, le a b = true → le b c = true → le a c = true)
    (total : ∀ a b, (le a b || le b a) = true) {values : List α} {n : Nat} {a b : α}
    (first : a ∈ (values.mergeSort le).take n) (mem : b ∈ values)
    (cut : b ∉ (values.mergeSort le).take n) : le a b = true := by
  have found : b ∈ values.mergeSort le := List.mem_mergeSort.2 mem
  have sorted := List.pairwise_mergeSort trans total values
  rw [← List.take_append_drop n (values.mergeSort le)] at found sorted
  have later := (List.mem_append.1 found).resolve_left cut
  exact (List.pairwise_append.1 sorted).2.2 a first b later

/-- The first `n` values. -/
def top (le : α → α → Bool) (n : Nat) (values : List α) : List α := (values.mergeSort le).take n

/-- How many values come before a value. -/
def rank (le : α → α → Bool) (values : List α) (value : α) : Nat :=
  values.countP fun other => !le value other

section Order

variable {le : α → α → Bool} {n : Nat} {values others : List α} {a b : α}

theorem TotalOrder.sorted (order : TotalOrder le) (values : List α) :
    (values.mergeSort le).Pairwise fun a b => le a b = true :=
  List.pairwise_mergeSort order.trans order.total values

theorem TotalOrder.refl (order : TotalOrder le) (a : α) : le a a = true := by
  have both := order.total a a
  rwa [Bool.or_self] at both

theorem TotalOrder.le_of_not (order : TotalOrder le) (before : ¬ le a b = true) : le b a = true := by
  have either := order.total a b
  rw [Bool.or_eq_true] at either
  rcases either with le | le
  · exact absurd le before
  · exact le

/-- A sorted list is what its values are sorted to. -/
theorem TotalOrder.mergeSort_eq (order : TotalOrder le)
    (sorted : others.Pairwise fun a b => le a b = true) (same : values.Perm others) :
    values.mergeSort le = others :=
  List.Perm.eq_of_pairwise (fun a b _ _ => order.antisymm a b) (order.sorted values) sorted
    ((List.mergeSort_perm values le).trans same)

theorem TotalOrder.top_perm (order : TotalOrder le) (same : values.Perm others) :
    top le n values = top le n others := by
  unfold top
  rw [order.mergeSort_eq (order.sorted others) (same.trans (List.mergeSort_perm others le).symm)]

theorem mem_of_mem_top (mem : a ∈ top le n values) : a ∈ values :=
  List.mem_mergeSort.1 (List.mem_of_mem_take mem)

theorem length_top : (top le n values).length = min n values.length := by
  unfold top
  rw [List.length_take, List.length_mergeSort]

theorem nodup_top (le : α → α → Bool) (n : Nat) (nodup : values.Nodup) :
    (top le n values).Nodup := by
  have sorted := (List.mergeSort_perm values le).nodup_iff.2 nodup
  exact sorted.sublist (List.take_sublist n _)

theorem rank_perm (same : values.Perm others) : rank le values a = rank le others a :=
  same.countP_eq _

theorem rank_append : rank le (values ++ others) a = rank le values a + rank le others a :=
  List.countP_append

/-- Fewer than `n` values come before one of the first `n`. -/
theorem TotalOrder.rank_lt_of_mem_top (order : TotalOrder le) (mem : a ∈ top le n values) :
    rank le values a < n := by
  have sorted := order.sorted values
  rw [← rank_perm (List.mergeSort_perm values le)]
  unfold top at mem
  generalize values.mergeSort le = list at mem sorted
  obtain ⟨before, after, split⟩ := List.append_of_mem mem
  have whole : list = before ++ (a :: after ++ list.drop n) := by
    rw [← List.append_assoc, ← split, List.take_append_drop]
  have bound : before.length < n := by
    have length := congrArg List.length split
    rw [List.length_take, List.length_append, List.length_cons] at length
    omega
  rw [whole] at sorted ⊢
  rw [rank_append]
  have tail : rank le (a :: after ++ list.drop n) a = 0 := by
    unfold rank
    rw [List.countP_eq_zero]
    intro other found
    have later : le a other = true := by
      rcases List.mem_cons.1 found with same | later
      · exact same ▸ order.refl a
      · exact List.rel_of_pairwise_cons (List.pairwise_append.1 sorted).2.1 later
    simp [later]
  have head : rank le before a ≤ before.length := List.countP_le_length
  omega

theorem TotalOrder.rank_lt_rank (order : TotalOrder le) (mem : b ∈ values)
    (before : ¬ le a b = true) : rank le values b < rank le values a := by
  have earlier : ∀ other, (!le b other) = true → (!le a other) = true := by
    intro other strict
    rw [Bool.not_eq_true', ← Bool.not_eq_true] at strict ⊢
    intro le
    exact before (order.trans a other b le (order.le_of_not strict))
  have mono : ∀ values : List α, rank le values b ≤ rank le values a :=
    fun values => List.countP_mono_left fun other _ => earlier other
  obtain ⟨first, rest, rfl⟩ := List.append_of_mem mem
  have here : rank le (b :: rest) b = rank le rest b := by
    unfold rank
    rw [List.countP_cons_of_neg (by simp [order.refl b])]
  have there : rank le (b :: rest) a = rank le rest a + 1 := by
    unfold rank
    rw [List.countP_cons_of_pos (by simpa using before)]
  rw [rank_append, rank_append, here, there]
  have left := mono first
  have right := mono rest
  omega

/-- The values in front of a sorted list with the same values as another are its first ones. -/
theorem TotalOrder.top_eq_of_perm (order : TotalOrder le)
    (sorted : (values ++ others).Pairwise fun a b => le a b = true) {all : List α}
    (same : all.Perm (values ++ others)) (length : values.length = n) :
    top le n all = values := by
  unfold top
  rw [order.mergeSort_eq sorted same, ← length, List.take_left']
  rfl

/-- Values that come after the first ones change nothing. -/
theorem TotalOrder.top_append (order : TotalOrder le)
    (behind : ∀ first ∈ top le n values, ∀ other ∈ others, le first other = true)
    (full : others ≠ [] → n ≤ values.length) : top le n (values ++ others) = top le n values := by
  by_cases none : others = []
  · rw [none, List.append_nil]
  · have long := full none
    have split : (top le n values ++ (values.mergeSort le).drop n).Perm values := by
      unfold top
      rw [List.take_append_drop]
      exact List.mergeSort_perm values le
    have whole : (values ++ others).Perm
        (top le n values ++ ((values.mergeSort le).drop n ++ others).mergeSort le) := by
      have grown := split.symm.append_right others
      rw [List.append_assoc] at grown
      exact grown.trans ((List.mergeSort_perm _ le).symm.append_left _)
    have sorted := order.sorted values
    rw [← List.take_append_drop n (values.mergeSort le), List.pairwise_append] at sorted
    apply order.top_eq_of_perm _ whole
    · rw [length_top]
      omega
    · rw [List.pairwise_append]
      refine ⟨sorted.1, order.sorted _, ?_⟩
      intro first mem other mem'
      rcases List.mem_append.1 (List.mem_mergeSort.1 mem') with rest | added
      · exact sorted.2.2 first mem other rest
      · exact behind first mem other added

theorem rank_mono (order : TotalOrder le) (ahead : le a b = true) (values : List α) :
    rank le values a ≤ rank le values b := by
  apply List.countP_mono_left
  intro other _ strict
  rw [Bool.not_eq_true', ← Bool.not_eq_true] at strict ⊢
  intro le
  exact strict (order.trans a b other ahead le)

theorem rank_le_of_subset (le : α → α → Bool) (a : α) (nodup : values.Nodup)
    (subset : values ⊆ others) :
    rank le values a ≤ rank le others a :=
  (List.Nodup.subperm nodup subset).countP_le _

/-- Values with `n` others in front of them change nothing, and neither do repeats of the last of
the first `n` values. -/
theorem TotalOrder.top_append_of_rank (order : TotalOrder le)
    (behind : ∀ other ∈ others, n ≤ rank le values other ∨
      other ∈ values ∧ n ≤ rank le values other + 1) :
    top le n (values ++ others) = top le n values := by
  apply order.top_append
  · intro first mem other found
    have early := order.rank_lt_of_mem_top mem
    by_contra before
    rcases behind other found with late | ⟨here, late⟩
    · have mono := rank_mono order (order.le_of_not before) values
      omega
    · have strict := order.rank_lt_rank here before
      omega
  · intro some
    obtain ⟨other, found⟩ := List.exists_mem_of_ne_nil others some
    have bound : rank le values other ≤ values.length := List.countP_le_length
    rcases behind other found with late | ⟨here, late⟩
    · omega
    · -- a value is not in front of itself
      have short : rank le values other < values.length := by
        unfold rank
        rw [List.countP_lt_length_iff]
        exact ⟨other, here, by simp [order.refl other]⟩
      omega

theorem TotalOrder.top_top (order : TotalOrder le) :
    top le n (top le n values) = top le n values := by
  have sorted : (top le n values).Pairwise fun a b => le a b = true :=
    (order.sorted values).sublist (List.take_sublist n _)
  have same := order.mergeSort_eq sorted (List.Perm.refl _)
  change ((top le n values).mergeSort le).take n = _
  rw [same]
  unfold top
  rw [List.take_take, min_self]

/-- The first ones come before what was cut off. -/
theorem TotalOrder.le_of_cut (order : TotalOrder le) (first : a ∈ top le n values)
    (mem : b ∈ values) (cut : b ∉ top le n values) : le a b = true :=
  RisingIntelligence.le_of_cut order.trans order.total first mem cut

/-- A value that was cut off has all the first ones in front of it. -/
theorem TotalOrder.le_rank_of_cut (order : TotalOrder le) (mem : a ∈ values)
    (cut : a ∉ top le n values) : n ≤ rank le (top le n values) a := by
  have full : (top le n values).length = n := by
    by_contra short
    rw [length_top] at short
    have whole : top le n values = values.mergeSort le := by
      apply List.take_of_length_le
      rw [List.length_mergeSort]
      omega
    exact cut (whole ▸ List.mem_mergeSort.2 mem)
  have all : rank le (top le n values) a = (top le n values).length := by
    unfold rank
    rw [List.countP_eq_length]
    intro first there
    rw [Bool.not_eq_true', ← Bool.not_eq_true]
    intro back
    exact cut (order.antisymm first a (order.le_of_cut there mem cut) back ▸ there)
  omega

theorem TotalOrder.mem_top_iff (order : TotalOrder le) (nodup : values.Nodup) :
    a ∈ top le n values ↔ a ∈ values ∧ rank le values a < n := by
  constructor
  · exact fun mem => ⟨mem_of_mem_top mem, order.rank_lt_of_mem_top mem⟩
  · intro early
    obtain ⟨mem, early⟩ := early
    by_contra cut
    have late := order.le_rank_of_cut mem cut
    have fewer := rank_le_of_subset le a (nodup_top le n nodup)
      fun _ => mem_of_mem_top
    omega

end Order

section Repeats

variable [DecidableEq α] {le : α → α → Bool} {n : Nat} {values others added all : List α}

/-- Repeats of values change the first ones, unless all the first ones but one are in front. -/
theorem TotalOrder.top_repeats_iff (order : TotalOrder le) (nodup : values.Nodup)
    (repeats : others ⊆ values) :
    top le n (values ++ others) = top le n values ↔
      ∀ other ∈ others, n ≤ rank le values other + 1 := by
  constructor
  · intro same other found
    have twice : 2 ≤ ((values ++ others).mergeSort le).count other := by
      rw [(List.mergeSort_perm _ le).count_eq, List.count_append]
      have first := List.count_pos_iff.2 (repeats found)
      have second := List.count_pos_iff.2 found
      omega
    have sorted := order.sorted (values ++ others)
    have firsts := nodup_top le n nodup
    have taken : ((values ++ others).mergeSort le).take n = top le n values := same
    rw [← List.take_append_drop n ((values ++ others).mergeSort le), taken] at twice sorted
    have once := List.nodup_iff_count_le_one.1 firsts other
    have later : other ∈ ((values ++ others).mergeSort le).drop n := by
      rw [List.count_append] at twice
      exact List.count_pos_iff.1 (by omega)
    have full : (top le n values).length = n := by
      have long := List.length_pos_of_mem later
      rw [List.length_drop, List.length_mergeSort] at long
      rw [← taken, List.length_take, List.length_mergeSort]
      omega
    -- only the value itself may stand among the first ones without being in front
    have rest : (top le n values).countP (fun first => !(!le other first)) ≤ 1 := by
      refine le_trans (List.countP_mono_left ?_) once
      intro first there back
      have ahead : le first other = true := (List.pairwise_append.1 sorted).2.2 first there other later
      rw [Bool.not_not] at back
      exact beq_iff_eq.2 (order.antisymm first other ahead back)
    have split := List.length_eq_countP_add_countP (fun first => !le other first)
      (l := top le n values)
    have fewer := rank_le_of_subset le other firsts fun _ => mem_of_mem_top
    unfold rank at fewer ⊢
    simp only [Bool.not_eq_true, Bool.decide_eq_false] at split
    omega
  · intro late
    exact order.top_append_of_rank fun other found => .inr ⟨repeats found, late other found⟩

/-- A list may be cut to its first values before others are added, where each of these is added
once or comes late enough. -/
theorem TotalOrder.top_top_append_iff (order : TotalOrder le) (distinct : values.Nodup)
    (fresh : ∀ value ∈ added, value ∉ top le n values) (nodup : all.Nodup)
    (union : ∀ value, value ∈ all ↔ value ∈ values ∨ value ∈ added) :
    top le n (top le n values ++ added) = top le n all ↔
      ∀ value, 2 ≤ added.count value → n ≤ rank le all value + 1 := by
  obtain ⟨again, split⟩ := (List.dedup_sublist added).exists_perm_append
  have firsts : (top le n values ++ added.dedup).Nodup := by
    rw [List.nodup_append]
    refine ⟨nodup_top le n distinct, List.nodup_dedup added, ?_⟩
    intro value mem other found same
    exact fresh other (List.mem_dedup.1 found) (same ▸ mem)
  have again_mem : ∀ value, value ∈ again ↔ 2 ≤ added.count value := by
    intro value
    rw [split.count_eq, List.count_append, ← List.count_pos_iff, List.count_dedup]
    have occurs : 0 < again.count value → value ∈ added := fun pos =>
      split.mem_iff.2 (List.mem_append_right _ (List.count_pos_iff.1 pos))
    by_cases mem : value ∈ added
    · rw [if_pos mem]
      omega
    · rw [if_neg mem]
      have none : ¬ 0 < again.count value := fun pos => mem (occurs pos)
      omega
  have inside : (top le n values ++ added.dedup) ⊆ all := by
    intro value found
    rw [union]
    rcases List.mem_append.1 found with first | other
    · exact .inl (mem_of_mem_top first)
    · exact .inr (List.mem_dedup.1 other)
  obtain ⟨same, same_perm, sublist⟩ := List.Nodup.subperm firsts inside
  obtain ⟨cut, rest⟩ := sublist.exists_perm_append
  have whole : all.Perm ((top le n values ++ added.dedup) ++ cut) :=
    rest.trans (same_perm.append_right cut)
  have cut_late : ∀ value ∈ cut, n ≤ rank le (top le n values ++ added.dedup) value := by
    intro value mem
    have apart := List.nodup_append.1 (whole.nodup_iff.1 nodup)
    have absent : value ∉ top le n values ++ added.dedup :=
      fun found => apart.2.2 value found value mem rfl
    rw [List.mem_append, not_or, List.mem_dedup] at absent
    have there := (union value).1 (whole.mem_iff.2 (List.mem_append_right _ mem))
    have late := order.le_rank_of_cut (there.resolve_right absent.2) absent.1
    rw [rank_append]
    omega
  have same_top : top le n all = top le n (top le n values ++ added.dedup) := by
    rw [order.top_perm whole]
    exact order.top_append_of_rank fun value mem => .inl (cut_late value mem)
  have same_rank : ∀ value, n ≤ rank le all value + 1 ↔
      n ≤ rank le (top le n values ++ added.dedup) value + 1 := by
    intro value
    rw [rank_perm whole, rank_append]
    by_cases none : rank le cut value = 0
    · rw [none, Nat.add_zero]
    · obtain ⟨early, mem, before⟩ := List.countP_pos_iff.1 (Nat.pos_of_ne_zero none)
      have late := cut_late early mem
      rw [Bool.not_eq_true', ← Bool.not_eq_true] at before
      have mono := rank_mono order (order.le_of_not before) (top le n values ++ added.dedup)
      omega
  have grouped : (top le n values ++ added).Perm ((top le n values ++ added.dedup) ++ again) := by
    rw [List.append_assoc]
    exact split.append_left _
  have known : again ⊆ top le n values ++ added.dedup := by
    intro value mem
    have found := split.mem_iff.2 (List.mem_append_right _ mem)
    exact List.mem_append_right _ (List.mem_dedup.2 found)
  rw [order.top_perm grouped, same_top, order.top_repeats_iff firsts known]
  simp only [again_mem, same_rank]

/-- A list may be cut to its first values before a new one is added. -/
theorem TotalOrder.top_insert (order : TotalOrder le) {value : α}
    (nodup : (values ++ [value]).Nodup) :
    top le n (top le n values ++ [value]) = top le n (values ++ [value]) := by
  have apart := List.nodup_append.1 nodup
  have fresh : ∀ other ∈ [value], other ∉ top le n values := by
    intro other added mem
    exact apart.2.2 other (mem_of_mem_top mem) other added rfl
  rw [order.top_top_append_iff apart.1 fresh nodup fun other => List.mem_append]
  intro other twice
  have once := List.nodup_iff_count_le_one.1 (List.nodup_singleton value) other
  omega

/-- Taking a value out and adding it again changes nothing, also where it had been cut off. -/
theorem TotalOrder.top_insert_again (order : TotalOrder le) {value : α} (nodup : values.Nodup)
    (mem : value ∈ values) :
    top le n ((top le n values).filter (· ≠ value) ++ [value]) = top le n values := by
  by_cases first : value ∈ top le n values
  · have moved := (List.perm_cons_erase first).symm
    have erased : (top le n values).erase value = (top le n values).filter (· ≠ value) := by
      rw [(nodup_top le n nodup).erase_eq_filter]
      refine List.filter_congr fun other _ => ?_
      by_cases same : other = value <;> simp [same]
    have same : ((top le n values).filter (· ≠ value) ++ [value]).Perm (top le n values) := by
      rw [← erased]
      exact (List.perm_append_singleton _ _).trans moved
    rw [order.top_perm same, order.top_top]
  · have kept : (top le n values).filter (· ≠ value) = top le n values := by
      rw [List.filter_eq_self]
      intro other there
      exact decide_eq_true fun same => first (same ▸ there)
    have late := order.le_rank_of_cut mem first
    have same : top le n (top le n values ++ [value]) = top le n (top le n values) :=
      order.top_append_of_rank fun other added => .inl (List.mem_singleton.1 added ▸ late)
    rw [kept, same, order.top_top]

end Repeats

/-! ### Texts -/

/-- `localeCompare` of a locale that orders texts by their characters. -/
def ordinalCompare (a b : String) : Int := if a ≤ b then if a = b then 0 else -1 else 1

theorem ordinalCompare_total : TotalOrder fun a b => decide (ordinalCompare a b ≤ 0) := by
  have reads : ∀ a b, ordinalCompare a b ≤ 0 ↔ a ≤ b := by
    intro a b
    unfold ordinalCompare
    split
    · split <;> simp [*]
    · simp [*]
  simp only [reads]
  constructor
  · intro a b c first second
    exact decide_eq_true (String.le_trans (of_decide_eq_true first) (of_decide_eq_true second))
  · intro a b
    simpa using String.le_total a b
  · intro a b first second
    exact String.le_antisymm (of_decide_eq_true first) (of_decide_eq_true second)

end RisingIntelligence
