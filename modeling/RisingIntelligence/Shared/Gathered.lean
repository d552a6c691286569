import Mathlib.Data.List.Nodup
import Mathlib.Data.List.Sort

/-!
# Gathered lists

A list is gathered if the copies of an item stand side by side, as where each of some distinct items is
repeated.  A stable sort keeps a list gathered, so the copies that a cut leaves can be told by what comes
before the last place.
-/

namespace RisingIntelligence

variable {α : Type}

/-- Nothing stands between two copies of an item. -/
def Gathered (items : List α) : Prop := ∀ a b, a ≠ b → ¬ [a, b, a].Sublist items

/-- Each item as often as given. -/
def repeated (times : α → Nat) (items : List α) : List α :=
  items.flatMap fun item => List.replicate (times item) item

section Gathered

variable {items others : List α} {times : α → Nat} {a : α}

theorem mem_repeated : a ∈ repeated times items ↔ a ∈ items ∧ 0 < times a := by
  unfold repeated
  rw [List.mem_flatMap]
  constructor
  · intro found
    obtain ⟨item, mem, inside⟩ := found
    obtain ⟨some, rfl⟩ := List.mem_replicate.1 inside
    exact ⟨mem, Nat.pos_of_ne_zero some⟩
  · intro found
    exact ⟨a, found.1, List.mem_replicate.2 ⟨Nat.ne_of_gt found.2, rfl⟩⟩

theorem Gathered.sublist (gathered : Gathered items) (part : others.Sublist items) :
    Gathered others :=
  fun a b different found => gathered a b different (found.trans part)

theorem Gathered.append (gathered : Gathered items) (gathered' : Gathered others)
    (apart : ∀ a ∈ items, a ∉ others) : Gathered (items ++ others) := by
  intro a b different found
  obtain ⟨front, back, split, inFront, inBack⟩ := List.sublist_append_iff.1 found
  -- the first copy is in front and the last behind, unless all are on one side
  match front with
  | [] => exact gathered' a b different (split ▸ inBack)
  | [first] =>
      obtain ⟨rfl, rfl⟩ := List.cons.inj split
      exact apart a (inFront.subset List.mem_cons_self)
        (inBack.subset (List.mem_cons_of_mem b List.mem_cons_self))
  | [first, second] =>
      obtain ⟨rfl, rest⟩ := List.cons.inj split
      obtain ⟨rfl, rfl⟩ := List.cons.inj rest
      exact apart a (inFront.subset List.mem_cons_self) (inBack.subset List.mem_cons_self)
  | first :: second :: third :: rest =>
      have none : rest ++ back = [] := by
        have lengths := congrArg List.length split
        simp only [List.length_append, List.length_cons, List.length_nil] at lengths
        exact List.length_eq_zero_iff.1 (by rw [List.length_append]; omega)
      obtain ⟨rfl, rfl⟩ := List.append_eq_nil_iff.1 none
      rw [List.append_nil] at split
      exact gathered a b different (split ▸ inFront)

theorem gathered_repeated (distinct : items.Nodup) : Gathered (repeated times items) := by
  induction items with
  | nil =>
      intro a b _ found
      cases found
  | cons item items ih =>
      obtain ⟨fresh, distinct⟩ := List.nodup_cons.1 distinct
      have copies : Gathered (List.replicate (times item) item) := by
        intro a b different found
        have first := List.eq_of_mem_replicate (found.subset List.mem_cons_self)
        have second := List.eq_of_mem_replicate
          (found.subset (List.mem_cons_of_mem a List.mem_cons_self))
        exact different (first.trans second.symm)
      refine copies.append (ih distinct) fun a mem later => ?_
      rw [List.eq_of_mem_replicate mem] at later
      exact fresh (mem_repeated.1 later).1

/-- A stable sort keeps the order of items that are tied. -/
theorem filter_mergeSort_of_tied {le : α → α → Bool}
    (trans : ∀ a b c, le a b = true → le b c = true → le a c = true)
    (total : ∀ a b, (le a b || le b a) = true) {p : α → Bool}
    (tied : ∀ a b, p a = true → p b = true → le a b = true) :
    (items.mergeSort le).filter p = items.filter p := by
  have sorted : (items.filter p).Pairwise fun a b => le a b = true :=
    List.pairwise_of_forall_mem_list fun a here b there =>
      tied a b (List.of_mem_filter here) (List.of_mem_filter there)
  have kept := (List.sublist_mergeSort trans total sorted List.filter_sublist).filter p
  simp only [List.filter_filter, Bool.and_self] at kept
  have same := ((List.mergeSort_perm items le).filter p).length_eq
  exact (kept.eq_of_length same.symm).symm

theorem Gathered.mergeSort {le : α → α → Bool}
    (trans : ∀ a b c, le a b = true → le b c = true → le a c = true)
    (total : ∀ a b, (le a b || le b a) = true) (gathered : Gathered items) :
    Gathered (items.mergeSort le) := by
  classical
  intro a b different found
  have sorted := (List.pairwise_mergeSort trans total items).sublist found
  have ahead : le a b = true := (List.pairwise_cons.1 sorted).1 b List.mem_cons_self
  have behind : le b a = true :=
    (List.pairwise_cons.1 (List.pairwise_cons.1 sorted).2).1 a List.mem_cons_self
  have refl : ∀ c, le c c = true := by
    intro c
    have either := total c c
    rwa [Bool.or_self] at either
  have tied : ∀ c d, decide (c = a ∨ c = b) = true → decide (d = a ∨ d = b) = true →
      le c d = true := by
    intro c d here there
    rcases of_decide_eq_true here with rfl | rfl
    · rcases of_decide_eq_true there with rfl | rfl
      · exact refl _
      · exact ahead
    · rcases of_decide_eq_true there with rfl | rfl
      · exact behind
      · exact refl _
  have inside := found.filter fun c => decide (c = a ∨ c = b)
  rw [filter_mergeSort_of_tied trans total tied] at inside
  have all : [a, b, a].filter (fun c => decide (c = a ∨ c = b)) = [a, b, a] := by
    simp
  rw [all] at inside
  exact gathered a b different (inside.trans List.filter_sublist)

end Gathered

section Count

variable [DecidableEq α] {items : List α} {times : α → Nat} {a : α} {n : Nat}

theorem count_repeated (distinct : items.Nodup) (mem : a ∈ items) :
    (repeated times items).count a = times a := by
  unfold repeated
  induction items with
  | nil => cases mem
  | cons item items ih =>
      obtain ⟨fresh, distinct⟩ := List.nodup_cons.1 distinct
      rw [List.flatMap_cons, List.count_append]
      rcases List.mem_cons.1 mem with rfl | later
      · have none : (repeated times items).count a = 0 :=
          List.count_eq_zero.2 fun again => fresh (mem_repeated.1 again).1
        unfold repeated at none
        rw [List.count_replicate_self, none, Nat.add_zero]
      · have other : a ≠ item := by
          intro same
          exact fresh (same ▸ later)
        have none : (List.replicate (times item) item).count a = 0 :=
          List.count_eq_zero.2 fun here => other (List.eq_of_mem_replicate here)
        rw [none, Nat.zero_add, ih distinct later]

/-- What is cut off a gathered list repeats no item if those before the last place have one copy. -/
theorem Gathered.nodup_take_iff (gathered : Gathered items) :
    (items.take n).Nodup ↔ ∀ a ∈ items.take (n - 1), items.count a ≤ 1 := by
  cases n with
  | zero => exact iff_of_true List.nodup_nil nofun
  | succ n =>
      rw [Nat.add_sub_cancel]
      have split : items.take n ++ items.drop n = items := List.take_append_drop n items
      constructor
      · intro distinct a mem
        by_contra more
        have before : (items.take n).Nodup :=
          distinct.sublist (List.take_sublist_take_left (Nat.le_succ n))
        have counts : items.count a = (items.take n).count a + (items.drop n).count a := by
          rw [← List.count_append, split]
        have once := List.nodup_iff_count_le_one.1 before a
        have later : a ∈ items.drop n := List.count_pos_iff.1 (by omega)
        cases drop : items.drop n with
        | nil =>
            rw [drop] at later
            cases later
        | cons next rest =>
            have cut : items.take (n + 1) = items.take n ++ [next] := by
              rw [List.take_add, drop]
              rfl
            rw [drop] at later split
            by_cases same : next = a
            · rw [cut, same] at distinct
              exact (List.nodup_append.1 distinct).2.2 a mem a List.mem_cons_self rfl
            · have again : a ∈ rest := (List.mem_cons.1 later).resolve_left (Ne.symm same)
              refine gathered a next (Ne.symm same) ?_
              rw [← split]
              exact (List.singleton_sublist.2 mem).append
                ((List.singleton_sublist.2 again).cons_cons next)
      · intro once
        rw [List.nodup_iff_sublist]
        intro a twice
        have cut : items.take (n + 1) = items.take n ++ (items.drop n).take 1 := List.take_add
        rw [cut] at twice
        obtain ⟨front, back, same, inFront, inBack⟩ := List.sublist_append_iff.1 twice
        have short := inBack.length_le
        rw [List.length_take] at short
        have mem : a ∈ items.take n := by
          cases front with
          | nil =>
              have lengths := congrArg List.length same
              simp only [List.length_cons, List.length_nil, List.nil_append] at lengths
              omega
          | cons first front =>
              obtain ⟨rfl, -⟩ := List.cons.inj same
              exact inFront.subset List.mem_cons_self
        have copies : [a, a].Sublist items := by
          rw [← cut] at twice
          exact twice.trans (List.take_sublist _ _)
        have two := copies.count_le a
        rw [List.count_cons_self, List.count_cons_self] at two
        have one := once a mem
        omega

end Count

end RisingIntelligence
