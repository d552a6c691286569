import RisingIntelligence.Shared.JsMap
import Mathlib.Data.List.Perm.Subperm

/-!
# Selection with a cap for each kind

A walk over a list takes an item unless its kind has as many as the cap already, and defers it then;
at the end, places that are left go to deferred items.  The walk stops when the places are taken.
-/

namespace RisingIntelligence

variable {α κ : Type} [DecidableEq κ]

/-- What the walk has taken, the number it has taken of each kind, and what it has deferred. -/
structure Picks (α κ : Type) where
  taken : List α := []
  counts : List (κ × Nat) := []
  deferred : List α := []

def pick (kind : α → κ) (cap : Nat) (picks : Picks α κ) (item : α) : Picks α κ :=
  let count := (Js.Map.get (kind item) picks.counts).getD 0
  if count < cap then
    { picks with
      taken := picks.taken ++ [item]
      counts := Js.Map.set (kind item) (count + 1) picks.counts }
  else { picks with deferred := picks.deferred ++ [item] }

def pickAll (kind : α → κ) (cap limit : Nat) : List α → Picks α κ → Picks α κ
  | [], picks => picks
  | item :: items, picks =>
      if limit ≤ picks.taken.length then picks
      else pickAll kind cap limit items (pick kind cap picks item)

/-- What is deferred comes after all that is taken, up to the limit. -/
def Picks.filled (picks : Picks α κ) (limit : Nat) : List α :=
  picks.deferred.take (limit - picks.taken.length)

def selectCapped (kind : α → κ) (cap limit : Nat) (items : List α) : List α :=
  let picks := pickAll kind cap limit items {}
  picks.taken ++ picks.filled limit

/-! ## The walk -/

section Walk

variable {kind : α → κ} {cap limit : Nat} {items done rest : List α} {picks : Picks α κ} {item : α}

/-- The walk has come behind `done`. -/
structure Picks.Behind (kind : α → κ) (cap : Nat) (done : List α) (picks : Picks α κ) : Prop where
  taken : picks.taken.Sublist done
  deferred : picks.deferred.Sublist done
  all : done.Perm (picks.taken ++ picks.deferred)
  counts : ∀ k, (Js.Map.get k picks.counts).getD 0 = picks.taken.countP fun item => kind item = k
  within : ∀ k, (picks.taken.countP fun item => kind item = k) ≤ cap
  full : ∀ late ∈ picks.deferred, cap ≤ picks.taken.countP fun item => kind item = kind late

theorem Picks.Behind.start : Picks.Behind kind cap [] {} where
  taken := List.Sublist.refl []
  deferred := List.Sublist.refl []
  all := List.Perm.refl []
  counts _ := rfl
  within _ := Nat.zero_le cap
  full := nofun

theorem countP_kind_concat (k : κ) (items : List α) (item : α) :
    ((items ++ [item]).countP fun item => kind item = k) =
      (items.countP fun item => kind item = k) + if kind item = k then 1 else 0 := by
  rw [List.countP_append, List.countP_singleton]
  simp only [decide_eq_true_eq]

theorem Picks.Behind.pick (behind : picks.Behind kind cap done) (item : α) :
    (pick kind cap picks item).Behind kind cap (done ++ [item]) := by
  unfold RisingIntelligence.pick
  dsimp only
  rw [behind.counts]
  by_cases room : (picks.taken.countP fun other => kind other = kind item) < cap
  · rw [if_pos room]
    constructor
    case taken => exact behind.taken.append (List.Sublist.refl [item])
    case deferred => exact behind.deferred.trans (List.sublist_append_left done [item])
    case all =>
      refine (behind.all.append_right [item]).trans ?_
      rw [List.append_assoc, List.append_assoc]
      exact List.perm_append_comm.append_left picks.taken
    case counts =>
      intro k
      rw [Js.Map.get_set, countP_kind_concat, ← behind.counts k]
      by_cases here : k = kind item
      · rw [if_pos here, if_pos here.symm, here, behind.counts]
        rfl
      · rw [if_neg here, if_neg (Ne.symm here)]
        rfl
    case within =>
      intro k
      rw [countP_kind_concat]
      have before := behind.within k
      split
      · rename_i here
        rw [here] at room
        omega
      · omega
    case full =>
      intro late mem
      rw [countP_kind_concat]
      exact Nat.le_add_right_of_le (behind.full late mem)
  · rw [if_neg room]
    constructor
    case taken => exact behind.taken.trans (List.sublist_append_left done [item])
    case deferred => exact behind.deferred.append (List.Sublist.refl [item])
    case all =>
      rw [← List.append_assoc]
      exact behind.all.append_right [item]
    case counts => exact behind.counts
    case within => exact behind.within
    case full =>
      intro late mem
      rcases List.mem_append.1 mem with before | here
      · exact behind.full late before
      · rw [List.mem_singleton.1 here]
        exact Nat.le_of_not_lt room

theorem length_pick_le (picks : Picks α κ) (item : α) :
    (pick kind cap picks item).taken.length ≤ picks.taken.length + 1 := by
  unfold pick
  dsimp only
  split
  · exact Nat.le_of_eq List.length_append
  · exact Nat.le_succ _

/-- The walk comes to the end of the list, or to the limit. -/
theorem Picks.Behind.pickAll (behind : picks.Behind kind cap done)
    (room : picks.taken.length ≤ limit) :
    (pickAll kind cap limit rest picks).taken.length ≤ limit ∧
      ∃ seen unseen, done ++ rest = seen ++ unseen ∧
        (pickAll kind cap limit rest picks).Behind kind cap seen ∧
        (unseen = [] ∨ (pickAll kind cap limit rest picks).taken.length = limit) := by
  induction rest generalizing done picks with
  | nil => exact ⟨room, done, [], rfl, behind, .inl rfl⟩
  | cons item rest ih =>
      unfold RisingIntelligence.pickAll
      by_cases full : limit ≤ picks.taken.length
      · rw [if_pos full]
        exact ⟨room, done, item :: rest, rfl, behind, .inr (Nat.le_antisymm room full)⟩
      · rw [if_neg full]
        have next : (RisingIntelligence.pick kind cap picks item).taken.length ≤
            picks.taken.length + 1 := length_pick_le picks item
        have walked := ih (behind.pick item) (by omega)
        rwa [List.append_assoc] at walked

end Walk

/-! ## What is selected -/

/-- `taken` and `filled` are selected of the items. -/
structure Capped (kind : α → κ) (cap limit : Nat) (items taken filled : List α) : Prop where
  length : (taken ++ filled).length = min limit items.length
  subperm : (taken ++ filled).Subperm items
  sublist : taken.Sublist items
  filledSublist : filled.Sublist items
  within : ∀ k, (taken.countP fun item => kind item = k) ≤ cap
  late : ∀ item ∈ filled, cap ≤ taken.countP fun other => kind other = kind item
  /-- A place is filled where the kinds of all items that are not taken are at the cap. -/
  needed : filled ≠ [] → ∀ item ∈ items, item ∉ taken →
    cap ≤ taken.countP fun other => kind other = kind item

theorem selectCapped_spec (kind : α → κ) (cap limit : Nat) (items : List α) :
    ∃ taken filled, selectCapped kind cap limit items = taken ++ filled ∧
      Capped kind cap limit items taken filled := by
  have start : ({} : Picks α κ).Behind kind cap [] := .start
  have walked : (pickAll kind cap limit items {}).taken.length ≤ limit ∧
      ∃ seen unseen, [] ++ items = seen ++ unseen ∧
        (pickAll kind cap limit items {}).Behind kind cap seen ∧
        (unseen = [] ∨ (pickAll kind cap limit items {}).taken.length = limit) :=
    start.pickAll (Nat.zero_le limit)
  obtain ⟨room, seen, unseen, split, behind, ended⟩ := walked
  refine ⟨_, _, rfl, ?_⟩
  generalize pickAll kind cap limit items {} = picks at room behind ended
  rw [List.nil_append] at split
  have seenLength := behind.all.length_eq
  rw [List.length_append] at seenLength
  have itemsLength : items.length = seen.length + unseen.length := by
    rw [split, List.length_append]
  have inItems : seen.Sublist items := split ▸ List.sublist_append_left seen unseen
  have some_left : picks.filled limit ≠ [] → picks.taken.length < limit := by
    intro filled
    refine Nat.lt_of_not_le fun full => filled ?_
    unfold Picks.filled
    rw [Nat.sub_eq_zero_of_le full, List.take_zero]
  constructor
  case length =>
    unfold Picks.filled
    rw [List.length_append, List.length_take]
    rcases ended with rfl | full
    · rw [List.length_nil] at itemsLength
      omega
    · omega
  case subperm =>
    have kept : (picks.taken ++ picks.filled limit).Sublist (picks.taken ++ picks.deferred) :=
      (List.take_sublist _ _).append_left picks.taken
    exact (kept.subperm.trans behind.all.symm.subperm).trans inItems.subperm
  case sublist => exact behind.taken.trans inItems
  case filledSublist => exact (List.take_sublist _ _).trans (behind.deferred.trans inItems)
  case within => exact behind.within
  case late =>
    intro item mem
    exact behind.full item (List.mem_of_mem_take mem)
  case needed =>
    intro filled item mem untaken
    have notFull := some_left filled
    rcases ended with rfl | full
    · rw [List.append_nil] at split
      rw [split] at mem
      exact behind.full item ((List.mem_append.1 (behind.all.mem_iff.1 mem)).resolve_left untaken)
    · omega

end RisingIntelligence
