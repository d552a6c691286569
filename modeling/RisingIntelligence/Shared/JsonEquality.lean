import Mathlib.Data.List.Perm.Subperm
import RisingIntelligence.Shared.JsArray
import RisingIntelligence.Shared.JsMap
import RisingIntelligence.Shared.Json

/-!
# Equal JSON values

`isDeepStrictEqual` of the runtime, beside a notion of equality that does not follow a comparison:
two values are alike where each path of keys and places ends alike in both, whatever the order of the
properties.

`isDeepStrictEqual.alike`: what is compared as equal is alike.
-/

namespace RisingIntelligence.Js

/-! ## Comparing -/

/-- `Object.keys` -/
def objectKeys (fields : List (String × Json)) : List String := distinct (fields.map (·.1))

mutual

/-- `isDeepStrictEqual` on what `JSON.parse` returns. -/
def isDeepStrictEqual : Json → Json → Bool
  | .null, .null => true
  | .bool value, .bool other => value == other
  | .number value, .number other => value == other
  | .string value, .string other => value == other
  | .array items, .array others => sameItems items others
  | .object fields, .object others =>
      (objectKeys fields).length == (objectKeys others).length && sameFields fields others
  | _, _ => false

def sameItems : List Json → List Json → Bool
  | [], [] => true
  | item :: items, other :: others => isDeepStrictEqual item other && sameItems items others
  | _, _ => false

def sameFields : List (String × Json) → List (String × Json) → Bool
  | [], _ => true
  | (key, value) :: fields, others =>
      (match others.lookup key with
      | some other => isDeepStrictEqual value other
      | none => false) && sameFields fields others

end

/-! ## Paths -/

namespace Json

/-- What a value is without what it contains. -/
inductive Kind : Type
  | null
  | bool (value : Bool)
  | number (value : Number)
  | string (value : String)
  | array
  | object

def kind : Json → Kind
  | .null => .null
  | .bool value => .bool value
  | .number value => .number value
  | .string value => .string value
  | .array _ => .array
  | .object _ => .object

/-- A step into a value: to a property, or to a place of an array. -/
def step : Json → String ⊕ ℕ → Option Json
  | .object fields, .inl key => fields.lookup key
  | .array items, .inr place => items[place]?
  | _, _ => none

/-- What stands at the end of a path. -/
def follow (value : Json) : List (String ⊕ ℕ) → Option Json
  | [] => some value
  | next :: path => (value.step next).bind fun found => found.follow path

/-- The values are the same but for the order of properties. -/
def Alike (value other : Json) : Prop :=
  ∀ path, (value.follow path).map kind = (other.follow path).map kind

theorem Alike.refl (value : Json) : Alike value value := fun _ => rfl

end Json

/-! ## What is equal is alike -/

/-- Both are absent, or equal. -/
abbrev EqualIfAny : Option Json → Option Json → Prop :=
  Option.Rel fun value other => isDeepStrictEqual value other = true

theorem sameItems_getElem? {items others : List Json} (same : sameItems items others = true)
    (place : ℕ) : EqualIfAny items[place]? others[place]? := by
  induction items generalizing others place with
  | nil =>
      cases others with
      | nil => exact .none
      | cons other others => cases same
  | cons item items ih =>
      cases others with
      | nil => cases same
      | cons other others =>
          obtain ⟨first, rest⟩ := Bool.and_eq_true_iff.1 same
          cases place with
          | zero => exact .some first
          | succ place => exact ih rest place

theorem mem_sameFields {fields others : List (String × Json)} (same : sameFields fields others = true)
    {key : String} {value : Json} (member : (key, value) ∈ fields) :
    ∃ other, others.lookup key = some other ∧ isDeepStrictEqual value other = true := by
  induction fields with
  | nil => cases member
  | cons first fields ih =>
      obtain ⟨own, rest⟩ := Bool.and_eq_true_iff.1 same
      rcases List.mem_cons.1 member with here | later
      · subst here
        dsimp only at own
        split at own
        next other found => exact ⟨other, found, own⟩
        next => cases own
      · exact ih rest later

theorem mem_objectKeys {fields : List (String × Json)} {key : String} :
    key ∈ objectKeys fields ↔ ∃ value, fields.lookup key = some value := by
  unfold objectKeys
  rw [mem_distinct, ← Option.isSome_iff_exists, List.lookup_isSome_iff, List.mem_map]
  simp only [beq_iff_eq, @eq_comm _ key]

/-- Objects with as many keys have the same ones. -/
theorem sameFields_lookup {fields others : List (String × Json)}
    (same : sameFields fields others = true)
    (counted : (objectKeys fields).length = (objectKeys others).length) (key : String) :
    EqualIfAny (fields.lookup key) (others.lookup key) := by
  have among : objectKeys fields ⊆ objectKeys others := by
    intro key member
    obtain ⟨value, found⟩ := mem_objectKeys.1 member
    obtain ⟨other, found', _⟩ := mem_sameFields same (Map.mem_of_get found)
    exact mem_objectKeys.2 ⟨other, found'⟩
  have keys : (objectKeys fields).Perm (objectKeys others) :=
    (List.subperm_of_subset (nodup_distinct _) among).perm_of_length_le counted.ge
  cases found : fields.lookup key with
  | some value =>
      obtain ⟨other, found', equal⟩ := mem_sameFields same (Map.mem_of_get found)
      rw [found']
      exact .some equal
  | none =>
      cases found' : others.lookup key with
      | none => exact .none
      | some other =>
          obtain ⟨value, there⟩ := mem_objectKeys.1 (keys.mem_iff.2 (mem_objectKeys.2 ⟨other, found'⟩))
          exact nomatch found.symm.trans there

/-- One step leads to equal values, or from neither anywhere. -/
theorem isDeepStrictEqual.step {value other : Json} (equal : isDeepStrictEqual value other = true)
    (next : String ⊕ ℕ) : EqualIfAny (value.step next) (other.step next) := by
  unfold isDeepStrictEqual at equal
  split at equal
  · exact .none
  · exact .none
  · exact .none
  · exact .none
  · rcases next with key | place
    · exact .none
    · exact sameItems_getElem? equal place
  · obtain ⟨counted, same⟩ := Bool.and_eq_true_iff.1 equal
    rcases next with key | place
    · exact sameFields_lookup same (beq_iff_eq.1 counted) key
    · exact .none
  · cases equal

theorem isDeepStrictEqual.kind {value other : Json} (equal : isDeepStrictEqual value other = true) :
    value.kind = other.kind := by
  unfold isDeepStrictEqual at equal
  split at equal
  · rfl
  · exact congrArg Json.Kind.bool (beq_iff_eq.1 equal)
  · exact congrArg Json.Kind.number (beq_iff_eq.1 equal)
  · exact congrArg Json.Kind.string (beq_iff_eq.1 equal)
  · rfl
  · rfl
  · cases equal

theorem isDeepStrictEqual.alike {value other : Json} (equal : isDeepStrictEqual value other = true) :
    value.Alike other := by
  intro path
  induction path generalizing value other with
  | nil => exact congrArg some (isDeepStrictEqual.kind equal)
  | cons next path ih =>
      unfold Json.follow
      generalize found : value.step next = left, found' : other.step next = right
      have there : EqualIfAny left right := by
        rw [← found, ← found']
        exact isDeepStrictEqual.step equal next
      cases there with
      | some equal => exact ih equal
      | none => rfl

end RisingIntelligence.Js
