import Mathlib.Algebra.Order.Ring.Unbundled.Rat

/-!
# Parsed JSON and object literals

What `JSON.parse` can return, the schema combinators the services check it with, and property
lookup on plain object literals.

* A numeral may overflow, so `Number` has the two infinities; it never is NaN.
* A schema maps a value to what it parses it to; `none` is a validation error.
* A lookup on an object literal also finds the names every object inherits from
  `Object.prototype`; whatever it finds there is truthy and is not an entry of the literal.
-/

namespace RisingIntelligence.Js

/-! ## Values -/

/-- A number a numeral can denote, with finite ones exact. -/
inductive Number : Type
  | finite (value : ℚ)
  | infinite (negative : Bool)
  deriving DecidableEq

/-- `Number.isInteger`, as the integer. -/
def Number.integer? : Number → Option Int
  | .finite value => if value.den = 1 then some value.num else none
  | .infinite _ => none

/-- Any number of the language, `NaN` included. -/
inductive Double : Type
  | nan
  | number (value : Number)
  deriving DecidableEq

/-- A whole number. -/
def Double.ofInt (value : Int) : Double := .number (.finite value)

/-- `Number.isFinite` -/
def Double.isFinite : Double → Bool
  | .number (.finite _) => true
  | _ => false

inductive Json : Type
  | null
  | bool (value : Bool)
  | number (value : Number)
  | string (value : String)
  | array (items : List Json)
  | object (fields : List (String × Json))

/-! ## Schemas -/

abbrev Schema (α : Type) : Type := Json → Option α

namespace Schema

variable {α β : Type}

/-- `z.string()` -/
def string : Schema String
  | .string value => some value
  | _ => none

/-- `z.string().min(1)` -/
def nonempty : Schema String := fun value =>
  (string value).filter fun text => text ≠ ""

/-- `z.number()` -/
def number : Schema Number
  | .number value => some value
  | _ => none

/-- `z.number().int()` -/
def int : Schema Int := fun value => (number value).bind Number.integer?

/-- `z.union([..])`, tried in order. -/
def union (first : Schema α) (second : Schema β) : Schema (α ⊕ β) := fun value =>
  ((first value).map .inl).orElse fun _ => (second value).map .inr

/-- `z.array(..)` -/
def array (item : Schema α) : Schema (List α)
  | .array items => items.mapM item
  | _ => none

/-- A property of a parsed object; `undefined` where it is missing or the value is no object. -/
def property (key : String) : Json → Option Json
  | .object fields => fields.lookup key
  | _ => none

/-- A required property of `z.object`. -/
def required (key : String) (schema : Schema α) : Schema α := fun value =>
  (property key value).bind schema

/-- A property with `.optional()`: missing is fine, any other value must satisfy the schema. -/
def optional (key : String) (schema : Schema α) : Schema (Option α) := fun value =>
  match property key value with
  | none => some none
  | some found => (schema found).map some

/-- `z.object` refuses anything that is not an object. -/
def isObject : Json → Bool
  | .object _ => true
  | _ => false

end Schema

/-! ## Object literals -/

/-- The property names of `Object.prototype`. -/
def prototypeKeys : List String :=
  ["constructor", "__defineGetter__", "__defineSetter__", "hasOwnProperty", "__lookupGetter__",
    "__lookupSetter__", "isPrototypeOf", "propertyIsEnumerable", "toString", "valueOf",
    "__proto__", "toLocaleString"]

/-- A value read out of an object literal: an entry, or something inherited under the key. -/
inductive Keyed (α : Type) : Type
  | own (value : α)
  | inherited (key : String)
  deriving DecidableEq

/-- `TABLE[key]` for a literal with the given entries; `none` is `undefined`. -/
def lookup {α : Type} (entries : List (String × α)) (key : String) : Option (Keyed α) :=
  match entries.lookup key with
  | some value => some (.own value)
  | none => if key ∈ prototypeKeys then some (.inherited key) else none

/-- What a literal without prototype names answers is its own unless the name is one of them. -/
theorem lookup_own_iff {α : Type} {entries : List (String × α)} {key : String} {found : Keyed α}
    (apart : ∀ entry ∈ entries, entry.1 ∉ prototypeKeys) (answer : lookup entries key = some found) :
    (∃ value, found = .own value) ↔ key ∉ prototypeKeys := by
  unfold lookup at answer
  cases there : entries.lookup key with
  | some value =>
      rw [there] at answer
      cases answer
      obtain ⟨before, after, same, -⟩ := List.lookup_eq_some_iff.1 there
      have fresh := apart (key, value) (by rw [same]; simp)
      exact iff_of_true ⟨value, rfl⟩ fresh
  | none =>
      rw [there] at answer
      dsimp only at answer
      split at answer
      · rename_i known
        cases answer
        constructor
        · intro own
          obtain ⟨value, same⟩ := own
          cases same
        · intro fresh
          exact absurd known fresh
      · cases answer

theorem mem_of_lookup_own {α : Type} {entries : List (String × α)} {key : String} {value : α}
    (answer : lookup entries key = some (.own value)) : (key, value) ∈ entries := by
  unfold lookup at answer
  cases there : entries.lookup key with
  | some other =>
      rw [there] at answer
      cases answer
      obtain ⟨before, after, same, -⟩ := List.lookup_eq_some_iff.1 there
      rw [same]
      simp
  | none =>
      rw [there] at answer
      dsimp only at answer
      split at answer <;> cases answer

end RisingIntelligence.Js
