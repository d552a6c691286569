import RisingIntelligence.Shared.Json
import RisingIntelligence.Shared.JsString

/-!
# Messages of the runtime

JSON text, message bytes, dates and case folding as an interface: the encoders and decoders of the
services are modelled over any implementation.
-/

namespace RisingIntelligence.Js

structure MessageApi where
  /-- `buffer.toString("utf-8")`, for any bytes. -/
  toText : ByteArray → String
  toText_toUTF8 : ∀ text, toText text.toUTF8 = text
  /-- `JSON.stringify(value)` -/
  stringify : Json → String
  /-- `JSON.parse(text)`, with the message of the error it throws. -/
  parse : String → Except String Json
  /-- `new Date(text).getTime()`, `none` for an invalid date. -/
  dateOf : String → Option Int
  toISOString : Int → String
  toLowerCase : String → String

/-- The value comes back from its text. -/
def MessageApi.RoundTrips (api : MessageApi) (value : Json) : Prop :=
  api.parse (api.stringify value) = .ok value

/-- The date comes back from its text. -/
def MessageApi.Writes (api : MessageApi) (time : Int) : Prop :=
  api.dateOf (api.toISOString time) = some time ∧ Js.trim (api.toISOString time) ≠ ""

/-- A text of the basic characters without capitals is in lower case. -/
def MessageApi.KeepsLowerCase (api : MessageApi) : Prop :=
  ∀ text : String, (∀ c ∈ text.toList, c.toNat < 128 ∧ c.isUpper = false) →
    api.toLowerCase text = text

/-! ## Object literals in JSON -/

/-- The fields of an object literal that `JSON.stringify` writes: not those that are `undefined`. -/
def definedFields (fields : List (String × Option Json)) : List (String × Json) :=
  fields.filterMap fun field => field.2.map (field.1, ·)

/-- An object literal as JSON. -/
def Json.ofFields (fields : List (String × Option Json)) : Json := .object (definedFields fields)

theorem lookup_definedFields {fields : List (String × Option Json)}
    (nodup : (fields.map (·.1)).Nodup) (key : String) :
    (definedFields fields).lookup key = (fields.lookup key).bind id := by
  induction fields with
  | nil => rfl
  | cons field fields ih =>
      obtain ⟨fresh, rest⟩ := List.nodup_cons.1 nodup
      obtain ⟨name, value⟩ := field
      rw [List.lookup_cons]
      cases value with
      | none =>
          change (definedFields fields).lookup key = _
          rw [ih rest]
          by_cases same : key = name
          · subst same
            have absent : fields.lookup key = none := by
              rw [List.lookup_eq_none_iff]
              intro other mem
              have there : other.1 ∈ fields.map (·.1) := List.mem_map_of_mem mem
              rw [bne_iff_ne]
              intro equal
              rw [← equal] at there
              exact fresh there
            simp [absent]
          · have differ : (key == name) = false := beq_eq_false_iff_ne.2 same
            rw [differ]
      | some value =>
          change ((name, value) :: definedFields fields).lookup key = _
          rw [List.lookup_cons]
          by_cases same : key = name
          · simp [same]
          · have differ : (key == name) = false := beq_eq_false_iff_ne.2 same
            rw [differ]
            exact ih rest

theorem property_ofFields {fields : List (String × Option Json)}
    (nodup : (fields.map (·.1)).Nodup) (key : String) :
    Schema.property key (Json.ofFields fields) = (fields.lookup key).bind id :=
  lookup_definedFields nodup key

/-- A list of texts as JSON. -/
def Json.ofStrings (texts : List String) : Json := .array (texts.map .string)

/-- A number as JSON, which has no others than the finite ones. -/
def Json.ofDouble : Double → Json
  | .number (.finite value) => .number (.finite value)
  | _ => .null

def finiteNumber : Double → Option Number
  | .number (.finite value) => some (.finite value)
  | _ => none

theorem exists_of_isFinite {value : Double} (finite : value.isFinite = true) :
    ∃ number, value = .number (.finite number) := by
  unfold Double.isFinite at finite
  split at finite
  · exact ⟨_, rfl⟩
  · cases finite

/-! ## Accepted values -/

namespace Schema

variable {α β : Type} {key : String} {schema : Schema β} {value found : Json} {parsed : β}

theorem required_of_property (present : property key value = some found)
    (accepted : schema found = some parsed) : required key schema value = some parsed := by
  unfold required
  rw [present]
  exact accepted

theorem optional_of_property (present : property key value = some found)
    (accepted : schema found = some parsed) : optional key schema value = some (some parsed) := by
  unfold optional
  rw [present]
  exact congrArg (Option.map some) accepted

/-- A part of an object that may be missing. -/
theorem optional_of_part {part : Option α} {toJson : α → Json} {wire : α → β}
    (present : property key value = part.map toJson)
    (accepted : ∀ a, part = some a → schema (toJson a) = some (wire a)) :
    optional key schema value = some (part.map wire) := by
  unfold optional
  rw [present]
  cases part with
  | none => rfl
  | some a => exact congrArg (Option.map some) (accepted a rfl)

/-- A field of an object literal that may be undefined. -/
theorem optional_of_fields {fields : List (String × Option Json)}
    (nodup : (fields.map (·.1)).Nodup) {part : Option α} (toJson : α → Json) {wire : α → β}
    (listed : (fields.lookup key).bind id = part.map toJson)
    (accepted : ∀ a, part = some a → schema (toJson a) = some (wire a)) :
    optional key schema (Json.ofFields fields) = some (part.map wire) :=
  optional_of_part ((property_ofFields nodup key).trans listed) accepted

theorem nonempty_string {text : String} (nonempty : text ≠ "") :
    Schema.nonempty (.string text) = some text := by
  simp [Schema.nonempty, Schema.string, nonempty]

theorem array_map {items : List α} {toJson : α → Json} {wire : α → β}
    (accepted : ∀ item ∈ items, schema (toJson item) = some (wire item)) :
    array schema (.array (items.map toJson)) = some (items.map wire) := by
  change (items.map toJson).mapM schema = _
  induction items with
  | nil => rfl
  | cons item items ih =>
      rw [List.map_cons, List.mapM_cons, accepted item List.mem_cons_self,
        ih fun other mem => accepted other (List.mem_cons_of_mem item mem)]
      rfl

end Schema

@[simp] theorem array_ofStrings (texts : List String) :
    Schema.array Schema.string (Json.ofStrings texts) = some texts := by
  have accepted := @Schema.array_map _ _ Schema.string texts Json.string id fun _ _ => rfl
  rwa [List.map_id] at accepted

/-! ## One known message -/

mutual

/-- The JSON text of a value with whole numbers and texts that need no escapes. -/
def Json.print : Json → String
  | .null => "null"
  | .bool value => if value then "true" else "false"
  | .number (.finite value) => toString value.num
  | .number (.infinite _) => "null"
  | .string value => "\"" ++ value ++ "\""
  | .array items => "[" ++ printItems items ++ "]"
  | .object fields => "\x7b" ++ printFields fields ++ "\x7d"

def Json.printItems : List Json → String
  | [] => ""
  | [item] => item.print
  | item :: items => item.print ++ "," ++ printItems items

def Json.printFields : List (String × Json) → String
  | [] => ""
  | [(name, value)] => "\"" ++ name ++ "\":" ++ value.print
  | (name, value) :: fields => "\"" ++ name ++ "\":" ++ value.print ++ "," ++ printFields fields

end

/-- An implementation that parses the text of one value, and knows the first instant of 2024. -/
def messagesFor (known : Json) : MessageApi where
  toText bytes := (String.fromUTF8? bytes).getD ""
  toText_toUTF8 text := by simp [String.fromUTF8?, String.fromUTF8, text.isValidUTF8]
  stringify := Json.print
  parse text := if text = known.print then .ok known else .error "Unexpected token"
  dateOf text := if text = "2024-01-01T00:00:00.000Z" then some 1704067200000 else none
  toISOString _ := "2024-01-01T00:00:00.000Z"
  toLowerCase value := String.ofList (value.toList.map Char.toLower)

theorem messagesFor_keepsLowerCase (known : Json) : (messagesFor known).KeepsLowerCase := by
  intro text plain
  change String.ofList (text.toList.map Char.toLower) = text
  have same : text.toList.map Char.toLower = text.toList := by
    conv_rhs => rw [← List.map_id text.toList]
    exact List.map_congr_left fun c mem => toLower_eq_self (of_decide_eq_false (plain c mem).2)
  rw [same, String.ofList_toList]

theorem messagesFor_writes (known : Json) : (messagesFor known).Writes 1704067200000 :=
  ⟨rfl, (by decide : Js.trim "2024-01-01T00:00:00.000Z" ≠ "")⟩

theorem messagesFor_roundTrips (known : Json) : (messagesFor known).RoundTrips known :=
  if_pos rfl

end RisingIntelligence.Js
