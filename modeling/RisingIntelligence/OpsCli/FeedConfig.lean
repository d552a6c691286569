import RisingIntelligence.Pipeline.Source
import RisingIntelligence.Shared.JsArray
import RisingIntelligence.Shared.Message
import RisingIntelligence.Shared.Throws

/-!
# Flags and feed configs

`packages/ops-cli/src/lib/flags.ts`, and the topic globs that `riops brief trigger` takes from feed
config files, `packages/ops-cli/src/commands/brief/feed-config.ts`.
-/

namespace RisingIntelligence.OpsCli

open Js (Json MessageApi)

/-! ## Flags -/

inductive CliFlagValue : Type
  | text (value : String)
  | bool (value : Bool)
  | texts (values : List String)

abbrev CliFlags : Type := List (String × CliFlagValue)

/-- The last value of a flag that is repeated. -/
def getStringFlag (flags : CliFlags) (name : String) : Option String :=
  match flags.lookup name with
  | some (.text value) => some value
  | some (.texts values) => values.getLast?
  | _ => none

def getBooleanFlag (flags : CliFlags) (name : String) : Bool :=
  match flags.lookup name with
  | some (.bool value) => value
  | _ => false

def getRepeatedStringFlag (flags : CliFlags) (name : String) : List String :=
  match flags.lookup name with
  | some (.text value) => [value]
  | some (.texts values) => values
  | _ => []

/-- `rawValue.split(",")`, trimmed and without the empty ones. -/
def commaSeparated (rawValue : String) : List String :=
  ((Js.split ',' rawValue).map Js.trim).filter (· ≠ "")

/-! ## The runtime -/

/-- What the command reads beside its flags, and the conversions of the language. -/
structure TriggerRuntime extends MessageApi where
  /-- `process.env` -/
  env : String → Option String
  /-- `readFileSync(path, "utf-8")`, `none` where it throws. -/
  readFile : String → Option String
  /-- `parse` of `yaml`, with the message of the error it throws. -/
  parseYaml : String → Except String Json
  /-- `Number(text)` -/
  toNumber : String → Js.Double
  /-- What `Intl.DateTimeFormat` accepts. -/
  isTimeZone : String → Bool
  /-- `Date.now()` -/
  now : Int

/-- A blank variable counts as unset. -/
def getEnvString (runtime : TriggerRuntime) (name : String) : Option String :=
  (runtime.env name).filter fun value => Js.trim value ≠ ""

/-- What the command throws before it sends anything. -/
inductive TriggerError : Type
  | invalidNumber (key rawValue : String)
  | positiveInteger (key : String) (value : ℚ)
  | negative (key : String) (value : ℚ)
  | requestType (rawType : String)
  | windowText (rawValue : String)
  | window (parsed : Js.Double)
  | windows (rawValue : String)
  | invalidDate (rawValue : String)
  | invalidDateFlag (flagName rawValue : String)
  | timezone (rawValue : String)
  | emptyTopicGlobs
  | topicGlob (glob : String)
  | feedConfigPath (path : String)
  | feedConfigYaml (path message : String)
  | evidenceStrategy (rawValue : String)
  | llmProvider (rawValue : String)
  | source (error : SourceError)
  | kafkaBrokers
  | lookbackDays (days most : Int)
  | reportBounds
  | explicitMode
  | queryWindows

/-! ## Topic globs -/

/-- `TOPIC_GLOB_PATTERN`, for one character. -/
def isTopicGlobChar (c : Char) : Bool := c.isAlphanum || ['.', '*', '?', '_', '-'].contains c

def checkTopicGlob (glob : String) : Except TriggerError String :=
  if glob.toList.all isTopicGlobChar then .ok glob else .error (.topicGlob glob)

def normalizeTopicGlobs (topicGlobs : List String) : Except TriggerError (List String) :=
  (((topicGlobs.map Js.trim).filter (· ≠ "")).mapM checkTopicGlob).map Js.distinct

structure TopicCollection where
  topics : List String
  warnings : List String

/-- The topics of a node, or a warning where it has none. -/
def TopicCollection.add (collection : TopicCollection) (location : String) (topicsValue : List Json) :
    TopicCollection :=
  let normalized := (topicsValue.map fun entry => Js.trim ((Js.Schema.string entry).getD "")).filter
    (· ≠ "")
  if normalized = [] then
    { collection with
      warnings := collection.warnings ++ ["Ignoring empty topics array at " ++ location ++ ".topics"] }
  else { collection with topics := collection.topics ++ normalized }

mutual

def collectTopicsFromNode (location : String) : Json → TopicCollection → TopicCollection
  | .array items, collection => collectTopicsFromItems location 0 items collection
  | .object fields, collection =>
      collectTopicsFromFields location fields
        (match fields.lookup "topics" with
        | some (.array topicsValue) => collection.add location topicsValue
        | _ => collection)
  | _, collection => collection

def collectTopicsFromItems (location : String) (index : Nat) :
    List Json → TopicCollection → TopicCollection
  | [], collection => collection
  | item :: items, collection =>
      collectTopicsFromItems location (index + 1) items
        (collectTopicsFromNode (location ++ "[" ++ toString index ++ "]") item collection)

def collectTopicsFromFields (location : String) :
    List (String × Json) → TopicCollection → TopicCollection
  | [], collection => collection
  | (key, value) :: fields, collection =>
      collectTopicsFromFields location fields
        (if key = "topics" then collection
        else collectTopicsFromNode (location ++ "." ++ key) value collection)

end

/-- One file of the loop. -/
def collectTopicsFromFile (runtime : TriggerRuntime) (collection : TopicCollection) (path : String) :
    Except TriggerError TopicCollection :=
  match runtime.readFile path with
  | none => .error (.feedConfigPath path)
  | some content =>
      match runtime.parseYaml content with
      | .error message => .error (.feedConfigYaml path message)
      | .ok parsed => .ok (collectTopicsFromNode path parsed collection)

def collectTopics (runtime : TriggerRuntime) (feedConfigPaths : List String) :
    Except TriggerError TopicCollection :=
  ((feedConfigPaths.map Js.trim).filter (· ≠ "")).foldlM (collectTopicsFromFile runtime) ⟨[], []⟩

/-- The globs and the warnings. -/
def deriveTopicGlobsFromFeedConfigs (runtime : TriggerRuntime) (feedConfigPaths : List String) :
    Except TriggerError (List String × List String) := do
  let collection ← collectTopics runtime feedConfigPaths
  let topicGlobs ← normalizeTopicGlobs collection.topics
  return (topicGlobs, collection.warnings)

/-! ## What is normalized -/

section Normalized

variable {topicGlobs globs : List String} {glob : String}

/-- The glob is one of the texts, without the blanks around it. -/
def Names (given : List String) (glob : String) : Prop :=
  glob ≠ "" ∧ ∃ text ∈ given, Js.trim text = glob

theorem names_append {first second : List String} :
    Names (first ++ second) glob ↔ Names first glob ∨ Names second glob := by
  unfold Names
  simp only [List.mem_append]
  grind

/-- What was normalized names the same when it is normalized again. -/
theorem names_of_mem_iff (named : ∀ glob, glob ∈ globs ↔ Names topicGlobs glob) :
    Names globs glob ↔ Names topicGlobs glob := by
  constructor
  · intro again
    obtain ⟨nonempty, text, mem, rfl⟩ := again
    obtain ⟨-, given, there, rfl⟩ := (named text).1 mem
    exact ⟨nonempty, given, there, (Js.trim_trim given).symm⟩
  · intro names
    have trimmed : Js.trim glob = glob := by
      obtain ⟨-, given, -, rfl⟩ := names
      exact Js.trim_trim given
    exact ⟨names.1, glob, (named glob).2 names, trimmed⟩

theorem mapM_checkTopicGlob (checked : globs.mapM checkTopicGlob = .ok topicGlobs) :
    topicGlobs = globs ∧ ∀ glob ∈ globs, glob.toList.all isTopicGlobChar = true := by
  have pairs := mapM_eq_ok.1 checked
  induction pairs with
  | nil => exact ⟨rfl, nofun⟩
  | cons first rest ih =>
      obtain ⟨same, valid⟩ := ih (mapM_eq_ok.2 rest)
      unfold checkTopicGlob at first
      split at first
      · rename_i letters
        obtain rfl := Except.ok.inj first
        rw [List.forall_mem_cons]
        exact ⟨congrArg _ same, letters, valid⟩
      · cases first

/-- What is accepted is trimmed, not empty, has the characters of a glob and is there once. -/
theorem normalizeTopicGlobs_eq_ok (normalized : normalizeTopicGlobs topicGlobs = .ok globs) :
    globs = Js.distinct ((topicGlobs.map Js.trim).filter (· ≠ "")) ∧
      ∀ glob ∈ globs, Js.trim glob = glob ∧ glob ≠ "" ∧ glob.toList.all isTopicGlobChar = true := by
  unfold normalizeTopicGlobs at normalized
  obtain ⟨checked, each, rfl⟩ := map_eq_ok.1 normalized
  obtain ⟨rfl, valid⟩ := mapM_checkTopicGlob each
  refine ⟨rfl, ?_⟩
  intro glob mem
  rw [Js.mem_distinct] at mem
  obtain ⟨trimmed, nonempty⟩ := List.mem_filter.1 mem
  obtain ⟨given, -, rfl⟩ := List.mem_map.1 trimmed
  exact ⟨Js.trim_trim given, of_decide_eq_true nonempty, valid _ mem⟩

theorem mem_normalizeTopicGlobs (normalized : normalizeTopicGlobs topicGlobs = .ok globs) :
    glob ∈ globs ↔ Names topicGlobs glob := by
  unfold Names
  rw [(normalizeTopicGlobs_eq_ok normalized).1, Js.mem_distinct, List.mem_filter, List.mem_map,
    decide_eq_true_eq, and_comm]

theorem commaSeparated_eq_singleton (nonempty : glob ≠ "")
    (plain : ∀ c ∈ glob.toList, Js.isWhitespace c = false ∧ c ≠ ',') :
    commaSeparated glob = [glob] := by
  have whole : ',' ∉ glob.toList := by
    intro mem
    exact (plain _ mem).2 rfl
  have trimmed := Js.trim_eq_self fun c mem => (plain c mem).1
  unfold commaSeparated Js.split
  rw [List.splitOn_eq_singleton whole, List.map_singleton, String.ofList_toList, List.map_singleton,
    trimmed]
  simp [nonempty]

theorem normalizeTopicGlobs_singleton (nonempty : glob ≠ "")
    (blank : ∀ c ∈ glob.toList, Js.isWhitespace c = false)
    (valid : glob.toList.all isTopicGlobChar = true) : normalizeTopicGlobs [glob] = .ok [glob] := by
  have checked : [glob].mapM checkTopicGlob = .ok [glob] := by
    rw [List.mapM_cons, List.mapM_nil]
    unfold checkTopicGlob
    rw [if_pos valid]
    rfl
  have kept : [glob].filter (· ≠ "") = [glob] := by
    simp [nonempty]
  unfold normalizeTopicGlobs
  rw [List.map_singleton, Js.trim_eq_self blank, kept, checked]
  rfl

end Normalized

end RisingIntelligence.OpsCli
