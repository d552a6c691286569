import RisingIntelligence.OpsCli.FeedConfig
import RisingIntelligence.Shared.JsMap
import RisingIntelligence.Shared.Json

/-!
# Arguments of the command line

`parseArgs` of `packages/ops-cli/src/lib/args.ts`.  The flags are an object literal, so a flag that is
named like a property of `Object.prototype` finds what is inherited, and what is assigned to
`__proto__` is lost.

* `parseTokens_eq` reads the loop as a list of effects, one for each flag and each word.
* `getRepeatedStringFlag_apply` and `words_apply`: an effect adds to what a flag holds and to the
  command, and takes nothing back.
-/

namespace RisingIntelligence.OpsCli

inductive ParsedArgs : Type
  | help
  | command (command : List String) (flags : CliFlags)

/-- `flags[key] = value`.  The setter of `__proto__` ignores what is no object; an array is never
assigned there, since nothing is ever found. -/
def assign (key : String) (value : CliFlagValue) (flags : CliFlags) : CliFlags :=
  if key = "__proto__" then flags else Js.Map.set key value flags

/-- What `setFlag` makes of what it finds. -/
def setFlag (key : String) (value : String ⊕ Bool) (flags : CliFlags) : CliFlags :=
  match value, Js.lookup flags key with
  | .inl text, some (.own (.texts values)) => assign key (.texts (values ++ [text])) flags
  | .inl text, some (.own (.text first)) => assign key (.texts [first, text]) flags
  | .inl text, _ => assign key (.text text) flags
  | .inr _, some (.own (.texts _)) => flags
  | .inr _, some (.own (.text _)) => flags
  | .inr value, _ => assign key (.bool value) flags

/-- `token.slice(2).split("=", 2)` -/
def splitFlag (token : String) : String × Option String :=
  match (Js.split '=' (String.ofList (token.toList.drop 2))).take 2 with
  | rawKey :: rawValue :: _ => (rawKey, some rawValue)
  | [rawKey] => (rawKey, none)
  | [] => ("", none)

/-- What the loop takes a token for. -/
inductive Token : Type
  | word
  | blank
  | assigned (key rawValue : String)
  | bare (key : String)

@[irreducible] def readToken (token : String) : Token :=
  if !Js.startsWith token "--" then .word
  else
    let key := Js.trim (splitFlag token).1
    if key = "" then .blank
    else
      match (splitFlag token).2 with
      | some rawValue => .assigned key rawValue
      | none => .bare key

/-- `next && !next.startsWith("--")` -/
@[irreducible] def isValue (next : String) : Bool :=
  decide (next ≠ "") && !Js.startsWith next "--"

/-- The loop over the tokens. -/
def parseTokens : List String → List String × CliFlags → List String × CliFlags
  | [], state => state
  | token :: rest, (command, flags) =>
      match readToken token with
      | .word => parseTokens rest (command ++ [token], flags)
      | .blank => parseTokens rest (command, flags)
      | .assigned key rawValue => parseTokens rest (command, setFlag key (.inl rawValue) flags)
      | .bare key =>
          match rest with
          | next :: later =>
              if isValue next then parseTokens later (command, setFlag key (.inl next) flags)
              else parseTokens (next :: later) (command, setFlag key (.inr true) flags)
          | [] => (command, setFlag key (.inr true) flags)

def parseArgs (argv : List String) : ParsedArgs :=
  if argv = [] then .help
  else if argv.contains "-h" || argv.contains "--help" then .help
  else
    let parsed := parseTokens argv ([], [])
    .command parsed.1 parsed.2

/-- The same command, and the same value of every flag. -/
def ParsedArgs.Same : ParsedArgs → ParsedArgs → Prop
  | .help, .help => True
  | .command words flags, .command words' flags' =>
      words = words' ∧ ∀ key, Js.Map.get key flags = Js.Map.get key flags'
  | _, _ => False

/-! ## Effects -/

/-- What the loop does with a token, or with a flag and its value. -/
inductive Effect : Type
  | word (token : String)
  | flag (key : String) (value : String ⊕ Bool)

def Effect.apply (state : List String × CliFlags) : Effect → List String × CliFlags
  | .word token => (state.1 ++ [token], state.2)
  | .flag key value => (state.1, setFlag key value state.2)

/-- The effects of the tokens. -/
def effects : List String → List Effect
  | [] => []
  | token :: rest =>
      match readToken token with
      | .word => .word token :: effects rest
      | .blank => effects rest
      | .assigned key rawValue => .flag key (.inl rawValue) :: effects rest
      | .bare key =>
          match rest with
          | next :: later =>
              if isValue next then .flag key (.inl next) :: effects later
              else .flag key (.inr true) :: effects (next :: later)
          | [] => [.flag key (.inr true)]

theorem parseTokens_eq (tokens : List String) (state : List String × CliFlags) :
    parseTokens tokens state = (effects tokens).foldl Effect.apply state := by
  fun_induction parseTokens tokens state with
  | case1 state => rfl
  | case2 token rest command flags word ih =>
      rw [effects, word, ih]
      rfl
  | case3 token rest command flags blank ih => rw [effects, blank, ih]
  | case4 token rest command flags key rawValue assigned ih =>
      rw [effects, assigned, ih]
      rfl
  | case5 token command flags key bare next later value ih =>
      rw [effects, bare]
      dsimp only
      rw [if_pos value, ih]
      rfl
  | case6 token command flags key bare next later other ih =>
      rw [effects, bare]
      dsimp only
      rw [if_neg other, ih]
      rfl
  | case7 token command flags key bare =>
      rw [effects, bare]
      rfl

section Effects

variable {token key : String} {before rest : List String} {flags : CliFlags}
  {value : String ⊕ Bool}

theorem readToken_of_word (word : Js.startsWith token "--" = false) : readToken token = .word := by
  rw [readToken, if_pos (by rw [word]; rfl)]

theorem isValue_eq (nonempty : token ≠ "") (word : Js.startsWith token "--" = false) :
    isValue token = true := by
  rw [isValue, word, decide_eq_true nonempty]
  rfl

theorem isValue_of_flag (flag : Js.startsWith token "--" = true) : isValue token = false := by
  rw [isValue, flag, Bool.not_true, Bool.and_false]

/-- A flag is read whatever comes before it: no flag takes it for its value. -/
theorem effects_append (flag : Js.startsWith token "--" = true) (before rest : List String) :
    effects (before ++ token :: rest) = effects before ++ effects (token :: rest) := by
  fun_induction effects before with
  | case1 => rfl
  | case2 first before word ih => rw [List.cons_append, effects, word, ih, List.cons_append]
  | case3 first before blank ih => rw [List.cons_append, effects, blank, ih]
  | case4 first before key rawValue assigned ih =>
      rw [List.cons_append, effects, assigned, ih, List.cons_append]
  | case5 first key bare next later value ih =>
      rw [List.cons_append, List.cons_append, effects, bare]
      dsimp only
      rw [if_pos value, ih, List.cons_append]
  | case6 first key bare next later other ih =>
      rw [List.cons_append, List.cons_append, effects, bare]
      dsimp only
      rw [if_neg other, List.cons_append, ← ih, List.cons_append]
  | case7 first key bare =>
      rw [List.singleton_append, effects, bare]
      dsimp only
      rw [if_neg (by rw [isValue_of_flag flag]; exact Bool.false_ne_true)]
      rfl

theorem getRepeatedStringFlag_congr {flags' : CliFlags}
    (same : Js.Map.get key flags = Js.Map.get key flags') :
    getRepeatedStringFlag flags key = getRepeatedStringFlag flags' key := by
  unfold Js.Map.get at same
  rw [getRepeatedStringFlag, getRepeatedStringFlag, same]

def Effect.texts (key : String) : Effect → List String
  | .flag own (.inl text) => if own = key then [text] else []
  | _ => []

def Effect.words : Effect → List String
  | .word token => [token]
  | .flag .. => []

theorem get_assign {other : String} {value : CliFlagValue} (named : key ≠ "__proto__") :
    Js.Map.get other (assign key value flags) =
      if other = key then some value else Js.Map.get other flags := by
  rw [assign, if_neg named, Js.Map.get_set]

theorem get_setFlag_of_ne {other : String} (differ : other ≠ key) :
    Js.Map.get other (setFlag key value flags) = Js.Map.get other flags := by
  have kept : ∀ value, Js.Map.get other (assign key value flags) = Js.Map.get other flags := by
    intro value
    unfold assign
    split
    · rfl
    · rw [Js.Map.get_set, if_neg differ]
  unfold setFlag
  split
  · exact kept _
  · exact kept _
  · exact kept _
  · rfl
  · rfl
  · exact kept _

theorem lookup_of_get {found : Option CliFlagValue} (get : Js.Map.get key flags = found) :
    Js.lookup flags key = found.elim
      (if key ∈ Js.prototypeKeys then some (.inherited key) else none) fun value =>
        some (.own value) := by
  have same : flags.lookup key = found := get
  unfold Js.lookup
  rw [same]
  cases found <;> rfl

/-- A flag keeps the texts that it has, and a text is added at the end. -/
theorem getRepeatedStringFlag_setFlag (named : key ≠ "__proto__") :
    getRepeatedStringFlag (setFlag key value flags) key =
      getRepeatedStringFlag flags key ++ (Effect.flag key value).texts key := by
  have set : ∀ value : CliFlagValue, (assign key value flags).lookup key = some value := by
    intro value
    have found := @get_assign key flags key value named
    rwa [if_pos rfl] at found
  unfold getRepeatedStringFlag setFlag Effect.texts
  cases found : Js.Map.get key flags with
  | none =>
      have own : flags.lookup key = none := found
      rw [lookup_of_get found, own]
      cases value <;> by_cases inherited : key ∈ Js.prototypeKeys <;> simp [inherited, set]
  | some given =>
      have own : flags.lookup key = some given := found
      rw [lookup_of_get found, own]
      cases given <;> cases value <;> simp [set, own]

theorem getRepeatedStringFlag_apply (proto : key ≠ "__proto__") (effect : Effect)
    (state : List String × CliFlags) :
    getRepeatedStringFlag (effect.apply state).2 key =
      getRepeatedStringFlag state.2 key ++ effect.texts key := by
  cases effect with
  | word token => exact (List.append_nil _).symm
  | flag own value =>
      by_cases same : own = key
      · rw [same]
        exact getRepeatedStringFlag_setFlag proto
      · have kept : Js.Map.get key (setFlag own value state.2) = Js.Map.get key state.2 :=
          get_setFlag_of_ne fun equal => same equal.symm
        have none : (Effect.flag own value).texts key = [] := by
          cases value with
          | inl text => exact if_neg same
          | inr value => rfl
        rw [none, List.append_nil]
        exact getRepeatedStringFlag_congr kept

theorem words_apply (effect : Effect) (state : List String × CliFlags) :
    (effect.apply state).1 = state.1 ++ effect.words := by
  cases effect with
  | word token => rfl
  | flag own value => exact (List.append_nil _).symm

theorem getRepeatedStringFlag_effects (proto : key ≠ "__proto__") (effects : List Effect)
    (state : List String × CliFlags) :
    getRepeatedStringFlag (effects.foldl Effect.apply state).2 key =
      getRepeatedStringFlag state.2 key ++ effects.flatMap (·.texts key) := by
  induction effects generalizing state with
  | nil => exact (List.append_nil _).symm
  | cons effect effects ih =>
      rw [List.foldl_cons, ih, getRepeatedStringFlag_apply proto, List.flatMap_cons, List.append_assoc]

theorem words_effects (effects : List Effect) (state : List String × CliFlags) :
    (effects.foldl Effect.apply state).1 = state.1 ++ effects.flatMap (·.words) := by
  induction effects generalizing state with
  | nil => exact (List.append_nil _).symm
  | cons effect effects ih =>
      rw [List.foldl_cons, ih, words_apply, List.flatMap_cons, List.append_assoc]

end Effects

/-! ## The two spellings -/

section Spellings

variable {key value : String} {before after : List String}

/-- The arguments do not ask for help. -/
def AsksNoHelp (argv : List String) : Prop := "-h" ∉ argv ∧ "--help" ∉ argv

/-- What is left of a value that is given after `=`. -/
def untilEquals (value : String) : String := String.ofList (value.toList.takeWhile (· ≠ '='))

theorem untilEquals_eq_iff : untilEquals value = value ↔ '=' ∉ value.toList := by
  rw [untilEquals, ← String.toList_inj, String.toList_ofList, List.takeWhile_eq_self_iff]
  constructor
  · intro all mem
    exact absurd (all '=' mem) (by decide)
  · intro absent c mem
    exact decide_eq_true fun same => absent (same ▸ mem)

theorem startsWith_flag (body : String) : Js.startsWith ("--" ++ body) "--" = true := by
  rw [Js.startsWith, String.toList_append, List.isPrefixOf_iff_prefix]
  exact List.prefix_append _ _

theorem drop_flag (body : String) : String.ofList (("--" ++ body).toList.drop 2) = body := by
  rw [String.toList_append]
  exact String.ofList_toList

/-- A text that does not start with `-` is no flag. -/
theorem startsWith_word (word : Js.startsWith value "-" = false) :
    Js.startsWith value "--" = false := by
  rw [← Bool.not_eq_true, Js.startsWith, List.isPrefixOf_iff_prefix] at word ⊢
  exact fun starts => word (List.IsPrefix.trans ⟨['-'], rfl⟩ starts)

theorem splitFlag_bare (plain : '=' ∉ key.toList) : splitFlag ("--" ++ key) = (key, none) := by
  rw [splitFlag, drop_flag, Js.split, List.splitOn_eq_singleton plain]
  change (String.ofList key.toList, none) = (key, none)
  rw [String.ofList_toList]

theorem exists_splitOn_eq (separator : Char) (cs : List Char) :
    ∃ rest, cs.splitOn separator = cs.takeWhile (· ≠ separator) :: rest := by
  induction cs with
  | nil => exact ⟨[], rfl⟩
  | cons c cs ih =>
      obtain ⟨rest, pieces⟩ := ih
      unfold List.splitOn at pieces ⊢
      rw [List.splitOnP_cons_eq_if_modifyHead, pieces, List.takeWhile_cons]
      by_cases same : c = separator
      · simp [same]
      · simp [same]

theorem splitFlag_assigned (plain : '=' ∉ key.toList) :
    splitFlag ("--" ++ (key ++ "=" ++ value)) = (key, some (untilEquals value)) := by
  obtain ⟨rest, pieces⟩ := exists_splitOn_eq '=' value.toList
  have body : (key ++ "=" ++ value).toList = key.toList ++ '=' :: value.toList := by
    rw [String.toList_append, String.toList_append, List.append_assoc]
    rfl
  rw [splitFlag, drop_flag, Js.split, body, List.splitOn_append_cons_self_of_not_mem plain, pieces]
  change (String.ofList key.toList, some (untilEquals value)) = _
  rw [String.ofList_toList]

theorem effects_bare (plain : '=' ∉ key.toList) (nonempty : value ≠ "")
    (word : Js.startsWith value "-" = false) (after : List String) :
    effects (("--" ++ key) :: value :: after) =
      (if Js.trim key = "" then .word value else .flag (Js.trim key) (.inl value)) :: effects after := by
  have text := startsWith_word word
  have shape : readToken ("--" ++ key) =
      if Js.trim key = "" then .blank else .bare (Js.trim key) := by
    rw [readToken, startsWith_flag, splitFlag_bare plain]
    rfl
  rw [effects, shape]
  by_cases blank : Js.trim key = ""
  · rw [if_pos blank, if_pos blank]
    dsimp only
    rw [effects, readToken_of_word text]
  · rw [if_neg blank, if_neg blank]
    dsimp only
    rw [if_pos (isValue_eq nonempty text)]

theorem effects_assigned (plain : '=' ∉ key.toList) (after : List String) :
    effects (("--" ++ (key ++ "=" ++ value)) :: after) =
      if Js.trim key = "" then effects after
      else .flag (Js.trim key) (.inl (untilEquals value)) :: effects after := by
  have shape : readToken ("--" ++ (key ++ "=" ++ value)) =
      if Js.trim key = "" then .blank
      else .assigned (Js.trim key) (untilEquals value) := by
    rw [readToken, startsWith_flag, splitFlag_assigned plain]
    rfl
  rw [effects, shape]
  by_cases blank : Js.trim key = ""
  · rw [if_pos blank, if_pos blank]
  · rw [if_neg blank, if_neg blank]

theorem parseArgs_eq {argv : List String} (some : argv ≠ []) (noHelp : AsksNoHelp argv) :
    parseArgs argv = .command ((effects argv).foldl Effect.apply ([], [])).1
      ((effects argv).foldl Effect.apply ([], [])).2 := by
  have asks : ¬ (argv.contains "-h" || argv.contains "--help") = true := by
    rw [Bool.or_eq_true, List.contains_iff_mem, List.contains_iff_mem, not_or]
    exact noHelp
  rw [parseArgs, if_neg some, if_neg asks, parseTokens_eq]

theorem AsksNoHelp.assigned (noHelp : AsksNoHelp (before ++ ("--" ++ key) :: value :: after)) :
    AsksNoHelp (before ++ ("--" ++ (key ++ "=" ++ value)) :: after) := by
  have equals : '=' ∈ ("--" ++ (key ++ "=" ++ value)).toList := by
    simp [String.toList_append]
  have other : ∀ token : String, '=' ∉ token.toList →
      token ∉ before ++ ("--" ++ key) :: value :: after →
        token ∉ before ++ ("--" ++ (key ++ "=" ++ value)) :: after := by
    intro token plain absent mem
    rcases List.mem_append.1 mem with early | late
    · exact absent (List.mem_append_left _ early)
    · rcases List.mem_cons.1 late with same | later
      · exact plain (same ▸ equals)
      · refine absent (List.mem_append_right _ ?_)
        exact List.mem_cons_of_mem _ (List.mem_cons_of_mem _ later)
  exact ⟨other "-h" (by decide) noHelp.1, other "--help" (by decide) noHelp.2⟩

/-- Nothing is ever kept under `__proto__`. -/
theorem setFlag_proto (value : String ⊕ Bool) (flags : CliFlags) :
    setFlag "__proto__" value flags = flags := by
  unfold setFlag assign
  split <;> simp

/-- The two spellings agree exactly if the key is not blank and the value has no `=`, or the key is
`__proto__`. -/
theorem parseArgs_spellings_iff
    (noHelp : AsksNoHelp (before ++ ("--" ++ key) :: value :: after)) (plain : '=' ∉ key.toList)
    (nonempty : value ≠ "") (word : Js.startsWith value "-" = false) :
    (parseArgs (before ++ ("--" ++ key) :: value :: after)).Same
        (parseArgs (before ++ ("--" ++ (key ++ "=" ++ value)) :: after)) ↔
      Js.trim key ≠ "" ∧ ('=' ∉ value.toList ∨ Js.trim key = "__proto__") := by
  rw [parseArgs_eq (by simp) noHelp, parseArgs_eq (by simp) noHelp.assigned,
    effects_append (startsWith_flag key), effects_append (startsWith_flag _),
    effects_bare plain nonempty word, effects_assigned plain]
  by_cases blank : Js.trim key = ""
  · refine iff_of_false (fun same => ?_) fun named => named.1 blank
    have lengths := congrArg List.length same.1
    rw [if_pos blank, if_pos blank, words_effects, words_effects, List.flatMap_append,
      List.flatMap_append, List.flatMap_cons] at lengths
    simp only [List.length_append, Effect.words, List.length_singleton] at lengths
    omega
  · rw [if_neg blank, if_neg blank, and_iff_right blank]
    constructor
    · intro same
      by_cases proto : Js.trim key = "__proto__"
      · exact .inr proto
      · refine .inl (untilEquals_eq_iff.1 ?_)
        have texts := getRepeatedStringFlag_congr (same.2 (Js.trim key))
        rw [getRepeatedStringFlag_effects proto, getRepeatedStringFlag_effects proto,
          List.flatMap_append, List.flatMap_append,
          List.flatMap_cons, List.flatMap_cons] at texts
        simp only [Effect.texts, if_pos, List.append_cancel_left_eq, List.append_cancel_right_eq] at texts
        exact (List.singleton_inj.1 texts).symm
    · intro holds
      have alike : ∀ state, Effect.apply state (.flag (Js.trim key) (.inl value)) =
          Effect.apply state (.flag (Js.trim key) (.inl (untilEquals value))) := by
        intro state
        rcases holds with absent | proto
        · rw [untilEquals_eq_iff.2 absent]
        · rw [proto, Effect.apply, Effect.apply, setFlag_proto, setFlag_proto]
      rw [List.foldl_append, List.foldl_append, List.foldl_cons, List.foldl_cons, alike]
      exact ⟨rfl, fun key => rfl⟩

end Spellings

theorem parseArgs_mode :
    (parseArgs ["topics", "--mode", "fast", "--dry-run"]).Same
      (parseArgs ["topics", "--mode=fast", "--dry-run"]) := by
  have bare : "--" ++ "mode" = "--mode" := by decide
  have assigned : "--" ++ ("mode" ++ "=" ++ "fast") = "--mode=fast" := by decide
  have agree := @parseArgs_spellings_iff "mode" "fast" ["topics"] ["--dry-run"]
    (by rw [bare]; exact ⟨by decide, by decide⟩) (by decide) (by decide) (by decide)
  rw [bare, assigned] at agree
  exact agree.2 ⟨by decide, .inl (by decide)⟩

/-- A value is cut where it has an `=` of its own. -/
theorem parseArgs_cut :
    parseArgs ["--url", "x?a=b"] = .command [] [("url", .text "x?a=b")] ∧
      parseArgs ["--url=x?a=b"] = .command [] [("url", .text "x?a")] ∧
      ¬ (parseArgs ["--url", "x?a=b"]).Same (parseArgs ["--url=x?a=b"]) := by
  have bare : "--" ++ "url" = "--url" := by decide
  have assigned : "--" ++ ("url" ++ "=" ++ "x?a=b") = "--url=x?a=b" := by decide
  have named : Js.trim "url" = "url" := by decide
  have cut : untilEquals "x?a=b" = "x?a" := by decide
  have own : ∀ value, setFlag "url" (.inl value) [] = [("url", .text value)] := fun value => by
    have absent : Js.lookup ([] : CliFlags) "url" = none := by
      rw [lookup_of_get (Js.Map.get_nil "url"), Option.elim_none, if_neg (by decide)]
    unfold setFlag
    rw [absent]
    exact if_neg (by decide)
  have two := @effects_bare "url" "x?a=b" (by decide) (by decide) (by decide) []
  have one := @effects_assigned "url" "x?a=b" (by decide) []
  rw [bare, named, if_neg (by decide)] at two
  rw [assigned, named, if_neg (by decide), cut] at one
  have whole : parseArgs ["--url", "x?a=b"] = .command [] [("url", .text "x?a=b")] := by
    rw [parseArgs_eq (by simp) ⟨by decide, by decide⟩, two]
    exact congrArg _ (own "x?a=b")
  have part : parseArgs ["--url=x?a=b"] = .command [] [("url", .text "x?a")] := by
    rw [parseArgs_eq (by simp) ⟨by decide, by decide⟩, one]
    exact congrArg _ (own "x?a")
  refine ⟨whole, part, fun same => ?_⟩
  rw [whole, part] at same
  exact absurd (getRepeatedStringFlag_congr (same.2 "url")) (by decide)

end RisingIntelligence.OpsCli
