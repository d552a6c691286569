import RisingIntelligence.Brief.TopicGlob
import RisingIntelligence.Shared.Throws

/-!
# What a set of globs matches

`MatchesGlob` is the meaning of a glob, over UTF-16 code units and without expressions.  The validator
trims, so a set of globs has the meaning of the trimmed ones.

* `testGlobParts_iff` compares the compiled expression with the meaning of the glob.
* `matchesTopic_iff` says when a set matches; it depends on the members of the list only.
-/

namespace RisingIntelligence.Brief

/-! ## Meaning -/

/-- A unit in lower case, if it is a letter of ASCII. -/
def foldAscii (unit : Nat) : Nat := if 0x41 ≤ unit ∧ unit ≤ 0x5A then unit + 0x20 else unit

/-- `*` is any sequence, `?` one unit, and any other unit itself in either case. -/
inductive MatchesGlob : List Nat → List Nat → Prop
  | nil : MatchesGlob [] []
  | star {glob units : List Nat} (skipped : List Nat) :
    MatchesGlob glob units → MatchesGlob (0x2A :: glob) (skipped ++ units)
  | question {glob units : List Nat} (unit : Nat) :
    MatchesGlob glob units → MatchesGlob (0x3F :: glob) (unit :: units)
  | unit {own unit : Nat} {glob units : List Nat} :
    own ≠ 0x2A → own ≠ 0x3F → foldAscii own = foldAscii unit →
    MatchesGlob glob units → MatchesGlob (own :: glob) (unit :: units)

section Inversion

variable {glob units : List Nat} {own : Nat}

theorem matchesGlob_nil : MatchesGlob [] units ↔ units = [] := by
  constructor
  · intro found
    cases found
    rfl
  · intro none
    rw [none]
    exact .nil

theorem matchesGlob_star :
    MatchesGlob (0x2A :: glob) units ↔ ∃ rest, rest <:+ units ∧ MatchesGlob glob rest := by
  constructor
  · intro found
    cases found with
    | star skipped rest => exact ⟨_, List.suffix_append _ _, rest⟩
    | unit star => exact absurd rfl star
  · intro found
    obtain ⟨rest, ⟨skipped, rfl⟩, found⟩ := found
    exact .star skipped found

theorem matchesGlob_question :
    MatchesGlob (0x3F :: glob) units ↔ ∃ unit rest, units = unit :: rest ∧ MatchesGlob glob rest := by
  constructor
  · intro found
    cases found with
    | question unit rest => exact ⟨unit, _, rfl, rest⟩
    | unit _ question => exact absurd rfl question
  · intro found
    obtain ⟨unit, rest, rfl, found⟩ := found
    exact .question unit found

theorem matchesGlob_unit (star : own ≠ 0x2A) (question : own ≠ 0x3F) :
    MatchesGlob (own :: glob) units ↔
      ∃ unit rest, units = unit :: rest ∧ foldAscii own = foldAscii unit ∧ MatchesGlob glob rest := by
  constructor
  · intro found
    cases found with
    | star => exact absurd rfl star
    | question => exact absurd rfl question
    | unit _ _ same rest => exact ⟨_, _, rfl, same, rest⟩
  · intro found
    obtain ⟨unit, rest, rfl, same, found⟩ := found
    exact .unit star question same found

end Inversion

/-! ## The expression -/

section Expression

variable {c : Char} {cs : List Char} {unit : Nat} {units rest : List Nat}

theorem toNat_lt_of_isTopicGlobChar (letter : isTopicGlobChar c = true) : c.toNat < 0x80 := by
  rcases Bool.or_eq_true_iff.1 letter with word | sign
  · rcases Bool.or_eq_true_iff.1 word with letter | digit
    · rcases Bool.or_eq_true_iff.1 letter with upper | lower
      · have bound : c.toNat ≤ 90 := (of_decide_eq_true upper : c.val ≥ 65 ∧ c.val ≤ 90).2
        omega
      · have bound : c.toNat ≤ 122 := of_decide_eq_true (Bool.and_eq_true_iff.1 lower).2
        omega
    · have bound : c.toNat ≤ 57 := (Char.isDigit_iff_toNat.1 digit).2
      omega
  · have mem : c ∈ ['.', '*', '?', '_', '-'] := List.contains_iff_mem.1 sign
    exact of_decide_eq_true
      (Js.forall_mem_of_all (p := fun c => decide (c.toNat < 0x80)) (by decide) c mem)

/-- The flag `i` ignores the case of ASCII only. -/
theorem isSameUnit_iff (ascii : c.toNat < 0x80) :
    isSameUnit c unit = true ↔ foldAscii c.toNat = foldAscii unit := by
  unfold isSameUnit foldAscii
  rw [Bool.and_eq_true, decide_eq_true_eq, beq_iff_eq, ← Char.toNat_inj, Js.toNat_toUpper,
    Js.toNat_toUpper]
  by_cases small : unit < 0x80
  · have value : (Char.ofNat unit).toNat = unit := by
      unfold Char.ofNat
      rw [dif_pos (show unit.isValidChar from .inl (by omega))]
      rfl
    rw [value]
    split <;> split <;> split <;> split <;> omega
  · have large : (if 0x41 ≤ unit ∧ unit ≤ 0x5A then unit + 0x20 else unit) = unit :=
      if_neg (by omega)
    refine iff_of_false (fun found => small found.1) fun same => ?_
    rw [large] at same
    split at same <;> omega

theorem mem_restsOfDots (dots : ∀ unit ∈ units, isDotUnit unit = true) :
    rest ∈ restsOfDots units ↔ rest <:+ units := by
  induction units with
  | nil => rw [restsOfDots, List.mem_singleton, List.suffix_nil]
  | cons unit units ih =>
      rw [List.forall_mem_cons] at dots
      rw [restsOfDots, if_pos dots.1, List.mem_cons, ih dots.2, List.suffix_cons_iff]

/-- The expression matches what the glob means, where `.` matches every unit. -/
theorem testGlobParts_iff (letters : ∀ c ∈ cs, isTopicGlobChar c = true)
    (dots : ∀ unit ∈ units, isDotUnit unit = true) :
    testGlobParts (cs.map globPart) units = true ↔ MatchesGlob (cs.map Char.toNat) units := by
  induction cs generalizing units with
  | nil =>
      rw [List.map_nil, List.map_nil, matchesGlob_nil, testGlobParts, List.isEmpty_iff]
  | cons c cs ih =>
      obtain ⟨letter, later⟩ := List.forall_mem_cons.1 letters
      rw [List.map_cons, List.map_cons]
      by_cases star : c = '*'
      · have part : globPart c = .anyUnits := if_pos star
        have unit : c.toNat = 0x2A := congrArg Char.toNat star
        rw [part, unit, matchesGlob_star, testGlobParts, List.any_eq_true]
        refine exists_congr fun rest => ?_
        rw [mem_restsOfDots dots]
        exact and_congr_right fun suffix => ih later fun unit mem => dots unit (suffix.subset mem)
      · by_cases question : c = '?'
        · have part : globPart c = .anyUnit := (if_neg star).trans (if_pos question)
          have unit : c.toNat = 0x3F := congrArg Char.toNat question
          rw [part, unit, matchesGlob_question]
          cases units with
          | nil => simp [testGlobParts]
          | cons unit units =>
              obtain ⟨dot, dots⟩ := List.forall_mem_cons.1 dots
              rw [testGlobParts, dot, Bool.true_and, ih later dots]
              exact ⟨fun found => ⟨unit, units, rfl, found⟩, fun ⟨_, _, same, found⟩ => by
                cases same
                exact found⟩
        · have part : globPart c = .char c := (if_neg star).trans (if_neg question)
          have other : c.toNat ≠ 0x2A := fun same => star (Char.toNat_inj.1 same)
          have another : c.toNat ≠ 0x3F := fun same => question (Char.toNat_inj.1 same)
          rw [part, matchesGlob_unit other another]
          cases units with
          | nil => simp [testGlobParts]
          | cons unit units =>
              obtain ⟨-, dots⟩ := List.forall_mem_cons.1 dots
              rw [testGlobParts, Bool.and_eq_true,
                isSameUnit_iff (toNat_lt_of_isTopicGlobChar letter), ih later dots]
              exact ⟨fun found => ⟨unit, units, rfl, found⟩, fun ⟨_, _, same, found⟩ => by
                cases same
                exact found⟩

end Expression

/-! ## Validation -/

/-- The validator accepts the list. -/
def AcceptedGlobs (globs : Option (List String)) : Prop :=
  ∀ list, globs = some list → ∀ glob ∈ list, ∃ normalized, validateTopicGlob glob = .ok normalized

theorem AcceptedGlobs.valid {globs : Option (List String)} (accepted : AcceptedGlobs globs) :
    ∀ glob ∈ globs.getD [], ValidGlob glob := by
  intro glob mem
  cases globs with
  | none => cases mem
  | some list =>
      obtain ⟨normalized, valid⟩ := accepted list rfl glob mem
      exact (validateTopicGlob_eq_ok.1 valid).2

/-! ## Sets of globs -/

section Sets

variable {globs : Option (List String)} {list other : List String} {topic : String}

/-- The test of one glob. -/
def testGlob (topic glob : String) : Bool :=
  testGlobParts (glob.toList.map globPart) (Js.codeUnits topic)

/-- Some glob of the list matches; no glob stands for `*`. -/
def testGlobs (list : List String) (topic : String) : Bool :=
  if list = [] then testGlob topic "*" else list.any fun glob => testGlob topic (Js.trim glob)

theorem any_trim_congr {P : String → Bool}
    (same : ∀ glob ∈ other, ∃ own ∈ list, Js.trim own = Js.trim glob)
    (found : (other.any fun glob => P (Js.trim glob)) = true) :
    (list.any fun glob => P (Js.trim glob)) = true := by
  obtain ⟨glob, mem, holds⟩ := List.any_eq_true.1 found
  obtain ⟨own, listed, trimmed⟩ := same glob mem
  refine List.any_eq_true.2 ⟨own, listed, ?_⟩
  rw [trimmed]
  exact holds

/-- Only which globs there are counts, and not the space around them. -/
theorem testGlobs_congr (some : list ≠ []) (others : other ≠ [])
    (left : ∀ glob ∈ other, ∃ own ∈ list, Js.trim own = Js.trim glob)
    (right : ∀ glob ∈ list, ∃ own ∈ other, Js.trim own = Js.trim glob) :
    testGlobs other topic = testGlobs list topic := by
  rw [testGlobs, testGlobs, if_neg some, if_neg others, Bool.eq_iff_iff]
  exact ⟨any_trim_congr left, any_trim_congr right⟩

theorem testGlobs_iff (valid : ∀ glob ∈ list, ValidGlob glob)
    (dots : ∀ unit ∈ Js.codeUnits topic, isDotUnit unit = true) :
    testGlobs list topic = true ↔
      list = [] ∨ ∃ glob ∈ list, MatchesGlob (Js.codeUnits (Js.trim glob)) (Js.codeUnits topic) := by
  unfold testGlobs
  split
  · rename_i none
    refine iff_of_true (List.any_eq_true.2 ?_) (.inl none)
    exact ⟨[], (mem_restsOfDots dots).2 List.nil_suffix, rfl⟩
  · rename_i some
    rw [List.any_eq_true, or_iff_right some]
    refine exists_congr fun glob => and_congr_right fun mem => ?_
    have letters := (valid glob mem).letters
    have plain : ∀ c ∈ (Js.trim glob).toList, c.toNat < 0x10000 := by
      intro c listed
      have ascii := toNat_lt_of_isTopicGlobChar (letters c listed)
      omega
    rw [testGlob, testGlobParts_iff letters dots, Js.codeUnits_eq plain]

theorem matchesAnyTopicGlob_eq (topic : String) (globs : List String) :
    matchesAnyTopicGlob topic (globs.map fun glob => glob.toList.map globPart) =
      globs.any (testGlob topic) := by
  rw [matchesAnyTopicGlob, List.any_map]
  rfl

theorem compileTopicGlob_eq {glob : String} (valid : ValidGlob glob) :
    compileTopicGlob (Js.trim glob) = .ok ((Js.trim glob).toList.map globPart) := by
  rw [compileTopicGlob, validateTopicGlob_eq valid.trim, Js.trim_trim]
  rfl

theorem normalizeTopicGlobs_eq (valid : ∀ glob ∈ list, ValidGlob glob) (some : list ≠ []) :
    normalizeTopicGlobs (.some list) = .ok (.some (Js.distinct (list.map Js.trim))) := by
  obtain ⟨glob, rest, rfl⟩ := List.exists_cons_of_ne_nil some
  unfold normalizeTopicGlobs
  dsimp only
  rw [mapM_eq_map fun glob mem => validateTopicGlob_eq (valid glob mem)]
  rfl

/-- The set of a list that the validator accepts. -/
theorem createTopicGlobMatcherSet_spec (globs : Option (List String))
    (valid : ∀ glob ∈ globs.getD [], ValidGlob glob) :
    ∃ matchers, createTopicGlobMatcherSet globs = .ok matchers ∧
      ∀ topic, matchers.matchesTopic topic = testGlobs (globs.getD []) topic := by
  by_cases none : globs.getD [] = []
  · refine ⟨⟨["*"], (matchesAnyTopicGlob · [[.anyUnits]])⟩, ?_, fun topic => ?_⟩
    · rcases globs with _ | _ | ⟨glob, rest⟩
      · rfl
      · rfl
      · cases none
    · rw [none, testGlobs, if_pos rfl]
      exact Bool.or_false _
  · obtain ⟨list, rfl⟩ : ∃ list, globs = some list := by
      cases globs with
      | none => exact absurd rfl none
      | some list => exact ⟨list, rfl⟩
    rw [Option.getD_some] at none valid
    have members : ∀ {glob}, glob ∈ Js.distinct (list.map Js.trim) ↔ glob ∈ list.map Js.trim :=
      Js.mem_distinct
    obtain ⟨first, rest, resolved⟩ : ∃ first rest, Js.distinct (list.map Js.trim) = first :: rest := by
      refine List.exists_cons_of_ne_nil fun empty => none ?_
      rwa [Js.distinct_eq_nil, List.map_eq_nil_iff] at empty
    have compiled : (first :: rest).mapM compileTopicGlob =
        .ok ((first :: rest).map fun glob => glob.toList.map globPart) := by
      refine mapM_eq_map fun glob mem => ?_
      rw [← resolved, members, List.mem_map] at mem
      obtain ⟨own, listed, rfl⟩ := mem
      exact compileTopicGlob_eq (valid own listed)
    refine ⟨⟨first :: rest, (matchesAnyTopicGlob ·
      ((first :: rest).map fun glob => glob.toList.map globPart))⟩, ?_, fun topic => ?_⟩
    · rw [createTopicGlobMatcherSet, normalizeTopicGlobs_eq valid none, resolved]
      dsimp only [bind, Except.bind]
      rw [compiled]
      rfl
    · dsimp only
      rw [matchesAnyTopicGlob_eq, ← resolved, testGlobs, Option.getD_some, if_neg none,
        Bool.eq_iff_iff, List.any_eq_true, List.any_eq_true]
      constructor
      · intro found
        obtain ⟨glob, mem, matched⟩ := found
        obtain ⟨own, listed, same⟩ := List.mem_map.1 (members.1 mem)
        exact ⟨own, listed, by rwa [same]⟩
      · intro found
        obtain ⟨own, listed, matched⟩ := found
        exact ⟨Js.trim own, members.2 (List.mem_map_of_mem listed), matched⟩

/-- A set matches what one of its globs means without the space around it; repeated, re-ordered and
normalised globs match alike. -/
theorem matchesTopic_iff (accepted : AcceptedGlobs globs) :
    ∃ matchers, createTopicGlobMatcherSet globs = .ok matchers ∧
      (∀ topic, (∀ unit ∈ Js.codeUnits topic, isDotUnit unit = true) →
        (matchers.matchesTopic topic = true ↔ globs.getD [] = [] ∨
          ∃ glob ∈ globs.getD [], MatchesGlob (Js.codeUnits (Js.trim glob)) (Js.codeUnits topic))) ∧
      (∀ other : List String, (∀ glob, glob ∈ other ↔ glob ∈ globs.getD []) →
        ∃ again, createTopicGlobMatcherSet (some other) = .ok again ∧
          ∀ topic, again.matchesTopic topic = matchers.matchesTopic topic) ∧
      ∃ normalized, normalizeTopicGlobs globs = .ok normalized ∧
        ∃ again, createTopicGlobMatcherSet normalized = .ok again ∧
          ∀ topic, again.matchesTopic topic = matchers.matchesTopic topic := by
  have valid := accepted.valid
  obtain ⟨matchers, created, tests⟩ := createTopicGlobMatcherSet_spec globs valid
  refine ⟨matchers, created, ?_, ?_, ?_⟩
  · intro topic dots
    rw [tests, testGlobs_iff valid dots]
  · intro other same
    obtain ⟨again, recreated, retests⟩ := createTopicGlobMatcherSet_spec (some other)
      fun glob mem => valid glob ((same glob).1 mem)
    refine ⟨again, recreated, fun topic => ?_⟩
    rw [retests, tests, Option.getD_some]
    by_cases none : globs.getD [] = []
    · have empty : other = [] := by
        refine List.eq_nil_iff_forall_not_mem.2 fun glob mem => ?_
        rw [same, none] at mem
        cases mem
      rw [none, empty]
    · refine testGlobs_congr none (fun empty => none ?_) ?_ ?_
      · refine List.eq_nil_iff_forall_not_mem.2 fun glob mem => ?_
        rw [← same, empty] at mem
        cases mem
      · exact fun glob mem => ⟨glob, (same glob).1 mem, rfl⟩
      · exact fun glob mem => ⟨glob, (same glob).2 mem, rfl⟩
  · by_cases none : globs.getD [] = []
    · refine ⟨.none, ?_, ?_⟩
      · rcases globs with _ | _ | ⟨glob, rest⟩
        · rfl
        · rfl
        · cases none
      · obtain ⟨again, recreated, retests⟩ := createTopicGlobMatcherSet_spec .none nofun
        refine ⟨again, recreated, fun topic => ?_⟩
        rw [retests, tests, none, Option.getD_none]
    · obtain ⟨list, rfl⟩ : ∃ list, globs = some list := by
        cases globs with
        | none => exact absurd rfl none
        | some list => exact ⟨list, rfl⟩
      rw [Option.getD_some] at none
      refine ⟨_, normalizeTopicGlobs_eq valid none, ?_⟩
      have members : ∀ glob ∈ Js.distinct (list.map Js.trim), ∃ own ∈ list, Js.trim own = glob := by
        intro glob mem
        rw [Js.mem_distinct] at mem
        exact List.mem_map.1 mem
      obtain ⟨again, recreated, retests⟩ := createTopicGlobMatcherSet_spec
        (some (Js.distinct (list.map Js.trim))) (by
          intro glob mem
          rw [Option.getD_some] at mem
          obtain ⟨own, listed, same⟩ := members glob mem
          rw [← same]
          exact (valid own listed).trim)
      refine ⟨again, recreated, fun topic => ?_⟩
      rw [retests, tests, Option.getD_some, Option.getD_some]
      refine testGlobs_congr none ?_ ?_ ?_
      · rw [Ne, Js.distinct_eq_nil, List.map_eq_nil_iff]
        exact none
      · intro glob mem
        obtain ⟨own, listed, same⟩ := members glob mem
        refine ⟨own, listed, ?_⟩
        rw [← same, Js.trim_trim]
      · exact fun glob mem =>
          ⟨Js.trim glob, Js.mem_distinct.2 (List.mem_map_of_mem mem), Js.trim_trim glob⟩

end Sets

theorem acceptedGlobs_of_ok {glob normalized : String}
    (valid : validateTopicGlob glob = .ok normalized) : AcceptedGlobs (some [glob]) := by
  intro list present own mem
  cases present
  rw [List.mem_singleton.1 mem]
  exact ⟨normalized, valid⟩

/-- `a?` matches `AI`. -/
theorem matchesTopic_question : ∃ matchers, createTopicGlobMatcherSet (some ["a?"]) = .ok matchers ∧
    matchers.matchesTopic "AI" = true := by
  have valid : validateTopicGlob "a?" = .ok "a?" := rfl
  have accepted := acceptedGlobs_of_ok valid
  obtain ⟨matchers, created, means, -⟩ := matchesTopic_iff accepted
  have found : MatchesGlob [0x61, 0x3F] [0x41, 0x49] :=
    .unit (by decide) (by decide) (by decide) (.question 0x49 .nil)
  exact ⟨matchers, created, (means "AI" (by decide)).2 (.inr ⟨"a?", List.mem_singleton_self _, found⟩)⟩

/-- Space around a glob is no part of what it is compiled to. -/
theorem padded_glob : AcceptedGlobs (some [" ai "]) ∧
    (∀ unit ∈ Js.codeUnits "ai", isDotUnit unit = true) ∧
    ∃ matchers, createTopicGlobMatcherSet (some [" ai "]) = .ok matchers ∧
      matchers.matchesTopic "ai" = true ∧
      ¬ ∃ glob ∈ [" ai "], MatchesGlob (Js.codeUnits glob) (Js.codeUnits "ai") := by
  have valid : validateTopicGlob " ai " = .ok "ai" := rfl
  refine ⟨acceptedGlobs_of_ok valid, by decide, _, rfl, by decide, ?_⟩
  intro found
  obtain ⟨glob, mem, found⟩ := found
  rw [List.mem_singleton.1 mem] at found
  obtain ⟨unit, rest, same, fold, -⟩ := (matchesGlob_unit (by decide) (by decide)).1
    (found : MatchesGlob (0x20 :: [0x61, 0x69, 0x20]) [0x61, 0x69])
  cases same
  exact absurd fold (by decide)

end RisingIntelligence.Brief
