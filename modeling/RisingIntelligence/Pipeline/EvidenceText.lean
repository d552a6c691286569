import RisingIntelligence.Pipeline.RawEvent
import RisingIntelligence.Shared.Shrinking

/-!
# Evidence texts

The normalisers of titles and excerpts, `packages/pipeline/src/briefing-handoff.ts`.

Angle brackets are escaped and instruction markers taken out after the text is cut to its limit, so
what a normaliser returns may be longer than the limit or hold a marker again, and then changes when
it is normalised a second time.
-/

namespace RisingIntelligence

/-! ## Passes -/

def titleMaxLength : Nat := 200

def briefEvidenceExcerptMaxLength : Nat := 2000

/-- `TITLE_CONTROL_CHAR_PATTERN` -/
def isTitleControlChar (c : Char) : Bool := decide (c.toNat ≤ 0x1F) || c.toNat == 0x7F

/-- `EXCERPT_CONTROL_CHAR_PATTERN`, which leaves tabs and the ends of lines. -/
def isExcerptControlChar (c : Char) : Bool :=
  isTitleControlChar c && !([0x09, 0x0A, 0x0D].contains c.toNat)

/-- A run of white space that ended; `run` has its characters from the last to the first. -/
def squeezeRun (run : List Char) : List Char := if 3 ≤ run.length then [' ', ' '] else run.reverse

/-- `value.replace(/\s{3,}/g, "  ")`, after the white space in `run`. -/
def squeezeList : List Char → List Char → List Char
  | run, [] => squeezeRun run
  | run, c :: rest =>
      if Js.isWhitespace c then squeezeList (c :: run) rest
      else squeezeRun run ++ c :: squeezeList [] rest

/-- `.replace(/</g, "&lt;").replace(/>/g, "&gt;")` -/
def escapeList (cs : List Char) : List Char :=
  (cs.flatMap fun c => if c = '<' then "&lt;".toList else [c]).flatMap fun c =>
    if c = '>' then "&gt;".toList else [c]

/-- The alternatives of `INSTRUCTION_MARKER_PATTERN`, in lower case. -/
def instructionMarkers : List (List Char) :=
  ["[inst]".toList, "[/inst]".toList, "[system]".toList, "<<sys>>".toList, "<</sys>>".toList,
    "</sys>>".toList]

/-- The marker at the start of a text. -/
def markerAt (cs : List Char) : Option (List Char) :=
  instructionMarkers.find? fun marker => (cs.take marker.length).map Char.toLower == marker

/-- `value.replace(INSTRUCTION_MARKER_PATTERN, "")`, with the first `skip` characters in a marker. -/
def dropMarkers : Nat → List Char → List Char
  | _, [] => []
  | skip + 1, _ :: rest => dropMarkers skip rest
  | 0, c :: rest =>
      match markerAt (c :: rest) with
      | some marker => dropMarkers (marker.length - 1) rest
      | none => c :: dropMarkers 0 rest

def hasMarker : List Char → Bool
  | [] => false
  | c :: rest => (markerAt (c :: rest)).isSome || hasMarker rest

/-! ## Normalisers -/

/-- What a normaliser does to a trimmed text: it clears and cuts it, escapes angle brackets and takes
the markers out. -/
def sanitizeText (clear : List Char → List Char) (maxLength : Nat) (cs : List Char) : List Char :=
  Js.trimList (dropMarkers 0 (escapeList (Js.takeUnits maxLength (clear cs))))

def normalizeEvidenceText (clear : List Char → List Char) (maxLength : Nat) (placeholder : String)
    (value : Option String) : Option String :=
  match normalizeOptionalString value with
  | none => none
  | some normalized =>
      let sanitized := String.ofList (sanitizeText clear maxLength normalized.toList)
      some (if sanitized = "" then placeholder else sanitized)

def clearTitle (cs : List Char) : List Char := cs.filter fun c => !isTitleControlChar c

def clearExcerpt (cs : List Char) : List Char :=
  squeezeList [] (cs.filter fun c => !isExcerptControlChar c)

def normalizeBriefEvidenceTitle (value : Option String) : Option String :=
  normalizeEvidenceText clearTitle titleMaxLength "[No title]" value

def normalizeBriefEvidenceExcerpt (value : Option String) (maxLength : Nat) : Option String :=
  normalizeEvidenceText clearExcerpt maxLength "[Content removed]" value

/-! ## What the passes keep -/

theorem length_eq_totalWeightOf (cs : List Char) :
    Js.length (String.ofList cs) = totalWeightOf Js.units cs := by
  induction cs with
  | nil => rfl
  | cons c rest ih => rw [Js.length_cons, ih, totalWeightOf_cons]

theorem weight_squeezeRun (run : List Char) : squeezeRun run = run.reverse ∨
    totalWeightOf Js.units (squeezeRun run) < totalWeightOf Js.units run := by
  unfold squeezeRun
  split
  · rename_i long
    have weighs := length_le_totalWeightOf Js.units_pos run
    have blanks : totalWeightOf Js.units [' ', ' '] = 2 := by decide
    right
    omega
  · exact .inl rfl

theorem squeezeList_shrinks (run cs : List Char) : squeezeList run cs = run.reverse ++ cs ∨
    totalWeightOf Js.units (squeezeList run cs) < totalWeightOf Js.units (run.reverse ++ cs) := by
  induction cs generalizing run with
  | nil =>
      rw [List.append_nil, totalWeightOf_reverse]
      exact weight_squeezeRun run
  | cons c rest ih =>
      unfold squeezeList
      split
      · have longer := ih (c :: run)
        rw [List.reverse_cons, List.append_assoc] at longer
        exact longer
      · have ended := weight_squeezeRun run
        have later := ih []
        rw [List.reverse_nil, List.nil_append] at later
        simp only [totalWeightOf_append, totalWeightOf_cons, totalWeightOf_reverse]
        rcases ended with kept | lighter
        · rw [kept, totalWeightOf_reverse]
          rcases later with same | lighter
          · rw [same]
            exact .inl rfl
          · right
            omega
        · right
          rcases later with same | lighter'
          · rw [same]
            omega
          · omega

theorem squeeze_shrinks : Shrinks Js.units (squeezeList []) := fun cs => squeezeList_shrinks [] cs

/-- A text that is cut has fewer code units. -/
theorem takeUnits_shrinks (limit : Nat) : Shrinks Js.units (Js.takeUnits limit) := by
  intro cs
  have length := Js.length_takeUnits limit cs
  rw [length_eq_totalWeightOf, length_eq_totalWeightOf] at length
  by_cases fits : Js.length (String.ofList cs) ≤ limit
  · exact .inl (Js.takeUnits_eq_self_iff.2 fits)
  · rw [length_eq_totalWeightOf] at fits
    right
    omega

theorem dropMarkers_sublist (skip : Nat) (cs : List Char) : (dropMarkers skip cs).Sublist cs := by
  induction cs generalizing skip with
  | nil =>
      cases skip <;> exact List.Sublist.refl []
  | cons c rest ih =>
      cases skip with
      | succ skip => exact (ih skip).cons c
      | zero =>
          unfold dropMarkers
          split
          · exact (ih _).cons c
          · exact (ih 0).cons_cons c

theorem dropMarkers_eq_self_iff {cs : List Char} : dropMarkers 0 cs = cs ↔ hasMarker cs = false := by
  induction cs with
  | nil => simp [dropMarkers, hasMarker]
  | cons c rest ih =>
      unfold dropMarkers hasMarker
      cases markerAt (c :: rest) with
      | none =>
          dsimp only
          rw [List.cons.injEq, eq_self, true_and, ih]
          rfl
      | some marker =>
          have shorter := (dropMarkers_sublist (marker.length - 1) rest).length_le
          constructor
          · intro same
            have length := congrArg List.length same
            dsimp only at length
            rw [List.length_cons] at length
            omega
          · intro free
            cases free

theorem trimList_sublist (cs : List Char) : (Js.trimList cs).Sublist cs := by
  rw [Js.trimList_eq_rdropWhile]
  exact (List.rdropWhile_prefix Js.isWhitespace _).sublist.trans
    (List.dropWhile_sublist Js.isWhitespace)

theorem mem_squeezeList {run cs : List Char} {c : Char} (mem : c ∈ squeezeList run cs) :
    c = ' ' ∨ c ∈ run ∨ c ∈ cs := by
  have ended : ∀ run : List Char, c ∈ squeezeRun run → c = ' ' ∨ c ∈ run := by
    intro run mem
    unfold squeezeRun at mem
    split at mem
    · left
      simpa using mem
    · right
      simpa using mem
  induction cs generalizing run with
  | nil =>
      rcases ended run mem with space | before
      · exact .inl space
      · exact .inr (.inl before)
  | cons first rest ih =>
      unfold squeezeList at mem
      split at mem
      · rcases ih mem with space | before | later
        · exact .inl space
        · rcases List.mem_cons.1 before with same | before
          · exact .inr (.inr (same ▸ List.mem_cons_self))
          · exact .inr (.inl before)
        · exact .inr (.inr (List.mem_cons_of_mem _ later))
      · rcases List.mem_append.1 mem with before | mem
        · rcases ended run before with space | before
          · exact .inl space
          · exact .inr (.inl before)
        · rcases List.mem_cons.1 mem with same | later
          · exact .inr (.inr (same ▸ List.mem_cons_self))
          · rcases ih later with space | nothing | later
            · exact .inl space
            · cases nothing
            · exact .inr (.inr (List.mem_cons_of_mem _ later))

/-- Escaping adds only letters and two signs, and leaves no angle bracket. -/
theorem mem_escapeList {cs : List Char} {c : Char} (mem : c ∈ escapeList cs) :
    (c ∈ cs ∨ c ∈ "&ltg;".toList) ∧ c ≠ '<' ∧ c ≠ '>' := by
  unfold escapeList at mem
  obtain ⟨second, mem, there⟩ := List.mem_flatMap.1 mem
  obtain ⟨first, mem, here⟩ := List.mem_flatMap.1 mem
  split at there
  · have letter : c ∈ "&ltg;".toList ∧ c ≠ '<' ∧ c ≠ '>' := by
      revert there
      rw [show "&gt;".toList = ['&', 'g', 't', ';'] from rfl]
      intro there
      simp only [List.mem_cons, List.not_mem_nil, or_false] at there
      rcases there with rfl | rfl | rfl | rfl <;> decide
    exact ⟨.inr letter.1, letter.2⟩
  · rename_i other
    obtain rfl : c = second := List.mem_singleton.1 there
    split at here
    · have letter : c ∈ "&ltg;".toList ∧ c ≠ '<' := by
        revert here
        rw [show "&lt;".toList = ['&', 'l', 't', ';'] from rfl]
        intro here
        simp only [List.mem_cons, List.not_mem_nil, or_false] at here
        rcases here with rfl | rfl | rfl | rfl <;> decide
      exact ⟨.inr letter.1, letter.2, other⟩
    · rename_i plain
      obtain rfl : c = first := List.mem_singleton.1 here
      exact ⟨.inl mem, plain, other⟩

theorem escapeList_of_plain {cs : List Char} (plain : ∀ c ∈ cs, c ≠ '<' ∧ c ≠ '>') :
    escapeList cs = cs := by
  induction cs with
  | nil => rfl
  | cons c rest ih =>
      have head := plain c List.mem_cons_self
      have tail := ih fun other mem => plain other (List.mem_cons_of_mem c mem)
      unfold escapeList at tail ⊢
      rw [List.flatMap_cons, if_neg head.1, List.flatMap_append, tail]
      simp [head.2]

/-! ## Normalising twice -/

/-- What a normaliser returns: a trimmed text with something in it, without angle brackets and
without the characters it clears. -/
structure Sanitized (control : Char → Bool) (text : String) : Prop where
  trimmed : Js.trim text = text
  nonempty : text ≠ ""
  plain : ∀ c ∈ text.toList, c ≠ '<' ∧ c ≠ '>'
  cleared : ∀ c ∈ text.toList, control c = false

/-- A pass that clears the given characters and may put blanks for others. -/
structure Clears (control : Char → Bool) (clear : List Char → List Char) : Prop where
  shrinks : Shrinks Js.units clear
  mem : ∀ {cs : List Char} {c : Char}, c ∈ clear cs → c = ' ' ∨ c ∈ cs ∧ control c = false

theorem clears_title : Clears isTitleControlChar clearTitle where
  shrinks := Shrinks.of_sublist Js.units_pos fun cs => List.filter_sublist
  mem found := by
    have kept := List.mem_filter.1 found
    exact .inr ⟨kept.1, by simpa using kept.2⟩

theorem clears_excerpt : Clears isExcerptControlChar clearExcerpt where
  shrinks := (Shrinks.of_sublist Js.units_pos fun cs => List.filter_sublist).comp squeeze_shrinks
  mem found := by
    rcases mem_squeezeList found with space | nothing | mem
    · exact .inl space
    · cases nothing
    · have kept := List.mem_filter.1 mem
      exact .inr ⟨kept.1, by simpa using kept.2⟩

section Twice

variable {control : Char → Bool} {clear : List Char → List Char} {maxLength : Nat}
  {placeholder text : String} {value : Option String}

theorem mem_sanitizeText {cs : List Char} {c : Char} (mem : c ∈ sanitizeText clear maxLength cs) :
    (c ∈ clear cs ∨ c ∈ Js.halfPair :: "&ltg;".toList) ∧ c ≠ '<' ∧ c ≠ '>' := by
  have escaped := (dropMarkers_sublist 0 _).subset ((trimList_sublist _).subset mem)
  obtain ⟨origin, plain⟩ := mem_escapeList escaped
  rcases origin with cut | letter
  · rcases Js.mem_takeUnits cut with kept | half
    · exact ⟨.inl kept, plain⟩
    · exact ⟨.inr (half ▸ List.mem_cons_self), plain⟩
  · exact ⟨.inr (List.mem_cons_of_mem _ letter), plain⟩

theorem sanitized_of_normalize (clears : Clears control clear)
    (harmless : ∀ c ∈ ' ' :: Js.halfPair :: "&ltg;".toList, control c = false)
    (other : Sanitized control placeholder)
    (normalized : normalizeEvidenceText clear maxLength placeholder value = some text) :
    Sanitized control text := by
  unfold normalizeEvidenceText at normalized
  cases present : normalizeOptionalString value with
  | none =>
      rw [present] at normalized
      cases normalized
  | some whole =>
      rw [present] at normalized
      dsimp only at normalized
      split at normalized
      · cases normalized
        exact other
      · rename_i nonempty
        cases normalized
        have shape : ∀ c ∈ (String.ofList (sanitizeText clear maxLength whole.toList)).toList,
            (c ∈ clear whole.toList ∨ c ∈ Js.halfPair :: "&ltg;".toList) ∧ c ≠ '<' ∧ c ≠ '>' := by
          intro c mem
          rw [String.toList_ofList] at mem
          exact mem_sanitizeText mem
        constructor
        case trimmed =>
          rw [Js.trim, String.toList_ofList, sanitizeText, Js.trimList_trimList]
        case nonempty => exact nonempty
        case plain => exact fun c mem => (shape c mem).2
        case cleared =>
          intro c mem
          rcases (shape c mem).1 with kept | letter
          · rcases clears.mem kept with space | kept
            · rw [space]
              exact harmless ' ' List.mem_cons_self
            · exact kept.2
          · exact harmless c (List.mem_cons_of_mem ' ' letter)

theorem sanitizeText_eq_self_iff (clears : Clears control clear) {cs : List Char}
    (trimmed : Js.trimList cs = cs) (plain : ∀ c ∈ cs, c ≠ '<' ∧ c ≠ '>') :
    sanitizeText clear maxLength cs = cs ↔
      clear cs = cs ∧ Js.length (String.ofList cs) ≤ maxLength ∧ hasMarker cs = false := by
  have cut := takeUnits_shrinks maxLength
  have drop : Shrinks Js.units (dropMarkers 0) :=
    Shrinks.of_sublist Js.units_pos (dropMarkers_sublist 0)
  have trim : Shrinks Js.units Js.trimList := Shrinks.of_sublist Js.units_pos trimList_sublist
  have unescaped : ∀ c ∈ Js.takeUnits maxLength (clear cs), c ≠ '<' ∧ c ≠ '>' := by
    intro c mem
    rcases Js.mem_takeUnits mem with mem | half
    · rcases clears.mem mem with space | kept
      · rw [space]
        decide
      · exact plain c kept.1
    · rw [half]
      decide
  unfold sanitizeText
  rw [escapeList_of_plain unescaped, ((clears.shrinks.comp cut).comp drop).comp_eq_self_iff trim,
    (clears.shrinks.comp cut).comp_eq_self_iff drop, clears.shrinks.comp_eq_self_iff cut,
    Js.takeUnits_eq_self_iff, dropMarkers_eq_self_iff]
  tauto

theorem normalizeEvidenceText_eq_self_iff (clears : Clears control clear)
    (fixed : sanitizeText clear maxLength placeholder.toList = placeholder.toList)
    (sanitized : Sanitized control text) :
    normalizeEvidenceText clear maxLength placeholder (some text) = some text ↔
      clear text.toList = text.toList ∧ Js.length text ≤ maxLength ∧
        hasMarker text.toList = false := by
  have whole : normalizeOptionalString (some text) = some text := by
    unfold normalizeOptionalString
    rw [Option.map_some, sanitized.trimmed]
    exact Option.filter_some_pos (by simpa using sanitized.nonempty)
  have trimmed : Js.trimList text.toList = text.toList := by
    have same := congrArg String.toList sanitized.trimmed
    rwa [Js.trim, String.toList_ofList] at same
  have kept := @sanitizeText_eq_self_iff _ _ maxLength clears _ trimmed sanitized.plain
  rw [String.ofList_toList] at kept
  rw [← kept]
  unfold normalizeEvidenceText
  rw [whole]
  dsimp only
  rw [Option.some.injEq]
  constructor
  · intro same
    split at same
    · rename_i empty
      rw [← same, fixed, String.ofList_toList] at empty
      exact absurd (same ▸ empty) sanitized.nonempty
    · rw [← String.toList_inj, String.toList_ofList] at same
      exact same
  · intro same
    rw [same, String.ofList_toList, if_neg sanitized.nonempty]

end Twice

theorem sanitized_noTitle : Sanitized isTitleControlChar "[No title]" where
  trimmed := by decide
  nonempty := by decide
  plain := Js.forall_mem_of_all (by decide)
  cleared := Js.forall_mem_of_all (by decide)

theorem sanitized_title {value : Option String} {text : String}
    (normalized : normalizeBriefEvidenceTitle value = some text) :
    Sanitized isTitleControlChar text := by
  exact sanitized_of_normalize clears_title (Js.forall_mem_of_all (by decide)) sanitized_noTitle
    normalized

theorem sanitized_contentRemoved : Sanitized isExcerptControlChar "[Content removed]" where
  trimmed := by decide
  nonempty := by decide
  plain := Js.forall_mem_of_all (by decide)
  cleared := Js.forall_mem_of_all (by decide)

theorem sanitized_excerpt {value : Option String} {maxLength : Nat} {text : String}
    (normalized : normalizeBriefEvidenceExcerpt value maxLength = some text) :
    Sanitized isExcerptControlChar text := by
  exact sanitized_of_normalize clears_excerpt (Js.forall_mem_of_all (by decide)) sanitized_contentRemoved
    normalized

/-- A normalised title is normal if it fits and no marker came together in it. -/
theorem normalizeBriefEvidenceTitle_eq_self_iff {value : Option String} {text : String}
    (normalized : normalizeBriefEvidenceTitle value = some text) :
    normalizeBriefEvidenceTitle (some text) = some text ↔
      Js.length text ≤ titleMaxLength ∧ hasMarker text.toList = false := by
  have sanitized := sanitized_title normalized
  have cleared : clearTitle text.toList = text.toList := by
    unfold clearTitle
    rw [List.filter_eq_self]
    intro c mem
    simp [sanitized.cleared c mem]
  unfold normalizeBriefEvidenceTitle
  rw [normalizeEvidenceText_eq_self_iff clears_title (by decide) sanitized]
  exact ⟨fun all => all.2, fun rest => ⟨cleared, rest⟩⟩

/-- A normalised excerpt is normal, whatever limit it was cut to, if besides there is no run of white
space left to squeeze. -/
theorem normalizeBriefEvidenceExcerpt_eq_self_iff {value : Option String} {maxLength : Nat}
    {text : String} (normalized : normalizeBriefEvidenceExcerpt value maxLength = some text) :
    normalizeBriefEvidenceExcerpt (some text) briefEvidenceExcerptMaxLength = some text ↔
      squeezeList [] text.toList = text.toList ∧ Js.length text ≤ briefEvidenceExcerptMaxLength ∧
        hasMarker text.toList = false := by
  have sanitized := sanitized_excerpt normalized
  have cleared : (text.toList.filter fun c => !isExcerptControlChar c) = text.toList := by
    rw [List.filter_eq_self]
    intro c mem
    simp [sanitized.cleared c mem]
  unfold normalizeBriefEvidenceExcerpt
  rw [normalizeEvidenceText_eq_self_iff clears_excerpt (by decide) sanitized, clearExcerpt, cleared]

end RisingIntelligence
