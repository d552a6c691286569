import RisingIntelligence.Pipeline.EvidenceText
import RisingIntelligence.Shared.Tokens

/-!
# Instruction markers in evidence

What the normalisers leave of the markers of a text.  The pass that takes them out finds no angle
bracket, for they are escaped by then, and it goes over the text once.

* `bracketMarkers` are the markers that the pass can find.
* `Disarmed` is what a normalised text is to be, `Disarmable` the texts whose normal form is so.
-/

namespace RisingIntelligence

/-! ## Markers -/

def bracketMarkers : List (List Char) := ["[inst]".toList, "[/inst]".toList, "[system]".toList]

def angleMarkers : List (List Char) := ["<<sys>>".toList, "<</sys>>".toList]

/-- The text has the word in it, in any case. -/
def Mentions (cs word : List Char) : Prop := word <:+: cs.map Char.toLower

/-- A text that is no threat to a prompt: a marker of the raw text is not even there in the spelling
that escapes its angle brackets. -/
structure Disarmed (control : Char → Bool) (raw text : String) : Prop where
  plain : ∀ c ∈ text.toList, c ≠ '<' ∧ c ≠ '>'
  cleared : ∀ c ∈ text.toList, control c = false
  unmarked : hasMarker text.toList = false
  gone : ∀ marker ∈ bracketMarkers ++ angleMarkers, Mentions raw.toList marker →
    ¬ Mentions text.toList (escapeList marker)

/-- The text that the markers are taken out of: trimmed, cleared, cut and escaped. -/
def escapedText (clear : List Char → List Char) (maxLength : Nat) (raw : String) : List Char :=
  escapeList (Js.takeUnits maxLength (clear (Js.trim raw).toList))

/-- The text has no marker written around whole markers, and, where the raw text has a marker in
angle brackets, not its escaped spelling either. -/
structure Disarmable (clear : List Char → List Char) (maxLength : Nat) (raw : String) : Prop where
  unnested : ∀ marker ∈ bracketMarkers, ∀ nest, nest <:+: escapedText clear maxLength raw →
    Spells Char.toLower bracketMarkers marker nest → nest.length ≤ marker.length
  unspelled : ∀ marker ∈ angleMarkers, Mentions raw.toList marker →
    ∀ nest, nest <:+: escapedText clear maxLength raw →
      ¬ Spells Char.toLower bracketMarkers (escapeList marker) nest

theorem fenced_bracketMarkers : Fenced bracketMarkers '[' := by
  constructor <;> decide

section Markers

variable {c letter : Char} {cs : List Char}

/-- A character that is no small letter is no letter's small one. -/
theorem eq_of_toLower_eq (low : letter.toNat < 97) (same : c.toLower = letter) : c = letter := by
  unfold Char.toLower at same
  split at same
  · rename_i upper
    have least : 65 ≤ c.val.toNat := upper.1
    have most : c.val.toNat ≤ 90 := upper.2
    have value := congrArg (fun letter : Char => letter.val.toNat) same
    dsimp only at value
    rw [UInt32.toNat_add] at value
    have shift : ('a'.val - 'A'.val).toNat = 32 := rfl
    rw [shift] at value
    change letter.val.toNat < 97 at low
    omega
  · exact same

theorem toLower_of_isWhitespace (blank : Js.isWhitespace c = true) : c.toLower = c := by
  unfold Char.toLower
  rw [dif_neg]
  intro upper
  have least : 65 ≤ c.toNat := upper.1
  have most : c.toNat ≤ 90 := upper.2
  simp only [Js.isWhitespace, Bool.or_eq_true, Bool.and_eq_true, beq_iff_eq, decide_eq_true_eq]
    at blank
  omega

theorem prefix_iff_take {word : List Char} :
    ((cs.take word.length).map Char.toLower == word) = true ↔ word <+: cs.map Char.toLower :=
  take_map_eq_iff

theorem not_prefix_of_plain {word : List Char} (plain : ∀ c ∈ cs, c ≠ '<') :
    ¬ '<' :: word <+: cs.map Char.toLower := by
  intro initial
  obtain ⟨c, mem, same⟩ := List.mem_map.1 (initial.subset List.mem_cons_self)
  exact plain c mem (eq_of_toLower_eq (by decide) same)

theorem markerAt_of_plain (plain : ∀ c ∈ cs, c ≠ '<') :
    markerAt cs = tokenAt Char.toLower bracketMarkers cs := by
  have all : instructionMarkers = bracketMarkers ++ (angleMarkers ++ ["</sys>>".toList]) := rfl
  unfold markerAt tokenAt
  rw [all, List.find?_append]
  have absent : (angleMarkers ++ ["</sys>>".toList]).find?
      (fun marker => (cs.take marker.length).map Char.toLower == marker) = none := by
    rw [List.find?_eq_none]
    intro marker mem found
    have initial := prefix_iff_take.1 found
    simp only [angleMarkers, List.cons_append, List.nil_append, List.mem_cons, List.not_mem_nil,
      or_false] at mem
    rcases mem with rfl | rfl | rfl <;> exact not_prefix_of_plain plain initial
  rw [absent, Option.or_none]

theorem dropMarkers_of_plain (plain : ∀ c ∈ cs, c ≠ '<') (skip : Nat) :
    dropMarkers skip cs = removeTokens Char.toLower bracketMarkers skip cs := by
  induction cs generalizing skip with
  | nil => cases skip <;> rfl
  | cons c rest ih =>
      have later : ∀ c ∈ rest, c ≠ '<' := fun other mem => plain other (List.mem_cons_of_mem c mem)
      cases skip with
      | succ skip => exact ih later skip
      | zero =>
          unfold dropMarkers removeTokens
          rw [markerAt_of_plain plain]
          cases tokenAt Char.toLower bracketMarkers (c :: rest) with
          | none => exact congrArg (c :: ·) (ih later 0)
          | some marker => exact ih later _

theorem hasMarker_iff :
    hasMarker cs = true ↔ ∃ marker ∈ instructionMarkers, Mentions cs marker := by
  induction cs with
  | nil =>
      constructor
      · intro has
        cases has
      · intro there
        obtain ⟨marker, mem, mentions⟩ := there
        obtain rfl : marker = [] := List.infix_nil.1 mentions
        revert mem
        decide
  | cons c rest ih =>
      have here : (markerAt (c :: rest)).isSome = true ↔
          ∃ marker ∈ instructionMarkers, marker <+: (c :: rest).map Char.toLower := by
        unfold markerAt
        rw [List.find?_isSome]
        constructor
        · intro there
          obtain ⟨marker, mem, found⟩ := there
          exact ⟨marker, mem, prefix_iff_take.1 found⟩
        · intro there
          obtain ⟨marker, mem, initial⟩ := there
          exact ⟨marker, mem, prefix_iff_take.2 initial⟩
      unfold hasMarker Mentions
      rw [Bool.or_eq_true, here, ih, List.map_cons]
      constructor
      · intro either
        rcases either with ⟨marker, mem, initial⟩ | ⟨marker, mem, later⟩
        · exact ⟨marker, mem, initial.isInfix⟩
        · exact ⟨marker, mem, List.infix_cons later⟩
      · intro there
        obtain ⟨marker, mem, mentions⟩ := there
        rcases List.infix_cons_iff.1 mentions with initial | later
        · exact .inl ⟨marker, mem, initial⟩
        · exact .inr ⟨marker, mem, later⟩

/-! ## White space around a word -/

/-- Letters that are dropped at the start of a text are in none of its words. -/
theorem mentions_dropWhile {word : List Char} (nonempty : word ≠ [])
    (solid : ∀ c ∈ word, Js.isWhitespace c = false) :
    Mentions (cs.dropWhile Js.isWhitespace) word ↔ Mentions cs word := by
  induction cs with
  | nil => exact Iff.rfl
  | cons c rest ih =>
      cases blank : Js.isWhitespace c with
      | false => rw [List.dropWhile_cons_of_neg (by simp [blank])]
      | true =>
          rw [List.dropWhile_cons_of_pos blank, ih]
          unfold Mentions
          rw [List.map_cons, List.infix_cons_iff]
          constructor
          · exact .inr
          · intro either
            rcases either with initial | later
            · cases word with
              | nil => exact absurd rfl nonempty
              | cons first word =>
                  obtain rfl := (List.cons_prefix_cons.1 initial).1
                  have letter := solid _ List.mem_cons_self
                  rw [toLower_of_isWhitespace blank, blank] at letter
                  cases letter
            · exact later

theorem mentions_reverse {word : List Char} : Mentions cs.reverse word.reverse ↔ Mentions cs word := by
  unfold Mentions
  rw [List.map_reverse, List.reverse_infix]

theorem mentions_trimList {word : List Char} (nonempty : word ≠ [])
    (solid : ∀ c ∈ word, Js.isWhitespace c = false) :
    Mentions (Js.trimList cs) word ↔ Mentions cs word := by
  have solid' : ∀ c ∈ word.reverse, Js.isWhitespace c = false :=
    fun c mem => solid c (List.mem_reverse.1 mem)
  have nonempty' : word.reverse ≠ [] := by simpa using nonempty
  unfold Js.trimList
  rw [← mentions_reverse, List.reverse_reverse, mentions_dropWhile nonempty' solid',
    mentions_reverse, mentions_dropWhile nonempty solid]

end Markers

/-! ## Normalised texts -/

section Normalised

variable {control : Char → Bool} {clear : List Char → List Char} {maxLength : Nat}
  {raw placeholder text : String}

/-- The words of a disarmed text's markers: none of them has white space. -/
theorem solid_markers {word : List Char}
    (mem : word ∈ bracketMarkers ∨ word ∈ angleMarkers.map escapeList) :
    word ≠ [] ∧ ∀ c ∈ word, Js.isWhitespace c = false := by
  have all : (bracketMarkers ++ angleMarkers.map escapeList).all
      (fun word => !word.isEmpty && word.all fun c => !Js.isWhitespace c) = true := by decide
  have here := List.all_eq_true.1 all word (List.mem_append.2 mem)
  simpa using here

theorem mentions_sanitizeText {word : List Char}
    (mem : word ∈ bracketMarkers ∨ word ∈ angleMarkers.map escapeList) :
    Mentions (sanitizeText clear maxLength (Js.trim raw).toList) word ↔
      word <:+: (removeTokens Char.toLower bracketMarkers 0
        (escapedText clear maxLength raw)).map Char.toLower := by
  have plain : ∀ c ∈ escapedText clear maxLength raw, c ≠ '<' :=
    fun c mem => (mem_escapeList mem).2.1
  obtain ⟨nonempty, solid⟩ := solid_markers mem
  unfold sanitizeText
  rw [mentions_trimList nonempty solid]
  change Mentions (dropMarkers 0 (escapedText clear maxLength raw)) word ↔ _
  rw [dropMarkers_of_plain plain]
  exact Iff.rfl

theorem unnested_iff {marker : List Char} (mem : marker ∈ bracketMarkers) :
    ¬ Mentions (sanitizeText clear maxLength (Js.trim raw).toList) marker ↔
      ∀ nest, nest <:+: escapedText clear maxLength raw →
        Spells Char.toLower bracketMarkers marker nest → nest.length ≤ marker.length := by
  rw [mentions_sanitizeText (.inl mem), infix_removeTokens_iff_nested fenced_bracketMarkers mem]
  constructor
  · intro none nest inside spells
    by_contra longer
    exact none ⟨nest, inside, spells, Nat.lt_of_not_le longer⟩
  · intro all there
    obtain ⟨nest, inside, spells, longer⟩ := there
    exact absurd (all nest inside spells) (Nat.not_le_of_lt longer)

theorem unspelled_iff {marker : List Char} (mem : marker ∈ angleMarkers) :
    ¬ Mentions (sanitizeText clear maxLength (Js.trim raw).toList) (escapeList marker) ↔
      ∀ nest, nest <:+: escapedText clear maxLength raw →
        ¬ Spells Char.toLower bracketMarkers (escapeList marker) nest := by
  have shape : ∃ word, escapeList marker = '&' :: word ∧ '[' ∉ '&' :: word := by
    simp only [angleMarkers, List.mem_cons, List.not_mem_nil, or_false] at mem
    rcases mem with rfl | rfl
    · exact ⟨"lt;&lt;sys&gt;&gt;".toList, by decide, by decide⟩
    · exact ⟨"lt;&lt;/sys&gt;&gt;".toList, by decide, by decide⟩
  obtain ⟨word, same, closed⟩ := shape
  have outer : ∀ token ∈ bracketMarkers, '&' ∉ token.tail := by decide
  rw [mentions_sanitizeText (.inr (List.mem_map_of_mem mem)), same,
    infix_removeTokens_iff_spells fenced_bracketMarkers outer closed]
  constructor
  · intro none nest inside spells
    exact none ⟨nest, inside, spells⟩
  · intro all there
    obtain ⟨nest, inside, spells⟩ := there
    exact all nest inside spells

theorem hasMarker_eq_false_iff (plain : ∀ c ∈ text.toList, c ≠ '<') :
    hasMarker text.toList = false ↔ ∀ marker ∈ bracketMarkers, ¬ Mentions text.toList marker := by
  rw [← Bool.not_eq_true, hasMarker_iff]
  constructor
  · intro none marker mem mentions
    exact none ⟨marker, List.mem_append_left _ mem, mentions⟩
  · intro none there
    obtain ⟨marker, mem, mentions⟩ := there
    simp only [instructionMarkers, List.mem_cons, List.not_mem_nil, or_false] at mem
    have angle : ∀ word, ¬ Mentions text.toList ('<' :: word) := by
      intro word mentions
      obtain ⟨c, mem, same⟩ := List.mem_map.1 (mentions.subset List.mem_cons_self)
      exact plain c mem (eq_of_toLower_eq (by decide) same)
    rcases mem with rfl | rfl | rfl | rfl | rfl | rfl
    · exact none _ (by decide) mentions
    · exact none _ (by decide) mentions
    · exact none _ (by decide) mentions
    · exact angle _ mentions
    · exact angle _ mentions
    · exact angle _ mentions

theorem disarmed_iff (sanitized : Sanitized control text) :
    Disarmed control raw text ↔
      (∀ marker ∈ bracketMarkers, ¬ Mentions text.toList marker) ∧
        ∀ marker ∈ angleMarkers, Mentions raw.toList marker →
          ¬ Mentions text.toList (escapeList marker) := by
  have unmarked := hasMarker_eq_false_iff fun c mem => (sanitized.plain c mem).1
  constructor
  · intro disarmed
    exact ⟨unmarked.1 disarmed.unmarked,
      fun marker mem => disarmed.gone marker (List.mem_append_right _ mem)⟩
  · intro free
    constructor
    case plain => exact sanitized.plain
    case cleared => exact sanitized.cleared
    case unmarked => exact unmarked.2 free.1
    case gone =>
      intro marker mem mentions
      rcases List.mem_append.1 mem with bracket | angle
      · have kept : ∀ marker ∈ bracketMarkers, escapeList marker = marker := by decide
        rw [kept marker bracket]
        exact free.1 marker bracket
      · exact free.2 marker angle mentions

/-- A text that mentions no marker in either spelling. -/
structure Quiet (text : String) : Prop where
  bracket : ∀ marker ∈ bracketMarkers, ¬ Mentions text.toList marker
  escaped : ∀ marker ∈ angleMarkers, ¬ Mentions text.toList (escapeList marker)

theorem quiet_of_hasMarker (plain : ∀ c ∈ text.toList, c ≠ '<' ∧ c ≠ '&')
    (unmarked : hasMarker text.toList = false) : Quiet text := by
  constructor
  case bracket => exact (hasMarker_eq_false_iff fun c mem => (plain c mem).1).1 unmarked
  case escaped =>
    intro marker mem mentions
    have sign : ∀ marker ∈ angleMarkers, '&' ∈ escapeList marker := by decide
    obtain ⟨c, mem, same⟩ := List.mem_map.1 (mentions.subset (sign marker mem))
    exact (plain c mem).2 (eq_of_toLower_eq (by decide) same)

theorem disarmed_iff_disarmable (clears : Clears control clear)
    (harmless : ∀ c ∈ ' ' :: Js.halfPair :: "&ltg;".toList, control c = false)
    (other : Sanitized control placeholder) (quiet : Quiet placeholder)
    (normalized : normalizeEvidenceText clear maxLength placeholder (some raw) = some text) :
    Disarmed control raw text ↔ Disarmable clear maxLength raw := by
  have sanitized := sanitized_of_normalize clears harmless other normalized
  have split : Disarmable clear maxLength raw ↔
      (∀ marker ∈ bracketMarkers,
        ¬ Mentions (sanitizeText clear maxLength (Js.trim raw).toList) marker) ∧
      ∀ marker ∈ angleMarkers, Mentions raw.toList marker →
        ¬ Mentions (sanitizeText clear maxLength (Js.trim raw).toList) (escapeList marker) := by
    constructor
    · intro able
      exact ⟨fun marker mem => (unnested_iff mem).2 (able.unnested marker mem),
        fun marker mem mentions => (unspelled_iff mem).2 (able.unspelled marker mem mentions)⟩
    · intro free
      exact ⟨fun marker mem => (unnested_iff mem).1 (free.1 marker mem),
        fun marker mem mentions => (unspelled_iff mem).1 (free.2 marker mem mentions)⟩
  rw [disarmed_iff sanitized, split]
  unfold normalizeEvidenceText normalizeOptionalString at normalized
  rw [Option.map_some] at normalized
  cases present : (some (Js.trim raw)).filter (· ≠ "") with
  | none =>
      rw [present] at normalized
      cases normalized
  | some whole =>
      rw [present] at normalized
      obtain rfl : Js.trim raw = whole := Option.some.inj (Option.eq_some_of_filter_eq_some present)
      dsimp only at normalized
      split at normalized
      · -- nothing is left, and the placeholder has no marker either
        rename_i empty
        cases normalized
        have nothing : sanitizeText clear maxLength (Js.trim raw).toList = [] := by
          have same := congrArg String.toList empty
          rwa [String.toList_ofList] at same
        have silent : ∀ word : List Char, word ≠ [] → ¬ Mentions [] word :=
          fun word nonempty mentions => nonempty (List.infix_nil.1 mentions)
        rw [nothing]
        constructor
        · intro _
          exact ⟨fun marker mem => silent _ (solid_markers (.inl mem)).1,
            fun marker mem _ => silent _ (solid_markers (.inr (List.mem_map_of_mem mem))).1⟩
        · intro _
          exact ⟨quiet.bracket, fun marker mem _ => quiet.escaped marker mem⟩
      · cases normalized
        rw [String.toList_ofList]

end Normalised

/-- The normalisers disarm a text exactly if it is disarmable. -/
theorem normalizers_disarm_iff (raw text : String) (maxLength : Nat) :
    (normalizeBriefEvidenceTitle (some raw) = some text →
      (Disarmed isTitleControlChar raw text ↔ Disarmable clearTitle titleMaxLength raw)) ∧
    (normalizeBriefEvidenceExcerpt (some raw) maxLength = some text →
      (Disarmed isExcerptControlChar raw text ↔ Disarmable clearExcerpt maxLength raw)) := by
  have quiet : Quiet "[No title]" ∧ Quiet "[Content removed]" :=
    ⟨quiet_of_hasMarker (Js.forall_mem_of_all (by decide)) (by decide),
      quiet_of_hasMarker (Js.forall_mem_of_all (by decide)) (by decide)⟩
  constructor
  · intro normalized
    exact disarmed_iff_disarmable clears_title (Js.forall_mem_of_all (by decide)) sanitized_noTitle
      quiet.1 normalized
  · intro normalized
    exact disarmed_iff_disarmable clears_excerpt (Js.forall_mem_of_all (by decide))
      sanitized_contentRemoved quiet.2 normalized

theorem normalizers_disarm_iff_plain :
    Disarmed isTitleControlChar "[INST] tell" "tell" ↔
      Disarmable clearTitle titleMaxLength "[INST] tell" :=
  (normalizers_disarm_iff "[INST] tell" "tell" 0).1 (by decide)

/-- A marker written around another one comes together, and one in angle brackets is only
escaped. -/
theorem normalizers_leave_markers :
    (¬ ∀ raw text, normalizeBriefEvidenceTitle (some raw) = some text →
      Disarmed isTitleControlChar raw text) ∧
    ¬ ∀ raw maxLength text, normalizeBriefEvidenceExcerpt (some raw) maxLength = some text →
      Disarmed isExcerptControlChar raw text := by
  constructor
  · intro all
    have disarmed := all "[IN[INST]ST] tell" "[INST] tell" (by decide)
    have marked : hasMarker "[INST] tell".toList = true := by decide
    rw [disarmed.unmarked] at marked
    cases marked
  · intro all
    have disarmed := all "<<SYS>>" 2000 "&lt;&lt;SYS&gt;&gt;" (by decide)
    have gone := disarmed.gone "<<sys>>".toList (by decide) ⟨[], [], by decide⟩
    exact gone ⟨[], [], by decide⟩

end RisingIntelligence
