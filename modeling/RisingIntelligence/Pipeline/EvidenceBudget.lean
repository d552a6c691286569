import RisingIntelligence.Pipeline.BriefingHandoff
import RisingIntelligence.Pipeline.EvidenceMarkers

/-!
# The size of evidence

How long the texts of a summary request are.  A text is cut before its angle brackets are escaped, so
its normal form is longer than the limit where escaping adds more than the markers and the white space
taken out of it had.

* `cutText` is the part of a text within the limit, `keptText` what a normaliser keeps of it.
* Each angle bracket of the cut text costs three characters; they fit into the room that the kept
  text leaves below the limit, or they do not.
-/

namespace RisingIntelligence

open Js (MessageApi UrlApi)

/-! ## Sizes -/

def isAngle (c : Char) : Bool := c == '<' || c == '>'

/-- The part of a trimmed text that is cleared and cut. -/
def cutText (clear : List Char → List Char) (maxLength : Nat) (text : String) : List Char :=
  Js.takeUnits maxLength (clear text.toList)

/-- The cut text without its markers in brackets and the white space at its ends. -/
def keptText (clear : List Char → List Char) (maxLength : Nat) (text : String) : List Char :=
  Js.trimList (removeTokens Char.toLower bracketMarkers 0 (cutText clear maxLength text))

/-- The angle brackets in the cut text. -/
def angleCount (clear : List Char → List Char) (maxLength : Nat) (value : Option String) : Nat :=
  match normalizeOptionalString value with
  | none => 0
  | some normalized => (cutText clear maxLength normalized).countP isAngle

/-- How long a text is before any escape: nothing where it is blank or missing, the placeholder where
nothing of it is kept. -/
def unescapedLength (clear : List Char → List Char) (maxLength : Nat) (placeholder : String)
    (value : Option String) : Nat :=
  match normalizeOptionalString value with
  | none => 0
  | some normalized =>
      let kept := keptText clear maxLength normalized
      if kept = [] then Js.length placeholder else Js.length (String.ofList kept)

def total (sizes : List Nat) : Nat := sizes.foldl (· + ·) 0

def evidenceItems (topics : List SummaryRequestTopicInput) : List BriefEvidenceRecordInput :=
  topics.flatMap SummaryRequestTopicInput.evidence

def evidencePayloads (topics : List TopicPayload) : List EvidencePayload :=
  topics.flatMap TopicPayload.evidence

/-- `Math.max(TARGET_TOTAL_EVIDENCE_EXCERPT_CHARS, MIN_EVIDENCE_EXCERPT_LENGTH * n)` -/
def excerptBudget (evidenceCount : Nat) : Nat := max 10000 (160 * evidenceCount)

/-- A payload within the budget of its evidence. -/
structure WithinBudget (evidenceCount : Nat) (payload : SummaryRequestPayload) : Prop where
  excerpts : total ((evidencePayloads payload.topics).map fun evidence =>
    Js.length evidence.textExcerpt) ≤ excerptBudget evidenceCount
  titles : ∀ evidence ∈ evidencePayloads payload.topics, Js.length evidence.title ≤ titleMaxLength

/-- The escapes fit into the room that the texts leave below their limits. -/
structure FitsBudget (topics : List SummaryRequestTopicInput) : Prop where
  excerpts : 3 * total ((evidenceItems topics).map fun evidence =>
      angleCount clearExcerpt (resolveBriefEvidenceExcerptMaxLength topics) evidence.textExcerpt) ≤
    excerptBudget (countEvidenceItems topics) - total ((evidenceItems topics).map fun evidence =>
      unescapedLength clearExcerpt (resolveBriefEvidenceExcerptMaxLength topics)
        "[Content removed]" evidence.textExcerpt)
  titles : ∀ evidence ∈ evidenceItems topics,
    3 * angleCount clearTitle titleMaxLength evidence.title ≤
      titleMaxLength - unescapedLength clearTitle titleMaxLength "[No title]" evidence.title

/-! ## Escaping and taking out -/

section Escape

variable {c : Char} {cs rest : List Char}

theorem escapeList_append (first second : List Char) :
    escapeList (first ++ second) = escapeList first ++ escapeList second := by
  unfold escapeList
  rw [List.flatMap_append, List.flatMap_append]

theorem escapeList_cons (c : Char) (rest : List Char) :
    escapeList (c :: rest) = escapeList [c] ++ escapeList rest :=
  escapeList_append [c] rest

theorem escapeList_plain (plain : isAngle c = false) : escapeList [c] = [c] := by
  apply escapeList_of_plain
  intro other mem
  obtain rfl := List.mem_singleton.1 mem
  simpa [isAngle] using plain

theorem eq_angle (angle : isAngle c = true) : c = '<' ∨ c = '>' := by
  simpa [isAngle] using angle

theorem length_escapeList (cs : List Char) :
    Js.length (String.ofList (escapeList cs)) =
      Js.length (String.ofList cs) + 3 * cs.countP isAngle := by
  induction cs with
  | nil => rfl
  | cons c rest ih =>
      rw [escapeList_cons, List.countP_cons, Js.length_cons]
      cases angle : isAngle c with
      | false =>
          rw [escapeList_plain angle, List.singleton_append, Js.length_cons, ih]
          simp
          omega
      | true =>
          have long : ∀ rest, Js.length (String.ofList (escapeList [c] ++ rest)) =
              4 + Js.length (String.ofList rest) := by
            intro rest
            rcases eq_angle angle with rfl | rfl
            · change Js.length (String.ofList ('&' :: 'l' :: 't' :: ';' :: rest)) = _
              rw [Js.length_cons, Js.length_cons, Js.length_cons, Js.length_cons]
              simp only [Js.units]
              simp
              omega
            · change Js.length (String.ofList ('&' :: 'g' :: 't' :: ';' :: rest)) = _
              rw [Js.length_cons, Js.length_cons, Js.length_cons, Js.length_cons]
              simp only [Js.units]
              simp
              omega
          have single : Js.units c = 1 := by
            rcases eq_angle angle with rfl | rfl <;> rfl
          rw [long, ih, single, if_pos rfl]
          omega

/-- A word without angle brackets and the sign that starts an escape is where it was. -/
theorem prefix_escapeList_iff {word : List Char} (letters : ∀ c ∈ word, c ≠ '&' ∧ isAngle c = false) :
    word <+: (escapeList cs).map Char.toLower ↔ word <+: cs.map Char.toLower := by
  induction cs generalizing word with
  | nil => exact Iff.rfl
  | cons c rest ih =>
      cases word with
      | nil =>
          constructor <;> intro _ <;> exact List.nil_prefix
      | cons first word =>
          have head := letters first List.mem_cons_self
          rw [escapeList_cons]
          cases angle : isAngle c with
          | false =>
              rw [escapeList_plain angle, List.singleton_append, List.map_cons, List.map_cons,
                List.cons_prefix_cons, List.cons_prefix_cons,
                ih fun other mem => letters other (List.mem_cons_of_mem first mem)]
          | true =>
              have escaped : ∃ more, escapeList [c] = '&' :: more := by
                rcases eq_angle angle with rfl | rfl
                · exact ⟨"lt;".toList, by decide⟩
                · exact ⟨"gt;".toList, by decide⟩
              obtain ⟨more, same⟩ := escaped
              have small : c.toLower = c := by
                rcases eq_angle angle with rfl | rfl <;> rfl
              rw [same, List.cons_append, List.map_cons, List.map_cons, List.cons_prefix_cons,
                List.cons_prefix_cons, small]
              constructor
              · intro initial
                exact absurd initial.1 head.1
              · intro initial
                rw [initial.1, angle] at head
                cases head.2

theorem letters_of_bracketMarkers {marker : List Char} (mem : marker ∈ bracketMarkers) :
    ∀ c ∈ marker, c ≠ '&' ∧ isAngle c = false := by
  have all : bracketMarkers.all (fun marker => marker.all fun c => c != '&' && !isAngle c) = true := by
    decide
  simpa using List.all_eq_true.1 all marker mem

theorem tokenAt_escapeList :
    tokenAt Char.toLower bracketMarkers (escapeList cs) =
      tokenAt Char.toLower bracketMarkers cs := by
  have same : ∀ marker, tokenAt Char.toLower bracketMarkers (escapeList cs) = some marker ↔
      tokenAt Char.toLower bracketMarkers cs = some marker := by
    intro marker
    rw [fenced_bracketMarkers.tokenAt_eq_some_iff, fenced_bracketMarkers.tokenAt_eq_some_iff]
    apply and_congr_right
    intro mem
    exact prefix_escapeList_iff (letters_of_bracketMarkers mem)
  exact Option.ext same

theorem map_take_of_tokenAt {marker : List Char}
    (found : tokenAt Char.toLower bracketMarkers cs = some marker) :
    (cs.take marker.length).map Char.toLower = marker := by
  have there := fenced_bracketMarkers.tokenAt_eq_some_iff.1 found
  rw [List.map_take, ← List.prefix_iff_eq_take.1 there.2]

theorem plain_of_tokenAt {marker : List Char}
    (found : tokenAt Char.toLower bracketMarkers cs = some marker) :
    ∀ c ∈ cs.take marker.length, ¬ isAngle c = true := by
  have there := fenced_bracketMarkers.tokenAt_eq_some_iff.1 found
  intro c mem angle
  have letter := letters_of_bracketMarkers there.1 c.toLower
    (map_take_of_tokenAt found ▸ List.mem_map_of_mem mem)
  rcases eq_angle angle with rfl | rfl
  · cases letter.2
  · cases letter.2

/-- A token at the start of a text is not escaped. -/
theorem drop_escapeList {marker : List Char}
    (found : tokenAt Char.toLower bracketMarkers cs = some marker) :
    (escapeList cs).drop marker.length = escapeList (cs.drop marker.length) := by
  have plain : ∀ c ∈ cs.take marker.length, c ≠ '<' ∧ c ≠ '>' := by
    intro c mem
    simpa [isAngle] using plain_of_tokenAt found c mem
  have spelling := map_take_of_tokenAt found
  have length : (cs.take marker.length).length = marker.length := by
    have same := congrArg List.length spelling
    rwa [List.length_map] at same
  conv_lhs => rw [← List.take_append_drop marker.length cs]
  rw [escapeList_append, escapeList_of_plain plain]
  exact List.drop_left' length

theorem removeTokens_escapeList (cs : List Char) :
    removeTokens Char.toLower bracketMarkers 0 (escapeList cs) =
      escapeList (removeTokens Char.toLower bracketMarkers 0 cs) := by
  induction size : cs.length using Nat.strongRecOn generalizing cs with
  | _ size ih =>
      subst size
      cases found : tokenAt Char.toLower bracketMarkers cs with
      | some marker =>
          have escaped := tokenAt_escapeList.trans found
          rw [removeTokens_of_some fenced_bracketMarkers escaped, drop_escapeList found,
            removeTokens_of_some fenced_bracketMarkers found]
          exact ih _ (fenced_bracketMarkers.length_drop_lt found) _ rfl
      | none =>
          cases cs with
          | nil => rfl
          | cons c rest =>
              have later := ih rest.length (Nat.lt_succ_self _) rest rfl
              have escaped := tokenAt_escapeList.trans found
              rw [removeTokens_of_none found, escapeList_cons c (removeTokens _ _ 0 rest), ← later]
              rw [escapeList_cons] at escaped ⊢
              cases angle : isAngle c with
              | false =>
                  rw [escapeList_plain angle] at escaped ⊢
                  exact removeTokens_of_none escaped
              | true =>
                  -- no letter of an escape opens a marker
                  have skip : ∀ {c : Char} {after : List Char}, c.toLower ≠ '[' →
                      removeTokens Char.toLower bracketMarkers 0 (c :: after) =
                        c :: removeTokens Char.toLower bracketMarkers 0 after :=
                    fun other => removeTokens_of_none (fenced_bracketMarkers.tokenAt_of_ne other)
                  rcases eq_angle angle with rfl | rfl
                  · change removeTokens _ _ 0 ('&' :: 'l' :: 't' :: ';' :: escapeList rest) = _
                    rw [skip (by decide), skip (by decide), skip (by decide), skip (by decide)]
                    rfl
                  · change removeTokens _ _ 0 ('&' :: 'g' :: 't' :: ';' :: escapeList rest) = _
                    rw [skip (by decide), skip (by decide), skip (by decide), skip (by decide)]
                    rfl

theorem dropWhile_escapeList (cs : List Char) :
    (escapeList cs).dropWhile Js.isWhitespace = escapeList (cs.dropWhile Js.isWhitespace) := by
  induction cs with
  | nil => rfl
  | cons c rest ih =>
      cases angle : isAngle c with
      | true =>
          rw [escapeList_cons]
          rcases eq_angle angle with rfl | rfl <;> rfl
      | false =>
          rw [escapeList_cons, escapeList_plain angle, List.singleton_append]
          cases blank : Js.isWhitespace c with
          | true => rw [List.dropWhile_cons_of_pos blank, List.dropWhile_cons_of_pos blank, ih]
          | false =>
              have solid : ¬ Js.isWhitespace c = true := by simp [blank]
              rw [List.dropWhile_cons_of_neg solid, List.dropWhile_cons_of_neg solid,
                escapeList_cons c rest, escapeList_plain angle, List.singleton_append]

theorem rdropWhile_escapeList (cs : List Char) :
    (escapeList cs).rdropWhile Js.isWhitespace = escapeList (cs.rdropWhile Js.isWhitespace) := by
  induction cs using List.reverseRecOn with
  | nil => rfl
  | append_singleton cs c ih =>
      rw [escapeList_append]
      cases angle : isAngle c with
      | true =>
          have kept : ∀ {before : List Char} {last : Char}, Js.isWhitespace last = false →
              (before ++ [last]).rdropWhile Js.isWhitespace = before ++ [last] :=
            fun solid => List.rdropWhile_concat_neg _ _ _ (by simp [solid])
          rcases eq_angle angle with rfl | rfl
          · rw [kept (by decide), escapeList_append]
            change (escapeList cs ++ ("&lt".toList ++ [';'])).rdropWhile _ = _
            rw [← List.append_assoc, kept (by decide), List.append_assoc]
            rfl
          · rw [kept (by decide), escapeList_append]
            change (escapeList cs ++ ("&gt".toList ++ [';'])).rdropWhile _ = _
            rw [← List.append_assoc, kept (by decide), List.append_assoc]
            rfl
      | false =>
          rw [escapeList_plain angle]
          cases blank : Js.isWhitespace c with
          | true => rw [List.rdropWhile_concat_pos _ _ _ blank, List.rdropWhile_concat_pos _ _ _ blank, ih]
          | false =>
              have solid : ¬ Js.isWhitespace c = true := by simp [blank]
              rw [List.rdropWhile_concat_neg _ _ _ solid, List.rdropWhile_concat_neg _ _ _ solid,
                escapeList_append, escapeList_plain angle]

theorem trimList_escapeList (cs : List Char) :
    Js.trimList (escapeList cs) = escapeList (Js.trimList cs) := by
  rw [Js.trimList_eq_rdropWhile, Js.trimList_eq_rdropWhile, dropWhile_escapeList,
    rdropWhile_escapeList]

theorem sanitizeText_eq (clear : List Char → List Char) (maxLength : Nat) (text : String) :
    sanitizeText clear maxLength text.toList = escapeList (keptText clear maxLength text) := by
  have plain : ∀ c ∈ escapeList (cutText clear maxLength text), c ≠ '<' :=
    fun c mem => (mem_escapeList mem).2.1
  unfold cutText at plain
  unfold sanitizeText keptText cutText
  rw [dropMarkers_of_plain plain, removeTokens_escapeList, trimList_escapeList]

end Escape

/-! ## Normalised texts -/

section Normalised

variable {clear : List Char → List Char} {maxLength : Nat} {placeholder text : String}
  {value : Option String}

theorem not_isAngle_of_isWhitespace (c : Char) (blank : Js.isWhitespace c = true) :
    ¬ isAngle c = true := by
  intro angle
  rcases eq_angle angle with rfl | rfl
  · cases blank
  · cases blank

/-- A marker in brackets has no angle bracket. -/
theorem countP_isAngle_removeTokens (cs : List Char) :
    (removeTokens Char.toLower bracketMarkers 0 cs).countP isAngle = cs.countP isAngle := by
  induction size : cs.length using Nat.strongRecOn generalizing cs with
  | _ size ih =>
      subst size
      cases found : tokenAt Char.toLower bracketMarkers cs with
      | some marker =>
          rw [removeTokens_of_some fenced_bracketMarkers found,
            ih _ (fenced_bracketMarkers.length_drop_lt found) _ rfl]
          conv_rhs => rw [← List.take_append_drop marker.length cs]
          rw [List.countP_append, List.countP_eq_zero.2 (plain_of_tokenAt found), Nat.zero_add]
      | none =>
          cases cs with
          | nil => rfl
          | cons c rest =>
              rw [removeTokens_of_none found, List.countP_cons, List.countP_cons,
                ih rest.length (Nat.lt_succ_self _) rest rfl]

theorem countP_isAngle_keptText (text : String) :
    (keptText clear maxLength text).countP isAngle =
      (cutText clear maxLength text).countP isAngle := by
  unfold keptText
  rw [Js.countP_trimList not_isAngle_of_isWhitespace, countP_isAngle_removeTokens]

/-- Taking out and trimming leave no more than the limit. -/
theorem length_keptText_le (text : String) :
    Js.length (String.ofList (keptText clear maxLength text)) ≤ maxLength := by
  have kept : (keptText clear maxLength text).Sublist (cutText clear maxLength text) :=
    (trimList_sublist _).trans (removeTokens_sublist 0 _)
  have lighter := eq_or_totalWeightOf_lt Js.units_pos kept
  have cut := Js.length_takeUnits maxLength (clear text.toList)
  rw [length_eq_totalWeightOf] at cut ⊢
  unfold cutText at lighter
  rcases lighter with same | lighter
  · rw [same]
    omega
  · omega

theorem unescapedLength_le : unescapedLength clear maxLength placeholder value ≤
    max maxLength (Js.length placeholder) := by
  unfold unescapedLength
  split
  · exact Nat.zero_le _
  · dsimp only
    split
    · exact Nat.le_max_right _ _
    · exact (length_keptText_le _).trans (Nat.le_max_left _ _)

/-- Each angle bracket makes the text three characters longer. -/
theorem length_normalizeEvidenceText :
    Js.length ((normalizeEvidenceText clear maxLength placeholder value).getD "") =
      unescapedLength clear maxLength placeholder value + 3 * angleCount clear maxLength value := by
  unfold normalizeEvidenceText unescapedLength angleCount
  cases normalizeOptionalString value with
  | none => rfl
  | some whole =>
      dsimp only
      rw [sanitizeText_eq, Option.getD_some, ← countP_isAngle_keptText]
      have long := length_escapeList (keptText clear maxLength whole)
      have empty : String.ofList (escapeList (keptText clear maxLength whole)) = "" ↔
          keptText clear maxLength whole = [] := by
        rw [← String.toList_inj, String.toList_ofList]
        constructor
        · intro nothing
          cases kept : keptText clear maxLength whole with
          | nil => rfl
          | cons c rest =>
              have unit := Js.units_pos c
              rw [nothing, kept, Js.length_cons] at long
              change 0 = _ at long
              omega
        · intro nothing
          rw [nothing]
          rfl
      by_cases nothing : keptText clear maxLength whole = []
      · rw [if_pos (empty.2 nothing), if_pos nothing, nothing]
        rfl
      · rw [if_neg fun same => nothing (empty.1 same), if_neg nothing, long]

/-- A normalised text is within its limit and the length of its placeholder if the escapes fit into
the room that is left. -/
theorem length_normalized_le_iff
    (normalized : normalizeEvidenceText clear maxLength placeholder value = some text) :
    Js.length text ≤ max maxLength (Js.length placeholder) ↔
      3 * angleCount clear maxLength value ≤ max maxLength (Js.length placeholder) -
        unescapedLength clear maxLength placeholder value := by
  have length := @length_normalizeEvidenceText clear maxLength placeholder value
  have room := @unescapedLength_le clear maxLength placeholder value
  rw [normalized, Option.getD_some] at length
  omega

end Normalised

/-! ## Requests -/

section Requests

variable {api : MessageApi} {urls : UrlApi} {input : BriefingJobInput}
  {payload : SummaryRequestPayload} {topics : List SummaryRequestTopicInput}

theorem countEvidenceItems_eq : countEvidenceItems topics = (evidenceItems topics).length := by
  have from_ : ∀ start, topics.foldl (fun count topic => count + topic.evidence.length) start =
      start + (evidenceItems topics).length := by
    unfold evidenceItems
    induction topics with
    | nil => intro start; rfl
    | cons topic topics ih =>
        intro start
        rw [List.foldl_cons, ih, List.flatMap_cons, List.length_append]
        omega
  unfold countEvidenceItems
  rw [from_, Nat.zero_add]

/-- The limit of an excerpt leaves room for all of them. -/
theorem limit_mul_le (evidence : 1 ≤ countEvidenceItems topics) :
    resolveBriefEvidenceExcerptMaxLength topics * countEvidenceItems topics ≤
      excerptBudget (countEvidenceItems topics) := by
  unfold resolveBriefEvidenceExcerptMaxLength excerptBudget
  dsimp only
  rw [if_neg (by omega)]
  generalize countEvidenceItems topics = count at evidence ⊢
  have share : 10000 / count * count ≤ 10000 := Nat.div_mul_le_self 10000 count
  rcases Nat.le_total 160 (min briefEvidenceExcerptMaxLength (10000 / count)) with above | below
  · rw [Nat.max_eq_right above]
    have least : min briefEvidenceExcerptMaxLength (10000 / count) ≤ 10000 / count :=
      Nat.min_le_right _ _
    have fits := Nat.mul_le_mul_right count least
    omega
  · rw [Nat.max_eq_left below]
    omega

theorem total_cons (size : Nat) (sizes : List Nat) : total (size :: sizes) = size + total sizes := by
  have from_ : ∀ (sizes : List Nat) (start : Nat),
      sizes.foldl (· + ·) start = start + sizes.foldl (· + ·) 0 := by
    intro sizes
    induction sizes with
    | nil => intro start; rfl
    | cons size sizes ih =>
        intro start
        rw [List.foldl_cons, List.foldl_cons, ih, ih (0 + size)]
        omega
  unfold total
  rw [List.foldl_cons, from_, Nat.zero_add]

theorem total_map_le {α : Type} {items : List α} {size : α → Nat} {limit : Nat}
    (each : ∀ item ∈ items, size item ≤ limit) :
    total (items.map size) ≤ limit * items.length := by
  induction items with
  | nil => exact Nat.zero_le _
  | cons item items ih =>
      have head := each item List.mem_cons_self
      have tail := ih fun other mem => each other (List.mem_cons_of_mem item mem)
      rw [List.map_cons, total_cons, List.length_cons, Nat.mul_succ]
      omega

theorem forall₂_evidence {excerptMaxLength : Nat} {written : List TopicPayload}
    (created : List.Forall₂ (CreatedTopic api urls excerptMaxLength) topics written) :
    List.Forall₂ (fun evidence written => ∃ record,
      buildBriefEvidenceRecord api urls evidence excerptMaxLength = .ok record ∧
        written = evidencePayload api record) (evidenceItems topics) (evidencePayloads written) := by
  unfold evidenceItems evidencePayloads
  induction created with
  | nil => exact .nil
  | cons head _ ih =>
      rw [List.flatMap_cons, List.flatMap_cons]
      exact List.rel_append head.evidence ih

theorem total_map_add {α : Type} (items : List α) (size extra : α → Nat) :
    total (items.map fun item => size item + 3 * extra item) =
      total (items.map size) + 3 * total (items.map extra) := by
  induction items with
  | nil => rfl
  | cons item items ih =>
      rw [List.map_cons, List.map_cons, List.map_cons, total_cons, total_cons, total_cons, ih]
      omega

/-- The texts of a payload have the lengths of the normalised texts. -/
theorem lengths_of_build (built : buildSummaryRequestPayload api urls input = .ok payload) :
    ((evidencePayloads payload.topics).map fun evidence => Js.length evidence.textExcerpt) =
      ((evidenceItems input.topics).map fun evidence =>
        unescapedLength clearExcerpt (resolveBriefEvidenceExcerptMaxLength input.topics)
            "[Content removed]" evidence.textExcerpt +
          3 * angleCount clearExcerpt (resolveBriefEvidenceExcerptMaxLength input.topics)
            evidence.textExcerpt) ∧
    ((evidencePayloads payload.topics).map fun evidence => Js.length evidence.title) =
      ((evidenceItems input.topics).map fun evidence =>
        unescapedLength clearTitle titleMaxLength "[No title]" evidence.title +
          3 * angleCount clearTitle titleMaxLength evidence.title) := by
  have job : createBriefingJobPayload api urls input = .ok { payload with
      report := payload.report.bind presentReport
      llmProvider := input.llmProvider } := by
    unfold createBriefingJobPayload
    rw [built]
    rfl
  have records := forall₂_evidence (created_of_ok job).topics
  constructor
  · apply map_eq_of_forall₂ records
    intro evidence written there
    obtain ⟨record, made, rfl⟩ := there
    obtain ⟨source, publishedAt, fetchedAt, -, -, -, rfl⟩ := buildBriefEvidenceRecord_eq_ok.1 made
    exact length_normalizeEvidenceText
  · apply map_eq_of_forall₂ records
    intro evidence written there
    obtain ⟨record, made, rfl⟩ := there
    obtain ⟨source, publishedAt, fetchedAt, -, -, -, rfl⟩ := buildBriefEvidenceRecord_eq_ok.1 made
    exact length_normalizeEvidenceText

/-- Excerpts that are within their limit are within the budget together. -/
theorem total_le_excerptBudget (evidence : 1 ≤ countEvidenceItems input.topics)
    (built : buildSummaryRequestPayload api urls input = .ok payload)
    (each : ∀ evidence ∈ evidencePayloads payload.topics,
      Js.length evidence.textExcerpt ≤ resolveBriefEvidenceExcerptMaxLength input.topics) :
    total ((evidencePayloads payload.topics).map fun evidence => Js.length evidence.textExcerpt) ≤
      excerptBudget (countEvidenceItems input.topics) := by
  have count := congrArg List.length (lengths_of_build built).1
  rw [List.length_map, List.length_map, ← countEvidenceItems_eq] at count
  have sum := total_map_le each
  rw [count] at sum
  exact sum.trans (limit_mul_le evidence)

/-- Without any escape the excerpts are within the budget. -/
theorem total_unescapedLength_le (evidence : 1 ≤ countEvidenceItems topics) :
    total ((evidenceItems topics).map fun evidence =>
      unescapedLength clearExcerpt (resolveBriefEvidenceExcerptMaxLength topics)
        "[Content removed]" evidence.textExcerpt) ≤ excerptBudget (countEvidenceItems topics) := by
  have least : Js.length "[Content removed]" ≤ resolveBriefEvidenceExcerptMaxLength topics := by
    have length : Js.length "[Content removed]" = 17 := by decide
    unfold resolveBriefEvidenceExcerptMaxLength
    dsimp only
    split
    · rw [length]
      decide
    · omega
  have each : ∀ evidence ∈ evidenceItems topics, _ ≤ resolveBriefEvidenceExcerptMaxLength topics :=
    fun evidence _ =>
      (@unescapedLength_le clearExcerpt (resolveBriefEvidenceExcerptMaxLength topics)
        "[Content removed]" evidence.textExcerpt).trans (Nat.max_le.2 ⟨Nat.le_refl _, least⟩)
  have sum := total_map_le each
  rw [← countEvidenceItems_eq] at sum
  exact sum.trans (limit_mul_le evidence)

theorem withinBudget_iff (evidence : 1 ≤ countEvidenceItems input.topics)
    (built : buildSummaryRequestPayload api urls input = .ok payload) :
    WithinBudget (countEvidenceItems input.topics) payload ↔ FitsBudget input.topics := by
  obtain ⟨excerpts, titles⟩ := lengths_of_build built
  have room := total_unescapedLength_le evidence
  have sum := congrArg total excerpts
  rw [total_map_add] at sum
  have each : (∀ evidence ∈ evidencePayloads payload.topics,
        Js.length evidence.title ≤ titleMaxLength) ↔
      ∀ evidence ∈ evidenceItems input.topics,
        3 * angleCount clearTitle titleMaxLength evidence.title ≤
          titleMaxLength - unescapedLength clearTitle titleMaxLength "[No title]" evidence.title := by
    rw [← List.forall_mem_map (P := (· ≤ titleMaxLength)), titles, List.forall_mem_map]
    refine forall₂_congr fun evidence _ => ?_
    have below : unescapedLength clearTitle titleMaxLength "[No title]" evidence.title ≤
        titleMaxLength := unescapedLength_le
    omega
  constructor
  · intro within
    refine ⟨?_, each.1 within.titles⟩
    have inside := within.excerpts
    omega
  · intro fits
    refine ⟨?_, each.2 fits.titles⟩
    have inside := fits.excerpts
    omega

end Requests

/-- A normalised excerpt is within its limit exactly if three characters for each angle bracket of
the cut text fit into the room that the kept text leaves, and a request is within the budget of its
evidence exactly if all its escapes fit into the room of the budget and of the titles. -/
theorem excerpts_within_budget_iff (raw text : String) (maxLength : Nat) (api : MessageApi)
    (urls : UrlApi) (input : BriefingJobInput) (payload : SummaryRequestPayload) :
    (1 ≤ maxLength → normalizeBriefEvidenceExcerpt (some raw) maxLength = some text →
      (Js.length text ≤ max maxLength (Js.length "[Content removed]") ↔
        3 * (cutText clearExcerpt maxLength (Js.trim raw)).countP isAngle ≤
          max maxLength (Js.length "[Content removed]") -
            Js.length (String.ofList (keptText clearExcerpt maxLength (Js.trim raw))))) ∧
    (1 ≤ countEvidenceItems input.topics → buildSummaryRequestPayload api urls input = .ok payload →
      (WithinBudget (countEvidenceItems input.topics) payload ↔ FitsBudget input.topics)) := by
  constructor
  · intro _ normalized
    have present : normalizeOptionalString (some raw) = some (Js.trim raw) := by
      unfold normalizeBriefEvidenceExcerpt normalizeEvidenceText at normalized
      cases whole : normalizeOptionalString (some raw) with
      | none =>
          rw [whole] at normalized
          cases normalized
      | some text =>
          unfold normalizeOptionalString at whole
          rw [Option.map_some] at whole
          rw [Option.eq_some_of_filter_eq_some whole]
    rw [length_normalized_le_iff normalized, angleCount, unescapedLength, present]
    dsimp only
    by_cases nothing : keptText clearExcerpt maxLength (Js.trim raw) = []
    · have none : (cutText clearExcerpt maxLength (Js.trim raw)).countP isAngle = 0 := by
        rw [← countP_isAngle_keptText, nothing]
        rfl
      rw [none]
      omega
    · rw [if_neg nothing]
  · intro evidence built
    exact withinBudget_iff evidence built

/-! ## One request -/

/-- A request with one piece of evidence. -/
def quotingInput (evidence : BriefEvidenceRecordInput) : BriefingJobInput where
  requestId := "r"
  requestedAt := .date (some 1704067200000)
  type := .daily
  windows := []
  topics := [{ topic := "ai", metrics := [], evidence := [evidence] }]

def quotingEvidence : BriefEvidenceRecordInput where
  eventId := "e"
  source := .inr "rss"
  title := some "News"
  textExcerpt := some "a < b"

def quotingPayload : SummaryRequestPayload where
  requestId := "r"
  requestedAt := "2024-01-01T00:00:00.000Z"
  type := .daily
  windows := []
  topics := [{
    topic := "ai"
    metrics := []
    evidence := [{
      eventId := "e"
      source := .own .rss
      url := ""
      title := "News"
      publishedAt := ""
      fetchedAt := ""
      textExcerpt := "a &lt; b" }] }]
  budget := none
  query := none
  report := none

theorem excerpts_within_budget_iff_quoting :
    (Js.length "a &lt; b" ≤ max 160 (Js.length "[Content removed]") ↔
      3 * (cutText clearExcerpt 160 (Js.trim "a < b")).countP isAngle ≤
        max 160 (Js.length "[Content removed]") -
          Js.length (String.ofList (keptText clearExcerpt 160 (Js.trim "a < b")))) ∧
    (WithinBudget (countEvidenceItems (quotingInput quotingEvidence).topics) quotingPayload ↔
      FitsBudget (quotingInput quotingEvidence).topics) :=
  let quoting := excerpts_within_budget_iff "a < b" "a &lt; b" 160 (Js.messagesFor .null) Js.plainUrls
    (quotingInput quotingEvidence) quotingPayload
  ⟨quoting.1 (by decide) (by decide), quoting.2 (by decide) (eq_ok_of_toOption (by decide +kernel))⟩

/-- Five angle brackets are cut to five and escaped to twenty characters. -/
theorem escapes_exceed_limit :
    ¬ ∀ raw maxLength text, 1 ≤ maxLength →
      normalizeBriefEvidenceExcerpt (some raw) maxLength = some text →
        Js.length text ≤ max maxLength (Js.length "[Content removed]") := by
  intro all
  have within := all "<<<<<" 5 "&lt;&lt;&lt;&lt;&lt;" (by decide) (by decide)
  revert within
  decide

end RisingIntelligence
