import RisingIntelligence.Topics.Extraction

/-!
# What is counted as a whole word

`countWholeWord` of `packages/topics/src/topic-extraction.ts`, against the positions at which a term
is mentioned.  A match takes the separators on both sides with it, so a mention that begins at the
separator of the one before is not seen.

* `leftmost` counts what a scan takes that skips a gap after each position.
* `countMatches_eq` says that the pattern counts the mentions so.
-/

namespace RisingIntelligence.Topics

/-! ## Leftmost choices -/

/-- How many of the positions are taken, if each makes the ones closer than `gap` unavailable. -/
def leftmost (gap : Nat) : Nat → List Nat → Nat
  | _, [] => 0
  | free, position :: later =>
      if free ≤ position then leftmost gap (position + gap) later + 1 else leftmost gap free later

section Leftmost

variable {gap free other : Nat} {positions : List Nat}

theorem leftmost_le (gap free : Nat) (positions : List Nat) :
    leftmost gap free positions ≤ positions.length := by
  induction positions generalizing free with
  | nil => exact Nat.le_refl 0
  | cons position later ih =>
      rw [leftmost, List.length_cons]
      split
      · exact Nat.succ_le_succ (ih (position + gap))
      · exact Nat.le_succ_of_le (ih free)

/-- Where to begin makes no difference between positions. -/
theorem leftmost_congr (same : ∀ position ∈ positions, free ≤ position ↔ other ≤ position) :
    leftmost gap free positions = leftmost gap other positions := by
  induction positions with
  | nil => rfl
  | cons position later ih =>
      obtain ⟨here, there⟩ := List.forall_mem_cons.1 same
      rw [leftmost, leftmost, ih there]
      by_cases reached : free ≤ position
      · rw [if_pos reached, if_pos (here.1 reached)]
      · rw [if_neg reached, if_neg (mt here.2 reached)]

/-- All are taken if they are far enough from each other. -/
theorem leftmost_eq_length_iff (sorted : positions.Pairwise (· < ·)) :
    leftmost gap free positions = positions.length ↔
      (∀ position ∈ positions, free ≤ position) ∧
        positions.Pairwise fun position later => position + gap ≤ later := by
  induction positions generalizing free with
  | nil => exact iff_of_true rfl ⟨nofun, .nil⟩
  | cons position later ih =>
      obtain ⟨first, sorted⟩ := List.pairwise_cons.1 sorted
      rw [leftmost, List.length_cons, List.forall_mem_cons, List.pairwise_cons]
      split
      · rename_i reached
        rw [Nat.add_right_cancel_iff, ih sorted]
        constructor
        · intro spaced
          refine ⟨⟨reached, fun next mem => ?_⟩, spaced⟩
          have behind := first next mem
          omega
        · exact fun spaced => spaced.2
      · rename_i missed
        have few := leftmost_le gap free later
        refine iff_of_false (by omega) fun spaced => missed spaced.1.1

theorem leftmost_pos_iff :
    1 ≤ leftmost gap free positions ↔ ∃ position ∈ positions, free ≤ position := by
  induction positions generalizing free with
  | nil => simp [leftmost]
  | cons position later ih =>
      rw [leftmost, List.exists_mem_cons_iff]
      split
      · rename_i reached
        exact iff_of_true (by omega) (.inl reached)
      · rename_i missed
        rw [ih, or_iff_right missed]

/-- Two are taken if some two are far enough from each other. -/
theorem two_le_leftmost_iff (positive : 0 < gap) (sorted : positions.Pairwise (· < ·)) :
    2 ≤ leftmost gap free positions ↔
      ∃ position ∈ positions, ∃ later ∈ positions, free ≤ position ∧ position + gap ≤ later := by
  induction positions generalizing free with
  | nil => simp [leftmost]
  | cons position rest ih =>
      obtain ⟨first, sorted⟩ := List.pairwise_cons.1 sorted
      rw [leftmost]
      split
      · rename_i reached
        rw [Nat.succ_le_succ_iff, leftmost_pos_iff]
        constructor
        · intro found
          obtain ⟨later, mem, apart⟩ := found
          exact ⟨position, List.mem_cons_self, later, List.mem_cons_of_mem _ mem, reached, apart⟩
        · intro found
          obtain ⟨own, mem, later, behind, -, apart⟩ := found
          have least : position ≤ own := by
            rcases List.mem_cons.1 mem with same | mem
            · omega
            · exact Nat.le_of_lt (first own mem)
          rcases List.mem_cons.1 behind with same | behind
          · omega
          · exact ⟨later, behind, by omega⟩
      · rename_i missed
        rw [ih sorted]
        constructor
        · intro found
          obtain ⟨own, mem, later, behind, apart⟩ := found
          exact ⟨own, List.mem_cons_of_mem _ mem, later, List.mem_cons_of_mem _ behind, apart⟩
        · intro found
          obtain ⟨own, mem, later, behind, reached, apart⟩ := found
          have here : own ≠ position := fun same => missed (same ▸ reached)
          have mem := (List.mem_cons.1 mem).resolve_left here
          have after := first own mem
          rcases List.mem_cons.1 behind with same | behind
          · omega
          · exact ⟨own, mem, later, behind, reached, apart⟩

/-- Of at least two positions two are taken, unless all are too close to each other. -/
theorem sees_two_iff (positive : 0 < gap) (sorted : positions.Pairwise (· < ·)) :
    (2 ≤ positions.length → 2 ≤ leftmost gap 0 positions) ↔
      positions.length < 2 ∨
        ∃ position ∈ positions, ∃ later ∈ positions, position + gap ≤ later := by
  rw [two_le_leftmost_iff positive sorted, imp_iff_not_or, Nat.not_le]
  simp only [Nat.zero_le, true_and]

end Leftmost

/-! ## Mentions -/

/-- An end of the text, or a unit that is not of a word. -/
def isBoundary (unit : Option Nat) : Bool := unit.all fun unit => !isWordUnit unit

/-- The term stands at a position, with boundaries on both sides. -/
def isMention (term units : List Nat) (position : Nat) : Bool :=
  isBoundary (units.take position).getLast? && term.isPrefixOf (units.drop position) &&
    isBoundary (units.drop (position + term.length)).head?

/-- The positions, in code units, at which a term is mentioned. -/
def mentions (content term : String) : List Nat :=
  (List.range (Js.codeUnits content).length).filter
    (isMention (Js.codeUnits term) (Js.codeUnits content))

/-- The mentions in what remains from a position. -/
def mentionsFrom (term : List Nat) (boundary : Bool) (position : Nat) : List Nat → List Nat
  | [] => []
  | unit :: rest =>
      if boundary && (afterTerm term (unit :: rest)).isSome then
        position :: mentionsFrom term (!isWordUnit unit) (position + 1) rest
      else mentionsFrom term (!isWordUnit unit) (position + 1) rest

section Mentions

variable {term units behind : List Nat} {boundary : Bool} {position : Nat}

theorem isSome_afterTerm (term units : List Nat) :
    (afterTerm term units).isSome =
      (term.isPrefixOf units && isBoundary (units.drop term.length).head?) := by
  unfold afterTerm
  cases starts : term.isPrefixOf units with
  | false => rfl
  | true =>
      rw [if_pos rfl, Bool.true_and]
      cases units.drop term.length with
      | nil => rfl
      | cons unit rest =>
          cases word : isWordUnit unit <;> simp [word, isBoundary]

theorem mentionsFrom_eq (term before units : List Nat) :
    mentionsFrom term (isBoundary before.getLast?) before.length units =
      (List.range' before.length units.length).filter (isMention term (before ++ units)) := by
  induction units generalizing before with
  | nil => rfl
  | cons unit rest ih =>
      have next := ih (before ++ [unit])
      have last : isBoundary (before ++ [unit]).getLast? = !isWordUnit unit := by
        rw [List.getLast?_concat]
        rfl
      have here : isMention term (before ++ unit :: rest) before.length =
          (isBoundary before.getLast? && (afterTerm term (unit :: rest)).isSome) := by
        rw [isMention, List.take_left, List.drop_left, List.drop_length_add_append, isSome_afterTerm,
          Bool.and_assoc]
      rw [last, List.length_append, List.length_singleton, List.append_assoc,
        List.singleton_append] at next
      rw [mentionsFrom, List.length_cons, List.range'_succ, List.filter_cons, next, here]

theorem bounds_of_mem_mentionsFrom {mention : Nat}
    (mem : mention ∈ mentionsFrom term boundary position units) :
    position ≤ mention ∧ mention < position + units.length := by
  induction units generalizing boundary position with
  | nil => cases mem
  | cons unit rest ih =>
      rw [List.length_cons]
      have later : mention ∈ mentionsFrom term (!isWordUnit unit) (position + 1) rest →
          position ≤ mention ∧ mention < position + (rest.length + 1) := by
        intro mem
        have bounds := ih mem
        omega
      rw [mentionsFrom] at mem
      split at mem
      · rcases List.mem_cons.1 mem with same | mem
        · omega
        · exact later mem
      · exact later mem

theorem mentionsFrom_cons {unit : Nat} {rest : List Nat}
    (here : (boundary && (afterTerm term (unit :: rest)).isSome) = true) :
    mentionsFrom term boundary position (unit :: rest) =
      position :: mentionsFrom term (!isWordUnit unit) (position + 1) rest := by
  rw [mentionsFrom, if_pos here]

theorem lt_of_mem_mentionsFrom {mention : Nat}
    (absent : (boundary && (afterTerm term units).isSome) = false)
    (mem : mention ∈ mentionsFrom term boundary position units) : position < mention := by
  cases units with
  | nil => cases mem
  | cons unit rest =>
      rw [mentionsFrom, if_neg (by rw [absent]; exact Bool.false_ne_true)] at mem
      exact (bounds_of_mem_mentionsFrom mem).1

/-- A scan that begins later does not see the first position. -/
theorem leftmost_mentionsFrom_cons {gap free unit : Nat} {rest : List Nat}
    (later : position < free) :
    leftmost gap free (mentionsFrom term boundary position (unit :: rest)) =
      leftmost gap free (mentionsFrom term (!isWordUnit unit) (position + 1) rest) := by
  rw [mentionsFrom]
  split
  · rw [leftmost, if_neg (Nat.not_le.2 later)]
  · rfl

/-- A match takes the term, and a separator unless it is the end. -/
theorem length_of_afterTerm (found : afterTerm term units = some behind) :
    units.length = behind.length + term.length + 1 ∨
      behind.length = 0 ∧ units.length = term.length := by
  unfold afterTerm at found
  split at found
  · rename_i starts
    obtain ⟨tail, rfl⟩ := List.isPrefixOf_iff_prefix.1 starts
    rw [List.drop_left] at found
    rw [List.length_append]
    cases tail with
    | nil =>
        cases found
        exact .inr ⟨rfl, rfl⟩
    | cons unit rest =>
        dsimp only at found
        split at found
        · cases found
        · cases found
          rw [List.length_cons]
          exact .inl (by omega)
  · cases found

/-- Inside the text a match begins with a separator. -/
theorem isSome_afterWholeWord (term rest : List Nat) (unit : Nat) :
    (afterWholeWord false term (unit :: rest)).isSome =
      (!isWordUnit unit && (afterTerm term rest).isSome) := by
  have separated : afterWholeWord false term (unit :: rest) =
      if isWordUnit unit then none else afterTerm term rest := rfl
  rw [separated]
  cases isWordUnit unit <;> rfl

theorem afterTerm_of_afterWholeWord {rest : List Nat} {unit : Nat}
    (found : afterWholeWord false term (unit :: rest) = some behind) :
    afterTerm term rest = some behind := by
  have separated : afterWholeWord false term (unit :: rest) =
      if isWordUnit unit then none else afterTerm term rest := rfl
  rw [separated] at found
  split at found
  · cases found
  · exact found

/-- The pattern takes the leftmost mentions, with the separators on both sides. -/
theorem countMatches_eq (nonempty : term ≠ []) (skip position : Nat) (boundary : Bool) :
    countMatches term skip false units =
      leftmost (term.length + 2) (position + skip + 1)
        (mentionsFrom term boundary position units) := by
  induction units generalizing skip position boundary with
  | nil =>
      cases skip <;> rfl
  | cons unit rest ih =>
      rw [leftmost_mentionsFrom_cons (by omega)]
      cases skip with
      | succ skip =>
          have next := ih skip (position + 1) (!isWordUnit unit)
          have same : position + (skip + 1) + 1 = position + 1 + skip + 1 := by omega
          rw [countMatches, next, same]
      | zero =>
          have separated := isSome_afterWholeWord term rest unit
          cases found : afterWholeWord false term (unit :: rest) with
          | none =>
              have absent : (!isWordUnit unit && (afterTerm term rest).isSome) = false := by
                rw [← separated, found]
                rfl
              rw [countMatches, found]
              dsimp only
              rw [ih 0 (position + 1) (!isWordUnit unit)]
              refine leftmost_congr fun mention mem => ?_
              have behind := lt_of_mem_mentionsFrom absent mem
              omega
          | some behind =>
              have here : (!isWordUnit unit && (afterTerm term rest).isSome) = true := by
                rw [← separated, found]
                rfl
              have lengths := length_of_afterTerm (afterTerm_of_afterWholeWord found)
              rw [countMatches, found]
              dsimp only
              rw [ih (rest.length - behind.length) (position + 1) (!isWordUnit unit)]
              cases rest with
              | nil =>
                  have some := List.length_pos_iff.2 nonempty
                  rw [List.length_nil] at lengths
                  omega
              | cons next rest =>
                  rw [leftmost_mentionsFrom_cons (by omega), mentionsFrom_cons here, leftmost,
                    if_pos (by omega), Nat.add_right_cancel_iff]
                  refine leftmost_congr fun mention mem => ?_
                  have bounds := bounds_of_mem_mentionsFrom mem
                  rw [List.length_cons] at lengths ⊢
                  omega

/-- From the start of the text the first mention needs no separator. -/
theorem countMatches_start (nonempty : term ≠ []) :
    countMatches term 0 true units = leftmost (term.length + 2) 0 (mentionsFrom term true 0 units) := by
  cases units with
  | nil => rfl
  | cons unit rest =>
      cases found : afterTerm term (unit :: rest) with
      | some behind =>
          have here : (true && (afterTerm term (unit :: rest)).isSome) = true := by
            rw [found]
            rfl
          have first : afterWholeWord true term (unit :: rest) = some behind := by
            rw [afterWholeWord, if_pos rfl, found]
            rfl
          have lengths := length_of_afterTerm found
          rw [countMatches, first]
          dsimp only
          rw [countMatches_eq nonempty (rest.length - behind.length) 1 (!isWordUnit unit),
            mentionsFrom_cons here, leftmost, if_pos (Nat.zero_le 0), Nat.add_right_cancel_iff]
          refine leftmost_congr fun mention mem => ?_
          have bounds := bounds_of_mem_mentionsFrom mem
          rw [List.length_cons] at lengths
          omega
      | none =>
          have absent : (true && (afterTerm term (unit :: rest)).isSome) = false := by
            rw [found]
            rfl
          have second : afterWholeWord true term (unit :: rest) =
              afterWholeWord false term (unit :: rest) := by
            rw [afterWholeWord, if_pos rfl, found]
            rfl
          have later : countMatches term 0 true (unit :: rest) =
              countMatches term 0 false (unit :: rest) := by
            rw [countMatches, countMatches, second]
          rw [later, countMatches_eq nonempty 0 0 true]
          refine leftmost_congr fun mention mem => ?_
          have behind := lt_of_mem_mentionsFrom absent mem
          omega

end Mentions

/-! ## The count -/

section Count

variable {content term : String}

theorem codeUnits_ne_nil (nonempty : term ≠ "") : Js.codeUnits term ≠ [] := by
  intro none
  refine nonempty (String.toList_eq_nil_iff.1 ?_)
  cases letters : term.toList with
  | nil => rfl
  | cons letter rest =>
      rw [Js.codeUnits, letters, List.flatMap_cons, List.append_eq_nil_iff] at none
      have one := none.1
      split at one <;> cases one

theorem sorted_mentions (content term : String) : (mentions content term).Pairwise (· < ·) :=
  List.Pairwise.sublist List.filter_sublist List.pairwise_lt_range

theorem countWholeWord_eq (nonempty : term ≠ "") :
    countWholeWord content term =
      leftmost ((Js.codeUnits term).length + 2) 0 (mentions content term) := by
  have all := mentionsFrom_eq (Js.codeUnits term) [] (Js.codeUnits content)
  rw [List.length_nil, List.nil_append, ← List.range_eq_range'] at all
  rw [countWholeWord, countMatches_start (codeUnits_ne_nil nonempty), mentions, ← all]
  rfl

/-- The mentions are counted exactly if no two are so close that they share a separator; the rules
for Kafka see two mentions exactly if some two are not. -/
theorem countWholeWord_eq_iff (nonempty : term ≠ "") (context : MatcherEvaluationContext) :
    (countWholeWord content term = (mentions content term).length ↔
      (mentions content term).Pairwise fun position later =>
        position + (Js.codeUnits term).length + 2 ≤ later) ∧
      ((2 ≤ (mentions (createKafkaTopicRelevanceContext context).content "kafka").length →
          2 ≤ (createKafkaTopicRelevanceContext context).kafkaCount) ↔
        (mentions (createKafkaTopicRelevanceContext context).content "kafka").length < 2 ∨
          ∃ position ∈ mentions (createKafkaTopicRelevanceContext context).content "kafka",
            ∃ later ∈ mentions (createKafkaTopicRelevanceContext context).content "kafka",
              position + 7 ≤ later) := by
  have gap : (Js.codeUnits "kafka").length + 2 = 7 := by decide
  have seen : (createKafkaTopicRelevanceContext context).kafkaCount =
      countWholeWord (createKafkaTopicRelevanceContext context).content "kafka" := by
    unfold createKafkaTopicRelevanceContext
    dsimp only
  rw [countWholeWord_eq (by decide), gap] at seen
  refine ⟨?_, ?_⟩
  · rw [countWholeWord_eq nonempty, leftmost_eq_length_iff (sorted_mentions content term)]
    exact and_iff_right fun position _ => Nat.zero_le position
  · rw [seen]
    exact sees_two_iff (by decide) (sorted_mentions _ _)

/-- A mention that begins at the separator of the one before. -/
def repeatedKafka : MatcherEvaluationContext where
  content := "kafka kafka"
  lowerContent := "kafka kafka"
  lowerTitle := ""
  lowerText := "kafka kafka"
  lowerUrl := ""

theorem countWholeWord_repeated : mentions "kafka kafka" "kafka" = [0, 6] ∧
    countWholeWord "kafka kafka" "kafka" = 1 ∧
    (createKafkaTopicRelevanceContext repeatedKafka).content = "kafka kafka" ∧
    (createKafkaTopicRelevanceContext repeatedKafka).kafkaCount = 1 := by
  decide

theorem countWholeWord_separated : countWholeWord "kafka, kafka" "kafka" = 2 := by
  have apart : mentions "kafka, kafka" "kafka" = [0, 7] := by decide
  have counted := (countWholeWord_eq_iff (show "kafka" ≠ "" by decide) repeatedKafka).1.2
    (show (mentions "kafka, kafka" "kafka").Pairwise _ by rw [apart]; decide)
  rw [counted, apart]
  rfl

end Count

end RisingIntelligence.Topics
