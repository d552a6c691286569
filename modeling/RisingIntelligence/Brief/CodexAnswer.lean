import RisingIntelligence.Shared.Json
import RisingIntelligence.Shared.JsString

/-!
# Answers of the command-line model

`parseJsonResponse` of `apps/brief/src/llm/codex-cli.ts`.  A fenced block is looked for before the
text itself is parsed, and a fence in a string of the answer is taken for one.
-/

namespace RisingIntelligence.Brief

open Js (Json)

def jsonStarts : List Char :=
  ['{', '[', '"', '-', 't', 'f', 'n', '0', '1', '2', '3', '4', '5', '6', '7', '8', '9']

def jsonStops : List Char :=
  ['}', ']', '"', 'e', 'l', '0', '1', '2', '3', '4', '5', '6', '7', '8', '9']

/-- What the grammar of JSON says of the ends of a text without white space around it. -/
structure JsonText (text : String) : Prop where
  starts : ∃ c rest, text.toList = c :: rest ∧ c ∈ jsonStarts
  stops : ∃ front c, text.toList = front ++ [c] ∧ c ∈ jsonStops

/-- Any `JSON.parse`, with the messages of the errors it throws. -/
structure JsonParser where
  parse : String → Except String Json
  text_of_ok : ∀ text value, parse text = .ok value → JsonText (Js.trim text)

/-! ## The fence pattern -/

def fence : List Char := ['`', '`', '`']

/-- What comes after the first fence. -/
def afterFence : List Char → Option (List Char)
  | [] => none
  | c :: rest => if fence.isPrefixOf (c :: rest) then some (rest.drop 2) else afterFence rest

/-- What comes before the first fence. -/
def untilFence : List Char → Option (List Char)
  | [] => none
  | c :: rest =>
      if fence.isPrefixOf (c :: rest) then some [] else (untilFence rest).map (c :: ·)

/-- `(?:json)?`, in any case. -/
def dropJsonTag (cs : List Char) : List Char :=
  if ['j', 's', 'o', 'n'].isPrefixOf (cs.map Char.toLower) then cs.drop 4 else cs

/-- The group of the match, if there is one.  Neither the tag nor white space has a letter of a fence,
so no match is found by giving some of them back. -/
def fencedMatch (trimmed : List Char) : Option (List Char) :=
  (afterFence trimmed).bind fun rest =>
    untilFence ((dropJsonTag rest).dropWhile Js.isWhitespace)

/-- From the first opening brace to the last closing one. -/
def braceSlice (trimmed : List Char) : Option (List Char) :=
  match ((trimmed.dropWhile (· ≠ '{')).reverse.dropWhile (· ≠ '}')).reverse with
  | [] => none
  | c :: cs => some (c :: cs)

def parseJsonResponse (parser : JsonParser) (message : String) : Except String Json :=
  let trimmed := Js.trim message
  if trimmed = "" then .error "Codex CLI returned an empty response"
  else
    match fencedMatch trimmed.toList with
    | some (c :: cs) => parser.parse (Js.trim (String.ofList (c :: cs)))
    | _ =>
        match parser.parse trimmed with
        | .ok value => .ok value
        | .error _ =>
            match braceSlice trimmed.toList with
            | some braces => parser.parse (String.ofList braces)
            | none => .error "Codex CLI response did not contain a JSON object"

/-! ## Fences -/

section Fences

variable {before after cs : List Char} {c : Char}

theorem not_prefix_of_long {d e : Char} (free : ¬ fence <:+: c :: d :: e :: before) :
    fence.isPrefixOf (c :: d :: e :: before ++ fence ++ after) = false := by
  rw [← Bool.not_eq_true, List.isPrefixOf_iff_prefix]
  intro opens
  refine free (List.IsPrefix.isInfix ?_)
  refine List.prefix_of_prefix_length_le opens ?_ (by simp [fence])
  rw [List.append_assoc]
  exact List.prefix_append _ _

theorem not_prefix_of_ne (other : c ≠ '`') : fence.isPrefixOf (c :: cs) = false := by
  rw [← Bool.not_eq_true, List.isPrefixOf_iff_prefix]
  intro opens
  obtain ⟨rest, same⟩ := opens
  exact other (List.cons.inj same).1.symm

theorem not_prefix_of_second {d : Char} (other : d ≠ '`') :
    fence.isPrefixOf (c :: d :: cs) = false := by
  rw [← Bool.not_eq_true, List.isPrefixOf_iff_prefix]
  intro opens
  obtain ⟨rest, same⟩ := opens
  exact other (List.cons.inj (List.cons.inj same).2).1.symm

theorem not_prefix_of_third {d e : Char} (other : e ≠ '`') :
    fence.isPrefixOf (c :: d :: e :: cs) = false := by
  rw [← Bool.not_eq_true, List.isPrefixOf_iff_prefix]
  intro opens
  obtain ⟨rest, same⟩ := opens
  exact other (List.cons.inj (List.cons.inj (List.cons.inj same).2).2).1.symm

theorem untilFence_skip (skip : fence.isPrefixOf (c :: cs) = false) :
    untilFence (c :: cs) = (untilFence cs).map (c :: ·) := by
  conv_lhs => unfold untilFence
  rw [skip]
  rfl

/-- A text that has no fence and does not end with a letter of one has none before the next fence. -/
theorem not_prefix_of_free (free : ¬ fence <:+: c :: before)
    (last : (c :: before).getLast? ≠ some '`') :
    fence.isPrefixOf (c :: before ++ fence ++ after) = false := by
  match before with
  | [] => exact not_prefix_of_ne fun same => last (congrArg some same)
  | [second] => exact not_prefix_of_second fun same => last (congrArg some same)
  | second :: third :: more => exact not_prefix_of_long free

theorem free_of_cons (free : ¬ fence <:+: c :: before) : ¬ fence <:+: before :=
  fun inside => free (inside.trans (List.suffix_cons c before).isInfix)

theorem last_of_cons (last : (c :: before).getLast? ≠ some '`') : before.getLast? ≠ some '`' := by
  cases before with
  | nil => exact nofun
  | cons d before => rwa [List.getLast?_cons_cons] at last

theorem afterFence_of_free (free : ¬ fence <:+: before) (last : before.getLast? ≠ some '`') :
    afterFence (before ++ fence ++ after) = some after := by
  induction before with
  | nil => rfl
  | cons c before ih =>
      change (if fence.isPrefixOf (c :: before ++ fence ++ after) then _ else _) = _
      rw [not_prefix_of_free free last]
      exact ih (free_of_cons free) (last_of_cons last)

theorem untilFence_of_free (free : ¬ fence <:+: before) (last : before.getLast? ≠ some '`') :
    untilFence (before ++ fence ++ after) = some before := by
  induction before with
  | nil => rfl
  | cons c before ih =>
      have skip : untilFence (c :: before ++ fence ++ after) =
          (untilFence (before ++ fence ++ after)).map (c :: ·) :=
        untilFence_skip (not_prefix_of_free free last)
      rw [skip, ih (free_of_cons free) (last_of_cons last)]
      rfl

/-- A fence in front of the end is where the content is cut. -/
theorem untilFence_of_infix (inside : fence <:+: before) :
    ∃ content, untilFence (before ++ after) = some content ∧ content.length + 3 ≤ before.length := by
  have long := inside.length_le
  induction before with
  | nil => exact absurd long (by decide)
  | cons c before ih =>
      have first : untilFence (c :: before ++ after) =
          if fence.isPrefixOf (c :: before ++ after) then some []
          else (untilFence (before ++ after)).map (c :: ·) := rfl
      rw [first]
      by_cases opens : fence.isPrefixOf (c :: before ++ after) = true
      · rw [if_pos opens]
        exact ⟨[], rfl, long⟩
      · have later : fence <:+: before := by
          rcases List.infix_cons_iff.1 inside with start | later
          · refine absurd ?_ opens
            rw [List.isPrefixOf_iff_prefix]
            exact start.trans (List.prefix_append _ _)
          · exact later
        obtain ⟨content, found, short⟩ := ih later later.length_le
        rw [if_neg opens, found]
        refine ⟨c :: content, rfl, ?_⟩
        rw [List.length_cons, List.length_cons]
        omega

/-- A letter or two of a fence in front of it move the opening there. -/
theorem afterFence_of_last (free : ¬ fence <:+: before) (last : before.getLast? = some '`') :
    afterFence (before ++ fence ++ after) = some ('`' :: after) ∨
      afterFence (before ++ fence ++ after) = some ('`' :: '`' :: after) := by
  induction before with
  | nil => cases last
  | cons c before ih =>
      match before with
      | [] =>
          obtain rfl := Option.some.inj last
          exact .inl rfl
      | [second] =>
          obtain rfl := Option.some.inj last
          by_cases first : c = '`'
          · rw [first]
            exact .inr rfl
          · refine .inl ?_
            change (if fence.isPrefixOf (c :: '`' :: (fence ++ after)) then _ else _) = _
            rw [not_prefix_of_ne first]
            rfl
      | second :: third :: more =>
          rw [List.getLast?_cons_cons] at last
          have skip : afterFence (c :: second :: third :: more ++ fence ++ after) =
              afterFence (second :: third :: more ++ fence ++ after) := by
            change (if fence.isPrefixOf (c :: second :: third :: more ++ fence ++ after) then _
              else _) = _
            rw [not_prefix_of_long free]
            rfl
          rw [skip]
          exact ih (free_of_cons free) last

theorem untilFence_eq_some {content : List Char} (found : untilFence cs = some content) :
    ∃ rest, cs = content ++ fence ++ rest := by
  induction cs generalizing content with
  | nil => cases found
  | cons c cs ih =>
      unfold untilFence at found
      split at found
      · rename_i opens
        obtain ⟨rest, same⟩ := List.isPrefixOf_iff_prefix.1 opens
        obtain rfl := Option.some.inj found
        exact ⟨rest, same.symm⟩
      · obtain ⟨later, closed, rfl⟩ := Option.map_eq_some_iff.1 found
        obtain ⟨rest, rfl⟩ := ih closed
        exact ⟨rest, rfl⟩

theorem length_untilFence {content : List Char} (found : untilFence cs = some content) :
    content.length + 3 ≤ cs.length := by
  obtain ⟨rest, rfl⟩ := untilFence_eq_some found
  rw [List.length_append, List.length_append]
  change content.length + 3 ≤ content.length + 3 + rest.length
  omega

/-- A text without a letter of a fence goes into the content. -/
theorem untilFence_append_of_plain (plain : ∀ c ∈ before, c ≠ '`') :
    untilFence (before ++ cs) = (untilFence cs).map (before ++ ·) := by
  induction before with
  | nil => exact Option.map_id'.symm
  | cons c before ih =>
      have skip : fence.isPrefixOf (c :: (before ++ cs)) = false :=
        not_prefix_of_ne (plain c List.mem_cons_self)
      rw [List.cons_append, untilFence_skip skip,
        ih fun d mem => plain d (List.mem_cons_of_mem c mem), Option.map_map]
      rfl

theorem length_afterFence {rest : List Char} (found : afterFence cs = some rest) :
    rest.length + 3 ≤ cs.length := by
  induction cs with
  | nil => cases found
  | cons c cs ih =>
      unfold afterFence at found
      split at found
      · rename_i opens
        obtain rfl := Option.some.inj found
        have long := (List.isPrefixOf_iff_prefix.1 opens).length_le
        rw [List.length_cons] at long ⊢
        rw [List.length_drop]
        change 3 ≤ _ at long
        omega
      · exact Nat.le_succ_of_le (ih found)

theorem length_fencedMatch {content : List Char} (found : fencedMatch cs = some content) :
    content.length + 6 ≤ cs.length := by
  obtain ⟨rest, opened, closed⟩ := Option.bind_eq_some_iff.1 found
  have opening := length_afterFence opened
  have closing := length_untilFence closed
  have untagged : (dropJsonTag rest).length ≤ rest.length := by
    unfold dropJsonTag
    split
    · exact (List.drop_sublist 4 rest).length_le
    · exact Nat.le_refl _
  have stripped := (List.dropWhile_sublist Js.isWhitespace (l := dropJsonTag rest)).length_le
  omega

end Fences

/-! ## An answer that is JSON -/

section Answers

variable {parser : JsonParser} {text : String} {content : List Char}

theorem parseJsonResponse_of_match (found : fencedMatch (Js.trim text).toList = some content)
    (nonempty : content ≠ []) :
    parseJsonResponse parser text = parser.parse (Js.trim (String.ofList content)) := by
  unfold parseJsonResponse
  have named : Js.trim text ≠ "" := by
    intro empty
    rw [empty] at found
    cases found
  dsimp only
  rw [if_neg named, found]
  match content with
  | [] => exact absurd rfl nonempty
  | c :: cs => rfl

theorem length_trim_le (cs : List Char) : (Js.trim (String.ofList cs)).toList.length ≤ cs.length := by
  unfold Js.trim
  rw [String.toList_ofList, String.toList_ofList, Js.trimList_eq_rdropWhile]
  exact (List.rdropWhile_prefix _ _).length_le.trans (List.dropWhile_sublist _).length_le

/-- A parser of one text. -/
def onlyParser (text : String) (json : JsonText (Js.trim text)) : JsonParser where
  parse other := if other = text then .ok .null else .error ""
  text_of_ok other value parsed := by
    split at parsed
    · rename_i same
      rwa [same]
    · cases parsed

theorem onlyParser_self (json : JsonText (Js.trim text)) :
    (onlyParser text json).parse text = .ok .null := by
  unfold onlyParser
  dsimp only
  rw [if_pos rfl]

theorem onlyParser_of_ne {other : String} (json : JsonText (Js.trim text)) (different : other ≠ text) :
    (onlyParser text json).parse other = .error "" := by
  unfold onlyParser
  dsimp only
  rw [if_neg different]

/-- A match that is not the text is answered with something else, by some parser. -/
theorem not_answered_of_match {body : String} (trimmed : Js.trim body = body) (json : JsonText body)
    (found : fencedMatch (Js.trim text).toList = some content) (nonempty : content ≠ [])
    (other : Js.trim (String.ofList content) ≠ body) :
    ¬ ∀ (parser : JsonParser) (value : Json), parser.parse body = .ok value →
      parseJsonResponse parser text = .ok value := by
  intro answered
  rw [← trimmed] at json
  have answer := answered (onlyParser body json) .null (onlyParser_self json)
  rw [parseJsonResponse_of_match found nonempty, onlyParser_of_ne json other] at answer
  cases answer

/-- A text of JSON is answered with what it parses to unless there is a fenced block in it. -/
theorem whole_text_iff (text : String) :
    (∀ (parser : JsonParser) (value : Json), parser.parse (Js.trim text) = .ok value →
        parseJsonResponse parser text = .ok value) ↔
      (JsonText (Js.trim text) →
        ∀ content, fencedMatch (Js.trim text).toList = some content → content = []) := by
  constructor
  · intro answered json content found
    by_contra nonempty
    refine not_answered_of_match (Js.trim_trim text) json found nonempty ?_ answered
    -- the content is shorter than the text
    intro same
    have short := length_trim_le content
    have fenced := length_fencedMatch found
    rw [same] at short
    omega
  · intro unfenced parser value parsed
    have json := parser.text_of_ok _ _ parsed
    rw [Js.trim_trim] at json
    have named : Js.trim text ≠ "" := by
      intro empty
      obtain ⟨c, rest, starts, -⟩ := json.starts
      rw [empty] at starts
      cases starts
    unfold parseJsonResponse
    dsimp only
    rw [if_neg named, parsed]
    cases found : fencedMatch (Js.trim text).toList with
    | none => rfl
    | some content =>
        rw [unfenced json content found]

end Answers

/-! ## An answer in a fenced block -/

/-- Prose, a fenced block with any info string behind its opening fence, and prose.  The info string
ends at the end of its line, or it is empty or the tag `json`. -/
structure FencedAnswer where
  before : String
  info : String
  opening : String
  body : String
  closing : String
  after : String
  beforeFree : ¬ fence <:+: before.toList
  afterFree : ¬ fence <:+: after.toList
  infoLine : ∀ c ∈ info.toList, c ≠ '`' ∧ c ≠ '\n' ∧ c ≠ '\r'
  infoEnds : info = "" ∨ info.toList.map Char.toLower = ['j', 's', 'o', 'n'] ∨
    ∃ c rest, opening.toList = c :: rest ∧ (c = '\n' ∨ c = '\r')
  openingBlank : ∀ c ∈ opening.toList, Js.isWhitespace c = true
  closingBlank : ∀ c ∈ closing.toList, Js.isWhitespace c = true
  bodyTrimmed : Js.trim body = body

def FencedAnswer.text (answer : FencedAnswer) : String :=
  answer.before ++ "```" ++ answer.info ++ answer.opening ++ answer.body ++ answer.closing ++ "```" ++
    answer.after

/-- The info string has nothing but white space behind a leading `json`. -/
def FencedAnswer.Untagged (answer : FencedAnswer) : Prop :=
  ∀ c ∈ dropJsonTag answer.info.toList, Js.isWhitespace c = true

section Blocks

variable {front rest cs block : List Char} {c : Char}

theorem dropWhile_append_of_stop {p : Char → Bool} (stop : p c = false) :
    (front ++ c :: rest).dropWhile p = front.dropWhile p ++ c :: rest := by
  induction front with
  | nil => exact List.dropWhile_cons_of_neg (by rw [stop]; exact Bool.false_ne_true)
  | cons d front ih =>
      rw [List.cons_append, List.dropWhile_cons, List.dropWhile_cons]
      split
      · exact ih
      · rfl

theorem rdropWhile_append_of_stop {p : Char → Bool} (stop : p c = false) :
    (front ++ c :: rest).rdropWhile p = front ++ c :: rest.rdropWhile p := by
  unfold List.rdropWhile
  rw [List.reverse_append, List.reverse_cons, List.append_assoc, List.singleton_append,
    dropWhile_append_of_stop stop, List.reverse_append, List.reverse_cons, List.reverse_reverse,
    List.append_assoc, List.singleton_append]

/-- Trimming leaves the block as it is. -/
theorem FencedAnswer.trim_text (answer : FencedAnswer) : ∃ after,
    (Js.trim answer.text).toList = answer.before.toList.dropWhile Js.isWhitespace ++ fence ++
      (answer.info.toList ++ (answer.opening.toList ++ ((answer.body.toList ++ answer.closing.toList) ++
        fence ++ after))) := by
  refine ⟨answer.after.toList.rdropWhile Js.isWhitespace, ?_⟩
  have letter : Js.isWhitespace '`' = false := by decide
  have text : answer.text.toList = answer.before.toList ++ '`' :: (['`', '`'] ++ (answer.info.toList ++
      (answer.opening.toList ++ (answer.body.toList ++ (answer.closing.toList ++ (['`', '`'] ++
        '`' :: answer.after.toList)))))) := by
    unfold FencedAnswer.text
    simp only [String.toList_append, List.append_assoc]
    rfl
  unfold Js.trim
  rw [String.toList_ofList, Js.trimList_eq_rdropWhile, text, dropWhile_append_of_stop letter]
  simp only [← List.append_assoc, ← List.cons_append]
  rw [rdropWhile_append_of_stop letter]
  simp only [fence, List.append_assoc, List.cons_append, List.nil_append]

theorem dropWhile_free (answer : FencedAnswer) :
    ¬ fence <:+: answer.before.toList.dropWhile Js.isWhitespace :=
  fun inside => answer.beforeFree (inside.trans (List.dropWhile_suffix _).isInfix)

theorem getLast?_dropWhile (cs : List Char) :
    (cs.dropWhile Js.isWhitespace).getLast? = some '`' ↔ cs.getLast? = some '`' := by
  constructor
  · intro last
    obtain ⟨blank, split⟩ := List.dropWhile_suffix Js.isWhitespace (l := cs)
    rw [← split, List.getLast?_append, last]
    rfl
  · intro last
    obtain ⟨front, rfl⟩ := List.getLast?_eq_some_iff.1 last
    rw [dropWhile_append_of_stop (by decide), List.getLast?_append]
    rfl

theorem of_mem_jsonStarts {c : Char} (starts : c ∈ jsonStarts) :
    Js.isWhitespace c = false ∧ c ≠ '`' ∧ c.toLower ≠ 'j' :=
  Js.forall_mem_of_all
    (p := fun c => Js.isWhitespace c = false ∧ c ≠ '`' ∧ c.toLower ≠ 'j') (by decide) c starts

theorem of_mem_jsonStops {c : Char} (stops : c ∈ jsonStops) :
    Js.isWhitespace c = false ∧ c ≠ '`' :=
  Js.forall_mem_of_all (p := fun c => Js.isWhitespace c = false ∧ c ≠ '`') (by decide) c stops

theorem of_isWhitespace {c : Char} (blank : Js.isWhitespace c = true) : c ≠ '`' ∧ c.toLower ≠ 'j' := by
  constructor
  · intro same
    rw [same] at blank
    exact absurd blank (by decide)
  · intro lower
    rw [← Js.isWhitespace_toLower, lower] at blank
    exact absurd blank (by decide)

theorem dropJsonTag_of_ne (other : c.toLower ≠ 'j') : dropJsonTag (c :: cs) = c :: cs := by
  unfold dropJsonTag
  rw [if_neg]
  rw [List.map_cons, List.isPrefixOf_cons_cons, Bool.and_eq_true, beq_iff_eq]
  exact fun both => other both.1.symm

/-- White space ends a tag. -/
theorem dropJsonTag_append_of_blank (info : List Char) (blank : Js.isWhitespace c = true) :
    dropJsonTag (info ++ c :: cs) = dropJsonTag info ++ c :: cs := by
  have letters : ∀ letter ∈ ['j', 's', 'o', 'n'], letter ≠ c.toLower := by
    intro letter mem same
    have solid := Js.forall_mem_of_all (p := fun letter => Js.isWhitespace letter = false)
      (by decide) letter mem
    rw [same, Js.isWhitespace_toLower, blank] at solid
    cases solid
  have j := letters 'j' (by decide)
  have s := letters 's' (by decide)
  have o := letters 'o' (by decide)
  have n := letters 'n' (by decide)
  unfold dropJsonTag
  match info with
  | [] => simp [j]
  | [_] => simp [s]
  | [_, _] => simp [o]
  | [_, _, _] => simp [n]
  | _ :: _ :: _ :: _ :: _ =>
      simp only [List.cons_append, List.map_cons, List.isPrefixOf_cons_cons, List.drop_succ_cons,
        List.drop_zero, List.isPrefixOf_nil_left]
      split <;> rfl

/-- The tag is dropped from the info string. -/
theorem dropJsonTag_block (answer : FencedAnswer) (starts : c ∈ jsonStarts)
    (head : block = c :: cs) :
    dropJsonTag (answer.info.toList ++ (answer.opening.toList ++ block)) =
      dropJsonTag answer.info.toList ++ (answer.opening.toList ++ block) := by
  rcases answer.infoEnds with none | tagged | ⟨d, ds, opens, newline⟩
  · have first : ∃ d ds, answer.opening.toList ++ block = d :: ds ∧ d.toLower ≠ 'j' := by
      cases blank : answer.opening.toList with
      | nil => exact ⟨c, cs, head, (of_mem_jsonStarts starts).2.2⟩
      | cons d ds =>
          have mem : d ∈ answer.opening.toList := by
            rw [blank]
            exact List.mem_cons_self
          exact ⟨d, _, rfl, (of_isWhitespace (answer.openingBlank d mem)).2⟩
    obtain ⟨d, ds, split, other⟩ := first
    rw [none, String.toList_empty, List.nil_append, split, dropJsonTag_of_ne other]
    rfl
  · have four : answer.info.toList.length = 4 := by
      have count := congrArg List.length tagged
      rwa [List.length_map] at count
    have whole : dropJsonTag answer.info.toList = [] := by
      unfold dropJsonTag
      rw [tagged, if_pos (by decide), ← four, List.drop_length]
    rw [whole]
    unfold dropJsonTag
    rw [if_pos, ← four, List.drop_left, List.nil_append]
    rw [List.map_append, tagged, List.isPrefixOf_iff_prefix]
    exact List.prefix_append _ _
  · have mem : d ∈ answer.opening.toList := by
      rw [opens]
      exact List.mem_cons_self
    rw [opens, List.cons_append]
    exact dropJsonTag_append_of_blank _ (answer.openingBlank d mem)

/-- The block does not go on with a letter of a fence. -/
theorem block_head (answer : FencedAnswer) (starts : c ∈ jsonStarts) (head : block = c :: cs) :
    ∃ d ds, answer.info.toList ++ (answer.opening.toList ++ block) = d :: ds ∧ d ≠ '`' := by
  cases info : answer.info.toList with
  | nil =>
      cases opening : answer.opening.toList with
      | nil => exact ⟨c, cs, head, (of_mem_jsonStarts starts).2.1⟩
      | cons d ds =>
          have mem : d ∈ answer.opening.toList := by
            rw [opening]
            exact List.mem_cons_self
          exact ⟨d, _, rfl, (of_isWhitespace (answer.openingBlank d mem)).1⟩
  | cons d ds =>
      have mem : d ∈ answer.info.toList := by
        rw [info]
        exact List.mem_cons_self
      exact ⟨d, _, rfl, (answer.infoLine d mem).1⟩

/-- White space behind a text makes no fence. -/
theorem free_append_blank {blank : List Char} (free : ¬ fence <:+: cs)
    (blanks : ∀ c ∈ blank, Js.isWhitespace c = true) : ¬ fence <:+: cs ++ blank := by
  intro inside
  obtain ⟨before, after, split⟩ := inside
  rcases List.append_eq_append_iff.1 split with ⟨more, same, -⟩ | ⟨excess, same, rest⟩
  · exact free ⟨before, more, same.symm⟩
  · cases excess using List.reverseRecOn with
    | nil =>
        rw [List.append_nil] at same
        exact free (same ▸ (List.suffix_append before fence).isInfix)
    | append_singleton excess last =>
        have letter := congrArg List.getLast? same
        rw [← List.append_assoc, List.getLast?_concat, List.getLast?_append] at letter
        have mem : last ∈ blank := by
          rw [rest]
          exact List.mem_append_left _ (List.mem_append_right _ (List.mem_singleton_self last))
        exact (of_isWhitespace (blanks last mem)).1 (Option.some.inj letter).symm

theorem block_last (answer : FencedAnswer) (json : JsonText answer.body) :
    (answer.body.toList ++ answer.closing.toList).getLast? ≠ some '`' := by
  intro letter
  obtain ⟨front, e, body, stops⟩ := json.stops
  cases closing : answer.closing.toList using List.reverseRecOn with
  | nil =>
      rw [closing, List.append_nil, body, List.getLast?_concat] at letter
      exact (of_mem_jsonStops stops).2 (Option.some.inj letter)
  | append_singleton blank last =>
      rw [closing, ← List.append_assoc, List.getLast?_concat] at letter
      have mem : last ∈ answer.closing.toList := by
        rw [closing]
        exact List.mem_append_right _ (List.mem_singleton_self last)
      exact (of_isWhitespace (answer.closingBlank last mem)).1 (Option.some.inj letter)

theorem front_plain (answer : FencedAnswer) :
    ∀ c ∈ (dropJsonTag answer.info.toList ++ answer.opening.toList).dropWhile Js.isWhitespace,
      c ≠ '`' := by
  intro c mem
  rcases List.mem_append.1 ((List.dropWhile_sublist _).subset mem) with info | opening
  · have there : c ∈ answer.info.toList := by
      unfold dropJsonTag at info
      split at info
      · exact List.mem_of_mem_drop info
      · exact info
    exact (answer.infoLine c there).1
  · exact (of_isWhitespace (answer.openingBlank c opening)).1

/-- The content of the match, where no letter of a fence stands before the block. -/
theorem fencedMatch_eq (answer : FencedAnswer) (json : JsonText answer.body)
    (last : answer.before.toList.getLast? ≠ some '`') : ∃ after,
    fencedMatch (Js.trim answer.text).toList = (untilFence (answer.body.toList ++
        answer.closing.toList ++ fence ++ after)).map
      ((dropJsonTag answer.info.toList ++ answer.opening.toList).dropWhile Js.isWhitespace ++ ·) := by
  obtain ⟨after, trimmed⟩ := answer.trim_text
  obtain ⟨c, rest, body, starts⟩ := json.starts
  have head : answer.body.toList ++ answer.closing.toList ++ fence ++ after =
      c :: (rest ++ answer.closing.toList ++ fence ++ after) := by
    rw [body]
    rfl
  refine ⟨after, ?_⟩
  unfold fencedMatch
  rw [trimmed, afterFence_of_free (dropWhile_free answer) (mt (getLast?_dropWhile _).1 last),
    Option.bind_some, dropJsonTag_block answer starts head, ← List.append_assoc, head,
    dropWhile_append_of_stop (of_mem_jsonStarts starts).1, untilFence_append_of_plain (front_plain answer)]

theorem untilFence_clean (answer : FencedAnswer) (json : JsonText answer.body)
    (free : ¬ fence <:+: answer.body.toList) (after : List Char) :
    untilFence (answer.body.toList ++ answer.closing.toList ++ fence ++ after) =
      some (answer.body.toList ++ answer.closing.toList) :=
  untilFence_of_free (free_append_blank free answer.closingBlank) (block_last answer json)

/-- A fence in the body cuts it. -/
theorem untilFence_of_fence (answer : FencedAnswer) (inside : fence <:+: answer.body.toList)
    (after : List Char) : ∃ content rest,
    untilFence (answer.body.toList ++ answer.closing.toList ++ fence ++ after) = some content ∧
      answer.body.toList = content ++ fence ++ rest := by
  obtain ⟨content, found, short⟩ : ∃ content,
      untilFence (answer.body.toList ++ (answer.closing.toList ++ fence ++ after)) = some content ∧
        content.length + 3 ≤ answer.body.toList.length := untilFence_of_infix inside
  rw [← List.append_assoc, ← List.append_assoc] at found
  obtain ⟨more, split⟩ := untilFence_eq_some found
  have cut : content ++ fence <+: answer.body.toList := by
    have whole : answer.body.toList <+: answer.body.toList ++ answer.closing.toList ++ fence ++
        after := by
      rw [List.append_assoc, List.append_assoc]
      exact List.prefix_append _ _
    refine List.prefix_of_prefix_length_le ⟨more, split.symm⟩ whole ?_
    rw [List.length_append]
    exact short
  obtain ⟨rest, same⟩ := cut
  exact ⟨content, rest, found, same.symm⟩

theorem untagged_iff (answer : FencedAnswer) : answer.Untagged ↔
    (dropJsonTag answer.info.toList ++ answer.opening.toList).dropWhile Js.isWhitespace = [] := by
  rw [List.dropWhile_eq_nil_iff, FencedAnswer.Untagged]
  constructor
  · intro blank c mem
    exact (List.mem_append.1 mem).elim (blank c) (answer.openingBlank c)
  · intro blank c mem
    exact blank c (List.mem_append_left _ mem)

theorem fencedMatch_clean (answer : FencedAnswer) (json : JsonText answer.body)
    (last : answer.before.toList.getLast? ≠ some '`') (untagged : answer.Untagged)
    (free : ¬ fence <:+: answer.body.toList) :
    fencedMatch (Js.trim answer.text).toList =
      some (answer.body.toList ++ answer.closing.toList) := by
  obtain ⟨after, found⟩ := fencedMatch_eq answer json last
  rw [found, (untagged_iff answer).1 untagged, untilFence_clean answer json free]
  rfl

theorem countP_trim {p : Char → Bool} (solid : ∀ c, Js.isWhitespace c = true → ¬ p c = true)
    (cs : List Char) : (Js.trim (String.ofList cs)).toList.countP p = cs.countP p := by
  unfold Js.trim
  rw [String.toList_ofList, String.toList_ofList]
  exact Js.countP_trimList solid cs

/-- The content of a body that is cut has fewer letters of a fence than the body. -/
theorem fencedMatch_of_fence (answer : FencedAnswer) (json : JsonText answer.body)
    (last : answer.before.toList.getLast? ≠ some '`') (inside : fence <:+: answer.body.toList) :
    ∃ content, fencedMatch (Js.trim answer.text).toList = some content ∧ content ≠ [] ∧
      Js.trim (String.ofList content) ≠ answer.body := by
  obtain ⟨after, found⟩ := fencedMatch_eq answer json last
  obtain ⟨content, rest, closed, body⟩ := untilFence_of_fence answer inside after
  rw [closed] at found
  refine ⟨_, found, ?_, ?_⟩
  · intro empty
    obtain ⟨c, others, head, starts⟩ := json.starts
    rw [(List.append_eq_nil_iff.1 empty).2, List.nil_append, head] at body
    exact (of_mem_jsonStarts starts).2.1 (List.cons.inj body).1
  · intro same
    have solid : ∀ c, Js.isWhitespace c = true → ¬ (c == '`') = true :=
      fun c blank tick => (of_isWhitespace blank).1 (beq_iff_eq.1 tick)
    have ticks := countP_trim solid ((dropJsonTag answer.info.toList ++
      answer.opening.toList).dropWhile Js.isWhitespace ++ content)
    have none : ((dropJsonTag answer.info.toList ++ answer.opening.toList).dropWhile
        Js.isWhitespace).countP (· == '`') = 0 :=
      List.countP_eq_zero.2 fun c mem tick => front_plain answer c mem (beq_iff_eq.1 tick)
    have three : fence.countP (· == '`') = 3 := by decide
    rw [same, body, List.countP_append, List.countP_append, List.countP_append, none, three] at ticks
    omega

/-- The content has the rest of the info string in front of the body. -/
theorem fencedMatch_of_info (answer : FencedAnswer) (json : JsonText answer.body)
    (last : answer.before.toList.getLast? ≠ some '`') (tagged : ¬ answer.Untagged)
    (free : ¬ fence <:+: answer.body.toList) :
    ∃ content, fencedMatch (Js.trim answer.text).toList = some content ∧ content ≠ [] ∧
      Js.trim (String.ofList content) ≠ answer.body := by
  obtain ⟨after, found⟩ := fencedMatch_eq answer json last
  rw [untagged_iff] at tagged
  rw [untilFence_clean answer json free] at found
  refine ⟨_, found, ?_, ?_⟩
  · intro empty
    exact tagged (List.append_eq_nil_iff.1 empty).1
  · intro same
    have solid : ∀ c, Js.isWhitespace c = true → ¬ (!Js.isWhitespace c) = true := by
      intro c blank
      rw [blank]
      exact Bool.false_ne_true
    have letters := countP_trim solid ((dropJsonTag answer.info.toList ++
      answer.opening.toList).dropWhile Js.isWhitespace ++
        (answer.body.toList ++ answer.closing.toList))
    have some : 0 < ((dropJsonTag answer.info.toList ++ answer.opening.toList).dropWhile
        Js.isWhitespace).countP (fun c => !Js.isWhitespace c) := by
      rw [List.countP_pos_iff]
      refine ⟨_, List.head_mem tagged, ?_⟩
      rw [Bool.not_eq_true', ← Bool.not_eq_true]
      exact Bool.eq_false_iff.1 (List.head_dropWhile_not _ tagged)
    rw [same, List.countP_append, List.countP_append] at letters
    omega

/-- A letter in front of the block goes into its content. -/
theorem fencedMatch_of_letter (answer : FencedAnswer) (json : JsonText answer.body)
    (last : answer.before.toList.getLast? = some '`') :
    ∃ content, fencedMatch (Js.trim answer.text).toList = some ('`' :: content) := by
  obtain ⟨after, trimmed⟩ := answer.trim_text
  obtain ⟨c, rest, body, starts⟩ := json.starts
  have head : answer.body.toList ++ answer.closing.toList ++ fence ++ after =
      c :: (rest ++ answer.closing.toList ++ fence ++ after) := by
    rw [body]
    rfl
  obtain ⟨d, ds, block, other⟩ := block_head answer starts head
  have letter : Js.isWhitespace '`' = false := by decide
  have tagless : ('`' : Char).toLower ≠ 'j' := by decide
  have closed : ∃ content, untilFence (d :: ds) = some content := by
    have inside : fence <:+: d :: ds := by
      rw [← block]
      refine ⟨answer.info.toList ++ answer.opening.toList ++ (answer.body.toList ++
        answer.closing.toList), after, ?_⟩
      simp only [List.append_assoc]
    obtain ⟨content, found, -⟩ : ∃ content, untilFence (d :: ds ++ []) = some content ∧
        content.length + 3 ≤ (d :: ds).length := untilFence_of_infix inside
    rw [List.append_nil] at found
    exact ⟨content, found⟩
  obtain ⟨content, found⟩ := closed
  have one : untilFence ('`' :: d :: ds) = some ('`' :: content) := by
    rw [untilFence_skip (not_prefix_of_second other), found]
    rfl
  unfold fencedMatch
  rw [trimmed, block]
  have shifted := @afterFence_of_last _ (d :: ds) (dropWhile_free answer)
    ((getLast?_dropWhile _).2 last)
  rcases shifted with opened | opened
  · rw [opened, Option.bind_some, dropJsonTag_of_ne tagless,
      List.dropWhile_cons_of_neg (Bool.eq_false_iff.1 letter), one]
    exact ⟨content, rfl⟩
  · rw [opened, Option.bind_some, dropJsonTag_of_ne tagless,
      List.dropWhile_cons_of_neg (Bool.eq_false_iff.1 letter),
      untilFence_skip (not_prefix_of_third other), one]
    exact ⟨'`' :: content, rfl⟩

theorem trim_block (answer : FencedAnswer) (json : JsonText answer.body) :
    Js.trim (String.ofList (answer.body.toList ++ answer.closing.toList)) = answer.body := by
  obtain ⟨c, rest, body, starts⟩ := json.starts
  obtain ⟨front, e, ends, stops⟩ := json.stops
  have whole : (answer.body.toList ++ answer.closing.toList).dropWhile Js.isWhitespace =
      answer.body.toList ++ answer.closing.toList := by
    rw [body]
    exact List.dropWhile_cons_of_neg (Bool.eq_false_iff.1 (of_mem_jsonStarts starts).1)
  have cut : (answer.body.toList ++ answer.closing.toList).rdropWhile Js.isWhitespace =
      answer.body.toList := by
    rw [ends, List.append_assoc, List.singleton_append,
      rdropWhile_append_of_stop (of_mem_jsonStops stops).1,
      List.rdropWhile_eq_nil_iff.2 answer.closingBlank]
  unfold Js.trim
  rw [String.toList_ofList, Js.trimList_eq_rdropWhile, whole, cut, String.ofList_toList]

/-- The body of a fenced block is what is parsed unless a letter of a fence comes before the block, the
info string names something else than JSON, or a fence is in the body. -/
theorem fenced_block_iff (answer : FencedAnswer) :
    (∀ (parser : JsonParser) (value : Json), parser.parse answer.body = .ok value →
        parseJsonResponse parser answer.text = .ok value) ↔
      (JsonText answer.body → answer.before.toList.getLast? ≠ some '`' ∧ answer.Untagged ∧
        ¬ fence <:+: answer.body.toList) := by
  constructor
  · intro answered json
    have last : answer.before.toList.getLast? ≠ some '`' := by
      intro last
      obtain ⟨content, found⟩ := fencedMatch_of_letter answer json last
      refine not_answered_of_match answer.bodyTrimmed json found nofun ?_ answered
      intro same
      obtain ⟨c, rest, body, starts⟩ := json.starts
      have letter : (Js.trim (String.ofList ('`' :: content))).toList =
          '`' :: content.rdropWhile Js.isWhitespace := by
        unfold Js.trim
        rw [String.toList_ofList, String.toList_ofList, Js.trimList_eq_rdropWhile,
          List.dropWhile_cons_of_neg (by decide)]
        exact @rdropWhile_append_of_stop [] content '`' _ (by decide)
      rw [← same, letter] at body
      exact (of_mem_jsonStarts starts).2.1 (List.cons.inj body).1.symm
    have free : ¬ fence <:+: answer.body.toList := by
      intro inside
      obtain ⟨content, found, nonempty, other⟩ := fencedMatch_of_fence answer json last inside
      exact not_answered_of_match answer.bodyTrimmed json found nonempty other answered
    refine ⟨last, ?_, free⟩
    by_contra tagged
    obtain ⟨content, found, nonempty, other⟩ := fencedMatch_of_info answer json last tagged free
    exact not_answered_of_match answer.bodyTrimmed json found nonempty other answered
  · intro clean parser value parsed
    have json : JsonText answer.body := by
      have json := parser.text_of_ok _ _ parsed
      rwa [answer.bodyTrimmed] at json
    obtain ⟨last, untagged, free⟩ := clean json
    have nonempty : answer.body.toList ++ answer.closing.toList ≠ [] := by
      obtain ⟨c, rest, body, -⟩ := json.starts
      rw [body]
      exact nofun
    rw [parseJsonResponse_of_match (fencedMatch_clean answer json last untagged free) nonempty,
      trim_block answer json]
    exact parsed

end Blocks

/-- A text of JSON is what is parsed unless there is a fenced block in it, and the body of a fenced
block is unless there are further fences or the info string is not that of JSON: only then does every
parser that takes the text for JSON answer with it. -/
theorem parseJsonResponse_iff (text : String) (answer : FencedAnswer) :
    ((∀ (parser : JsonParser) (value : Json), parser.parse (Js.trim text) = .ok value →
        parseJsonResponse parser text = .ok value) ↔
      (JsonText (Js.trim text) →
        ∀ content, fencedMatch (Js.trim text).toList = some content → content = [])) ∧
    ((∀ (parser : JsonParser) (value : Json), parser.parse answer.body = .ok value →
        parseJsonResponse parser answer.text = .ok value) ↔
      (JsonText answer.body → answer.before.toList.getLast? ≠ some '`' ∧ answer.Untagged ∧
        ¬ fence <:+: answer.body.toList)) :=
  ⟨whole_text_iff text, fenced_block_iff answer⟩

/-! ### A fence in a string -/

/-- A list of one text, which is a fenced block. -/
def markdownAnswer : String := "[\"```1```\"]"

theorem markdownAnswer_json : JsonText (Js.trim markdownAnswer) where
  starts := ⟨'[', _, rfl, by decide⟩
  stops := ⟨['[', '"', '`', '`', '`', '1', '`', '`', '`', '"'], ']', by decide, by decide⟩

/-- `JSON.parse` on the answer, and on what is in the block. -/
def markdownParser : JsonParser where
  parse text :=
    if text = markdownAnswer then .ok (.array [.string "```1```"])
    else if text = "1" then .ok (.number (.finite 1))
    else .error "Unexpected token"
  text_of_ok text value parsed := by
    split at parsed
    · rename_i same
      rw [same]
      exact markdownAnswer_json
    · split at parsed
      · rename_i same
        rw [same]
        exact { starts := ⟨'1', [], rfl, by decide⟩, stops := ⟨[], '1', rfl, by decide⟩ }
      · cases parsed

/-- The text is JSON, and is answered with what is in the block. -/
theorem fence_in_string :
    markdownParser.parse (Js.trim markdownAnswer) = .ok (.array [.string "```1```"]) ∧
      parseJsonResponse markdownParser markdownAnswer = .ok (.number (.finite 1)) := by
  have trimmed : Js.trim markdownAnswer = markdownAnswer := by decide
  have found : fencedMatch (Js.trim markdownAnswer).toList = some ['1'] := by decide
  constructor
  · rw [trimmed]
    rfl
  · rw [parseJsonResponse_of_match found nofun]
    rfl

end RisingIntelligence.Brief
