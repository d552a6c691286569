import Mathlib.Data.List.Infix

/-!
# Taking tokens out of a text

A text loses the tokens found from its start to its end, in one pass.  The tokens start with an
opening letter that none has anywhere else, so two of them never overlap, and none starts another.

What is then left spells a word exactly if the text had its letters one after the other with nothing
but whole tokens between them.  So a pass leaves a token where one was written around others.
-/

namespace RisingIntelligence

variable {α β : Type} [DecidableEq α]

/-! ## The pass -/

/-- Letters are compared by their key, such as a letter in lower case. -/
def tokenAt (key : β → α) (tokens : List (List α)) (cs : List β) : Option (List α) :=
  tokens.find? fun token => (cs.take token.length).map key == token

/-- The text without its tokens, with the first `skip` letters in one. -/
def removeTokens (key : β → α) (tokens : List (List α)) : Nat → List β → List β
  | _, [] => []
  | skip + 1, _ :: rest => removeTokens key tokens skip rest
  | 0, c :: rest =>
      match tokenAt key tokens (c :: rest) with
      | some token => removeTokens key tokens (token.length - 1) rest
      | none => c :: removeTokens key tokens 0 rest

/-- A text with the letters of a word, the last one at its end, and whole tokens before any of
them. -/
inductive Around (key : β → α) (tokens : List (List α)) : List α → List β → Prop
  | done : Around key tokens [] []
  | letter {word : List α} {cs : List β} (c : β) :
      Around key tokens word cs → Around key tokens (key c :: word) (c :: cs)
  | token {first : α} {word : List α} {cs : List β} (spelling : List β) :
      spelling.map key ∈ tokens → Around key tokens (first :: word) cs →
        Around key tokens (first :: word) (spelling ++ cs)

/-- A text from the first letter of a word to the last, with whole tokens between them. -/
inductive Spells (key : β → α) (tokens : List (List α)) : List α → List β → Prop
  | intro {word : List α} {cs : List β} (c : β) :
      Around key tokens word cs → Spells key tokens (key c :: word) (c :: cs)

/-- Tokens that neither overlap nor start one another. -/
structure Fenced (tokens : List (List α)) (opening : α) : Prop where
  opens : ∀ token ∈ tokens, token.head? = some opening
  once : ∀ token ∈ tokens, opening ∉ token.tail
  prefixFree : ∀ token ∈ tokens, ∀ other ∈ tokens, token <+: other → token = other

section Pass

variable {key : β → α} {tokens : List (List α)} {opening : α} {token word : List α} {c : β}
  {cs rest : List β}

theorem take_map_eq_iff :
    ((cs.take token.length).map key == token) = true ↔ token <+: cs.map key := by
  rw [beq_iff_eq, List.map_take, List.prefix_iff_eq_take, eq_comm]

theorem Fenced.tokenAt_eq_some_iff (fenced : Fenced tokens opening) :
    tokenAt key tokens cs = some token ↔ token ∈ tokens ∧ token <+: cs.map key := by
  unfold tokenAt
  constructor
  · intro found
    have same := List.find?_some found
    exact ⟨List.mem_of_find?_eq_some found, take_map_eq_iff.1 same⟩
  · intro there
    cases found : tokens.find? fun token => (cs.take token.length).map key == token with
    | none =>
        have absent := List.find?_eq_none.1 found token there.1
        exact absurd (take_map_eq_iff.2 there.2) absent
    | some other =>
        have mem := List.mem_of_find?_eq_some found
        have same := List.find?_some found
        have initial := take_map_eq_iff.1 same
        -- both start the text, so one starts the other
        rcases Nat.le_total other.length token.length with shorter | longer
        · have starts := List.prefix_of_prefix_length_le initial there.2 shorter
          rw [fenced.prefixFree other mem token there.1 starts]
        · have starts := List.prefix_of_prefix_length_le there.2 initial longer
          rw [fenced.prefixFree token there.1 other mem starts]

omit [DecidableEq α] in
theorem Fenced.exists_cons (fenced : Fenced tokens opening) (mem : token ∈ tokens) :
    ∃ tail, token = opening :: tail ∧ opening ∉ tail := by
  have opens := fenced.opens token mem
  have once := fenced.once token mem
  cases token with
  | nil => cases opens
  | cons first tail =>
      cases opens
      exact ⟨tail, rfl, once⟩

theorem Fenced.tokenAt_of_ne (fenced : Fenced tokens opening) (other : key c ≠ opening) :
    tokenAt key tokens (c :: rest) = none := by
  cases found : tokenAt key tokens (c :: rest) with
  | none => rfl
  | some token =>
      have there := fenced.tokenAt_eq_some_iff.1 found
      obtain ⟨tail, rfl, -⟩ := fenced.exists_cons there.1
      exact absurd (List.cons_prefix_cons.1 there.2).1.symm other

theorem removeTokens_skip (skip : Nat) (cs : List β) :
    removeTokens key tokens skip cs = removeTokens key tokens 0 (cs.drop skip) := by
  induction cs generalizing skip with
  | nil => cases skip <;> rfl
  | cons c rest ih =>
      cases skip with
      | zero => rfl
      | succ skip => exact ih skip

theorem removeTokens_of_some (fenced : Fenced tokens opening)
    (found : tokenAt key tokens cs = some token) :
    removeTokens key tokens 0 cs = removeTokens key tokens 0 (cs.drop token.length) := by
  have there := fenced.tokenAt_eq_some_iff.1 found
  obtain ⟨tail, rfl, -⟩ := fenced.exists_cons there.1
  cases cs with
  | nil => rfl
  | cons c rest =>
      rw [removeTokens, found]
      exact removeTokens_skip _ _

theorem removeTokens_of_none (absent : tokenAt key tokens (c :: rest) = none) :
    removeTokens key tokens 0 (c :: rest) = c :: removeTokens key tokens 0 rest := by
  rw [removeTokens, absent]

theorem removeTokens_sublist (skip : Nat) (cs : List β) :
    (removeTokens key tokens skip cs).Sublist cs := by
  induction cs generalizing skip with
  | nil => cases skip <;> exact List.Sublist.refl []
  | cons c rest ih =>
      cases skip with
      | succ skip => exact (ih skip).cons c
      | zero =>
          unfold removeTokens
          split
          · exact (ih _).cons c
          · exact (ih 0).cons_cons c

/-- Behind a token there is less of the text. -/
theorem Fenced.length_drop_lt (fenced : Fenced tokens opening)
    (found : tokenAt key tokens cs = some token) : (cs.drop token.length).length < cs.length := by
  have there := fenced.tokenAt_eq_some_iff.1 found
  obtain ⟨tail, same, -⟩ := fenced.exists_cons there.1
  have fits := there.2.length_le
  rw [same, List.length_map, List.length_cons] at fits
  rw [List.length_drop, same, List.length_cons]
  omega

/-! ## What is left -/

theorem Around.prefix_removeTokens (fenced : Fenced tokens opening)
    (around : Around key tokens word cs) (closed : opening ∉ word) :
    word <+: (removeTokens key tokens 0 (cs ++ rest)).map key := by
  induction around with
  | done => exact List.nil_prefix
  | @letter _ cs c around ih =>
      rw [List.mem_cons, not_or] at closed
      have absent : tokenAt key tokens (c :: (cs ++ rest)) = none :=
        fenced.tokenAt_of_ne (Ne.symm closed.1)
      rw [List.cons_append, removeTokens_of_none absent, List.map_cons, List.cons_prefix_cons]
      exact ⟨rfl, ih closed.2⟩
  | @token _ _ cs spelling mem around ih =>
      have found : tokenAt key tokens (spelling ++ (cs ++ rest)) = some (spelling.map key) := by
        rw [fenced.tokenAt_eq_some_iff, List.map_append]
        exact ⟨mem, List.prefix_append _ _⟩
      rw [List.append_assoc, removeTokens_of_some fenced found, List.length_map,
        List.drop_left]
      exact ih closed

/-- The letters of a word that are left at the start had only tokens between them. -/
theorem exists_around_of_prefix (fenced : Fenced tokens opening)
    (left : word <+: (removeTokens key tokens 0 cs).map key) :
    ∃ nest rest, cs = nest ++ rest ∧ Around key tokens word nest := by
  induction size : cs.length using Nat.strongRecOn generalizing cs word with
  | _ size ih =>
      subst size
      cases word with
      | nil => exact ⟨[], cs, rfl, .done⟩
      | cons first word =>
          cases cs with
          | nil =>
              have nothing := List.prefix_nil.1 left
              cases nothing
          | cons c rest =>
              cases found : tokenAt key tokens (c :: rest) with
              | none =>
                  rw [removeTokens_of_none found, List.map_cons, List.cons_prefix_cons] at left
                  obtain ⟨nest, after, rfl, around⟩ :=
                    ih rest.length (Nat.lt_succ_self _) left.2 rfl
                  exact ⟨c :: nest, after, rfl, left.1 ▸ .letter c around⟩
              | some token =>
                  have there := fenced.tokenAt_eq_some_iff.1 found
                  obtain ⟨tail, same, -⟩ := fenced.exists_cons there.1
                  have positive : 0 < token.length := by
                    rw [same]
                    exact Nat.succ_pos _
                  have shorter : ((c :: rest).drop token.length).length < (c :: rest).length := by
                    rw [List.length_drop, List.length_cons]
                    omega
                  rw [removeTokens_of_some fenced found] at left
                  obtain ⟨nest, after, split, around⟩ := ih _ shorter left rfl
                  have spelling : ((c :: rest).take token.length).map key = token := by
                    rw [List.map_take, ← List.prefix_iff_eq_take.1 there.2]
                  have whole : c :: rest = (c :: rest).take token.length ++ nest ++ after := by
                    rw [List.append_assoc, ← split, List.take_append_drop]
                  exact ⟨_, after, whole, .token _ (spelling.symm ▸ there.1) around⟩

omit [DecidableEq α] in
/-- A word that runs over a letter has it after its first letter. -/
theorem prefix_of_prefix_append {first letter : α} {before after : List α}
    (initial : word <+: first :: before ++ letter :: after) (outer : letter ∉ word.tail) :
    word <+: first :: before := by
  have start : first :: before <+: first :: before ++ letter :: after := List.prefix_append _ _
  have onward : first :: before ++ [letter] <+: first :: before ++ letter :: after := by
    rw [List.prefix_append_right_inj]
    exact List.cons_prefix_cons.2 ⟨rfl, List.nil_prefix⟩
  rcases Nat.lt_or_ge (first :: before).length word.length with longer | shorter
  · have reach : (first :: before ++ [letter]).length ≤ word.length := by
      rw [List.length_append]
      exact longer
    obtain ⟨more, same⟩ := List.prefix_of_prefix_length_le onward initial reach
    rw [← same] at outer
    simp at outer
  · exact List.prefix_of_prefix_length_le initial start shorter

/-- A letter that no token has after its first is left, or starts a token. -/
theorem removeTokens_append (fenced : Fenced tokens opening) {before : List β}
    (outer : ∀ token ∈ tokens, key c ∉ token.tail) {skip : Nat} (within : skip ≤ before.length) :
    removeTokens key tokens skip (before ++ c :: rest) =
      removeTokens key tokens skip before ++ removeTokens key tokens 0 (c :: rest) := by
  induction before generalizing skip with
  | nil =>
      obtain rfl : skip = 0 := Nat.le_zero.1 within
      rfl
  | cons first before ih =>
      cases skip with
      | succ skip => exact ih (Nat.le_of_succ_le_succ within)
      | zero =>
          rw [List.cons_append]
          cases found : tokenAt key tokens (first :: (before ++ c :: rest)) with
          | none =>
              have absent : tokenAt key tokens (first :: before) = none := by
                cases here : tokenAt key tokens (first :: before) with
                | none => rfl
                | some token =>
                    have there := fenced.tokenAt_eq_some_iff.1 here
                    have longer : (first :: before).map key <+:
                        (first :: (before ++ c :: rest)).map key := by
                      rw [← List.cons_append, List.map_append]
                      exact List.prefix_append _ _
                    rw [fenced.tokenAt_eq_some_iff.2 ⟨there.1, there.2.trans longer⟩] at found
                    cases found
              rw [removeTokens_of_none found, removeTokens_of_none absent, ih (Nat.zero_le _),
                List.cons_append]
          | some token =>
              have there := fenced.tokenAt_eq_some_iff.1 found
              have initial : token <+: (first :: before).map key := by
                have longer : token <+: key first :: before.map key ++ key c :: rest.map key := by
                  simpa using there.2
                exact prefix_of_prefix_append longer (outer token there.1)
              have here := fenced.tokenAt_eq_some_iff.2 ⟨there.1, initial⟩
              have room : token.length - 1 ≤ before.length := by
                have length := initial.length_le
                rw [List.length_map, List.length_cons] at length
                omega
              rw [removeTokens, found, removeTokens, here]
              exact ih room

/-- A word whose first letter no token has after its own first is left in a text exactly if its
first letter is left somewhere and the others after it. -/
theorem infix_removeTokens_iff (fenced : Fenced tokens opening) {first : α}
    (outer : ∀ token ∈ tokens, first ∉ token.tail) :
    first :: word <:+: (removeTokens key tokens 0 cs).map key ↔
      ∃ before c rest, cs = before ++ c :: rest ∧ key c = first ∧
        tokenAt key tokens (c :: rest) = none ∧
        word <+: (removeTokens key tokens 0 rest).map key := by
  constructor
  · intro there
    induction size : cs.length using Nat.strongRecOn generalizing cs with
    | _ size ih =>
        subst size
        cases cs with
        | nil =>
            have nothing := List.infix_nil.1 there
            cases nothing
        | cons c rest =>
            cases found : tokenAt key tokens (c :: rest) with
            | none =>
                rw [removeTokens_of_none found, List.map_cons, List.infix_cons_iff,
                  List.cons_prefix_cons] at there
                rcases there with here | later
                · exact ⟨[], c, rest, rfl, here.1.symm, found, here.2⟩
                · obtain ⟨before, c', rest', rfl, left⟩ :=
                    ih rest.length (Nat.lt_succ_self _) later rfl
                  exact ⟨c :: before, c', rest', rfl, left⟩
            | some token =>
                have mem := (fenced.tokenAt_eq_some_iff.1 found).1
                obtain ⟨tail, same, -⟩ := fenced.exists_cons mem
                have positive : 0 < token.length := by
                  rw [same]
                  exact Nat.succ_pos _
                have shorter : ((c :: rest).drop token.length).length < (c :: rest).length := by
                  rw [List.length_drop, List.length_cons]
                  omega
                rw [removeTokens_of_some fenced found] at there
                obtain ⟨before, c', rest', split, left⟩ := ih _ shorter there rfl
                have whole : c :: rest =
                    ((c :: rest).take token.length ++ before) ++ c' :: rest' := by
                  rw [List.append_assoc, ← split, List.take_append_drop]
                exact ⟨_, c', rest', whole, left⟩
  · intro there
    obtain ⟨before, c, rest, rfl, rfl, absent, left⟩ := there
    rw [removeTokens_append fenced outer (Nat.zero_le _), removeTokens_of_none absent,
      List.map_append, List.map_cons]
    exact ((List.cons_prefix_cons.2 ⟨rfl, left⟩).isInfix).trans (List.suffix_append _ _).isInfix

/-- A word without an opening is left in a text that spells it. -/
theorem infix_removeTokens_iff_spells (fenced : Fenced tokens opening) {first : α}
    (outer : ∀ token ∈ tokens, first ∉ token.tail) (closed : opening ∉ first :: word) :
    first :: word <:+: (removeTokens key tokens 0 cs).map key ↔
      ∃ nest, nest <:+: cs ∧ Spells key tokens (first :: word) nest := by
  rw [List.mem_cons, not_or] at closed
  rw [infix_removeTokens_iff fenced outer]
  constructor
  · intro there
    obtain ⟨before, c, rest, rfl, rfl, -, left⟩ := there
    obtain ⟨nest, after, rfl, around⟩ := exists_around_of_prefix fenced left
    refine ⟨c :: nest, ?_, .intro c around⟩
    exact ⟨before, after, by simp⟩
  · intro there
    obtain ⟨nest, ⟨before, after, rfl⟩, spells⟩ := there
    cases spells with
    | @intro _ nest c around =>
        refine ⟨before, c, nest ++ after, by simp, rfl, ?_, ?_⟩
        · exact fenced.tokenAt_of_ne (Ne.symm closed.1)
        · exact around.prefix_removeTokens fenced closed.2

/-! ## Tokens that are left -/

omit [DecidableEq α] in
theorem Around.length_le (around : Around key tokens word cs) : word.length ≤ cs.length := by
  induction around with
  | done => exact Nat.le_refl 0
  | letter c around ih =>
      rw [List.length_cons, List.length_cons]
      omega
  | token spelling mem around ih =>
      rw [List.length_append]
      omega

omit [DecidableEq α] in
/-- Either there is nothing but the word, or a token opens before its end. -/
theorem Around.alone_or_opens (fenced : Fenced tokens opening)
    (around : Around key tokens word cs) :
    cs.map key = word ∨
      word.length < cs.length ∧ ∃ read, read <+: word ∧ read.length < word.length ∧
        read ++ [opening] <+: cs.map key := by
  induction around with
  | done => exact .inl rfl
  | @letter word cs c around ih =>
      rcases ih with same | ⟨longer, read, initial, shorter, opens⟩
      · left
        rw [List.map_cons, same]
      · right
        refine ⟨Nat.succ_lt_succ longer, key c :: read, ?_, Nat.succ_lt_succ shorter, ?_⟩
        · exact List.cons_prefix_cons.2 ⟨rfl, initial⟩
        · rw [List.map_cons, List.cons_append]
          exact List.cons_prefix_cons.2 ⟨rfl, opens⟩
  | @token first word cs spelling mem around ih =>
      right
      obtain ⟨tail, same, -⟩ := fenced.exists_cons mem
      have long := congrArg List.length same
      have rest := around.length_le
      rw [List.length_map, List.length_cons] at long
      refine ⟨?_, [], List.nil_prefix, Nat.succ_pos _, ?_⟩
      · rw [List.length_append]
        omega
      · rw [List.map_append, same]
        exact List.cons_prefix_cons.2 ⟨rfl, List.nil_prefix⟩

omit [DecidableEq α] in
theorem length_le_of_not_mem {read text : List α} (initial : word <+: text)
    (opens : read ++ [opening] <+: text) (closed : opening ∉ word) : word.length ≤ read.length := by
  by_contra longer
  have reach : (read ++ [opening]).length ≤ word.length := by
    rw [List.length_append, List.length_singleton]
    omega
  have inside := List.prefix_of_prefix_length_le opens initial reach
  exact closed (inside.subset (by simp))

/-- A token is left in a text that spells it with another in between. -/
theorem infix_removeTokens_iff_nested (fenced : Fenced tokens opening) (mem : token ∈ tokens) :
    token <:+: (removeTokens key tokens 0 cs).map key ↔
      ∃ nest, nest <:+: cs ∧ Spells key tokens token nest ∧ token.length < nest.length := by
  obtain ⟨word, rfl, closed⟩ := fenced.exists_cons mem
  rw [infix_removeTokens_iff fenced fenced.once]
  constructor
  · intro there
    obtain ⟨before, c, rest, rfl, same, absent, left⟩ := there
    obtain ⟨nest, after, rfl, around⟩ := exists_around_of_prefix fenced left
    subst same
    refine ⟨c :: nest, ⟨before, after, by simp⟩, .intro c around, ?_⟩
    rcases around.alone_or_opens fenced with alone | ⟨longer, -⟩
    · have whole : tokenAt key tokens (c :: (nest ++ after)) = some (key c :: word) := by
        rw [fenced.tokenAt_eq_some_iff, List.map_cons, List.map_append, alone]
        exact ⟨mem, List.cons_prefix_cons.2 ⟨rfl, List.prefix_append _ _⟩⟩
      rw [whole] at absent
      cases absent
    · exact Nat.succ_lt_succ longer
  · intro there
    obtain ⟨nest, ⟨before, after, rfl⟩, spells, longer⟩ := there
    cases spells with
    | @intro _ nest c around =>
        refine ⟨before, c, nest ++ after, by simp, rfl, ?_,
          around.prefix_removeTokens fenced closed⟩
        rcases around.alone_or_opens fenced with alone | ⟨-, read, initial, shorter, opens⟩
        · have same := congrArg List.length alone
          rw [List.length_map] at same
          rw [List.length_cons, List.length_cons] at longer
          omega
        · cases found : tokenAt key tokens (c :: (nest ++ after)) with
          | none => rfl
          | some other =>
              -- a token here would end before the one in between opens
              have there := fenced.tokenAt_eq_some_iff.1 found
              obtain ⟨tail, rfl, closed'⟩ := fenced.exists_cons there.1
              have text := (List.cons_prefix_cons.1 there.2).2
              have opens' : read ++ [key c] <+: (nest ++ after).map key := by
                rw [List.map_append]
                exact opens.trans (List.prefix_append _ _)
              have short := length_le_of_not_mem text opens' closed'
              have within : tail <+: word := by
                apply (List.prefix_of_prefix_length_le text _ short).trans initial
                exact (List.prefix_append _ _).trans opens'
              have same := fenced.prefixFree _ there.1 _ mem (List.cons_prefix_cons.2 ⟨rfl, within⟩)
              have length := congrArg List.length same
              rw [List.length_cons, List.length_cons] at length
              omega

end Pass

end RisingIntelligence
