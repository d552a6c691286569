import RisingIntelligence.Pipeline.RawEventEnrichment

/-!
# Replacing a text twice

When `normalizeText` changes nothing in a text that it has replaced itself.

* `replaceText_cases`: what the title does to a placeholder, to a URL and to a blank text.
* `issueCode_cases`: each code tells what the text was.
* `normalizeText_settled_iff`: the title has to be replaced like the text.
-/

namespace RisingIntelligence.Enrichment

open Js (Pattern)

variable {text title trimmed : String} {c : Char}

/-! ## Placeholders -/

/-- A character that folds to a letter is one code unit. -/
theorem units_of_foldsTo {letter : Char} (lower : letter.isLower = true)
    (folds : foldsTo letter c = true) : Js.units c = 1 := by
  have small : c.toNat < 0x10000 := by
    unfold foldsTo at folds
    rw [Bool.or_eq_true, Bool.and_eq_true, beq_iff_eq, beq_iff_eq, beq_iff_eq] at folds
    rcases folds with same | ⟨-, rfl⟩
    · unfold Char.toLower at same
      split at same
      · rename_i upper
        have most : c.toNat ≤ 90 := upper.2
        omega
      · unfold Char.isLower at lower
        rw [same, Bool.and_eq_true] at *
        have most : letter.toNat ≤ 122 := of_decide_eq_true lower.2
        omega
    · decide
  unfold Js.units
  rw [if_neg (Nat.not_le_of_lt small)]

theorem length_of_folds {letters front rest : List Char} (lower : letters.all Char.isLower = true)
    (folded : List.Forall₂ (fun letter c => foldsTo letter c = true) letters front) :
    Js.length (String.ofList (front ++ rest)) =
      letters.length + Js.length (String.ofList rest) := by
  induction folded with
  | nil => simp
  | cons folds _ ih =>
      rw [List.all_cons, Bool.and_eq_true] at lower
      rw [List.cons_append, Js.length_cons, units_of_foldsTo lower.1 folds, ih lower.2,
        List.length_cons]
      omega

theorem mem_rests_folded {letters cs rest : List Char}
    (mem : rest ∈ (letters.foldr (fun letter rest => Pattern.seq (.char (foldsTo letter)) rest)
      .empty).rests cs) :
    ∃ front, cs = front ++ rest ∧ List.Forall₂ (fun letter c => foldsTo letter c = true) letters front := by
  induction letters generalizing cs with
  | nil =>
      have same : rest = cs := List.mem_singleton.1 mem
      exact ⟨[], same.symm, .nil⟩
  | cons letter letters ih =>
      obtain ⟨mid, first, later⟩ := List.mem_flatMap.1 mem
      cases cs with
      | nil => exact absurd first List.not_mem_nil
      | cons c cs =>
          unfold Pattern.rests at first
          split at first
          · rename_i folds
            obtain rfl := List.mem_singleton.1 first
            obtain ⟨front, same, folded⟩ := ih later
            exact ⟨c :: front, congrArg (c :: ·) same, .cons folds folded⟩
          · exact absurd first List.not_mem_nil

/-- The characters of a placeholder. -/
theorem commentsOnly_cases (comments : isCommentsOnly trimmed = true) :
    ∃ front rest, trimmed.toList = front ++ rest ∧
      List.Forall₂ (fun letter c => foldsTo letter c = true) "comment".toList front ∧
      (rest = [] ∨ ∃ c, rest = [c] ∧ foldsTo 's' c = true) := by
  unfold isCommentsOnly matchesWhole at comments
  rw [List.contains_iff_mem] at comments
  obtain ⟨mid, first, later⟩ := List.mem_flatMap.1 comments
  obtain ⟨front, same, folded⟩ := mem_rests_folded first
  refine ⟨front, mid, same, folded, ?_⟩
  rcases List.mem_append.1 later with some | none
  · cases mid with
    | nil => exact .inl rfl
    | cons c rest =>
        unfold Pattern.rests at some
        split at some
        · rename_i folds
          have ended : [] = rest := List.mem_singleton.1 some
          exact .inr ⟨c, by rw [← ended], folds⟩
        · exact absurd some List.not_mem_nil
  · have ended : [] = mid := List.mem_singleton.1 none
    exact .inl ended.symm

/-- A placeholder is short and no URL. -/
theorem commentsOnly_short (comments : isCommentsOnly trimmed = true) :
    Js.length trimmed < 40 ∧ isUrlOnly trimmed = false := by
  obtain ⟨front, rest, same, folded, ending⟩ := commentsOnly_cases comments
  constructor
  · have whole : Js.length (String.ofList (front ++ rest)) =
        "comment".toList.length + Js.length (String.ofList rest) :=
      length_of_folds (by decide) folded
    rw [← same, String.ofList_toList] at whole
    have short : Js.length (String.ofList rest) ≤ 1 := by
      rcases ending with rfl | ⟨c, rfl, folds⟩
      · decide
      · rw [Js.length_cons, units_of_foldsTo (by decide) folds]
        decide
    have seven : "comment".toList.length = 7 := by decide
    omega
  · rw [← Bool.not_eq_true]
    intro url
    unfold isUrlOnly matchesWhole at url
    rw [List.contains_iff_mem] at url
    obtain ⟨mid, first, -⟩ := List.mem_flatMap.1 url
    obtain ⟨front', same', folded'⟩ := mem_rests_folded first
    rw [same] at same'
    change List.Forall₂ _ ('c' :: _) front at folded
    change List.Forall₂ _ ('h' :: _) front' at folded'
    cases folded with
    | cons c _ =>
        cases folded' with
        | cons h _ =>
            have head := (List.cons.inj same').1
            rw [head] at c
            unfold foldsTo at c h
            simp at c h
            rw [c] at h
            exact absurd h (by decide)

/-! ## What is replaced -/

/-- The codes for the text that was given. -/
def flagCodes (trimmed : String) : List String :=
  (if isCommentsOnly trimmed then ["comments_placeholder_text"] else []) ++
    (if isUrlOnly trimmed then ["url_only_text"] else []) ++
    (if Js.length trimmed < 40 then ["very_short_text"] else [])

def isLowInformation (trimmed : String) : Bool :=
  isCommentsOnly trimmed || isUrlOnly trimmed || decide (Js.length trimmed < 40)

theorem normalizeText_eq {title : Option String} :
    normalizeText text title =
      ⟨(replaceText text title).1, isLowInformation (Js.trim text),
        (replaceText text title).2 ++ flagCodes (Js.trim text)⟩ := by
  unfold normalizeText flagCodes isLowInformation
  simp [List.append_assoc]

/-- What the title does to each kind of text. -/
theorem replaceText_cases (nonempty : title ≠ "") :
    (isCommentsOnly (Js.trim text) = true ∧
        replaceText text (some title) = (title, ["comments_placeholder_replaced_with_title"])) ∨
      (isCommentsOnly (Js.trim text) = false ∧ isUrlOnly (Js.trim text) = true ∧
        replaceText text (some title) =
          (title ++ "\n" ++ Js.trim text, ["url_only_text_padded_with_title"])) ∨
      (Js.trim text = "" ∧
        replaceText text (some title) = (title, ["blank_text_replaced_with_title"])) ∨
      (isCommentsOnly (Js.trim text) = false ∧ isUrlOnly (Js.trim text) = false ∧
        Js.trim text ≠ "" ∧ replaceText text (some title) = (text, [])) := by
  have kept : (some title).filter (fun title => decide (title ≠ "")) = some title := by
    simp [nonempty]
  unfold replaceText
  rw [kept]
  dsimp only
  cases comments : isCommentsOnly (Js.trim text) with
  | true => exact .inl ⟨rfl, rfl⟩
  | false =>
      cases url : isUrlOnly (Js.trim text) with
      | true => exact .inr (.inl ⟨rfl, rfl, rfl⟩)
      | false =>
          by_cases blank : Js.trim text = ""
          · exact .inr (.inr (.inl ⟨blank, if_pos blank⟩))
          · exact .inr (.inr (.inr ⟨rfl, rfl, blank, if_neg blank⟩))

/-- A title with text keeps its line in front of what is padded. -/
theorem trimList_padded {title cs : List Char} (nonempty : Js.trimList cs ≠ []) :
    Js.trimList (title ++ '\n' :: Js.trimList cs) = Js.trimList cs ↔ Js.trimList title = [] := by
  have front := Js.dropWhile_rdropWhile (List.dropWhile_idempotent Js.isWhitespace cs)
  rw [← Js.trimList_eq_rdropWhile] at front
  have back : (Js.trimList cs).rdropWhile Js.isWhitespace = Js.trimList cs := by
    rw [Js.trimList_eq_rdropWhile, List.rdropWhile_idempotent]
  generalize Js.trimList cs = kept at nonempty front back
  have line : Js.isWhitespace '\n' = true := by decide
  rw [Js.trimList_eq_rdropWhile, List.dropWhile_append]
  constructor
  · intro same
    by_contra visible
    have shown : (title.dropWhile Js.isWhitespace).isEmpty = false := by
      rw [List.isEmpty_eq_false_iff]
      intro none
      exact visible (Js.trimList_eq_nil_iff.2 (List.dropWhile_eq_nil_iff.1 none))
    rw [shown, if_neg Bool.false_ne_true] at same
    have whole : (title.dropWhile Js.isWhitespace ++ '\n' :: kept).rdropWhile Js.isWhitespace =
        title.dropWhile Js.isWhitespace ++ '\n' :: kept := by
      rw [List.rdropWhile_eq_self_iff]
      intro some
      have last := List.rdropWhile_eq_self_iff.1 back nonempty
      rw [List.getLast_append_of_ne_nil _ (List.cons_ne_nil _ _), List.getLast_cons nonempty]
      exact last
    have longer := congrArg List.length (whole.symm.trans same)
    rw [List.length_append, List.length_cons] at longer
    omega
  · intro blank
    have hidden : (title.dropWhile Js.isWhitespace).isEmpty = true := by
      rw [List.isEmpty_iff, List.dropWhile_eq_nil_iff]
      exact Js.trimList_eq_nil_iff.1 blank
    rw [hidden, if_pos rfl, List.dropWhile_cons_of_pos line, front, back]

theorem trim_padded (nonempty : Js.trim text ≠ "") :
    Js.trim (title ++ "\n" ++ Js.trim text) = Js.trim text ↔ Js.trim title = "" := by
  rw [ne_eq, Js.trim_eq_empty_iff] at nonempty
  rw [Js.trim_eq_empty_iff, ← @trimList_padded title.toList text.toList nonempty]
  unfold Js.trim
  rw [← String.toList_inj]
  simp only [String.toList_append, String.toList_ofList, List.append_assoc]
  rfl

theorem flagCodes_of_comments (comments : isCommentsOnly trimmed = true) :
    flagCodes trimmed = ["comments_placeholder_text", "very_short_text"] := by
  have short := commentsOnly_short comments
  unfold flagCodes
  rw [comments, short.2, if_pos short.1]
  rfl

theorem normalizeText_of_comments (nonempty : title ≠ "")
    (comments : isCommentsOnly (Js.trim text) = true) :
    normalizeText text (some title) =
      ⟨title, true, ["comments_placeholder_replaced_with_title", "comments_placeholder_text",
        "very_short_text"]⟩ := by
  have low : isLowInformation (Js.trim text) = true := by
    unfold isLowInformation
    rw [comments]
    rfl
  rcases @replaceText_cases text title nonempty with ⟨-, replaced⟩ | ⟨other, -⟩ | ⟨blank, -⟩ |
    ⟨other, -⟩
  · rw [normalizeText_eq, replaced, low, flagCodes_of_comments comments]
    rfl
  · rw [comments] at other
    cases other
  · rw [blank] at comments
    exact absurd comments (by decide)
  · rw [comments] at other
    cases other

theorem url_of_blank (blank : trimmed = "") :
    isCommentsOnly trimmed = false ∧ isUrlOnly trimmed = false := by
  rw [blank]
  decide

theorem normalizeText_of_url (nonempty : title ≠ "") (url : isUrlOnly (Js.trim text) = true) :
    normalizeText text (some title) =
      ⟨title ++ "\n" ++ Js.trim text, isLowInformation (Js.trim text),
        "url_only_text_padded_with_title" :: flagCodes (Js.trim text)⟩ := by
  rcases @replaceText_cases text title nonempty with ⟨comments, -⟩ | ⟨-, -, replaced⟩ |
    ⟨blank, -⟩ | ⟨-, other, -⟩
  · rw [(commentsOnly_short comments).2] at url
    cases url
  · rw [normalizeText_eq, replaced]
    dsimp only
    rw [List.singleton_append]
  · rw [(url_of_blank blank).2] at url
    cases url
  · rw [other] at url
    cases url

theorem normalizeText_of_blank (nonempty : title ≠ "") (blank : Js.trim text = "") :
    normalizeText text (some title) =
      ⟨title, isLowInformation (Js.trim text),
        "blank_text_replaced_with_title" :: flagCodes (Js.trim text)⟩ := by
  have other := url_of_blank blank
  rcases @replaceText_cases text title nonempty with ⟨comments, -⟩ | ⟨-, url, -⟩ |
    ⟨-, replaced⟩ | ⟨-, -, full, -⟩
  · rw [other.1] at comments
    cases comments
  · rw [other.2] at url
    cases url
  · rw [normalizeText_eq, replaced]
    dsimp only
    rw [List.singleton_append]
  · exact absurd blank full

/-- What each code says of the text. -/
theorem issueCode_cases {title : Option String} {code : String}
    (mem : code ∈ (normalizeText text title).issueCodes) :
    (code = "comments_placeholder_text" → isCommentsOnly (Js.trim text) = true) ∧
      (code = "url_only_text" → isUrlOnly (Js.trim text) = true) ∧
      (code = "blank_text_replaced_with_title" → Js.trim text = "") := by
  rw [normalizeText_eq] at mem
  rcases List.mem_append.1 mem with replaced | flagged
  · unfold replaceText at replaced
    dsimp only at replaced
    split at replaced
    · exact absurd replaced List.not_mem_nil
    · split at replaced
      · rw [List.mem_singleton.1 replaced]
        exact ⟨by simp, by simp, by simp⟩
      · split at replaced
        · rw [List.mem_singleton.1 replaced]
          exact ⟨by simp, by simp, by simp⟩
        · split at replaced
          · rename_i blank
            rw [List.mem_singleton.1 replaced]
            exact ⟨by simp, by simp, fun _ => blank⟩
          · exact absurd replaced List.not_mem_nil
  · unfold flagCodes at flagged
    rcases List.mem_append.1 flagged with first | short
    · rcases List.mem_append.1 first with comments | url
      · obtain ⟨comments, mem⟩ := List.mem_ite_nil_right.1 comments
        rw [List.mem_singleton.1 mem]
        exact ⟨fun _ => comments, by simp, by simp⟩
      · obtain ⟨url, mem⟩ := List.mem_ite_nil_right.1 url
        rw [List.mem_singleton.1 mem]
        exact ⟨by simp, fun _ => url, by simp⟩
    · obtain ⟨-, mem⟩ := List.mem_ite_nil_right.1 short
      rw [List.mem_singleton.1 mem]
      exact ⟨by simp, by simp, by simp⟩

/-! ## Both runs -/

/-- No title, a text that is kept, or a title that is replaced like the text. -/
def TextSettled (text : String) (title : Option String) : Prop :=
  title.getD "" = "" ∨
    (isCommentsOnly (Js.trim text) = false ∧ isUrlOnly (Js.trim text) = false ∧
      Js.trim text ≠ "") ∨
    (isCommentsOnly (Js.trim text) = true ∧ isCommentsOnly (Js.trim (title.getD "")) = true) ∨
    ((isUrlOnly (Js.trim text) = true ∨ Js.trim text = "") ∧ Js.trim (title.getD "") = "")

theorem normalizeText_settled_iff {title : Option String} :
    normalizeText (normalizeText text title).text title = normalizeText text title ↔
      TextSettled text title := by
  unfold TextSettled
  by_cases untitled : title.getD "" = ""
  · have kept : replaceText text title = (text, []) := by
      unfold replaceText
      cases title with
      | none => rfl
      | some title =>
          rw [Option.getD_some] at untitled
          subst untitled
          rfl
    have same : (normalizeText text title).text = text := by
      rw [normalizeText_eq, kept]
    exact iff_of_true (by rw [same]) (.inl untitled)
  · obtain ⟨title, rfl⟩ : ∃ text, title = some text := by
      cases title with
      | none => exact absurd rfl untitled
      | some title => exact ⟨title, rfl⟩
    rw [Option.getD_some] at untitled ⊢
    rw [or_iff_right untitled]
    rcases @replaceText_cases text title untitled with ⟨comments, replaced⟩ |
      ⟨other, url, replaced⟩ | ⟨blank, replaced⟩ | ⟨other, noUrl, full, kept⟩
    · have first := normalizeText_of_comments untitled comments
      have noUrl := (commentsOnly_short comments).2
      have full : Js.trim text ≠ "" := fun blank => by
        rw [blank] at comments
        exact absurd comments (by decide)
      rw [first]
      simp only [comments, noUrl, full, true_and, false_and, or_false, Bool.true_eq_false,
        Bool.false_eq_true, false_or]
      constructor
      · intro same
        have code := congrArg TextNormalizationResult.issueCodes same
        have found : "comments_placeholder_text" ∈
            (normalizeText title (some title)).issueCodes := by
          rw [code]
          exact List.mem_cons_of_mem _ List.mem_cons_self
        exact (issueCode_cases found).1 rfl
      · intro titled
        exact normalizeText_of_comments untitled titled
    · have full : Js.trim text ≠ "" := fun blank => by
        rw [(url_of_blank blank).2] at url
        cases url
      rw [normalizeText_of_url untitled url]
      simp only [other, url, full, Bool.true_eq_false, Bool.false_eq_true, false_and, and_false,
        false_or, or_false, true_and]
      rw [← @trim_padded text title full]
      constructor
      · intro same
        have code := congrArg TextNormalizationResult.issueCodes same
        have found : "url_only_text" ∈ (normalizeText (title ++ "\n" ++ Js.trim text)
            (some title)).issueCodes := by
          rw [code]
          unfold flagCodes
          rw [url]
          simp
        -- so the text is padded again, in front of what is left of it
        have urlAgain : isUrlOnly (Js.trim (title ++ "\n" ++ Js.trim text)) = true :=
          (issueCode_cases found).2.1 rfl
        rw [normalizeText_of_url untitled urlAgain] at same
        have texts : title ++ "\n" ++ Js.trim (title ++ "\n" ++ Js.trim text) =
            title ++ "\n" ++ Js.trim text :=
          congrArg TextNormalizationResult.text same
        exact (String.append_right_inj _).1 texts
      · intro same
        have urlAgain : isUrlOnly (Js.trim (title ++ "\n" ++ Js.trim text)) = true := by
          rw [same]
          exact url
        rw [normalizeText_of_url untitled urlAgain, same]
    · have other : isCommentsOnly "" = false ∧ isUrlOnly "" = false := url_of_blank rfl
      rw [normalizeText_of_blank untitled blank]
      simp only [blank, other, Bool.false_eq_true, false_and,
        and_false, false_or, or_true, true_and, ne_eq, not_true_eq_false]
      constructor
      · intro same
        have code := congrArg TextNormalizationResult.issueCodes same
        have found : "blank_text_replaced_with_title" ∈
            (normalizeText title (some title)).issueCodes := by
          rw [code]
          exact List.mem_cons_self
        exact (issueCode_cases found).2.2 rfl
      · intro hidden
        rw [normalizeText_of_blank untitled hidden, hidden]
    · have same : (normalizeText text (some title)).text = text := by
        rw [normalizeText_eq, kept]
      exact iff_of_true (by rw [same]) (.inl ⟨other, noUrl, full⟩)

end RisingIntelligence.Enrichment
