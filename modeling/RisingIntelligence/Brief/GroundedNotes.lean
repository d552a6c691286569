import RisingIntelligence.Brief.Grounding

/-!
# Grounded notes

`enforceGroundedNotes` of `apps/brief/src/grounding-facade.ts`: the URLs in the notes of a brief must
be evidence of the request.

The pattern that finds them is case-sensitive, and a URL without a canonical form is left out of the
check, so accepted notes may hold other URLs (`enforceGroundedNotes_iff`).
-/

namespace RisingIntelligence.Brief

open Js (UrlApi)

/-! ## URLs in a text -/

/-- A character of a URL: not white space and none of `<`, `>` and the three quotes. -/
def isNotesUrlChar (c : Char) : Bool :=
  !Js.isWhitespace c && !([0x3C, 0x3E, 0x22, 0x27, 0x60].contains c.toNat)

/-- The match of the pattern at the start of a text, its scheme compared after `fold`. -/
def notesUrlAt (fold : Char → Char) (cs : List Char) : Option (List Char) :=
  let scheme :=
    if (cs.take 8).map fold = "https://".toList then some 8
    else if (cs.take 7).map fold = "http://".toList then some 7
    else none
  match scheme with
  | none => none
  | some n =>
      let rest := (cs.drop n).takeWhile isNotesUrlChar
      if rest = [] then none else some (cs.take n ++ rest)

/-- All matches from left to right; `skip` characters belong to the last one. -/
def notesUrls (fold : Char → Char) : Nat → List Char → List String
  | _, [] => []
  | skip + 1, _ :: rest => notesUrls fold skip rest
  | 0, c :: rest =>
      match notesUrlAt fold (c :: rest) with
      | none => notesUrls fold 0 rest
      | some url => String.ofList url :: notesUrls fold (url.length - 1) rest

/-- `text.match(NOTES_URL_PATTERN)` -/
def matchNotesUrls (text : String) : List String := notesUrls id 0 text.toList

/-- The URLs of a text whatever the case of their scheme. -/
def urlsIn (text : String) : List String := notesUrls Char.toLower 0 text.toList

/-- `value.replace(/[),.;!?]+$/g, "")` -/
def stripPunctuation (value : String) : String :=
  String.ofList (value.toList.rdropWhile fun c => [')', ',', '.', ';', '!', '?'].contains c)

/-! ## The check -/

def extractCanonicalUrlsFromText (api : UrlApi) (text : String) : List String :=
  dedupeCanonicalBriefEvidenceUrls api ((matchNotesUrls text).map fun url => some (stripPunctuation url))

/-- `enforceGroundedNotes` with `toGroundingError`. -/
def enforceGroundedNotes (api : UrlApi) (request : ParsedSummaryRequest) (notes : String) :
    Except BriefError String :=
  let noteUrls := extractCanonicalUrlsFromText api notes
  if noteUrls = [] then .ok notes
  else
    let evidenceUrls := createEvidenceUrlSet api request
    if evidenceUrls = [] then
      .error (toGroundingError "No evidence URLs were provided in the summary request")
    else
      let ungrounded := noteUrls.filter fun url => !evidenceUrls.contains url
      if ungrounded = [] then .ok notes
      else .error (toGroundingError ("Brief notes contained ungrounded URL citations: " ++
        ", ".intercalate (ungrounded.take 3)))

/-- The canonical form of a URL found in a text. -/
def notesForm (api : UrlApi) (url : String) : Option String := canonicalUrl api (stripPunctuation url)

variable {api : UrlApi} {request : ParsedSummaryRequest} {notes : String}

theorem mem_extractCanonicalUrls {form : String} :
    form ∈ extractCanonicalUrlsFromText api notes ↔
      ∃ url ∈ matchNotesUrls notes, notesForm api url = some form := by
  unfold extractCanonicalUrlsFromText
  rw [mem_dedupeCanonical]
  constructor
  · rintro ⟨value, mem, form⟩
    obtain ⟨url, there, same⟩ := List.mem_map.1 mem
    cases same
    exact ⟨url, there, form⟩
  · rintro ⟨url, there, form⟩
    exact ⟨stripPunctuation url, List.mem_map.2 ⟨url, there, rfl⟩, form⟩

/-- A match whose canonical form is not among the evidence. -/
def HasUngroundedMatch (api : UrlApi) (request : ParsedSummaryRequest) (notes : String) : Prop :=
  ∃ url ∈ matchNotesUrls notes, ∃ form, notesForm api url = some form ∧
    form ∉ createEvidenceUrlSet api request

/-- The notes are kept as they are unless a match is not grounded. -/
theorem enforceGroundedNotes_eq_ok {kept : String} :
    enforceGroundedNotes api request notes = .ok kept ↔
      kept = notes ∧ ¬HasUngroundedMatch api request notes := by
  have ungrounded : (extractCanonicalUrlsFromText api notes).filter
      (fun url => !(createEvidenceUrlSet api request).contains url) = [] ↔
      ¬HasUngroundedMatch api request notes := by
    rw [List.filter_eq_nil_iff]
    constructor
    · rintro all ⟨url, there, form, same, absent⟩
      refine all form (mem_extractCanonicalUrls.2 ⟨url, there, same⟩) ?_
      simpa using absent
    · rintro none form mem absent
      obtain ⟨url, there, same⟩ := mem_extractCanonicalUrls.1 mem
      exact none ⟨url, there, form, same, by simpa using absent⟩
  unfold enforceGroundedNotes
  dsimp only
  split
  · rename_i nothing
    rw [nothing] at ungrounded
    rw [← ungrounded]
    constructor
    · intro ok
      cases ok
      exact ⟨rfl, rfl⟩
    · rintro ⟨rfl, -⟩
      rfl
  · rename_i something
    split
    · rename_i nowhere
      obtain ⟨form, mem⟩ := List.exists_mem_of_ne_nil _ something
      obtain ⟨url, there, same⟩ := mem_extractCanonicalUrls.1 mem
      constructor
      · intro ok
        cases ok
      · rintro ⟨-, none⟩
        refine absurd ⟨url, there, form, same, ?_⟩ none
        rw [nowhere]
        exact List.not_mem_nil
    · split
      · rename_i none
        constructor
        · intro ok
          cases ok
          exact ⟨rfl, ungrounded.1 none⟩
        · rintro ⟨rfl, -⟩
          rfl
      · rename_i some
        constructor
        · intro ok
          cases ok
        · rintro ⟨-, none⟩
          exact absurd (ungrounded.2 none) some

/-- Every URL of the notes is evidence of the request. -/
def NotesGrounded (api : UrlApi) (request : ParsedSummaryRequest) (notes : String) : Prop :=
  ∀ url ∈ urlsIn notes, ∃ form, notesForm api url = some form ∧
    form ∈ createEvidenceUrlSet api request

/-- Every URL of the notes has a canonical form, and is a match of the pattern or evidence. -/
def NotesCovered (api : UrlApi) (request : ParsedSummaryRequest) (notes : String) : Prop :=
  ∀ url ∈ urlsIn notes, ∃ form, notesForm api url = some form ∧
    (url ∈ matchNotesUrls notes ∨ form ∈ createEvidenceUrlSet api request)

theorem enforceGroundedNotes_iff :
    (∀ kept, enforceGroundedNotes api request notes = .ok kept → NotesGrounded api request kept) ↔
      HasUngroundedMatch api request notes ∨ NotesCovered api request notes := by
  constructor
  · intro sound
    by_cases refused : HasUngroundedMatch api request notes
    · exact .inl refused
    · right
      intro url mem
      obtain ⟨form, same, grounded⟩ :=
        sound notes (enforceGroundedNotes_eq_ok.2 ⟨rfl, refused⟩) url mem
      exact ⟨form, same, .inr grounded⟩
  · intro condition kept returned url mem
    obtain ⟨rfl, accepted⟩ := enforceGroundedNotes_eq_ok.1 returned
    obtain ⟨form, same, matched | grounded⟩ := condition.resolve_left accepted url mem
    · refine ⟨form, same, by_contra fun absent => ?_⟩
      exact accepted ⟨url, matched, form, same, absent⟩
    · exact ⟨form, same, grounded⟩

/-- A request without topics. -/
def noEvidence : ParsedSummaryRequest := ParsedSummaryRequest.empty "r"

/-- A scheme in capitals passes. -/
theorem capitalScheme_accepted :
    enforceGroundedNotes Js.plainUrls noEvidence "See HTTPS://b.example/y." =
        .ok "See HTTPS://b.example/y." ∧
      urlsIn "See HTTPS://b.example/y." = ["HTTPS://b.example/y."] ∧
      notesForm Js.plainUrls "HTTPS://b.example/y." = some "https://b.example/y" ∧
      ¬NotesGrounded Js.plainUrls noEvidence "See HTTPS://b.example/y." := by
  have found : urlsIn "See HTTPS://b.example/y." = ["HTTPS://b.example/y."] := by decide +kernel
  refine ⟨by decide +kernel, found, by decide +kernel, fun grounded => ?_⟩
  obtain ⟨form, -, evidence⟩ := grounded "HTTPS://b.example/y." (by
    rw [found]
    exact List.mem_singleton_self _)
  have none : createEvidenceUrlSet Js.plainUrls noEvidence = [] := by decide +kernel
  rw [none] at evidence
  cases evidence

/-- A scheme in small letters does not, and neither does a URL in the middle of another. -/
example : enforceGroundedNotes Js.plainUrls noEvidence "See https://b.example/y." =
      .error (toGroundingError "No evidence URLs were provided in the summary request") ∧
    matchNotesUrls "HTTP://a.example/http://b.example" = ["http://b.example"] := by
  decide +kernel

end RisingIntelligence.Brief
