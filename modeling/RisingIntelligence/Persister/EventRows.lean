import RisingIntelligence.Persister.HealthyBatch
import RisingIntelligence.Pipeline.EnrichmentLaw
import RisingIntelligence.Pipeline.RawEvent
import RisingIntelligence.Shared.Throws

/-!
# Rows of raw events

`deserializeRawEvent` and `toCreateManyInput` of `apps/persister/src`, with the enrichment between
them, against the columns of `raw_events` in `schema.prisma`.

* `Accepted` is what the columns take: a source of the enum, counters of 32 bits, texts without NUL.
* `RawEventWire.Storable` says of a message that its event has such a row.  The decoder does not check
  it, and `acknowledgesAll_rawEvents_iff`: a batch is acknowledged exactly if all of its events do.
* The decoder parses the source twice, so a source that was found on `Object.prototype` throws.
-/

namespace RisingIntelligence

open Js (Json)

/-- No character of the text is NUL. -/
def NulFree (text : String) : Prop := Char.ofNat 0 ∉ text.toList

instance (text : String) : Decidable (NulFree text) :=
  inferInstanceAs (Decidable (Char.ofNat 0 ∉ text.toList))

/-- A whole number that fits a column of 32 bits. -/
def Js.Number.IsInt32 (number : Js.Number) : Prop :=
  ∃ n, number.integer? = some n ∧ -2 ^ 31 ≤ n ∧ n < 2 ^ 31

namespace Persister

open Enrichment (EnrichmentApi prepareRawEventForPersistence)

/-! ## The decoder -/

/-- The enum `Source` of the database has the names of the canonical sources. -/
abbrev Source : Type := CanonicalSource

/-- `CANONICAL_SOURCE_TO_DB_SOURCE` -/
def canonicalSourceToDbSource : CanonicalSource → Source := id

/-- What decoding or a store throws. -/
inductive PersisterError : Type
  | deserialize (error : RawEventError)
  /-- `TypeError`: what is inherited under the key has no `trim`. -/
  | inheritedSource (key : String)
  | store (message : String)

instance : Nonempty PersisterError := ⟨.store "connection reset"⟩

/-- `parseSource`, for a source that was parsed before; `none` where the table has no entry. -/
def parseSource (toLowerCase : String → String) :
    Js.Keyed CanonicalSource → Except PersisterError (Option Source)
  | .inherited key => .error (.inheritedSource key)
  | .own source =>
      match parseCanonicalSource toLowerCase (.inr source.name) with
      | .error error => .error (.deserialize (.source error))
      | .ok (.own canonical) => .ok (some (canonicalSourceToDbSource canonical))
      | .ok (.inherited _) => .ok none

/-- `ParsedRawEvent` of the persister: the shared event with a source of its own. -/
structure ParsedRawEvent where
  shared : RisingIntelligence.ParsedRawEvent
  source : Option Source

def withSource (messages : Js.MessageApi) (shared : RisingIntelligence.ParsedRawEvent) :
    Except PersisterError ParsedRawEvent :=
  (parseSource messages.toLowerCase shared.source).map fun source => { shared, source }

def deserializeRawEvent (messages : Js.MessageApi) (messageValue : Buffer) :
    Except PersisterError ParsedRawEvent := do
  let shared ← (RisingIntelligence.deserializeRawEvent messages messageValue).mapError .deserialize
  withSource messages shared

/-! ## The mapper -/

/-- A row of `createMany`. -/
structure RawEventCreateInput where
  eventId : String
  source : Option Source
  fetchedAt : Int
  publishedAt : Option Int
  url : Option String
  title : Option String
  text : String
  authorId : Option String
  authorHandle : Option String
  authorDisplayName : Option String
  engagementScore : Option Js.Number
  engagementComments : Option Js.Number
  engagementLikes : Option Js.Number
  engagementShares : Option Js.Number
  lang : Option String
  tags : List String
  extractedHashtags : List String
  extractedUrls : List String
  topics : List String
  sourceMeta : Option (List (String × Json))

/-- The event as the enrichment reads it.  It hands the counters on unread. -/
def persistenceInput (event : ParsedRawEvent) :
    Enrichment.RawEventPersistenceInput (Option Source) where
  eventId := event.shared.eventId
  source := event.source
  fetchedAt := event.shared.fetchedAt
  publishedAt := event.shared.publishedAt
  url := event.shared.url
  title := event.shared.title
  text := event.shared.text
  authorId := event.shared.authorId
  authorHandle := event.shared.authorHandle
  authorDisplayName := event.shared.authorDisplayName
  engagementScore := none
  engagementComments := none
  engagementLikes := none
  engagementShares := none
  lang := event.shared.lang
  tags := event.shared.tags
  extractedHashtags := event.shared.extractedHashtags
  extractedUrls := event.shared.extractedUrls
  sourceMeta := event.shared.sourceMeta

def toCreateManyInput (api : EnrichmentApi) (event : ParsedRawEvent) : RawEventCreateInput :=
  let prepared := prepareRawEventForPersistence api (persistenceInput event)
  { eventId := prepared.eventId
    source := prepared.source
    fetchedAt := prepared.fetchedAt
    publishedAt := prepared.publishedAt
    url := prepared.url
    title := prepared.title
    text := prepared.text
    authorId := prepared.authorId
    authorHandle := prepared.authorHandle
    authorDisplayName := prepared.authorDisplayName
    engagementScore := event.shared.engagementScore
    engagementComments := event.shared.engagementComments
    engagementLikes := event.shared.engagementLikes
    engagementShares := event.shared.engagementShares
    lang := prepared.lang
    tags := prepared.tags
    extractedHashtags := prepared.extractedHashtags
    extractedUrls := prepared.extractedUrls
    topics := prepared.topics
    sourceMeta := prepared.sourceMeta }

/-- The decoder and the mapper of raw events. -/
def rawEventCodec (messages : Js.MessageApi) (enrichment : EnrichmentApi) :
    EventCodec ParsedRawEvent (Option Source) RawEventCreateInput PersisterError where
  deserialize := deserializeRawEvent messages
  source := ParsedRawEvent.source
  sourceName source := (source.map CanonicalSource.name).getD "undefined"
  eventId event := event.shared.eventId
  toCreateManyInput := toCreateManyInput enrichment
  rowId := RawEventCreateInput.eventId
  rowId_toCreateManyInput _ := rfl

/-! ## The columns -/

def RawEventCreateInput.counters (row : RawEventCreateInput) : List Js.Number :=
  row.engagementScore.toList ++ row.engagementComments.toList ++ row.engagementLikes.toList ++
    row.engagementShares.toList

/-- The texts of all text columns, arrays included. -/
def RawEventCreateInput.texts (row : RawEventCreateInput) : List String :=
  [row.eventId, row.text] ++ row.url.toList ++ row.title.toList ++ row.authorId.toList ++
    row.authorHandle.toList ++ row.authorDisplayName.toList ++ row.lang.toList ++ row.tags ++
    row.extractedHashtags ++ row.extractedUrls ++ row.topics

/-- What `raw_events` takes. -/
structure RawEventCreateInput.Accepted (row : RawEventCreateInput) : Prop where
  source : ∃ source, row.source = some source
  counters : ∀ counter ∈ row.counters, counter.IsInt32
  texts : ∀ text ∈ row.texts, NulFree text

end Persister

/-! ## The messages -/

def WireEngagement.counters (engagement : WireEngagement) : List Js.Number :=
  engagement.score.toList ++ engagement.comments.toList ++ engagement.likes.toList ++
    engagement.shares.toList

def WireAuthor.texts (author : WireAuthor) : List String :=
  author.id.toList ++ author.handle.toList ++ author.displayName.toList

def WireExtracted.texts (extracted : WireExtracted) : List String :=
  extracted.hashtags.getD [] ++ extracted.urls.getD []

/-- The texts that are stored as they are, or trimmed. -/
def RawEventWire.texts (wire : RawEventWire) : List String :=
  [wire.eventId, wire.text] ++ wire.title.toList ++ wire.author.toList.flatMap WireAuthor.texts ++
    wire.tags.getD [] ++ wire.extracted.toList.flatMap WireExtracted.texts

/-- The first text under a name for the language. -/
def namedLanguage (sourceMeta : Enrichment.SourceMeta) : Option String :=
  ["lang", "language", "locale"].findSome? fun key =>
    match sourceMeta.lookup key with
    | some (.string candidate) => if Js.trim candidate ≠ "" then some candidate else none
    | _ => none

/-- The language of the message, or else the one that its source meta names. -/
def RawEventWire.givenLanguage (api : Js.MessageApi) (wire : RawEventWire) : Option String :=
  (wire.lang.filter fun lang => Js.trim lang ≠ "").orElse fun _ =>
    (parseSourceMeta api wire.sourceMetaJson).toOption.join.bind namedLanguage

/-- The columns take what the message holds. -/
structure RawEventWire.Storable (api : Js.MessageApi) (wire : RawEventWire) : Prop where
  counters : ∀ engagement ∈ wire.engagement, ∀ counter ∈ engagement.counters, counter.IsInt32
  texts : ∀ text ∈ wire.texts, NulFree text
  language : ∀ language ∈ wire.givenLanguage api, NulFree language

/-! ## Texts without NUL -/

section NulFree

theorem nulFree_append {first second : String} :
    NulFree (first ++ second) ↔ NulFree first ∧ NulFree second := by
  unfold NulFree
  rw [String.toList_append, List.mem_append, not_or]

theorem mem_dropWhile_of_not {p : Char → Bool} {c : Char} (stays : p c = false) {cs : List Char} :
    c ∈ cs.dropWhile p ↔ c ∈ cs := by
  constructor
  · exact fun mem => (List.dropWhile_sublist p).subset mem
  · intro mem
    rw [← List.takeWhile_append_dropWhile (p := p) (l := cs), List.mem_append] at mem
    rcases mem with skipped | kept
    · have dropped := List.mem_takeWhile_imp skipped
      rw [stays] at dropped
      cases dropped
    · exact kept

/-- NUL is no white space. -/
@[simp] theorem nulFree_trim {text : String} : NulFree (Js.trim text) ↔ NulFree text := by
  have stays : Js.isWhitespace (Char.ofNat 0) = false := by decide
  unfold NulFree Js.trim Js.trimList
  rw [String.toList_ofList, List.mem_reverse, mem_dropWhile_of_not stays, List.mem_reverse,
    mem_dropWhile_of_not stays]

theorem nulFree_of_blank {text : String} (blank : Js.trim text = "") : NulFree text := by
  rw [← nulFree_trim, blank]
  decide

theorem nulFree_hyphenate {text : String} : NulFree (Enrichment.hyphenate text) ↔ NulFree text := by
  unfold NulFree Enrichment.hyphenate
  rw [String.toList_ofList, List.mem_map, not_iff_not]
  constructor
  · intro found
    obtain ⟨c, mem, same⟩ := found
    split at same
    · exact absurd same (by decide)
    · rwa [← same]
  · exact fun mem => ⟨_, mem, if_neg (by decide)⟩

theorem normalizeOptionalString_eq (value : Option String) :
    normalizeOptionalString value = (value.filter fun text => Js.trim text ≠ "").map Js.trim := by
  cases value with
  | none => rfl
  | some text =>
      unfold normalizeOptionalString
      rw [Option.map_some, Option.filter_some, Option.filter_some]
      split <;> rfl

theorem nulFree_normalizeOptionalString {value : Option String} :
    (∀ text ∈ normalizeOptionalString value, NulFree text) ↔ ∀ text ∈ value, NulFree text := by
  rw [normalizeOptionalString_eq]
  cases value with
  | none => exact Iff.rfl
  | some text =>
      rw [Option.filter_some]
      split
      · simp
      · rename_i blank
        have free : NulFree text := nulFree_of_blank (by simpa using blank)
        simpa using free

end NulFree

namespace Enrichment

/-- What is documented of NUL: the text of a URL has none, and lower case keeps what is there. -/
structure KeepsNul (api : EnrichmentApi) : Prop where
  href : ∀ url, NulFree (api.href url)
  toLowerCase : ∀ text, NulFree (api.toLowerCase text) ↔ NulFree text
  toLowerCase_ne_empty : ∀ text, text ≠ "" → api.toLowerCase text ≠ ""

variable {api : EnrichmentApi} {title lang : Option String} {text content : String}
  {sourceMeta : Option SourceMeta} {tags : List String}

theorem nulFree_normalizeUrl (law : KeepsNul api) (url : Option String) :
    ∀ form ∈ (normalizeUrl api url).normalizedUrl, NulFree form := by
  intro form found
  cases url with
  | none => cases found
  | some rawUrl =>
      unfold normalizeUrl at found
      dsimp only at found
      split at found
      · cases found
      · unfold normalizeGivenUrl at found
        dsimp only at found
        split at found
        · cases found
        · split at found
          · cases found
          · split at found
            · cases found
            · split at found
              · cases found
              · cases found
                exact law.href _

theorem nulFree_of_commentsOnly (comments : isCommentsOnly text = true) : NulFree text := by
  obtain ⟨front, rest, same, folded, ending⟩ := commentsOnly_cases comments
  intro mem
  rw [same, List.mem_append] at mem
  have letters : ∀ letter ∈ "comment".toList, foldsTo letter (Char.ofNat 0) = false :=
    Js.forall_mem_of_all (p := fun letter => foldsTo letter (Char.ofNat 0) = false) (by decide)
  rcases mem with first | last
  · obtain ⟨letter, listed, folds⟩ := exists_of_mem_forall₂ folded first
    rw [letters letter listed] at folds
    cases folds
  · rcases ending with none | ⟨c, one, folds⟩
    · rw [none] at last
      cases last
    · rw [one, List.mem_singleton] at last
      rw [← last] at folds
      exact absurd folds (by decide)

/-- The title replaces or pads a text, and takes no NUL away. -/
theorem nulFree_normalizeText (titled : ∀ line ∈ title, NulFree line) :
    NulFree (normalizeText text title).text ↔ NulFree text := by
  rw [normalizeText_eq]
  change NulFree (replaceText text title).1 ↔ _
  by_cases missing : title.filter (fun line => decide (line ≠ "")) = none
  · unfold replaceText
    rw [missing]
  · obtain ⟨line, found⟩ := Option.ne_none_iff_exists'.1 missing
    obtain ⟨rfl, nonempty⟩ := Option.filter_eq_some_iff.1 found
    have free : NulFree line := titled line rfl
    rcases @replaceText_cases text line (of_decide_eq_true nonempty) with
      ⟨comments, replaced⟩ | ⟨-, -, replaced⟩ | ⟨blank, replaced⟩ | ⟨-, -, -, replaced⟩
    · rw [replaced]
      exact iff_of_true free (nulFree_trim.1 (nulFree_of_commentsOnly comments))
    · rw [replaced, nulFree_append, nulFree_append, nulFree_trim]
      have line : NulFree "\n" := by decide
      exact and_iff_right ⟨free, line⟩
    · rw [replaced]
      exact iff_of_true free (nulFree_of_blank blank)
    · rw [replaced]

theorem nulFree_normalizeLanguageTag (law : KeepsNul api) :
    NulFree (normalizeLanguageTag api text) ↔ NulFree text := by
  unfold normalizeLanguageTag
  rw [nulFree_hyphenate, law.toLowerCase, nulFree_trim]

theorem normalizeLanguageTag_ne_empty (law : KeepsNul api) (unblank : Js.trim text ≠ "") :
    normalizeLanguageTag api text ≠ "" := by
  have lower := law.toLowerCase_ne_empty _ unblank
  unfold normalizeLanguageTag hyphenate
  intro empty
  apply lower
  rw [← String.toList_inj] at empty ⊢
  rw [String.toList_ofList] at empty
  exact List.map_eq_nil_iff.1 empty

/-- The tags that are inferred are known. -/
theorem nulFree_resolveTags :
    (∀ tag ∈ (resolveTags tags content).1, NulFree tag) ↔ ∀ tag ∈ tags, NulFree tag := by
  have listed : ∀ tag, tag ∈ normalizeTagList tags ↔ tag ≠ "" ∧ ∃ given ∈ tags, Js.trim given = tag := by
    intro tag
    unfold normalizeTagList
    rw [Js.mem_distinct, List.mem_filter, List.mem_map, decide_eq_true_eq, and_comm]
  have given : (∀ tag ∈ normalizeTagList tags, NulFree tag) ↔ ∀ tag ∈ tags, NulFree tag := by
    constructor
    · intro free tag mem
      by_cases blank : Js.trim tag = ""
      · exact nulFree_of_blank blank
      · exact nulFree_trim.1 (free _ ((listed _).2 ⟨blank, tag, mem, rfl⟩))
    · intro free tag mem
      obtain ⟨-, other, there, rfl⟩ := (listed tag).1 mem
      exact nulFree_trim.2 (free other there)
  unfold resolveTags
  dsimp only
  split
  · rename_i none
    rw [← given, none]
    refine iff_of_true ?_ fun _ absent => absurd absent List.not_mem_nil
    intro tag mem
    have known : tag ∈ TOPIC_INFERENCE_RULES.map (·.1) := inferTopicsFrom_sublist.subset mem
    have all : (TOPIC_INFERENCE_RULES.map (·.1)).all (fun tag => decide (NulFree tag)) = true := by
      decide
    exact of_decide_eq_true (List.all_eq_true.1 all tag known)
  · exact given

end Enrichment

/-! ## From the message to the row -/

namespace Persister

open Enrichment

variable {messages : Js.MessageApi} {api : EnrichmentApi} {wire : RawEventWire}
  {event : ParsedRawEvent} {title : Option String} {text : String}

theorem inferLanguageFromSourceMeta_eq (sourceMeta : Option SourceMeta) :
    inferLanguageFromSourceMeta api sourceMeta =
      (sourceMeta.bind namedLanguage).map (normalizeLanguageTag api) := by
  cases sourceMeta with
  | none => rfl
  | some fields => rfl

theorem namedLanguage_unblank {sourceMeta : SourceMeta} {language : String}
    (named : namedLanguage sourceMeta = some language) : Js.trim language ≠ "" := by
  obtain ⟨key, -, found⟩ := List.exists_of_findSome?_eq_some named
  split at found
  · split at found
    · rename_i unblank
      rwa [← Option.some.inj found]
    · cases found
  · cases found

/-- The language is stored in lower case, or a known one is. -/
theorem nulFree_resolveLang (law : KeepsNul api) {sourceMeta : Option SourceMeta}
    (parsed : parseSourceMeta messages wire.sourceMetaJson = .ok sourceMeta) :
    (∀ lang ∈ (resolveLang api (normalizeOptionalString wire.lang) sourceMeta title text).1,
        NulFree lang) ↔ ∀ language ∈ wire.givenLanguage messages, NulFree language := by
  have decoded : (parseSourceMeta messages wire.sourceMetaJson).toOption.join = sourceMeta := by
    rw [parsed]
    rfl
  unfold RawEventWire.givenLanguage resolveLang
  rw [normalizeOptionalString_eq, decoded, inferLanguageFromSourceMeta_eq]
  cases given : wire.lang.filter fun lang => decide (Js.trim lang ≠ "") with
  | some lang =>
      have unblank : Js.trim lang ≠ "" := of_decide_eq_true (Option.filter_eq_some_iff.1 given).2
      have nonempty : normalizeLanguageTag api (Js.trim lang) ≠ "" :=
        normalizeLanguageTag_ne_empty law (by rwa [Js.trim_trim])
      rw [Option.map_some, Option.filter_some, if_pos (decide_eq_true unblank), Option.map_some]
      dsimp only
      rw [Option.getD_some, if_pos nonempty]
      simp [nulFree_normalizeLanguageTag law]
  | none =>
      rw [Option.map_none, Option.filter_none]
      dsimp only
      cases named : sourceMeta.bind namedLanguage with
      | some language =>
          obtain ⟨fields, -, found⟩ := Option.bind_eq_some_iff.1 named
          have nonempty : normalizeLanguageTag api language ≠ "" :=
            normalizeLanguageTag_ne_empty law (namedLanguage_unblank found)
          rw [Option.map_some, Option.filter_some, if_pos (decide_eq_true nonempty)]
          simp [nulFree_normalizeLanguageTag law]
      | none =>
          rw [Option.map_none, Option.filter_none]
          dsimp only
          cases heuristic : inferEnglishLanguageHeuristic api title text with
          | none => simp
          | some inferred =>
              obtain rfl := inferEnglishLanguageHeuristic_eq heuristic
              have english : NulFree "en" := by decide
              simpa using english

/-- What the decoder makes of a wire message. -/
def acceptedEvent (messages : Js.MessageApi) (wire : RawEventWire) :
    Except PersisterError ParsedRawEvent := do
  let shared ← (parsedRawEvent messages wire).mapError .deserialize
  withSource messages shared

theorem acceptedEvent_eq_ok (accepted : acceptedEvent messages wire = .ok event) :
    ∃ source fetchedAt publishedAt sourceMeta,
      parseSource messages.toLowerCase source = .ok event.source ∧
        parseSourceMeta messages wire.sourceMetaJson = .ok sourceMeta ∧
          event.shared = wire.parsed source fetchedAt publishedAt sourceMeta := by
  unfold acceptedEvent at accepted
  obtain ⟨shared, decoded, accepted⟩ := bind_eq_ok.1 accepted
  obtain ⟨dbSource, again, rfl⟩ := map_eq_ok.1 accepted
  have decoded := mapError_eq_ok.1 decoded
  unfold parsedRawEvent at decoded
  obtain ⟨source, -, decoded⟩ := bind_eq_ok.1 decoded
  obtain ⟨fetchedAt, -, decoded⟩ := bind_eq_ok.1 decoded
  obtain ⟨publishedAt, -, decoded⟩ := bind_eq_ok.1 decoded
  obtain ⟨sourceMeta, parsed, decoded⟩ := bind_eq_ok.1 decoded
  obtain rfl := Except.ok.inj decoded
  exact ⟨source, fetchedAt, publishedAt, sourceMeta, again, parsed, rfl⟩

/-- The second look at the source finds it in the table, or throws. -/
theorem parseSource_eq_ok (lower : messages.KeepsLowerCase) {source : Js.Keyed CanonicalSource}
    {found : Option Source} (parsed : parseSource messages.toLowerCase source = .ok found) :
    ∃ own, source = .own own ∧ found = some own := by
  cases source with
  | inherited key => cases parsed
  | own own =>
      simp only [parseSource, parseCanonicalSource_name lower own] at parsed
      exact ⟨own, rfl, (Except.ok.inj parsed).symm⟩

theorem RawEventCreateInput.texts_iff {row : RawEventCreateInput} :
    (∀ text ∈ row.texts, NulFree text) ↔
      NulFree row.eventId ∧ NulFree row.text ∧ (∀ text ∈ row.url, NulFree text) ∧
        (∀ text ∈ row.title, NulFree text) ∧ (∀ text ∈ row.authorId, NulFree text) ∧
        (∀ text ∈ row.authorHandle, NulFree text) ∧
        (∀ text ∈ row.authorDisplayName, NulFree text) ∧ (∀ text ∈ row.lang, NulFree text) ∧
        (∀ text ∈ row.tags, NulFree text) ∧ (∀ text ∈ row.extractedHashtags, NulFree text) ∧
        (∀ text ∈ row.extractedUrls, NulFree text) ∧ ∀ text ∈ row.topics, NulFree text := by
  simp only [RawEventCreateInput.texts, List.forall_mem_append, List.forall_mem_cons,
    Option.mem_toList, Option.mem_def, List.not_mem_nil, false_imp_iff, implies_true, and_true,
    and_assoc]

theorem forall_mem_bind {α β : Type} {P : β → Prop} {value : Option α} {f : α → Option β} :
    (∀ b, value.bind f = some b → P b) ↔ ∀ a, value = some a → ∀ b, f a = some b → P b := by
  cases value <;> simp

theorem forall_mem_getD {α β : Type} {P : β → Prop} {value : Option α} {f : α → Option (List β)} :
    (∀ b ∈ (value.bind f).getD [], P b) ↔ ∀ a ∈ value, ∀ b ∈ (f a).getD [], P b := by
  cases value <;> simp

theorem RawEventWire.texts_iff :
    (∀ text ∈ wire.texts, NulFree text) ↔
      NulFree wire.eventId ∧ NulFree wire.text ∧ (∀ text ∈ wire.title, NulFree text) ∧
        (∀ text ∈ wire.author.bind (·.id), NulFree text) ∧
        (∀ text ∈ wire.author.bind (·.handle), NulFree text) ∧
        (∀ text ∈ wire.author.bind (·.displayName), NulFree text) ∧
        (∀ text ∈ wire.tags.getD [], NulFree text) ∧
        (∀ text ∈ (wire.extracted.bind (·.hashtags)).getD [], NulFree text) ∧
        ∀ text ∈ (wire.extracted.bind (·.urls)).getD [], NulFree text := by
  simp only [forall_mem_bind, forall_mem_getD, RawEventWire.texts, WireAuthor.texts,
    WireExtracted.texts, List.forall_mem_append, List.forall_mem_cons, List.forall_mem_flatMap,
    Option.mem_toList, Option.mem_def, List.not_mem_nil, false_imp_iff, implies_true, and_true,
    and_assoc, forall_and]

/-- The columns take the texts of a row exactly if the message has no NUL in what is stored. -/
theorem toCreateManyInput_texts_iff (law : KeepsNul api)
    (decoded : acceptedEvent messages wire = .ok event) :
    (∀ text ∈ (toCreateManyInput api event).texts, NulFree text) ↔
      (∀ text ∈ wire.texts, NulFree text) ∧
        ∀ language ∈ wire.givenLanguage messages, NulFree language := by
  obtain ⟨source, fetchedAt, publishedAt, sourceMeta, -, parsed, same⟩ := acceptedEvent_eq_ok decoded
  obtain ⟨shared, dbSource⟩ := event
  obtain rfl : shared = wire.parsed source fetchedAt publishedAt sourceMeta := same
  rw [RawEventCreateInput.texts_iff, RawEventWire.texts_iff]
  have url := nulFree_normalizeUrl law (normalizeOptionalString wire.url)
  have title := @nulFree_normalizeOptionalString wire.title
  have authorId := @nulFree_normalizeOptionalString (wire.author.bind (·.id))
  have authorHandle := @nulFree_normalizeOptionalString (wire.author.bind (·.handle))
  have authorDisplayName := @nulFree_normalizeOptionalString (wire.author.bind (·.displayName))
  have text : (∀ line ∈ normalizeOptionalString wire.title, NulFree line) →
      (NulFree (normalizeText wire.text (normalizeOptionalString wire.title)).text ↔
        NulFree wire.text) := fun titled => nulFree_normalizeText titled
  have lang := @nulFree_resolveLang messages api wire (normalizeOptionalString wire.title)
    (normalizeText wire.text (normalizeOptionalString wire.title)).text law sourceMeta parsed
  have tags := @nulFree_resolveTags (haystack sourceMeta (normalizeOptionalString wire.title)
    (normalizeText wire.text (normalizeOptionalString wire.title)).text
    (normalizeUrl api (normalizeOptionalString wire.url)).normalizedUrl) (wire.tags.getD [])
  constructor
  · intro ⟨eventId, stored, _, titled, id, handle, displayName, named, tagged, hashtags, urls, _⟩
    exact ⟨⟨eventId, (text titled).1 stored, title.1 titled, authorId.1 id, authorHandle.1 handle,
      authorDisplayName.1 displayName, tags.1 tagged, hashtags, urls⟩, lang.1 named⟩
  · intro ⟨⟨eventId, given, titled, id, handle, displayName, tagged, hashtags, urls⟩, named⟩
    have titled := title.2 titled
    have tagged := tags.2 tagged
    exact ⟨eventId, (text titled).2 given, url, titled, authorId.2 id, authorHandle.2 handle,
      authorDisplayName.2 displayName, lang.2 named, tagged, hashtags, urls, tagged⟩

theorem toCreateManyInput_accepted_iff (law : KeepsNul api) (lower : messages.KeepsLowerCase)
    (decoded : acceptedEvent messages wire = .ok event) :
    (toCreateManyInput api event).Accepted ↔ wire.Storable messages := by
  have texts := toCreateManyInput_texts_iff law decoded
  obtain ⟨source, fetchedAt, publishedAt, sourceMeta, again, -, same⟩ := acceptedEvent_eq_ok decoded
  obtain ⟨shared, dbSource⟩ := event
  obtain rfl : shared = wire.parsed source fetchedAt publishedAt sourceMeta := same
  obtain ⟨own, -, stored⟩ := parseSource_eq_ok lower again
  have counters : (∀ counter ∈ (toCreateManyInput api
      ⟨wire.parsed source fetchedAt publishedAt sourceMeta, dbSource⟩).counters, counter.IsInt32) ↔
        ∀ engagement ∈ wire.engagement, ∀ counter ∈ engagement.counters, counter.IsInt32 := by
    simp only [RawEventCreateInput.counters, toCreateManyInput, RawEventWire.parsed,
      WireEngagement.counters, List.forall_mem_append, Option.mem_toList, forall_mem_bind,
      Option.mem_def, forall_and]
  constructor
  · intro accepted
    obtain ⟨plain, named⟩ := texts.1 accepted.texts
    exact ⟨counters.1 accepted.counters, plain, named⟩
  · intro storable
    exact ⟨⟨own, stored⟩, counters.2 storable.counters, texts.2 ⟨storable.texts, storable.language⟩⟩

/-- The wire message in the bytes of a message. -/
def wireOf (messages : Js.MessageApi) (value : Buffer) : Option RawEventWire :=
  (messages.parse (messages.toText value)).toOption.bind rawEventWireSchema

theorem deserializeRawEvent_eq_ok_iff {value : Buffer} :
    deserializeRawEvent messages value = .ok event ↔
      ∃ wire, wireOf messages value = some wire ∧ acceptedEvent messages wire = .ok event := by
  unfold deserializeRawEvent RisingIntelligence.deserializeRawEvent wireOf
  cases messages.parse (messages.toText value) with
  | error message => exact ⟨nofun, fun found => nomatch found.choose_spec.1⟩
  | ok decoded =>
      cases found : rawEventWireSchema decoded with
      | none =>
          constructor
          · simp only [found]
            exact nofun
          · simp [Except.toOption, found]
      | some wire =>
          simp only [Except.toOption, Option.bind_some, found, Option.some.injEq, exists_eq_left']
          rfl

/-- With the batch active, the circuit closed and the stores healthy, every position is acknowledged
exactly if the columns take every event that the decoder accepts. -/
theorem acknowledgesAll_rawEvents_iff (law : KeepsNul api) (lower : messages.KeepsLowerCase)
    (config : Config) (batch : BatchContext) (delivered : List PipelineMessage) :
    AcknowledgesAll (rawEventCodec messages api) RawEventCreateInput.Accepted config batch delivered ↔
      ∀ message ∈ delivered, ∀ value ∈ message.value, ∀ wire ∈ wireOf messages value,
        (∃ event, acceptedEvent messages wire = .ok event) → wire.Storable messages := by
  have decodes : ∀ (message : PipelineMessage) (event : ParsedRawEvent),
      decodeMessage (rawEventCodec messages api) message = some event ↔
        ∃ value ∈ message.value, ∃ wire ∈ wireOf messages value,
          acceptedEvent messages wire = .ok event := by
    intro message event
    unfold decodeMessage
    rw [Option.bind_eq_some_iff]
    refine exists_congr fun value => and_congr_right fun _ => ?_
    change (deserializeRawEvent messages value).toOption = some event ↔ _
    refine Iff.trans ?_ deserializeRawEvent_eq_ok_iff
    cases deserializeRawEvent messages value <;> simp [Except.toOption]
  rw [acknowledgesAll_iff]
  constructor
  · intro storable message listed value delivered wire found accepted
    obtain ⟨event, decoded⟩ := accepted
    have accepts := storable message listed event
      ((decodes message event).2 ⟨value, delivered, wire, found, decoded⟩)
    exact (toCreateManyInput_accepted_iff law lower decoded).1 accepts
  · intro storable message listed event decoded
    obtain ⟨value, delivered, wire, found, decoded⟩ := (decodes message event).1 decoded
    exact (toCreateManyInput_accepted_iff law lower decoded).2
      (storable message listed value delivered wire found ⟨event, decoded⟩)

/-! ## Scored events -/

/-- `plainEnrichment` over plain URLs that are valid. -/
def validEnrichment : EnrichmentApi := { plainEnrichment with
  toUrlApi := Js.validUrls
  hash := fun _ => ""
  searchKeys := fun _ => []
  deleteSearchParam := fun _ url => url
  sortSearchParams := fun url => url }

theorem keepsNul_validEnrichment : KeepsNul validEnrichment where
  href url := by
    have shaped := Js.PlainUrl.shaped_iff.1 url.valid
    intro mem
    rcases Js.PlainUrl.letters_href shaped mem with plain | slash | protocol
    · exact absurd plain (by decide)
    · exact absurd slash (by decide)
    · rcases shaped.protocol with https | http
      · rw [https] at protocol
        exact absurd protocol (by decide)
      · rw [http] at protocol
        exact absurd protocol (by decide)
  toLowerCase text := by
    change NulFree (String.ofList (text.toList.map Char.toLower)) ↔ _
    unfold NulFree
    rw [String.toList_ofList, List.mem_map, not_iff_not]
    constructor
    · intro found
      obtain ⟨c, mem, same⟩ := found
      have value := congrArg Char.toNat same
      rw [Js.toNat_toLower] at value
      have nul : (Char.ofNat 0).toNat = 0 := rfl
      have zero : c.toNat = 0 := by
        split at value <;> omega
      rwa [← Char.toNat_inj.1 (zero.trans nul.symm)]
    · exact fun mem => ⟨_, mem, rfl⟩
  toLowerCase_ne_empty text nonempty := by
    change String.ofList (text.toList.map Char.toLower) ≠ ""
    intro empty
    rw [← String.toList_inj, String.toList_ofList] at empty
    exact nonempty (String.toList_inj.1 (List.map_eq_nil_iff.1 empty))

/-- An event with a score. -/
def scored (score : Nat) : Json :=
  .object [("event_id", .string "e1"), ("source", .string "rss"),
    ("fetched_at", .string "2024-01-01T00:00:00.000Z"), ("text", .string "story"),
    ("engagement", .object [("score", .number (.finite score))])]

def scoredWire (score : Nat) : RawEventWire where
  eventId := "e1"
  source := .inr "rss"
  fetchedAt := "2024-01-01T00:00:00.000Z"
  publishedAt := none
  url := none
  title := none
  text := "story"
  author := none
  engagement := some { score := some (.finite score) }
  lang := none
  tags := none
  extracted := none
  sourceMetaJson := none

def scoredBatch (score : Nat) : List PipelineMessage := [⟨some (scored score).print.toUTF8, "0"⟩]

theorem wireOf_scored (score : Nat) :
    wireOf (Js.messagesFor (scored score)) (scored score).print.toUTF8 = some (scoredWire score) := by
  unfold wireOf
  rw [(Js.messagesFor (scored score)).toText_toUTF8]
  have parsed : (Js.messagesFor (scored score)).parse (scored score).print = .ok (scored score) :=
    if_pos rfl
  rw [parsed]
  rfl

/-- The event of the message. -/
def scoredEvent (score : Nat) : ParsedRawEvent where
  shared := (scoredWire score).parsed (.own .rss) 1704067200000 none none
  source := some .rss

theorem acceptedEvent_scored (score : Nat) :
    acceptedEvent (Js.messagesFor (scored score)) (scoredWire score) = .ok (scoredEvent score) :=
  rfl

theorem isInt32_natCast {n : Nat} : (Js.Number.finite n).IsInt32 ↔ n < 2 ^ 31 := by
  have whole : (Js.Number.finite n).integer? = some (n : Int) := by simp [Js.Number.integer?]
  unfold Js.Number.IsInt32
  rw [whole]
  constructor
  · intro fits
    obtain ⟨m, same, -, below⟩ := fits
    cases same
    omega
  · intro below
    exact ⟨n, rfl, by omega, by omega⟩

theorem acknowledgesAll_scored :
    AcknowledgesAll (rawEventCodec (Js.messagesFor (scored 150)) validEnrichment)
      RawEventCreateInput.Accepted ⟨60, 1000, "persister"⟩ ⟨"raw-events", 0, "1"⟩
      (scoredBatch 150) := by
  apply (acknowledgesAll_rawEvents_iff keepsNul_validEnrichment (Js.messagesFor_keepsLowerCase _) _ _ _).2
  intro message listed value delivered wire found _
  rw [List.mem_singleton.1 listed] at delivered
  cases delivered
  rw [wireOf_scored] at found
  cases found
  constructor
  case counters =>
    intro engagement given counter mem
    cases given
    rw [List.mem_singleton.1 mem]
    exact isInt32_natCast.2 (by decide)
  case texts => decide
  case language => decide

theorem deserializeRawEvent_scored (score : Nat) :
    deserializeRawEvent (Js.messagesFor (scored score)) (scored score).print.toUTF8 =
      .ok (scoredEvent score) :=
  deserializeRawEvent_eq_ok_iff.2 ⟨scoredWire score, wireOf_scored score, acceptedEvent_scored score⟩

theorem decodeMessage_scored (score : Nat) :
    decodeMessage (rawEventCodec (Js.messagesFor (scored score)) validEnrichment)
        ⟨some (scored score).print.toUTF8, "0"⟩ = some (scoredEvent score) := by
  change (deserializeRawEvent (Js.messagesFor (scored score)) (scored score).print.toUTF8).toOption = _
  rw [deserializeRawEvent_scored]
  rfl

/-- A score beyond 32 bits is decoded, and its batch never acknowledged. -/
theorem large_score_poisons :
    deserializeRawEvent (Js.messagesFor (scored 3000000000)) (scored 3000000000).print.toUTF8 =
        .ok (scoredEvent 3000000000) ∧
      ¬ AcknowledgesAll (rawEventCodec (Js.messagesFor (scored 3000000000)) validEnrichment)
        RawEventCreateInput.Accepted ⟨60, 1000, "persister"⟩ ⟨"raw-events", 0, "1"⟩
        (scoredBatch 3000000000) := by
  refine ⟨deserializeRawEvent_scored 3000000000, fun acknowledges => ?_⟩
  have accepted := acknowledgesAll_iff.1 acknowledges _ (List.mem_singleton_self _) _
    (decodeMessage_scored 3000000000)
  have fits := accepted.counters (.finite ((3000000000 : Nat) : ℚ)) (List.mem_singleton_self _)
  exact absurd (isInt32_natCast.1 fits) (by decide)

end Persister

end RisingIntelligence
