import RisingIntelligence.Collector.Types
import RisingIntelligence.Pipeline.RawEvent

/-!
# The wire form of collected content

`serializeCollectedContent` of `apps/collector/src/serializer.ts` and its way back through
`deserializeRawEvent`.

A missing text is written as an empty one, which the consumer reads as missing again.  A missing
counter is written as 0 when another one is there, and stays 0 (`roundTrip_iff`).
-/

namespace RisingIntelligence.Collector

open Js (Json MessageApi Schema exists_of_isFinite finiteNumber)

/-! ## Payload -/

structure PublicationAuthor where
  id : String
  handle : String
  displayName : String

structure PublicationEngagement where
  score : Js.Double
  comments : Js.Double
  likes : Js.Double
  shares : Js.Double

structure PublicationExtracted where
  hashtags : List String
  urls : List String

structure CollectorPublicationPayload where
  eventId : String
  source : Int
  fetchedAt : String
  publishedAt : String
  url : String
  title : String
  text : String
  author : Option PublicationAuthor
  engagement : Option PublicationEngagement
  lang : String
  tags : List String
  extracted : Option PublicationExtracted
  sourceMetaJson : String

/-- `value ?? 0` -/
def counterOrZero (value : Option Js.Double) : Js.Double := value.getD (.number (.finite 0))

def toCollectorPublicationPayload (api : MessageApi) (content : CollectedContent) :
    CollectorPublicationPayload :=
  let normalizedContent := normalizeCollectedContent content
  { eventId := normalizedContent.eventId
    source := sourceKeyToEnum normalizedContent.source
    fetchedAt := normalizedContent.fetchedAt
    publishedAt := normalizedContent.publishedAt.getD ""
    url := normalizedContent.url.getD ""
    title := normalizedContent.title.getD ""
    text := normalizedContent.text
    author := normalizedContent.author.map fun author =>
      { id := author.id.getD ""
        handle := author.handle.getD ""
        displayName := author.displayName.getD "" }
    engagement := normalizedContent.engagement.map fun engagement =>
      { score := counterOrZero engagement.score
        comments := counterOrZero engagement.comments
        likes := counterOrZero engagement.likes
        shares := counterOrZero engagement.shares }
    lang := normalizedContent.lang.getD ""
    tags := normalizedContent.tags.getD []
    extracted := normalizedContent.extracted.map fun extracted =>
      { hashtags := extracted.hashtags.getD []
        urls := extracted.urls.getD [] }
    sourceMetaJson :=
      match normalizedContent.sourceMeta with
      | none => ""
      | some sourceMeta => api.stringify (.object sourceMeta) }

def PublicationAuthor.toJson (author : PublicationAuthor) : Json :=
  .ofFields [("id", some (.string author.id)), ("handle", some (.string author.handle)),
    ("display_name", some (.string author.displayName))]

def PublicationEngagement.toJson (engagement : PublicationEngagement) : Json :=
  .ofFields [("score", some (.ofDouble engagement.score)),
    ("comments", some (.ofDouble engagement.comments)),
    ("likes", some (.ofDouble engagement.likes)), ("shares", some (.ofDouble engagement.shares))]

def PublicationExtracted.toJson (extracted : PublicationExtracted) : Json :=
  .ofFields [("hashtags", some (.ofStrings extracted.hashtags)),
    ("urls", some (.ofStrings extracted.urls))]

/-- The payload as an object literal. -/
def CollectorPublicationPayload.fields (payload : CollectorPublicationPayload) :
    List (String × Option Json) :=
  [("event_id", some (.string payload.eventId)),
    ("source", some (.number (.finite payload.source))),
    ("fetched_at", some (.string payload.fetchedAt)),
    ("published_at", some (.string payload.publishedAt)),
    ("url", some (.string payload.url)),
    ("title", some (.string payload.title)),
    ("text", some (.string payload.text)),
    ("author", payload.author.map PublicationAuthor.toJson),
    ("engagement", payload.engagement.map PublicationEngagement.toJson),
    ("lang", some (.string payload.lang)),
    ("tags", some (.ofStrings payload.tags)),
    ("extracted", payload.extracted.map PublicationExtracted.toJson),
    ("source_meta_json", some (.string payload.sourceMetaJson))]

def CollectorPublicationPayload.toJson (payload : CollectorPublicationPayload) : Json :=
  .ofFields payload.fields

def serializeCollectedContent (api : MessageApi) (content : CollectedContent) : ByteArray :=
  (api.stringify (toCollectorPublicationPayload api content).toJson).toUTF8

/-! ## The payload on the wire -/

def PublicationAuthor.wire (author : PublicationAuthor) : WireAuthor where
  id := some author.id
  handle := some author.handle
  displayName := some author.displayName

theorem wireAuthorSchema_toJson (author : PublicationAuthor) :
    wireAuthorSchema author.toJson = some author.wire := by
  rfl

/-- All counters are finite. -/
structure PublicationEngagement.Finite (engagement : PublicationEngagement) : Prop where
  score : engagement.score.isFinite = true
  comments : engagement.comments.isFinite = true
  likes : engagement.likes.isFinite = true
  shares : engagement.shares.isFinite = true

def PublicationEngagement.wire (engagement : PublicationEngagement) : WireEngagement where
  score := finiteNumber engagement.score
  comments := finiteNumber engagement.comments
  likes := finiteNumber engagement.likes
  shares := finiteNumber engagement.shares

theorem wireEngagementSchema_toJson {engagement : PublicationEngagement}
    (finite : engagement.Finite) :
    wireEngagementSchema engagement.toJson = some engagement.wire := by
  obtain ⟨score, comments, likes, shares⟩ := engagement
  obtain ⟨score, rfl⟩ := exists_of_isFinite finite.score
  obtain ⟨comments, rfl⟩ := exists_of_isFinite finite.comments
  obtain ⟨likes, rfl⟩ := exists_of_isFinite finite.likes
  obtain ⟨shares, rfl⟩ := exists_of_isFinite finite.shares
  rfl

def PublicationExtracted.wire (extracted : PublicationExtracted) : WireExtracted where
  hashtags := some extracted.hashtags
  urls := some extracted.urls

theorem wireExtractedSchema_toJson (extracted : PublicationExtracted) :
    wireExtractedSchema extracted.toJson = some extracted.wire := by
  have hashtags : Schema.optional "hashtags" (Schema.array Schema.string) extracted.toJson =
      some (some extracted.hashtags) :=
    Schema.optional_of_property rfl (Js.array_ofStrings extracted.hashtags)
  have urls : Schema.optional "urls" (Schema.array Schema.string) extracted.toJson =
      some (some extracted.urls) :=
    Schema.optional_of_property rfl (Js.array_ofStrings extracted.urls)
  unfold wireExtractedSchema
  rw [hashtags, urls]
  rfl

namespace CollectorPublicationPayload

variable {payload : CollectorPublicationPayload}

/-- The payload as the consumer sees it. -/
def wire (payload : CollectorPublicationPayload) : RawEventWire where
  eventId := payload.eventId
  source := .inl payload.source
  fetchedAt := payload.fetchedAt
  publishedAt := some payload.publishedAt
  url := some payload.url
  title := some payload.title
  text := payload.text
  author := payload.author.map PublicationAuthor.wire
  engagement := payload.engagement.map PublicationEngagement.wire
  lang := some payload.lang
  tags := some payload.tags
  extracted := payload.extracted.map PublicationExtracted.wire
  sourceMetaJson := some payload.sourceMetaJson

theorem property_toJson (payload : CollectorPublicationPayload) (key : String) :
    Schema.property key payload.toJson = (payload.fields.lookup key).bind id := by
  have names : (payload.fields.map (·.1)).Nodup := by
    change (["event_id", "source", "fetched_at", "published_at", "url", "title", "text", "author",
      "engagement", "lang", "tags", "extracted", "source_meta_json"] : List String).Nodup
    decide
  exact Js.property_ofFields names key

theorem required_string {key text : String} (nonempty : text ≠ "")
    (property : Schema.property key payload.toJson = some (.string text)) :
    Schema.required key Schema.nonempty payload.toJson = some text :=
  Schema.required_of_property property (Schema.nonempty_string nonempty)

theorem optional_string {key text : String}
    (property : Schema.property key payload.toJson = some (.string text)) :
    Schema.optional key Schema.string payload.toJson = some (some text) :=
  Schema.optional_of_property property rfl

variable (payload) in
/-- The consumer accepts every payload with the required texts. -/
theorem rawEventWireSchema_toJson (eventId : payload.eventId ≠ "") (fetchedAt : payload.fetchedAt ≠ "")
    (text : payload.text ≠ "")
    (finite : ∀ engagement, payload.engagement = some engagement → engagement.Finite) :
    rawEventWireSchema payload.toJson = some payload.wire := by
  have source : Schema.required "source" (Schema.union Schema.int Schema.nonempty) payload.toJson =
      some (.inl payload.source) := by
    unfold Schema.required
    rw [property_toJson]
    change Schema.union Schema.int Schema.nonempty (.number (.finite payload.source)) = _
    simp [Schema.union, Schema.int, Schema.number, Js.Number.integer?]
  have tags : Schema.optional "tags" (Schema.array Schema.string) payload.toJson =
      some (some payload.tags) :=
    Schema.optional_of_property (property_toJson payload "tags") (Js.array_ofStrings payload.tags)
  have author : Schema.property "author" payload.toJson =
      payload.author.map PublicationAuthor.toJson := property_toJson payload "author"
  have engagement : Schema.property "engagement" payload.toJson =
      payload.engagement.map PublicationEngagement.toJson := property_toJson payload "engagement"
  have extracted : Schema.property "extracted" payload.toJson =
      payload.extracted.map PublicationExtracted.toJson := property_toJson payload "extracted"
  unfold rawEventWireSchema
  rw [required_string eventId (property_toJson payload "event_id"), source,
    required_string fetchedAt (property_toJson payload "fetched_at"),
    optional_string (property_toJson payload "published_at"),
    optional_string (property_toJson payload "url"),
    optional_string (property_toJson payload "title"),
    required_string text (property_toJson payload "text"),
    Schema.optional_of_part author fun value _ => wireAuthorSchema_toJson value,
    Schema.optional_of_part engagement fun value present => wireEngagementSchema_toJson (finite value present),
    optional_string (property_toJson payload "lang"), tags,
    Schema.optional_of_part extracted fun value _ => wireExtractedSchema_toJson value,
    optional_string (property_toJson payload "source_meta_json")]
  rfl

end CollectorPublicationPayload

/-! ## What survives a field -/

/-- A blank text is as good as a missing one. -/
theorem normalizeOptionalString_getD (value : Option String) :
    normalizeOptionalString (some ((normalizeOptionalString value).getD "")) =
      normalizeOptionalString value := by
  rcases normalized : normalizeOptionalString value with _ | text
  · decide
  · exact (normalizeOptionalString_clean normalized).normalize

/-- The texts of a list, without blanks and repeats. -/
def textsOf (values : Option (List String)) : List String :=
  normalizeStrings ((values.getD []).map some)

theorem getD_normalizeStringArray (values : Option (List String)) :
    (normalizeStringArray (presentItems values)).getD [] = textsOf values := by
  cases values with
  | none => rfl
  | some texts =>
      change (Option.filter _ (some (normalizeStrings (texts.map some)))).getD [] =
        normalizeStrings (texts.map some)
      rw [Option.filter_some]
      split
      · rfl
      · rename_i empty
        simpa using empty

/-- A record of normalised parts counts as missing only if every part is missing. -/
theorem bind_filter_map {α β γ : Type} {f : α → β} {empty : β} [DecidableEq β] {part : β → Option γ}
    (none_of_empty : part empty = none) (value : Option α) :
    ((value.map f).filter (· ≠ empty)).bind part = value.bind fun a => part (f a) := by
  cases value with
  | none => rfl
  | some a =>
      rw [Option.map_some, Option.filter_some]
      split
      · rfl
      · rename_i same
        have equal : f a = empty := by simpa using same
        rw [Option.bind_some, equal, none_of_empty]
        rfl

section Parts

variable {api : MessageApi} {content : CollectedContent}

/-- A text of the author, as the consumer reads it. -/
theorem wire_author (part : CollectedContentAuthor → Option String)
    (wirePart : WireAuthor → Option String) (empty : part {} = none)
    (normal : ∀ author : CollectedContentAuthor, part
      { id := normalizeOptionalString author.id
        handle := normalizeOptionalString author.handle
        displayName := normalizeOptionalString author.displayName } =
      normalizeOptionalString (part author))
    (written : ∀ author : CollectedContentAuthor, wirePart (PublicationAuthor.wire
      { id := author.id.getD ""
        handle := author.handle.getD ""
        displayName := author.displayName.getD "" }) = some ((part author).getD "")) :
    RisingIntelligence.normalizeOptionalString
        ((toCollectorPublicationPayload api content).wire.author.bind wirePart) =
      normalizeOptionalString (content.author.bind part) := by
  have kept : (normalizeCollectedContentAuthor content.author).bind part =
      normalizeOptionalString (content.author.bind part) := by
    unfold normalizeCollectedContentAuthor
    rw [bind_filter_map empty]
    cases content.author with
    | none => rfl
    | some author => exact normal author
  change normalizeOptionalString ((((normalizeCollectedContentAuthor content.author).map _).map
    PublicationAuthor.wire).bind wirePart) = _
  rw [← kept]
  cases normalized : normalizeCollectedContentAuthor content.author with
  | none => rfl
  | some present =>
      rw [normalized, Option.bind_some] at kept
      rw [Option.map_some, Option.map_some, Option.bind_some, written, Option.bind_some, kept,
        normalizeOptionalString_getD]

/-- A list of what was extracted, as the consumer reads it. -/
theorem wire_extracted (part : Extracted String → Option (List String))
    (wirePart : WireExtracted → Option (List String)) (empty : part {} = none)
    (normal : ∀ extracted : Extracted String, part
      { hashtags := normalizeStringArray (presentItems extracted.hashtags)
        urls := normalizeStringArray (presentItems extracted.urls)
        entities := normalizeExtractedEntities extracted.toInput.entities } =
      normalizeStringArray (presentItems (part extracted)))
    (written : ∀ extracted : Extracted String, wirePart (PublicationExtracted.wire
      { hashtags := extracted.hashtags.getD []
        urls := extracted.urls.getD [] }) = some ((part extracted).getD [])) :
    ((toCollectorPublicationPayload api content).wire.extracted.bind wirePart).getD [] =
      textsOf (content.extracted.bind part) := by
  have kept : ((normalizeExtracted (content.extracted.map Extracted.toInput)).bind part).getD [] =
      textsOf (content.extracted.bind part) := by
    unfold normalizeExtracted
    rw [bind_filter_map empty]
    cases content.extracted with
    | none => rfl
    | some extracted =>
        rw [← getD_normalizeStringArray]
        exact congrArg (·.getD []) (normal extracted)
  change ((((normalizeExtracted (content.extracted.map Extracted.toInput)).map _).map
    PublicationExtracted.wire).bind wirePart).getD [] = _
  rw [← kept]
  cases normalizeExtracted (content.extracted.map Extracted.toInput) with
  | none => rfl
  | some present =>
      rw [Option.map_some, Option.map_some, Option.bind_some, written]
      rfl

theorem wire_url : RisingIntelligence.normalizeOptionalString
    (toCollectorPublicationPayload api content).wire.url = normalizeOptionalString content.url :=
  normalizeOptionalString_getD content.url

theorem wire_title : RisingIntelligence.normalizeOptionalString
    (toCollectorPublicationPayload api content).wire.title = normalizeOptionalString content.title :=
  normalizeOptionalString_getD content.title

theorem wire_lang : RisingIntelligence.normalizeOptionalString
    (toCollectorPublicationPayload api content).wire.lang = normalizeOptionalString content.lang :=
  normalizeOptionalString_getD content.lang

theorem wire_tags (api : MessageApi) (content : CollectedContent) :
    (toCollectorPublicationPayload api content).wire.tags.getD [] = textsOf content.tags :=
  getD_normalizeStringArray content.tags

end Parts

/-! ## Counters -/

/-- A counter that JSON can carry. -/
def counterOf (engagement : Option Engagement) (part : Engagement → Option Js.Double) :
    Option Js.Number :=
  (engagement.bind part).bind finiteNumber

def counters (engagement : Option Engagement) : List (Option Js.Number) :=
  [counterOf engagement (·.score), counterOf engagement (·.comments),
    counterOf engagement (·.likes), counterOf engagement (·.shares)]

/-- All four counters are there, or none is. -/
def AllOrNoCounters (engagement : Option Engagement) : Prop :=
  (∀ counter ∈ counters engagement, counter ≠ none) ∨ ∀ counter ∈ counters engagement, counter = none

instance (engagement : Option Engagement) : Decidable (AllOrNoCounters engagement) :=
  inferInstanceAs (Decidable (_ ∨ _))

theorem finiteNumber_finiteCounter (value : Option Js.Double) :
    (finiteCounter value).bind finiteNumber = value.bind finiteNumber := by
  rcases value with _ | _ | _ | _ <;> rfl

theorem finiteCounter_eq_none {value : Option Js.Double} :
    finiteCounter value = none ↔ value.bind finiteNumber = none := by
  rcases value with _ | _ | _ | _ <;> simp [finiteCounter, finiteNumber, Js.Double.isFinite]

/-- The record of counters is dropped just if none of them is there. -/
theorem normalizeEngagement_eq_none {engagement : Option Engagement} :
    normalizeEngagement engagement = none ↔ ∀ counter ∈ counters engagement, counter = none := by
  cases engagement with
  | none => simp [normalizeEngagement, counters, counterOf]
  | some engagement =>
      simp only [normalizeEngagement, Option.map_some, Option.filter_eq_none_iff, counters, counterOf,
        Option.bind_some, List.forall_mem_cons, ← finiteCounter_eq_none]
      simp

/-- A counter as the consumer reads it: a missing one is 0 if another one is there. -/
theorem wire_engagement (api : MessageApi) (content : CollectedContent)
    (part : Engagement → Option Js.Double) (wirePart : WireEngagement → Option Js.Number)
    (empty : part {} = none)
    (normal : ∀ engagement : Engagement, part
      { score := finiteCounter engagement.score
        comments := finiteCounter engagement.comments
        likes := finiteCounter engagement.likes
        shares := finiteCounter engagement.shares } = finiteCounter (part engagement))
    (written : ∀ engagement : Engagement, wirePart (PublicationEngagement.wire
      { score := counterOrZero engagement.score
        comments := counterOrZero engagement.comments
        likes := counterOrZero engagement.likes
        shares := counterOrZero engagement.shares }) =
      finiteNumber (counterOrZero (part engagement))) :
    (toCollectorPublicationPayload api content).wire.engagement.bind wirePart =
        counterOf content.engagement part ↔
      normalizeEngagement content.engagement = none ∨ counterOf content.engagement part ≠ none := by
  have kept : (normalizeEngagement content.engagement).bind part =
      finiteCounter (content.engagement.bind part) := by
    unfold normalizeEngagement
    rw [bind_filter_map empty]
    cases content.engagement with
    | none => rfl
    | some engagement => exact normal engagement
  change (((normalizeEngagement content.engagement).map _).map
    PublicationEngagement.wire).bind wirePart = _ ↔ _
  unfold counterOf
  rw [← finiteNumber_finiteCounter, ← kept]
  cases normalized : normalizeEngagement content.engagement with
  | none => simp
  | some present =>
      rw [normalized, Option.bind_some] at kept
      rw [Option.map_some, Option.map_some, Option.bind_some, written, Option.bind_some]
      simp only [reduceCtorEq, false_or]
      cases counter : part present with
      | none => simp [counterOrZero, finiteNumber]
      | some value =>
          have finite : value.isFinite = true := by
            rw [counter] at kept
            exact (Option.filter_eq_some_iff.1 kept.symm).2
          obtain ⟨number, rfl⟩ := exists_of_isFinite finite
          simp [counterOrZero, finiteNumber]

/-! ## Round trip -/

/-- Content that can be published: required texts that are not blank, dates that are dates, source
data that JSON can carry, and a payload that comes back from its text. -/
structure Serializable (api : MessageApi) (content : CollectedContent) : Prop where
  eventId : Js.trim content.eventId ≠ ""
  text : Js.trim content.text ≠ ""
  fetchedAt : Js.trim content.fetchedAt ≠ "" ∧ ∃ date, api.dateOf (Js.trim content.fetchedAt) = some date
  publishedAt : ∀ text, normalizeOptionalString content.publishedAt = some text →
    ∃ date, api.dateOf text = some date
  sourceMeta : ∀ sourceMeta, content.sourceMeta = some sourceMeta →
    Clean (api.stringify (.object sourceMeta)) ∧ api.RoundTrips (.object sourceMeta)
  payload : api.RoundTrips (toCollectorPublicationPayload api content).toJson

/-- The parsed event has what the content has, but for the counters. -/
structure RecoveredContent (api : MessageApi) (content : CollectedContent) (parsed : ParsedRawEvent) :
    Prop where
  eventId : parsed.eventId = Js.trim content.eventId
  source : parsed.source = .own content.source
  fetchedAt : api.dateOf (Js.trim content.fetchedAt) = some parsed.fetchedAt
  publishedAt : parsed.publishedAt =
    (normalizeOptionalString content.publishedAt).bind api.dateOf
  url : parsed.url = normalizeOptionalString content.url
  title : parsed.title = normalizeOptionalString content.title
  text : parsed.text = Js.trim content.text
  authorId : parsed.authorId = normalizeOptionalString (content.author.bind (·.id))
  authorHandle : parsed.authorHandle = normalizeOptionalString (content.author.bind (·.handle))
  authorDisplayName : parsed.authorDisplayName =
    normalizeOptionalString (content.author.bind (·.displayName))
  lang : parsed.lang = normalizeOptionalString content.lang
  tags : parsed.tags = textsOf content.tags
  extractedHashtags : parsed.extractedHashtags = textsOf (content.extracted.bind (·.hashtags))
  extractedUrls : parsed.extractedUrls = textsOf (content.extracted.bind (·.urls))
  sourceMeta : parsed.sourceMeta = content.sourceMeta

def parsedCounters (parsed : ParsedRawEvent) : List (Option Js.Number) :=
  [parsed.engagementScore, parsed.engagementComments, parsed.engagementLikes,
    parsed.engagementShares]

section RoundTrip

variable {api : MessageApi} {content : CollectedContent}

theorem deserialize_serialize (serializable : Serializable api content) :
    deserializeRawEvent api (serializeCollectedContent api content) =
      parsedRawEvent api (toCollectorPublicationPayload api content).wire := by
  have finite : ∀ engagement, (toCollectorPublicationPayload api content).engagement =
      some engagement → engagement.Finite := by
    intro engagement present
    obtain ⟨normalized, there, rfl⟩ := Option.map_eq_some_iff.1 present
    have counter : ∀ value : Option Js.Double,
        (counterOrZero (finiteCounter value)).isFinite = true := by
      intro value
      rcases value with _ | _ | _ | _ <;> rfl
    obtain ⟨kept, -⟩ := Option.filter_eq_some_iff.1 there
    obtain ⟨raw, -, rfl⟩ := Option.map_eq_some_iff.1 kept
    exact ⟨counter _, counter _, counter _, counter _⟩
  have accepted := (toCollectorPublicationPayload api content).rawEventWireSchema_toJson
    serializable.eventId serializable.fetchedAt.1 serializable.text finite
  unfold deserializeRawEvent serializeCollectedContent
  rw [api.toText_toUTF8, serializable.payload]
  dsimp only
  rw [accepted]

theorem parseSourceMeta_payload (serializable : Serializable api content) :
    parseSourceMeta api (toCollectorPublicationPayload api content).wire.sourceMetaJson =
      .ok content.sourceMeta := by
  cases present : content.sourceMeta with
  | none =>
      have blank : (toCollectorPublicationPayload api content).wire.sourceMetaJson = some "" := by
        unfold CollectorPublicationPayload.wire toCollectorPublicationPayload
        simp [normalizeCollectedContent, createCollectedContent, Content.toInput, present]
      rw [blank]
      rfl
  | some sourceMeta =>
      obtain ⟨clean, represented⟩ := serializable.sourceMeta sourceMeta present
      have written : (toCollectorPublicationPayload api content).wire.sourceMetaJson =
          some (api.stringify (.object sourceMeta)) := by
        unfold CollectorPublicationPayload.wire toCollectorPublicationPayload
        simp [normalizeCollectedContent, createCollectedContent, Content.toInput, present]
      have kept : RisingIntelligence.normalizeOptionalString
          (some (api.stringify (.object sourceMeta))) = some (api.stringify (.object sourceMeta)) :=
        clean.normalize
      unfold parseSourceMeta
      rw [written, kept]
      dsimp only
      rw [represented]

theorem parseOptionalDate_payload (serializable : Serializable api content) :
    parseOptionalDate api (toCollectorPublicationPayload api content).wire.publishedAt
      "published_at" = .ok ((normalizeOptionalString content.publishedAt).bind api.dateOf) := by
  change parseOptionalDate api (some ((normalizeOptionalString content.publishedAt).getD "")) _ = _
  cases present : normalizeOptionalString content.publishedAt with
  | none => rfl
  | some text =>
      obtain ⟨date, valid⟩ := serializable.publishedAt text present
      have nonblank := (normalizeOptionalString_clean present).2
      unfold parseOptionalDate
      rw [Option.getD_some]
      dsimp only
      rw [if_neg nonblank, parseDate, valid, Option.bind_some, valid]
      rfl

attribute [local irreducible] RisingIntelligence.normalizeOptionalString in
theorem recoveredContent_parsed {fetchedAt : Int}
    (valid : api.dateOf (Js.trim content.fetchedAt) = some fetchedAt) :
    RecoveredContent api content ((toCollectorPublicationPayload api content).wire.parsed
      (.own content.source) fetchedAt
      ((normalizeOptionalString content.publishedAt).bind api.dateOf) content.sourceMeta) where
  eventId := rfl
  source := rfl
  fetchedAt := valid
  publishedAt := rfl
  url := wire_url
  title := wire_title
  text := rfl
  authorId := wire_author (·.id) (·.id) rfl (fun _ => rfl) fun _ => rfl
  authorHandle := wire_author (·.handle) (·.handle) rfl (fun _ => rfl) fun _ => rfl
  authorDisplayName := wire_author (·.displayName) (·.displayName) rfl (fun _ => rfl) fun _ => rfl
  lang := wire_lang
  tags := wire_tags api content
  extractedHashtags := wire_extracted (·.hashtags) (·.hashtags) rfl (fun _ => rfl) fun _ => rfl
  extractedUrls := wire_extracted (·.urls) (·.urls) rfl (fun _ => rfl) fun _ => rfl
  sourceMeta := rfl

/-- What the consumer makes of published content. -/
theorem deserialize_eq_ok (serializable : Serializable api content) {fetchedAt : Int}
    (valid : api.dateOf (Js.trim content.fetchedAt) = some fetchedAt) :
    deserializeRawEvent api (serializeCollectedContent api content) =
      .ok ((toCollectorPublicationPayload api content).wire.parsed (.own content.source) fetchedAt
        ((normalizeOptionalString content.publishedAt).bind api.dateOf) content.sourceMeta) := by
  have source : (parseCanonicalSource api.toLowerCase
      (toCollectorPublicationPayload api content).wire.source).mapError RawEventError.source =
      .ok (.own content.source) := by
    change (parseSourceNumber (sourceKeyToEnum content.source)).mapError RawEventError.source = _
    rw [parseSourceNumber_sourceKeyToEnum]
    rfl
  have date : parseDate api (toCollectorPublicationPayload api content).wire.fetchedAt "fetched_at" =
      .ok fetchedAt := by
    have read : api.dateOf (toCollectorPublicationPayload api content).wire.fetchedAt =
        some fetchedAt := valid
    unfold parseDate
    rw [read]
  rw [deserialize_serialize serializable]
  unfold parsedRawEvent
  rw [source, date, parseOptionalDate_payload serializable, parseSourceMeta_payload serializable]
  rfl

theorem parsedCounters_iff {source : Js.Keyed CanonicalSource} {fetchedAt : Int}
    {publishedAt : Option Int} {sourceMeta : Option (List (String × Json))} :
    parsedCounters ((toCollectorPublicationPayload api content).wire.parsed source fetchedAt
        publishedAt sourceMeta) = counters content.engagement ↔
      AllOrNoCounters content.engagement := by
  have score := wire_engagement api content (·.score) (·.score) rfl (fun _ => rfl) fun _ => rfl
  have comments := wire_engagement api content (·.comments) (·.comments) rfl (fun _ => rfl)
    fun _ => rfl
  have likes := wire_engagement api content (·.likes) (·.likes) rfl (fun _ => rfl) fun _ => rfl
  have shares := wire_engagement api content (·.shares) (·.shares) rfl (fun _ => rfl) fun _ => rfl
  unfold AllOrNoCounters
  rw [← normalizeEngagement_eq_none]
  simp only [parsedCounters, RawEventWire.parsed, counters, List.cons.injEq, and_true, score,
    comments, likes, shares, List.forall_mem_cons]
  by_cases dropped : normalizeEngagement content.engagement = none
  · simp only [dropped, true_or, or_true, and_self]
  · simp only [dropped, false_or, or_false]
    exact ⟨fun all => ⟨all.1, all.2.1, all.2.2.1, all.2.2.2, nofun⟩,
      fun all => ⟨all.1, all.2.1, all.2.2.1, all.2.2.2.1⟩⟩

/-- The event that the consumer reads is the content that was published. -/
def Recovered (api : MessageApi) (content : CollectedContent) (parsed : ParsedRawEvent) : Prop :=
  RecoveredContent api content parsed ∧ parsedCounters parsed = counters content.engagement

/-- Published content comes back as it was just if it has all counters or none. -/
theorem roundTrip_iff (serializable : Serializable api content) :
    (∃ parsed, deserializeRawEvent api (serializeCollectedContent api content) = .ok parsed ∧
      Recovered api content parsed) ↔ AllOrNoCounters content.engagement := by
  obtain ⟨-, fetchedAt, valid⟩ := serializable.fetchedAt
  rw [deserialize_eq_ok serializable valid]
  constructor
  · rintro ⟨parsed, same, -, kept⟩
    cases same
    exact parsedCounters_iff.1 kept
  · intro complete
    exact ⟨_, rfl, recoveredContent_parsed valid, parsedCounters_iff.2 complete⟩

end RoundTrip

/-! ## A story with two counters -/

def story (engagement : Engagement) : CollectedContent where
  eventId := "hn:1"
  source := .hackernews
  fetchedAt := "2024-01-01T00:00:00.000Z"
  text := "story"
  engagement := some engagement

/-- The runtime of a consumer that gets one payload. -/
def storyMessages (engagement : Engagement) : MessageApi :=
  Js.messagesFor (toCollectorPublicationPayload (Js.messagesFor .null) (story engagement)).toJson

theorem story_serializable (engagement : Engagement) :
    Serializable (storyMessages engagement) (story engagement) where
  eventId := (by decide : Js.trim "hn:1" ≠ "")
  text := (by decide : Js.trim "story" ≠ "")
  fetchedAt := ⟨(by decide : Js.trim "2024-01-01T00:00:00.000Z" ≠ ""), 1704067200000,
    (by decide : (Js.messagesFor .null).dateOf (Js.trim "2024-01-01T00:00:00.000Z") =
      some 1704067200000)⟩
  publishedAt text present := by cases present
  sourceMeta sourceMeta present := by cases present
  payload := Js.messagesFor_roundTrips _

def fullCounters : Engagement where
  score := some (.number (.finite 150))
  comments := some (.number (.finite 45))
  likes := some (.number (.finite 0))
  shares := some (.number (.finite 0))

theorem roundTrip_iff_story :
    AllOrNoCounters (some fullCounters) ∧
    ((∃ parsed, deserializeRawEvent (storyMessages fullCounters)
          (serializeCollectedContent (storyMessages fullCounters) (story fullCounters)) = .ok parsed ∧
        Recovered (storyMessages fullCounters) (story fullCounters) parsed) ↔
      AllOrNoCounters (some fullCounters)) :=
  ⟨by decide, roundTrip_iff (story_serializable fullCounters)⟩

/-- Score and comments, as the stories of Hacker News have them. -/
def storyCounters : Engagement where
  score := some (.number (.finite 150))
  comments := some (.number (.finite 45))

/-- The missing likes come back as 0. -/
theorem story_invents_likes :
    Serializable (storyMessages storyCounters) (story storyCounters) ∧
    counterOf (some storyCounters) (·.likes) = none ∧
    ∃ parsed, deserializeRawEvent (storyMessages storyCounters)
        (serializeCollectedContent (storyMessages storyCounters) (story storyCounters)) = .ok parsed ∧
      parsed.engagementLikes = some (.finite 0) ∧
      ¬Recovered (storyMessages storyCounters) (story storyCounters) parsed := by
  have date : (storyMessages storyCounters).dateOf (Js.trim (story storyCounters).fetchedAt) =
      some 1704067200000 := by decide
  refine ⟨story_serializable storyCounters, by decide, _,
    deserialize_eq_ok (story_serializable storyCounters) date, by decide, fun recovered => ?_⟩
  have complete := parsedCounters_iff.1 recovered.2
  revert complete
  decide

end RisingIntelligence.Collector
