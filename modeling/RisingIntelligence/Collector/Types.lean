import RisingIntelligence.Pipeline.Source
import RisingIntelligence.Shared.JsArray

/-!
# Collected content

The ingest contract of the collector, `apps/collector/src/types.ts`.  Adapters hand in
`CreateCollectedContentInput`; `createCollectedContent` trims it, drops what is blank or not
finite, and resolves the source.  Everything downstream normalises again, which changes nothing
(`normalizeCollectedContent_idem`).
-/

namespace RisingIntelligence.Collector

open RisingIntelligence (CanonicalSource)

/-- The source of an adapter: a canonical one or the alias `lobsters`. -/
inductive Source : Type
  | canonical (source : CanonicalSource)
  | lobsters
  deriving DecidableEq

def Source.name : Source → String
  | .canonical source => source.name
  | .lobsters => "lobsters"

structure CollectedContentAuthor where
  id : Option String := none
  handle : Option String := none
  displayName : Option String := none
  deriving DecidableEq

/-- The counters are numbers of the language, so they may be `NaN`. -/
structure Engagement where
  score : Option Js.Double := none
  comments : Option Js.Double := none
  likes : Option Js.Double := none
  shares : Option Js.Double := none
  deriving DecidableEq

structure ExtractedEntities (Item : Type) where
  cves : Option (List Item) := none
  ghsas : Option (List Item) := none
  deriving DecidableEq

structure Extracted (Item : Type) where
  hashtags : Option (List Item) := none
  urls : Option (List Item) := none
  entities : Option (ExtractedEntities Item) := none
  deriving DecidableEq

/-- The fields of a piece of content, over what names its source and what its lists hold.
`null` and `undefined` are both `none`: the code never tells them apart here. -/
structure Content (Origin Item : Type) where
  eventId : String
  source : Origin
  fetchedAt : String
  publishedAt : Option String := none
  url : Option String := none
  title : Option String := none
  text : String
  author : Option CollectedContentAuthor := none
  engagement : Option Engagement := none
  lang : Option String := none
  tags : Option (List Item) := none
  extracted : Option (Extracted Item) := none
  sourceMeta : Option (List (String × Js.Json)) := none

abbrev CollectedContent : Type := Content CanonicalSource String

abbrev CreateCollectedContentInput : Type := Content Source (Option String)

/-- The wire contract; only the names of the fields differ in the source. -/
structure RawEvent where
  eventId : String
  source : CanonicalSource
  fetchedAt : String
  publishedAt : Option String
  url : Option String
  title : Option String
  text : String
  author : Option CollectedContentAuthor
  engagement : Option Engagement
  lang : Option String
  tags : Option (List String)
  extracted : Option (Extracted String)
  sourceMeta : Option (List (String × Js.Json))

structure DeadLetterEvent where
  dlqId : String
  occurredAt : String
  source : String
  errorCode : String
  errorMessage : String
  rawReference : Option String

/-! ## Normalisation -/

/-- What `parseCanonicalSource` answers for the source of an adapter
(`parseCanonicalSource_name`). -/
def normalizeRawEventSource : Source → CanonicalSource
  | .canonical source => source
  | .lobsters => .news

def normalizeOptionalString (value : Option String) : Option String :=
  (value.map Js.trim).filter (· ≠ "")

/-- The loop over the values of `normalizeStringArray`. -/
def normalizeStrings (values : List (Option String)) : List String :=
  Js.distinct (values.filterMap normalizeOptionalString)

def normalizeStringArray (values : Option (List (Option String))) : Option (List String) :=
  (values.map normalizeStrings).filter (· ≠ [])

def normalizeCollectedContentAuthor (author : Option CollectedContentAuthor) :
    Option CollectedContentAuthor :=
  (author.map fun author =>
    { id := normalizeOptionalString author.id
      handle := normalizeOptionalString author.handle
      displayName := normalizeOptionalString author.displayName }).filter (· ≠ {})

/-- `typeof value === "number" && Number.isFinite(value)` -/
def finiteCounter (value : Option Js.Double) : Option Js.Double :=
  value.filter Js.Double.isFinite

def normalizeEngagement (engagement : Option Engagement) : Option Engagement :=
  (engagement.map fun engagement =>
    { score := finiteCounter engagement.score
      comments := finiteCounter engagement.comments
      likes := finiteCounter engagement.likes
      shares := finiteCounter engagement.shares }).filter (· ≠ {})

def normalizeExtractedEntities (entities : Option (ExtractedEntities (Option String))) :
    Option (ExtractedEntities String) :=
  (entities.map fun entities =>
    { cves := normalizeStringArray entities.cves
      ghsas := normalizeStringArray entities.ghsas }).filter (· ≠ {})

def normalizeExtracted (extracted : Option (Extracted (Option String))) :
    Option (Extracted String) :=
  (extracted.map fun extracted =>
    { hashtags := normalizeStringArray extracted.hashtags
      urls := normalizeStringArray extracted.urls
      entities := normalizeExtractedEntities extracted.entities }).filter (· ≠ {})

def createCollectedContent (input : CreateCollectedContentInput) : CollectedContent where
  eventId := Js.trim input.eventId
  source := normalizeRawEventSource input.source
  fetchedAt := Js.trim input.fetchedAt
  publishedAt := normalizeOptionalString input.publishedAt
  url := normalizeOptionalString input.url
  title := normalizeOptionalString input.title
  text := Js.trim input.text
  author := normalizeCollectedContentAuthor input.author
  engagement := normalizeEngagement input.engagement
  lang := normalizeOptionalString input.lang
  tags := normalizeStringArray input.tags
  extracted := normalizeExtracted input.extracted
  sourceMeta := input.sourceMeta

/-- Strings where `string | null | undefined` is expected. -/
def presentItems (values : Option (List String)) : Option (List (Option String)) :=
  values.map (·.map some)

def Extracted.toInput (extracted : Extracted String) : Extracted (Option String) where
  hashtags := presentItems extracted.hashtags
  urls := presentItems extracted.urls
  entities := extracted.entities.map fun entities =>
    { cves := presentItems entities.cves, ghsas := presentItems entities.ghsas }

/-- Content as an input of `createCollectedContent`; every field under its own name. -/
def Content.toInput (content : CollectedContent) : CreateCollectedContentInput where
  eventId := content.eventId
  source := .canonical content.source
  fetchedAt := content.fetchedAt
  publishedAt := content.publishedAt
  url := content.url
  title := content.title
  text := content.text
  author := content.author
  engagement := content.engagement
  lang := content.lang
  tags := presentItems content.tags
  extracted := content.extracted.map Extracted.toInput
  sourceMeta := content.sourceMeta

def normalizeCollectedContent (content : CollectedContent) : CollectedContent :=
  createCollectedContent content.toInput

/-- `normalizeCollectorIngestionEvent` -/
abbrev normalizeCollectorIngestionEvent : CollectedContent → CollectedContent :=
  normalizeCollectedContent

def toRawEvent (content : CollectedContent) : RawEvent :=
  let normalized := normalizeCollectedContent content
  { eventId := normalized.eventId
    source := normalized.source
    fetchedAt := normalized.fetchedAt
    publishedAt := normalized.publishedAt
    url := normalized.url
    title := normalized.title
    text := normalized.text
    author := normalized.author
    engagement := normalized.engagement
    lang := normalized.lang
    tags := normalized.tags
    extracted := normalized.extracted
    sourceMeta := normalized.sourceMeta }

/-! ## Normalising twice -/

/-- Adapters name their sources in lower case, so folding the case changes nothing. -/
theorem parseCanonicalSource_name {toLowerCase : String → String} (source : Source)
    (lower : toLowerCase source.name = source.name) :
    parseCanonicalSource toLowerCase (.inr source.name) =
      .ok (.own (normalizeRawEventSource source)) := by
  have unpadded : Js.trim source.name = source.name := by
    rcases source with (_ | _ | _ | _ | _ | _ | _) | _ <;> decide
  have noNumber : Js.parseInt10 source.name = none := by
    rcases source with (_ | _ | _ | _ | _ | _ | _) | _ <;> decide
  have known : Js.lookup sourceAliasToKey source.name =
      some (.own (normalizeRawEventSource source)) := by
    rcases source with (_ | _ | _ | _ | _ | _ | _) | _ <;> decide
  simp only [parseCanonicalSource, unpadded, noNumber, Option.filter_none, lower, known]

/-- A trimmed string that is not blank. -/
def Clean (text : String) : Prop := Js.trim text = text ∧ text ≠ ""

theorem normalizeOptionalString_clean {value : Option String} {text : String}
    (normalized : normalizeOptionalString value = some text) : Clean text := by
  rcases value with _ | value
  · simp [normalizeOptionalString] at normalized
  · simp only [normalizeOptionalString, Option.map_some, Option.filter_some] at normalized
    split at normalized
    · rename_i nonblank
      cases normalized
      exact ⟨Js.trim_trim value, by simpa using nonblank⟩
    · cases normalized

theorem Clean.normalize {text : String} (clean : Clean text) :
    normalizeOptionalString (some text) = some text := by
  simp [normalizeOptionalString, clean.1, clean.2]

@[simp] theorem normalizeOptionalString_idem (value : Option String) :
    normalizeOptionalString (normalizeOptionalString value) = normalizeOptionalString value := by
  rcases normalized : normalizeOptionalString value with _ | text
  · rfl
  · exact (normalizeOptionalString_clean normalized).normalize

theorem normalizeStrings_of_clean {texts : List String} (clean : ∀ text ∈ texts, Clean text)
    (nodup : texts.Nodup) : normalizeStrings (texts.map some) = texts := by
  have kept : (texts.map some).filterMap normalizeOptionalString = texts := by
    have each : ∀ text ∈ texts, (normalizeOptionalString ∘ some) text = some text := by
      intro text found
      rw [Function.comp_apply]
      exact (clean text found).normalize
    rw [List.filterMap_map, List.filterMap_congr each]
    exact List.filterMap_some
  rw [normalizeStrings, kept, Js.distinct_of_nodup nodup]

theorem clean_of_mem_normalizeStrings {values : List (Option String)} {text : String}
    (found : text ∈ normalizeStrings values) : Clean text := by
  rw [normalizeStrings, Js.mem_distinct, List.mem_filterMap] at found
  obtain ⟨value, _, normalized⟩ := found
  exact normalizeOptionalString_clean normalized

@[simp] theorem normalizeStrings_idem (values : List (Option String)) :
    normalizeStrings ((normalizeStrings values).map some) = normalizeStrings values :=
  normalizeStrings_of_clean (fun _ found => clean_of_mem_normalizeStrings found)
    (Js.nodup_distinct _)

/-- Normalising what a normaliser let through: `f` is the identity on its own results. -/
theorem filter_map_idem {α β : Type} {f : α → β} {g : β → α} {keep : β → Bool}
    (idem : ∀ a, f (g (f a)) = f a) (value : Option α) :
    ((((value.map f).filter keep).map g).map f).filter keep = (value.map f).filter keep := by
  rcases value with _ | a
  · rfl
  · by_cases kept : keep (f a)
    · simp only [Option.map_some, Option.filter_some, kept, if_true, idem]
    · simp only [Option.map_some, Option.map_none, Option.filter_some, Option.filter_none, kept,
        if_false, Bool.false_eq_true]

theorem filter_idem {α : Type} {f : α → α} {keep : α → Bool} (idem : ∀ a, f (f a) = f a)
    (value : Option α) :
    ((((value.map f).filter keep).map f).filter keep) = (value.map f).filter keep := by
  rcases value with _ | a
  · rfl
  · by_cases kept : keep (f a)
    · simp only [Option.map_some, Option.filter_some, kept, if_true, idem]
    · simp only [Option.map_some, Option.map_none, Option.filter_some, Option.filter_none, kept,
        if_false, Bool.false_eq_true]

@[simp] theorem normalizeStringArray_idem (values : Option (List (Option String))) :
    normalizeStringArray (presentItems (normalizeStringArray values)) =
      normalizeStringArray values :=
  filter_map_idem normalizeStrings_idem values

@[simp] theorem normalizeCollectedContentAuthor_idem (author : Option CollectedContentAuthor) :
    normalizeCollectedContentAuthor (normalizeCollectedContentAuthor author) =
      normalizeCollectedContentAuthor author :=
  filter_idem (by simp) author

@[simp] theorem finiteCounter_idem (value : Option Js.Double) :
    finiteCounter (finiteCounter value) = finiteCounter value := by
  rcases value with _ | value
  · rfl
  · by_cases finite : value.isFinite <;> simp [finiteCounter, Option.filter_some, finite]

@[simp] theorem normalizeEngagement_idem (engagement : Option Engagement) :
    normalizeEngagement (normalizeEngagement engagement) = normalizeEngagement engagement :=
  filter_idem (by simp) engagement

@[simp] theorem normalizeExtractedEntities_idem
    (entities : Option (ExtractedEntities (Option String))) :
    normalizeExtractedEntities ((normalizeExtractedEntities entities).map fun entities =>
        { cves := presentItems entities.cves, ghsas := presentItems entities.ghsas }) =
      normalizeExtractedEntities entities :=
  filter_map_idem (by simp) entities

@[simp] theorem normalizeExtracted_idem (extracted : Option (Extracted (Option String))) :
    normalizeExtracted ((normalizeExtracted extracted).map Extracted.toInput) =
      normalizeExtracted extracted :=
  filter_map_idem (by simp [Extracted.toInput]) extracted

/-- What `createCollectedContent` made is left alone by every later normalisation. -/
theorem normalizeCollectedContent_create (input : CreateCollectedContentInput) :
    normalizeCollectedContent (createCollectedContent input) = createCollectedContent input := by
  simp [normalizeCollectedContent, createCollectedContent, Content.toInput,
    normalizeRawEventSource]

@[simp] theorem normalizeCollectedContent_idem (content : CollectedContent) :
    normalizeCollectedContent (normalizeCollectedContent content) =
      normalizeCollectedContent content :=
  normalizeCollectedContent_create content.toInput

@[simp] theorem normalizeCollectedContent_eventId (content : CollectedContent) :
    (normalizeCollectedContent content).eventId = Js.trim content.eventId := rfl

@[simp] theorem normalizeCollectedContent_text (content : CollectedContent) :
    (normalizeCollectedContent content).text = Js.trim content.text := rfl

end RisingIntelligence.Collector
