import RisingIntelligence.Pipeline.Source
import RisingIntelligence.Shared.Message

/-!
# Raw events

The consumer side of the raw-events topic, `packages/pipeline/src/raw-event.ts`: the wire schema and
what `deserializeRawEvent` makes of a message.
-/

namespace RisingIntelligence

open Js (Json MessageApi Schema)

/-! ## The wire -/

structure WireAuthor where
  id : Option String := none
  handle : Option String := none
  displayName : Option String := none
  deriving DecidableEq

structure WireEngagement where
  score : Option Js.Number := none
  comments : Option Js.Number := none
  likes : Option Js.Number := none
  shares : Option Js.Number := none
  deriving DecidableEq

structure WireExtracted where
  hashtags : Option (List String) := none
  urls : Option (List String) := none
  deriving DecidableEq

/-- What `RawEventWireSchema` parses to. -/
structure RawEventWire where
  eventId : String
  source : Int ⊕ String
  fetchedAt : String
  publishedAt : Option String
  url : Option String
  title : Option String
  text : String
  author : Option WireAuthor
  engagement : Option WireEngagement
  lang : Option String
  tags : Option (List String)
  extracted : Option WireExtracted
  sourceMetaJson : Option String
  deriving DecidableEq

def wireAuthorSchema : Schema WireAuthor := fun value => do
  guard (Schema.isObject value = true)
  let id ← Schema.optional "id" Schema.string value
  let handle ← Schema.optional "handle" Schema.string value
  let displayName ← Schema.optional "display_name" Schema.string value
  return { id, handle, displayName }

def wireEngagementSchema : Schema WireEngagement := fun value => do
  guard (Schema.isObject value = true)
  let score ← Schema.optional "score" Schema.number value
  let comments ← Schema.optional "comments" Schema.number value
  let likes ← Schema.optional "likes" Schema.number value
  let shares ← Schema.optional "shares" Schema.number value
  return { score, comments, likes, shares }

def wireExtractedSchema : Schema WireExtracted := fun value => do
  guard (Schema.isObject value = true)
  let hashtags ← Schema.optional "hashtags" (Schema.array Schema.string) value
  let urls ← Schema.optional "urls" (Schema.array Schema.string) value
  return { hashtags, urls }

/-- `RawEventWireSchema` -/
def rawEventWireSchema : Schema RawEventWire := fun value => do
  guard (Schema.isObject value = true)
  let eventId ← Schema.required "event_id" Schema.nonempty value
  let source ← Schema.required "source" (Schema.union Schema.int Schema.nonempty) value
  let fetchedAt ← Schema.required "fetched_at" Schema.nonempty value
  let publishedAt ← Schema.optional "published_at" Schema.string value
  let url ← Schema.optional "url" Schema.string value
  let title ← Schema.optional "title" Schema.string value
  let text ← Schema.required "text" Schema.nonempty value
  let author ← Schema.optional "author" wireAuthorSchema value
  let engagement ← Schema.optional "engagement" wireEngagementSchema value
  let lang ← Schema.optional "lang" Schema.string value
  let tags ← Schema.optional "tags" (Schema.array Schema.string) value
  let extracted ← Schema.optional "extracted" wireExtractedSchema value
  let sourceMetaJson ← Schema.optional "source_meta_json" Schema.string value
  return { eventId, source, fetchedAt, publishedAt, url, title, text, author, engagement, lang, tags,
           extracted, sourceMetaJson }

/-! ## Decoding -/

structure ParsedRawEvent where
  eventId : String
  source : Js.Keyed CanonicalSource
  fetchedAt : Int
  publishedAt : Option Int
  url : Option String
  title : Option String
  text : String
  authorId : Option String
  authorHandle : Option String
  authorDisplayName : Option String
  engagementScore : Option Js.Number
  engagementComments : Option Js.Number
  engagementLikes : Option Js.Number
  engagementShares : Option Js.Number
  lang : Option String
  tags : List String
  extractedHashtags : List String
  extractedUrls : List String
  sourceMeta : Option (List (String × Json))

/-- What `deserializeRawEvent` throws. -/
inductive RawEventError : Type
  | invalidJson (message : String)
  | schema
  | source (error : SourceError)
  | invalidDate (field value : String)
  | invalidSourceMeta (message : String)

/-- `normalizeOptionalString`, with `undefined` for a missing text. -/
def normalizeOptionalString (value : Option String) : Option String :=
  (value.map Js.trim).filter (· ≠ "")

/-- `parseDate` -/
def parseDate (api : MessageApi) (value field : String) : Except RawEventError Int :=
  match api.dateOf value with
  | some date => .ok date
  | none => .error (.invalidDate field value)

/-- `wire.published_at ? parseDate(..) : null` -/
def parseOptionalDate (api : MessageApi) (value : Option String) (field : String) :
    Except RawEventError (Option Int) :=
  match value with
  | none => .ok none
  | some text => if text = "" then .ok none else (parseDate api text field).map some

def parseSourceMeta (api : MessageApi) (sourceMetaJson : Option String) :
    Except RawEventError (Option (List (String × Json))) :=
  match normalizeOptionalString sourceMetaJson with
  | none => .ok none
  | some normalized =>
      match api.parse normalized with
      | .error message => .error (.invalidSourceMeta message)
      | .ok (.object fields) => .ok (some fields)
      | .ok _ => .error (.invalidSourceMeta "expected JSON object")

/-- The parsed event with the given source, dates and source data. -/
def RawEventWire.parsed (wire : RawEventWire) (source : Js.Keyed CanonicalSource) (fetchedAt : Int)
    (publishedAt : Option Int) (sourceMeta : Option (List (String × Json))) : ParsedRawEvent where
  eventId := wire.eventId
  source := source
  fetchedAt := fetchedAt
  publishedAt := publishedAt
  url := normalizeOptionalString wire.url
  title := normalizeOptionalString wire.title
  text := wire.text
  authorId := normalizeOptionalString (wire.author.bind (·.id))
  authorHandle := normalizeOptionalString (wire.author.bind (·.handle))
  authorDisplayName := normalizeOptionalString (wire.author.bind (·.displayName))
  engagementScore := wire.engagement.bind (·.score)
  engagementComments := wire.engagement.bind (·.comments)
  engagementLikes := wire.engagement.bind (·.likes)
  engagementShares := wire.engagement.bind (·.shares)
  lang := normalizeOptionalString wire.lang
  tags := wire.tags.getD []
  extractedHashtags := (wire.extracted.bind (·.hashtags)).getD []
  extractedUrls := (wire.extracted.bind (·.urls)).getD []
  sourceMeta := sourceMeta

def parsedRawEvent (api : MessageApi) (wire : RawEventWire) : Except RawEventError ParsedRawEvent := do
  let source ← (parseCanonicalSource api.toLowerCase wire.source).mapError .source
  let fetchedAt ← parseDate api wire.fetchedAt "fetched_at"
  let publishedAt ← parseOptionalDate api wire.publishedAt "published_at"
  let sourceMeta ← parseSourceMeta api wire.sourceMetaJson
  return wire.parsed source fetchedAt publishedAt sourceMeta

def deserializeRawEvent (api : MessageApi) (messageValue : ByteArray) :
    Except RawEventError ParsedRawEvent :=
  match api.parse (api.toText messageValue) with
  | .error message => .error (.invalidJson message)
  | .ok decoded =>
      match rawEventWireSchema decoded with
      | none => .error .schema
      | some wire => parsedRawEvent api wire

end RisingIntelligence
