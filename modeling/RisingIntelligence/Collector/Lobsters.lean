import RisingIntelligence.Collector.AdapterApi

/-!
# The Lobsters adapter

`LobstersAdapter.fetch` of `apps/collector/src/adapters/lobsters.ts`.  The feed lists its items
newest first.  Those ahead of the stored guid are cut to the newest `maxItems` and then processed
oldest first; each record carries the guid of its item as the checkpoint.
-/

namespace RisingIntelligence.Collector.Lobsters

open Async

def lobsters : Adapter := ⟨"lobsters", "lobsters"⟩

def checkpointKey : String := "last_guid"

def rssUrl : String := "https://lobste.rs/rss"

def minContentLength : Nat := 300

structure Settings where
  maxItems : Nat
  enrichment : TextEnrichmentStrategy
  functions : ContentFunctions

/-- `item.guid ?? item.link`, where an empty string counts as missing. -/
def itemGuid (item : FeedItem) : Option String :=
  (item.guid.or item.link).filter (· ≠ "")

def normalizeLobstersCommunityTags (categories : Option (List String)) : List String :=
  (categories.getD []).filter (· ≠ "")

def buildLobstersSourceMeta (guid : String) (communityTags : List String) (item : FeedItem) :
    List (String × Js.Json) :=
  [("collected_from", .string "lobsters"), ("guid", .string guid)] ++
    (if communityTags ≠ [] then [("community_tags", .array (communityTags.map .string))] else []) ++
    match item.comments with
    | some commentsUrl =>
        if Js.trim commentsUrl ≠ "" then [("comments_url", .string commentsUrl)] else []
    | none => []

variable (settings : Settings)

def parseDate (value : Option String) : Option String :=
  (value.filter (· ≠ "")).bind settings.functions.isoFromString

/-- It never returns `null`; article fetching and the clock may throw. -/
def itemToCollectedContent (item : FeedItem) (guid : String) : AdapterProgram CollectedContent := do
  let title := item.title.getD ""
  let text ← settings.enrichment.enrich ((item.contentSnippet.or item.content).getD "") item.link
    minContentLength
  let combinedText := title ++ " " ++ text
  let fetchedAt ← callApi .now
  pure (createCollectedContent {
    eventId := "lobsters:" ++ settings.functions.hashString guid
    source := .lobsters
    fetchedAt
    publishedAt := parseDate settings (item.pubDate.or item.isoDate)
    url := item.link
    title := some title
    text
    author := authorOf item.creator
    extracted := some (extractedOf settings.functions combinedText)
    sourceMeta := some (buildLobstersSourceMeta guid
      (normalizeLobstersCommunityTags item.categories) item) })

/-- The items in front of the checkpoint, with their guids, and whether it was found. -/
def newItems (lastGuid : Option String) : List FeedItem → List (FeedItem × String) × Bool
  | [] => ([], lastGuid.getD "" = "")
  | item :: rest =>
      match itemGuid item with
      | none => newItems lastGuid rest
      | some guid =>
          if some guid = lastGuid then ([], true)
          else
            let (later, found) := newItems lastGuid rest
            ((item, guid) :: later, found)

/-- At most `maxItems` of the newest, and at most ten when the checkpoint is not in the feed. -/
def itemsToProcess (lastGuid : Option String) (items : List FeedItem) :
    List (FeedItem × String) :=
  let (fresh, foundCheckpoint) := newItems lastGuid items
  if foundCheckpoint then fresh.take settings.maxItems else fresh.take (min settings.maxItems 10)

/-- The body of the loop.  An error of `itemToCollectedContent` is logged and the item skipped;
what the consumer does with the record is no error of the generator. -/
def processItem (item : FeedItem × String) : AdapterGenerator Unit :=
  Generator.tryCatch
    (do
      let content ← Generator.ofProgram (itemToCollectedContent settings item.1 item.2)
      Generator.emit (createCollectorSourceRecord {
        content
        checkpointKey
        checkpointValue := item.2 }))
    fun _ => pure ()

def processItems : List (FeedItem × String) → AdapterGenerator Unit
  | [] => pure ()
  | item :: rest => do
      processItem settings item
      processItems rest

/-- `LobstersAdapter.fetch` -/
def fetch : AdapterGenerator Unit := do
  let lastGuid ← awaitCall (.getCheckpoint lobsters.name checkpointKey)
  let feed ← awaitCall (.api (.parseURL rssUrl))
  let items := feed.getD []
  processItems settings (itemsToProcess settings lastGuid items).reverse

/-- One poll of the adapter through `runAdapter`. -/
def poll : AdapterProgram Nat := pollAdapter lobsters (fetch settings)

end RisingIntelligence.Collector.Lobsters
