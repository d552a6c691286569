import RisingIntelligence.Collector.AdapterApi
import RisingIntelligence.Collector.MarketFilters
import RisingIntelligence.Collector.RssFeeds
import RisingIntelligence.Shared.JsMap

/-!
# The RSS adapter

`RSSAdapter` of `apps/collector/src/adapters/rss.ts`: many feeds, each polled when it is due, with
requests to one host spaced apart.

The generator is a program whose `yield` is a call: its consumer asks for the next record, or ends
the generator, which then runs its `finally` blocks (`Completion.returned`).  The maps of the
adapter are read and written by calls, so that they outlive whatever is thrown.
-/

namespace RisingIntelligence.Collector.Rss

open Async
open Js (Json)
open MarketFilters (MarketFilterProfile)

/-! ## Calls -/

/-- An item as the parser returns it. -/
structure RssItem extends FeedItem where
  summary : Option String := none

structure EdgarDetailMetadata where
  filedDate : Option String
  acceptedAt : Option String
  primaryDocumentName : Option String

inductive RssCall : Type
  /-- `Date.now()` -/
  | clock
  /-- `new Date().toISOString()` -/
  | now
  | random
  | wait (ms : ℤ)
  | getCheckpoint (source checkpointKey : String)
  /-- `nextPollAtByFeed` -/
  | nextPollAt (feedId : String)
  | setNextPollAt (feedId : String) (time : ℤ)
  /-- `nextRequestAtByHost` -/
  | nextRequestAt (host : String)
  | setNextRequestAt (host : String) (time : ℤ)
  /-- `parser.parseURL(feed.url)` -/
  | parseURL (feed : FeedConfig)
  | onFeedError (feed : FeedConfig)
  | onFeedSuccess (feed : FeedConfig) (itemCount : ℕ)
  | enrichment (c : PollCall CollectedContent adapterApi)
  | fetchEdgarDetailMetadata (filingDetailUrl : String)
  | yield (record : AdapterRecord)

/-- Whether the consumer goes on. -/
@[reducible] def RssCall.Reply : RssCall → Type
  | .clock => ℤ
  | .now => String
  | .random => ℚ
  | .getCheckpoint _ _ => Option String
  | .nextPollAt _ => Option ℤ
  | .nextRequestAt _ => Option ℤ
  | .parseURL _ => Option (List RssItem)
  | .enrichment c => c.Reply
  | .fetchEdgarDetailMetadata _ => Option EdgarDetailMetadata
  | .yield _ => Bool
  | _ => Unit

abbrev rssApi : Interface where
  Call := RssCall
  Reply := RssCall.Reply
  Error := String

/-- How a generator stops early. -/
inductive Completion : Type
  | thrown (error : String)
  | returned

abbrev RssProgram (α : Type) : Type := Program rssApi Completion α

def callRss (c : RssCall) : RssProgram c.Reply :=
  (Program.call (I := rssApi) c).mapError .thrown

/-- `yield record` -/
def yieldRecord (record : AdapterRecord) : RssProgram Unit := do
  let resumed ← callRss (.yield record)
  if resumed then pure () else Program.throw .returned

/-- The calls of the text enrichment. -/
def enrichmentEmbedding : Embedding (polling CollectedContent adapterApi) rssApi where
  call := .enrichment
  reply _ reply := reply

/-- `try { await p } catch {}` around what yields nothing. -/
def ignoringErrors (p : RssProgram Unit) : RssProgram Unit :=
  p.tryCatch fun (_ : Completion) => pure ()

/-! ## The adapter -/

/-- The scans with regular expressions. -/
structure RssFunctions where
  /-- `new URL(url).host.toLowerCase()`, `none` where it throws. -/
  host : String → Option String
  /-- `/pr\s*newswire/i` -/
  isPrNewswire : String → Bool
  extractEdgarFormType : List (Option String) → Option String
  extractAccessionNumber : List (Option String) → Option String
  extractCik : List (Option String) → Option String

structure RSSAdapter where
  feeds : List FeedConfig
  enrichment : TextEnrichmentStrategy
  functions : ContentFunctions
  scans : RssFunctions
  filters : MarketFilters.FilterRuntime
  marketFilterProfiles : List MarketFilterProfile
  edgarFormsAllowlist : List String
  edgarFetchDetailMetadata : Bool
  edgarPollIntervalMs : ℕ
  edgarPollJitterRatio : ℚ

def rss : Adapter := ⟨"rss", "rss"⟩

def minRssContentLength : ℕ := 300

variable (adapter : RSSAdapter)

def isEdgar (feed : FeedConfig) : Bool := feed.sourceType = some "edgar"

def inferSignalTier (feed : FeedConfig) : SignalTier :=
  feed.signalTier.getD
    (if adapter.scans.isPrNewswire feed.name then .highVolume else .lowVolume)

def signalTierName : SignalTier → String
  | .highVolume => "high_volume"
  | .lowVolume => "low_volume"

/-- The first of the terms that are equal but for their case. -/
def dedupeTerms (seen : List String) : List String → List String
  | [] => []
  | rawTerm :: rest =>
      let term := Js.trim rawTerm
      let normalized := adapter.filters.toLowerCase term
      if term = "" || seen.contains normalized then dedupeTerms seen rest
      else term :: dedupeTerms (normalized :: seen) rest

def dedupeEntityTerms (entityTerms : List String) : List String := dedupeTerms adapter [] entityTerms

def watchlistEntityTerms : List String :=
  dedupeEntityTerms adapter ((adapter.feeds.filter isEdgar).flatMap fun feed =>
    feed.entityTerms.getD [])

/-! ## Schedule -/

/-- `Math.round` -/
def round (value : ℚ) : ℤ := ⌊value + 1 / 2⌋

def getFeedPollIntervalMs (feed : FeedConfig) : ℕ :=
  if isEdgar feed then adapter.edgarPollIntervalMs else feed.pollIntervalSeconds * 1000

def computeJitteredDelayMs (baseMs : ℕ) (jitterRatio random : ℚ) : ℤ :=
  max 1000 (round (baseMs + baseMs * jitterRatio * (random * 2 - 1)))

/-- The delay of `scheduleNextPoll`; without a jitter nothing is drawn. -/
def pollDelay (feed : FeedConfig) : RssProgram ℤ :=
  if isEdgar feed && 0 < adapter.edgarPollJitterRatio then do
    let random ← callRss .random
    pure (computeJitteredDelayMs (getFeedPollIntervalMs adapter feed) adapter.edgarPollJitterRatio
      random)
  else pure (getFeedPollIntervalMs adapter feed : ℤ)

def scheduleNextPoll (feed : FeedConfig) : RssProgram Unit := do
  let nowMs ← callRss .clock
  let delayMs ← pollDelay adapter feed
  callRss (.setNextPollAt feed.id (nowMs + delayMs))

def isFeedDue (feed : FeedConfig) (nowMs : ℤ) : RssProgram Bool := do
  let nextPollAt ← callRss (.nextPollAt feed.id)
  pure (nextPollAt.all fun time => decide (time ≤ nowMs))

/-- The host that a feed's requests are spaced on, and by how much. -/
def requestWindow (feed : FeedConfig) : Option (String × ℕ) :=
  match feed.requestSpacingMs with
  | some (spacingMs + 1) => (adapter.scans.host feed.url).map fun host => (host, spacingMs + 1)
  | _ => none

/-- `if (delayMs > 0) await wait(delayMs)` -/
def waitAtLeast (delayMs : ℤ) : RssProgram Unit :=
  if 0 < delayMs then callRss (.wait delayMs) else pure ()

def waitForFeedRequestWindow (feed : FeedConfig) : RssProgram Unit :=
  match requestWindow adapter feed with
  | none => pure ()
  | some (host, spacingMs) => do
      let now ← callRss .clock
      let nextAllowedAt ← callRss (.nextRequestAt host)
      waitAtLeast (nextAllowedAt.getD now - now)
      let granted ← callRss .clock
      callRss (.setNextRequestAt host (granted + spacingMs))

/-! ## Items -/

/-- `item.guid ?? item.link ?? item.title`, where an empty string counts as missing. -/
def itemGuid (item : RssItem) : Option String :=
  ((item.guid.or item.link).or item.title).filter (· ≠ "")

/-- The items in front of the checkpoint, with their guids, and whether it was found. -/
def newItems (lastGuid : Option String) : List RssItem → List (RssItem × String) × Bool
  | [] => ([], lastGuid.getD "" = "")
  | item :: rest =>
      match itemGuid item with
      | none => newItems lastGuid rest
      | some guid =>
          if some guid = lastGuid then ([], true)
          else
            let (later, found) := newItems lastGuid rest
            ((item, guid) :: later, found)

/-- All of the new items, or the first ten when the checkpoint is not in the feed. -/
def itemsToProcess (lastGuid : Option String) (items : List RssItem) : List (RssItem × String) :=
  let (fresh, foundCheckpoint) := newItems lastGuid items
  if foundCheckpoint then fresh else fresh.take 10

def parseDate (value : Option String) : Option String :=
  (value.filter (· ≠ "")).bind adapter.functions.isoFromString

/-- An entry that is left out where the value is absent or empty. -/
def metaEntry (key : String) (value : Option String) : List (String × Json) :=
  match value.filter (· ≠ "") with
  | some value => [(key, .string value)]
  | none => []

/-- `sourceMeta[key] = value` where there is one. -/
def assign (key : String) (value : Option String) (sourceMeta : List (String × Json)) :
    List (String × Json) :=
  match value.filter (· ≠ "") with
  | some value => Js.Map.set key (.string value) sourceMeta
  | none => sourceMeta

/-- `EdgarMetaResult`; `none` where the filing is not kept. -/
def buildEdgarMetadata (feed : FeedConfig) (item : RssItem) (title text : String) :
    RssProgram (Option (List (String × Json))) :=
  let formType := adapter.scans.extractEdgarFormType
    [some title, some text, item.contentSnippet, item.content, item.summary]
  match formType.filter (· ∈ adapter.edgarFormsAllowlist) with
  | none => pure none
  | some formType => do
      let accessionNumber := adapter.scans.extractAccessionNumber
        [item.guid, item.link, some title, some text]
      let cik := feed.cik.or (adapter.scans.extractCik [item.guid, item.link, some title, some text])
      let filed := parseDate adapter (item.pubDate.or item.isoDate)
      let sourceMeta := [("form_type", .string formType)] ++ metaEntry "cik" cik ++
        metaEntry "accession_number" accessionNumber ++ metaEntry "filing_detail_url" item.link ++
        metaEntry "filed_date" (filed.map fun date => String.ofList (date.toList.take 10))
      if adapter.edgarFetchDetailMetadata && !falsy item.link then do
        let detail ← (callRss (.fetchEdgarDetailMetadata (item.link.getD ""))).tryCatch
          fun (_ : Completion) => pure none
        pure (some (match detail with
          | none => sourceMeta
          | some detail =>
              assign "primary_document_name" detail.primaryDocumentName
                (assign "accepted_at" detail.acceptedAt
                  (assign "filed_date" detail.filedDate sourceMeta))))
      else pure (some sourceMeta)

structure MarketPolicy where
  marketProfiles : List String
  matchReasons : List String

/-- `applyMarketPolicy`; `none` where the item is not kept. -/
def applyMarketPolicy (feed : FeedConfig) (content : String) : Option MarketPolicy :=
  if feed.marketGate then
    let evaluation :=
      MarketFilters.evaluateMarketFilters adapter.filters content adapter.marketFilterProfiles
    if evaluation.marketProfiles = [] then none
    else
      match inferSignalTier adapter feed with
      | .lowVolume => some ⟨evaluation.marketProfiles, evaluation.matchReasons⟩
      | .highVolume =>
          let matchedTerms := MarketFilters.matchEntityTerms adapter.filters content
            (dedupeEntityTerms adapter (feed.entityTerms.getD [] ++ watchlistEntityTerms adapter))
          if matchedTerms = [] then none
          else some ⟨evaluation.marketProfiles,
            evaluation.matchReasons ++ matchedTerms.map ("entity:" ++ ·)⟩
  else some ⟨[], []⟩

def feedSourceMeta (feed : FeedConfig) (guid : String) : List (String × Json) :=
  [("feed_name", .string feed.name), ("feed_url", .string feed.url)] ++
    (match feed.category with
      | some category => [("category", .string category)]
      | none => []) ++
    [("guid", .string guid), ("source_type", .string (feed.sourceType.getD "rss")),
      ("signal_tier", .string (signalTierName (inferSignalTier adapter feed))),
      ("feed_priority", .number (.finite feed.priority))] ++
    (match feed.topics with
      | some (topic :: topics) =>
          [("feed_topics_declared", .array ((topic :: topics).map .string))]
      | _ => [])

def marketSourceMeta (policy : MarketPolicy) : List (String × Json) :=
  if policy.marketProfiles ≠ [] then
    [("market_profiles", .array (policy.marketProfiles.map .string)),
      ("match_reasons", .array (policy.matchReasons.map .string))]
  else []

/-- The content of an item that is kept. -/
def itemContent (feed : FeedConfig) (item : RssItem) (guid text fetchedAt : String)
    (sourceMeta : List (String × Json)) (policy : MarketPolicy) : CollectedContent :=
  let title := item.title.getD ""
  createCollectedContent {
    eventId := "rss:" ++ adapter.functions.hashString feed.url ++ ":" ++
      adapter.functions.hashString guid
    source := .canonical .rss
    fetchedAt
    publishedAt := parseDate adapter (item.pubDate.or item.isoDate)
    url := item.link
    title := some title
    text
    tags := if policy.marketProfiles ≠ [] then
      some (policy.marketProfiles.map fun profile => some ("market." ++ profile)) else none
    author := (item.creator.filter (· ≠ "")).map fun creator => { displayName := some creator }
    extracted := some (extractedOf adapter.functions (title ++ " " ++ text))
    sourceMeta := some (sourceMeta ++ marketSourceMeta policy) }

def checkpointKey (feed : FeedConfig) : String := "last_guid_" ++ feed.id

/-- What the feed says of an item beside its market: nothing more unless it is from EDGAR. -/
def edgarSourceMeta (feed : FeedConfig) (item : RssItem) (guid text : String) :
    RssProgram (Option (List (String × Json))) :=
  if isEdgar feed then do
    let edgarMeta ← buildEdgarMetadata adapter feed item (item.title.getD "") text
    pure (edgarMeta.map fun sourceMeta => feedSourceMeta adapter feed guid ++ sourceMeta)
  else pure (some (feedSourceMeta adapter feed guid))

/-- `item.contentSnippet ?? item.content ?? item.summary ?? ""` -/
def itemSnippet (item : RssItem) : String :=
  ((item.contentSnippet.or item.content).or item.summary).getD ""

/-- The body of the loop over the items. -/
def processItem (feed : FeedConfig) (item : RssItem) (guid : String) : RssProgram Unit := do
  let text ← ((adapter.enrichment.enrich (itemSnippet item) item.link minRssContentLength).embed
    enrichmentEmbedding).mapError .thrown
  let sourceMeta ← edgarSourceMeta adapter feed item guid text
  match sourceMeta, applyMarketPolicy adapter feed (Js.trim (item.title.getD "" ++ " " ++ text)) with
  | some sourceMeta, some policy => do
      let fetchedAt ← callRss .now
      yieldRecord (createCollectorSourceRecord {
        content := itemContent adapter feed item guid text fetchedAt sourceMeta policy
        checkpointKey := checkpointKey feed
        checkpointValue := guid })
  | _, _ => pure ()

def processItems (feed : FeedConfig) : List (RssItem × String) → RssProgram Unit
  | [] => pure ()
  | (item, guid) :: rest => do
      processItem adapter feed item guid
      processItems feed rest

/-! ## Polls -/

/-- The request of a feed; an error is reported and thrown on. -/
def requestFeed (feed : FeedConfig) : RssProgram (Option (List RssItem)) :=
  (do
    waitForFeedRequestWindow adapter feed
    callRss (.parseURL feed)).tryCatch fun (error : Completion) => do
      ignoringErrors (callRss (.onFeedError feed))
      Program.throw error

def fetchFeed (feed : FeedConfig) : RssProgram Unit := do
  let lastGuid ← callRss (.getCheckpoint rss.name (checkpointKey feed))
  let parsedFeed ← requestFeed adapter feed
  let items := parsedFeed.getD []
  ignoringErrors (callRss (.onFeedSuccess feed items.length))
  processItems adapter feed (itemsToProcess lastGuid items).reverse

/-- `try { yield* fetchFeed } catch {} finally { scheduleNextPoll }`: whether the feed failed. -/
def attemptFeed (feed : FeedConfig) : RssProgram Bool :=
  (fetchFeed adapter feed).settle fun outcome => do
    scheduleNextPoll adapter feed
    match outcome with
    | .ok () => pure false
    | .error (.thrown _) => pure true
    | .error .returned => Program.throw .returned

/-- The loop over the feeds; it counts the feeds attempted and the feeds that failed. -/
def fetchFeeds (nowMs : ℤ) : List FeedConfig → ℕ → ℕ → RssProgram (ℕ × ℕ)
  | [], attempted, failed => pure (attempted, failed)
  | feed :: feeds, attempted, failed => do
      let due ← isFeedDue feed nowMs
      if due then do
        let failure ← attemptFeed adapter feed
        fetchFeeds nowMs feeds (attempted + 1) (if failure then failed + 1 else failed)
      else fetchFeeds nowMs feeds attempted failed

/-- `RSSAdapter.fetch` -/
def fetch : RssProgram Unit := do
  let nowMs ← callRss .clock
  let (attempted, failed) ← fetchFeeds adapter nowMs adapter.feeds 0 0
  if 0 < attempted ∧ failed = attempted then
    Program.throw (.thrown "All configured RSS feeds failed during poll cycle")
  else pure ()

/-- `RSSAdapter.initialize` -/
def initialize_ : List FeedConfig → ℤ → RssProgram Unit
  | [], _ => pure ()
  | feed :: feeds, now => do
      callRss (.setNextPollAt feed.id now)
      initialize_ feeds now

/-- One poll after another, however each of them ends. -/
def polls : ℕ → RssProgram Unit
  | 0 => pure ()
  | count + 1 => (fetch adapter).settle fun _ => polls count

/-- The adapter from its initialisation on. -/
def run (count : ℕ) : RssProgram Unit := do
  let now ← callRss .clock
  initialize_ adapter.feeds now
  polls adapter count

end RisingIntelligence.Collector.Rss
