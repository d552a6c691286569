import RisingIntelligence.Collector.AdapterApi

/-!
# The Hacker News adapter, new stories

`HackerNewsAdapter.fetch` of `apps/collector/src/adapters/hackernews.ts` in `new` mode.  Story
ids above the checkpoint are processed oldest first; the cursor that is yielded with a record
stops advancing at the first story that throws.
-/

namespace RisingIntelligence.Collector.HackerNews

open Async

def hackerNews : Adapter := ⟨"hackernews", "hackernews"⟩

/-- `getCheckpointKey("new")` -/
def checkpointKey : String := "last_max_id_new"

def minTextLength : Nat := 1

structure Settings where
  maxItems : Int
  enrichment : TextEnrichmentStrategy
  functions : ContentFunctions

/-- An absent or empty value, one without a leading number and a negative one all count as 0. -/
def parseCheckpointValue (value : Option String) : Int :=
  match Js.parseInt10 (value.getD "") with
  | some parsed => if parsed < 0 then 0 else parsed
  | none => 0

def dedupeStoryIds (storyIds : List Int) : List Int := Js.distinct storyIds

def selectStoryIdsForNewMode (storyIds : List Int) (maxItems lastMaxId : Int) : List Int :=
  Js.sliceTo
    (((dedupeStoryIds storyIds).filter fun storyId => lastMaxId < storyId).mergeSort (· ≤ ·)) maxItems

/-- `CheckpointProgressState` of the new mode. -/
structure CheckpointProgressState where
  cursor : Int
  blocked : Bool

def onStoryProcessed (state : CheckpointProgressState) (storyId : Int) : CheckpointProgressState :=
  if state.blocked then state else { state with cursor := storyId }

def onStoryFetchFailure (state : CheckpointProgressState) : CheckpointProgressState :=
  { state with blocked := true }

variable (settings : Settings)

/-- `publishedAt` of an item; a time out of range throws. -/
def publishedAtOf (item : HNItem) : AdapterProgram (Option String) :=
  match item.time.filter (· ≠ 0) with
  | none => pure none
  | some seconds =>
      match settings.functions.isoFromSeconds seconds with
      | some date => pure (some date)
      | none => Program.throw "Invalid time value"

/-- `null` for an item whose id is 0. -/
def itemToCollectedContent (item : HNItem) : AdapterProgram (Option CollectedContent) :=
  if item.id = 0 then pure none
  else do
    let title := item.title.getD ""
    let enriched ← settings.enrichment.enrich (item.text.getD "") item.url minTextLength
    let text := if enriched = "" then item.url.getD enriched else enriched
    let combinedText := title ++ " " ++ text
    let fetchedAt ← callApi .now
    let publishedAt ← publishedAtOf settings item
    pure (some (createCollectedContent {
      eventId := "hn:" ++ toString item.id
      source := .canonical .hackernews
      fetchedAt
      publishedAt
      url := some (item.url.getD ("https://news.ycombinator.com/item?id=" ++ toString item.id))
      title := some title
      text
      author := authorOf item.author
      engagement := some {
        score := some (.number (.finite (item.score.getD 0)))
        comments := some (.number (.finite (item.descendants.getD 0))) }
      extracted := some (extractedOf settings.functions combinedText)
      sourceMeta := some [("hn_id", .number (.finite item.id)), ("hn_type", .string item.type),
        ("mode", .string "new")] }))

/-- What became of a story that was fetched without error. -/
inductive StoryOutcome : Type
  | noStory
  | processed (content : Option CollectedContent)

/-- The item decides: a missing one and one of another type are no story. -/
def storyOf (item : Option HNItem) : AdapterProgram StoryOutcome :=
  match item with
  | none => pure .noStory
  | some item =>
      if item.type ≠ "story" then pure .noStory
      else do
        let content ← itemToCollectedContent settings item
        pure (.processed content)

/-- The awaited part of the `try` block for one id. -/
def fetchStory (storyId : Int) : AdapterProgram StoryOutcome := do
  let item ← callApi (.fetchItem storyId)
  storyOf settings item

/-- How the loop over the ids goes on: with `continue`, or at the end of its body. -/
inductive BodyEnd : Type
  | skip (state : CheckpointProgressState)
  | finish (state : CheckpointProgressState)

/-- The `try` statement for one id.  The `yield` stands inside, but what the consumer does with
the record is no error of the generator. -/
def tryStory (storyId : Int) (state : CheckpointProgressState) : AdapterGenerator BodyEnd :=
  Generator.tryCatch
    (do
      let outcome ← Generator.ofProgram (fetchStory settings storyId)
      match outcome with
      | .noStory => pure (.skip (onStoryProcessed state storyId))
      | .processed none => pure (.finish (onStoryProcessed state storyId))
      | .processed (some content) => do
          Generator.emit (createCollectorSourceRecord {
            content
            checkpointKey
            checkpointValue := toString (onStoryProcessed state storyId).cursor })
          pure (.finish (onStoryProcessed state storyId)))
    fun _ => pure (.finish (onStoryFetchFailure state))

def delayBetweenStoryRequests : AdapterGenerator Unit := awaitCall (.api .delay)

def processStories : List Int → CheckpointProgressState → AdapterGenerator Unit
  | [], _ => pure ()
  | storyId :: rest, state => do
      match ← tryStory settings storyId state with
      | .skip state' => processStories rest state'
      | .finish state' => do
          delayBetweenStoryRequests
          processStories rest state'

/-- `HackerNewsAdapter.fetch` in `new` mode -/
def fetch : AdapterGenerator Unit := do
  let stored ← awaitCall (.getCheckpoint hackerNews.name checkpointKey)
  let lastMaxId := parseCheckpointValue stored
  let storyIds ← awaitCall (.api (.fetchStoryIds "new"))
  processStories settings (selectStoryIdsForNewMode storyIds settings.maxItems lastMaxId)
    ⟨lastMaxId, false⟩

/-- One poll of the adapter through `runAdapter`. -/
def poll : AdapterProgram Nat := pollAdapter hackerNews (fetch settings)

end RisingIntelligence.Collector.HackerNews
