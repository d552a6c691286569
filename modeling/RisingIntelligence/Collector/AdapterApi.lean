import RisingIntelligence.Collector.PollAdapter
import RisingIntelligence.Collector.Types

/-!
# What the source adapters call

The calls of the Hacker News and Lobsters adapters, the text enrichment they share
(`adapters/text-enrichment-strategy.ts`) and the pure functions of other packages that they
build content with.
-/

namespace RisingIntelligence.Collector

open Async

/-- An item of the Hacker News API; missing fields and `null` are both `none`. -/
structure HNItem where
  id : Int
  type : String
  author : Option String := none
  time : Option ℚ := none
  title : Option String := none
  text : Option String := none
  url : Option String := none
  score : Option ℚ := none
  descendants : Option ℚ := none

/-- An item of an RSS feed, as the parser returns it. -/
structure FeedItem where
  guid : Option String := none
  link : Option String := none
  title : Option String := none
  contentSnippet : Option String := none
  content : Option String := none
  categories : Option (List String) := none
  pubDate : Option String := none
  isoDate : Option String := none
  creator : Option String := none
  comments : Option String := none

structure ArticleContent where
  success : Bool
  text : String

inductive AdapterCall : Type
  | fetchStoryIds (mode : String)
  | fetchItem (storyId : Int)
  | parseURL (url : String)
  | fetchArticle (url : String)
  | now
  | delay

@[reducible] def AdapterCall.Reply : AdapterCall → Type
  | .fetchStoryIds _ => List Int
  | .fetchItem _ => Option HNItem
  | .parseURL _ => Option (List FeedItem)
  | .fetchArticle _ => Option ArticleContent
  | .now => String
  | .delay => Unit

/-- The adapters throw messages. -/
abbrev adapterApi : Interface where
  Call := AdapterCall
  Reply := AdapterCall.Reply
  Error := String

abbrev AdapterProgram (α : Type) : Type := PollProgram CollectedContent adapterApi α

abbrev AdapterGenerator (α : Type) : Type := RecordGenerator CollectedContent adapterApi α

abbrev AdapterEvent : Type := Event (polling CollectedContent adapterApi)

abbrev AdapterWorld : Type := PollWorld CollectedContent adapterApi

abbrev AdapterRecord : Type := CollectorIngestionRecord CollectedContent

def callApi (c : AdapterCall) : AdapterProgram c.Reply :=
  Program.call (I := polling CollectedContent adapterApi) (.api c)

def awaitCall (c : PollCall CollectedContent adapterApi) : AdapterGenerator c.Reply :=
  Generator.call (I := polling CollectedContent adapterApi) c

/-- The functions of the runtime and of the `pipeline` package that make up content. -/
structure ContentFunctions where
  extractUrls : String → List String
  extractHashtags : String → List String
  /-- CVE and GHSA identifiers. -/
  extractEntities : String → List String × List String
  hashString : String → String
  /-- `new Date(seconds * 1000).toISOString()`, `none` where it throws. -/
  isoFromSeconds : ℚ → Option String
  /-- `new Date(value).toISOString()` of a valid date. -/
  isoFromString : String → Option String

/-- `createTextEnrichmentStrategy`: article fetching is configured, or not. -/
inductive TextEnrichmentStrategy : Type
  | noop
  | articleFetch

/-- An absent or empty string. -/
def falsy (value : Option String) : Bool := value.getD "" = ""

def TextEnrichmentStrategy.enrich (strategy : TextEnrichmentStrategy) (text : String)
    (url : Option String) (minLength : Nat) : AdapterProgram String :=
  match strategy with
  | .noop => pure text
  | .articleFetch =>
      if falsy url || minLength ≤ Js.length text then pure text
      else do
        let article ← callApi (.fetchArticle (url.getD ""))
        match article with
        | some ⟨true, articleText⟩ => pure articleText
        | _ => pure text

/-- `extracted` of the content built from a text. -/
def extractedOf (functions : ContentFunctions) (combinedText : String) : Extracted (Option String) :=
  let (cves, ghsas) := functions.extractEntities combinedText
  { urls := some ((functions.extractUrls combinedText).map some)
    hashtags := some ((functions.extractHashtags combinedText).map some)
    entities :=
      if cves ≠ [] ∨ ghsas ≠ [] then some ⟨some (cves.map some), some (ghsas.map some)⟩ else none }

/-- `author` of the content, when the source names one. -/
def authorOf (name : Option String) : Option CollectedContentAuthor :=
  (name.filter (· ≠ "")).map fun name => { handle := some name, displayName := some name }

def createCollectorSourceRecord (record : AdapterRecord) : AdapterRecord :=
  { record with content := normalizeCollectorIngestionEvent record.content }

end RisingIntelligence.Collector
