import RisingIntelligence.Shared.Message

/-!
# Canonical sources

The source tables of `packages/pipeline/src/source.ts`.  The alias table is an object literal,
so a source named like a property of `Object.prototype` is not rejected but becomes whatever
is inherited under that name.
-/

namespace RisingIntelligence

inductive CanonicalSource : Type
  | rss
  | news
  | hackernews
  | reddit
  | github
  | bluesky
  | mastodon
  deriving DecidableEq

def CanonicalSource.name : CanonicalSource → String
  | .rss => "rss"
  | .news => "news"
  | .hackernews => "hackernews"
  | .reddit => "reddit"
  | .github => "github"
  | .bluesky => "bluesky"
  | .mastodon => "mastodon"

/-- `SOURCE_ENUM_TO_KEY` -/
def sourceEnumToKey : List (Int × CanonicalSource) :=
  [(1, .rss), (2, .news), (3, .hackernews), (4, .reddit), (5, .github), (7, .bluesky),
    (8, .mastodon)]

/-- `SOURCE_KEY_TO_ENUM` -/
def sourceKeyToEnum (source : CanonicalSource) : Int :=
  ((sourceEnumToKey.find? (·.2 = source)).map (·.1)).getD 0

/-- `SOURCE_ALIAS_TO_KEY` -/
def sourceAliasToKey : List (String × CanonicalSource) :=
  [("source_rss", .rss), ("rss", .rss), ("source_news", .news), ("news", .news),
    ("lobsters", .news), ("source_hackernews", .hackernews), ("hackernews", .hackernews),
    ("hacker_news", .hackernews), ("source_reddit", .reddit), ("reddit", .reddit),
    ("source_github", .github), ("github", .github), ("source_bluesky", .bluesky),
    ("bluesky", .bluesky), ("source_mastodon", .mastodon), ("mastodon", .mastodon)]

inductive SourceError : Type
  | unsupportedEnum (source : Int)
  | unsupportedValue (value : String)

/-- A number is no name of `Object.prototype`. -/
def parseSourceNumber (source : Int) : Except SourceError (Js.Keyed CanonicalSource) :=
  match sourceEnumToKey.lookup source with
  | some parsed => .ok (.own parsed)
  | none => .error (.unsupportedEnum source)

/-- `parseCanonicalSource`, with the case folding of the runtime. -/
def parseCanonicalSource (toLowerCase : String → String) :
    Int ⊕ String → Except SourceError (Js.Keyed CanonicalSource)
  | .inl source => parseSourceNumber source
  | .inr value =>
      let trimmed := Js.trim value
      match (Js.parseInt10 trimmed).filter fun asNumber => toString asNumber = trimmed with
      | some asNumber => parseSourceNumber asNumber
      | none =>
          match Js.lookup sourceAliasToKey (toLowerCase trimmed) with
          | some parsed => .ok parsed
          | none => .error (.unsupportedValue value)

theorem parseSourceNumber_sourceKeyToEnum (source : CanonicalSource) :
    parseSourceNumber (sourceKeyToEnum source) = .ok (.own source) := by
  cases source <;> rfl

/-- The name of a source is parsed to the source. -/
theorem parseCanonicalSource_of_name {toLowerCase : String → String} (source : CanonicalSource)
    (lower : toLowerCase source.name = source.name) :
    parseCanonicalSource toLowerCase (.inr source.name) = .ok (.own source) := by
  have unpadded : Js.trim source.name = source.name := by
    cases source <;> decide
  have noNumber : Js.parseInt10 source.name = none := by
    cases source <;> decide
  have known : Js.lookup sourceAliasToKey source.name = some (.own source) := by
    cases source <;> decide
  simp only [parseCanonicalSource, unpadded, noNumber, Option.filter_none, lower, known]

theorem parseCanonicalSource_name {api : Js.MessageApi} (lower : api.KeepsLowerCase)
    (source : CanonicalSource) :
    parseCanonicalSource api.toLowerCase (.inr source.name) = .ok (.own source) := by
  apply parseCanonicalSource_of_name
  apply lower
  cases source <;> exact Js.forall_mem_of_all (by decide)

end RisingIntelligence
