import RisingIntelligence.Async.Loop
import RisingIntelligence.OpsCli.FeedConfig
import RisingIntelligence.Pipeline.RawEventEnrichment
import RisingIntelligence.Shared.Keyset
import RisingIntelligence.Topics.Extraction

/-!
# Backfills of stored events

`riops topics retag` and `riops events enrich`
(`packages/ops-cli/src/commands/topics/retag.ts`, `commands/events/enrich.ts`): both go through
`raw_events` page by page in the order of the ids, look at each row and update what has changed.

* `backfill` is the loop that the two commands share; a `Backfill` is what one does with a row.
* The loop goes round until a page is empty; it is cut off after any number of pages.
* What is printed at the end is returned; the texts are left out.
-/

namespace RisingIntelligence.OpsCli

open Async
open Enrichment (EnrichmentApi SourceMeta prepareRawEventForPersistence)
open Js (Json)
open Topics (CompiledAllowlist StringApi TypeError extractTopics)

/-! ## The table -/

/-- A row of `raw_events`; times are in milliseconds. -/
structure RawEventRow where
  id : ℤ
  eventId : String
  source : CanonicalSource
  fetchedAt : Int
  publishedAt : Option Int
  url : Option String
  title : Option String
  text : String
  authorId : Option String
  authorHandle : Option String
  authorDisplayName : Option String
  engagementScore : Option Int
  engagementComments : Option Int
  engagementLikes : Option Int
  engagementShares : Option Int
  lang : Option String
  tags : List String
  topics : List String
  extractedHashtags : List String
  extractedUrls : List String
  sourceMeta : Option Json

/-- `Prisma.RawEventUpdateInput`, `none` where a column is not written. -/
@[ext]
structure RawEventUpdateInput where
  tags : Option (List String) := none
  topics : Option (List String) := none
  url : Option (Option String) := none
  text : Option String := none
  lang : Option (Option String) := none
  sourceMeta : Option Json := none

/-- What the database makes of a row. -/
def RawEventUpdateInput.apply (data : RawEventUpdateInput) (row : RawEventRow) : RawEventRow :=
  { row with
    tags := data.tags.getD row.tags
    topics := data.topics.getD row.topics
    url := data.url.getD row.url
    text := data.text.getD row.text
    lang := data.lang.getD row.lang
    sourceMeta := data.sourceMeta.or row.sourceMeta }

@[simp] theorem RawEventUpdateInput.id_apply (data : RawEventUpdateInput) (row : RawEventRow) :
    (data.apply row).id = row.id :=
  rfl

/-- `Prisma.RawEventWhereInput` as the commands build it. -/
structure RawEventWhereInput where
  /-- `OR: [{ topics: { isEmpty: true } }, { tags: { isEmpty: true } }]` -/
  missing : Bool
  source : Option CanonicalSource

def RawEventWhereInput.test (filter : RawEventWhereInput) (row : RawEventRow) : Bool :=
  (!filter.missing || row.topics.isEmpty || row.tags.isEmpty) &&
    filter.source.all (· = row.source)

abbrev RawEventTable : Type := KeyedTable RawEventRow.id

/-! ## Flags -/

inductive CliError : Type
  | invalidInteger (flagName rawValue : String)
  | negative (flagName : String) (parsed : Int)
  | notPositive (flagName : String) (parsed : Int)
  | invalidSource (rawValue : String)
  | noSteps
  | invalidStep (step : String)
  | allowlistNotFound (path : String)
  | databaseUrl (message : String)
  | allowlist (message : String)

/-- `/^-?\d+$/` -/
def isInteger (value : String) : Bool :=
  let digits := match value.toList with
    | '-' :: rest => rest
    | rest => rest
  !digits.isEmpty && digits.all Char.isDigit

def parseIntegerStrict (rawValue flagName : String) : Except CliError Int :=
  let normalized := Js.trim rawValue
  match (Js.parseInt10 normalized).filter fun parsed =>
      isInteger normalized && decide (parsed.natAbs < 2 ^ 53) with
  | some parsed => .ok parsed
  | none => .error (.invalidInteger flagName rawValue)

def parseNonNegativeIntegerStrict (rawValue flagName : String) : Except CliError ℕ := do
  let parsed ← parseIntegerStrict rawValue flagName
  if parsed < 0 then .error (.negative flagName parsed) else .ok parsed.toNat

def parsePositiveIntegerStrict (rawValue flagName : String) : Except CliError { n : ℕ // 0 < n } := do
  let parsed ← parseIntegerStrict rawValue flagName
  if positive : 0 < parsed.toNat then .ok ⟨parsed.toNat, positive⟩
  else .error (.notPositive flagName parsed)

/-- `flag ? parse(flag) : undefined`; an empty text is false. -/
def parseGiven {α : Type} (flags : CliFlags) (name : String)
    (parse : String → String → Except CliError α) : Except CliError (Option α) :=
  match (getStringFlag flags name).filter (· ≠ "") with
  | none => .ok none
  | some rawValue => (parse rawValue ("--" ++ name)).map some

/-- What the commands use of the process they run in. -/
structure BackfillRuntime where
  enrichment : EnrichmentApi
  strings : StringApi
  /-- `resolveTopicsDatabaseUrl` -/
  databaseUrl : CliFlags → Except String String
  existsSync : String → Bool
  resolve : String → String
  /-- `DEFAULT_ALLOWLIST_CANDIDATES` -/
  repoAllowlist : String
  cwdAllowlist : String
  loadAllowlist : String → Except String CompiledAllowlist

variable (runtime : BackfillRuntime)

def resolveAllowlistPath (rawPath : Option String) : String :=
  match rawPath.filter fun path => Js.trim path ≠ "" with
  | some path => runtime.resolve path
  | none =>
      ([runtime.repoAllowlist, runtime.cwdAllowlist].find? runtime.existsSync).getD
        runtime.repoAllowlist

/-- `Object.values(Source)` -/
def sourceValues : List CanonicalSource :=
  [.rss, .news, .hackernews, .reddit, .github, .bluesky, .mastodon]

def parseSourceFlag (rawValue : Option String) : Except CliError (Option CanonicalSource) :=
  let normalized := runtime.strings.toLowerCase (Js.trim (rawValue.getD ""))
  if rawValue.getD "" = "" ∨ normalized = "" then .ok none
  else
    match sourceValues.find? (·.name = normalized) with
    | some source => .ok (some source)
    | none => .error (.invalidSource (rawValue.getD ""))

def readAllowlist (allowlistPath : String) : Except CliError CompiledAllowlist :=
  if !runtime.existsSync allowlistPath then .error (.allowlistNotFound allowlistPath)
  else (runtime.loadAllowlist allowlistPath).mapError .allowlist

/-! ## The loop -/

structure BackfillOptions where
  filter : RawEventWhereInput
  dryRun : Bool
  limit : Option ℕ
  batchSize : ℕ
  batchSize_pos : 0 < batchSize

def DEFAULT_BATCH_SIZE : ℕ := 200

theorem DEFAULT_BATCH_SIZE_pos : 0 < DEFAULT_BATCH_SIZE := Nat.succ_pos 199

def DEFAULT_PREVIEW_LIMIT : ℕ := 20

/-- `--limit` and `--batch-size` -/
def backfillOptions (flags : CliFlags) (filter : RawEventWhereInput) : Except CliError BackfillOptions := do
  let limit ← parseGiven flags "limit" parseNonNegativeIntegerStrict
  let batchSize ← parseGiven flags "batch-size" parsePositiveIntegerStrict
  let size := batchSize.getD ⟨DEFAULT_BATCH_SIZE, DEFAULT_BATCH_SIZE_pos⟩
  .ok {
    filter
    dryRun := getBooleanFlag flags "dry-run"
    limit
    batchSize := size.1
    batchSize_pos := size.2 }

inductive BackfillCall : Type
  | findMany (filter : RawEventWhereInput) (cursorId : Option ℤ) (take : ℕ)
  | transaction (updates : List (ℤ × RawEventUpdateInput))
  | disconnect

@[reducible] def BackfillCall.Reply : BackfillCall → Type
  | .findMany _ _ _ => List RawEventRow
  | _ => Unit

inductive BackfillError : Type
  | cli (error : CliError)
  | type (error : TypeError)
  | database (message : String)

abbrev backfilling : Interface where
  Call := BackfillCall
  Reply := BackfillCall.Reply
  Error := String

abbrev BackfillProgram (α : Type) : Type := Program backfilling BackfillError α

def callBackfill (c : BackfillCall) : BackfillProgram c.Reply :=
  (Program.call (I := backfilling) c).mapError .database

/-- What a command does with a row: what it finds out, how that is counted, and what it updates. -/
structure Backfill (σ τ : Type) where
  examine : RawEventRow → Except TypeError τ
  count : RawEventRow → τ → σ → σ
  update : RawEventRow → τ → Option RawEventUpdateInput

/-- The variables of the loop. -/
structure BackfillState (σ : Type) where
  cursorId : Option ℤ := none
  remaining : Option ℕ
  scanned : ℕ := 0
  updated : ℕ := 0
  report : σ

section Loop

variable {σ τ : Type} (command : Backfill σ τ) (options : BackfillOptions)

/-- The rows of a page: the report, and the updates that are due. -/
def examineRows : List RawEventRow → σ → Except TypeError (σ × List (ℤ × RawEventUpdateInput))
  | [], report => .ok (report, [])
  | row :: rows, report => do
      let found ← command.examine row
      let (report, updates) ← examineRows rows (command.count row found report)
      .ok (report, (command.update row found).toList.map (row.id, ·) ++ updates)

/-- The updates are only collected where the run is no dry one. -/
def saveUpdates (updates : List (ℤ × RawEventUpdateInput)) : BackfillProgram ℕ :=
  if options.dryRun || updates.isEmpty then pure 0
  else do
    callBackfill (.transaction updates)
    pure updates.length

def backfillPage (state : BackfillState σ) :
    BackfillProgram (Turn (BackfillState σ) (BackfillState σ)) :=
  if state.remaining = some 0 then pure (.leave state)
  else do
    let take := (state.remaining.map (min options.batchSize)).getD options.batchSize
    let events ← callBackfill (.findMany options.filter state.cursorId take)
    match events.getLast? with
    | none => pure (.leave state)
    | some last =>
        match examineRows command events state.report with
        | .error error => Program.throw (.type error)
        | .ok (report, updates) => do
            let saved ← saveUpdates options updates
            pure (.again {
              cursorId := some last.id
              remaining := state.remaining.map (· - events.length)
              scanned := state.scanned + events.length
              updated := state.updated + saved
              report })

/-- `try { p } finally { await prisma.$disconnect(); }` -/
def disconnecting {α : Type} (p : BackfillProgram α) : BackfillProgram α :=
  p.settle fun outcome => callBackfill .disconnect >>= fun _ => .done outcome

/-- The whole run; `none` where it was cut off. -/
def backfill (start : σ) (pages : ℕ) : BackfillProgram (Option (BackfillState σ)) :=
  disconnecting (Program.loop (backfillPage command options) pages
    { remaining := options.limit, report := start })

end Loop

/-! ## Topics -/

namespace Retag

structure RetagPreviewRow where
  eventId : String
  source : CanonicalSource
  previousTopics : List String
  nextTopics : List String

/-- The counts of `RetagStats` beside `scanned`, and the rows of the preview. -/
structure RetagStats where
  changed : ℕ := 0
  unchanged : ℕ := 0
  retaggedFromEmpty : ℕ := 0
  retaggedToEmpty : ℕ := 0
  retaggedChangedNonEmpty : ℕ := 0
  syncedTagsOnly : ℕ := 0
  previewRows : List RetagPreviewRow := []

def buildWhereClause (retagAll : Bool) (source : Option CanonicalSource) : RawEventWhereInput where
  missing := !retagAll
  source

/-- The kind of a change. -/
def countChange (event : RawEventRow) (nextTopics : List String) (stats : RetagStats) : RetagStats :=
  if event.topics = nextTopics ∧ event.tags ≠ nextTopics then
    { stats with syncedTagsOnly := stats.syncedTagsOnly + 1 }
  else if event.topics = [] ∧ nextTopics ≠ [] then
    { stats with retaggedFromEmpty := stats.retaggedFromEmpty + 1 }
  else if event.topics ≠ [] ∧ nextTopics = [] then
    { stats with retaggedToEmpty := stats.retaggedToEmpty + 1 }
  else { stats with retaggedChangedNonEmpty := stats.retaggedChangedNonEmpty + 1 }

def preview (event : RawEventRow) (nextTopics : List String) (stats : RetagStats) : RetagStats :=
  if stats.previewRows.length < DEFAULT_PREVIEW_LIMIT then
    { stats with
      previewRows := stats.previewRows ++ [{
        eventId := event.eventId
        source := event.source
        previousTopics := event.topics
        nextTopics }] }
  else stats

/-- The body of the loop over a page. -/
def command (allowlist : CompiledAllowlist) : Backfill RetagStats (List String) where
  examine event :=
    extractTopics runtime.strings { title := event.title, text := event.text, url := event.url }
      allowlist
  count event nextTopics stats :=
    if event.topics = nextTopics ∧ event.tags = nextTopics then
      { stats with unchanged := stats.unchanged + 1 }
    else
      preview event nextTopics
        (countChange event nextTopics { stats with changed := stats.changed + 1 })
  update event nextTopics :=
    if event.topics = nextTopics ∧ event.tags = nextTopics then none
    else some { topics := some nextTopics, tags := some nextTopics }

/-- What `topicsRetag` settles before it opens the database. -/
def settings (flags : CliFlags) : Except CliError (BackfillOptions × CompiledAllowlist) := do
  let _ ← (runtime.databaseUrl flags).mapError .databaseUrl
  let allowlistPath := resolveAllowlistPath runtime (getStringFlag flags "allowlist-path")
  let source ← parseSourceFlag runtime (getStringFlag flags "source")
  let options ← backfillOptions flags (buildWhereClause (getBooleanFlag flags "all") source)
  let allowlist ← readAllowlist runtime allowlistPath
  .ok (options, allowlist)

end Retag

def topicsRetag (flags : CliFlags) (pages : ℕ) :
    BackfillProgram (Option (BackfillState Retag.RetagStats)) :=
  match Retag.settings runtime flags with
  | .error error => Program.throw (.cli error)
  | .ok (options, allowlist) => backfill (Retag.command runtime allowlist) options {} pages

end RisingIntelligence.OpsCli
