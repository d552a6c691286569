import RisingIntelligence.OpsCli.BackfillLaw
import RisingIntelligence.Shared.JsonEquality

/-!
# Enriching stored events

`riops events enrich` (`packages/ops-cli/src/commands/events/enrich.ts`): a chain of steps over each
row, of which only the managed columns that differ in the end are updated.

* `carries_buildUpdateData`: the partial update makes of the row what writing all managed columns
  would.
* `eventsEnrich_law`: what holds of every run beside other writers.
-/

namespace RisingIntelligence.OpsCli.Enrich

open Async Program
open Enrichment (SourceMeta RawEventPersistencePrepared prepareRawEventForPersistence)
open Js (Json isDeepStrictEqual)
open Topics (CompiledAllowlist TypeError extractTopics)

/-! ## The event -/

structure EnrichMutableEvent extends RawEventPersistencePrepared CanonicalSource where
  id : ℤ

def toSourceMetaRecord : Option Json → Option SourceMeta
  | some (.object fields) => some fields
  | _ => none

/-- The column that a record is stored as. -/
def sourceMetaColumn (sourceMeta : Option SourceMeta) : Json := (sourceMeta.map .object).getD .null

def toMutableEvent (row : RawEventRow) : EnrichMutableEvent where
  id := row.id
  eventId := row.eventId
  source := row.source
  fetchedAt := row.fetchedAt
  publishedAt := row.publishedAt
  url := row.url
  title := row.title
  text := row.text
  authorId := row.authorId
  authorHandle := row.authorHandle
  authorDisplayName := row.authorDisplayName
  engagementScore := row.engagementScore
  engagementComments := row.engagementComments
  engagementLikes := row.engagementLikes
  engagementShares := row.engagementShares
  lang := row.lang
  tags := row.tags
  topics := row.topics
  extractedHashtags := row.extractedHashtags
  extractedUrls := row.extractedUrls
  sourceMeta := toSourceMetaRecord row.sourceMeta

/-! ## Managed columns -/

inductive ManagedFieldName : Type
  | tags
  | topics
  | url
  | text
  | lang
  | source_meta
  deriving DecidableEq

structure ManagedFieldChangeStrategy where
  name : ManagedFieldName
  hasChanged : EnrichMutableEvent → EnrichMutableEvent → Bool
  writeUpdate : RawEventUpdateInput → EnrichMutableEvent → RawEventUpdateInput

/-- A column that is compared by `stringArraysEqual` or `!==`, with how its value is written. -/
def plainColumn {α : Type} [DecidableEq α] (name : ManagedFieldName) (read : EnrichMutableEvent → α)
    (write : RawEventUpdateInput → α → RawEventUpdateInput) : ManagedFieldChangeStrategy where
  name
  hasChanged previous next := read previous ≠ read next
  writeUpdate data next := write data (read next)

def sourceMetaChanged (previous next : EnrichMutableEvent) : Bool :=
  !isDeepStrictEqual (sourceMetaColumn previous.sourceMeta) (sourceMetaColumn next.sourceMeta)

def MANAGED_FIELD_CHANGE_STRATEGIES : List ManagedFieldChangeStrategy :=
  [plainColumn .tags (·.tags) fun data value => { data with tags := some value },
    plainColumn .topics (·.topics) fun data value => { data with topics := some value },
    plainColumn .url (·.url) fun data value => { data with url := some value },
    plainColumn .text (·.text) fun data value => { data with text := some value },
    plainColumn .lang (·.lang) fun data value => { data with lang := some value },
    { name := .source_meta
      hasChanged := sourceMetaChanged
      writeUpdate := fun data next =>
        { data with sourceMeta := some (sourceMetaColumn next.sourceMeta) } }]

def collectManagedFieldChanges (previous next : EnrichMutableEvent) :
    List ManagedFieldChangeStrategy :=
  MANAGED_FIELD_CHANGE_STRATEGIES.filter fun strategy => strategy.hasChanged previous next

def diffManagedFields (changes : List ManagedFieldChangeStrategy) : List ManagedFieldName :=
  changes.map (·.name)

def buildUpdateData (next : EnrichMutableEvent) (changes : List ManagedFieldChangeStrategy) :
    Option RawEventUpdateInput :=
  if changes.isEmpty then none
  else some (changes.foldl (fun data change => change.writeUpdate data next) {})

/-! ## Steps -/

inductive EnrichStepName : Type
  | retag
  | quality
  deriving DecidableEq

def EnrichStepName.name : EnrichStepName → String
  | .retag => "retag"
  | .quality => "quality"

def DEFAULT_STEPS : List EnrichStepName := [.retag, .quality]

structure EnrichContext where
  allowlist : Option CompiledAllowlist

structure EnrichStep where
  name : EnrichStepName
  apply : EnrichMutableEvent → EnrichContext → Except TypeError EnrichMutableEvent

variable (runtime : BackfillRuntime)

def RETAG_STEP : EnrichStep where
  name := .retag
  apply event ctx :=
    match ctx.allowlist with
    | none => .ok event
    | some allowlist =>
        (extractTopics runtime.strings { title := event.title, text := event.text, url := event.url }
          allowlist).map fun nextTopics => { event with tags := nextTopics, topics := nextTopics }

def QUALITY_STEP : EnrichStep where
  name := .quality
  apply event _ :=
    let prepared :=
      prepareRawEventForPersistence runtime.enrichment event.toRawEventPersistenceInput
    .ok { toRawEventPersistencePrepared := prepared, id := event.id }

/-- `STEP_REGISTRY` -/
def stepRegistry : EnrichStepName → EnrichStep
  | .retag => RETAG_STEP runtime
  | .quality => QUALITY_STEP runtime

def buildStepPipeline (stepNames : List EnrichStepName) : List EnrichStep :=
  stepNames.map (stepRegistry runtime)

def parseStep (step : String) : Except CliError EnrichStepName :=
  match DEFAULT_STEPS.find? (·.name = step) with
  | some name => .ok name
  | none => .error (.invalidStep step)

def parseEnrichSteps (rawSteps : Option String) : Except CliError (List EnrichStepName) :=
  match rawSteps.filter fun rawSteps => Js.trim rawSteps ≠ "" with
  | none => .ok DEFAULT_STEPS
  | some rawSteps =>
      let parsed := ((Js.split ',' rawSteps).map fun step =>
        runtime.strings.toLowerCase (Js.trim step)).filter (· ≠ "")
      if parsed = [] then .error .noSteps else (parsed.mapM parseStep).map Js.distinct

/-- The loop over the steps: the event in the end, and the steps that changed it. -/
def runSteps (ctx : EnrichContext) :
    List EnrichStep → EnrichMutableEvent → Except TypeError (EnrichMutableEvent × List EnrichStepName)
  | [], event => .ok (event, [])
  | step :: steps, event => do
      let stepResult ← step.apply event ctx
      let (transformedEvent, stepChanges) ← runSteps ctx steps stepResult
      .ok (transformedEvent, if (collectManagedFieldChanges event stepResult).isEmpty then stepChanges
        else step.name :: stepChanges)

/-! ## The command -/

structure EnrichPreviewRow where
  eventId : String
  source : CanonicalSource
  stepChanges : List EnrichStepName
  changedFields : List ManagedFieldName
  previousTopics : List String
  nextTopics : List String

/-- The counts of `EnrichStats` beside `scanned`, and the rows of the preview. -/
structure EnrichStats where
  changed : ℕ := 0
  unchanged : ℕ := 0
  retagStepChanged : ℕ := 0
  qualityStepChanged : ℕ := 0
  previewRows : List EnrichPreviewRow := []

structure EnrichOutcome where
  transformedEvent : EnrichMutableEvent
  stepChanges : List EnrichStepName

/-- `STEP_CHANGE_COUNTERS` -/
def countStep (stats : EnrichStats) : EnrichStepName → EnrichStats
  | .retag => { stats with retagStepChanged := stats.retagStepChanged + 1 }
  | .quality => { stats with qualityStepChanged := stats.qualityStepChanged + 1 }

def preview (row : RawEventRow) (outcome : EnrichOutcome) (changedFields : List ManagedFieldName)
    (stats : EnrichStats) : EnrichStats :=
  if stats.previewRows.length < DEFAULT_PREVIEW_LIMIT then
    { stats with
      previewRows := stats.previewRows ++ [{
        eventId := row.eventId
        source := row.source
        stepChanges := outcome.stepChanges
        changedFields
        previousTopics := row.topics
        nextTopics := outcome.transformedEvent.topics }] }
  else stats

def fieldChanges (row : RawEventRow) (outcome : EnrichOutcome) : List ManagedFieldChangeStrategy :=
  collectManagedFieldChanges (toMutableEvent row) outcome.transformedEvent

/-- The body of the loop over a page. -/
def command (steps : List EnrichStepName) (allowlist : Option CompiledAllowlist) :
    Backfill EnrichStats EnrichOutcome where
  examine row :=
    (runSteps { allowlist } (buildStepPipeline runtime steps) (toMutableEvent row)).map
      fun result => { transformedEvent := result.1, stepChanges := result.2 }
  count row outcome stats :=
    let stats := outcome.stepChanges.foldl countStep stats
    let changedFields := diffManagedFields (fieldChanges row outcome)
    if changedFields.isEmpty then { stats with unchanged := stats.unchanged + 1 }
    else preview row outcome changedFields { stats with changed := stats.changed + 1 }
  update row outcome := buildUpdateData outcome.transformedEvent (fieldChanges row outcome)

def buildWhereClause (missingOnly : Bool) (source : Option CanonicalSource) : RawEventWhereInput where
  missing := missingOnly
  source

structure EnrichSettings where
  options : BackfillOptions
  steps : List EnrichStepName
  allowlist : Option CompiledAllowlist

/-- The allowlist is read for the retag step. -/
def stepsAllowlist (flags : CliFlags) (steps : List EnrichStepName) :
    Except CliError (Option CompiledAllowlist) :=
  if .retag ∈ steps then
    (readAllowlist runtime
      (resolveAllowlistPath runtime (getStringFlag flags "allowlist-path"))).map some
  else .ok none

/-- What `eventsEnrich` settles before it opens the database. -/
def settings (flags : CliFlags) : Except CliError EnrichSettings := do
  let _ ← (runtime.databaseUrl flags).mapError .databaseUrl
  let steps ← parseEnrichSteps runtime (getStringFlag flags "steps")
  let source ← parseSourceFlag runtime (getStringFlag flags "source")
  let options ← backfillOptions flags (buildWhereClause (getBooleanFlag flags "missing-only") source)
  let allowlist ← stepsAllowlist runtime flags steps
  .ok { options, steps, allowlist }

def eventsEnrich (flags : CliFlags) (pages : ℕ) :
    BackfillProgram (Option (BackfillState EnrichStats)) :=
  match settings runtime flags with
  | .error error => Program.throw (.cli error)
  | .ok { options, steps, allowlist } => backfill (command runtime steps allowlist) options {} pages

/-! ## The update -/

/-- The row with all managed columns of an event. -/
def withManagedFields (row : RawEventRow) (event : EnrichMutableEvent) : RawEventRow :=
  { row with
    tags := event.tags
    topics := event.topics
    url := event.url
    text := event.text
    lang := event.lang
    sourceMeta := some (sourceMetaColumn event.sourceMeta) }

/-- What is stored has all managed columns of the event.  The source meta may be kept where it is the
same but for the order of properties; one that is no object counts as none. -/
def Carries (row : RawEventRow) (event : EnrichMutableEvent) (stored : RawEventRow) : Prop :=
  stored = withManagedFields row event ∨
    stored = { withManagedFields row event with sourceMeta := row.sourceMeta } ∧
      (sourceMetaColumn (toSourceMetaRecord row.sourceMeta)).Alike (sourceMetaColumn event.sourceMeta)

/-- The update of the columns that differ. -/
def updateData (previous next : EnrichMutableEvent) : RawEventUpdateInput where
  tags := if previous.tags ≠ next.tags then some next.tags else none
  topics := if previous.topics ≠ next.topics then some next.topics else none
  url := if previous.url ≠ next.url then some next.url else none
  text := if previous.text ≠ next.text then some next.text else none
  lang := if previous.lang ≠ next.lang then some next.lang else none
  sourceMeta :=
    if sourceMetaChanged previous next then some (sourceMetaColumn next.sourceMeta) else none

theorem foldl_writeUpdate (previous next : EnrichMutableEvent) :
    (collectManagedFieldChanges previous next).foldl
      (fun data change => change.writeUpdate data next) {} = updateData previous next := by
  unfold collectManagedFieldChanges MANAGED_FIELD_CHANGE_STRATEGIES updateData plainColumn
  rw [List.foldl_filter]
  simp only [List.foldl_cons, List.foldl_nil, decide_eq_true_eq]
  ext1
  · simp only [apply_ite RawEventUpdateInput.tags, ite_self]
  · simp only [apply_ite RawEventUpdateInput.topics, ite_self]
  · simp only [apply_ite RawEventUpdateInput.url, ite_self]
  · simp only [apply_ite RawEventUpdateInput.text, ite_self]
  · simp only [apply_ite RawEventUpdateInput.lang, ite_self]
  · simp only [apply_ite RawEventUpdateInput.sourceMeta, ite_self]

/-- A column is written where it differs. -/
theorem getD_changed {α : Type} [DecidableEq α] (previous next : α) :
    (if previous ≠ next then some next else none).getD previous = next := by
  split_ifs with same
  · rfl
  · exact not_not.1 same

/-- The columns that differ, with the source meta where it changes. -/
theorem apply_updateData (row : RawEventRow) (next : EnrichMutableEvent) :
    (updateData (toMutableEvent row) next).apply row = { withManagedFields row next with
      sourceMeta :=
        if sourceMetaChanged (toMutableEvent row) next then some (sourceMetaColumn next.sourceMeta)
        else row.sourceMeta } := by
  unfold RawEventUpdateInput.apply withManagedFields
  congr 1
  · exact getD_changed _ _
  · exact getD_changed _ _
  · exact getD_changed _ _
  · exact getD_changed _ _
  · exact getD_changed _ _
  · unfold updateData
    dsimp only
    cases sourceMetaChanged (toMutableEvent row) next with
    | true => rfl
    | false => rfl

theorem carries_updateData (row : RawEventRow) (next : EnrichMutableEvent) :
    Carries row next ((updateData (toMutableEvent row) next).apply row) := by
  rw [apply_updateData]
  by_cases changed : sourceMetaChanged (toMutableEvent row) next = true
  · rw [if_pos changed]
    exact .inl rfl
  · rw [if_neg changed]
    unfold sourceMetaChanged at changed
    rw [Bool.not_eq_true', Bool.not_eq_false] at changed
    exact .inr ⟨rfl, isDeepStrictEqual.alike changed⟩

/-- Writing the columns that differ is writing all managed columns. -/
theorem carries_buildUpdateData (row : RawEventRow) (next : EnrichMutableEvent) :
    Carries row next
      (((buildUpdateData next (collectManagedFieldChanges (toMutableEvent row) next)).map
        (·.apply row)).getD row) := by
  have same : ((buildUpdateData next (collectManagedFieldChanges (toMutableEvent row) next)).map
      (·.apply row)).getD row = (updateData (toMutableEvent row) next).apply row := by
    rw [← foldl_writeUpdate]
    unfold buildUpdateData
    split_ifs with none
    · rw [List.isEmpty_iff.1 none]
      rfl
    · rfl
  rw [same]
  exact carries_updateData row next

/-! ## The run -/

section Run

variable {runtime : BackfillRuntime} {steps : List EnrichStepName} {allowlist : Option CompiledAllowlist}
  {ctx : EnrichContext}

/-- A step leaves the tags as the topics, unless it is the retag step without an allowlist. -/
theorem tags_of_apply {name : EnrichStepName} {event result : EnrichMutableEvent}
    (known : name = .retag → ctx.allowlist.isSome)
    (ran : (stepRegistry runtime name).apply event ctx = .ok result) : result.tags = result.topics := by
  cases name with
  | retag =>
      obtain ⟨allowlist, given⟩ := Option.isSome_iff_exists.1 (known rfl)
      unfold stepRegistry RETAG_STEP at ran
      dsimp only at ran
      rw [given] at ran
      obtain ⟨nextTopics, _, rfl⟩ := map_eq_ok.1 ran
      rfl
  | quality =>
      cases ran
      rfl

/-- So does a chain of steps. -/
theorem tags_of_runSteps {event : EnrichMutableEvent}
    {result : EnrichMutableEvent × List EnrichStepName}
    (known : .retag ∈ steps → ctx.allowlist.isSome) (given : steps = [] → event.tags = event.topics)
    (ran : runSteps ctx (buildStepPipeline runtime steps) event = .ok result) :
    result.1.tags = result.1.topics := by
  induction steps generalizing event result with
  | nil =>
      cases ran
      exact given rfl
  | cons name steps ih =>
      obtain ⟨next, applied, ran⟩ := bind_eq_ok.1 ran
      obtain ⟨last, rest, same⟩ := bind_eq_ok.1 ran
      cases same
      have kept := ih (fun member => known (List.mem_cons_of_mem _ member))
        (fun _ => tags_of_apply (fun same => known (same ▸ List.mem_cons_self)) applied) rest
      exact kept

/-- What is printed adds up. -/
structure Balanced (scanned due : ℕ) (stats : EnrichStats) : Prop where
  scanned : scanned = stats.unchanged + stats.changed
  changed : stats.changed = due
  shown : stats.previewRows.length = min DEFAULT_PREVIEW_LIMIT stats.changed

theorem foldl_countStep (names : List EnrichStepName) (stats : EnrichStats) :
    (names.foldl countStep stats).changed = stats.changed ∧
      (names.foldl countStep stats).unchanged = stats.unchanged ∧
      (names.foldl countStep stats).previewRows = stats.previewRows := by
  induction names generalizing stats with
  | nil => exact ⟨rfl, rfl, rfl⟩
  | cons name names ih =>
      obtain ⟨changed, unchanged, previewRows⟩ := ih (countStep stats name)
      rw [List.foldl_cons, changed, unchanged, previewRows]
      cases name with
      | retag => exact ⟨rfl, rfl, rfl⟩
      | quality => exact ⟨rfl, rfl, rfl⟩

theorem preview_spec (row : RawEventRow) (outcome : EnrichOutcome)
    (changedFields : List ManagedFieldName) (stats : EnrichStats) :
    (preview row outcome changedFields stats).changed = stats.changed ∧
      (preview row outcome changedFields stats).unchanged = stats.unchanged ∧
      (preview row outcome changedFields stats).previewRows.length =
        if stats.previewRows.length < DEFAULT_PREVIEW_LIMIT then stats.previewRows.length + 1
        else stats.previewRows.length := by
  unfold preview
  split_ifs
  · exact ⟨rfl, rfl, List.length_append⟩
  · exact ⟨rfl, rfl, rfl⟩

theorem Balanced.keeps {scanned due : ℕ} {stats : EnrichStats} (balanced : Balanced scanned due stats)
    (row : RawEventRow) (outcome : EnrichOutcome) :
    Balanced (scanned + 1)
      (due + ((command runtime steps allowlist).update row outcome).toList.length)
      ((command runtime steps allowlist).count row outcome stats) := by
  obtain ⟨all, changed, shown⟩ := balanced
  obtain ⟨changed', unchanged', rows'⟩ := foldl_countStep outcome.stepChanges stats
  unfold command buildUpdateData diffManagedFields
  simp only [List.isEmpty_map]
  split_ifs with none
  · refine ⟨?_, ?_, ?_⟩
    · dsimp only
      omega
    · rw [Option.toList_none, List.length_nil]
      exact changed'.trans changed
    · dsimp only
      rw [rows', changed', shown]
  · obtain ⟨counted, other, length⟩ := preview_spec row outcome
      ((fieldChanges row outcome).map (·.name))
      { outcome.stepChanges.foldl countStep stats with
        changed := (outcome.stepChanges.foldl countStep stats).changed + 1 }
    rw [rows'] at length
    refine ⟨?_, ?_, ?_⟩
    · rw [counted, other]
      dsimp only
      omega
    · rw [counted, Option.toList_some, List.length_singleton]
      dsimp only
      omega
    · rw [counted, length]
      dsimp only
      split_ifs
      · omega
      · omega

/-- What a finished run of `eventsEnrich` has done. -/
structure Enriched (runtime : BackfillRuntime) (settled : EnrichSettings) (around : Surroundings)
    (table : RawEventTable) (state : BackfillState EnrichStats) (db : Database) : Prop extends
    Finished around (command runtime settled.steps settled.allowlist) settled.options {} table state
      db where
  balanced : Balanced state.scanned
    ((command runtime settled.steps settled.allowlist).planned db.reads).length state.report
  /-- A row that nobody else touches has all managed columns of the event that the steps make of it,
  and its tags are its topics. -/
  enriched : settled.options.dryRun = false → settled.options.limit = none →
    ∀ id, Undisturbed around id → ∀ row, table.find id = some row →
      settled.options.filter.test row = true → ∃ result stored,
        runSteps { allowlist := settled.allowlist } (buildStepPipeline runtime settled.steps)
          (toMutableEvent row) = .ok result ∧
        db.table.find id = some stored ∧ Carries row result.1 stored ∧
        result.1.tags = result.1.topics

theorem mapM_parseStep_ne_nil {parsed : List String} {names : List EnrichStepName}
    (nonempty : parsed ≠ []) (ran : parsed.mapM parseStep = .ok names) : names ≠ [] := by
  rw [mapM_eq_ok] at ran
  intro none
  subst none
  cases ran
  exact nonempty rfl

/-- There is a step, and an allowlist where it needs one. -/
theorem settings_spec {flags : CliFlags} {settled : EnrichSettings}
    (settles : settings runtime flags = .ok settled) :
    settled.steps ≠ [] ∧ (.retag ∈ settled.steps → settled.allowlist.isSome) := by
  unfold settings at settles
  obtain ⟨_, -, settles⟩ := bind_eq_ok.1 settles
  obtain ⟨steps, parsed, settles⟩ := bind_eq_ok.1 settles
  obtain ⟨source, -, settles⟩ := bind_eq_ok.1 settles
  obtain ⟨options, -, settles⟩ := bind_eq_ok.1 settles
  obtain ⟨allowlist, read, settles⟩ := bind_eq_ok.1 settles
  cases settles
  constructor
  · unfold parseEnrichSteps at parsed
    split at parsed
    · cases parsed
      exact List.cons_ne_nil _ _
    · dsimp only at parsed
      split_ifs at parsed with none
      obtain ⟨names, ran, rfl⟩ := map_eq_ok.1 parsed
      obtain ⟨name, member⟩ := List.exists_mem_of_ne_nil names (mapM_parseStep_ne_nil none ran)
      exact List.ne_nil_of_mem (Js.mem_distinct.2 member)
  · intro member
    unfold stepsAllowlist at read
    rw [if_pos member] at read
    obtain ⟨_, _, rfl⟩ := map_eq_ok.1 read
    rfl

theorem enriched_of_finished {flags : CliFlags} {settled : EnrichSettings} {around : Surroundings}
    {table : RawEventTable} {state : BackfillState EnrichStats} {db : Database}
    (settles : settings runtime flags = .ok settled)
    (finished : Finished around (command runtime settled.steps settled.allowlist) settled.options {}
      table state db)
    (law : BackfillLaw around (command runtime settled.steps settled.allowlist) settled.options table
      db) : Enriched runtime settled around table state db := by
  obtain ⟨given, known⟩ := settings_spec settles
  refine ⟨finished, ?_, ?_⟩
  · have none : Balanced 0 0 {} := ⟨rfl, rfl, rfl⟩
    have counted := Backfill.noted_keeps (P := Balanced)
      (fun _ _ _ row found balanced => balanced.keeps row found) none finished.noted
    rwa [Nat.zero_add, Nat.zero_add, ← finished.scanned] at counted
  · intro wet unlimited id undisturbed row stood selected
    have read := finished.read unlimited undisturbed stood selected
    obtain ⟨outcome, examined, final⟩ := finished.final law wet undisturbed stood read
    obtain ⟨result, ran, rfl⟩ := map_eq_ok.1 examined
    exact ⟨result, _, ran, final, carries_buildUpdateData row result.1,
      tags_of_runSteps known (fun none => absurd none given) ran⟩

end Run

/-- Both steps for all rows. -/
def bothSteps : EnrichSettings where
  options := Retag.allOptions
  steps := DEFAULT_STEPS
  allowlist := some Retag.kafkaAllowlist

end RisingIntelligence.OpsCli.Enrich
