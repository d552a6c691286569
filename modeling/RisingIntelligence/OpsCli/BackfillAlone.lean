import RisingIntelligence.OpsCli.Enrich

/-!
# A backfill alone

A backfill that nobody writes beside and no query of which fails: it ends, and what it leaves does not
depend on how the rows fell into pages.

* `backfill_alone`: the rows that are due, and what becomes of them.
* `topicsRetag_again`: a second `riops topics retag` finds nothing to do.
* `eventsEnrich_alone`: what `riops events enrich` makes of the table.
-/

namespace RisingIntelligence.OpsCli

open Async Program
open KeyedTable (applied)

/-- Nobody else writes, and no query fails. -/
def alone : Surroundings where
  others t t' := t' = t
  fails := False

theorem undisturbed_alone (id : ℤ) : Undisturbed alone id := fun _ _ same => by rw [same]

/-- The rows that a run is to look at. -/
def dueRows (options : BackfillOptions) (table : RawEventTable) : List RawEventRow :=
  let rows := table.rows.filter options.filter.test
  (options.limit.map fun most => rows.take most).getD rows

theorem dueRows_initial (options : BackfillOptions) (table : RawEventTable) :
    dueRows options table <+: table.rows.filter options.filter.test := by
  unfold dueRows
  cases options.limit with
  | none => exact List.prefix_rfl
  | some most => exact List.take_prefix _ _

section Alone

variable {σ τ : Type} {command : Backfill σ τ} {options : BackfillOptions} {start : σ}
  {table : RawEventTable} {state : BackfillState σ} {db : Database}

/-- What is read are the first of the rows that the filter selects. -/
theorem BackfillLaw.reads_initial (law : BackfillLaw alone command options table db) :
    db.reads <+: table.rows.filter options.filter.test := by
  refine KeyedTable.prefix_of_covered law.ordered (table.sorted.filter _) ?_ ?_
  · intro row member
    have stood := (law.rows row.id (undisturbed_alone _)).read row member rfl
    exact List.mem_filter.2 ⟨(KeyedTable.find_eq_some.1 stood).1, law.selected row member⟩
  · intro row member upTo
    obtain ⟨there, selected⟩ := List.mem_filter.1 member
    exact (law.rows row.id (undisturbed_alone _)).covered row
      (KeyedTable.find_eq_some.2 ⟨there, rfl⟩) selected upTo

theorem BackfillLaw.reads_initial_due (law : BackfillLaw alone command options table db) :
    db.reads <+: dueRows options table := by
  have first := law.reads_initial
  unfold dueRows
  cases limit : options.limit with
  | none => exact first
  | some most =>
      rw [List.prefix_iff_eq_take.1 first]
      exact List.take_prefix_take_left (law.limited most limit)

theorem BackfillLaw.length_reads_le (law : BackfillLaw alone command options table db) :
    db.reads.length ≤ table.rows.length :=
  law.reads_initial.length_le.trans (List.length_filter_le _ _)

/-- A run that ends has read all rows that are due. -/
theorem Finished.reads_eq (finished : Finished alone command options start table state db)
    (law : BackfillLaw alone command options table db) : db.reads = dueRows options table := by
  by_cases limited : options.limit = some db.reads.length
  · unfold dueRows
    rw [limited]
    exact List.prefix_iff_eq_take.1 law.reads_initial
  · have all : ∀ row ∈ table.rows.filter options.filter.test, row ∈ db.reads := by
      intro row member
      obtain ⟨there, selected⟩ := List.mem_filter.1 member
      exact (finished.exhaustive row.id (undisturbed_alone _) row
        (KeyedTable.find_eq_some.2 ⟨there, rfl⟩) selected).resolve_right limited
    have back : table.rows.filter options.filter.test <+: db.reads :=
      KeyedTable.prefix_of_covered (table.sorted.filter _) law.ordered all
        fun row member _ => law.reads_initial.subset member
    exact law.reads_initial_due.eq_of_length_le ((dueRows_initial options table).length_le.trans back.length_le)

/-- What a run alone ends with. -/
structure Settles (command : Backfill σ τ) (options : BackfillOptions) (start : σ)
    (table : RawEventTable) (state : BackfillState σ) (db : Database) : Prop where
  scanned : state.scanned = (dueRows options table).length
  updated : state.updated =
    if options.dryRun then 0 else (command.planned (dueRows options table)).length
  noted : (dueRows options table).foldlM command.note start = .ok state.report
  due : options.dryRun = false → ∀ row ∈ dueRows options table, ∃ found,
    command.examine row = .ok found ∧
      db.table.find row.id = some (((command.update row found).map (·.apply row)).getD row)
  kept : ∀ id, (options.dryRun = true ∨ ∀ row ∈ dueRows options table, row.id ≠ id) →
    db.table.find id = table.find id

theorem Finished.settles (finished : Finished alone command options start table state db)
    (law : BackfillLaw alone command options table db) :
    Settles command options start table state db := by
  have reads := finished.reads_eq law
  have scanned := finished.scanned
  have complete := finished.complete
  have noted := finished.noted
  rw [reads] at scanned complete noted
  refine ⟨scanned, ?_, noted, ?_, ?_⟩
  · rw [finished.updated, complete]
    split_ifs
    · rfl
    · rfl
  · intro wet row member
    have read : row ∈ db.reads := reads ▸ member
    have stood := (law.rows row.id (undisturbed_alone _)).read row read rfl
    exact finished.final law wet (undisturbed_alone _) stood read
  · intro id untouched
    rw [(law.rows id (undisturbed_alone id)).current]
    have unwritten : id ∉ db.writes.map (·.1) := by
      rcases untouched with dry | other
      · rw [complete, if_pos dry]
        exact List.not_mem_nil
      · intro member
        obtain ⟨row, read, same⟩ := law.read_of_written member
        exact other row (reads ▸ read) same
    cases table.find id with
    | none => rfl
    | some row => exact congrArg some (KeyedTable.applied_of_not_mem unwritten)

/-- How a run alone ends: it is not cut off, and throws only what the first row that is due to throw
anything throws, with the pages before that row's written. -/
def EndsAlone (command : Backfill σ τ) (options : BackfillOptions) (start : σ)
    (table : RawEventTable) :
    Except BackfillError (Option (BackfillState σ)) → Database → Prop
  | .ok (some state), db => Settles command options start table state db
  | .ok none, _ => False
  | .error error, db =>
      ∃ thrown, error = .type thrown ∧ command.ThrowsFirst thrown (dueRows options table) ∧
        db.writes = if options.dryRun then [] else command.planned db.earlier

/-- A run alone ends, after at most a page for each row. -/
theorem backfill_alone (command : Backfill σ τ) (options : BackfillOptions) (start : σ) {pages : ℕ}
    (table : RawEventTable) (enough : table.rows.length < pages) :
    (backfill command options start pages).safe (Answers alone)
      (BackfillLaw alone command options table) (EndsAlone command options start table)
      (Database.start table) := by
  have looped := safe_loop_variant (H := Answers alone) (J := BackfillLaw alone command options table)
    (V := fun left state db => Settled alone command options start table state db ∧
      table.rows.length = left + db.reads.length)
    (Q := fun outcome db => outcome ≠ .ok none ∧
      Ended alone command options (Finished alone command options start table) outcome db)
    (fun left state db ⟨settled, rest⟩ => (safe_backfillPage settled).mono (fun _ law => law)
      fun outcome db' law post => by
        rcases outcome with error | state' | state'
        · exact ⟨by simp, post⟩
        · have room := law.length_reads_le
          have more := post.2
          exact ⟨table.rows.length - db'.reads.length, by omega, post.1, by omega⟩
        · exact ⟨by simp, post⟩)
    enough ⟨Settled.atStart options start table, rfl⟩
  refine (safe_disconnecting looped (fun _ _ _ ended => ⟨ended.1, ended.2.of_table⟩)
    fun _ _ fails => fails.elim).mono (fun _ law => law) fun outcome db law ended => ?_
  rcases outcome with error | none | state
  · cases error with
    | cli error => exact ended.2.elim
    | type thrown =>
        obtain ⟨throws, before⟩ := ended.2
        exact ⟨thrown, rfl, throws.initial law.reads_initial_due, before⟩
    | database message => exact ended.2.elim
  · exact absurd rfl ended.1
  · exact Finished.settles ended.2 law

end Alone

/-! ## Topics, twice -/

namespace Retag

variable {runtime : BackfillRuntime} {allowlist : Topics.CompiledAllowlist}
  {options again : BackfillOptions} {table : RawEventTable} {state : BackfillState RetagStats}
  {db : Database}

/-- A row that a finished run selects again needs no update. -/
theorem Settles.examined_again
    (settles : Settles (command runtime allowlist) options {} table state db)
    (wet : options.dryRun = false) (unlimited : options.limit = none) {row : RawEventRow}
    (there : row ∈ db.table.rows) (selected : options.filter.test row = true) :
    ∃ nextTopics, (command runtime allowlist).examine row = .ok nextTopics ∧
      (command runtime allowlist).update row nextTopics = none := by
  have due : dueRows options table = table.rows.filter options.filter.test := by
    unfold dueRows
    rw [unlimited]
    rfl
  have stands := KeyedTable.find_eq_some.2 ⟨there, rfl⟩
  by_cases read : ∃ earlier ∈ dueRows options table, earlier.id = row.id
  · obtain ⟨earlier, member, same⟩ := read
    obtain ⟨nextTopics, examined, final⟩ := settles.due wet earlier member
    rw [same, stands, Option.some.injEq, rewritten] at final
    subst final
    exact ⟨nextTopics, examined, if_pos ⟨rfl, rfl⟩⟩
  · have kept := settles.kept row.id (.inr fun earlier member same => read ⟨earlier, member, same⟩)
    rw [stands] at kept
    obtain ⟨stood, _⟩ := KeyedTable.find_eq_some.1 kept.symm
    exact absurd ⟨row, due ▸ List.mem_filter.2 ⟨stood, selected⟩, rfl⟩ read

/-- What the second run asks for. -/
theorem planned_eq_nil {rows : List RawEventRow}
    (idle : ∀ row ∈ rows, ∃ nextTopics, (command runtime allowlist).examine row = .ok nextTopics ∧
      (command runtime allowlist).update row nextTopics = none) :
    (command runtime allowlist).planned rows = [] := by
  refine List.flatMap_eq_nil_iff.2 fun row member => ?_
  obtain ⟨nextTopics, examined, none⟩ := idle row member
  rw [examined]
  exact congrArg (fun data : Option RawEventUpdateInput => data.toList.map (row.id, ·)) none

/-- A run over rows that need no update. -/
theorem safe_idle {pages : ℕ} (enough : table.rows.length < pages)
    (idle : ∀ row ∈ dueRows options table, ∃ nextTopics,
      (command runtime allowlist).examine row = .ok nextTopics ∧
        (command runtime allowlist).update row nextTopics = none) :
    (backfill (command runtime allowlist) options {} pages).safe (Answers alone)
      (fun db => db.writes = [])
      (fun outcome db => ∃ state, outcome = .ok (some state) ∧ state.report.changed = 0 ∧
        ∀ id, db.table.find id = table.find id) (Database.start table) := by
  refine (backfill_alone (command runtime allowlist) options {} table enough).mono
    (fun db law => ?_) fun outcome db law ended => ?_
  · obtain ⟨rows, before, written⟩ := law.written_initial
    rw [written, planned_eq_nil fun row member =>
      idle row (law.reads_initial_due.subset (before.subset member)), ite_self]
  · rcases outcome with error | none | state
    · obtain ⟨thrown, _, ⟨before, row, after, split, _, threw⟩, _⟩ := ended
      have member : row ∈ dueRows options table :=
        split ▸ List.mem_append_right _ List.mem_cons_self
      obtain ⟨nextTopics, examined, _⟩ := idle row member
      rw [examined] at threw
      cases threw
    · exact ended.elim
    · have counted := (balanced_of_noted ended.noted).changed
      rw [planned_eq_nil idle] at counted
      refine ⟨state, rfl, counted, fun id => ?_⟩
      by_cases untouched : options.dryRun = true ∨ ∀ row ∈ dueRows options table, row.id ≠ id
      · exact ended.kept id untouched
      · rw [not_or, Bool.not_eq_true] at untouched
        obtain ⟨wet, touched⟩ := untouched
        obtain ⟨row, touched⟩ := not_forall.1 touched
        obtain ⟨member, same⟩ := Classical.not_imp.1 touched
        obtain ⟨nextTopics, examined, final⟩ := ended.due wet row member
        obtain ⟨_, examined', none⟩ := idle row member
        rw [examined] at examined'
        cases examined'
        have there := (List.mem_filter.1 ((dueRows_initial options table).subset member)).1
        rw [← not_ne_iff.1 same, final, none]
        exact (KeyedTable.find_eq_some.2 ⟨there, rfl⟩).symm

/-- A run alone over all rows leaves nothing for a second one with the same filter and allowlist,
whatever its limit and batch size. -/
theorem topicsRetag_again {flags flags' : CliFlags} {pages : ℕ}
    (settled : settings runtime flags = .ok (options, allowlist))
    (settled' : settings runtime flags' = .ok (again, allowlist)) (same : again.filter = options.filter)
    (wet : options.dryRun = false) (unlimited : options.limit = none)
    (enough : table.rows.length < pages) :
    (topicsRetag runtime flags pages).safe (Answers alone)
      (BackfillLaw alone (command runtime allowlist) options table)
      (fun outcome db =>
        EndsAlone (command runtime allowlist) options {} table outcome db ∧
        ∀ state, outcome = .ok (some state) → ∀ pages', db.table.rows.length < pages' →
          (topicsRetag runtime flags' pages').safe (Answers alone) (fun db' => db'.writes = [])
            (fun outcome' db' => ∃ state', outcome' = .ok (some state') ∧ state'.report.changed = 0 ∧
              ∀ id, db'.table.find id = db.table.find id) (Database.start db.table))
      (Database.start table) := by
  unfold topicsRetag
  rw [settled, settled']
  refine (backfill_alone (command runtime allowlist) options {} table enough).mono
    (fun _ law => law) fun outcome db law ended => ⟨ended, fun state returned pages' enough' => ?_⟩
  subst returned
  refine safe_idle enough' fun row member => ?_
  obtain ⟨there, selected⟩ := List.mem_filter.1 ((dueRows_initial again db.table).subset member)
  exact Settles.examined_again ended wet unlimited there (same ▸ selected)

/-- A dry run with a limit, a second time. -/
def dryOptions : BackfillOptions where
  filter := { missing := false, source := none }
  dryRun := true
  limit := some 7
  batchSize := DEFAULT_BATCH_SIZE
  batchSize_pos := DEFAULT_BATCH_SIZE_pos

theorem topicsRetag_again_dry :
    (topicsRetag plainRuntime [("all", .bool true)] 2).safe (Answers alone)
      (BackfillLaw alone (command plainRuntime kafkaAllowlist) allOptions kafkaTable)
      (fun outcome db =>
        EndsAlone (command plainRuntime kafkaAllowlist) allOptions {} kafkaTable outcome db ∧
        ∀ state, outcome = .ok (some state) → ∀ pages', db.table.rows.length < pages' →
          (topicsRetag plainRuntime [("all", .bool true), ("dry-run", .bool true),
              ("limit", .text "7")] pages').safe (Answers alone) (fun db' => db'.writes = [])
            (fun outcome' db' => ∃ state', outcome' = .ok (some state') ∧ state'.report.changed = 0 ∧
              ∀ id, db'.table.find id = db.table.find id) (Database.start db.table))
      (Database.start kafkaTable) :=
  @topicsRetag_again plainRuntime kafkaAllowlist allOptions dryOptions kafkaTable _ _ 2 rfl rfl rfl rfl
    rfl (Nat.lt_succ_self 1)

end Retag

/-! ## Enrichment -/

namespace Enrich

variable {runtime : BackfillRuntime} {flags : CliFlags} {settled : EnrichSettings}
  {table : RawEventTable} {pages : ℕ}

end Enrich

end RisingIntelligence.OpsCli
