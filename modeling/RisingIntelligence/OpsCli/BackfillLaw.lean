import RisingIntelligence.OpsCli.Backfill
import RisingIntelligence.Pipeline.EnrichmentLaw

/-!
# A backfill beside other writers

Between any two queries of a backfill, others may insert, change and delete rows of `raw_events`, and
any query may fail, also after it was carried out.

* `BackfillLaw` is what holds at every query: each row is read at most once, and every update is the
  one that its row as read asks for.
* Of a row that nobody else touches it says more: no page skips it, and it stands as the updates made
  it.
* `topicsRetag_law`: what holds of every run of `riops topics retag`.
-/

namespace RisingIntelligence.OpsCli

open Async Program
open KeyedTable (applied)

/-! ## The database -/

/-- The table, with the last page that was read, the rows of the pages before it and the updates that
were carried out. -/
structure Database where
  table : RawEventTable
  earlier : List RawEventRow
  page : List RawEventRow
  writes : List (ℤ × RawEventUpdateInput)

namespace Database

def start (table : RawEventTable) : Database where
  table
  earlier := []
  page := []
  writes := []

/-- The rows that were read so far. -/
def reads (db : Database) : List RawEventRow := db.earlier ++ db.page

/-- Another page, of the table as others left it. -/
def read (t : RawEventTable) (page : List RawEventRow) (db : Database) : Database where
  table := t
  earlier := db.reads
  page
  writes := db.writes

theorem reads_read (t : RawEventTable) (page : List RawEventRow) (db : Database) :
    (db.read t page).reads = db.reads ++ page :=
  rfl

end Database

structure Surroundings where
  /-- What others may make of the table between two queries. -/
  others : RawEventTable → RawEventTable → Prop
  /-- Queries may fail. -/
  fails : Prop

/-- How the database answers a query, after others had their turn. -/
inductive Answers (around : Surroundings) : Handler backfilling Database
  | found {db : Database} {t : RawEventTable} {filter : RawEventWhereInput} {cursorId : Option ℤ}
      {take : ℕ} : around.others db.table t →
    Answers around db (.findMany filter cursorId take) (.ok (t.page filter.test cursorId take))
      (db.read t (t.page filter.test cursorId take))
  | committed {db : Database} {t t' : RawEventTable} {updates : List (ℤ × RawEventUpdateInput)}
      {reply : Except String Unit} : around.others db.table t →
    t.write RawEventUpdateInput.apply RawEventUpdateInput.id_apply updates = some t' →
    (reply = .ok () ∨ around.fails) →
    Answers around db (.transaction updates) reply
      { db with table := t', writes := db.writes ++ updates }
  | failed {db : Database} {t : RawEventTable} {c : BackfillCall} {message : String} :
    around.others db.table t → around.fails → Answers around db c (.error message) { db with table := t }
  | disconnected {db : Database} {t : RawEventTable} : around.others db.table t →
    Answers around db .disconnect (.ok ()) { db with table := t }

/-- Nobody else touches the row. -/
def Undisturbed (around : Surroundings) (id : ℤ) : Prop := ∀ t t', around.others t t' → t'.find id = t.find id

/-! ## Pages of rows -/

section Rows

variable {σ τ : Type} (command : Backfill σ τ)

/-- The updates that rows ask for. -/
def Backfill.planned (rows : List RawEventRow) : List (ℤ × RawEventUpdateInput) :=
  rows.flatMap fun row =>
    ((command.examine row).toOption.bind (command.update row)).toList.map (row.id, ·)

/-- A row that was examined, in the report. -/
def Backfill.note (report : σ) (row : RawEventRow) : Except Topics.TypeError σ :=
  (command.examine row).map fun found => command.count row found report

/-- The first of the rows to throw anything throws the error. -/
def Backfill.ThrowsFirst (error : Topics.TypeError) (rows : List RawEventRow) : Prop :=
  ∃ before row after, rows = before ++ row :: after ∧
    (∀ earlier ∈ before, ∃ found, command.examine earlier = .ok found) ∧
    command.examine row = .error error

variable {command} {rows later : List RawEventRow} {report report' : σ}
  {updates : List (ℤ × RawEventUpdateInput)} {id : ℤ}

theorem Backfill.planned_append :
    command.planned (rows ++ later) = command.planned rows ++ command.planned later :=
  List.flatMap_append

/-- A page that throws nothing. -/
theorem examineRows_eq_ok :
    examineRows command rows report = .ok (report', updates) ↔
      rows.foldlM command.note report = .ok report' ∧ updates = command.planned rows := by
  induction rows generalizing report updates with
  | nil =>
      constructor
      · intro ran
        cases ran
        exact ⟨rfl, rfl⟩
      · intro ⟨noted, due⟩
        cases noted
        rw [due]
        rfl
  | cons row rows ih =>
      have split : command.planned (row :: rows) =
          ((command.examine row).toOption.bind (command.update row)).toList.map (row.id, ·) ++
            command.planned rows := List.flatMap_cons
      rw [split, List.foldlM_cons]
      unfold examineRows Backfill.note
      cases examined : command.examine row with
      | error error =>
          constructor
          · intro ran
            cases ran
          · intro ⟨noted, _⟩
            cases noted
      | ok found =>
          constructor
          · intro ran
            obtain ⟨_, same, ran⟩ := bind_eq_ok.1 ran
            cases same
            obtain ⟨⟨next, due⟩, rest, same⟩ := bind_eq_ok.1 ran
            cases same
            obtain ⟨noted, due_eq⟩ := ih.1 rest
            rw [due_eq]
            exact ⟨noted, rfl⟩
          · intro ⟨noted, due⟩
            rw [due]
            have rest := ih.2 ⟨noted, rfl⟩
            exact bind_eq_ok.2 ⟨found, rfl, bind_eq_ok.2 ⟨_, rest, rfl⟩⟩

theorem Backfill.ThrowsFirst.cons {error : Topics.TypeError} {row : RawEventRow} {found : τ}
    (throws : command.ThrowsFirst error rows) (examined : command.examine row = .ok found) :
    command.ThrowsFirst error (row :: rows) := by
  obtain ⟨before, thrower, after, split, fine, threw⟩ := throws
  exact ⟨row :: before, thrower, after, congrArg (row :: ·) split,
    List.forall_mem_cons.2 ⟨⟨found, examined⟩, fine⟩, threw⟩

theorem Backfill.ThrowsFirst.after {error : Topics.TypeError}
    (throws : command.ThrowsFirst error rows) {done : List RawEventRow}
    (fine : ∀ row ∈ done, ∃ found, command.examine row = .ok found) :
    command.ThrowsFirst error (done ++ rows) := by
  induction done with
  | nil => exact throws
  | cons row done ih =>
      obtain ⟨⟨found, examined⟩, fine⟩ := List.forall_mem_cons.1 fine
      exact (ih fine).cons examined

theorem Backfill.ThrowsFirst.initial {error : Topics.TypeError} {all : List RawEventRow}
    (throws : command.ThrowsFirst error rows) (first : rows <+: all) :
    command.ThrowsFirst error all := by
  obtain ⟨before, row, after, rfl, fine, threw⟩ := throws
  obtain ⟨rest, rfl⟩ := first
  exact ⟨before, row, after ++ rest, by simp, fine, threw⟩

/-- A page throws what the first of its rows throws. -/
theorem throwsFirst_of_examineRows {error : Topics.TypeError}
    (threw : examineRows command rows report = .error error) : command.ThrowsFirst error rows := by
  induction rows generalizing report with
  | nil => cases threw
  | cons row rows ih =>
      unfold examineRows at threw
      cases examined : command.examine row with
      | error other =>
          rw [examined] at threw
          cases threw
          exact ⟨[], row, rows, rfl, List.forall_mem_nil _, examined⟩
      | ok found =>
          rw [examined] at threw
          have same : examineRows command rows (command.count row found report) >>= _ =
            .error error := threw
          cases rest : examineRows command rows (command.count row found report) with
          | error other =>
              rw [rest] at same
              cases same
              exact (ih rest).cons examined
          | ok result =>
              rw [rest] at same
              cases same

theorem Backfill.examined
    (noted : rows.foldlM command.note report = .ok report') :
    ∀ row ∈ rows, ∃ found, command.examine row = .ok found := by
  induction rows generalizing report with
  | nil => exact fun _ none => nomatch none
  | cons row rows ih =>
      rw [List.foldlM_cons] at noted
      obtain ⟨next, first, rest⟩ := bind_eq_ok.1 noted
      obtain ⟨found, examined, _⟩ := map_eq_ok.1 first
      exact List.forall_mem_cons.2 ⟨⟨found, examined⟩, ih rest⟩

theorem Backfill.mem_of_mem_planned {update : ℤ × RawEventUpdateInput}
    (member : update ∈ command.planned rows) :
    ∃ row ∈ rows, row.id = update.1 ∧
      ∃ found, command.examine row = .ok found ∧ command.update row found = some update.2 := by
  obtain ⟨row, mem, due⟩ := List.mem_flatMap.1 member
  obtain ⟨data, asked, same⟩ := List.mem_map.1 due
  cases examined : command.examine row with
  | error error =>
      rw [examined] at asked
      cases asked
  | ok found =>
      rw [examined] at asked
      subst same
      exact ⟨row, mem, rfl, found, examined, Option.mem_toList.1 asked⟩

/-- Rows of different ids ask for updates of different ids. -/
theorem Backfill.nodup_planned (ordered : rows.Pairwise fun row later => row.id < later.id) :
    ((command.planned rows).map (·.1)).Nodup := by
  induction rows with
  | nil => exact List.nodup_nil
  | cons row rows ih =>
      obtain ⟨least, ordered⟩ := List.pairwise_cons.1 ordered
      have split : command.planned (row :: rows) =
          ((command.examine row).toOption.bind (command.update row)).toList.map (row.id, ·) ++
            command.planned rows := List.flatMap_cons
      rw [split, List.map_append, List.nodup_append]
      refine ⟨?_, ih ordered, ?_⟩
      · cases (command.examine row).toOption.bind (command.update row) with
        | none => exact List.nodup_nil
        | some data => exact List.nodup_singleton _
      · intro own mem other mem' same
        obtain ⟨update, due, rfl⟩ := List.mem_map.1 mem
        obtain ⟨data, _, rfl⟩ := List.mem_map.1 due
        obtain ⟨update', due', rfl⟩ := List.mem_map.1 mem'
        obtain ⟨later, there, same', _⟩ := Backfill.mem_of_mem_planned due'
        exact (least later there).ne (same.trans same'.symm)

end Rows

/-! ## The law -/

section Law

variable {σ τ : Type} (around : Surroundings) (command : Backfill σ τ) (options : BackfillOptions)
  (start : σ) (t₀ : RawEventTable)

/-- A row that nobody else touches, from its place in the table at the start. -/
structure RowLaw (id : ℤ) (db : Database) : Prop where
  /-- It is read as it stood at the start. -/
  read : ∀ row ∈ db.reads, row.id = id → t₀.find id = some row
  /-- No page skips it. -/
  covered : ∀ row, t₀.find id = some row → options.filter.test row = true →
    (∃ last ∈ db.reads, id ≤ last.id) → row ∈ db.reads
  /-- It stands as the updates so far made it. -/
  current : db.table.find id = (t₀.find id).map (applied RawEventUpdateInput.apply db.writes id)

structure BackfillLaw (db : Database) : Prop where
  /-- No row is read twice. -/
  ordered : db.reads.Pairwise fun row later => row.id < later.id
  selected : ∀ row ∈ db.reads, options.filter.test row = true
  limited : ∀ most, options.limit = some most → db.reads.length ≤ most
  /-- What was written is what the rows of all pages before the last one ask for, as they were read,
  and of the last one either all or nothing. -/
  written : ∃ done, (done = db.earlier ∨ done = db.reads) ∧
    db.writes = if options.dryRun then [] else command.planned done
  rows : ∀ id, Undisturbed around id → RowLaw options t₀ id db

/-- Between two pages: everything that the rows ask for is written. -/
structure Settled (state : BackfillState σ) (db : Database) : Prop extends
    BackfillLaw around command options t₀ db where
  cursor : state.cursorId = db.reads.getLast?.map RawEventRow.id
  remaining : state.remaining = options.limit.map (· - db.reads.length)
  scanned : state.scanned = db.reads.length
  updated : state.updated = db.writes.length
  complete : db.writes = if options.dryRun then [] else command.planned db.reads
  noted : db.reads.foldlM command.note start = .ok state.report

/-- A run that came to its end. -/
structure Finished (state : BackfillState σ) (db : Database) : Prop where
  scanned : state.scanned = db.reads.length
  updated : state.updated = db.writes.length
  complete : db.writes = if options.dryRun then [] else command.planned db.reads
  noted : db.reads.foldlM command.note start = .ok state.report
  /-- Only the limit keeps a row from being read. -/
  exhaustive : ∀ id, Undisturbed around id → ∀ row, t₀.find id = some row →
    options.filter.test row = true → row ∈ db.reads ∨ options.limit = some db.reads.length

/-- What a run throws: the error of a query that failed, or of the first row to throw one, nothing of
whose page is written. -/
def Explained (db : Database) : BackfillError → Prop
  | .cli _ => False
  | .type error => command.ThrowsFirst error db.reads ∧
      db.writes = if options.dryRun then [] else command.planned db.earlier
  | .database _ => around.fails

/-- How a run may end; one that was cut off has not. -/
def Ended (finished : BackfillState σ → Database → Prop) :
    Except BackfillError (Option (BackfillState σ)) → Database → Prop
  | .ok (some state), db => finished state db
  | .ok none, _ => True
  | .error error, db => Explained around command options db error

variable {around command options start t₀} {db : Database} {t t' : RawEventTable}
  {state : BackfillState σ} {id : ℤ} {updates : List (ℤ × RawEventUpdateInput)}

/-- What was written is what the first rows ask for. -/
theorem BackfillLaw.written_initial (law : BackfillLaw around command options t₀ db) :
    ∃ done, done <+: db.reads ∧
      db.writes = if options.dryRun then [] else command.planned done := by
  obtain ⟨done, rfl | rfl, same⟩ := law.written
  · exact ⟨_, List.prefix_append _ _, same⟩
  · exact ⟨_, List.prefix_rfl, same⟩

theorem BackfillLaw.nodup_writes (law : BackfillLaw around command options t₀ db) :
    (db.writes.map (·.1)).Nodup := by
  obtain ⟨done, before, same⟩ := law.written_initial
  rw [same]
  split_ifs
  · exact List.nodup_nil
  · exact Backfill.nodup_planned (law.ordered.sublist before.sublist)

/-- Only rows that were read are written. -/
theorem BackfillLaw.read_of_written (law : BackfillLaw around command options t₀ db)
    (member : id ∈ db.writes.map (·.1)) : ∃ row ∈ db.reads, row.id = id := by
  obtain ⟨done, before, same⟩ := law.written_initial
  rw [same] at member
  split_ifs at member
  · cases member
  · obtain ⟨update, due, rfl⟩ := List.mem_map.1 member
    obtain ⟨row, mem, found, _⟩ := Backfill.mem_of_mem_planned due
    exact ⟨row, before.subset mem, found⟩

/-- Others had their turn. -/
theorem BackfillLaw.of_others (law : BackfillLaw around command options t₀ db)
    (turn : around.others db.table t) : BackfillLaw around command options t₀ { db with table := t } := by
  refine ⟨law.ordered, law.selected, law.limited, law.written, fun id undisturbed => ?_⟩
  have row := law.rows id undisturbed
  exact ⟨row.read, row.covered, (undisturbed _ _ turn).trans row.current⟩

/-- The rows behind the cursor come after all that were read. -/
theorem Settled.behind (settled : Settled around command options start t₀ state db)
    {row : RawEventRow} (member : row ∈ t.behind options.filter.test state.cursorId) :
    ∀ earlier ∈ db.reads, earlier.id < row.id := by
  intro earlier mem
  obtain ⟨before, last, split⟩ : ∃ before last, db.reads = before ++ [last] :=
    ⟨_, _, (List.dropLast_append_getLast (List.ne_nil_of_mem mem)).symm⟩
  have cursor := settled.cursor
  rw [split, List.getLast?_concat] at cursor
  have less : last.id < row.id := (KeyedTable.mem_behind.1 member).2.2 _ cursor
  have ordered := settled.ordered
  rw [split, List.pairwise_append] at ordered
  rw [split, List.mem_append, List.mem_singleton] at mem
  rcases mem with mem | rfl
  · exact (ordered.2.2 earlier mem last (List.mem_singleton.2 rfl)).trans less
  · exact less

/-- A row that nobody else touches and that comes after all that were read stands as at the start. -/
theorem Settled.untouched (settled : Settled around command options start t₀ state db)
    (turn : around.others db.table t) (undisturbed : Undisturbed around id)
    (after : ∀ earlier ∈ db.reads, earlier.id < id) : t.find id = t₀.find id := by
  have unwritten : id ∉ db.writes.map (·.1) := fun member => by
    obtain ⟨row, mem, same⟩ := settled.read_of_written member
    exact (after row mem).ne same
  rw [undisturbed _ _ turn, (settled.rows id undisturbed).current]
  cases t₀.find id with
  | none => rfl
  | some row => exact congrArg some (KeyedTable.applied_of_not_mem unwritten)

/-- A row that nobody else touches and that should be read was read, or is still to come. -/
theorem Settled.read_or_behind (settled : Settled around command options start t₀ state db)
    (turn : around.others db.table t) (undisturbed : Undisturbed around id) {row : RawEventRow}
    (stood : t₀.find id = some row) (selected : options.filter.test row = true) :
    row ∈ db.reads ∨ row ∈ t.behind options.filter.test state.cursorId := by
  by_cases reached : ∃ last ∈ db.reads, id ≤ last.id
  · exact .inl ((settled.rows id undisturbed).covered row stood selected reached)
  · have after : ∀ earlier ∈ db.reads, earlier.id < id := fun earlier mem =>
      not_le.1 fun le => reached ⟨earlier, mem, le⟩
    have stands := (settled.untouched turn undisturbed after).trans stood
    obtain ⟨member, same⟩ := KeyedTable.find_eq_some.1 stands
    refine .inr (KeyedTable.mem_behind.2 ⟨member, selected, fun cursor is => ?_⟩)
    rw [settled.cursor, Option.map_eq_some_iff] at is
    obtain ⟨last, is, rfl⟩ := is
    exact same ▸ after last (List.mem_of_getLast? is)

/-- A page is read. -/
theorem Settled.of_page (settled : Settled around command options start t₀ state db)
    (turn : around.others db.table t) {take : ℕ}
    (room : ∀ most, options.limit = some most → db.reads.length + take ≤ most) :
    BackfillLaw around command options t₀
      (db.read t (t.page options.filter.test state.cursorId take)) := by
  have behind : ∀ row ∈ t.page options.filter.test state.cursorId take,
      row ∈ t.behind options.filter.test state.cursorId := fun row member =>
    KeyedTable.mem_behind_of_mem_page member
  refine ⟨?_, ?_, ?_, ?_, ?_⟩
  · refine List.pairwise_append.2 ⟨settled.ordered, t.page_sorted _ _ _, ?_⟩
    exact fun earlier mem row member => settled.behind (behind row member) earlier mem
  · intro row member
    rcases List.mem_append.1 member with earlier | now
    · exact settled.selected row earlier
    · exact (KeyedTable.mem_behind.1 (behind row now)).2.1
  · intro most limit
    refine List.length_append.le.trans ?_
    exact (Nat.add_le_add_left KeyedTable.length_page_le _).trans (room most limit)
  · exact ⟨db.reads, .inl rfl, settled.complete⟩
  · intro id undisturbed
    have law := settled.rows id undisturbed
    refine ⟨?_, ?_, (undisturbed _ _ turn).trans law.current⟩
    · intro row member same
      rcases List.mem_append.1 member with earlier | now
      · exact law.read row earlier same
      · have after : ∀ earlier ∈ db.reads, earlier.id < id :=
          same ▸ settled.behind (behind row now)
        rw [← settled.untouched turn undisturbed after]
        exact KeyedTable.find_eq_some.2 ⟨(KeyedTable.mem_behind.1 (behind row now)).1, same⟩
    · intro row stood selected ⟨last, member, upTo⟩
      have own : row.id = id := (KeyedTable.find_eq_some.1 stood).2
      rcases settled.read_or_behind turn undisturbed stood selected with read | coming
      · exact List.mem_append_left _ read
      · rcases List.mem_append.1 member with earlier | now
        · exact absurd (own ▸ upTo) (settled.behind coming last earlier).not_ge
        · exact List.mem_append_right _
            (KeyedTable.mem_page_of_covered coming now (own.symm ▸ upTo))

/-- The updates of a page are carried out. -/
theorem BackfillLaw.of_committed (law : BackfillLaw around command options t₀ db)
    (turn : around.others db.table t)
    (written : t.write RawEventUpdateInput.apply RawEventUpdateInput.id_apply updates = some t')
    (complete : db.writes ++ updates = if options.dryRun then [] else command.planned db.reads) :
    BackfillLaw around command options t₀
      { db with table := t', writes := db.writes ++ updates } := by
  refine ⟨law.ordered, law.selected, law.limited, ⟨db.reads, .inr rfl, complete⟩,
    fun id undisturbed => ?_⟩
  have row := law.rows id undisturbed
  refine ⟨row.read, row.covered, ?_⟩
  have together : applied RawEventUpdateInput.apply (db.writes ++ updates) id =
      applied RawEventUpdateInput.apply updates id ∘ applied RawEventUpdateInput.apply db.writes id :=
    funext fun _ => KeyedTable.applied_append
  rw [KeyedTable.find_write written, undisturbed _ _ turn, row.current, Option.map_map, together]

/-! ## Runs -/

theorem safe_callBackfill {c : BackfillCall} {J : Database → Prop}
    {Q : Except BackfillError c.Reply → Database → Prop} (before : J db)
    (answered : ∀ reply db', Answers around db c reply db' →
      J db' ∧ Q (reply.mapError .database) db') :
    (callBackfill c).safe (Answers around) J Q db := by
  refine ⟨before, fun reply db' step => ?_⟩
  have post := answered reply db' step
  rcases reply with e | value
  · exact post
  · exact post

theorem safe_saveUpdates (law : BackfillLaw around command options t₀ db)
    {done rows : List RawEventRow} (reads : db.reads = done ++ rows)
    (before : db.writes = if options.dryRun then [] else command.planned done)
    (due : updates = command.planned rows) :
    (saveUpdates options updates).safe (Answers around) (BackfillLaw around command options t₀)
      (fun outcome db' =>
        match outcome with
        | .ok saved => db'.reads = db.reads ∧
            db'.writes = (if options.dryRun then [] else command.planned db.reads) ∧
            db'.writes.length = db.writes.length + saved
        | .error error => Explained around command options db' error) db := by
  unfold saveUpdates
  by_cases idle : (options.dryRun || updates.isEmpty) = true
  · rw [if_pos idle]
    refine ⟨law, rfl, ?_, rfl⟩
    rw [before, reads, Backfill.planned_append, ← due]
    rcases Bool.or_eq_true_iff.1 idle with dry | none
    · rw [if_pos dry, if_pos dry]
    · rw [List.isEmpty_iff.1 none, List.append_nil]
  · rw [if_neg idle]
    rw [Bool.or_eq_true, not_or] at idle
    rw [if_neg idle.1] at before
    have complete : db.writes ++ updates = command.planned db.reads := by
      rw [before, due, reads, Backfill.planned_append]
    refine safe_bind (safe_callBackfill (c := .transaction updates)
      (Q := fun reply db' =>
        match reply with
        | .ok _ => db'.reads = db.reads ∧ db'.writes = db.writes ++ updates
        | .error error => Explained around command options db' error) law fun reply db' step => ?_)
      (fun _ db' post law' => ⟨law', ?_⟩) fun _ _ post _ => post
    · cases step with
      | committed turn written replied =>
          refine ⟨law.of_committed turn written ?_, ?_⟩
          · rw [if_neg idle.1, complete]
          · rcases reply with message | _
            · exact replied.resolve_left fun same => nomatch same
            · exact ⟨rfl, rfl⟩
      | failed turn fails => exact ⟨law.of_others turn, fails⟩
    · obtain ⟨kept, written⟩ := post
      rw [written, if_neg idle.1]
      exact ⟨kept, complete, List.length_append⟩

/-- Where the limit is reached. -/
theorem Settled.finished_of_limit (settled : Settled around command options start t₀ state db)
    (spent : state.remaining = some 0) : Finished around command options start t₀ state db := by
  refine ⟨settled.scanned, settled.updated, settled.complete, settled.noted, ?_⟩
  intro id _ row _ _
  refine .inr ?_
  rw [settled.remaining, Option.map_eq_some_iff] at spent
  obtain ⟨most, limit, none⟩ := spent
  have most_le : most ≤ db.reads.length := Nat.sub_eq_zero_iff_le.1 none
  rw [limit, (settled.limited most limit).antisymm most_le]

/-- Where a page is empty. -/
theorem Settled.finished_of_empty (settled : Settled around command options start t₀ state db)
    (turn : around.others db.table t) {take : ℕ} (positive : 0 < take)
    (empty : t.page options.filter.test state.cursorId take = []) :
    Finished around command options start t₀ state (db.read t []) := by
  have reads : (db.read t []).reads = db.reads := List.append_nil _
  refine ⟨?_, settled.updated, ?_, ?_, ?_⟩
  · rw [reads, settled.scanned]
  · rw [reads]
    exact settled.complete
  · rw [reads, settled.noted]
  rw [reads]
  intro id undisturbed row stood selected
  rcases settled.read_or_behind turn undisturbed stood selected with read | coming
  · exact .inl read
  · have short : (t.page options.filter.test state.cursorId take).length < take := by
      rw [empty]
      exact positive
    rw [← KeyedTable.page_eq_behind short, empty] at coming
    cases coming

/-- How many rows a page asks for. -/
theorem Settled.take (settled : Settled around command options start t₀ state db)
    (unspent : state.remaining ≠ some 0) {take : ℕ}
    (is : take = (state.remaining.map (min options.batchSize)).getD options.batchSize) :
    0 < take ∧ ∀ most, options.limit = some most → db.reads.length + take ≤ most := by
  have positive := options.batchSize_pos
  rw [settled.remaining] at is unspent
  cases limit : options.limit with
  | none =>
      rw [limit] at is
      exact ⟨is ▸ positive, fun _ same => nomatch same⟩
  | some most =>
      have under := settled.limited most limit
      rw [limit] at is unspent
      simp only [Option.map_some, Option.getD_some, ne_eq, Option.some.injEq] at is unspent
      refine ⟨by omega, fun most' same => ?_⟩
      cases same
      omega

theorem safe_backfillPage (settled : Settled around command options start t₀ state db) :
    (backfillPage command options state).safe (Answers around) (BackfillLaw around command options t₀)
      (fun outcome db' =>
        match outcome with
        | .ok (.again state') => Settled around command options start t₀ state' db' ∧
            db.reads.length < db'.reads.length
        | .ok (.leave state') => Finished around command options start t₀ state' db'
        | .error error => Explained around command options db' error) db := by
  unfold backfillPage
  split_ifs with spent
  · exact ⟨settled.toBackfillLaw, settled.finished_of_limit spent⟩
  · obtain ⟨positive, room⟩ := settled.take spent rfl
    refine safe_bind (P := fun reply db' =>
        match reply with
        | .ok events => ∃ t, around.others db.table t ∧
            db' = db.read t events ∧
            events = t.page options.filter.test state.cursorId
              ((state.remaining.map (min options.batchSize)).getD options.batchSize)
        | .error error => Explained around command options db' error)
      (safe_callBackfill settled.toBackfillLaw fun reply db' step => ?_)
      (fun events db' found law => ?_) fun _ _ post _ => post
    · cases step with
      | found turn => exact ⟨settled.of_page turn room, _, turn, rfl, rfl⟩
      | failed turn fails => exact ⟨settled.toBackfillLaw.of_others turn, fails⟩
    · obtain ⟨t, turn, rfl, page⟩ := found
      cases last : events.getLast? with
      | none =>
          have none := List.getLast?_eq_none_iff.1 last
          subst none
          exact ⟨law, settled.finished_of_empty turn positive page.symm⟩
      | some last' =>
          cases examined : examineRows command events state.report with
          | error error =>
              have throws := throwsFirst_of_examineRows examined
              exact ⟨law, throws.after (Backfill.examined settled.noted), settled.complete⟩
          | ok result =>
              obtain ⟨report, updates⟩ := result
              obtain ⟨noted, due⟩ := examineRows_eq_ok.1 examined
              refine safe_bind (safe_saveUpdates law rfl settled.complete due)
                (fun saved db' post law' => ⟨law', ?_⟩) fun _ _ post _ => post
              obtain ⟨kept, complete, length⟩ := post
              refine ⟨⟨law', ?_, ?_, ?_, ?_, ?_, ?_⟩, ?_⟩
              · rw [kept, Database.reads_read, List.getLast?_append, last]
                rfl
              · rw [kept, Database.reads_read, List.length_append, settled.remaining, Option.map_map]
                exact congrArg (options.limit.map ·) (funext fun most => Nat.sub_sub _ _ _)
              · rw [kept, Database.reads_read, List.length_append, settled.scanned]
              · rw [length, settled.updated]
                rfl
              · rw [complete, kept]
              · rw [kept, Database.reads_read, List.foldlM_append, settled.noted]
                exact noted
              · rw [kept, Database.reads_read, List.length_append]
                exact Nat.lt_add_of_pos_right (List.length_pos_of_mem (List.mem_of_getLast? last))

theorem BackfillLaw.atStart (options : BackfillOptions) (table : RawEventTable) :
    BackfillLaw around command options table (Database.start table) := by
  refine ⟨List.Pairwise.nil, ?_, fun _ _ => Nat.zero_le _, ⟨[], .inl rfl, ?_⟩, ?_⟩
  · exact fun row none => nomatch none
  · split_ifs
    · rfl
    · rfl
  · refine fun id _ => ⟨fun row none => (by cases none), ?_, ?_⟩
    · intro row _ _ read
      obtain ⟨last, member, _⟩ := read
      cases member
    · exact Option.map_id'.symm

/-- How a run ended does not depend on the table that is left. -/
theorem Ended.of_table {outcome : Except BackfillError (Option (BackfillState σ))}
    (ended : Ended around command options (Finished around command options start t₀) outcome db) :
    Ended around command options (Finished around command options start t₀) outcome { db with table := t } := by
  rcases outcome with error | none | state
  · cases error with
    | cli error => exact ended
    | type error => exact ended
    | database message => exact ended
  · trivial
  · exact ⟨ended.scanned, ended.updated, ended.complete, ended.noted, ended.exhaustive⟩

/-- Disconnecting comes last. -/
theorem safe_disconnecting {α : Type} {p : BackfillProgram α}
    {Q : Except BackfillError α → Database → Prop}
    (ran : p.safe (Answers around) (BackfillLaw around command options t₀) Q db)
    (of_table : ∀ outcome db t, Q outcome db → Q outcome { db with table := t })
    (of_fails : ∀ message db, around.fails → Q (.error (.database message)) db) :
    (disconnecting p).safe (Answers around) (BackfillLaw around command options t₀) Q db := by
  refine safe.settle ran fun outcome db post law => ?_
  refine safe_bind (P := fun reply db' =>
      match reply with
      | .ok _ => ∃ t, db' = { db with table := t }
      | .error error => Q (.error error) db')
    (safe_callBackfill law fun reply db' step => ?_) (fun _ db' same law' => ⟨law', ?_⟩)
    fun _ _ post _ => post
  · cases step with
    | failed turn fails => exact ⟨law.of_others turn, of_fails _ _ fails⟩
    | disconnected turn => exact ⟨law.of_others turn, _, rfl⟩
  · obtain ⟨t, rfl⟩ := same
    exact of_table outcome db t post

theorem Settled.atStart (options : BackfillOptions) (start : σ) (table : RawEventTable) :
    Settled around command options start table { remaining := options.limit, report := start }
      (Database.start table) := by
  refine ⟨BackfillLaw.atStart options table, rfl, ?_, rfl, rfl, ?_, rfl⟩
  · exact Option.map_id'.symm
  · split_ifs
    · rfl
    · rfl

/-- The law holds at every query of every run. -/
theorem backfill_law (command : Backfill σ τ) (options : BackfillOptions) (start : σ) (pages : ℕ)
    (table : RawEventTable) :
    (backfill command options start pages).safe (Answers around)
      (BackfillLaw around command options table)
      (Ended around command options (Finished around command options start table)) (Database.start table) := by
  have looped := safe_loop (Q := Ended around command options (Finished around command options start table))
    (fun state db (settled : Settled around command options start table state db) =>
      (safe_backfillPage settled).mono (fun _ law => law) fun outcome db' _ post => by
        rcases outcome with error | state' | state'
        · exact post
        · exact post.1
        · exact post)
    (fun _ _ settled => ⟨settled.toBackfillLaw, trivial⟩) pages (Settled.atStart options start table)
  exact safe_disconnecting looped (fun _ _ _ ended => ended.of_table) fun _ _ fails => fails

/-! ## What a finished run leaves -/

/-- Something that counts the rows, kept by each of them. -/
theorem Backfill.noted_keeps {P : ℕ → ℕ → σ → Prop}
    (keeps : ∀ scanned due report row found, P scanned due report →
      P (scanned + 1) (due + (command.update row found).toList.length)
        (command.count row found report))
    {rows : List RawEventRow} {scanned due : ℕ} {report report' : σ} (holds : P scanned due report)
    (noted : rows.foldlM command.note report = .ok report') :
    P (scanned + rows.length) (due + (command.planned rows).length) report' := by
  induction rows generalizing scanned due report with
  | nil =>
      cases noted
      exact holds
  | cons row rows ih =>
      rw [List.foldlM_cons] at noted
      obtain ⟨next, first, rest⟩ := bind_eq_ok.1 noted
      obtain ⟨found, examined, rfl⟩ := map_eq_ok.1 first
      have counted := ih (keeps scanned due report row found holds) rest
      have split : command.planned (row :: rows) =
          (command.update row found).toList.map (row.id, ·) ++ command.planned rows := by
        unfold Backfill.planned
        rw [List.flatMap_cons, examined]
        rfl
      rw [split, List.length_append, List.length_map, List.length_cons]
      convert counted using 1
      · omega
      · omega

/-- Without a limit, every row that nobody else touches was read. -/
theorem Finished.read (finished : Finished around command options start t₀ state db)
    (unlimited : options.limit = none) (undisturbed : Undisturbed around id) {row : RawEventRow}
    (stood : t₀.find id = some row) (selected : options.filter.test row = true) : row ∈ db.reads := by
  rcases finished.exhaustive id undisturbed row stood selected with read | limited
  · exact read
  · rw [unlimited] at limited
    cases limited

/-- A row that was read and that nobody else touches stands as its update made it. -/
theorem Finished.final (finished : Finished around command options start t₀ state db)
    (law : BackfillLaw around command options t₀ db) (wet : options.dryRun = false)
    (undisturbed : Undisturbed around id) {row : RawEventRow} (stood : t₀.find id = some row)
    (read : row ∈ db.reads) :
    ∃ found, command.examine row = .ok found ∧
      db.table.find id = some (((command.update row found).map (·.apply row)).getD row) := by
  obtain ⟨found, examined⟩ := Backfill.examined finished.noted row read
  have same : row.id = id := (KeyedTable.find_eq_some.1 stood).2
  have distinct := law.nodup_writes
  have complete := finished.complete
  rw [wet, if_neg Bool.false_ne_true] at complete
  refine ⟨found, examined, ?_⟩
  rw [(law.rows id undisturbed).current, stood, Option.map_some, Option.some.injEq]
  cases asked : command.update row found with
  | some data =>
      refine KeyedTable.applied_of_mem distinct ?_
      rw [complete]
      refine List.mem_flatMap.2 ⟨row, read, List.mem_map.2 ⟨data, ?_, by rw [same]⟩⟩
      rw [examined]
      exact Option.mem_toList.2 asked
  | none =>
      refine KeyedTable.applied_of_not_mem fun member => ?_
      rw [complete] at member
      obtain ⟨update, due, own⟩ := List.mem_map.1 member
      obtain ⟨other, read', same', found', examined', asked'⟩ := Backfill.mem_of_mem_planned due
      have other_eq := (law.rows id undisturbed).read other read' (same'.trans own)
      rw [stood] at other_eq
      cases other_eq
      rw [examined] at examined'
      cases examined'
      rw [asked] at asked'
      cases asked'

end Law

/-! ## Topics -/

namespace Retag

/-- The changes of all kinds. -/
def RetagStats.kinds (stats : RetagStats) : ℕ :=
  stats.retaggedFromEmpty + stats.retaggedToEmpty + stats.retaggedChangedNonEmpty +
    stats.syncedTagsOnly

/-- What is printed adds up. -/
structure Balanced (scanned due : ℕ) (stats : RetagStats) : Prop where
  scanned : scanned = stats.unchanged + stats.changed
  changed : stats.changed = due
  kinds : stats.kinds = stats.changed
  shown : stats.previewRows.length = min DEFAULT_PREVIEW_LIMIT stats.changed

variable {runtime : BackfillRuntime} {allowlist : Topics.CompiledAllowlist}

/-- A change is of one kind. -/
theorem countChange_spec (event : RawEventRow) (nextTopics : List String) (stats : RetagStats) :
    (countChange event nextTopics stats).kinds = stats.kinds + 1 ∧
      (countChange event nextTopics stats).changed = stats.changed ∧
      (countChange event nextTopics stats).unchanged = stats.unchanged ∧
      (countChange event nextTopics stats).previewRows = stats.previewRows := by
  unfold countChange RetagStats.kinds
  split_ifs
  · exact ⟨by dsimp only; omega, rfl, rfl, rfl⟩
  · exact ⟨by dsimp only; omega, rfl, rfl, rfl⟩
  · exact ⟨by dsimp only; omega, rfl, rfl, rfl⟩
  · exact ⟨by dsimp only; omega, rfl, rfl, rfl⟩

theorem preview_spec (event : RawEventRow) (nextTopics : List String) (stats : RetagStats) :
    (preview event nextTopics stats).kinds = stats.kinds ∧
      (preview event nextTopics stats).changed = stats.changed ∧
      (preview event nextTopics stats).unchanged = stats.unchanged ∧
      (preview event nextTopics stats).previewRows.length =
        if stats.previewRows.length < DEFAULT_PREVIEW_LIMIT then stats.previewRows.length + 1
        else stats.previewRows.length := by
  unfold preview
  split_ifs
  · exact ⟨rfl, rfl, rfl, List.length_append⟩
  · exact ⟨rfl, rfl, rfl, rfl⟩

theorem Balanced.keeps {scanned due : ℕ} {stats : RetagStats} (balanced : Balanced scanned due stats)
    (row : RawEventRow) (nextTopics : List String) :
    Balanced (scanned + 1)
      (due + ((command runtime allowlist).update row nextTopics).toList.length)
      ((command runtime allowlist).count row nextTopics stats) := by
  obtain ⟨all, changed, kinds, shown⟩ := balanced
  unfold command
  dsimp only
  by_cases same : row.topics = nextTopics ∧ row.tags = nextTopics
  · rw [if_pos same, if_pos same]
    exact ⟨by dsimp only; omega, changed, kinds, shown⟩
  · rw [if_neg same, if_neg same]
    obtain ⟨kind, counted, other, rows⟩ :=
      countChange_spec row nextTopics { stats with changed := stats.changed + 1 }
    obtain ⟨kind', counted', other', rows'⟩ := preview_spec row nextTopics
      (countChange row nextTopics { stats with changed := stats.changed + 1 })
    have before : ({ stats with changed := stats.changed + 1 } : RetagStats).kinds = stats.kinds :=
      rfl
    rw [rows] at rows'
    refine ⟨?_, ?_, ?_, ?_⟩
    · rw [other', other, counted', counted]
      dsimp only
      omega
    · rw [counted', counted, Option.toList_some, List.length_singleton]
      dsimp only
      omega
    · rw [kind', kind, counted', counted, before]
      dsimp only
      omega
    · rw [rows', counted', counted]
      dsimp only
      split_ifs
      · omega
      · omega

theorem balanced_of_noted {rows : List RawEventRow} {report : RetagStats}
    (noted : rows.foldlM (command runtime allowlist).note {} = .ok report) :
    Balanced rows.length ((command runtime allowlist).planned rows).length report := by
  have none : Balanced 0 0 {} := ⟨rfl, rfl, rfl, rfl⟩
  have counted := Backfill.noted_keeps (P := Balanced)
    (fun _ _ _ row found balanced => balanced.keeps row found) none noted
  rwa [Nat.zero_add, Nat.zero_add] at counted

/-! ## The run -/

/-- What a finished run of `topicsRetag` has done. -/
structure Retagged (runtime : BackfillRuntime) (allowlist : Topics.CompiledAllowlist)
    (around : Surroundings) (options : BackfillOptions) (table : RawEventTable)
    (state : BackfillState RetagStats) (db : Database) : Prop extends
    Finished around (command runtime allowlist) options {} table state db where
  balanced : Balanced state.scanned ((command runtime allowlist).planned db.reads).length state.report
  /-- A row that nobody else touches has the extracted topics as its topics and tags. -/
  retagged : options.dryRun = false → options.limit = none → ∀ id, Undisturbed around id →
    ∀ row, table.find id = some row → options.filter.test row = true → ∃ nextTopics,
      Topics.extractTopics runtime.strings
        { title := row.title, text := row.text, url := row.url } allowlist = .ok nextTopics ∧
      db.table.find id = some { row with topics := nextTopics, tags := nextTopics }

/-- The update of a row, or none, makes its topics and tags the extracted topics. -/
theorem rewritten (row : RawEventRow) (nextTopics : List String) :
    (((command runtime allowlist).update row nextTopics).map (·.apply row)).getD row =
      { row with topics := nextTopics, tags := nextTopics } := by
  unfold command
  dsimp only
  split_ifs with same
  · rcases row with ⟨⟩
    rw [Option.map_none, Option.getD_none, ← same.1]
    dsimp only at same ⊢
    rw [same.2, same.1]
  · rfl

theorem retagged_of_finished {around : Surroundings} {options : BackfillOptions} {table : RawEventTable}
    {state : BackfillState RetagStats} {db : Database}
    (finished : Finished around (command runtime allowlist) options {} table state db)
    (law : BackfillLaw around (command runtime allowlist) options table db) :
    Retagged runtime allowlist around options table state db := by
  refine ⟨finished, ?_, ?_⟩
  · rw [finished.scanned]
    exact balanced_of_noted finished.noted
  · intro wet unlimited id undisturbed row stood selected
    have read := finished.read unlimited undisturbed stood selected
    obtain ⟨nextTopics, examined, final⟩ := finished.final law wet undisturbed stood read
    exact ⟨nextTopics, examined, final.trans (congrArg some (rewritten row nextTopics))⟩

def kafkaAllowlist : Topics.CompiledAllowlist where
  topics := [{ key := "data.kafka", priority := 1, matchers := [.keyword "kafka"] }]
  maxTopicsPerEvent := 5
  defaultPriority := 1
  mutedTopics := []

/-- A process that finds one allowlist. -/
def plainRuntime : BackfillRuntime where
  enrichment := Enrichment.plainEnrichment
  strings := { toLowerCase := id, localeCompare := fun _ _ => 0 }
  databaseUrl _ := .ok "postgresql://localhost:5432/rising_intelligence"
  existsSync _ := true
  resolve := id
  repoAllowlist := "infra/config/topics.allowlist.yaml"
  cwdAllowlist := "infra/config/topics.allowlist.yaml"
  loadAllowlist _ := .ok kafkaAllowlist

/-- `--all` and nothing else. -/
def allOptions : BackfillOptions where
  filter := { missing := false, source := none }
  dryRun := false
  limit := none
  batchSize := DEFAULT_BATCH_SIZE
  batchSize_pos := DEFAULT_BATCH_SIZE_pos

def kafkaRow : RawEventRow where
  id := 1
  eventId := "rss:1"
  source := .rss
  fetchedAt := 1760000000000
  publishedAt := none
  url := some "https://kafka.apache.org/blog"
  title := some "kafka 4.1"
  text := "kafka 4.1 is out"
  authorId := none
  authorHandle := none
  authorDisplayName := none
  engagementScore := none
  engagementComments := none
  engagementLikes := none
  engagementShares := none
  lang := none
  tags := []
  topics := []
  extractedHashtags := []
  extractedUrls := []
  sourceMeta := none

def kafkaTable : RawEventTable where
  rows := [kafkaRow]
  sorted := List.pairwise_singleton _ _

/-- Anything may happen around it. -/
def anySurroundings : Surroundings where
  others _ _ := True
  fails := True

end Retag

end RisingIntelligence.OpsCli
