import ChatBackend.Migrations.Directories

/-!
# Migrations are applied in order, each once

Any number of runs of the migrator overlap and may stop anywhere.  A run works
from the files that it has listed and from a snapshot of what was applied
before; the database refuses a migration that is recorded.  A run that has
passed over some files has found each of them applied or has applied it, so the
file that it applies next is either recorded by now or the first that is not.

`Stands` is that invariant, relative to the list of files that a directory has
in the end: the applied files are the first of them, and what a run is done
with is among those.
-/

namespace ChatBackend.Migrations.MigrationOrder

open Effects
open Effects.Config
open ChatBackend.Migrations.Migrator
open ChatBackend.Migrations.Directories

/-! ## Specification -/

/-- Any number of runs of the migrator and their database. -/
abbrev MigratorConfig (Name : Type*) :=
  Config Name MigratorPort Database MigrateError Unit

/-- All runs at their beginning. -/
def begin (Name : Type*) (sha256 : String → String) (database : Database) :
    MigratorConfig Name where
  shared := database
  threads _ := migrate sha256

/--
The migrations that have been committed are the first of the listed files, each
once and in order, and just these are recorded, with the hashes of their
contents.
-/
def AppliedInOrder (sha256 : String → String) (directory : Directory)
    (database : Database) : Prop :=
  ∃ applied, applied <+: migrationFiles directory.names ∧
    database.committed = applied.map directory.content ∧
      database.rows =
        applied.map fun file => recordOf sha256 file (directory.content file)

/-- The migration files are recorded with the hashes of their contents. -/
def AllApplied (sha256 : String → String) (names : List String)
    (directory : Directory) (database : Database) : Prop :=
  ∀ file ∈ migrationNames names,
    recordOf sha256 file (directory.content file) ∈ database.rows

/-! ## What a run has found -/

section Histories

variable {Name : Type*} [DecidableEq Name] {sha256 : String → String}
  {start : MigratorConfig Name} {schedule : List (Name × Surroundings)}
  {turn : Name × Surroundings} {name : Name} {stage next : Stage}
  {database after : Database}

/-- The stage of a run knows what the run has performed. -/
structure Knows (start : MigratorConfig Name)
    (sha256 : String → String) (schedule : List (Name × Surroundings))
    (name : Name) (stage : Stage) : Prop where
  listed : ∀ found names,
    start.Performs migratorAdapter schedule name .readdir found (some names) →
      stage.listing? = some (migrationFiles names)
  snapshot : ∀ found rows,
    start.Performs migratorAdapter schedule name .selectApplied found rows →
      stage.snapshot? = some rows
  applied : ∀ found content row,
    start.Performs migratorAdapter schedule name (.apply content row) found
        () →
      row.name ∈ stage.finished
  taken : (stage.program sha256).Finished ∨
    schedule.countP (fun turn => decide (turn.1 = name)) ≤ stage.turns

theorem knows_starting :
    Knows (begin Name sha256 database) sha256 [] name .starting where
  listed _ _ performed := absurd performed performs_nil
  snapshot _ _ performed := absurd performed performs_nil
  applied _ _ _ performed := absurd performed performs_nil
  taken := .inr le_rfl

/-- A turn of another run is nothing to a run. -/
theorem Knows.other (knows : Knows start sha256 schedule name stage)
    (elsewhere : turn.1 ≠ name) :
    Knows start sha256 (schedule ++ [turn]) name stage := by
  have before {op : MigratorOp} {found : Surroundings} {answer : op.Answer}
      (performed : start.Performs migratorAdapter (schedule ++ [turn]) name op
        found answer) :
      start.Performs migratorAdapter schedule name op found answer := by
    rcases performs_concat_iff.mp performed with earlier | ⟨same, -⟩
    · exact earlier
    · exact absurd (congrArg Prod.fst same) elsewhere
  exact
    { listed := fun found names performed =>
        knows.listed found names (before performed)
      snapshot := fun found rows performed =>
        knows.snapshot found rows (before performed)
      applied := fun found content row performed =>
        knows.applied found content row (before performed)
      taken := by
        rw [List.countP_append]
        simpa [elsewhere] using knows.taken }

/-- A turn of a run adds to what it knows what it performs. -/
theorem Knows.own (knows : Knows start sha256 schedule turn.1 stage)
    (stands : (start.play migratorAdapter schedule).threads turn.1 =
      stage.program sha256)
    (moves : Moves sha256 turn.2
      (start.play migratorAdapter schedule).shared stage next after) :
    Knows start sha256 (schedule ++ [turn]) turn.1 next := by
  have now {op : MigratorOp} {found : Surroundings} {answer : op.Answer}
      (performed : start.Performs migratorAdapter (schedule ++ [turn]) turn.1
        op found answer) :
      start.Performs migratorAdapter schedule turn.1 op found answer ∨
        (stage.program sha256).pending = some op ∧ ∃ answered,
          migratorAdapter op turn.2
            (start.play migratorAdapter schedule).shared =
              .ok (answer, answered) := by
    rcases performs_concat_iff.mp performed with
      earlier | ⟨same, waits, answered, answers⟩
    · exact .inl earlier
    · rw [Config.pending, stands] at waits
      exact .inr ⟨waits, answered, (congrArg Prod.snd same) ▸ answers⟩
  exact
    { listed := by
        intro found names performed
        rcases now performed with earlier | ⟨waits, answered, answers⟩
        · exact moves.keeps_listing (knows.listed found names earlier)
        · exact moves.lists waits answers
      snapshot := by
        intro found rows performed
        rcases now performed with earlier | ⟨waits, answered, answers⟩
        · exact moves.keeps_snapshot (knows.snapshot found rows earlier)
        · exact moves.selects_snapshot waits answers
      applied := by
        intro found content row performed
        rcases now performed with earlier | ⟨waits, answered, answers⟩
        · exact moves.keeps_finished
            (knows.applied found content row earlier)
        · exact moves.applies_finished waits answers
      taken := by
        rw [List.countP_append]
        simpa using moves.takes knows.taken }

/-- What every step keeps holds of the stages that a schedule leads to. -/
theorem exists_stages (fair : Name × Surroundings → Prop)
    (invariant : Database → (Name → Stage) → Prop)
    (initial : invariant database fun _ => .starting)
    (step : ∀ before stages turn next after, fair turn →
      invariant before stages →
        Moves sha256 turn.2 before (stages turn.1) next after →
          invariant after (Function.update stages turn.1 next))
    (schedule : List (Name × Surroundings))
    (fairly : ∀ turn ∈ schedule, fair turn) :
    ∃ stages : Name → Stage,
      (∀ name, ((begin Name sha256 database).play migratorAdapter
          schedule).threads name = (stages name).program sha256) ∧
        (∀ name, Knows (begin Name sha256 database) sha256 schedule name
          (stages name)) ∧
          invariant ((begin Name sha256 database).play migratorAdapter
            schedule).shared stages := by
  induction schedule using List.reverseRecOn with
  | nil => exact ⟨_, fun _ => rfl, fun _ => knows_starting, initial⟩
  | append_singleton schedule turn induction =>
      obtain ⟨stages, stand, know, holds⟩ :=
        induction fun other member => fairly other (List.mem_append_left _ member)
      rcases (stages turn.1).moves turn.2
          ((begin Name sha256 database).play migratorAdapter schedule).shared
        with ⟨next, after, resumed, moves⟩
      rw [← stand] at resumed
      refine ⟨Function.update stages turn.1 next, ?_, ?_, ?_⟩
      · intro name
        rw [play_concat, advance_eq resumed]
        dsimp only
        by_cases same : name = turn.1
        · subst same
          rw [Function.update_self, Function.update_self]
        · rw [Function.update_of_ne same, Function.update_of_ne same]
          exact stand name
      · refine (Function.forall_update_iff stages fun name stage =>
          Knows (begin Name sha256 database) sha256 (schedule ++ [turn]) name
            stage).mpr ⟨(know turn.1).own (stand turn.1) moves, ?_⟩
        exact fun name other => (know name).other other.symm
      · rw [play_concat, advance_eq resumed]
        exact step _ stages turn next after (fairly turn (by simp)) holds moves

end Histories

/-! ## The committed prefix -/

section Prefixes

variable {sha256 content : String → String} {files finished rest : List String}
  {file : String} {count later : Nat} {database after : Database}
  {found : Surroundings} {stage next : Stage}

/-- The database records the first files, so many of them. -/
structure Records (sha256 content : String → String) (files : List String)
    (count : Nat) (database : Database) : Prop where
  within : count ≤ files.length
  committed : database.committed = (files.take count).map content
  rows : database.rows =
    (files.take count).map fun file => recordOf sha256 file (content file)

/-- A snapshot of the first files, of no more than so many of them. -/
def Snapshot (sha256 content : String → String) (files : List String)
    (count : Nat) (applied : List (Nat × String)) : Prop :=
  ∃ taken, taken ≤ count ∧
    applied = (files.take taken).map fun file =>
      (migrationId file, sha256 (content file))

/-- A run is done with files that have been applied, and goes on in order. -/
def Stands (sha256 content : String → String) (files : List String)
    (count : Nat) : Stage → Prop
  | .selecting listed => listed <+: files
  | .looping applied finished rest =>
      finished ++ rest <+: files ∧ finished.length ≤ count ∧
        Snapshot sha256 content files count applied
  | .applying applied finished file text rest =>
      finished ++ file :: rest <+: files ∧ finished.length ≤ count ∧
        Snapshot sha256 content files count applied ∧ text = content file
  | _ => True

theorem Stands.mono (stands : Stands sha256 content files count stage)
    (more : count ≤ later) : Stands sha256 content files later stage := by
  cases stage with
  | looping applied finished rest =>
      rcases stands with ⟨listed, behind, taken, early, same⟩
      exact ⟨listed, behind.trans more, taken, early.trans more, same⟩
  | applying applied finished file text rest =>
      rcases stands with ⟨listed, behind, ⟨taken, early, same⟩, read⟩
      exact ⟨listed, behind.trans more, ⟨taken, early.trans more, same⟩, read⟩
  | _ => exact stands

/-- What a run finds in its surroundings agrees with the final directory. -/
structure Agrees (content : String → String) (files : List String)
    (found : Surroundings) : Prop where
  listed : migrationFiles found.directory.names <+: files
  contents : ∀ file ∈ found.directory.names, file ∈ files →
    found.directory.content file = content file

/-- The next file is among the first ones exactly if these go beyond it. -/
theorem mem_take_of_next (listed : finished ++ file :: rest <+: files)
    (beyond : finished.length < count) : file ∈ files.take count := by
  rcases listed with ⟨others, rfl⟩
  rw [List.append_assoc, List.take_append, List.cons_append,
    List.take_cons (Nat.sub_pos_of_lt beyond)]
  exact List.mem_append_right _ (.head _)

theorem beyond_of_same_id (numbered : (files.map migrationId).Nodup)
    (listed : finished ++ file :: rest <+: files) {other : String}
    (member : other ∈ files.take count)
    (same : migrationId other = migrationId file) : finished.length < count := by
  by_contra within
  rcases listed with ⟨others, rfl⟩
  rw [List.append_assoc, List.map_append, List.nodup_append] at numbered
  rw [List.append_assoc, List.take_append_of_le_length (not_lt.mp within)]
    at member
  exact numbered.2.2 _ (List.mem_map_of_mem (List.mem_of_mem_take member)) _
    (List.mem_map_of_mem (.head _)) same

theorem take_succ_of_next (listed : finished ++ file :: rest <+: files) :
    files.take (finished.length + 1) = files.take finished.length ++ [file] := by
  rcases listed with ⟨others, rfl⟩
  rw [List.append_assoc, List.take_append, List.take_append_of_le_length le_rfl,
    List.take_of_length_le (Nat.le_succ _), List.take_length,
    Nat.add_sub_cancel_left]
  rfl

theorem exists_mem_of_recordedHash {applied : List (Nat × String)} {id : Nat}
    {hash : String} (recorded : recordedHash applied id = some hash) :
    ∃ entry ∈ applied, entry.1 = id := by
  by_contra none
  push Not at none
  have absent : recordedHash applied id = Option.none := by
    refine List.lookup_eq_none_iff.mpr fun entry member => ?_
    rw [bne_iff_ne]
    exact (none entry (List.mem_reverse.mp member)).symm
  cases absent.symm.trans recorded

/-- A step of a run that stands in order keeps the records in order. -/
theorem Stands.moves (numbered : (files.map migrationId).Nodup)
    (records : Records sha256 content files count database)
    (stands : Stands sha256 content files count stage)
    (agrees : Agrees content files found)
    (moves : Moves sha256 found database stage next after) :
    ∃ later, count ≤ later ∧ Records sha256 content files later after ∧
      Stands sha256 content files later next := by
  cases moves with
  | fails stage op error waits fails => exact ⟨count, le_rfl, records, trivial⟩
  | creates =>
      exact ⟨count, le_rfl, { records with rows := records.rows }, trivial⟩
  | unreadable => exact ⟨count, le_rfl, records, trivial⟩
  | finds listing listed =>
      refine ⟨count, le_rfl, records, ?_⟩
      by_cases empty : listing = []
      · rw [if_pos empty]
        exact ⟨List.nil_prefix, Nat.zero_le _, 0, Nat.zero_le _, rfl⟩
      · rw [if_neg empty, listed]
        exact agrees.listed
  | selects listing rows stored =>
      have same : rows = database.rows := by
        rw [Database.rows, stored]
        rfl
      refine ⟨count, le_rfl, records, stands, Nat.zero_le _, count, le_rfl, ?_⟩
      rw [same, records.rows, List.map_map]
      rfl
  | checks applied finished file rest present recorded =>
      rcases stands with ⟨listed, behind, taken, early, rfl⟩
      obtain ⟨entry, member, same⟩ := exists_mem_of_recordedHash recorded
      rcases List.mem_map.mp member with ⟨other, stored, rfl⟩
      have beyond : finished.length < taken :=
        beyond_of_same_id numbered listed stored same
      refine ⟨count, le_rfl, records, ?_, ?_, taken, early, rfl⟩
      · rw [List.append_assoc]
        exact listed
      · rw [List.length_append, List.length_singleton]
        exact beyond.trans_le early
  | mismatches applied finished file rest =>
      exact ⟨count, le_rfl, records, trivial⟩
  | reads applied finished file rest present unrecorded =>
      rcases stands with ⟨listed, behind, snapshot⟩
      refine ⟨count, le_rfl, records, listed, behind, snapshot, ?_⟩
      exact agrees.contents file present
        (listed.subset (List.mem_append_right _ (.head _)))
  | applies applied finished file text rest rows stored fresh =>
      rcases stands with ⟨listed, behind, ⟨taken, early, rfl⟩, rfl⟩
      have same : rows = database.rows := by
        rw [Database.rows, stored]
        rfl
      -- a file among those recorded would not be fresh
      have last : count = finished.length := by
        refine le_antisymm (not_lt.mp fun beyond => ?_) behind
        have member : recordOf sha256 file (content file) ∈ rows := by
          rw [same, records.rows]
          exact List.mem_map_of_mem (mem_take_of_next listed beyond)
        exact fresh _ member rfl
      subst last
      refine ⟨finished.length + 1, Nat.le_succ _, ⟨?_, ?_, ?_⟩, ?_, ?_, taken,
        early.trans (Nat.le_succ _), rfl⟩
      · have long := listed.length_le
        rw [List.length_append, List.length_cons] at long
        omega
      · rw [take_succ_of_next listed, List.map_append, ← records.committed]
        rfl
      · rw [take_succ_of_next listed, List.map_append, ← records.rows, ← same]
        rfl
      · rw [List.append_assoc]
        exact listed
      · rw [List.length_append, List.length_singleton]
  | idle stage ended => exact ⟨count, le_rfl, records, stands⟩

end Prefixes

/-! ## The runs of a directory that only grows -/

/-- The database and all runs are in order with respect to the final files. -/
def InOrder {Name : Type*} (sha256 content : String → String)
    (files : List String) (database : Database) (stages : Name → Stage) :
    Prop :=
  ∃ count, Records sha256 content files count database ∧
    ∀ name, Stands sha256 content files count (stages name)

section Growing

variable {Name : Type*} {sha256 content : String → String}
  {files : List String} {stages : Name → Stage} {database after : Database}
  {schedule : List (Name × Surroundings)} {turn : Name × Surroundings}
  {next : Stage}

theorem inOrder_empty :
    InOrder sha256 content files .empty fun _ : Name => .starting :=
  ⟨0, ⟨Nat.zero_le _, rfl, rfl⟩, fun _ => trivial⟩

/-- A step of one run keeps all in order. -/
theorem InOrder.moves [DecidableEq Name]
    (numbered : (files.map migrationId).Nodup)
    (inOrder : InOrder sha256 content files database stages)
    (agrees : Agrees content files turn.2)
    (moves : Moves sha256 turn.2 database (stages turn.1) next after) :
    InOrder sha256 content files after
      (Function.update stages turn.1 next) := by
  rcases inOrder with ⟨count, records, stands⟩
  obtain ⟨later, more, recordsAfter, standsAfter⟩ :=
    (stands turn.1).moves numbered records agrees moves
  refine ⟨later, recordsAfter, ?_⟩
  exact (Function.forall_update_iff stages fun _ stage =>
    Stands sha256 content files later stage).mpr
      ⟨standsAfter, fun name _ => (stands name).mono more⟩

/-- What is found on the way agrees with what is found in the end. -/
theorem agrees_of_evolves
    (evolves : Evolves ((schedule ++ [turn]).map (·.2.directory))) :
    ∀ earlier ∈ schedule ++ [turn],
      Agrees turn.2.directory.content
        (migrationFiles turn.2.directory.names) earlier.2 := by
  rcases evolves with ⟨grow, numbered⟩
  have last : turn.2.directory ∈ (schedule ++ [turn]).map (·.2.directory) :=
    List.mem_map_of_mem (by simp)
  rw [List.map_append, List.pairwise_append] at grow
  intro earlier member
  rcases List.mem_append.mp member with early | same
  · have grows : Grows earlier.2.directory turn.2.directory :=
      grow.2.2 _ (List.mem_map_of_mem early) _ (.head _)
    refine ⟨grows.begins (numbered _ (List.mem_map_of_mem member))
      (numbered _ last), ?_⟩
    intro file present listed
    have named := isMigration_of_mem (mem_migrationFiles.mp listed)
    exact ((grows.keeps file (List.mem_filter.mpr ⟨present, named⟩)).2).symm
  · cases List.mem_singleton.mp same
    exact ⟨List.prefix_rfl, fun _ _ _ => rfl⟩

/-- What is recorded of the final files is applied in order. -/
theorem Records.appliedInOrder {directory : Directory} {count : Nat}
    (records : Records sha256 directory.content
      (migrationFiles directory.names) count database) :
    AppliedInOrder sha256 directory database :=
  ⟨_, List.take_prefix _ _, records.committed, records.rows⟩

/-- A run that has ended has looked at every file it has listed. -/
theorem exists_looping_of_done {stage : Stage}
    (ended : stage.program sha256 = .done ())
    (listed : stage.listing? = some files) :
    ∃ applied, stage = .looping applied files [] := by
  cases stage with
  | looping applied finished rest =>
      cases rest with
      | nil =>
          cases listed
          exact ⟨applied, by rw [List.append_nil]⟩
      | cons file rest => cases ended
  | unlisted => cases listed
  | _ => cases ended

theorem Stands.allApplied {applied : List (Nat × String)} {names : List String}
    {directory : Directory} {count : Nat}
    (records : Records sha256 directory.content
      (migrationFiles directory.names) count database)
    (stands : Stands sha256 directory.content (migrationFiles directory.names)
      count (.looping applied (migrationFiles names) [])) :
    AllApplied sha256 names directory database := by
  rcases stands with ⟨listed, behind, -⟩
  rw [List.append_nil] at listed
  intro file member
  have early : migrationFiles names <+:
      (migrationFiles directory.names).take count :=
    List.prefix_take_iff.mpr ⟨listed, behind⟩
  rw [records.rows]
  exact List.mem_map_of_mem (early.subset (mem_migrationFiles.mpr member))

end Growing

/-! ## Files that differ from their records -/

section Changed

variable {sha256 : String → String} {stage next : Stage}
  {applied : List (Nat × String)} {files : List String}
  {file other recorded : String} {id : Nat} {found : Surroundings}
  {database after : Database}

/-- The ids that the database records and those of a snapshot are distinct. -/
def Distinct (database : Database) (stage : Stage) : Prop :=
  (database.rows.map MigrationRow.id).Nodup ∧
    ∀ applied, stage.snapshot? = some applied →
      (applied.map Prod.fst).Nodup

/-- A run that has listed the file and read its record has yet to come to it. -/
def Ahead (file recorded : String) (stage : Stage) : Prop :=
  ∀ applied files, stage.snapshot? = some applied →
    stage.listing? = some files → (migrationId file, recorded) ∈ applied →
      file ∈ files → file ∈ stage.rest

theorem recordedHash_eq_of_mem (distinct : (applied.map Prod.fst).Nodup)
    (member : (id, recorded) ∈ applied) :
    recordedHash applied id = some recorded := by
  obtain ⟨before, behind, rfl⟩ := List.append_of_mem member
  rw [List.map_append, List.map_cons, List.nodup_append] at distinct
  refine List.lookup_eq_some_iff.mpr
    ⟨behind.reverse, before.reverse, by simp, ?_⟩
  intro entry later
  have others := (List.nodup_cons.mp distinct.2.1).1
  rw [bne_iff_ne]
  intro same
  refine others (List.mem_map.mpr ⟨entry, List.mem_reverse.mp later, ?_⟩)
  exact same.symm

/-- A step keeps the ids distinct. -/
theorem Distinct.moves (distinct : Distinct database stage)
    (moves : Moves sha256 found database stage next after) :
    Distinct after next := by
  rcases distinct with ⟨rows, snapshot⟩
  cases moves with
  | fails stage op error waits fails => exact ⟨rows, snapshot⟩
  | creates => exact ⟨rows, fun _ taken => nomatch taken⟩
  | unreadable unreadable => exact ⟨rows, fun _ taken => nomatch taken⟩
  | finds listing listed =>
      refine ⟨rows, fun applied taken => ?_⟩
      by_cases empty : listing = []
      · rw [if_pos empty] at taken
        cases taken
        exact List.nodup_nil
      · rw [if_neg empty] at taken
        cases taken
  | selects listing stored table =>
      refine ⟨rows, fun applied taken => ?_⟩
      cases taken
      rw [Database.rows, table] at rows
      rw [List.map_map]
      exact rows
  | applies applied finished file text rest stored table fresh =>
      refine ⟨?_, snapshot⟩
      rw [Database.rows, table] at rows
      change ((stored ++ [recordOf sha256 file text]).map MigrationRow.id).Nodup
      rw [List.map_append, List.nodup_append]
      refine ⟨rows, List.nodup_singleton _, ?_⟩
      intro id member new isNew same
      obtain ⟨row, present, rfl⟩ := List.mem_map.mp member
      exact fresh row present (same.trans (List.mem_singleton.mp isNew))
  | _ => exact ⟨rows, snapshot⟩

/-- A run that finds other contents in the file does not get past it. -/
theorem Ahead.moves (distinct : Distinct database stage)
    (ahead : Ahead file recorded stage)
    (differs : sha256 (found.directory.content file) ≠ recorded)
    (moves : Moves sha256 found database stage next after) :
    Ahead file recorded next := by
  cases moves with
  | fails stage op error waits fails => exact ahead
  | creates => exact fun _ _ taken => nomatch taken
  | unreadable unreadable => exact fun _ _ taken => nomatch taken
  | finds listing listed =>
      intro applied files taken listedFiles member present
      by_cases empty : listing = []
      · rw [if_pos empty] at taken
        cases taken
        cases member
      · rw [if_neg empty] at taken
        cases taken
  | selects listing rows stored =>
      intro applied files taken listed member present
      cases listed
      exact present
  | checks applied finished other rest present same =>
      intro snapshot files taken listed member among
      cases taken
      have comes : file ∈ other :: rest :=
        ahead _ _ rfl rfl member (by
          cases listed
          rwa [List.append_assoc] at among)
      rcases List.mem_cons.mp comes with rfl | later
      · rw [recordedHash_eq_of_mem (distinct.2 _ rfl) member] at same
        cases same
        exact absurd rfl differs
      · exact later
  | mismatches applied finished other rest => exact ahead
  | reads applied finished other rest present unrecorded =>
      intro snapshot files taken listed member among
      cases taken
      rcases List.mem_cons.mp (ahead _ _ rfl listed member among) with
        rfl | later
      · rw [recordedHash_eq_of_mem (distinct.2 _ rfl) member] at unrecorded
        cases unrecorded
      · exact later
  | applies applied finished other text rest rows stored fresh =>
      intro snapshot files taken listed member among
      cases taken
      refine ahead _ _ rfl rfl member ?_
      cases listed
      rwa [List.append_assoc] at among
  | idle stage ended => exact ahead

/-- What a run has done, what it is doing and what it will do is its list. -/
theorem exists_middle (listed : stage.listing? = some files)
    (taken : stage.snapshot? = some applied) :
    ∃ middle, files = stage.finished ++ middle ++ stage.rest := by
  induction stage with
  | looping applied finished rest =>
      cases listed
      exact ⟨[], by rw [List.append_nil]; rfl⟩
  | applying applied finished file text rest =>
      cases listed
      exact ⟨[file], by rw [List.append_assoc]; rfl⟩
  | failed stage error induction => exact induction listed taken
  | _ => cases taken

/-- A run that has not got past a file has not applied any after it. -/
theorem not_lt_of_finished {names : List String}
    (listed : stage.listing? = some (migrationFiles names))
    (taken : stage.snapshot? = some applied) (coming : file ∈ stage.rest)
    (done : other ∈ stage.finished) : ¬ file < other := by
  obtain ⟨middle, parts⟩ := exists_middle listed taken
  have sorted := sorted_migrationFiles names
  rw [parts, List.pairwise_append] at sorted
  exact not_lt.mpr (sorted.2.2 other (List.mem_append_left _ done) file coming)

/-- A run that has not got past a file has not ended without an error. -/
theorem not_done_of_coming (listed : stage.listing? = some files)
    (coming : file ∈ stage.rest) : stage.program sha256 ≠ .done () := by
  intro ended
  obtain ⟨applied, rfl⟩ := exists_looping_of_done ended listed
  cases coming

/-- A run that has a file to come to has not taken all its turns. -/
theorem turns_lt_of_coming (listed : stage.listing? = some files)
    (taken : stage.snapshot? = some applied)
    (coming : file ∈ stage.rest) : stage.turns < 3 + 2 * files.length := by
  have some := List.length_pos_of_mem coming
  cases stage with
  | looping applied finished rest =>
      cases listed
      rw [Stage.turns, List.length_append]
      change 0 < rest.length at some
      omega
  | applying applied finished other text rest =>
      cases listed
      rw [Stage.turns, List.length_append, List.length_cons]
      omega
  | failed stage error =>
      change 0 < _
      omega
  | _ => cases taken

end Changed

/-- The run does not get past the file, and throws once it has had its turns. -/
structure Rejects {Name : Type*} [DecidableEq Name] (sha256 : String → String)
    (database : Database) (schedule : List (Name × Surroundings)) (name : Name)
    (file : String) (names : List String) : Prop where
  applies : ∀ found content row,
    (begin Name sha256 database).Performs migratorAdapter schedule name
        (.apply content row) found () →
      ¬ file < row.name
  notDone :
    ((begin Name sha256 database).play migratorAdapter schedule).threads
      name ≠ .done ()
  throws : 3 + 2 * (migrationFiles names).length ≤
      schedule.countP (fun turn => decide (turn.1 = name)) →
    ∃ error,
      ((begin Name sha256 database).play migratorAdapter schedule).threads
        name = .fail error

section Runs

variable {Name : Type*} [DecidableEq Name] {sha256 : String → String}
  {schedule : List (Name × Surroundings)} {turn : Name × Surroundings}
  {name : Name} {names : List String} {listedAt selectedAt : Surroundings}
  {file recorded : String} {rows : List (Nat × String)} {database : Database}

theorem appliedInOrder_of_evolves
    (evolves : Evolves ((schedule ++ [turn]).map (·.2.directory))) :
    AppliedInOrder sha256 turn.2.directory
        ((begin Name sha256 .empty).play migratorAdapter
          (schedule ++ [turn])).shared ∧
      ∀ name found names,
        (begin Name sha256 .empty).Performs migratorAdapter
            (schedule ++ [turn]) name .readdir found (some names) →
          ((begin Name sha256 .empty).play migratorAdapter
              (schedule ++ [turn])).threads name = .done () →
            AllApplied sha256 names turn.2.directory
              ((begin Name sha256 .empty).play migratorAdapter
                (schedule ++ [turn])).shared := by
  have numbered : ((migrationFiles turn.2.directory.names).map
      migrationId).Nodup :=
    (evolves.2 _ (List.mem_map_of_mem (by simp))).files
  obtain ⟨stages, stand, know, count, records, stands⟩ :=
    exists_stages _ _ inOrder_empty
      (fun _ _ _ _ _ agrees inOrder moves =>
        InOrder.moves numbered inOrder agrees moves)
      (schedule ++ [turn]) (agrees_of_evolves evolves)
  refine ⟨records.appliedInOrder, ?_⟩
  intro name found names performed ended
  rw [stand] at ended
  obtain ⟨applied, looping⟩ :=
    exists_looping_of_done ended ((know name).listed found names performed)
  have here := stands name
  rw [looping] at here
  exact here.allApplied records

/-- A step of any run leaves one behind the file that differs. -/
theorem apart_moves {stages : Name → Stage} {next : Stage} {after : Database}
    (differs : turn.1 = name →
      sha256 (turn.2.directory.content file) ≠ recorded)
    (apart : (∀ other, Distinct database (stages other)) ∧
      Ahead file recorded (stages name))
    (moves : Moves sha256 turn.2 database (stages turn.1) next after) :
    (∀ other,
        Distinct after (Function.update stages turn.1 next other)) ∧
      Ahead file recorded (Function.update stages turn.1 next name) := by
  have distinct : Distinct after next := (apart.1 turn.1).moves moves
  constructor
  · exact (Function.forall_update_iff stages fun _ stage =>
      Distinct after stage).mpr
        ⟨distinct, fun other _ => ⟨distinct.1, (apart.1 other).2⟩⟩
  · by_cases same : turn.1 = name
    · subst same
      rw [Function.update_self]
      exact apart.2.moves (apart.1 _) (differs rfl) moves
    · rw [Function.update_of_ne (Ne.symm same)]
      exact apart.2

theorem rejects_of_differs
    (distinct : (database.rows.map MigrationRow.id).Nodup)
    (listed : (begin Name sha256 database).Performs migratorAdapter schedule
      name .readdir listedAt (some names))
    (present : file ∈ migrationNames names)
    (selected : (begin Name sha256 database).Performs migratorAdapter schedule
      name .selectApplied selectedAt rows)
    (reads : (migrationId file, recorded) ∈ rows)
    (differs : ∀ turn ∈ schedule, turn.1 = name →
      sha256 (turn.2.directory.content file) ≠ recorded) :
    Rejects sha256 database schedule name file names := by
  obtain ⟨stages, stand, know, apart, ahead⟩ :=
    exists_stages _
      (fun database stages => (∀ other, Distinct database (stages other)) ∧
        Ahead file recorded (stages name))
      ⟨fun _ => ⟨distinct, fun _ taken => nomatch taken⟩,
        fun _ _ taken => nomatch taken⟩
      (fun _ _ _ _ _ differs apart moves => apart_moves differs apart moves)
      schedule differs
  have lists := (know name).listed _ _ listed
  have snapshot := (know name).snapshot _ _ selected
  have coming : file ∈ (stages name).rest :=
    ahead _ _ snapshot lists reads (mem_migrationFiles.mpr present)
  refine ⟨?_, ?_, ?_⟩
  · intro found content row performed
    exact not_lt_of_finished lists snapshot coming
      ((know name).applied found content row performed)
  · rw [stand]
    exact not_done_of_coming lists coming
  · intro turns
    have ended : ((stages name).program sha256).Finished := by
      refine (know name).taken.resolve_right (not_le.mpr ?_)
      exact (turns_lt_of_coming lists snapshot coming).trans_le turns
    have notDone := @not_done_of_coming sha256 _ _ _ lists coming
    rw [stand]
    generalize (stages name).program sha256 = program at ended notDone ⊢
    cases program with
    | done result => exact absurd rfl notDone
    | fail error => exact ⟨error, rfl⟩
    | call op next => cases ended

end Runs

/--
Over a directory that only grows, the committed migrations are a prefix of its
files at all times, each applied once and in order, and a run that returns has
left what it listed applied.  A run that reads a record from which the file
differs throws and applies nothing after that file.
-/
theorem migrations_in_order {Name : Type*} [DecidableEq Name]
    (sha256 : String → String) :
    (∀ (schedule : List (Name × Surroundings)) (turn : Name × Surroundings),
      Evolves ((schedule ++ [turn]).map (·.2.directory)) →
        AppliedInOrder sha256 turn.2.directory
            ((begin Name sha256 .empty).play migratorAdapter
              (schedule ++ [turn])).shared ∧
          ∀ name found names,
            (begin Name sha256 .empty).Performs migratorAdapter
                (schedule ++ [turn]) name .readdir found (some names) →
              ((begin Name sha256 .empty).play migratorAdapter
                  (schedule ++ [turn])).threads name = .done () →
                AllApplied sha256 names turn.2.directory
                  ((begin Name sha256 .empty).play migratorAdapter
                    (schedule ++ [turn])).shared) ∧
      ∀ (database : Database) (schedule : List (Name × Surroundings))
        (name : Name) (names : List String) (rows : List (Nat × String))
        (file recorded : String) (listedAt selectedAt : Surroundings),
        (database.rows.map MigrationRow.id).Nodup →
          (begin Name sha256 database).Performs migratorAdapter schedule name
              .readdir listedAt (some names) →
            file ∈ migrationNames names →
              (begin Name sha256 database).Performs migratorAdapter schedule
                  name .selectApplied selectedAt rows →
                (migrationId file, recorded) ∈ rows →
                  (∀ turn ∈ schedule, turn.1 = name →
                    sha256 (turn.2.directory.content file) ≠ recorded) →
                    Rejects sha256 database schedule name file names := by
  constructor
  · intro schedule turn evolves
    exact appliedInOrder_of_evolves evolves
  · intro database schedule name names rows file recorded listedAt selectedAt
      distinct listed present selected reads differs
    exact rejects_of_differs distinct listed present selected reads differs

/-! Two runs start at once on two files, and one finds a changed file. -/

/-- The hash of the contents below. -/
def hashes (content : String) : String :=
  if content = "CREATE TABLE users ();" then
    "7f25721ed9491d6c1212ea63075b9c3017c8270bdd7e1c50f702911c3e621f38"
  else if content = "CREATE TABLE rooms ();" then
    "86b50fae3e1878a5b478f0fd0ac6c5272d6176e40fe5e13ad4aae1ede7325984"
  else "b8a4845d9db8c531d9091a39cbff163b239f9b3855ac680d9f8ce7607033425c"

def twoFiles (users : String) : Surroundings where
  directory :=
    { names := ["0002_rooms.sql", "README.md", "0001_init.sql"]
      content := fun file =>
        if file = "0001_init.sql" then users else "CREATE TABLE rooms ();" }
  readable := true
  available := true

/-- Both take an empty snapshot, and the second comes too late. -/
def bothStart : List (Bool × Surroundings) :=
  [true, false, true, false, true, false, true, true, false, false, true].map
    fun name => (name, twoFiles "CREATE TABLE users ();")

def lastTurn : Bool × Surroundings :=
  (true, twoFiles "CREATE TABLE users ();")

/-- A run of an instance whose first file has been changed. -/
def changedRun : List (Bool × Surroundings) :=
  List.replicate 4 (true, twoFiles "CREATE TABLE people ();")

def migrated : Database where
  table := some [recordOf hashes "0001_init.sql" "CREATE TABLE users ();"]
  committed := ["CREATE TABLE users ();"]

theorem evolves_bothStart :
    Evolves ((bothStart ++ [lastTurn]).map (·.2.directory)) := by
  have same : (bothStart ++ [lastTurn]).map (·.2.directory) =
      List.replicate 12 lastTurn.2.directory := rfl
  rw [same]
  refine ⟨List.pairwise_replicate.mpr (.inr (Grows.refl _)), ?_⟩
  intro directory member
  cases (List.mem_replicate.mp member).2
  decide +kernel

theorem migrations_in_order_bothStart :
    (AppliedInOrder hashes lastTurn.2.directory
        ((begin Bool hashes .empty).play migratorAdapter
          (bothStart ++ [lastTurn])).shared ∧
      AllApplied hashes lastTurn.2.directory.names lastTurn.2.directory
        ((begin Bool hashes .empty).play migratorAdapter
          (bothStart ++ [lastTurn])).shared) ∧
      Rejects hashes migrated changedRun true "0001_init.sql"
        ["0002_rooms.sql", "README.md", "0001_init.sql"] := by
  have order := @migrations_in_order Bool _ hashes
  have applied := order.1 bothStart lastTurn evolves_bothStart
  refine ⟨⟨applied.1, ?_⟩, ?_⟩
  · refine applied.2 true lastTurn.2 lastTurn.2.directory.names ?_ rfl
    exact ⟨bothStart.take 2, bothStart.drop 3 ++ [lastTurn], _, rfl, rfl, rfl⟩
  · refine order.2 migrated changedRun true _
      [(1, hashes "CREATE TABLE users ();")] _
      (hashes "CREATE TABLE users ();") (twoFiles "CREATE TABLE people ();")
      (twoFiles "CREATE TABLE people ();") (by decide) ?_ (by decide +kernel)
      ?_ (.head _) ?_
    · exact ⟨changedRun.take 1, changedRun.drop 2, _, rfl, rfl, rfl⟩
    · exact ⟨changedRun.take 2, changedRun.drop 3, _, rfl, rfl, rfl⟩
    · intro turn member _
      cases (List.mem_replicate.mp member).2
      decide +kernel

end ChatBackend.Migrations.MigrationOrder
