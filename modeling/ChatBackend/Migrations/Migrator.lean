import ChatBackend.Effects.Interleaving
import Mathlib.Data.List.Sort
import Mathlib.Data.String.Basic

/-!
# The migrator

`migrate` lists the migration files, takes a snapshot of the migrations that
have been applied, and goes through the files in order: it checks the hash of a
file that the snapshot records and applies one that it does not.  Applying a
file is one transaction, of the content and of its record in `_migrations`.

The directory and the availability of the surroundings are inputs of the moment
of each operation.  `sha256` is the hash of the crypto library.
-/

namespace ChatBackend.Migrations.Migrator

open Effects

/-! ## Surroundings -/

/-- The migrations directory. -/
structure Directory where
  names : List String
  content : String → String

/-- What is found at the moment of an operation. -/
structure Surroundings where
  directory : Directory
  /-- Whether the directory can be read. -/
  readable : Bool
  /-- Whether the operation succeeds as far as it lies with the surroundings. -/
  available : Bool

/-- A row of the `_migrations` table. -/
structure MigrationRow where
  id : Nat
  name : String
  hash : String
deriving DecidableEq, Repr

/-- The table `_migrations`, if it exists, and the contents committed so far. -/
structure Database where
  table : Option (List MigrationRow)
  committed : List String
deriving DecidableEq, Repr

/-- A database that has never been migrated. -/
def Database.empty : Database where
  table := none
  committed := []

/-- The rows of `_migrations`. -/
def Database.rows (database : Database) : List MigrationRow :=
  database.table.getD []

inductive MigrateError where
  | hashMismatch (message : String)
  | unavailable
  | noSuchFile (file : String)
  | undefinedTable
  | uniqueViolation (id : Nat)
deriving DecidableEq, Repr

/-! ## Operations -/

inductive MigratorOp where
  /-- `CREATE TABLE IF NOT EXISTS _migrations` -/
  | createTable
  | readdir
  /-- `SELECT id, hash FROM _migrations` -/
  | selectApplied
  | readFile (file : String)
  /-- The transaction of a content and its record. -/
  | apply (content : String) (row : MigrationRow)
deriving DecidableEq, Repr

/-- A directory that cannot be read answers nothing. -/
abbrev MigratorOp.Answer : MigratorOp → Type
  | .createTable => Unit
  | .readdir => Option (List String)
  | .selectApplied => List (Nat × String)
  | .readFile _ => String
  | .apply _ _ => Unit

abbrev MigratorPort : Port where
  Op := MigratorOp
  Answer := MigratorOp.Answer

abbrev MigratorProgram (Result : Type) :=
  Program MigratorPort MigrateError Result

/-- Await one operation of the port. -/
abbrev MigratorOp.await (op : MigratorOp) : MigratorProgram op.Answer :=
  @Program.perform MigratorPort MigrateError op

/-- The transaction fails as a whole if the id is recorded. -/
def Database.apply (database : Database) (content : String)
    (row : MigrationRow) : Except MigrateError (Unit × Database) :=
  match database.table with
  | none => .error .undefinedTable
  | some rows =>
      if ∃ other ∈ rows, other.id = row.id then
        .error (.uniqueViolation row.id)
      else
        .ok ((),
          { table := some (rows ++ [row])
            committed := database.committed ++ [content] })

def migratorAdapter :
    Adapter MigratorPort Surroundings Database MigrateError
  | .readdir, found, database =>
      .ok (if found.readable then some found.directory.names else none,
        database)
  | .readFile file, found, database =>
      if file ∈ found.directory.names then
        .ok (found.directory.content file, database)
      else .error (.noSuchFile file)
  | .createTable, found, database =>
      if found.available then
        .ok ((), { database with table := some database.rows })
      else .error .unavailable
  | .selectApplied, found, database =>
      if found.available then
        match database.table with
        | none => .error .undefinedTable
        | some rows => .ok (rows.map fun row => (row.id, row.hash), database)
      else .error .unavailable
  | .apply content row, found, database =>
      if found.available then database.apply content row
      else .error .unavailable

section Operations

variable (found : Surroundings) (database : Database)

theorem readdir_of_readable (readable : found.readable = true) :
    migratorAdapter .readdir found database =
      .ok (some found.directory.names, database) :=
  congrArg (fun names => Except.ok (names, database)) (if_pos readable)

theorem readdir_of_unreadable (unreadable : ¬ found.readable = true) :
    migratorAdapter .readdir found database = .ok (none, database) :=
  congrArg (fun names => Except.ok (names, database)) (if_neg unreadable)

/-- The rows are answered if there is a table, unless the selection fails. -/
theorem selectApplied_ends :
    (∃ error, migratorAdapter .selectApplied found database = .error error) ∨
      ∃ rows, database.table = some rows ∧
        migratorAdapter .selectApplied found database =
          .ok (rows.map fun row => (row.id, row.hash), database) := by
  simp only [migratorAdapter]
  split_ifs
  · cases database.table with
    | none => exact .inl ⟨_, rfl⟩
    | some rows => exact .inr ⟨rows, rfl, rfl⟩
  · exact .inl ⟨_, rfl⟩

/-- A content is committed with its record, which is new, or not at all. -/
theorem apply_ends (content : String) (row : MigrationRow) :
    (∃ error,
        migratorAdapter (.apply content row) found database = .error error) ∨
      ∃ rows, database.table = some rows ∧
        (∀ other ∈ rows, other.id ≠ row.id) ∧
          migratorAdapter (.apply content row) found database =
            .ok ((),
              { table := some (rows ++ [row])
                committed := database.committed ++ [content] }) := by
  simp only [migratorAdapter, Database.apply]
  split_ifs
  · cases database.table with
    | none => exact .inl ⟨_, rfl⟩
    | some rows =>
        dsimp only
        split_ifs with taken
        · exact .inl ⟨_, rfl⟩
        · push Not at taken
          exact .inr ⟨rows, rfl, taken, rfl⟩
  · exact .inl ⟨_, rfl⟩

end Operations

/-! ## The migrator -/

/-- The characters that `.` does not match. -/
def lineTerminator (c : Char) : Bool :=
  c = '\n' || c = '\r' || c = '\u2028' || c = '\u2029'

/-- `/^\d{4}_.+\.sql$/` -/
def isMigration (file : String) : Bool :=
  match file.toList with
  | a :: b :: c :: d :: '_' :: rest =>
      let body := rest.take (rest.length - 4)
      a.isDigit && b.isDigit && c.isDigit && d.isDigit &&
        rest.drop (rest.length - 4) = ".sql".toList && body ≠ [] &&
          body.all fun c => !lineTerminator c
  | _ => false

def digit (c : Char) : Nat :=
  c.toNat - '0'.toNat

/-- `parseInt(file.slice(0, 4), 10)` -/
def migrationId (file : String) : Nat :=
  (file.toList.take 4).foldl (fun id c => id * 10 + digit c) 0

/--
The migration files of a directory, sorted by their names.  Names with distinct
numbers differ in a digit first, so that the order of code points is that of
code units.
-/
def migrationFiles (names : List String) : List String :=
  (names.filter fun file => isMigration file).insertionSort (· ≤ ·)

/-- `applied.get(id)`; later entries of a `Map` replace earlier ones. -/
def recordedHash (applied : List (Nat × String)) (id : Nat) : Option String :=
  applied.reverse.lookup id

def mismatch (file : String) : MigrateError :=
  .hashMismatch
    ("Migration " ++ file ++ " hash mismatch — do not edit applied migrations.")

variable (sha256 : String → String)

/-- The record of a file with the content. -/
def recordOf (file content : String) : MigrationRow where
  id := migrationId file
  name := file
  hash := sha256 content

/-- The loop over the files. -/
def migrateFiles (applied : List (Nat × String)) :
    List String → MigratorProgram Unit
  | [] => return
  | file :: rest => do
      let content ← MigratorOp.await (.readFile file)
      match recordedHash applied (migrationId file) with
      | some recorded =>
          if recorded ≠ sha256 content then .fail (mismatch file)
          else migrateFiles applied rest
      | none =>
          MigratorOp.await (.apply content (recordOf sha256 file content))
          migrateFiles applied rest

def migrate : MigratorProgram Unit := do
  MigratorOp.await .createTable
  match ← MigratorOp.await .readdir with
  | none => return
  | some names =>
      let files := migrationFiles names
      if files.length = 0 then return
      let applied ← MigratorOp.await .selectApplied
      migrateFiles sha256 applied files

/-! ## Runs of the migrator -/

/-- Where a run of the migrator stands, and what it has found so far. -/
inductive Stage where
  | starting
  | listing
  | selecting (files : List String)
  | looping (applied : List (Nat × String)) (finished rest : List String)
  | applying (applied : List (Nat × String)) (finished : List String)
      (file content : String) (rest : List String)
  | unlisted
  | failed (stage : Stage) (error : MigrateError)

namespace Stage

/-- What a run does from here. -/
def program : Stage → MigratorProgram Unit
  | starting => migrate sha256
  | listing =>
      .call .readdir fun
        | none => .done ()
        | some names =>
            if (migrationFiles names).length = 0 then .done ()
            else
              .call .selectApplied fun applied =>
                migrateFiles sha256 applied (migrationFiles names)
  | selecting files =>
      .call .selectApplied fun applied => migrateFiles sha256 applied files
  | looping applied _ rest => migrateFiles sha256 applied rest
  | applying applied _ file content rest =>
      .call (.apply content (recordOf sha256 file content)) fun _ =>
        migrateFiles sha256 applied rest
  | unlisted => .done ()
  | failed _ error => .fail error

/-- The files that the run has listed. -/
def listing? : Stage → Option (List String)
  | selecting files => some files
  | looping _ finished rest => some (finished ++ rest)
  | applying _ finished file _ rest => some (finished ++ file :: rest)
  | failed stage _ => stage.listing?
  | _ => none

/-- The snapshot that the run has taken. -/
def snapshot? : Stage → Option (List (Nat × String))
  | looping applied _ _ => some applied
  | applying applied _ _ _ _ => some applied
  | failed stage _ => stage.snapshot?
  | _ => none

/-- The files that the run is done with. -/
def finished : Stage → List String
  | looping _ finished _ => finished
  | applying _ finished _ _ _ => finished
  | failed stage _ => stage.finished
  | _ => []

/-- The files that the run has yet to come to. -/
def rest : Stage → List String
  | looping _ _ rest => rest
  | applying _ _ _ _ rest => rest
  | failed stage _ => stage.rest
  | _ => []

/-- The most turns that a run takes until it gets here. -/
def turns : Stage → Nat
  | listing => 1
  | selecting _ => 2
  | looping _ finished _ => 3 + 2 * finished.length
  | applying _ finished _ _ _ => 3 + 2 * finished.length + 1
  | _ => 0

end Stage

/-- A step of a run: from where to where, and what is left of the database. -/
inductive Moves (found : Surroundings) (database : Database) :
    Stage → Stage → Database → Prop where
  | fails (stage : Stage) (op : MigratorOp) (error : MigrateError)
      (waits : (stage.program sha256).pending = some op)
      (fails : migratorAdapter op found database = .error error) :
      Moves found database stage (.failed stage error) database
  | creates :
      Moves found database .starting .listing
        { database with table := some database.rows }
  | unreadable (unreadable : ¬ found.readable) :
      Moves found database .listing .unlisted database
  | finds (files : List String)
      (listed : files = migrationFiles found.directory.names) :
      Moves found database .listing
        (if files = [] then .looping [] [] [] else .selecting files) database
  | selects (files : List String) (rows : List MigrationRow)
      (stored : database.table = some rows) :
      Moves found database (.selecting files)
        (.looping (rows.map fun row => (row.id, row.hash)) [] files) database
  | checks (applied : List (Nat × String)) (finished : List String)
      (file : String) (rest : List String)
      (present : file ∈ found.directory.names)
      (recorded : recordedHash applied (migrationId file) =
        some (sha256 (found.directory.content file))) :
      Moves found database (.looping applied finished (file :: rest))
        (.looping applied (finished ++ [file]) rest) database
  | mismatches (applied : List (Nat × String)) (finished : List String)
      (file : String) (rest : List String) :
      Moves found database (.looping applied finished (file :: rest))
        (.failed (.looping applied finished (file :: rest)) (mismatch file))
        database
  | reads (applied : List (Nat × String)) (finished : List String)
      (file : String) (rest : List String)
      (present : file ∈ found.directory.names)
      (unrecorded : recordedHash applied (migrationId file) = none) :
      Moves found database (.looping applied finished (file :: rest))
        (.applying applied finished file (found.directory.content file) rest)
        database
  | applies (applied : List (Nat × String)) (finished : List String)
      (file content : String) (rest : List String) (rows : List MigrationRow)
      (stored : database.table = some rows)
      (fresh : ∀ row ∈ rows, row.id ≠ migrationId file) :
      Moves found database (.applying applied finished file content rest)
        (.looping applied (finished ++ [file]) rest)
        { table := some (rows ++ [recordOf sha256 file content])
          committed := database.committed ++ [content] }
  | idle (stage : Stage) (ended : (stage.program sha256).Finished) :
      Moves found database stage stage database

/-- The loop at a file that has been read. -/
theorem resume_migrateFiles {found : Surroundings} {database : Database}
    {file content : String} (applied : List (Nat × String))
    (rest : List String)
    (answers : migratorAdapter (.readFile file) found database =
      .ok (content, database)) :
    (migrateFiles sha256 applied (file :: rest)).resume migratorAdapter found
        database =
      (match recordedHash applied (migrationId file) with
      | some recorded =>
          if recorded ≠ sha256 content then .fail (mismatch file)
          else migrateFiles sha256 applied rest
      | none =>
          .call (.apply content (recordOf sha256 file content)) fun _ =>
            migrateFiles sha256 applied rest, database) :=
  Program.resume_call_ok _ answers

variable {sha256}

/-- Every step of a run is one of those listed. -/
theorem Stage.moves (stage : Stage) (found : Surroundings)
    (database : Database) :
    ∃ next after,
      (stage.program sha256).resume migratorAdapter found database =
          (next.program sha256, after) ∧
        Moves sha256 found database stage next after := by
  cases stage with
  | starting =>
      have asked : (Stage.starting.program sha256).resume migratorAdapter found
          database = Program.resume migratorAdapter found
            (.call .createTable fun _ => Stage.listing.program sha256)
              database := rfl
      rw [asked]
      by_cases available : found.available
      · exact ⟨.listing, _, Program.resume_call_ok _ (if_pos available),
          .creates⟩
      · exact ⟨.failed .starting .unavailable, database,
          Program.resume_call_error _ (if_neg available),
          .fails _ _ _ rfl (if_neg available)⟩
  | listing =>
      by_cases readable : found.readable
      · refine ⟨_, database, ?_, .finds _ rfl⟩
        refine (Program.resume_call_ok _
          (readdir_of_readable found database readable)).trans ?_
        dsimp only
        by_cases empty : migrationFiles found.directory.names = []
        · rw [if_pos empty, if_pos (List.length_eq_zero_iff.mpr empty)]
          rfl
        · rw [if_neg empty,
            if_neg fun zero => empty (List.length_eq_zero_iff.mp zero)]
          rfl
      · refine ⟨.unlisted, database, ?_, .unreadable readable⟩
        exact (Program.resume_call_ok _
          (readdir_of_unreadable found database readable)).trans rfl
  | selecting files =>
      rcases selectApplied_ends found database with
        ⟨error, fails⟩ | ⟨rows, stored, answers⟩
      · exact ⟨.failed (.selecting files) error, database,
          Program.resume_call_error _ fails, .fails _ _ _ rfl fails⟩
      · exact ⟨_, database, Program.resume_call_ok _ answers,
          .selects files rows stored⟩
  | looping applied finished rest =>
      cases rest with
      | nil => exact ⟨_, database, rfl, .idle _ rfl⟩
      | cons file rest =>
          by_cases present : file ∈ found.directory.names
          · have answers : migratorAdapter (.readFile file) found database =
                .ok (found.directory.content file, database) := if_pos present
            have resumed := resume_migrateFiles sha256 applied rest answers
            cases recorded : recordedHash applied (migrationId file) with
            | none =>
                rw [recorded] at resumed
                exact ⟨.applying applied finished file
                  (found.directory.content file) rest, database, resumed,
                  .reads applied finished file rest present recorded⟩
            | some hash =>
                rw [recorded] at resumed
                dsimp only at resumed
                by_cases same : hash = sha256 (found.directory.content file)
                · rw [if_neg (not_not.mpr same)] at resumed
                  exact ⟨.looping applied (finished ++ [file]) rest, database,
                    resumed, .checks applied finished file rest present
                      (same ▸ recorded)⟩
                · rw [if_pos same] at resumed
                  exact ⟨.failed _ (mismatch file), database, resumed,
                    .mismatches applied finished file rest⟩
          · exact ⟨.failed _ (.noSuchFile file), database,
              Program.resume_call_error _ (if_neg present),
              .fails _ _ _ rfl (if_neg present)⟩
  | applying applied finished file content rest =>
      rcases apply_ends found database content (recordOf sha256 file content)
        with ⟨error, fails⟩ | ⟨rows, stored, fresh, answers⟩
      · exact ⟨.failed _ error, database, Program.resume_call_error _ fails,
          .fails _ _ _ rfl fails⟩
      · exact ⟨_, _, Program.resume_call_ok _ answers,
          .applies applied finished file content rest rows stored fresh⟩
  | unlisted => exact ⟨.unlisted, database, rfl, .idle _ rfl⟩
  | failed stage error =>
      exact ⟨.failed stage error, database, rfl, .idle _ rfl⟩

/-! ## What a run remembers -/

section Steps

variable {found : Surroundings} {database after answered : Database}
  {stage next : Stage} {files : List String} {applied : List (Nat × String)}
  {file : String}

theorem Moves.keeps_listing
    (moves : Moves sha256 found database stage next after)
    (listed : stage.listing? = some files) : next.listing? = some files := by
  cases moves with
  | fails stage op error waits fails => exact listed
  | mismatches applied finished file rest => exact listed
  | creates => cases listed
  | unreadable => cases listed
  | finds => cases listed
  | selects files rows stored => exact listed
  | checks applied finished file rest present recorded =>
      rw [Stage.listing?, List.append_assoc]
      exact listed
  | reads applied finished file rest present unrecorded => exact listed
  | applies applied finished file content rest rows stored fresh =>
      rw [Stage.listing?, List.append_assoc]
      exact listed
  | idle stage ended => exact listed

theorem Moves.keeps_snapshot
    (moves : Moves sha256 found database stage next after)
    (taken : stage.snapshot? = some applied) :
    next.snapshot? = some applied := by
  cases moves with
  | creates => cases taken
  | unreadable => cases taken
  | finds => cases taken
  | selects files rows stored => cases taken
  | _ => exact taken

theorem Moves.keeps_finished
    (moves : Moves sha256 found database stage next after)
    (member : file ∈ stage.finished) : file ∈ next.finished := by
  cases moves with
  | creates => cases member
  | unreadable => cases member
  | finds => cases member
  | selects files rows stored => cases member
  | checks applied finished other rest present recorded =>
      exact List.mem_append_left [other] member
  | applies applied finished other content rest rows stored fresh =>
      exact List.mem_append_left [other] member
  | _ => exact member

/-- An operation that succeeds is not one that fails. -/
theorem not_fails {op other : MigratorOp} {answer : op.Answer}
    {error : MigrateError}
    (waits : (stage.program sha256).pending = some op)
    (answers : migratorAdapter op found database = .ok (answer, answered))
    (otherWaits : (stage.program sha256).pending = some other)
    (fails : migratorAdapter other found database = .error error) : False := by
  cases waits.symm.trans otherWaits
  cases answers.symm.trans fails

/-- A run that is answered a directory has listed its files. -/
theorem Moves.lists (moves : Moves sha256 found database stage next after)
    {names : List String}
    (waits : (stage.program sha256).pending = some .readdir)
    (answers : migratorAdapter .readdir found database =
      .ok (some names, answered)) :
    next.listing? = some (migrationFiles names) := by
  cases moves with
  | fails stage op error otherWaits fails =>
      exact (not_fails waits answers otherWaits fails).elim
  | unreadable unreadable =>
      rw [readdir_of_unreadable _ _ unreadable] at answers
      cases answers
  | finds files listed =>
      have same : found.directory.names = names := by
        unfold migratorAdapter at answers
        dsimp only at answers
        split_ifs at answers
        · cases answers
          rfl
        · cases answers
      subst same
      by_cases empty : files = []
      · rw [if_pos empty, ← listed, empty]
        rfl
      · rw [if_neg empty, ← listed]
        rfl
  | idle stage ended => cases ended.symm.trans waits
  | _ => cases waits

/-- A run that is answered the records has taken them as its snapshot. -/
theorem Moves.selects_snapshot
    (moves : Moves sha256 found database stage next after)
    {rows : List (Nat × String)}
    (waits : (stage.program sha256).pending = some .selectApplied)
    (answers : migratorAdapter .selectApplied found database =
      .ok (rows, answered)) :
    next.snapshot? = some rows := by
  cases moves with
  | fails stage op error otherWaits fails =>
      exact (not_fails waits answers otherWaits fails).elim
  | selects files stored table =>
      unfold migratorAdapter at answers
      dsimp only at answers
      rw [table] at answers
      split_ifs at answers
      cases answers
      rfl
  | idle stage ended => cases ended.symm.trans waits
  | _ => cases waits

/-- A run that has applied a file is done with it. -/
theorem Moves.applies_finished
    (moves : Moves sha256 found database stage next after)
    {content : String} {row : MigrationRow}
    (waits : (stage.program sha256).pending = some (.apply content row))
    (answers : migratorAdapter (.apply content row) found database =
      .ok ((), answered)) :
    row.name ∈ next.finished := by
  cases moves with
  | fails stage op error otherWaits fails =>
      exact (not_fails waits answers otherWaits fails).elim
  | applies applied finished file text rest rows stored fresh =>
      cases waits
      exact List.mem_append_right _ (List.mem_singleton_self _)
  | idle stage ended => cases ended.symm.trans waits
  | _ => cases waits

/-- A step takes one turn. -/
theorem Moves.takes (moves : Moves sha256 found database stage next after)
    {taken : Nat} (bound : (stage.program sha256).Finished ∨
      taken ≤ stage.turns) :
    (next.program sha256).Finished ∨ taken + 1 ≤ next.turns := by
  cases moves with
  | fails stage op error waits fails => exact .inl rfl
  | mismatches applied finished file rest => exact .inl rfl
  | unreadable => exact .inl rfl
  | creates =>
      refine .inr (Nat.succ_le_succ (bound.resolve_left ?_))
      exact Option.some_ne_none _
  | finds files listed =>
      have early : taken ≤ 1 := bound.resolve_left (Option.some_ne_none _)
      by_cases empty : files = []
      · rw [if_pos empty]
        exact .inl rfl
      · rw [if_neg empty]
        exact .inr (Nat.succ_le_succ early)
  | selects files rows stored =>
      have early : taken ≤ 2 := bound.resolve_left (Option.some_ne_none _)
      exact .inr (Nat.succ_le_succ early)
  | checks applied finished file rest present recorded =>
      have early : taken ≤ 3 + 2 * finished.length :=
        bound.resolve_left (Option.some_ne_none _)
      right
      rw [Stage.turns, List.length_append, List.length_singleton]
      omega
  | reads applied finished file rest present unrecorded =>
      have early : taken ≤ 3 + 2 * finished.length :=
        bound.resolve_left (Option.some_ne_none _)
      exact .inr (Nat.succ_le_succ early)
  | applies applied finished file content rest rows stored fresh =>
      have early : taken ≤ 3 + 2 * finished.length + 1 :=
        bound.resolve_left (Option.some_ne_none _)
      right
      rw [Stage.turns, List.length_append, List.length_singleton]
      omega
  | idle stage ended => exact .inl ended

end Steps

end ChatBackend.Migrations.Migrator
