import ChatBackend.Migrations.Migrator
import Mathlib.Data.List.Perm.Basic

/-!
# How the migrations directory evolves

The migration files of a directory have distinct numbers, their contents never
change, and new files come with higher numbers than those that are there.  The
names sort as their numbers do, so the sorted list of files only ever grows at
its end.
-/

namespace ChatBackend.Migrations.Directories

open ChatBackend.Migrations.Migrator

/-! ## The order of names -/

section Names

variable {first second : String}

/-- A migration file has a name that begins with four digits. -/
theorem exists_digits (named : isMigration first = true) :
    ∃ a b c d rest, first.toList = a :: b :: c :: d :: rest ∧
      a.isDigit ∧ b.isDigit ∧ c.isDigit ∧ d.isDigit := by
  unfold isMigration at named
  split at named
  · rename_i a b c d rest shape
    simp only [Bool.and_eq_true] at named
    exact ⟨a, b, c, d, _, shape, named.1.1.1.1.1.1, named.1.1.1.1.1.2,
      named.1.1.1.1.2, named.1.1.1.2⟩
  · cases named

theorem digit_le_nine {c : Char} (isDigit : c.isDigit) : digit c ≤ 9 := by
  have bounds : 48 ≤ c.toNat ∧ c.toNat ≤ 57 := Char.isDigit_iff_toNat.mp isDigit
  change c.toNat - 48 ≤ 9
  omega

theorem lt_of_digit_lt {c d : Char} (less : digit c < digit d) : c < d := by
  change c.toNat - 48 < d.toNat - 48 at less
  have numbers : c.toNat < d.toNat := by omega
  exact numbers

theorem eq_of_digit_eq {c d : Char} (isDigit : c.isDigit)
    (otherIsDigit : d.isDigit) (same : digit c = digit d) : c = d := by
  have bounds : 48 ≤ c.toNat ∧ c.toNat ≤ 57 := Char.isDigit_iff_toNat.mp isDigit
  have otherBounds : 48 ≤ d.toNat ∧ d.toNat ≤ 57 :=
    Char.isDigit_iff_toNat.mp otherIsDigit
  change c.toNat - 48 = d.toNat - 48 at same
  exact Char.toNat_inj.mp (by omega)

/-- The names of migration files sort as their numbers do. -/
theorem lt_of_migrationId_lt (named : isMigration first = true)
    (otherNamed : isMigration second = true)
    (less : migrationId first < migrationId second) : first < second := by
  obtain ⟨a, b, c, d, rest, shape, ha, hb, hc, hd⟩ := exists_digits named
  obtain ⟨a', b', c', d', rest', shape', ha', hb', hc', hd'⟩ :=
    exists_digits otherNamed
  unfold migrationId at less
  rw [shape, shape'] at less
  simp only [List.take_succ_cons, List.take_zero, List.foldl_cons,
    List.foldl_nil] at less
  have boundsB := digit_le_nine hb
  have boundsC := digit_le_nine hc
  have boundsD := digit_le_nine hd
  have boundsB' := digit_le_nine hb'
  have boundsC' := digit_le_nine hc'
  have boundsD' := digit_le_nine hd'
  have digits : digit a < digit a' ∨ digit a = digit a' ∧
      (digit b < digit b' ∨ digit b = digit b' ∧
        (digit c < digit c' ∨ digit c = digit c' ∧ digit d < digit d')) := by
    omega
  rw [String.lt_iff, shape, shape']
  simp only [List.cons_lt_cons_iff]
  rcases digits with first | ⟨sameA, first | ⟨sameB, first | ⟨sameC, first⟩⟩⟩
  · exact .inl (lt_of_digit_lt first)
  · exact .inr ⟨eq_of_digit_eq ha ha' sameA, .inl (lt_of_digit_lt first)⟩
  · exact .inr ⟨eq_of_digit_eq ha ha' sameA, .inr
      ⟨eq_of_digit_eq hb hb' sameB, .inl (lt_of_digit_lt first)⟩⟩
  · exact .inr ⟨eq_of_digit_eq ha ha' sameA, .inr
      ⟨eq_of_digit_eq hb hb' sameB, .inr
        ⟨eq_of_digit_eq hc hc' sameC, .inl (lt_of_digit_lt first)⟩⟩⟩

end Names

/-! ## Directories -/

/-- The migration files of a directory, in no particular order. -/
def migrationNames (names : List String) : List String :=
  names.filter fun file => isMigration file

/-- The migration files of the directory have distinct numbers. -/
def Numbered (directory : Directory) : Prop :=
  ((migrationNames directory.names).map migrationId).Nodup

instance (directory : Directory) : Decidable (Numbered directory) :=
  inferInstanceAs (Decidable (List.Nodup _))

/--
The directory has become another one: its migration files are there with their
contents, and others have higher numbers.
-/
structure Grows (before after : Directory) : Prop where
  keeps : ∀ file ∈ migrationNames before.names,
    file ∈ migrationNames after.names ∧
      after.content file = before.content file
  higher : ∀ file ∈ migrationNames after.names,
    file ∉ migrationNames before.names →
      ∀ other ∈ migrationNames before.names,
        migrationId other < migrationId file

/-- Directories as they are found one after another. -/
def Evolves (directories : List Directory) : Prop :=
  directories.Pairwise Grows ∧ ∀ directory ∈ directories, Numbered directory

section Files

variable {names : List String} {file : String} {directory before after : Directory}

theorem mem_migrationFiles :
    file ∈ migrationFiles names ↔ file ∈ migrationNames names :=
  (List.perm_insertionSort _ _).mem_iff

theorem isMigration_of_mem (member : file ∈ migrationNames names) :
    isMigration file = true :=
  (List.mem_filter.mp member).2

theorem sorted_migrationFiles (names : List String) :
    (migrationFiles names).Pairwise (· ≤ ·) :=
  List.pairwise_insertionSort (· ≤ ·) _

theorem Numbered.nodup (numbered : Numbered directory) :
    (migrationNames directory.names).Nodup :=
  List.Nodup.of_map _ numbered

/-- The numbers of the sorted files are distinct as well. -/
theorem Numbered.files (numbered : Numbered directory) :
    ((migrationFiles directory.names).map migrationId).Nodup :=
  ((List.perm_insertionSort _ _).map migrationId).nodup_iff.mpr numbered

theorem Grows.refl (directory : Directory) : Grows directory directory where
  keeps _ member := ⟨member, rfl⟩
  higher _ member isNew := absurd member isNew

/-- A directory that grows has its sorted files extended at the end. -/
theorem Grows.begins (grows : Grows before after) (numbered : Numbered before)
    (numberedAfter : Numbered after) :
    migrationFiles before.names <+: migrationFiles after.names := by
  let new := (migrationNames after.names).filter
    fun file => decide (file ∉ migrationNames before.names)
  have sorted : (migrationFiles before.names ++
      new.insertionSort (· ≤ ·)).Pairwise (· ≤ ·) := by
    refine List.pairwise_append.mpr ⟨sorted_migrationFiles _,
      List.pairwise_insertionSort (· ≤ ·) _, ?_⟩
    intro file member other otherMember
    have old := mem_migrationFiles.mp member
    rcases List.mem_filter.mp
        ((List.perm_insertionSort _ _).mem_iff.mp otherMember) with
      ⟨present, isNew⟩
    apply le_of_lt
    exact lt_of_migrationId_lt (isMigration_of_mem old)
      (isMigration_of_mem present)
      (grows.higher other present (of_decide_eq_true isNew) file old)
  have nodup : (migrationNames before.names ++ new).Nodup := by
    refine List.nodup_append.mpr ⟨numbered.nodup,
      numberedAfter.nodup.filter _, ?_⟩
    rintro file member _ otherMember rfl
    exact of_decide_eq_true (List.mem_filter.mp otherMember).2 member
  have perm : (migrationFiles before.names ++
      new.insertionSort (· ≤ ·)).Perm (migrationFiles after.names) := by
    have parts := (List.perm_insertionSort (· ≤ ·)
      (migrationNames before.names)).append
        (List.perm_insertionSort (· ≤ ·) new)
    refine parts.trans (List.Perm.trans ?_
      (List.perm_insertionSort (· ≤ ·) (migrationNames after.names)).symm)
    refine (List.perm_ext_iff_of_nodup nodup numberedAfter.nodup).mpr ?_
    intro file
    rw [List.mem_append]
    constructor
    · rintro (old | isNew)
      · exact (grows.keeps file old).1
      · exact (List.mem_filter.mp isNew).1
    · intro present
      by_cases old : file ∈ migrationNames before.names
      · exact .inl old
      · exact .inr (List.mem_filter.mpr ⟨present, decide_eq_true old⟩)
  have same := perm.eq_of_pairwise' sorted (sorted_migrationFiles after.names)
  rw [← same]
  exact List.prefix_append _ _

end Files

end ChatBackend.Migrations.Directories
