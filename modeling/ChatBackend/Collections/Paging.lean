import Mathlib.Data.Finset.Card
import Mathlib.Order.Defs.LinearOrder
import Mathlib.Tactic.Common
import ChatBackend.Relational.Table

/-!
# Reading a table by pages

A page of a table holds the rows with the greatest keys below a cursor, in
descending order of the keys.  A sweep reads pages one after another: every page
starts below the last key of the page before, and a page that is not full is the
last one.  The table may change between two pages.

A sweep goes down, so it reads no key twice; and it passes over no key that
stays in the table.
-/

namespace Collections

open Relational

variable {Row Key : Type*} [LinearOrder Key] {key : Row → Key}

/-! ## Pages -/

/-- The key comes after the cursor; without a cursor, every key does. -/
def Below (cursor : Option Key) (value : Key) : Prop :=
  ∀ bound ∈ cursor, value < bound

instance (cursor : Option Key) : DecidablePred (Below cursor) :=
  fun value => inferInstanceAs (Decidable (∀ bound ∈ cursor, value < bound))

/-- The keys of the rows descend. -/
abbrev Descending (key : Row → Key) (rows : List Row) : Prop :=
  rows.Pairwise fun left right => key right < key left

/-- The page of the table that starts below the cursor. -/
structure IsPage (key : Row → Key) (limit : Nat) (rows : List Row)
    (cursor : Option Key) (page : List Row) : Prop where
  descending : Descending key page
  listed : ∀ row ∈ page, row ∈ rows ∧ Below cursor (key row)
  /-- What a page leaves out comes after all of it, and the page is full. -/
  rest : ∀ row ∈ rows, Below cursor (key row) → row ∉ page →
    limit ≤ page.length ∧ ∀ other ∈ page, key row < key other

section Pages

variable {rows page : List Row} {cursor : Option Key} {limit : Nat}

theorem below_none (value : Key) : Below none value := nofun

theorem below_some {bound value : Key} :
    Below (some bound) value ↔ value < bound := by
  simp [Below]

theorem Below.of_lt {value other : Key} (below : Below cursor value)
    (less : other < value) : Below cursor other :=
  fun bound held => less.trans (below bound held)

/-- Every key that a cursor moves to leaves fewer keys below it. -/
theorem card_below_lt {keys : Finset Key} {value : Key}
    (member : value ∈ keys) (below : Below cursor value) :
    (keys.filter (Below (some value))).card <
      (keys.filter (Below cursor)).card := by
  refine Finset.card_lt_card (Finset.ssubset_iff_of_subset ?_ |>.mpr ?_)
  · intro other
    simp only [Finset.mem_filter, below_some]
    exact fun under => ⟨under.1, below.of_lt under.2⟩
  · refine ⟨value, Finset.mem_filter.mpr ⟨member, below⟩, ?_⟩
    simp [below_some]

/-- The greater keys of a sorted table come first. -/
theorem sorted_mergeSort (key : Row → Key) (rows : List Row) :
    (rows.mergeSort fun left right =>
      decide (¬ key left < key right)).Pairwise
        fun left right => key right ≤ key left := by
  have sorted : (rows.mergeSort fun left right =>
      decide (¬ key left < key right)).Pairwise
        fun left right => decide (¬ key left < key right) :=
    List.pairwise_mergeSort
      (by simpa using fun _ _ _ first second => second.trans first)
      (by simpa using fun left right => le_total (key right) (key left)) rows
  exact sorted.imp fun ordered => by simpa using ordered

/-- The sorted table descends, if its keys are distinct. -/
theorem descending_mergeSort (unique : UniqueKey key rows) :
    Descending key
      (rows.mergeSort fun left right => decide (¬ key left < key right)) := by
  have distinct : UniqueKey key
      (rows.mergeSort fun left right => decide (¬ key left < key right)) :=
    (List.mergeSort_perm rows _).symm.pairwise unique
      fun different same => different same.symm
  exact ((sorted_mergeSort key rows).and distinct).imp fun both =>
    both.1.lt_of_ne' both.2

/-- Of two entries of a sorted list, the greater one comes first. -/
theorem pair_sublist_iff {values : List Key} {first second : Key}
    (sorted : values.Pairwise fun left right => right ≤ left)
    (listed : first ∈ values) (otherListed : second ∈ values)
    (different : first ≠ second) :
    [second, first].Sublist values ↔ first < second := by
  constructor
  · intro sublist
    have ordered := List.pairwise_pair.mp (sorted.sublist sublist)
    exact ordered.lt_of_ne different
  · intro less
    obtain ⟨before, after, rfl⟩ := List.mem_iff_append.mp otherListed
    have afterIt : first ∈ after := by
      rcases List.mem_append.mp listed with earlier | later
      · have ordered := (List.pairwise_append.mp sorted).2.2 first earlier
          second List.mem_cons_self
        exact absurd less (not_lt.mpr ordered)
      · exact (List.mem_cons.mp later).resolve_left different
    exact ((List.singleton_sublist.mpr afterIt).cons_cons second).trans
      (List.sublist_append_right before _)

/-- What a prefix of a descending list leaves out comes after it. -/
theorem Descending.take_rest (descending : Descending key rows) (limit : Nat)
    {row : Row} (member : row ∈ rows) (left : row ∉ rows.take limit) :
    limit ≤ (rows.take limit).length ∧
      ∀ other ∈ rows.take limit, key row < key other := by
  rw [← List.take_append_drop limit rows] at member descending
  have dropped := (List.mem_append.mp member).resolve_left left
  constructor
  · have long : limit ≤ rows.length := by
      by_contra short
      rw [List.drop_of_length_le (by omega)] at dropped
      exact List.not_mem_nil dropped
    rw [List.length_take]
    omega
  · intro other taken
    exact (List.pairwise_append.mp descending).2.2 other taken row dropped

/-- Sorting what lies below the cursor and taking the limit makes a page. -/
theorem isPage_take_mergeSort (unique : UniqueKey key rows)
    (cursor : Option Key) (limit : Nat) :
    IsPage key limit rows cursor
      (((rows.filter fun row =>
          cursor.all fun bound => decide (key row < bound)).mergeSort
        fun left right => decide (¬ key left < key right)).take limit) := by
  have descending := descending_mergeSort
    (unique.filter fun row => cursor.all fun bound => decide (key row < bound))
  have below (row : Row) :
      (cursor.all fun bound => decide (key row < bound)) = true ↔
        Below cursor (key row) := by
    cases cursor <;> simp [Below]
  have sorted (row : Row) :
      row ∈ (rows.filter fun row =>
          cursor.all fun bound => decide (key row < bound)).mergeSort
        (fun left right => decide (¬ key left < key right)) ↔
        row ∈ rows ∧ Below cursor (key row) := by
    rw [List.mem_mergeSort, List.mem_filter, below]
  refine ⟨descending.sublist (List.take_sublist _ _), ?_, ?_⟩
  · intro row listed
    exact (sorted row).mp (List.mem_of_mem_take listed)
  · intro row member under left
    exact Descending.take_rest descending limit
      ((sorted row).mpr ⟨member, under⟩) left

end Pages

/-! ## Sweeps -/

/-- The pages of a sweep; a table stands for every page that is read. -/
inductive Sweep (key : Row → Key) (limit : Nat) :
    (Nat → List Row) → Option Key → List (List Row) → Prop where
  | last {tables : Nat → List Row} {cursor : Option Key} {page : List Row}
      (reads : IsPage key limit (tables 0) cursor page)
      (short : page.length < limit) :
      Sweep key limit tables cursor [page]
  | more {tables : Nat → List Row} {cursor : Option Key} {page : List Row}
      {row : Row} {pages : List (List Row)}
      (reads : IsPage key limit (tables 0) cursor page)
      (final : page.getLast? = some row)
      (next : Sweep key limit (fun round => tables (round + 1))
        (some (key row)) pages) :
      Sweep key limit tables cursor (page :: pages)

namespace Sweep

variable {tables : Nat → List Row} {cursor : Option Key} {limit : Nat}
  {pages : List (List Row)} {row : Row}

theorem mem_below (sweep : Sweep key limit tables cursor pages)
    (member : row ∈ pages.flatten) : Below cursor (key row) := by
  induction sweep with
  | last reads short =>
      rw [List.flatten_singleton] at member
      exact (reads.listed row member).2
  | more reads final next induction =>
      rw [List.flatten_cons, List.mem_append] at member
      rcases member with here | later
      · exact (reads.listed row here).2
      · exact (reads.listed _ (List.mem_of_getLast? final)).2.of_lt
          (below_some.mp (induction later))

/-- The last row of a descending list has the least key. -/
theorem key_last_le {page : List Row} {last : Row}
    (descending : Descending key page) (final : page.getLast? = some last)
    (member : row ∈ page) : key last ≤ key row := by
  obtain ⟨front, rfl⟩ := List.getLast?_eq_some_iff.mp final
  rcases List.mem_append.mp member with before | same
  · exact ((List.pairwise_append.mp descending).2.2 row before last
      (List.mem_singleton_self last)).le
  · rw [List.mem_singleton.mp same]

/-- A sweep goes down. -/
theorem descending (sweep : Sweep key limit tables cursor pages) :
    Descending key pages.flatten := by
  induction sweep with
  | last reads short =>
      rw [List.flatten_singleton]
      exact reads.descending
  | more reads final next induction =>
      rw [List.flatten_cons]
      refine List.pairwise_append.mpr ⟨reads.descending, induction, ?_⟩
      intro row here other later
      exact (below_some.mp (next.mem_below later)).trans_le
        (key_last_le reads.descending final here)

/-- Every row of a sweep is one of a table that it has read. -/
theorem listed (sweep : Sweep key limit tables cursor pages)
    (member : row ∈ pages.flatten) : ∃ round, row ∈ tables round := by
  induction sweep with
  | last reads short =>
      rw [List.flatten_singleton] at member
      exact ⟨0, (reads.listed row member).1⟩
  | more reads final next induction =>
      rw [List.flatten_cons, List.mem_append] at member
      rcases member with here | later
      · exact ⟨0, (reads.listed row here).1⟩
      · rcases induction later with ⟨round, stored⟩
        exact ⟨round + 1, stored⟩

/-- A sweep passes over no key that stays in the table. -/
theorem complete (sweep : Sweep key limit tables cursor pages)
    (stay : ∀ round, ∀ row ∈ tables round,
      ∃ later ∈ tables (round + 1), key later = key row)
    (stored : row ∈ tables 0) (below : Below cursor (key row)) :
    ∃ other ∈ pages.flatten, key other = key row := by
  induction sweep generalizing row with
  | last reads short =>
      rw [List.flatten_singleton]
      by_contra missing
      have left : row ∉ _ := fun here => missing ⟨row, here, rfl⟩
      exact absurd (reads.rest row stored below left).1 (not_le.mpr short)
  | @more tables cursor page last pages reads final next induction =>
      rw [List.flatten_cons]
      by_cases here : row ∈ page
      · exact ⟨row, List.mem_append_left _ here, rfl⟩
      · have under := (reads.rest row stored below here).2 last
          (List.mem_of_getLast? final)
        obtain ⟨later, kept, same⟩ := stay 0 row stored
        obtain ⟨other, found, equal⟩ :=
          induction (fun round => stay (round + 1)) kept
            (below_some.mpr (same ▸ under))
        exact ⟨other, List.mem_append_right _ found, equal.trans same⟩

/-- A sweep of a table that does not change lists its rows. -/
theorem mem_flatten_iff {rows : List Row} (unique : UniqueKey key rows)
    (sweep : Sweep key limit (fun _ => rows) none pages) :
    row ∈ pages.flatten ↔ row ∈ rows := by
  constructor
  · intro member
    exact (sweep.listed member).elim fun _ stored => stored
  · intro stored
    obtain ⟨other, found, same⟩ := sweep.complete
      (fun _ row stored => ⟨row, stored, rfl⟩) stored (below_none _)
    obtain ⟨_, otherStored⟩ := sweep.listed found
    rwa [← unique.eq_of_key otherStored stored same]

end Sweep

end Collections
