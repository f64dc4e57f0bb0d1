import Mathlib.Data.List.Pairwise
import Mathlib.Tactic.Common

/-!
# Tables as lists of rows

A table is a list of rows in the order of their insertion.  The statements a
relational store offers are `first` (the row a selection on a key returns),
`updateWhere`, `deleteWhere` and appending a row.  A uniqueness constraint is a
symmetric relation `clash` that no two rows of the table may satisfy; equality
of a key is the common case.
-/

namespace Relational

variable {Row Key : Type*}

/-! ## Statements -/

/-- The first row that satisfies the condition of a selection. -/
def first (condition : Row → Prop) [DecidablePred condition]
    (rows : List Row) : Option Row :=
  rows.find? fun row => decide (condition row)

/-- Change the rows that satisfy the condition of an update. -/
def updateWhere (condition : Row → Prop) [DecidablePred condition]
    (change : Row → Row) (rows : List Row) : List Row :=
  rows.map fun row => if condition row then change row else row

/-- Remove the rows that satisfy the condition of a deletion. -/
def deleteWhere (condition : Row → Prop) [DecidablePred condition]
    (rows : List Row) : List Row :=
  rows.filter fun row => decide (¬ condition row)

section Statements

variable {condition : Row → Prop} [DecidablePred condition]
  {rows : List Row} {row : Row} {change : Row → Row}

theorem first_eq_none_iff :
    first condition rows = none ↔ ∀ row ∈ rows, ¬ condition row := by
  simp [first]

theorem mem_of_first (found : first condition rows = some row) :
    row ∈ rows :=
  List.mem_of_find?_eq_some found

theorem condition_of_first (found : first condition rows = some row) :
    condition row := by
  simpa using List.find?_some found

/-- The only row that satisfies a condition is the one selected. -/
theorem first_eq_some_of_unique
    (member : row ∈ rows) (holds : condition row)
    (unique : ∀ other ∈ rows, condition other → other = row) :
    first condition rows = some row := by
  cases found : first condition rows with
  | none => exact absurd holds (first_eq_none_iff.mp found row member)
  | some other =>
      rw [unique other (mem_of_first found) (condition_of_first found)]

theorem first_cons_of (holds : condition row) :
    first condition (row :: rows) = some row :=
  List.find?_cons_of_pos (decide_eq_true holds)

theorem first_cons_of_not (fails : ¬ condition row) :
    first condition (row :: rows) = first condition rows :=
  List.find?_cons_of_neg (by rwa [decide_eq_true_iff])

theorem exists_first (member : row ∈ rows) (holds : condition row) :
    ∃ selected, first condition rows = some selected := by
  cases found : first condition rows with
  | none => exact absurd holds (first_eq_none_iff.mp found row member)
  | some selected => exact ⟨selected, rfl⟩

/-- A selection that has found a row finds it in a table that has grown. -/
theorem first_append {later : List Row}
    (found : first condition rows = some row) :
    first condition (rows ++ later) = some row := by
  rw [first, List.find?_append]
  exact congrArg (Option.or · _) found

/-- A selection on what a change of all rows keeps finds the row, changed. -/
theorem first_map {key : Row → Prop} [DecidablePred key]
    (keeps : ∀ row, key (change row) ↔ key row) :
    first key (rows.map change) = (first key rows).map change := by
  have same : (fun row => decide (key row)) ∘ change =
      fun row => decide (key row) := by
    funext row
    simp only [Function.comp_apply, decide_eq_decide]
    exact keeps row
  rw [first, List.find?_map, same]
  rfl

/-- A selection on what an update keeps finds the row, updated. -/
theorem first_updateWhere {key : Row → Prop} [DecidablePred key]
    (keeps : ∀ row, key (change row) ↔ key row) :
    first key (updateWhere condition change rows) =
      (first key rows).map
        fun row => if condition row then change row else row := by
  apply first_map
  intro row
  split_ifs
  · exact keeps row
  · exact Iff.rfl

/-- A deletion by what a change of all rows keeps comes before it or after. -/
theorem map_deleteWhere (keeps : ∀ row, condition (change row) ↔ condition row) :
    (deleteWhere condition rows).map change =
      deleteWhere condition (rows.map change) := by
  unfold deleteWhere
  rw [List.filter_map]
  refine congrArg _ (List.filter_congr fun row _ => ?_)
  rw [Function.comp_apply, decide_eq_decide, keeps]

theorem mem_updateWhere :
    row ∈ updateWhere condition change rows ↔
      ∃ old ∈ rows, row = if condition old then change old else old := by
  simp only [updateWhere, List.mem_map, eq_comm]

/-- An update that changes none of the rows it selects is idle. -/
theorem updateWhere_eq_self
    (idle : ∀ row ∈ rows, condition row → change row = row) :
    updateWhere condition change rows = rows := by
  refine (List.map_congr_left ?_).trans (List.map_id rows)
  intro row member
  by_cases holds : condition row
  · simp [holds, idle row member holds]
  · simp [holds]

/-- An update passes over a last row that it does not select. -/
theorem updateWhere_concat_of_not (skipped : ¬ condition row) :
    updateWhere condition change (rows ++ [row]) =
      updateWhere condition change rows ++ [row] := by
  simp [updateWhere, skipped]

/-- An update that keeps a key keeps the values of the key. -/
theorem exists_mem_updateWhere_iff {key : Row → Key} {value : Key}
    (keeps : ∀ row, key (change row) = key row) :
    (∃ row ∈ updateWhere condition change rows, key row = value) ↔
      ∃ row ∈ rows, key row = value := by
  have same (row : Row) :
      key (if condition row then change row else row) = key row := by
    split_ifs with holds
    · exact keeps row
    · rfl
  constructor
  · rintro ⟨row, member, rfl⟩
    rcases mem_updateWhere.mp member with ⟨old, stored, rfl⟩
    exact ⟨old, stored, (same old).symm⟩
  · rintro ⟨row, stored, rfl⟩
    exact ⟨_, mem_updateWhere.mpr ⟨row, stored, rfl⟩, same row⟩

/-- What holds of every row, changed or not, holds after an update. -/
theorem forall_mem_updateWhere {property : Row → Prop}
    (old : ∀ row ∈ rows, property row)
    (changed : ∀ row ∈ rows, condition row → property (change row)) :
    ∀ row ∈ updateWhere condition change rows, property row := by
  intro row member
  rcases mem_updateWhere.mp member with ⟨before, stored, rfl⟩
  by_cases holds : condition before
  · rw [if_pos holds]
    exact changed before stored holds
  · rw [if_neg holds]
    exact old before stored

@[simp]
theorem mem_deleteWhere :
    row ∈ deleteWhere condition rows ↔ row ∈ rows ∧ ¬ condition row := by
  simp [deleteWhere]

/-! ### Rows that a statement passes over -/

/-- Tables with the same rows for a condition have the same first one. -/
theorem first_congr {others : List Row}
    (same : rows.filter (fun row => decide (condition row)) =
      others.filter fun row => decide (condition row)) :
    first condition rows = first condition others := by
  unfold first
  rw [← List.head?_filter, same, List.head?_filter]

theorem filter_updateWhere {key : Row → Prop} [DecidablePred key]
    (old : ∀ row ∈ rows, condition row → ¬ key row)
    (changed : ∀ row ∈ rows, condition row → ¬ key (change row)) :
    (updateWhere condition change rows).filter (fun row => decide (key row)) =
      rows.filter fun row => decide (key row) := by
  induction rows with
  | nil => rfl
  | cons head tail induction =>
      simp only [List.forall_mem_cons] at old changed
      have rest := induction old.2 changed.2
      rw [updateWhere, List.map_cons, ← updateWhere]
      by_cases holds : condition head
      · rw [if_pos holds,
          List.filter_cons_of_neg (by simpa using changed.1 holds),
          List.filter_cons_of_neg (by simpa using old.1 holds), rest]
      · rw [if_neg holds, List.filter_cons, List.filter_cons, rest]

theorem filter_deleteWhere {key : Row → Prop} [DecidablePred key]
    (kept : ∀ row ∈ rows, key row → ¬ condition row) :
    (deleteWhere condition rows).filter (fun row => decide (key row)) =
      rows.filter fun row => decide (key row) := by
  rw [deleteWhere, List.filter_filter]
  refine List.filter_congr fun row member => ?_
  by_cases holds : key row
  · simp [holds, kept row member holds]
  · simp [holds]

end Statements

/-! ## Uniqueness constraints -/

/-- No two rows of the table clash. -/
def Unclashing (clash : Row → Row → Prop) (rows : List Row) : Prop :=
  rows.Pairwise fun left right => ¬ clash left right

/-- No two rows of the table agree on the key. -/
abbrev UniqueKey (key : Row → Key) (rows : List Row) : Prop :=
  Unclashing (fun left right => key left = key right) rows

section Uniqueness

variable {clash : Row → Row → Prop} {rows : List Row} {row other : Row}
  {condition : Row → Prop} [DecidablePred condition] {change : Row → Row}

theorem unclashing_nil : Unclashing clash [] := List.Pairwise.nil

theorem Unclashing.append
    (unclashing : Unclashing clash rows)
    (fresh : ∀ other ∈ rows, ¬ clash other row) :
    Unclashing clash (rows ++ [row]) := by
  refine List.pairwise_append.mpr ⟨unclashing, List.pairwise_singleton _ _, ?_⟩
  intro other member last lastMember
  rw [List.mem_singleton.mp lastMember]
  exact fresh other member

theorem Unclashing.updateWhere
    (unclashing : Unclashing clash rows)
    (reflects : ∀ left right,
      clash (if condition left then change left else left)
          (if condition right then change right else right) →
        clash left right) :
    Unclashing clash (updateWhere condition change rows) :=
  List.pairwise_map.mpr
    (unclashing.imp fun distinct clashing =>
      distinct (reflects _ _ clashing))

theorem Unclashing.deleteWhere (unclashing : Unclashing clash rows) :
    Unclashing clash (deleteWhere condition rows) :=
  List.Pairwise.filter _ unclashing

/-- Two rows of a table that clash are the same row. -/
theorem Unclashing.eq_of_clash
    (unclashing : Unclashing clash rows)
    (symmetric : ∀ left right, clash left right → clash right left)
    (member : row ∈ rows) (otherMember : other ∈ rows)
    (clashing : clash row other) : row = other := by
  induction rows with
  | nil => exact absurd member List.not_mem_nil
  | cons head tail induction =>
      rcases List.pairwise_cons.mp unclashing with
          ⟨headDistinct, tailUnclashing⟩
      rcases List.mem_cons.mp member with rowHead | rowTail
      · rcases List.mem_cons.mp otherMember with otherHead | otherTail
        · rw [rowHead, otherHead]
        · subst rowHead
          exact absurd clashing (headDistinct other otherTail)
      · rcases List.mem_cons.mp otherMember with otherHead | otherTail
        · subst otherHead
          exact absurd (symmetric _ _ clashing) (headDistinct row rowTail)
        · exact induction tailUnclashing rowTail otherTail

/-- Of the rows that would clash with each other, a table has one. -/
theorem Unclashing.filter_eq_singleton {chosen : Row → Prop}
    [DecidablePred chosen] (unclashing : Unclashing clash rows)
    (clashing : ∀ left right, chosen left → chosen right → clash left right)
    (member : row ∈ rows) (isChosen : chosen row) :
    rows.filter (fun row => decide (chosen row)) = [row] := by
  have among : row ∈ rows.filter fun row => decide (chosen row) :=
    List.mem_filter.mpr ⟨member, decide_eq_true isChosen⟩
  have distinct := List.Pairwise.filter (fun row => decide (chosen row))
    unclashing
  have all (other : Row)
      (found : other ∈ rows.filter fun row => decide (chosen row)) :
      chosen other := of_decide_eq_true (List.mem_filter.mp found).2
  generalize rows.filter (fun row => decide (chosen row)) = found at *
  match found with
  | [] => exact absurd among List.not_mem_nil
  | [only] => rw [List.mem_singleton.mp among]
  | first :: second :: rest =>
      have differ := (List.pairwise_cons.mp distinct).1 second
        List.mem_cons_self
      exact absurd (clashing first second (all first List.mem_cons_self)
        (all second (List.mem_cons_of_mem _ List.mem_cons_self))) differ

variable {key : Row → Key}

/-- Two rows of a table with a unique key that agree on it are the same row. -/
theorem UniqueKey.eq_of_key
    (unique : UniqueKey key rows)
    (member : row ∈ rows) (otherMember : other ∈ rows)
    (same : key row = key other) : row = other :=
  Unclashing.eq_of_clash unique (fun _ _ => Eq.symm) member otherMember same

/-- A row is the one selected by its unique key. -/
theorem UniqueKey.first_eq_some [DecidableEq Key]
    (unique : UniqueKey key rows) (member : row ∈ rows) :
    first (fun other => key other = key row) rows = some row :=
  first_eq_some_of_unique member rfl fun _ otherMember same =>
    unique.eq_of_key otherMember member same

/-- Updates that keep the key keep it unique. -/
theorem UniqueKey.updateWhere
    (unique : UniqueKey key rows)
    (keeps : ∀ row, key (change row) = key row) :
    UniqueKey key (updateWhere condition change rows) := by
  refine Unclashing.updateWhere unique ?_
  intro left right same
  by_cases changedLeft : condition left <;>
    by_cases changedRight : condition right <;>
      simpa [changedLeft, changedRight, keeps] using same

end Uniqueness

end Relational
