import ChatBackend.Relational.Table
import Mathlib.Data.Option.Basic
import Mathlib.Data.Set.Function

/-!
# Tables that tabulate maps

A table with a unique key tabulates a partial map if the row selected by a name
is there exactly when the map has a value there, and agrees with it.  A name is
looked up by its code, such as a hash; only a set of names is spoken about, on
which the code is injective wherever rows are inserted.

The lemmas follow the statements: an insertion is an update of the map, and an
update that keeps the key changes the map's values in place.
-/

namespace Relational

variable {Row Key Name Value : Type*} [DecidableEq Key]

/-- Looking up the names in the table is applying the map. -/
structure Tabulates (key : Row → Key) (code : Name → Key) (names : Set Name)
    (agree : Row → Value → Prop) (rows : List Row)
    (map : Name → Option Value) : Prop where
  unique : UniqueKey key rows
  lookup : ∀ name ∈ names,
    Option.Rel agree (first (fun row => key row = code name) rows) (map name)

namespace Tabulates

variable {key : Row → Key} {code : Name → Key} {names : Set Name}
  {agree : Row → Value → Prop} {rows : List Row} {map : Name → Option Value}
  {name : Name} {value : Value} {row : Row}

theorem empty : Tabulates key code names agree [] fun _ => none where
  unique := unclashing_nil
  lookup _ _ := .none

theorem imp {weaker : Row → Value → Prop}
    (tabulates : Tabulates key code names agree rows map)
    (implies : ∀ row value, agree row value → weaker row value) :
    Tabulates key code names weaker rows map where
  unique := tabulates.unique
  lookup name member := by
    have related := tabulates.lookup name member
    generalize first (fun row => key row = code name) rows = selected,
      map name = value at related ⊢
    cases related with
    | none => exact .none
    | some agrees => exact .some (implies _ _ agrees)

/-- A name without a value is the name of no row. -/
theorem absent (tabulates : Tabulates key code names agree rows map)
    (member : name ∈ names) (noValue : map name = none) :
    first (fun row => key row = code name) rows = none := by
  have related := tabulates.lookup name member
  rw [noValue] at related
  cases selected : first (fun row => key row = code name) rows with
  | none => rfl
  | some row =>
      rw [selected] at related
      cases related

theorem key_ne (tabulates : Tabulates key code names agree rows map)
    (member : name ∈ names) (noValue : map name = none) :
    ∀ row ∈ rows, key row ≠ code name :=
  first_eq_none_iff.mp (tabulates.absent member noValue)

/-- A name with a value is the name of a row that agrees with it. -/
theorem found (tabulates : Tabulates key code names agree rows map)
    (member : name ∈ names) (hasValue : map name = some value) :
    ∃ row ∈ rows, key row = code name ∧
      first (fun row => key row = code name) rows = some row ∧
        agree row value := by
  have related := tabulates.lookup name member
  rw [hasValue] at related
  cases selected : first (fun row => key row = code name) rows with
  | none =>
      rw [selected] at related
      cases related
  | some row =>
      rw [selected] at related
      have named := condition_of_first selected
      cases related with
      | some agrees => exact ⟨row, mem_of_first selected, named, rfl, agrees⟩

/-- A row under a name is the one the map speaks of. -/
theorem value_of_row (tabulates : Tabulates key code names agree rows map)
    (member : name ∈ names) (stored : row ∈ rows)
    (named : key row = code name) :
    ∃ value, map name = some value ∧ agree row value := by
  cases hasValue : map name with
  | none => exact absurd named (tabulates.key_ne member hasValue row stored)
  | some value =>
      obtain ⟨other, otherStored, otherNamed, -, agrees⟩ :=
        tabulates.found member hasValue
      have same : other = row :=
        tabulates.unique.eq_of_key otherStored stored
          (otherNamed.trans named.symm)
      exact ⟨value, rfl, same ▸ agrees⟩

/-- Inserting a row under a new name gives the name its value. -/
theorem insert [DecidableEq Name]
    (tabulates : Tabulates key code names agree rows map)
    (injective : Set.InjOn code names) (member : name ∈ names)
    (noValue : map name = none) (named : key row = code name)
    (agrees : agree row value) :
    Tabulates key code names agree (rows ++ [row])
      (Function.update map name (some value)) where
  unique := tabulates.unique.append fun other stored =>
    named ▸ tabulates.key_ne member noValue other stored
  lookup := by
    intro other otherMember
    by_cases same : other = name
    · subst same
      have selected :
          first (fun row => key row = code other) (rows ++ [row]) =
            some row := by
        refine first_eq_some_of_unique List.mem_concat_self named ?_
        intro old stored oldNamed
        rcases List.mem_append.mp stored with older | newest
        · exact absurd oldNamed (tabulates.key_ne member noValue old older)
        · exact List.mem_singleton.mp newest
      rw [selected, Function.update_self]
      exact .some agrees
    · have otherName : key row ≠ code other := fun sameCode =>
        same (injective otherMember member (sameCode.symm.trans named))
      have unselected :
          first (fun row => key row = code other) (rows ++ [row]) =
            first (fun row => key row = code other) rows := by
        simp [first, otherName]
      rw [unselected, Function.update_of_ne same]
      exact tabulates.lookup other otherMember

/--
An update that keeps the key changes the values of the map in place, if every
value is changed to one that the updated row agrees with.
-/
theorem updateWhere {condition : Row → Prop} [DecidablePred condition]
    {change : Row → Row} {after : Name → Option Value}
    (tabulates : Tabulates key code names agree rows map)
    (keeps : ∀ row, key (change row) = key row)
    (absent : ∀ name ∈ names, map name = none → after name = none)
    (present : ∀ name ∈ names, ∀ row ∈ rows, ∀ value,
      key row = code name → map name = some value → agree row value →
        ∃ changed, after name = some changed ∧
          agree (if condition row then change row else row) changed) :
    Tabulates key code names agree (updateWhere condition change rows)
      after where
  unique := tabulates.unique.updateWhere keeps
  lookup := by
    intro name member
    rw [first_updateWhere fun row => by rw [keeps]]
    cases hasValue : map name with
    | none =>
        rw [tabulates.absent member hasValue, absent name member hasValue]
        exact .none
    | some value =>
        obtain ⟨row, stored, named, selected, agrees⟩ :=
          tabulates.found member hasValue
        obtain ⟨changed, isChanged, stillAgrees⟩ :=
          present name member row stored value named hasValue agrees
        rw [selected, isChanged]
        exact .some stillAgrees

/-- An update that the values do not show leaves the map. -/
theorem updateWhere_unseen {condition : Row → Prop}
    [DecidablePred condition] {change : Row → Row}
    (tabulates : Tabulates key code names agree rows map)
    (keeps : ∀ row, key (change row) = key row)
    (unseen : ∀ row ∈ rows, ∀ value, condition row → agree row value →
      agree (change row) value) :
    Tabulates key code names agree
      (Relational.updateWhere condition change rows)
      map := by
  refine tabulates.updateWhere keeps (fun _ _ => id) ?_
  intro name _ row stored value _ hasValue agrees
  refine ⟨value, hasValue, ?_⟩
  split_ifs with holds
  · exact unseen row stored value holds agrees
  · exact agrees

/-- An update of the row of a name updates the value of the name. -/
theorem updateWhere_name [DecidableEq Name] {condition : Row → Prop}
    [DecidablePred condition] {change : Row → Row} {changed : Value}
    (tabulates : Tabulates key code names agree rows map)
    (injective : Set.InjOn code names)
    (keeps : ∀ row, key (change row) = key row)
    (member : name ∈ names) (hasValue : map name = some value)
    (only : ∀ row ∈ rows, condition row → key row = code name)
    (changes : ∀ row ∈ rows, key row = code name → agree row value →
      condition row ∧ agree (change row) changed) :
    Tabulates key code names agree
      (Relational.updateWhere condition change rows)
      (Function.update map name (some changed)) := by
  refine tabulates.updateWhere keeps ?_ ?_
  · intro other _ noValue
    rw [Function.update_of_ne, noValue]
    rintro rfl
    rw [hasValue] at noValue
    cases noValue
  · intro other otherMember row stored old named hasOld agrees
    by_cases same : other = name
    · subst same
      rw [hasValue, Option.some.injEq] at hasOld
      subst hasOld
      obtain ⟨holds, agreesAfter⟩ := changes row stored named agrees
      rw [if_pos holds]
      exact ⟨changed, Function.update_self _ _ _, agreesAfter⟩
    · have passed : ¬ condition row := fun holds =>
        same (injective otherMember member
          (named.symm.trans (only row stored holds)))
      rw [if_neg passed, Function.update_of_ne same]
      exact ⟨old, hasOld, agrees⟩

end Tabulates

/-- Selecting by a unique key and more is selecting by it and looking. -/
theorem UniqueKey.first_and {key : Row → Key} {rows : List Row} {sought : Key}
    {condition : Row → Prop} [DecidablePred condition]
    (unique : UniqueKey key rows) :
    first (fun row => key row = sought ∧ condition row) rows =
      (first (fun row => key row = sought) rows).filter
        fun row => decide (condition row) := by
  cases selected : first (fun row => key row = sought) rows with
  | none =>
      refine first_eq_none_iff.mpr fun row stored holds => ?_
      exact first_eq_none_iff.mp selected row stored holds.1
  | some row =>
      have stored := mem_of_first selected
      have named := condition_of_first selected
      by_cases holds : condition row
      · rw [Option.filter_some, if_pos (by simpa using holds)]
        refine first_eq_some_of_unique stored ⟨named, holds⟩ ?_
        intro other otherStored otherHolds
        exact unique.eq_of_key otherStored stored
          (otherHolds.1.trans named.symm)
      · rw [Option.filter_some, if_neg (by simpa using holds)]
        refine first_eq_none_iff.mpr fun other otherStored otherHolds => ?_
        have same : other = row :=
          unique.eq_of_key otherStored stored
            (otherHolds.1.trans named.symm)
        exact holds (same ▸ otherHolds.2)

end Relational
