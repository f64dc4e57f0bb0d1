import ChatBackend.Relational.Table
import Mathlib.Data.List.Chain
import Mathlib.Data.List.Perm.Subperm

/-!
# Tables whose groups are chains

A row can name, by their keys, the row before it and the row after it.  The
table is linear if in every group these names run through all rows of the
group, each once, from the one row that names none before it to a row that
names none after it.

A table stays linear when a group of one row is added, when rows change in what
is not a name, and when a row is hung on the last row of its group.
-/

namespace Relational

/-- The columns by which the rows of a table are chained. -/
structure Links (Row Key Group : Type*) where
  key : Row → Key
  group : Row → Group
  parent : Row → Option Key
  next : Row → Option Key
  /-- What holds of a row and the one after it, besides. -/
  joins : Row → Row → Prop

section Chains

variable {Row Key Group : Type*}

/-- The rows name each other. -/
def Links.Linked (links : Links Row Key Group) (row other : Row) : Prop :=
  links.next row = some (links.key other) ∧
    links.parent other = some (links.key row) ∧ links.joins row other

variable (links : Links Row Key Group)

/-- The path goes through the rows of the group. -/
structure Spans (rows : List Row) (group : Group) (path : List Row) :
    Prop where
  linked : path.IsChain links.Linked
  distinct : UniqueKey links.key path
  exactly : ∀ row, row ∈ path ↔ row ∈ rows ∧ links.group row = group
  root : ∀ row ∈ path.head?, links.parent row = none
  tip : ∀ row ∈ path.getLast?, links.next row = none

structure Linear (rows : List Row) : Prop where
  unique : UniqueKey links.key rows
  spans : ∀ row ∈ rows, ∃ path, Spans links rows (links.group row) path

/-- The rows found by following the names of the rows after, up to a number. -/
def follow [DecidableEq Key] (rows : List Row) : Nat → Row → List Row
  | 0, row => [row]
  | steps + 1, row =>
      row ::
        match (links.next row).bind fun key =>
            first (fun other => links.key other = key) rows with
        | none => []
        | some other => follow rows steps other

variable {links} {rows path before after : List Row} {group : Group}
  {row other : Row}

/-! ## Reading a chain -/

theorem Spans.next_eq (spans : Spans links rows group path)
    (split : path = before ++ row :: after) :
    links.next row = after.head?.map links.key := by
  subst split
  cases after with
  | nil =>
      refine spans.tip row ?_
      rw [List.getLast?_append]
      rfl
  | cons other rest =>
      exact (List.isChain_append_cons_cons.mp spans.linked).2.1.1

theorem Spans.parent_eq (spans : Spans links rows group path)
    (split : path = before ++ row :: after) :
    links.parent row = before.getLast?.map links.key := by
  subst split
  rcases List.eq_nil_or_concat before with rfl | ⟨earlier, other, rfl⟩
  · exact spans.root row rfl
  · have linked := spans.linked
    rw [List.concat_eq_append, List.append_assoc, List.singleton_append]
      at linked
    rw [List.concat_eq_append, List.getLast?_concat]
    exact (List.isChain_append_cons_cons.mp linked).2.1.2.1

/-- A row that names none before it is the first one. -/
theorem Spans.head_of_root (spans : Spans links rows group path)
    (member : row ∈ path) (root : links.parent row = none) :
    path.head? = some row := by
  obtain ⟨before, after, split⟩ := List.append_of_mem member
  have parent := spans.parent_eq split
  rw [root, eq_comm, Option.map_eq_none_iff, List.getLast?_eq_none_iff]
    at parent
  rw [split, parent]
  rfl

/-- A row that names none after it is the last one. -/
theorem Spans.last_of_tip (spans : Spans links rows group path)
    (member : row ∈ path) (tip : links.next row = none) :
    ∃ before, path = before ++ [row] := by
  obtain ⟨before, after, split⟩ := List.append_of_mem member
  have next := spans.next_eq split
  rw [tip, eq_comm, Option.map_eq_none_iff, List.head?_eq_none_iff] at next
  subst next
  exact ⟨before, split⟩

theorem Linear.path_of_mem (linear : Linear links rows)
    (member : row ∈ rows) :
    ∃ path, Spans links rows (links.group row) path ∧ row ∈ path := by
  obtain ⟨path, spans⟩ := linear.spans row member
  exact ⟨path, spans, (spans.exactly row).mpr ⟨member, rfl⟩⟩

/-- The row that a row names after it is linked to it, in the same group. -/
theorem Linear.exists_next (linear : Linear links rows)
    (member : row ∈ rows) {key : Key} (next : links.next row = some key) :
    ∃ other ∈ rows, links.key other = key ∧
      links.group other = links.group row ∧ links.Linked row other := by
  obtain ⟨path, spans, inside⟩ := linear.path_of_mem member
  obtain ⟨before, after, split⟩ := List.append_of_mem inside
  have named := spans.next_eq split
  rw [next, eq_comm, Option.map_eq_some_iff] at named
  obtain ⟨other, head, same⟩ := named
  obtain ⟨rest, rfl⟩ := List.head?_eq_some_iff.mp head
  have there : other ∈ path := by
    rw [split]
    simp
  obtain ⟨stored, sameGroup⟩ := (spans.exactly other).mp there
  refine ⟨other, stored, same, sameGroup, ?_⟩
  subst split
  exact (List.isChain_append_cons_cons.mp spans.linked).2.1

/-- The names of the rows before and after are inverse to each other. -/
theorem Linear.next_eq_some_iff (linear : Linear links rows)
    (member : row ∈ rows) (key : Key) :
    links.next row = some key ↔
      ∃ other ∈ rows, links.key other = key ∧
        links.parent other = some (links.key row) := by
  constructor
  · intro next
    obtain ⟨other, there, same, -, linked⟩ := linear.exists_next member next
    exact ⟨other, there, same, linked.2.1⟩
  · rintro ⟨other, there, rfl, parent⟩
    obtain ⟨path, spans, inside⟩ := linear.path_of_mem there
    obtain ⟨before, after, split⟩ := List.append_of_mem inside
    have named := spans.parent_eq split
    rw [parent, eq_comm, Option.map_eq_some_iff] at named
    obtain ⟨earlier, last, same⟩ := named
    obtain ⟨first, rfl⟩ := List.getLast?_eq_some_iff.mp last
    have inPath : earlier ∈ path := by
      rw [split]
      simp
    have itself : earlier = row :=
      linear.unique.eq_of_key ((spans.exactly earlier).mp inPath).1 member same
    subst itself
    rw [List.append_assoc, List.singleton_append] at split
    subst split
    exact (List.isChain_append_cons_cons.mp spans.linked).2.1.1

/-- A row that joins no other is the last of its group. -/
theorem Linear.next_eq_none (linear : Linear links rows)
    (member : row ∈ rows) (alone : ∀ other, ¬ links.joins row other) :
    links.next row = none := by
  obtain ⟨path, spans, inside⟩ := linear.path_of_mem member
  obtain ⟨before, after, split⟩ := List.append_of_mem inside
  cases after with
  | nil => exact spans.next_eq split
  | cons other rest =>
      subst split
      exact absurd (List.isChain_append_cons_cons.mp spans.linked).2.1.2.2
        (alone other)

/-- A group has one row that names none after it. -/
theorem Linear.eq_of_next_eq_none (linear : Linear links rows)
    (member : row ∈ rows) (otherMember : other ∈ rows)
    (sameGroup : links.group other = links.group row)
    (tip : links.next row = none) (otherTip : links.next other = none) :
    other = row := by
  obtain ⟨path, spans, inside⟩ := linear.path_of_mem member
  have otherInside : other ∈ path :=
    (spans.exactly other).mpr ⟨otherMember, sameGroup⟩
  obtain ⟨before, split⟩ := spans.last_of_tip inside tip
  obtain ⟨otherBefore, otherSplit⟩ := spans.last_of_tip otherInside otherTip
  rw [split] at otherSplit
  exact (List.append_inj_right' otherSplit rfl |> List.singleton_inj.mp).symm

/-- Following the names goes along the path to its end. -/
theorem Spans.follow_eq [DecidableEq Key] (unique : UniqueKey links.key rows)
    (spans : Spans links rows group path)
    (split : path = before ++ row :: after) {steps : Nat}
    (enough : after.length ≤ steps) :
    follow links rows steps row = row :: after := by
  induction steps generalizing before row after with
  | zero =>
      rw [List.length_eq_zero_iff.mp (Nat.le_zero.mp enough)]
      rfl
  | succ steps induction =>
      rw [follow, spans.next_eq split]
      cases after with
      | nil => rfl
      | cons other rest =>
          have there : other ∈ rows := by
            refine ((spans.exactly other).mp ?_).1
            rw [split]
            simp
          have found := unique.first_eq_some there
          rw [List.head?_cons, Option.map_some, Option.bind_some, found]
          dsimp only
          rw [@induction (before ++ [row]) rest other
            (by rw [split, List.append_assoc, List.singleton_append])
            (Nat.le_of_succ_le_succ enough)]

theorem Spans.length_le (spans : Spans links rows group path) :
    path.length ≤ rows.length := by
  have distinct : path.Nodup :=
    spans.distinct.imp fun differ same => differ (congrArg links.key same)
  exact (List.subperm_of_subset distinct fun row member =>
    ((spans.exactly row).mp member).1).length_le

/-! ## Changes that keep a table linear -/

theorem linear_nil : Linear links [] where
  unique := unclashing_nil
  spans := fun _ none => absurd none List.not_mem_nil

/-- The paths of other groups do not notice a row that is added. -/
theorem Spans.concat (spans : Spans links rows group path)
    (elsewhere : links.group row ≠ group) :
    Spans links (rows ++ [row]) group path where
  linked := spans.linked
  distinct := spans.distinct
  exactly := by
    intro member
    rw [spans.exactly, List.mem_append, List.mem_singleton]
    constructor
    · rintro ⟨there, inGroup⟩
      exact ⟨.inl there, inGroup⟩
    · rintro ⟨there | rfl, inGroup⟩
      · exact ⟨there, inGroup⟩
      · exact absurd inGroup elsewhere
  root := spans.root
  tip := spans.tip

/-- A row that names no other begins a group of its own. -/
theorem Linear.concat_root (linear : Linear links rows)
    (freshKey : ∀ other ∈ rows, links.key other ≠ links.key row)
    (freshGroup : ∀ other ∈ rows, links.group other ≠ links.group row)
    (root : links.parent row = none) (tip : links.next row = none) :
    Linear links (rows ++ [row]) where
  unique := Unclashing.append linear.unique freshKey
  spans := by
    intro member there
    rcases List.mem_append.mp there with old | new
    · obtain ⟨path, spans⟩ := linear.spans member old
      exact ⟨path, spans.concat fun same => freshGroup member old same.symm⟩
    · obtain rfl := List.mem_singleton.mp new
      refine ⟨[member], List.isChain_singleton _, List.pairwise_singleton _ _,
        ?_, ?_, ?_⟩
      · intro row
        rw [List.mem_append, List.mem_singleton]
        constructor
        · rintro rfl
          exact ⟨.inr rfl, rfl⟩
        · rintro ⟨old | same, inGroup⟩
          · exact absurd inGroup (freshGroup row old)
          · exact same
      · rintro row ⟨⟩
        exact root
      · rintro row ⟨⟩
        exact tip

/-- What a change has to keep of the rows of a table. -/
structure Keeps (links : Links Row Key Group) (rows : List Row)
    (change : Row → Row) : Prop where
  key : ∀ row ∈ rows, links.key (change row) = links.key row
  group : ∀ row ∈ rows, links.group (change row) = links.group row
  parent : ∀ row ∈ rows, links.parent (change row) = links.parent row

section Changes

variable {change : Row → Row}

theorem Keeps.unique (keeps : Keeps links rows change)
    (unique : UniqueKey links.key rows) :
    UniqueKey links.key (rows.map change) := by
  refine List.pairwise_map.mpr (unique.imp_of_mem ?_)
  intro row other member otherMember differ same
  rw [keeps.key row member, keeps.key other otherMember] at same
  exact differ same

theorem Keeps.distinct (keeps : Keeps links rows change)
    (spans : Spans links rows group path) :
    UniqueKey links.key (path.map change) := by
  refine List.pairwise_map.mpr (spans.distinct.imp_of_mem ?_)
  intro row other inside otherInside differ same
  rw [keeps.key row ((spans.exactly row).mp inside).1,
    keeps.key other ((spans.exactly other).mp otherInside).1] at same
  exact differ same

theorem Keeps.exactly (keeps : Keeps links rows change)
    (spans : Spans links rows group path) (row : Row) :
    row ∈ path.map change ↔
      row ∈ rows.map change ∧ links.group row = group := by
  rw [List.mem_map, List.mem_map]
  constructor
  · rintro ⟨old, inside, rfl⟩
    obtain ⟨there, inGroup⟩ := (spans.exactly old).mp inside
    exact ⟨⟨old, there, rfl⟩, (keeps.group old there).trans inGroup⟩
  · rintro ⟨⟨old, there, rfl⟩, inGroup⟩
    rw [keeps.group old there] at inGroup
    exact ⟨old, (spans.exactly old).mpr ⟨there, inGroup⟩, rfl⟩

theorem Keeps.root (keeps : Keeps links rows change)
    (spans : Spans links rows group path) :
    ∀ row ∈ (path.map change).head?, links.parent row = none := by
  rw [List.head?_map]
  intro row first
  obtain ⟨old, head, rfl⟩ := Option.map_eq_some_iff.mp first
  have inside : old ∈ path := List.mem_of_mem_head? head
  rw [keeps.parent old ((spans.exactly old).mp inside).1]
  exact spans.root old head

/-- Rows that still name the same rows after them form the same paths. -/
theorem Keeps.spans (keeps : Keeps links rows change)
    (spans : Spans links rows group path)
    (next : ∀ row ∈ path, links.next (change row) = links.next row)
    (joins : ∀ row ∈ path, ∀ other ∈ path, links.joins row other →
      links.joins (change row) (change other)) :
    Spans links (rows.map change) group (path.map change) where
  linked := by
    refine List.isChain_map _ |>.mpr ?_
    refine List.IsChain.imp_of_mem_imp ?_ spans.linked
    rintro row other inside otherInside ⟨named, parent, joined⟩
    have there := ((spans.exactly row).mp inside).1
    have otherThere := ((spans.exactly other).mp otherInside).1
    unfold Links.Linked
    rw [next row inside, keeps.key other otherThere,
      keeps.parent other otherThere, keeps.key row there]
    exact ⟨named, parent, joins row inside other otherInside joined⟩
  distinct := keeps.distinct spans
  exactly := keeps.exactly spans
  root := keeps.root spans
  tip := by
    rw [List.getLast?_map]
    intro row last
    obtain ⟨old, final, rfl⟩ := Option.map_eq_some_iff.mp last
    rw [next old (List.mem_of_mem_getLast? final)]
    exact spans.tip old final

theorem Linear.map (linear : Linear links rows)
    (keeps : Keeps links rows change)
    (next : ∀ row ∈ rows, links.next (change row) = links.next row)
    (joins : ∀ row ∈ rows, ∀ other ∈ rows, links.joins row other →
      links.joins (change row) (change other)) :
    Linear links (rows.map change) where
  unique := keeps.unique linear.unique
  spans := by
    intro row there
    obtain ⟨old, member, rfl⟩ := List.mem_map.mp there
    obtain ⟨path, spans⟩ := linear.spans old member
    rw [keeps.group old member]
    exact ⟨path.map change, keeps.spans spans
      (fun row inside => next row ((spans.exactly row).mp inside).1)
      (fun row inside other otherInside =>
        joins row ((spans.exactly row).mp inside).1
          other ((spans.exactly other).mp otherInside).1)⟩

end Changes

/-! ## A row hung on the last one of its group -/

section Extensions

variable {tip : Row} {change : Row → Row} [DecidableEq Key]

/-- What the last row of a group becomes, and what is hung on it. -/
structure Extends (links : Links Row Key Group) (rows : List Row)
    (tip : Row) (change : Row → Row) (row : Row) : Prop where
  member : tip ∈ rows
  last : links.next tip = none
  key : links.key (change tip) = links.key tip
  group : links.group (change tip) = links.group tip
  parent : links.parent (change tip) = links.parent tip
  next : links.next (change tip) = some (links.key row)
  joins : links.joins (change tip) row
  joinsBefore : ∀ earlier ∈ rows, links.joins earlier tip →
    links.joins earlier (change tip)
  freshKey : ∀ other ∈ rows, links.key other ≠ links.key row
  sameGroup : links.group row = links.group tip
  names : links.parent row = some (links.key tip)
  namesNone : links.next row = none

/-- Change the row of the key. -/
def changeAt (links : Links Row Key Group) (tip : Row) (change : Row → Row)
    (row : Row) : Row :=
  if links.key row = links.key tip then change row else row

variable (hung : Extends links rows tip change row)

theorem changeAt_tip : changeAt links tip change tip = change tip :=
  if_pos rfl

theorem changeAt_of_ne (unique : UniqueKey links.key rows)
    (member : tip ∈ rows) (there : other ∈ rows) (differ : other ≠ tip) :
    changeAt links tip change other = other :=
  if_neg fun same => differ (unique.eq_of_key there member same)

include hung

theorem Extends.keeps (unique : UniqueKey links.key rows) :
    Keeps links rows (changeAt links tip change) := by
  have cases_of (row : Row) (there : row ∈ rows) :
      row = tip ∨ changeAt links tip change row = row := by
    by_cases itself : row = tip
    · exact .inl itself
    · exact .inr (changeAt_of_ne unique hung.member there itself)
  refine ⟨?_, ?_, ?_⟩
  · intro row there
    rcases cases_of row there with rfl | same
    · rw [changeAt_tip]
      exact hung.key
    · rw [same]
  · intro row there
    rcases cases_of row there with rfl | same
    · rw [changeAt_tip]
      exact hung.group
    · rw [same]
  · intro row there
    rcases cases_of row there with rfl | same
    · rw [changeAt_tip]
      exact hung.parent
    · rw [same]

theorem Extends.joins_changeAt (unique : UniqueKey links.key rows)
    {earlier other : Row} (there : earlier ∈ rows) (otherThere : other ∈ rows)
    (differ : earlier ≠ tip) (joined : links.joins earlier other) :
    links.joins (changeAt links tip change earlier)
      (changeAt links tip change other) := by
  rw [changeAt_of_ne unique hung.member there differ]
  by_cases itself : other = tip
  · rw [itself] at joined ⊢
    rw [changeAt_tip]
    exact hung.joinsBefore earlier there joined
  · rw [changeAt_of_ne unique hung.member otherThere itself]
    exact joined

/-- The path of the group goes on to the new row. -/
theorem Extends.spans (unique : UniqueKey links.key rows)
    (spans : Spans links rows (links.group tip) path) :
    Spans links (rows.map (changeAt links tip change) ++ [row])
      (links.group tip) (path.map (changeAt links tip change) ++ [row]) := by
  have keeps := hung.keeps unique
  have inside : tip ∈ path :=
    (spans.exactly tip).mpr ⟨hung.member, rfl⟩
  obtain ⟨before, split⟩ := spans.last_of_tip inside hung.last
  refine ⟨?_, ?_, ?_, ?_, ?_⟩
  · refine List.isChain_append.mpr ⟨?_, List.isChain_singleton _, ?_⟩
    · refine (List.isChain_map _).mpr ?_
      refine List.IsChain.imp_of_mem_imp ?_ spans.linked
      rintro row other inside otherInside ⟨named, parent, joined⟩
      have there := ((spans.exactly row).mp inside).1
      have otherThere := ((spans.exactly other).mp otherInside).1
      have differ : row ≠ tip := by
        rintro rfl
        rw [hung.last] at named
        cases named
      refine ⟨?_, ?_,
        hung.joins_changeAt unique there otherThere differ joined⟩
      · rw [changeAt_of_ne unique hung.member there differ,
          keeps.key other otherThere]
        exact named
      · rw [keeps.parent other otherThere, keeps.key row there]
        exact parent
    · rw [split, List.map_append, List.map_singleton, List.getLast?_concat,
        changeAt_tip]
      rintro last ⟨⟩ next ⟨⟩
      refine ⟨hung.next, ?_, hung.joins⟩
      rw [hung.key]
      exact hung.names
  · refine Unclashing.append (keeps.distinct spans) ?_
    intro other member
    obtain ⟨old, inside, rfl⟩ := List.mem_map.mp member
    have there := ((spans.exactly old).mp inside).1
    rw [keeps.key old there]
    exact hung.freshKey old there
  · intro member
    rw [List.mem_append, List.mem_append, List.mem_singleton,
      keeps.exactly spans]
    constructor
    · rintro (⟨there, inGroup⟩ | rfl)
      · exact ⟨.inl there, inGroup⟩
      · exact ⟨.inr rfl, hung.sameGroup⟩
    · rintro ⟨there | rfl, inGroup⟩
      · exact .inl ⟨there, inGroup⟩
      · exact .inr rfl
  · intro first head
    refine keeps.root spans first ?_
    rw [split, List.map_append, List.map_singleton] at head ⊢
    cases before with
    | nil => exact head
    | cons earlier rest => exact head
  · rw [List.getLast?_concat]
    rintro last ⟨⟩
    exact hung.namesNone

theorem Extends.linear_extend (linear : Linear links rows) :
    Linear links (rows.map (changeAt links tip change) ++ [row]) where
  unique := by
    have keeps := hung.keeps linear.unique
    refine Unclashing.append (keeps.unique linear.unique) ?_
    intro other member
    obtain ⟨old, there, rfl⟩ := List.mem_map.mp member
    rw [keeps.key old there]
    exact hung.freshKey old there
  spans := by
    have keeps := hung.keeps linear.unique
    -- the group of the tip is extended, and the others are passed over
    have all (old : Row) (member : old ∈ rows) :
        ∃ path, Spans links (rows.map (changeAt links tip change) ++ [row])
          (links.group old) path := by
      obtain ⟨path, spans⟩ := linear.spans old member
      by_cases inGroup : links.group old = links.group tip
      · rw [inGroup] at spans ⊢
        exact ⟨_, hung.spans linear.unique spans⟩
      · have differ (inner : Row) (inside : inner ∈ path) : inner ≠ tip := by
          rintro rfl
          exact inGroup ((spans.exactly inner).mp inside).2.symm
        refine ⟨_, (keeps.spans spans ?_ ?_).concat ?_⟩
        · intro inner inside
          rw [changeAt_of_ne linear.unique hung.member
            ((spans.exactly inner).mp inside).1 (differ inner inside)]
        · intro inner inside other otherInside
          exact hung.joins_changeAt linear.unique
            ((spans.exactly inner).mp inside).1
            ((spans.exactly other).mp otherInside).1 (differ inner inside)
        · rw [hung.sameGroup]
          exact fun same => inGroup same.symm
    intro member there
    rcases List.mem_append.mp there with changed | new
    · obtain ⟨old, inside, rfl⟩ := List.mem_map.mp changed
      rw [keeps.group old inside]
      exact all old inside
    · obtain rfl := List.mem_singleton.mp new
      rw [hung.sameGroup]
      exact all tip hung.member

end Extensions

end Chains

end Relational
