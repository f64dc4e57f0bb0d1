import Mathlib.Data.List.Nodup

/-!
# Sets and maps in insertion order

The collections of a language whose sets and maps iterate in the order in which
elements and keys were first added.  Adding what is there, or setting a key
that is there, keeps its place; deleting and adding again moves it to the end.
Distinctness is part of the collections.
-/

namespace Collections

variable {Element Key Value : Type*}

/-! ## Sets -/

/-- A set that remembers the order in which its elements were added. -/
@[ext]
structure OrderedSet (Element : Type*) where
  toList : List Element
  nodup : toList.Nodup
deriving DecidableEq

namespace OrderedSet

instance : Membership Element (OrderedSet Element) where
  mem set element := element ∈ set.toList

instance : EmptyCollection (OrderedSet Element) where
  emptyCollection := ⟨[], List.nodup_nil⟩

instance [DecidableEq Element] (element : Element)
    (set : OrderedSet Element) : Decidable (element ∈ set) :=
  inferInstanceAs (Decidable (element ∈ set.toList))

/-- The set of one element. -/
def single (element : Element) : OrderedSet Element :=
  ⟨[element], List.nodup_singleton element⟩

def size (set : OrderedSet Element) : Nat :=
  set.toList.length

@[simp]
theorem mem_toList {element : Element} {set : OrderedSet Element} :
    element ∈ set.toList ↔ element ∈ set := Iff.rfl

@[simp]
theorem not_mem_empty (element : Element) :
    element ∉ (∅ : OrderedSet Element) :=
  List.not_mem_nil

@[simp]
theorem size_empty : (∅ : OrderedSet Element).size = 0 := rfl

theorem size_eq_zero_iff {set : OrderedSet Element} :
    set.size = 0 ↔ set = ∅ := by
  rw [OrderedSet.ext_iff]
  exact List.length_eq_zero_iff

theorem eq_empty_iff {set : OrderedSet Element} :
    set = ∅ ↔ ∀ element, element ∉ set := by
  rw [OrderedSet.ext_iff]
  exact List.eq_nil_iff_forall_not_mem

variable [DecidableEq Element]

/-- Add an element at the end, unless it is there. -/
def add (set : OrderedSet Element) (element : Element) :
    OrderedSet Element :=
  if member : element ∈ set.toList then set
  else ⟨set.toList ++ [element], by
    rw [← List.concat_eq_append]
    exact set.nodup.concat member⟩

/-- Delete an element. -/
def delete (set : OrderedSet Element) (element : Element) :
    OrderedSet Element :=
  ⟨set.toList.erase element, set.nodup.erase element⟩

theorem add_of_mem {set : OrderedSet Element} {element : Element}
    (member : element ∈ set) : set.add element = set :=
  dif_pos member

theorem toList_add_of_not_mem {set : OrderedSet Element} {element : Element}
    (absent : element ∉ set) :
    (set.add element).toList = set.toList ++ [element] := by
  have notListed : element ∉ set.toList := absent
  unfold add
  rw [dif_neg notListed]

@[simp]
theorem empty_add (element : Element) :
    (∅ : OrderedSet Element).add element = single element := rfl

@[simp]
theorem mem_add {set : OrderedSet Element} {element other : Element} :
    other ∈ set.add element ↔ other ∈ set ∨ other = element := by
  by_cases member : element ∈ set
  · rw [add_of_mem member]
    constructor
    · exact .inl
    · rintro (already | rfl)
      · exact already
      · exact member
  · rw [← mem_toList, toList_add_of_not_mem member, List.mem_append,
      List.mem_singleton, mem_toList]

theorem size_add_of_not_mem {set : OrderedSet Element} {element : Element}
    (absent : element ∉ set) : (set.add element).size = set.size + 1 := by
  unfold size
  rw [toList_add_of_not_mem absent, List.length_append, List.length_singleton]

@[simp]
theorem mem_delete {set : OrderedSet Element} {element other : Element} :
    other ∈ set.delete element ↔ other ≠ element ∧ other ∈ set :=
  set.nodup.mem_erase_iff

theorem delete_of_not_mem {set : OrderedSet Element} {element : Element}
    (absent : element ∉ set) : set.delete element = set :=
  OrderedSet.ext (List.erase_of_not_mem absent)

theorem size_delete_of_mem {set : OrderedSet Element} {element : Element}
    (member : element ∈ set) :
    (set.delete element).size = set.size - 1 :=
  List.length_erase_of_mem member

@[simp]
theorem single_delete (element : Element) :
    (single element).delete element = ∅ :=
  OrderedSet.ext (List.erase_cons_head element [])

end OrderedSet

/-! ## Maps -/

/-- A map that remembers the order in which its keys were first set. -/
structure OrderedMap (Key Value : Type*) where
  entries : List (Key × Value)
  nodup : (entries.map Prod.fst).Nodup
deriving DecidableEq

namespace OrderedMap

instance : EmptyCollection (OrderedMap Key Value) where
  emptyCollection := ⟨[], List.nodup_nil⟩

def size (map : OrderedMap Key Value) : Nat :=
  map.entries.length

def values (map : OrderedMap Key Value) : List Value :=
  map.entries.map Prod.snd

/-- Keep the entries that satisfy a condition. -/
def keep (map : OrderedMap Key Value) (condition : Key × Value → Prop)
    [DecidablePred condition] : OrderedMap Key Value :=
  ⟨map.entries.filter fun entry => decide (condition entry),
    map.nodup.sublist (List.filter_sublist.map Prod.fst)⟩

variable [DecidableEq Key]

def get (map : OrderedMap Key Value) (key : Key) : Option Value :=
  map.entries.lookup key

/-- Give a key a value, where it is or else at the end. -/
def set (map : OrderedMap Key Value) (key : Key) (value : Value) :
    OrderedMap Key Value :=
  if member : key ∈ map.entries.map Prod.fst then
    ⟨map.entries.map fun entry => if entry.1 = key then (key, value) else entry,
      by
        have sameKey (entry : Key × Value) :
            (if entry.1 = key then (key, value) else entry).1 = entry.1 := by
          split_ifs with same
          · exact same.symm
          · rfl
        rw [List.map_map]
        simpa only [Function.comp_def, sameKey] using map.nodup⟩
  else
    ⟨map.entries ++ [(key, value)], by
      rw [List.map_append, List.map_singleton, ← List.concat_eq_append]
      exact map.nodup.concat member⟩

/-- Delete a key. -/
def delete (map : OrderedMap Key Value) (key : Key) : OrderedMap Key Value :=
  ⟨map.entries.filter fun entry => decide (entry.1 ≠ key),
    map.nodup.sublist (List.filter_sublist.map Prod.fst)⟩

theorem entries_set_of_not_mem {map : OrderedMap Key Value} {key : Key}
    {value : Value} (absent : key ∉ map.entries.map Prod.fst) :
    (map.set key value).entries = map.entries ++ [(key, value)] := by
  unfold set
  rw [dif_neg absent]

theorem mem_entries_set {map : OrderedMap Key Value} {key : Key}
    {value : Value} {entry : Key × Value}
    (member : entry ∈ (map.set key value).entries) :
    entry = (key, value) ∨ entry ∈ map.entries := by
  unfold set at member
  split_ifs at member with present
  · obtain ⟨old, stored, rfl⟩ := List.mem_map.mp member
    split_ifs
    · exact .inl rfl
    · exact .inr stored
  · rcases List.mem_append.mp member with stored | new
    · exact .inr stored
    · exact .inl (List.mem_singleton.mp new)

theorem lookup_eq_none_of_not_mem {entries : List (Key × Value)} {key : Key}
    (absent : key ∉ entries.map Prod.fst) : entries.lookup key = none := by
  rw [List.lookup_eq_none_iff]
  intro entry member
  rw [bne_iff_ne]
  rintro rfl
  exact absent (List.mem_map_of_mem member)

theorem lookup_replace (entries : List (Key × Value)) (key other : Key)
    (value : Value) :
    (entries.map fun entry =>
        if entry.1 = key then (key, value) else entry).lookup other =
      if other = key then (entries.lookup other).map fun _ => value
      else entries.lookup other := by
  induction entries with
  | nil => simp
  | cons entry rest induction =>
      rw [List.map_cons, List.lookup_cons, List.lookup_cons, induction]
      by_cases here : entry.1 = key
      · rw [if_pos here, ← here]
        by_cases same : other = entry.1
        · simp [same]
        · simp [same, beq_false_of_ne same]
      · rw [if_neg here]
        by_cases same : other = entry.1
        · have elsewhere : other ≠ key := same ▸ here
          simp [same, here]
        · simp [beq_false_of_ne same]

@[simp]
theorem get_empty (key : Key) : (∅ : OrderedMap Key Value).get key = none :=
  rfl

@[simp]
theorem get_set (map : OrderedMap Key Value) (key other : Key)
    (value : Value) :
    (map.set key value).get other =
      if other = key then some value else map.get other := by
  unfold get set
  split_ifs with member same same
  · subst same
    dsimp only
    rw [lookup_replace, if_pos rfl]
    cases found : map.entries.lookup other with
    | some _ => rfl
    | none =>
        rcases List.mem_map.mp member with ⟨entry, stored, rfl⟩
        have absent := List.lookup_eq_none_iff.mp found entry stored
        simp at absent
  · dsimp only
    rw [lookup_replace, if_neg same]
  · subst same
    dsimp only
    rw [List.lookup_append, lookup_eq_none_of_not_mem member]
    simp
  · dsimp only
    rw [List.lookup_append]
    simp [List.lookup_cons, beq_false_of_ne same]

@[simp]
theorem get_delete (map : OrderedMap Key Value) (key other : Key) :
    (map.delete key).get other =
      if other = key then none else map.get other := by
  unfold get delete
  dsimp only
  split_ifs with same
  · subst same
    apply lookup_eq_none_of_not_mem
    simp
  · induction map.entries with
    | nil => rfl
    | cons entry rest induction =>
        by_cases here : entry.1 = key
        · have elsewhere : other ≠ entry.1 := by
            rw [here]
            exact same
          rw [List.filter_cons_of_neg (by simpa using here), induction,
            List.lookup_cons, beq_false_of_ne elsewhere]
        · rw [List.filter_cons_of_pos (by simpa using here), List.lookup_cons,
            List.lookup_cons, induction]

/-- The entries of a map are what its keys lead to. -/
theorem mem_entries_iff {map : OrderedMap Key Value} {key : Key}
    {value : Value} : (key, value) ∈ map.entries ↔ map.get key = some value := by
  unfold get
  rcases map with ⟨entries, distinct⟩
  dsimp only
  induction entries with
  | nil => simp
  | cons entry rest induction =>
      rcases entry with ⟨other, stored⟩
      rw [List.map_cons, List.nodup_cons] at distinct
      rw [List.mem_cons, List.lookup_cons, induction distinct.2]
      by_cases here : key = other
      · subst here
        have later : rest.lookup key = none :=
          lookup_eq_none_of_not_mem distinct.1
        simp [later, eq_comm]
      · rw [beq_false_of_ne here]
        exact or_iff_right fun same => here (congrArg Prod.fst same)

theorem size_eq_zero_iff {map : OrderedMap Key Value} :
    map.size = 0 ↔ ∀ key, map.get key = none := by
  unfold size
  rw [List.length_eq_zero_iff, List.eq_nil_iff_forall_not_mem]
  constructor
  · intro empty key
    cases found : map.get key with
    | none => rfl
    | some value => exact absurd (mem_entries_iff.mpr found) (empty _)
  · rintro empty ⟨key, value⟩ stored
    cases (empty key).symm.trans (mem_entries_iff.mp stored)

end OrderedMap

end Collections
