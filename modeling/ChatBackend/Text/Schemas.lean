import Mathlib.Data.List.Basic

/-!
# Schemas of JSON values

A schema reads a value, which may be absent, or finds issues in it.  An issue
stands at a path of field names and positions.  An object collects the issues of
all its fields, so that each of them is located at the name of a field.
-/

namespace Text

/-- What a JSON text denotes; a number that is too large is infinite. -/
inductive Json where
  | null
  | bool (value : Bool)
  | number (finite : Option Rat)
  | string (text : String)
  | array (items : List Json)
  | object (fields : List (String × Json))

/-- Why a value is refused. -/
inductive Problem where
  | expected (kind : String)
  | tooSmall (kind : String) (minimum : Int)
  | tooBig (kind : String) (maximum : Int)
  | format (name : String)
deriving DecidableEq, Repr

structure Issue where
  path : List String
  problem : Problem
deriving DecidableEq, Repr

abbrev Checked (Value : Type) := Except (List Issue) Value

abbrev Schema (Value : Type) := Option Json → Checked Value

namespace Schema

variable {Value Other : Type}

/-- The issues stand below the name. -/
def below (name : String) : Checked Value → Checked Value
  | .ok value => .ok value
  | .error issues =>
      .error (issues.map fun issue => { issue with path := name :: issue.path })

/-- Both are read, and all their issues are collected. -/
def both : Checked Value → Checked Other → Checked (Value × Other)
  | .ok value, .ok other => .ok (value, other)
  | .ok _, .error issues => .error issues
  | .error issues, .ok _ => .error issues
  | .error issues, .error others => .error (issues ++ others)

/-- A condition on the strings that a schema accepts. -/
structure Check where
  problem : Problem
  passes : String → Bool

def string (checks : List Check) : Schema String
  | some (.string text) =>
      match checks.filter fun check => ¬ check.passes text with
      | [] => .ok text
      | failed => .error (failed.map fun check => ⟨[], check.problem⟩)
  | _ => .error [⟨[], .expected "string"⟩]

def number : Schema Rat
  | some (.number (some value)) => .ok value
  | _ => .error [⟨[], .expected "number"⟩]

def unknown : Schema (Option Json) := .ok

def optional (schema : Schema Value) : Schema (Option Value)
  | none => .ok none
  | some given => (schema (some given)).map some

def default (value : Value) (schema : Schema Value) : Schema Value
  | none => .ok value
  | some given => schema (some given)

/-- The items from a position on. -/
def items (schema : Schema Value) : Nat → List Json → Checked (List Value)
  | _, [] => .ok []
  | position, item :: rest =>
      (both (below (toString position) (schema (some item)))
        (items schema (position + 1) rest)).map fun read => read.1 :: read.2

def array (schema : Schema Value) (minimum maximum : Nat) :
    Schema (List Value)
  | some (.array given) =>
      let sized : Checked Unit :=
        if given.length < minimum then
          .error [⟨[], .tooSmall "array" minimum⟩]
        else if maximum < given.length then
          .error [⟨[], .tooBig "array" maximum⟩]
        else .ok ()
      (both (items schema 0 given) sized).map Prod.fst
  | _ => .error [⟨[], .expected "array"⟩]

end Schema

/-! ## Objects -/

/-- Fields of an object, each of whose issues is located at one of them. -/
structure Fields (Value : Type) where
  names : List String
  read : (String → Option Json) → Checked Value
  located : ∀ given issues, read given = .error issues →
    ∀ issue ∈ issues, ∃ name ∈ names, issue.path.head? = some name

section Located

variable {Value Other : Type}

theorem located_below {name : String} {checked : Checked Value}
    {issues : List Issue} (refused : Schema.below name checked = .error issues) :
    ∀ issue ∈ issues, issue.path.head? = some name := by
  cases checked with
  | ok value => cases refused
  | error inner =>
      cases refused
      intro issue member
      obtain ⟨original, -, rfl⟩ := List.mem_map.mp member
      rfl

/-- The issues of two values that are read are those of either one. -/
theorem mem_both {first : Checked Value} {second : Checked Other}
    {issues : List Issue} (refused : Schema.both first second = .error issues)
    {issue : Issue} (member : issue ∈ issues) :
    (∃ earlier, first = .error earlier ∧ issue ∈ earlier) ∨
      ∃ later, second = .error later ∧ issue ∈ later := by
  cases first with
  | ok value =>
      cases second with
      | ok other => cases refused
      | error later =>
          cases refused
          exact .inr ⟨_, rfl, member⟩
  | error earlier =>
      cases second with
      | ok other =>
          cases refused
          exact .inl ⟨_, rfl, member⟩
      | error later =>
          cases refused
          rcases List.mem_append.mp member with early | late
          · exact .inl ⟨_, rfl, early⟩
          · exact .inr ⟨_, rfl, late⟩

end Located

namespace Fields

variable {Value Other : Type}

def field (name : String) (schema : Schema Value) : Fields Value where
  names := [name]
  read given := Schema.below name (schema (given name))
  located _ _ refused issue member :=
    ⟨name, List.mem_singleton_self name, located_below refused issue member⟩

def and (first : Fields Value) (second : Fields Other) :
    Fields (Value × Other) where
  names := first.names ++ second.names
  read given := Schema.both (first.read given) (second.read given)
  located given issues refused issue member := by
    rcases mem_both refused member with
      ⟨earlier, failed, early⟩ | ⟨later, failed, late⟩
    · obtain ⟨name, listed, located⟩ :=
        first.located given earlier failed issue early
      exact ⟨name, List.mem_append_left _ listed, located⟩
    · obtain ⟨name, listed, located⟩ :=
        second.located given later failed issue late
      exact ⟨name, List.mem_append_right _ listed, located⟩

end Fields

/-- Fields that are not named are left out. -/
def Schema.object {Value Result : Type} (fields : Fields Value)
    (build : Value → Result) : Schema Result
  | some (.object given) =>
      (fields.read fun name =>
        (given.find? fun entry => entry.1 = name).map Prod.snd).map build
  | _ => .error [⟨[], .expected "object"⟩]

/-- What an object is refused for stands at one of its fields. -/
theorem Schema.object_located {Value Result : Type} {fields : Fields Value}
    {build : Value → Result} {data : Option Json} {issues : List Issue}
    (refused : Schema.object fields build data = .error issues) :
    ∀ issue ∈ issues, issue = ⟨[], .expected "object"⟩ ∨
      ∃ name ∈ fields.names, issue.path.head? = some name := by
  intro issue member
  unfold Schema.object at refused
  split at refused
  · next given =>
      cases outcome : fields.read fun name =>
          (given.find? fun entry => entry.1 = name).map Prod.snd with
      | ok value =>
          rw [outcome] at refused
          cases refused
      | error others =>
          rw [outcome] at refused
          cases refused
          exact .inr (fields.located _ _ outcome issue member)
  · cases refused
    exact .inl (List.mem_singleton.mp member)

end Text
