import ChatBackend.Transition.Runs
import Mathlib.Order.Bounds.Basic

/-!
# Registers that steps overwrite

Some steps of a system write a value into a register, and the others keep what
it holds.  After a run the register holds what was written last.  A log only
grows: after a run it holds everything that the steps have appended.

A register that is meant to hold the greatest of some values does so as long as
no step writes a value below the one that it finds.
-/

namespace Transition

variable {State Label Value : Type*} {step : State → Label → State}
  {fair : State → Label → Prop} {state : State} {labels : List Label}

/-! ## What the steps emit -/

/-- What the steps of a run emit, in their order. -/
def emitted (step : State → Label → State)
    (emits : State → Label → Option Value) : State → List Label → List Value
  | _, [] => []
  | state, label :: rest =>
      (emits state label).toList ++ emitted step emits (step state label) rest

/-- What is emitted under a name for it is emitted. -/
theorem map_emitted {Other : Type*} {change : Value → Other}
    {emits : State → Label → Option Value}
    {others : State → Label → Option Other}
    (same : ∀ state label, fair state label →
      (emits state label).map change = others state label)
    (along : Along step fair state labels) :
    (emitted step emits state labels).map change =
      emitted step others state labels := by
  induction labels generalizing state with
  | nil => rfl
  | cons label rest induction =>
      rw [emitted, emitted, List.map_append, induction along.2,
        ← Option.toList_map, same state label along.1]

/-- A log holds what the steps have appended. -/
theorem log_run {log : State → List Value}
    {emits : State → Label → Option Value}
    (appends : ∀ state label, fair state label →
      log (step state label) = log state ++ (emits state label).toList)
    (along : Along step fair state labels) :
    log (run step state labels) =
      log state ++ emitted step emits state labels := by
  induction labels generalizing state with
  | nil => exact (List.append_nil _).symm
  | cons label rest induction =>
      rw [run_cons, induction along.2, appends state label along.1,
        List.append_assoc]
      rfl

/-! ## Registers -/

/-- What fair steps write into a register, which otherwise keeps its value. -/
structure Register (step : State → Label → State)
    (fair : State → Label → Prop) (Value : Type*) where
  read : State → Option Value
  writes : State → Label → Option Value
  read_step : ∀ state label, fair state label →
    read (step state label) = (writes state label).or (read state)

namespace Register

variable (register : Register step fair Value)

/-- What a run writes into the register. -/
def written : State → List Label → List Value :=
  emitted step register.writes

theorem written_cons {label : Label} {rest : List Label} :
    register.written state (label :: rest) =
      (register.writes state label).toList ++
        register.written (step state label) rest := rfl

/-- The register holds the last value that was written. -/
theorem read_run (along : Along step fair state labels) :
    register.read (run step state labels) =
      (register.written state labels).getLast?.or (register.read state) := by
  induction labels generalizing state with
  | nil => rfl
  | cons label rest induction =>
      rw [run_cons, induction along.2, register.read_step state label along.1,
        ← Option.or_assoc, written_cons, List.getLast?_append]
      cases register.writes state label <;> rfl

/-! ## The greatest value -/

section Ascending

variable [LinearOrder Value]

/-- A value below another one is not needed to tell the greatest. -/
theorem isGreatest_above_iff {held : Option Value} {new top : Value}
    {later : List Value} (below : ∀ old ∈ held, old ≤ new) :
    IsGreatest {value | value ∈ some new ∨ value ∈ later} top ↔
      IsGreatest {value | value ∈ held ∨ value ∈ new :: later} top := by
  constructor
  · rintro ⟨reached, bounds⟩
    refine ⟨.inr ?_, ?_⟩
    · rcases reached with here | told
      · rw [Option.some.inj here]
        exact .head _
      · exact .tail _ told
    · rintro value (old | told)
      · exact (below value old).trans (bounds (.inl rfl))
      · rcases told with _ | ⟨_, told⟩
        · exact bounds (.inl rfl)
        · exact bounds (.inr told)
  · rintro ⟨reached, bounds⟩
    refine ⟨?_, ?_⟩
    · rcases reached with old | told
      · have same : top = new :=
          le_antisymm (below top old) (bounds (.inr (.head _)))
        exact .inl (congrArg some same.symm)
      · rcases told with _ | ⟨_, told⟩
        · exact .inl rfl
        · exact .inr told
    · rintro value (here | told)
      · rw [← Option.some.inj here]
        exact bounds (.inr (.head _))
      · exact bounds (.inr (.tail _ told))

/-- A step that writes below what it finds. -/
def Descends (state : State) (label : Label) : Prop :=
  ∃ old ∈ register.read state, ∃ new ∈ register.writes state label, new < old

/-- The register holds the greatest of what it held and what was written. -/
def HoldsGreatest (state : State) (labels : List Label) : Prop :=
  ∀ top, register.read (run step state labels) = some top ↔
    IsGreatest {value | value ∈ register.read state ∨
      value ∈ register.written state labels} top

variable {register}

theorem holdsGreatest_of_ascending (along : Along step fair state labels)
    (ascending : Along step
      (fun state label => ¬ register.Descends state label) state labels) :
    register.HoldsGreatest state labels := by
  induction labels generalizing state with
  | nil =>
      intro top
      rw [run_nil, written, emitted]
      constructor
      · intro holds
        refine ⟨.inl holds, ?_⟩
        rintro value (other | ⟨⟨⟩⟩)
        exact (Option.some.inj (other.symm.trans holds)).le
      · rintro ⟨holds | ⟨⟨⟩⟩, -⟩
        exact holds
  | cons label rest induction =>
      intro top
      rw [run_cons, induction along.2 ascending.2 top,
        register.read_step state label along.1, written_cons]
      have rises : ¬ register.Descends state label := ascending.1
      cases writes : register.writes state label with
      | none =>
          rw [Option.none_or, Option.toList_none, List.nil_append]
      | some new =>
          rw [Option.some_or, Option.toList_some, List.singleton_append]
          apply isGreatest_above_iff
          intro old held
          exact not_lt.mp fun less => rises ⟨old, held, new, writes, less⟩

/-- Where a step writes below what it finds, the register holds less. -/
theorem Descends.not_holdsGreatest {label : Label}
    (descends : register.Descends state label) (fairly : fair state label) :
    ¬ register.HoldsGreatest state [label] := by
  intro greatest
  obtain ⟨old, held, new, writes, less⟩ := descends
  have read : register.read (run step state [label]) = some new := by
    rw [run_cons, run_nil, register.read_step state label fairly, writes]
    rfl
  exact not_le.mpr less (((greatest new).mp read).2 (.inl held))

/-- A register that holds the greatest value has not gone down. -/
theorem HoldsGreatest.rises (greatest : register.HoldsGreatest state labels)
    (along : Along step fair state labels) {old : Value}
    (held : register.read state = some old) :
    ∃ new, register.read (run step state labels) = some new ∧ old ≤ new := by
  have reads := register.read_run along
  rw [held] at reads
  cases last : (register.written state labels).getLast? with
  | none =>
      rw [last] at reads
      exact ⟨old, reads, le_rfl⟩
  | some new =>
      rw [last] at reads
      exact ⟨new, reads, ((greatest new).mp reads).2 (.inl held)⟩

end Ascending

end Register

end Transition
