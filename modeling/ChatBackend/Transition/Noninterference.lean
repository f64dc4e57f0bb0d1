import ChatBackend.Transition.Runs
import Mathlib.Logic.Function.Basic

/-!
# Noninterference

Some labels of a run are kept and the others are purged.  The purged labels do
not interfere if the answers to the kept ones are those of the run in which only
the kept labels occur.

It is enough to have a view of the states that every purged step leaves as it
is and that every kept step can be taken on instead: `Unwinds`.  A view that
hides the entries of a map under some names is `hide`.
-/

namespace Transition

/-! ## Views that hide names -/

section Hiding

variable {Name Value : Type*}

/-- The map without the entries of the hidden names. -/
def hide (hidden : Name → Bool) (map : Name → Option Value) :
    Name → Option Value := fun name =>
  bif hidden name then none else map name

variable {hidden : Name → Bool} {map : Name → Option Value} {name : Name}

theorem hide_of_hidden (isHidden : hidden name = true) :
    hide hidden map name = none := by
  rw [hide, isHidden, cond_true]

theorem hide_of_shown (isShown : hidden name = false) :
    hide hidden map name = map name := by
  rw [hide, isShown, cond_false]

theorem hide_map (change : Value → Value) :
    hide hidden (fun name => (map name).map change) =
      fun name => (hide hidden map name).map change := by
  funext name
  simp only [hide]
  cases hidden name <;> rfl

variable [DecidableEq Name]

/-- What holds of every entry holds after another one has been entered. -/
theorem forall_entry_update {property : Name → Value → Prop} {entered : Value}
    (old : ∀ name value, map name = some value → property name value)
    (new : property name entered) :
    ∀ other value, Function.update map name (some entered) other = some value →
      property other value := by
  intro other value found
  by_cases same : other = name
  · subst same
    rw [Function.update_self, Option.some.injEq] at found
    exact found ▸ new
  · rw [Function.update_of_ne same] at found
    exact old other value found

/-- What is entered under a hidden name is not seen. -/
theorem hide_update_hidden (isHidden : hidden name = true)
    (value : Option Value) :
    hide hidden (Function.update map name value) = hide hidden map := by
  funext other
  by_cases same : other = name
  · rw [same, hide_of_hidden isHidden, hide_of_hidden isHidden]
  · simp only [hide, Function.update_of_ne same]

theorem hide_update_shown (isShown : hidden name = false)
    (value : Option Value) :
    hide hidden (Function.update map name value) =
      Function.update (hide hidden map) name value := by
  funext other
  by_cases same : other = name
  · rw [same, hide_of_shown isShown, Function.update_self,
      Function.update_self]
  · simp only [hide, Function.update_of_ne same]

end Hiding

/-! ## Unwinding -/

variable {State Label Answer : Type*}

/-- Of the answers to some labels those to the labels that are kept. -/
def answersTo (keep : Label → Bool) (labels : List Label)
    (answers : List Answer) : List Answer :=
  ((labels.zip answers).filter fun answered => keep answered.1).map Prod.snd

section Answers

variable {keep : Label → Bool} {label : Label} {labels : List Label}
  {answer : Answer} {answers : List Answer}

theorem answersTo_cons_keep (kept : keep label = true) :
    answersTo keep (label :: labels) (answer :: answers) =
      answer :: answersTo keep labels answers := by
  simp [answersTo, kept]

theorem answersTo_cons_purge (purged : keep label = false) :
    answersTo keep (label :: labels) (answer :: answers) =
      answersTo keep labels answers := by
  simp [answersTo, purged]

end Answers

namespace Machine

/--
Purged steps leave the view, and kept steps answer on the view as on the state
and lead to the view of the next state.
-/
structure Unwinds (machine : Machine State Label Answer)
    (keep : Label → Bool) (allowed : Label → Prop) (invariant : State → Prop)
    (view : State → State) : Prop where
  preserved : ∀ state label, invariant state → allowed label →
    invariant (machine.step state label).2
  purged : ∀ state label, invariant state → allowed label →
    keep label = false → view (machine.step state label).2 = view state
  kept : ∀ state label, invariant state → allowed label →
    keep label = true →
      machine.step (view state) label =
        ((machine.step state label).1, view (machine.step state label).2)

/-- The purged labels of a run do not interfere with the others. -/
theorem Unwinds.noninterference {machine : Machine State Label Answer}
    {keep : Label → Bool} {allowed : Label → Prop} {invariant : State → Prop}
    {view : State → State}
    (unwinds : machine.Unwinds keep allowed invariant view)
    {state : State} {labels : List Label} (start : invariant state)
    (allAllowed : ∀ label ∈ labels, allowed label) :
    answersTo keep labels (machine.answers state labels) =
        machine.answers (view state) (labels.filter keep) ∧
      machine.reach (view state) (labels.filter keep) =
        view (machine.reach state labels) := by
  induction labels generalizing state with
  | nil => exact ⟨rfl, rfl⟩
  | cons label rest induction =>
      obtain ⟨here, later⟩ := List.forall_mem_cons.mp allAllowed
      have next := unwinds.preserved state label start here
      obtain ⟨sameAnswers, sameView⟩ := induction next later
      change _ ∧ _ = view (machine.reach (machine.step state label).2 rest)
      rw [answers]
      cases keeps : keep label with
      | false =>
          have unseen := unwinds.purged state label start here keeps
          rw [unseen] at sameAnswers sameView
          rw [answersTo_cons_purge keeps,
            List.filter_cons_of_neg (by simp [keeps])]
          exact ⟨sameAnswers, sameView⟩
      | true =>
          have seen := unwinds.kept state label start here keeps
          rw [answersTo_cons_keep keeps, List.filter_cons_of_pos keeps, answers,
            seen, sameAnswers]
          refine ⟨rfl, ?_⟩
          rw [← sameView]
          change machine.reach (machine.step (view state) label).2 _ = _
          rw [seen]

end Machine

end Transition
