import Mathlib.Data.List.Induction

/-!
# Finite runs of a deterministic system

A step function and a finite list of labels determine a run.  `Along` says
that a condition holds at every step of a run, in the state the step starts
from; `Throughout` says that a property holds in every state the run passes
through, its first and last included.

The rules below carry a one-step argument to whole runs: an invariant that the
allowed steps preserve, a property that survives a step exactly when a
condition holds, and a simulation between two machines that answer every label.
-/

namespace Transition

variable {State Label : Type*}

/-- The state in which a run ends. -/
def run (step : State → Label → State) (state : State)
    (labels : List Label) : State :=
  labels.foldl step state

/-- The condition holds at every step, in the state the step starts from. -/
def Along (step : State → Label → State)
    (condition : State → Label → Prop) : State → List Label → Prop
  | _, [] => True
  | state, label :: rest =>
      condition state label ∧ Along step condition (step state label) rest

/-- The property holds in every state of the run. -/
def Throughout (step : State → Label → State)
    (property : State → Prop) : State → List Label → Prop
  | state, [] => property state
  | state, label :: rest =>
      property state ∧ Throughout step property (step state label) rest

/-- Some step of the run satisfies the condition. -/
def Occurs (step : State → Label → State)
    (condition : State → Label → Prop) (state : State)
    (labels : List Label) : Prop :=
  ∃ before label after, labels = before ++ label :: after ∧
    condition (run step state before) label

instance decidableAlong (step : State → Label → State)
    (condition : State → Label → Prop)
    [∀ state label, Decidable (condition state label)] :
    (state : State) → (labels : List Label) →
      Decidable (Along step condition state labels)
  | _, [] => isTrue trivial
  | state, label :: rest =>
      @instDecidableAnd _ _ inferInstance
        (decidableAlong step condition (step state label) rest)

instance decidableThroughout (step : State → Label → State)
    (property : State → Prop) [DecidablePred property] :
    (state : State) → (labels : List Label) →
      Decidable (Throughout step property state labels)
  | state, [] => inferInstanceAs (Decidable (property state))
  | state, label :: rest =>
      @instDecidableAnd _ _ inferInstance
        (decidableThroughout step property (step state label) rest)

section Runs

variable (step : State → Label → State)

@[simp]
theorem run_nil (state : State) : run step state [] = state := rfl

@[simp]
theorem run_cons (state : State) (label : Label) (rest : List Label) :
    run step state (label :: rest) = run step (step state label) rest := rfl

theorem run_append (state : State) (first second : List Label) :
    run step state (first ++ second) =
      run step (run step state first) second :=
  List.foldl_append

@[simp]
theorem run_concat (state : State) (labels : List Label) (label : Label) :
    run step state (labels ++ [label]) =
      step (run step state labels) label := by
  rw [run_append]
  rfl

variable {step}

theorem along_append
    {condition : State → Label → Prop}
    {state : State} {first second : List Label} :
    Along step condition state (first ++ second) ↔
      Along step condition state first ∧
        Along step condition (run step state first) second := by
  induction first generalizing state with
  | nil => simp [Along]
  | cons label rest induction =>
      simp only [List.cons_append, Along, run_cons, induction, and_assoc]

/-- The condition at one chosen step of a run. -/
theorem Along.at_step
    {condition : State → Label → Prop}
    {state : State} {before after : List Label} {label : Label}
    (along : Along step condition state (before ++ label :: after)) :
    condition (run step state before) label :=
  (along_append.mp along).2.1

/-- A condition along a run is one at each of its steps. -/
theorem along_iff_at_step
    {condition : State → Label → Prop} {state : State} {labels : List Label} :
    Along step condition state labels ↔
      ∀ before label after, labels = before ++ label :: after →
        condition (run step state before) label := by
  constructor
  · rintro along before label after rfl
    exact along.at_step
  · intro holds
    induction labels generalizing state with
    | nil => trivial
    | cons label rest induction =>
        refine ⟨holds [] label rest rfl, induction ?_⟩
        intro before next after split
        exact holds (label :: before) next after
          (by rw [split, List.cons_append])

theorem Along.and
    {first second : State → Label → Prop} {state : State} {labels : List Label}
    (along : Along step first state labels)
    (other : Along step second state labels) :
    Along step (fun state label => first state label ∧ second state label)
      state labels := by
  induction labels generalizing state with
  | nil => trivial
  | cons label rest induction =>
      exact ⟨⟨along.1, other.1⟩, induction along.2 other.2⟩

theorem along_of_forall
    {condition : State → Label → Prop}
    (holds : ∀ state label, condition state label)
    (state : State) (labels : List Label) :
    Along step condition state labels := by
  induction labels generalizing state with
  | nil => trivial
  | cons label rest induction => exact ⟨holds state label, induction _⟩

theorem Along.mono
    {weak strong : State → Label → Prop}
    (implies : ∀ state label, strong state label → weak state label)
    {state : State} {labels : List Label}
    (along : Along step strong state labels) :
    Along step weak state labels := by
  induction labels generalizing state with
  | nil => trivial
  | cons label rest induction =>
      exact ⟨implies state label along.1, induction along.2⟩

/-- A property of every state of a run is a property of every prefix's end. -/
theorem throughout_iff
    {property : State → Prop} {state : State} {labels : List Label} :
    Throughout step property state labels ↔
      ∀ before after, labels = before ++ after →
        property (run step state before) := by
  induction labels generalizing state with
  | nil =>
      constructor
      · intro holds before after split
        rcases List.append_eq_nil_iff.mp split.symm with ⟨rfl, rfl⟩
        exact holds
      · intro holds
        exact holds [] [] rfl
  | cons label rest induction =>
      constructor
      · rintro ⟨here, later⟩ before after split
        cases before with
        | nil => exact here
        | cons head tail =>
            rw [List.cons_append] at split
            rcases List.cons.inj split with ⟨rfl, tailSplit⟩
            exact induction.mp later tail after tailSplit
      · intro holds
        refine ⟨holds [] (label :: rest) rfl, induction.mpr ?_⟩
        intro before after split
        exact holds (label :: before) after (by rw [split, List.cons_append])

theorem Throughout.imp
    {strong weak : State → Prop}
    {state : State} {labels : List Label}
    (throughout : Throughout step strong state labels)
    (implies : ∀ state, strong state → weak state) :
    Throughout step weak state labels := by
  induction labels generalizing state with
  | nil => exact implies state throughout
  | cons label rest induction =>
      exact ⟨implies state throughout.1, induction throughout.2⟩

/-- What holds throughout holds before and after every step. -/
theorem Throughout.along
    {property : State → Prop} {state : State} {labels : List Label}
    (throughout : Throughout step property state labels) :
    Along step (fun state label => property state ∧ property (step state label))
      state labels := by
  induction labels generalizing state with
  | nil => trivial
  | cons label rest induction =>
      refine ⟨⟨throughout.1, ?_⟩, induction throughout.2⟩
      cases rest with
      | nil => exact throughout.2
      | cons _ _ => exact throughout.2.1

theorem Throughout.final
    {property : State → Prop} {state : State} {labels : List Label}
    (throughout : Throughout step property state labels) :
    property (run step state labels) :=
  throughout_iff.mp throughout labels [] (List.append_nil labels).symm

theorem Throughout.concat
    {property : State → Prop} {state : State} {labels : List Label}
    {label : Label} (throughout : Throughout step property state labels)
    (last : property (run step state (labels ++ [label]))) :
    Throughout step property state (labels ++ [label]) := by
  induction labels generalizing state with
  | nil => exact ⟨throughout, last⟩
  | cons head rest induction => exact ⟨throughout.1, induction throughout.2 last⟩

/-! ## Invariants -/

/-- What the allowed steps preserve holds throughout an allowed run. -/
theorem throughout_of_preserved
    {invariant : State → Prop} {condition : State → Label → Prop}
    (preserved : ∀ state label,
      invariant state → condition state label → invariant (step state label))
    {state : State} {labels : List Label}
    (start : invariant state) (along : Along step condition state labels) :
    Throughout step invariant state labels := by
  induction labels generalizing state with
  | nil => exact start
  | cons label rest induction =>
      exact
        ⟨start, induction (preserved state label start along.1) along.2⟩

/-- What every step preserves holds throughout every run. -/
theorem throughout_of_invariant
    {invariant : State → Prop}
    (preserved : ∀ state label, invariant state → invariant (step state label))
    {state : State} (start : invariant state) (labels : List Label) :
    Throughout step invariant state labels := by
  induction labels generalizing state with
  | nil => exact start
  | cons label rest induction =>
      exact ⟨start, induction (preserved state label start)⟩

/-- What every step preserves holds at the end of every run. -/
theorem run_invariant
    {invariant : State → Prop}
    (preserved : ∀ state label, invariant state → invariant (step state label))
    {state : State} (start : invariant state) (labels : List Label) :
    invariant (run step state labels) :=
  (throughout_of_invariant preserved start labels).final

/-- What every step preserves holds at every step of every run. -/
theorem along_of_invariant
    {invariant : State → Prop}
    (preserved : ∀ state label, invariant state → invariant (step state label))
    {state : State} (start : invariant state) (labels : List Label) :
    Along step (fun state _ => invariant state) state labels := by
  induction labels generalizing state with
  | nil => trivial
  | cons label rest induction =>
      exact ⟨start, induction (preserved state label start)⟩

/-- Either an event occurs in a run or what it would end still holds. -/
theorem occurs_or_invariant
    {invariant : State → Prop} {event : State → Label → Prop}
    (preserved : ∀ state label,
      invariant state → ¬ event state label → invariant (step state label))
    {state : State} (start : invariant state) (labels : List Label) :
    Occurs step event state labels ∨ invariant (run step state labels) := by
  induction labels using List.reverseRecOn with
  | nil => exact .inr start
  | append_singleton before label induction =>
      rcases induction with ⟨first, earlier, rest, rfl, occurred⟩ | holds
      · refine .inl ⟨first, earlier, rest ++ [label], ?_, occurred⟩
        rw [List.append_assoc, List.cons_append]
      · by_cases now : event (run step state before) label
        · exact .inl ⟨before, label, [], rfl, now⟩
        · rw [run_concat]
          exact .inr (preserved _ _ holds now)

/--
Exactness by shape.  If states of a shape have the property, a fair step that
meets the condition keeps the shape and a fair step that does not loses the
property, then a fair run has the property throughout exactly when the
condition holds along it.
-/
theorem throughout_iff_along_of_shape
    {shape property : State → Prop} {fair condition : State → Label → Prop}
    (holds : ∀ state, shape state → property state)
    (kept : ∀ state label, shape state → fair state label →
      condition state label → shape (step state label))
    (lost : ∀ state label, shape state → fair state label →
      ¬ condition state label → ¬ property (step state label))
    {state : State} {labels : List Label} (start : shape state)
    (along : Along step fair state labels) :
    Throughout step property state labels ↔
      Along step condition state labels := by
  induction labels generalizing state with
  | nil => exact ⟨fun _ => trivial, fun _ => holds state start⟩
  | cons label rest induction =>
      rcases along with ⟨here, later⟩
      by_cases meets : condition state label
      · have next := induction (kept state label start here meets) later
        exact
          ⟨fun throughout => ⟨meets, next.mp throughout.2⟩,
            fun along => ⟨holds state start, next.mpr along.2⟩⟩
      · constructor
        · rintro ⟨-, throughout⟩
          have next : property (step state label) := by
            cases rest with
            | nil => exact throughout
            | cons _ _ => exact throughout.1
          exact absurd next (lost state label start here meets)
        · exact fun along => absurd along.1 meets

/--
Exactness.  If a supported state with the property keeps it under a step
exactly when the condition holds, then a run has the property throughout
exactly when the condition holds along it.
-/
theorem throughout_iff_along
    {support property : State → Prop} {condition : State → Label → Prop}
    (supported : ∀ state label, support state → support (step state label))
    (exactly : ∀ state label, support state → property state →
      (property (step state label) ↔ condition state label))
    {state : State} {labels : List Label}
    (supportStart : support state) (start : property state) :
    Throughout step property state labels ↔
      Along step condition state labels := by
  induction labels generalizing state with
  | nil => exact ⟨fun _ => trivial, fun _ => start⟩
  | cons label rest induction =>
      constructor
      · rintro ⟨here, later⟩
        have next : property (step state label) := by
          cases rest with
          | nil => exact later
          | cons _ _ => exact later.1
        exact
          ⟨(exactly state label supportStart here).mp next,
            (induction (supported state label supportStart) next).mp later⟩
      · rintro ⟨here, later⟩
        have next : property (step state label) :=
          (exactly state label supportStart start).mpr here
        exact
          ⟨start,
            (induction (supported state label supportStart) next).mpr later⟩

end Runs

/-! ## Machines that answer -/

/-- A deterministic system that answers every label. -/
structure Machine (State Label Answer : Type*) where
  step : State → Label → Answer × State

namespace Machine

variable {Answer Concrete Abstract : Type*}

/-- The state a machine reaches. -/
def reach (machine : Machine State Label Answer) :
    State → List Label → State :=
  Transition.run fun state label => (machine.step state label).2

/-- The answers a machine gives along a run, in order. -/
def answers (machine : Machine State Label Answer) :
    State → List Label → List Answer
  | _, [] => []
  | state, label :: rest =>
      (machine.step state label).1 ::
        answers machine (machine.step state label).2 rest

theorem reach_append
    (machine : Machine State Label Answer) (state : State)
    (first second : List Label) :
    machine.reach state (first ++ second) =
      machine.reach (machine.reach state first) second :=
  Transition.run_append _ state first second

@[simp]
theorem reach_concat
    (machine : Machine State Label Answer) (state : State)
    (labels : List Label) (label : Label) :
    machine.reach state (labels ++ [label]) =
      (machine.step (machine.reach state labels) label).2 :=
  Transition.run_concat _ state labels label

theorem answers_concat
    (machine : Machine State Label Answer) (state : State)
    (labels : List Label) (label : Label) :
    machine.answers state (labels ++ [label]) =
      machine.answers state labels ++
        [(machine.step (machine.reach state labels) label).1] := by
  induction labels generalizing state with
  | nil => rfl
  | cons head tail induction =>
      rw [List.cons_append, answers, answers, induction, List.cons_append]
      rfl

theorem length_answers
    (machine : Machine State Label Answer) (state : State)
    (labels : List Label) :
    (machine.answers state labels).length = labels.length := by
  induction labels generalizing state with
  | nil => rfl
  | cons head tail induction =>
      rw [answers, List.length_cons, List.length_cons, induction]

/--
Forward simulation over histories.  The relation may speak about the labels
seen so far, and a step has to be matched only on an allowed history.
-/
theorem simulation
    {concrete : Machine Concrete Label Answer}
    {abstract : Machine Abstract Label Answer}
    {related : List Label → Concrete → Abstract → Prop}
    {allowed : List Label → Prop}
    (initial : ∀ history label, allowed (history ++ [label]) → allowed history)
    (matched : ∀ history label low high,
      allowed (history ++ [label]) → related history low high →
        (concrete.step low label).1 = (abstract.step high label).1 ∧
          related (history ++ [label])
            (concrete.step low label).2 (abstract.step high label).2)
    {low : Concrete} {high : Abstract} (start : related [] low high)
    (labels : List Label) (ok : allowed labels) :
    concrete.answers low labels = abstract.answers high labels ∧
      related labels (concrete.reach low labels)
        (abstract.reach high labels) := by
  induction labels using List.reverseRecOn with
  | nil => exact ⟨rfl, start⟩
  | append_singleton history label induction =>
      rcases induction (initial _ _ ok) with ⟨sameAnswers, relatedHistory⟩
      obtain ⟨sameAnswer, relatedNext⟩ :=
        matched history label _ _ ok relatedHistory
      rw [answers_concat, answers_concat, sameAnswers, sameAnswer,
        reach_concat, reach_concat]
      exact ⟨rfl, relatedNext⟩

end Machine

end Transition
