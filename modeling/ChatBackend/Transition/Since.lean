import ChatBackend.Transition.Runs

/-!
# What has held since

`Since` says of a run that some step of it met one condition and that every
later step met another: a session that was opened and not closed since, a value
that was written and not overwritten since.  A run is taken apart at its end,
step by step or at any point in between.
-/

namespace Transition

variable {State Label : Type*}

/-- Some step opened, and every step after it has kept. -/
def Since (step : State → Label → State)
    (opens keeps : State → Label → Prop) (state : State)
    (labels : List Label) : Prop :=
  ∃ before label after, labels = before ++ label :: after ∧
    opens (run step state before) label ∧
      Along step keeps (run step state (before ++ [label])) after

section Rules

variable {step : State → Label → State} {opens keeps : State → Label → Prop}
  {state : State} {labels first second : List Label} {label : Label}

@[simp]
theorem since_nil : ¬ Since step opens keeps state [] := by
  rintro ⟨before, label, after, split, -⟩
  exact List.append_ne_nil_of_right_ne_nil before (List.cons_ne_nil _ _)
    split.symm

/-- The opening step is in the second part, or all of that part has kept. -/
theorem since_append :
    Since step opens keeps state (first ++ second) ↔
      Since step opens keeps (run step state first) second ∨
        Since step opens keeps state first ∧
          Along step keeps (run step state first) second := by
  constructor
  · rintro ⟨before, label, after, split, opened, kept⟩
    rcases List.append_eq_append_iff.mp split with
      ⟨middle, rfl, rfl⟩ | ⟨middle, rfl, rest⟩
    · refine .inl ⟨middle, label, after, rfl, ?_, ?_⟩
      · rwa [← run_append]
      · rwa [← run_append, ← List.append_assoc]
    · cases middle with
      | nil =>
          rw [List.append_nil]
          refine .inl ⟨[], label, after, rest.symm, opened, ?_⟩
          rwa [← run_append]
      | cons head tail =>
          obtain ⟨rfl, rfl⟩ := List.cons.inj rest
          obtain ⟨early, late⟩ := along_append.mp kept
          refine .inr ⟨⟨before, label, tail, rfl, opened, early⟩, ?_⟩
          rwa [← run_append, List.append_assoc] at late
  · rintro (⟨before, label, after, rfl, opened, kept⟩ |
      ⟨⟨before, label, after, rfl, opened, early⟩, late⟩)
    · refine ⟨first ++ before, label, after, (List.append_assoc _ _ _).symm,
        ?_, ?_⟩
      · rwa [run_append]
      · rwa [List.append_assoc, run_append]
    · refine ⟨before, label, after ++ second, ?_, opened,
        along_append.mpr ⟨early, ?_⟩⟩
      · rw [List.append_assoc, List.cons_append]
      · rwa [← run_append, List.append_assoc]

theorem since_concat :
    Since step opens keeps state (labels ++ [label]) ↔
      opens (run step state labels) label ∨
        Since step opens keeps state labels ∧
          keeps (run step state labels) label := by
  have only : Since step opens keeps (run step state labels) [label] ↔
      opens (run step state labels) label := by
    constructor
    · rintro ⟨before, last, after, split, opened, -⟩
      obtain ⟨rfl, rfl, rfl⟩ : before = [] ∧ last = label ∧ after = [] := by
        cases before with
        | nil => exact ⟨rfl, (List.cons.inj split).1.symm,
            (List.cons.inj split).2.symm⟩
        | cons head tail =>
            exact absurd (List.cons.inj split).2.symm
              (List.append_ne_nil_of_right_ne_nil tail (List.cons_ne_nil _ _))
      exact opened
    · exact fun opened => ⟨[], label, [], rfl, opened, trivial⟩
  rw [since_append, only]
  exact or_congr_right (and_congr_right fun _ => iff_of_eq (and_true _))

theorem Since.imp {openedBy keptBy : State → Label → Prop}
    (since : Since step opens keeps state labels)
    (opened : ∀ state label, opens state label → openedBy state label)
    (kept : ∀ state label, keeps state label → keptBy state label) :
    Since step openedBy keptBy state labels := by
  obtain ⟨before, label, after, split, isOpened, isKept⟩ := since
  exact ⟨before, label, after, split, opened _ _ isOpened, isKept.mono kept⟩

theorem Since.occurs (since : Since step opens keeps state labels) :
    Occurs step opens state labels := by
  obtain ⟨before, label, after, split, opened, -⟩ := since
  exact ⟨before, label, after, split, opened⟩

/-- Past a step that neither opens nor keeps, something has opened anew. -/
theorem Since.after_break
    (since : Since step opens keeps state (first ++ label :: second))
    (closed : ¬ opens (run step state first) label)
    (broken : ¬ keeps (run step state first) label) :
    Since step opens keeps (run step state (first ++ [label])) second := by
  have parts : first ++ label :: second = (first ++ [label]) ++ second := by
    rw [List.append_assoc, List.singleton_append]
  rw [parts] at since
  rcases since_append.mp since with later | ⟨earlier, -⟩
  · exact later
  · rcases since_concat.mp earlier with opened | ⟨-, kept⟩
    · exact absurd opened closed
    · exact absurd kept broken

end Rules

end Transition
