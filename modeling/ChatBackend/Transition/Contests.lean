import ChatBackend.Transition.Runs

/-!
# Check, then insert

Contestants run for one place.  Each of them checks whether the place is taken.
If it is, the contestant has lost; if not, it holds on to what it saw until it
takes the place, which fails if the place has been taken meanwhile, or if the
contestant is not fit for it.  The steps of the contestants are interleaved.

One contestant wins and all others lose, so that none breaks, exactly when no
contestant checks while another one is between its check and its insertion, and
none that is not fit finds the place free.
-/

namespace Transition

/-- How far a contestant has come. -/
inductive Phase where
  | waiting
  | holding
  | won
  | lost
  | broken
deriving DecidableEq, Repr

/-- A system whose steps are those of contestants. -/
structure Contest (State Label Name : Type*) where
  step : State → Label → State
  actor : Label → Name
  phase : State → Name → Phase
  taken : State → Prop
  /-- The contestant would not be refused the place if it is free. -/
  fit : Name → Prop
  /-- The step is the check of its contestant. -/
  checks : State → Label → Prop

namespace Contest

variable {State Label Name : Type*} (contest : Contest State Label Name)

section Definitions

variable (state : State) (label : Label)

/-- What a step does to its contestant and to the place. -/
inductive Move : Prop where
  | stays (other : ¬ contest.checks state label)
      (same : contest.phase (contest.step state label) (contest.actor label) =
        contest.phase state (contest.actor label))
      (place : contest.taken (contest.step state label) ↔ contest.taken state)
  | holds (check : contest.checks state label)
      (free : ¬ contest.taken state)
      (before : contest.phase state (contest.actor label) = .waiting)
      (after : contest.phase (contest.step state label)
        (contest.actor label) = .holding)
      (place : ¬ contest.taken (contest.step state label))
  | loses (check : contest.checks state label)
      (taken : contest.taken state)
      (before : contest.phase state (contest.actor label) = .waiting)
      (after : contest.phase (contest.step state label)
        (contest.actor label) = .lost)
      (place : contest.taken (contest.step state label))
  | wins (other : ¬ contest.checks state label)
      (free : ¬ contest.taken state) (fit : contest.fit (contest.actor label))
      (before : contest.phase state (contest.actor label) = .holding)
      (after : contest.phase (contest.step state label)
        (contest.actor label) = .won)
      (place : contest.taken (contest.step state label))
  | breaks (other : ¬ contest.checks state label)
      (refused : contest.taken state ∨ ¬ contest.fit (contest.actor label))
      (before : contest.phase state (contest.actor label) = .holding)
      (after : contest.phase (contest.step state label)
        (contest.actor label) = .broken)
      (place : contest.taken (contest.step state label) ↔ contest.taken state)

/-- A step moves its contestant and no other one. -/
structure Plays : Prop where
  frame : ∀ name, name ≠ contest.actor label →
    contest.phase (contest.step state label) name = contest.phase state name
  move : contest.Move state label

/-- A contestant checks while another one is between its check and insertion. -/
def Overlaps : Prop :=
  contest.checks state label ∧
    ∃ other, other ≠ contest.actor label ∧
      contest.phase state other = .holding

/-- A contestant that is not fit finds the place free. -/
def Misleads : Prop :=
  contest.checks state label ∧ ¬ contest.taken state ∧
    ¬ contest.fit (contest.actor label)

/-- The step leads to a contestant that breaks. -/
def Hinders : Prop :=
  contest.Overlaps state label ∨ contest.Misleads state label

/-- One contestant has won, and all others have lost. -/
def Settled : Prop :=
  ∃ winner, contest.phase state winner = .won ∧
    ∀ other, other ≠ winner → contest.phase state other = .lost

/-- The contestant has nothing left to do. -/
def Ended (name : Name) : Prop :=
  contest.phase state name ≠ .waiting ∧ contest.phase state name ≠ .holding

/-- So far the contestants have not got in each other's way. -/
inductive Calm : Prop where
  | vacant (free : ¬ contest.taken state)
      (others : ∀ name, contest.phase state name = .waiting)
  | held (holder : Name) (fit : contest.fit holder)
      (free : ¬ contest.taken state)
      (holds : contest.phase state holder = .holding)
      (others : ∀ other, other ≠ holder →
        contest.phase state other = .waiting)
  | decided (winner : Name) (taken : contest.taken state)
      (wins : contest.phase state winner = .won)
      (others : ∀ other, other ≠ winner →
        contest.phase state other = .waiting ∨
          contest.phase state other = .lost)

/-- Some contestant has broken or is bound to. -/
inductive Doomed : Prop where
  | broken (name : Name) (breaks : contest.phase state name = .broken)
  | late (name : Name) (taken : contest.taken state)
      (holds : contest.phase state name = .holding)
  | twice (name other : Name) (differ : other ≠ name)
      (holds : contest.phase state name = .holding)
      (otherHolds : contest.phase state other = .holding)
  | unfit (name : Name) (refused : ¬ contest.fit name)
      (holds : contest.phase state name = .holding)

end Definitions

section Steps

variable {contest} {state : State} {label : Label}

/-- A step that leaves its contestant where it is leaves all of them. -/
theorem Plays.phase_eq (plays : contest.Plays state label)
    (same : contest.phase (contest.step state label) (contest.actor label) =
      contest.phase state (contest.actor label)) (name : Name) :
    contest.phase (contest.step state label) name =
      contest.phase state name := by
  by_cases itself : name = contest.actor label
  · rw [itself, same]
  · exact plays.frame name itself

theorem Calm.step (calm : contest.Calm state)
    (plays : contest.Plays state label)
    (alone : ¬ contest.Hinders state label) :
    contest.Calm (contest.step state label) := by
  cases calm with
  | vacant free others =>
      cases plays.move with
      | stays other same place =>
          refine .vacant (place.not.mpr free) fun name => ?_
          rw [plays.phase_eq same, others name]
      | holds check free before after place =>
          have fit : contest.fit (contest.actor label) := by
            by_contra unfit
            exact alone (.inr ⟨check, free, unfit⟩)
          refine .held _ fit place after fun other differ => ?_
          rw [plays.frame other differ, others other]
      | loses check taken before after place => exact absurd taken free
      | wins other free fit before after place =>
          exact nomatch (others _).symm.trans before
      | breaks other refused before after place =>
          exact nomatch (others _).symm.trans before
  | held holder fit free holds others =>
      cases plays.move with
      | stays other same place =>
          refine .held holder fit (place.not.mpr free) ?_
            fun name differ => ?_
          · rw [plays.phase_eq same, holds]
          · rw [plays.phase_eq same, others name differ]
      | holds check free before after place =>
          refine absurd (.inl ⟨check, holder, ?_, holds⟩) alone
          rintro rfl
          exact nomatch holds.symm.trans before
      | loses check taken before after place => exact absurd taken free
      | wins other free fit before after place =>
          have itself : contest.actor label = holder := by
            by_contra differ
            exact nomatch (others _ differ).symm.trans before
          subst itself
          refine .decided _ place after fun name differ => .inl ?_
          rw [plays.frame name differ, others name differ]
      | breaks other refused before after place =>
          have itself : contest.actor label = holder := by
            by_contra differ
            exact nomatch (others _ differ).symm.trans before
          rcases refused with taken | unfit
          · exact absurd taken free
          · exact absurd (itself ▸ fit) unfit
  | decided winner taken wins others =>
      cases plays.move with
      | stays other same place =>
          refine .decided winner (place.mpr taken) ?_ fun name differ => ?_
          · rw [plays.phase_eq same, wins]
          · rw [plays.phase_eq same]
            exact others name differ
      | holds check free before after place => exact absurd taken free
      | loses check taken before after place =>
          have apart : winner ≠ contest.actor label := by
            rintro rfl
            exact nomatch wins.symm.trans before
          refine .decided winner place ?_ fun name differ => ?_
          · rw [plays.frame winner apart, wins]
          · by_cases itself : name = contest.actor label
            · rw [itself, after]
              exact .inr rfl
            · rw [plays.frame name itself]
              exact others name differ
      | wins other free fit before after place => exact absurd taken free
      | breaks other refused before after place =>
          by_cases itself : contest.actor label = winner
          · rw [itself, wins] at before
            cases before
          · rcases others _ itself with waiting | lost
            · exact nomatch waiting.symm.trans before
            · exact nomatch lost.symm.trans before

/-- The contestant that checks and the one that holds cannot both win. -/
theorem doomed_of_overlaps (plays : contest.Plays state label)
    (overlaps : contest.Overlaps state label) :
    contest.Doomed (contest.step state label) := by
  obtain ⟨checks, other, differ, holds⟩ := overlaps
  have still : contest.phase (contest.step state label) other = .holding :=
    (plays.frame other differ).trans holds
  cases plays.move with
  | stays otherwise same place => exact absurd checks otherwise
  | holds check free before after place => exact .twice _ other differ after still
  | loses check taken before after place => exact .late other place still
  | wins otherwise free fit before after place =>
      exact absurd checks otherwise
  | breaks otherwise refused before after place =>
      exact absurd checks otherwise

/-- A contestant that is not fit breaks when it has found the place free. -/
theorem doomed_of_misleads (plays : contest.Plays state label)
    (misleads : contest.Misleads state label) :
    contest.Doomed (contest.step state label) := by
  obtain ⟨checks, free, unfit⟩ := misleads
  cases plays.move with
  | stays otherwise same place => exact absurd checks otherwise
  | holds check free before after place => exact .unfit _ unfit after
  | loses check taken before after place => exact absurd taken free
  | wins otherwise free fit before after place => exact absurd fit unfit
  | breaks otherwise refused before after place =>
      exact absurd checks otherwise

/-- A holder goes on holding, wins the place, or breaks. -/
theorem Plays.of_holding {name : Name} (plays : contest.Plays state label)
    (holds : contest.phase state name = .holding) :
    contest.phase (contest.step state label) name = .holding ∨
      (name = contest.actor label ∧ contest.fit name ∧
        ¬ contest.taken state ∧
          contest.taken (contest.step state label)) ∨
      contest.phase (contest.step state label) name = .broken := by
  by_cases itself : name = contest.actor label
  · subst itself
    cases plays.move with
    | stays other same place => exact .inl (same.trans holds)
    | holds check free before after place =>
        exact nomatch holds.symm.trans before
    | loses check taken before after place =>
        exact nomatch holds.symm.trans before
    | wins other free fit before after place =>
        exact .inr (.inl ⟨rfl, fit, free, place⟩)
    | breaks other refused before after place => exact .inr (.inr after)
  · exact .inl ((plays.frame name itself).trans holds)

/-- A place that is taken stays taken. -/
theorem Plays.taken (plays : contest.Plays state label)
    (taken : contest.taken state) :
    contest.taken (contest.step state label) := by
  cases plays.move with
  | stays other same place => exact place.mpr taken
  | holds check free before after place => exact absurd taken free
  | loses check taken before after place => exact place
  | wins other free fit before after place => exact place
  | breaks other refused before after place => exact place.mpr taken

theorem Doomed.step (doomed : contest.Doomed state)
    (plays : contest.Plays state label) :
    contest.Doomed (contest.step state label) := by
  cases doomed with
  | broken name breaks =>
      refine .broken name ?_
      by_cases itself : name = contest.actor label
      · subst itself
        cases plays.move with
        | stays other same place => exact same.trans breaks
        | holds check free before after place =>
            exact nomatch breaks.symm.trans before
        | loses check taken before after place =>
            exact nomatch breaks.symm.trans before
        | wins other free fit before after place =>
            exact nomatch breaks.symm.trans before
        | breaks other refused before after place => exact after
      · exact (plays.frame name itself).trans breaks
  | late name taken holds =>
      rcases plays.of_holding holds with still | ⟨-, -, free, -⟩ | broken
      · exact .late name (plays.taken taken) still
      · exact absurd taken free
      · exact .broken name broken
  | twice name other differ holds otherHolds =>
      rcases plays.of_holding holds with still | ⟨itself, -, -, place⟩ | broken
      · rcases plays.of_holding otherHolds with
          otherStill | ⟨-, -, -, place⟩ | broken
        · exact .twice name other differ still otherStill
        · exact .late name place still
        · exact .broken other broken
      · refine .late other place ((plays.frame other ?_).trans otherHolds)
        rw [← itself]
        exact differ
      · exact .broken name broken
  | unfit name refused holds =>
      rcases plays.of_holding holds with still | ⟨-, fit, -, -⟩ | broken
      · exact .unfit name refused still
      · exact absurd fit refused
      · exact .broken name broken

end Steps

section Runs

variable {contest} {support : State → Prop} {state : State}
  {labels : List Label}

/-- A run is calm as long as nothing hinders it, and doomed from then on. -/
theorem calm_or_doomed
    (supported : ∀ state label, support state →
      support (contest.step state label))
    (plays : ∀ state label, support state → contest.Plays state label)
    (start : support state) (calm : contest.Calm state) :
    let serial := Along contest.step
      (fun state label => ¬ contest.Hinders state label) state labels
    (serial ∧ contest.Calm (run contest.step state labels)) ∨
      (¬ serial ∧ contest.Doomed (run contest.step state labels)) := by
  induction labels generalizing state with
  | nil => exact .inl ⟨trivial, calm⟩
  | cons label rest induction =>
      by_cases hinders : contest.Hinders state label
      · refine .inr ⟨fun serial => serial.1 hinders, ?_⟩
        have bound : contest.Doomed (contest.step state label) :=
          hinders.elim (doomed_of_overlaps (plays state label start))
            (doomed_of_misleads (plays state label start))
        have run_ := @run_invariant _ _ contest.step
          (fun state => support state ∧ contest.Doomed state)
          (fun state label holds => ⟨supported state label holds.1,
            holds.2.step (plays state label holds.1)⟩) _
          ⟨supported state label start, bound⟩ rest
        exact run_.2
      · rcases induction (supported state label start)
          (calm.step (plays state label start) hinders) with
          ⟨serial, last⟩ | ⟨serial, last⟩
        · exact .inl ⟨⟨hinders, serial⟩, last⟩
        · exact .inr ⟨fun along => serial along.2, last⟩

theorem Calm.settled [Nonempty Name] (calm : contest.Calm state)
    (ended : ∀ name, contest.Ended state name) : contest.Settled state := by
  cases calm with
  | vacant free others =>
      exact absurd (others _) (ended (Classical.arbitrary Name)).1
  | held holder fit free holds others => exact absurd holds (ended holder).2
  | decided winner taken wins others =>
      exact ⟨winner, wins, fun other differ =>
        (others other differ).resolve_left (ended other).1⟩

theorem Doomed.not_settled (doomed : contest.Doomed state)
    (ended : ∀ name, contest.Ended state name) :
    ¬ contest.Settled state := by
  rintro ⟨winner, wins, others⟩
  cases doomed with
  | broken name breaks =>
      by_cases itself : name = winner
      · rw [itself, wins] at breaks
        cases breaks
      · exact nomatch (others name itself).symm.trans breaks
  | late name taken holds => exact (ended name).2 holds
  | twice name other differ holds otherHolds => exact (ended name).2 holds
  | unfit name refused holds => exact (ended name).2 holds

/--
When all contestants have ended, one has won and the others have lost exactly
if none has checked while another one was between its check and its insertion,
and none that is not fit has found the place free.
-/
theorem settled_iff [Nonempty Name]
    (supported : ∀ state label, support state →
      support (contest.step state label))
    (plays : ∀ state label, support state → contest.Plays state label)
    (start : support state) (free : ¬ contest.taken state)
    (waiting : ∀ name, contest.phase state name = .waiting)
    (ended : ∀ name, contest.Ended (run contest.step state labels) name) :
    contest.Settled (run contest.step state labels) ↔
      Along contest.step (fun state label => ¬ contest.Hinders state label)
        state labels := by
  rcases @calm_or_doomed _ _ _ contest support state labels supported plays
    start (.vacant free waiting) with ⟨serial, calm⟩ | ⟨serial, doomed⟩
  · exact iff_of_true (calm.settled ended) serial
  · exact iff_of_false (doomed.not_settled ended) serial

end Runs

end Contest

end Transition
