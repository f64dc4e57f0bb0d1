import ChatBackend.Effects.Interleaving
import ChatBackend.Transition.Contests

/-!
# Programs that race for one place

The threads of a configuration as the contestants for one place.  A classifier
says of the rest of a program how far it has come.  It is enough to say what one
turn does to its own thread and that it leaves the others where they stand.
-/

namespace Effects

open Transition

/-- What the programs race for, and how far each of them has come. -/
structure Race (Name : Type*) (port : Port) (State Error Result : Type) where
  phase : Program port Error Result → Phase
  taken : State → Prop
  /-- The named thread would not be refused the place if it is free. -/
  fit : Name → Prop
  /-- The operation is the check of the named thread. -/
  checks : Name → port.Op → Prop

namespace Race

variable {Name : Type*} {port : Port} {Input State Error Result : Type}
  (race : Race Name port State Error Result)

/-- The contest of the threads of a configuration. -/
def contest [DecidableEq Name] (adapter : Adapter port Input State Error) :
    Contest (Config Name port State Error Result) (Name × Input) Name where
  step := Config.advance adapter
  actor turn := turn.1
  phase config name := race.phase (config.threads name)
  taken config := race.taken config.shared
  fit := race.fit
  checks config turn := ∃ op ∈ config.pending turn.1, race.checks turn.1 op

/-- What a turn does to its thread and to the place. -/
inductive Attempt (name : Name) (program : Program port Error Result)
    (state : State) (next : Program port Error Result) (after : State) :
    Prop where
  | stays (other : ∀ op ∈ program.pending, ¬ race.checks name op)
      (same : race.phase next = race.phase program)
      (place : race.taken after ↔ race.taken state)
  | holds (check : ∃ op ∈ program.pending, race.checks name op)
      (free : ¬ race.taken state)
      (before : race.phase program = .waiting)
      (holding : race.phase next = .holding) (place : ¬ race.taken after)
  | loses (check : ∃ op ∈ program.pending, race.checks name op)
      (taken : race.taken state)
      (before : race.phase program = .waiting)
      (lost : race.phase next = .lost) (place : race.taken after)
  | wins (other : ∀ op ∈ program.pending, ¬ race.checks name op)
      (free : ¬ race.taken state) (fit : race.fit name)
      (before : race.phase program = .holding)
      (won : race.phase next = .won) (place : race.taken after)
  | breaks (other : ∀ op ∈ program.pending, ¬ race.checks name op)
      (refused : race.taken state ∨ ¬ race.fit name)
      (before : race.phase program = .holding)
      (broken : race.phase next = .broken)
      (place : race.taken after ↔ race.taken state)

section Rules

variable {race} [DecidableEq Name] {adapter : Adapter port Input State Error}
  {config : Config Name port State Error Result} {turn : Name × Input}

theorem plays_of_attempt
    (attempt : race.Attempt turn.1 (config.threads turn.1) config.shared
      ((config.threads turn.1).resume adapter turn.2 config.shared).1
      ((config.threads turn.1).resume adapter turn.2 config.shared).2) :
    (race.contest adapter).Plays config turn := by
  refine ⟨fun name differ =>
    congrArg race.phase (Config.threads_advance_of_ne differ), ?_⟩
  have phase : (race.contest adapter).phase (config.advance adapter turn)
      turn.1 = race.phase
        ((config.threads turn.1).resume adapter turn.2 config.shared).1 :=
    congrArg race.phase (Config.threads_advance_self adapter config turn)
  cases attempt with
  | stays other same place =>
      refine .stays ?_ (phase.trans same) place
      rintro ⟨op, waits, checks⟩
      exact other op waits checks
  | holds check free before holding place =>
      exact .holds check free before (phase.trans holding) place
  | loses check taken before lost place =>
      exact .loses check taken before (phase.trans lost) place
  | wins other free fit before won place =>
      refine .wins ?_ free fit before (phase.trans won) place
      rintro ⟨op, waits, checks⟩
      exact other op waits checks
  | breaks other refused before broken place =>
      refine .breaks ?_ refused before (phase.trans broken) place
      rintro ⟨op, waits, checks⟩
      exact other op waits checks

/-- What a turn does, said of its thread, of the state and of the others. -/
structure Turn (race : Race Name port State Error Result)
    (stands : Name → State → Program port Error Result → Prop) (name : Name)
    (program : Program port Error Result) (state : State)
    (next : Program port Error Result) (after : State) : Prop where
  attempt : race.Attempt name program state next after
  own : stands name after next
  others : ∀ other, other ≠ name → ∀ program, stands other state program →
    stands other after program

/-- Every thread stands where it may. -/
def Supported (stands : Name → State → Program port Error Result → Prop)
    (config : Config Name port State Error Result) : Prop :=
  ∀ name, stands name config.shared (config.threads name)

variable {stands : Name → State → Program port Error Result → Prop}

theorem Supported.advance
    (turns : ∀ name input state program, stands name state program →
      Turn race stands name program state
        (program.resume adapter input state).1
        (program.resume adapter input state).2)
    (supported : Supported stands config) :
    Supported stands (config.advance adapter turn) := by
  have turn_ := turns turn.1 turn.2 config.shared (config.threads turn.1)
    (supported turn.1)
  refine (Config.forall_threads_advance_iff fun name program =>
    stands name (config.advance adapter turn).shared program).mpr
      ⟨turn_.own, fun name differ => ?_⟩
  exact turn_.others name differ _ (supported name)

/--
When all threads have ended, one has taken the place and all others were turned
away exactly if no thread has checked while another one was holding on, and none
that is not fit has found the place free.
-/
theorem settled_iff [Nonempty Name]
    (turns : ∀ name input state program, stands name state program →
      Turn race stands name program state
        (program.resume adapter input state).1
        (program.resume adapter input state).2)
    (supported : Supported stands config)
    (free : ¬ race.taken config.shared)
    (waiting : ∀ name, race.phase (config.threads name) = .waiting)
    {schedule : List (Name × Input)}
    (ended : ∀ name, (race.contest adapter).Ended
      (config.play adapter schedule) name) :
    (race.contest adapter).Settled (config.play adapter schedule) ↔
      Along (Config.advance adapter)
        (fun config turn => ¬ (race.contest adapter).Hinders config turn)
        config schedule :=
  Contest.settled_iff (fun _ _ supported => supported.advance turns)
    (fun config turn supported => plays_of_attempt
      (turns turn.1 turn.2 config.shared _ (supported turn.1)).attempt)
    supported free waiting ended

theorem supported_play
    (turns : ∀ name input state program, stands name state program →
      Turn race stands name program state
        (program.resume adapter input state).1
        (program.resume adapter input state).2)
    (supported : Supported stands config) (schedule : List (Name × Input)) :
    Supported stands (config.play adapter schedule) :=
  run_invariant (fun _ _ supported => supported.advance turns) supported
    schedule

end Rules

end Race

end Effects
