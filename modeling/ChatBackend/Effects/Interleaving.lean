import ChatBackend.Effects.Postcondition
import ChatBackend.Transition.Runs

/-!
# Interleavings of programs over a shared state

A configuration holds a shared state and, for every thread, the rest of its
program.  A turn names a thread and the input of that moment; it performs the
thread's next operation and nothing else.  A schedule is a finite list of
turns, so quantifying over schedules quantifies over every order of the atomic
operations of any number of threads.  A turn of a finished thread is idle.

Threads are usually described by control points: named places of a program at
which it waits for an answer.  `Config.Described` ties a configuration to a
choice of control points that satisfies an invariant, and
`Config.described_advance` is the rule for one turn.
-/

namespace Effects

/-- A shared state and the remaining program of every thread. -/
structure Config (Name : Type*) (port : Port) (State Error Result : Type) where
  shared : State
  threads : Name → Program port Error Result

namespace Config

variable {Name : Type*} {port : Port} {Input State Error Result : Type}

@[ext]
theorem ext {left right : Config Name port State Error Result}
    (shared : left.shared = right.shared)
    (threads : left.threads = right.threads) :
    left = right := by
  cases left
  cases right
  cases shared
  cases threads
  rfl

/-- The operation the named thread is about to issue. -/
def pending (config : Config Name port State Error Result) (name : Name) :
    Option port.Op :=
  (config.threads name).pending

/-- Every thread has ended. -/
def Quiescent (config : Config Name port State Error Result) : Prop :=
  ∀ name, (config.threads name).Finished

variable [DecidableEq Name]

/-- One turn: the named thread performs its next operation. -/
def advance (adapter : Adapter port Input State Error)
    (config : Config Name port State Error Result) (turn : Name × Input) :
    Config Name port State Error Result :=
  let (program, shared) :=
    (config.threads turn.1).resume adapter turn.2 config.shared
  { shared, threads := Function.update config.threads turn.1 program }

/-- The configuration a schedule leads to. -/
def play (adapter : Adapter port Input State Error)
    (config : Config Name port State Error Result)
    (schedule : List (Name × Input)) :
    Config Name port State Error Result :=
  Transition.run (advance adapter) config schedule

@[simp]
theorem play_concat (adapter : Adapter port Input State Error)
    (config : Config Name port State Error Result)
    (schedule : List (Name × Input)) (turn : Name × Input) :
    config.play adapter (schedule ++ [turn]) =
      (config.play adapter schedule).advance adapter turn :=
  Transition.run_concat _ _ _ _

theorem advance_eq
    {adapter : Adapter port Input State Error}
    {config : Config Name port State Error Result} {turn : Name × Input}
    {program : Program port Error Result} {after : State}
    (resumed :
      (config.threads turn.1).resume adapter turn.2 config.shared =
        (program, after)) :
    config.advance adapter turn =
      { shared := after,
        threads := Function.update config.threads turn.1 program } := by
  simp only [advance, resumed]

/-- A finished thread's turn changes nothing. -/
theorem advance_finished
    {adapter : Adapter port Input State Error}
    {config : Config Name port State Error Result} {turn : Name × Input}
    (finished : (config.threads turn.1).Finished) :
    config.advance adapter turn = config := by
  have idle :
      (config.threads turn.1).resume adapter turn.2 config.shared =
        (config.threads turn.1, config.shared) := by
    cases program : config.threads turn.1 with
    | done result => rfl
    | fail error => rfl
    | call op next =>
        rw [program] at finished
        exact absurd finished (by simp [Program.Finished])
  rw [advance_eq idle, Function.update_eq_self]

theorem threads_advance_of_ne {adapter : Adapter port Input State Error}
    {config : Config Name port State Error Result} {turn : Name × Input}
    {name : Name} (other : name ≠ turn.1) :
    (config.advance adapter turn).threads name = config.threads name :=
  Function.update_of_ne other _ _

theorem threads_advance_self (adapter : Adapter port Input State Error)
    (config : Config Name port State Error Result) (turn : Name × Input) :
    (config.advance adapter turn).threads turn.1 =
      ((config.threads turn.1).resume adapter turn.2 config.shared).1 :=
  Function.update_self _ _ _

/-- What holds of every thread after a turn. -/
theorem forall_threads_advance_iff
    {adapter : Adapter port Input State Error}
    {config : Config Name port State Error Result} {turn : Name × Input}
    (property : Name → Program port Error Result → Prop) :
    (∀ name, property name ((config.advance adapter turn).threads name)) ↔
      property turn.1
          ((config.threads turn.1).resume adapter turn.2 config.shared).1 ∧
        ∀ name, name ≠ turn.1 → property name (config.threads name) :=
  Function.forall_update_iff config.threads property

/-- What a turn does to the shared state: nothing, or its operation. -/
inductive Effect (adapter : Adapter port Input State Error)
    (config : Config Name port State Error Result) (turn : Name × Input) :
    State → Prop where
  | idle (finished : config.pending turn.1 = none) :
      Effect adapter config turn config.shared
  | failed (op : port.Op) (error : Error)
      (waits : config.pending turn.1 = some op)
      (fails : adapter op turn.2 config.shared = .error error) :
      Effect adapter config turn config.shared
  | answered (op : port.Op) (answer : port.Answer op) (after : State)
      (waits : config.pending turn.1 = some op)
      (answers : adapter op turn.2 config.shared = .ok (answer, after)) :
      Effect adapter config turn after

theorem advance_shared (adapter : Adapter port Input State Error)
    (config : Config Name port State Error Result) (turn : Name × Input) :
    (config.advance adapter turn).shared =
      ((config.threads turn.1).resume adapter turn.2 config.shared).2 := rfl

theorem advance_effect (adapter : Adapter port Input State Error)
    (config : Config Name port State Error Result) (turn : Name × Input) :
    Effect adapter config turn (config.advance adapter turn).shared := by
  cases program : config.threads turn.1 with
  | done result =>
      have finished : config.pending turn.1 = none := by
        rw [pending, program, Program.pending_done]
      rw [advance_finished finished]
      exact .idle finished
  | fail error =>
      have finished : config.pending turn.1 = none := by
        rw [pending, program, Program.pending_fail]
      rw [advance_finished finished]
      exact .idle finished
  | call op next =>
      have waits : config.pending turn.1 = some op := by
        rw [pending, program, Program.pending_call]
      cases attempt : adapter op turn.2 config.shared with
      | error error =>
          rw [advance_shared, program, Program.resume_call_error next attempt]
          exact .failed op error waits attempt
      | ok answered =>
          rw [advance_shared, program, Program.resume_call_ok next attempt]
          exact .answered op answered.1 answered.2 waits attempt

/-- What every operation that answers preserves holds after any schedule. -/
theorem shared_play {adapter : Adapter port Input State Error}
    {invariant : State → Prop}
    (preserved : ∀ op input state answer after, invariant state →
      adapter op input state = .ok (answer, after) → invariant after)
    {config : Config Name port State Error Result}
    (start : invariant config.shared) (schedule : List (Name × Input)) :
    invariant (config.play adapter schedule).shared := by
  refine @Transition.run_invariant _ _ (advance adapter)
    (fun config => invariant config.shared) ?_ config start schedule
  intro config turn holds
  have effect := advance_effect adapter config turn
  generalize (config.advance adapter turn).shared = after at effect ⊢
  cases effect with
  | idle finished => exact holds
  | failed op error waits fails => exact holds
  | answered op answer after waits answers =>
      exact preserved op turn.2 config.shared answer after holds answers

/-- Every thread issues only operations that satisfy the condition. -/
def Issuing (condition : port.Op → Prop)
    (config : Config Name port State Error Result) : Prop :=
  ∀ name, (config.threads name).Issues condition

theorem Issuing.advance {condition : port.Op → Prop}
    {config : Config Name port State Error Result}
    (issuing : config.Issuing condition)
    (adapter : Adapter port Input State Error) (turn : Name × Input) :
    (config.advance adapter turn).Issuing condition := by
  refine (forall_threads_advance_iff fun _ program =>
    program.Issues condition).mpr ⟨?_, fun name _ => issuing name⟩
  exact (issuing turn.1).resume adapter turn.2 config.shared

/-! ## What a schedule has performed -/

section Performed

variable {adapter : Adapter port Input State Error}
  {start : Config Name port State Error Result}
  {schedule : List (Name × Input)} {name : Name} {op : port.Op}
  {input : Input} {answer : port.Answer op}

/-- In the schedule the named thread has been answered so on the input. -/
def Performs (adapter : Adapter port Input State Error)
    (start : Config Name port State Error Result)
    (schedule : List (Name × Input)) (name : Name) (op : port.Op)
    (input : Input) (answer : port.Answer op) : Prop :=
  ∃ before later after, schedule = before ++ (name, input) :: later ∧
    (start.play adapter before).pending name = some op ∧
      adapter op input (start.play adapter before).shared = .ok (answer, after)

theorem performs_nil : ¬ start.Performs adapter [] name op input answer := by
  rintro ⟨before, later, -, split, -⟩
  cases before <;> cases split

/-- A schedule has performed what it had before its last turn, or that. -/
theorem performs_concat_iff {turn : Name × Input} :
    start.Performs adapter (schedule ++ [turn]) name op input answer ↔
      start.Performs adapter schedule name op input answer ∨
        turn = (name, input) ∧
          (start.play adapter schedule).pending name = some op ∧
            ∃ after, adapter op input (start.play adapter schedule).shared =
              .ok (answer, after) := by
  constructor
  · rintro ⟨before, later, after, split, waits, answers⟩
    rcases List.eq_nil_or_concat later with rfl | ⟨earlier, last, rfl⟩
    · rcases List.append_inj' split rfl with ⟨rfl, same⟩
      exact .inr ⟨(List.cons.inj same).1, waits, after, answers⟩
    · rw [List.concat_eq_append, ← List.cons_append, ← List.append_assoc]
        at split
      rcases List.append_inj' split rfl with ⟨rfl, -⟩
      exact .inl ⟨before, earlier, after, rfl, waits, answers⟩
  · rintro (⟨before, later, after, rfl, waits, answers⟩ |
      ⟨rfl, waits, after, answers⟩)
    · refine ⟨before, later ++ [turn], after, ?_, waits, answers⟩
      rw [List.append_assoc, List.cons_append]
    · exact ⟨schedule, [], after, rfl, waits, answers⟩

theorem Performs.concat
    (performs : start.Performs adapter schedule name op input answer)
    (turn : Name × Input) :
    start.Performs adapter (schedule ++ [turn]) name op input answer :=
  performs_concat_iff.mpr (.inl performs)

end Performed

/-! ## A thread that runs alone -/

/-- The program of a thread that has ended like this. -/
def ended : Except Error Result → Program port Error Result
  | .ok result => .done result
  | .error error => .fail error

/-- A thread may take turns to its end before any other thread does. -/
theorem exists_alone (adapter : Adapter port Input State Error)
    (input : Input) (config : Config Name port State Error Result)
    (name : Name) :
    ∃ schedule : List (Name × Input),
      config.play adapter schedule =
        { shared :=
            ((config.threads name).run adapter input config.shared).2
          threads :=
            Function.update config.threads name
              (ended
                ((config.threads name).run adapter input config.shared).1) } := by
  generalize here : config.threads name = program
  induction program generalizing config with
  | done result =>
      refine ⟨[], ?_⟩
      ext1
      · rfl
      · exact (Function.update_eq_self_iff.mpr here.symm).symm
  | fail error =>
      refine ⟨[], ?_⟩
      ext1
      · rfl
      · exact (Function.update_eq_self_iff.mpr here.symm).symm
  | call op next induction =>
      cases attempt : adapter op input config.shared with
      | error error =>
          refine ⟨[(name, input)], ?_⟩
          have resumed : (config.threads name).resume adapter input
              config.shared = (.fail error, config.shared) := by
            rw [here]
            exact Program.resume_call_error next attempt
          rw [Program.run_call_error next attempt]
          exact advance_eq resumed
      | ok result =>
          have resumed : (config.threads name).resume adapter input
              config.shared = (next result.1, result.2) := by
            rw [here]
            exact Program.resume_call_ok next attempt
          have advanced : config.advance adapter (name, input) = _ :=
            advance_eq resumed
          have goesOn : (config.advance adapter (name, input)).threads name =
              next result.1 := by
            rw [advanced]
            exact Function.update_self name _ _
          rcases induction result.1 _ goesOn with ⟨rest, played⟩
          refine ⟨(name, input) :: rest, ?_⟩
          rw [Program.run_call_ok next attempt]
          change (config.advance adapter (name, input)).play adapter rest = _
          rw [played, advanced]
          simp only [Function.update_idem]

/-- The postcondition of a program holds after its thread has run alone. -/
theorem exists_alone_ensures {adapter : Adapter port Input State Error}
    {input : Input} {config : Config Name port State Error Result}
    {name : Name} {post : Except Error Result → State → Prop}
    (ensures :
      (config.threads name).Ensures adapter input config.shared post) :
    ∃ schedule outcome after,
      config.play adapter schedule =
          { shared := after,
            threads := Function.update config.threads name (ended outcome) } ∧
        post outcome after := by
  rcases exists_alone adapter input config name with ⟨schedule, played⟩
  exact ⟨schedule, _, _, played, ensures⟩

/-! ## Control points -/

/--
The configuration's threads stand at control points which, together with the
shared state, satisfy the invariant.
-/
def Described {Point : Type*}
    (program : Name → Point → Program port Error Result)
    (invariant : State → (Name → Point) → Prop)
    (config : Config Name port State Error Result) : Prop :=
  ∃ points : Name → Point,
    (config.threads = fun name => program name (points name)) ∧
      invariant config.shared points

/--
One turn of a described configuration: the thread whose turn it is moves from
its control point to another one, and what holds of the points afterwards
follows from what held before.
-/
theorem described_advance {Point : Type*}
    {program : Name → Point → Program port Error Result}
    {invariant next : State → (Name → Point) → Prop}
    {adapter : Adapter port Input State Error}
    {config : Config Name port State Error Result} {turn : Name × Input}
    (moves : ∀ points : Name → Point,
      (config.threads = fun name => program name (points name)) →
        invariant config.shared points →
          ∃ point after,
            (program turn.1 (points turn.1)).resume
                adapter turn.2 config.shared =
              (program turn.1 point, after) ∧
            next after (Function.update points turn.1 point))
    (described : config.Described program invariant) :
    (config.advance adapter turn).Described program next := by
  rcases described with ⟨points, stand, holds⟩
  rcases moves points stand holds with ⟨point, after, resumed, holdsAfter⟩
  have advanced :
      config.advance adapter turn =
        { shared := after,
          threads :=
            Function.update config.threads turn.1 (program turn.1 point) } :=
    advance_eq (by rw [stand]; exact resumed)
  refine ⟨Function.update points turn.1 point, ?_, ?_⟩
  · rw [advanced, stand]
    funext name
    by_cases same : name = turn.1
    · subst same
      simp
    · simp [Function.update_of_ne same]
  · rw [advanced]
    exact holdsAfter

/--
If at most one thread is in a condition, and nobody is but the one whose turn
it is should that get into it, then at most one thread is in it after the turn.
-/
theorem atMostOne_update {Point : Type*} {points : Name → Point}
    {condition : Name → Point → Prop} {name : Name} {next : Point}
    (one : ∀ left right, condition left (points left) →
      condition right (points right) → left = right)
    (here : condition name next →
      ∀ other, other ≠ name → ¬ condition other (points other)) :
    ∀ left right, condition left (Function.update points name next left) →
      condition right (Function.update points name next right) →
        left = right := by
  intro left right holdsLeft holdsRight
  by_cases isLeft : left = name
  · subst isLeft
    rw [Function.update_self] at holdsLeft
    by_cases isRight : right = left
    · exact isRight.symm
    · rw [Function.update_of_ne isRight] at holdsRight
      exact absurd holdsRight (here holdsLeft right isRight)
  · rw [Function.update_of_ne isLeft] at holdsLeft
    by_cases isRight : right = name
    · subst isRight
      rw [Function.update_self] at holdsRight
      exact absurd holdsLeft (here holdsRight left isLeft)
    · rw [Function.update_of_ne isRight] at holdsRight
      exact one left right holdsLeft holdsRight

end Config

end Effects
