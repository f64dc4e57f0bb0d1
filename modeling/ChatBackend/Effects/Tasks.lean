import ChatBackend.Effects.Program
import ChatBackend.Transition.Runs

/-!
# Tasks that start one another

A task is an asynchronous function that was called.  It acts on the state of
all tasks, starts a successor, which it knows by number, and awaits the outcome
of a task.  A launcher says which program the successor runs, and keeps in
memory of its own what the decision depends on.

A schedule is a list of task numbers.  Any task may move next, so a task that
starts its successor may go on before it awaits it, or without awaiting it.

If every task starts at most one successor, the tasks stand in line, and what
they do depends only on the program at each position of the line.
-/

namespace Effects

open Transition

inductive TaskOp (State : Type) where
  | act (change : State → State)
  | start
  | await (task : Nat)

/-- To act answers the state that was found, to start the new number. -/
abbrev TaskOp.Answer (State Error Result : Type) : TaskOp State → Type
  | .act _ => State
  | .start => Nat
  | .await _ => Except Error Result

abbrev taskPort (State Error Result : Type) : Port where
  Op := TaskOp State
  Answer := TaskOp.Answer State Error Result

abbrev TaskProgram (State Error Result : Type) :=
  Program (taskPort State Error Result) Error Result

section Tasks

variable {State Error Result Memory : Type}

/-- A program that has ended with an outcome. -/
def Program.outcome? {port : Port} :
    Program port Error Result → Option (Except Error Result)
  | .done result => some (.ok result)
  | .fail error => some (.error error)
  | .call _ _ => none

namespace TaskProgram

/-- The program starts no successor. -/
def StartsNothing : TaskProgram State Error Result → Prop
  | .done _ => True
  | .fail _ => True
  | .call (.act _) next => ∀ state : State, StartsNothing (next state)
  | .call .start _ => False
  | .call (.await _) next =>
      ∀ outcome : Except Error Result, StartsNothing (next outcome)

/-- The program starts a successor at most once. -/
def StartsAtMostOnce : TaskProgram State Error Result → Prop
  | .done _ => True
  | .fail _ => True
  | .call (.act _) next => ∀ state : State, StartsAtMostOnce (next state)
  | .call .start next => ∀ task : Nat, StartsNothing (next task)
  | .call (.await _) next =>
      ∀ outcome : Except Error Result, StartsAtMostOnce (next outcome)

theorem StartsNothing.atMostOnce
    {program : TaskProgram State Error Result}
    (quiet : program.StartsNothing) : program.StartsAtMostOnce := by
  induction program with
  | done result => trivial
  | fail error => trivial
  | call op next induction =>
      cases op with
      | act change => exact fun state => induction state (quiet state)
      | start => exact quiet.elim
      | await task => exact fun outcome => induction outcome (quiet outcome)

end TaskProgram

structure Task (State Error Result : Type) where
  /-- The program it was started with. -/
  body : TaskProgram State Error Result
  /-- What it still has to do. -/
  program : TaskProgram State Error Result
  /-- The task that started it. -/
  caller : Option Nat
  /-- The state in which it was started. -/
  entered : State

structure Tasks (State Error Result Memory : Type) where
  state : State
  memory : Memory
  tasks : List (Task State Error Result)

/-- What the successor of a task runs, and the memory afterwards. -/
abbrev Launcher (State Error Result Memory : Type) :=
  Memory → Nat → TaskProgram State Error Result × Memory

namespace Tasks

/-- The first task is about to run its program. -/
def first (program : TaskProgram State Error Result) (memory : Memory)
    (state : State) : Tasks State Error Result Memory where
  state := state
  memory := memory
  tasks := [{ body := program, program, caller := none, entered := state }]

/-- The outcome of a task that has ended. -/
def outcome (all : Tasks State Error Result Memory) (task : Nat) :
    Option (Except Error Result) :=
  all.tasks[task]?.bind fun found => found.program.outcome?

/-- Let a task go on with a program. -/
def goOn (all : Tasks State Error Result Memory) (task : Nat)
    (program : TaskProgram State Error Result) :
    List (Task State Error Result) :=
  all.tasks.modify task fun found => { found with program }

/-- The task of the number moves, unless it has ended or has to wait. -/
def step (launch : Launcher State Error Result Memory)
    (all : Tasks State Error Result Memory) (task : Nat) :
    Tasks State Error Result Memory :=
  match all.tasks[task]? with
  | none => all
  | some found =>
      match found.program with
      | .done _ => all
      | .fail _ => all
      | .call (.act change) next =>
          { all with
            state := change all.state
            tasks := all.goOn task (next all.state) }
      | .call .start next =>
          { all with
            memory := (launch all.memory task).2
            tasks := all.goOn task (next all.tasks.length) ++
              [{ body := (launch all.memory task).1
                 program := (launch all.memory task).1
                 caller := some task
                 entered := all.state }] }
      | .call (.await awaited) next =>
          match all.outcome awaited with
          | none => all
          | some outcome => { all with tasks := all.goOn task (next outcome) }

def run (launch : Launcher State Error Result Memory) :
    Tasks State Error Result Memory → List Nat →
      Tasks State Error Result Memory :=
  Transition.run (step launch)

/-- What one move of a task can do. -/
inductive Moves (launch : Launcher State Error Result Memory)
    (all : Tasks State Error Result Memory) (task : Nat) :
    Tasks State Error Result Memory → Prop where
  | idle : Moves launch all task all
  | act (found : Task State Error Result) (change : State → State)
      (next : State → TaskProgram State Error Result)
      (here : all.tasks[task]? = some found)
      (about : found.program = .call (.act change) next) :
      Moves launch all task
        { all with
          state := change all.state
          tasks := all.goOn task (next all.state) }
  | start (found : Task State Error Result)
      (next : Nat → TaskProgram State Error Result)
      (here : all.tasks[task]? = some found)
      (about : found.program = .call .start next) :
      Moves launch all task
        { all with
          memory := (launch all.memory task).2
          tasks := all.goOn task (next all.tasks.length) ++
            [{ body := (launch all.memory task).1
               program := (launch all.memory task).1
               caller := some task
               entered := all.state }] }
  | await (found : Task State Error Result) (awaited : Nat)
      (next : Except Error Result → TaskProgram State Error Result)
      (outcome : Except Error Result)
      (here : all.tasks[task]? = some found)
      (about : found.program = .call (.await awaited) next)
      (ended : all.outcome awaited = some outcome) :
      Moves launch all task { all with tasks := all.goOn task (next outcome) }

variable {launch : Launcher State Error Result Memory}
  {all : Tasks State Error Result Memory}

theorem moves_step (task : Nat) :
    Moves launch all task (step launch all task) := by
  unfold step
  cases here : all.tasks[task]? with
  | none => exact .idle
  | some found =>
      dsimp only
      cases about : found.program with
      | done result => exact .idle
      | fail error => exact .idle
      | call op next =>
          cases op with
          | act change => exact .act found change next here about
          | start => exact .start found next here about
          | await awaited =>
              dsimp only
              cases ended : all.outcome awaited with
              | none => exact .idle
              | some outcome =>
                  exact .await found awaited next outcome here about ended

theorem step_act {task : Nat} {found : Task State Error Result}
    {change : State → State} {next : State → TaskProgram State Error Result}
    (here : all.tasks[task]? = some found)
    (about : found.program = .call (TaskOp.act change) next) :
    step launch all task =
      { all with
        state := change all.state
        tasks := all.goOn task (next all.state) } := by
  unfold step
  rw [here]
  dsimp only
  rw [about]

theorem step_start {task : Nat} {found : Task State Error Result}
    {next : Nat → TaskProgram State Error Result}
    (here : all.tasks[task]? = some found)
    (about : found.program = .call TaskOp.start next) :
    step launch all task =
      { all with
        memory := (launch all.memory task).2
        tasks := all.goOn task (next all.tasks.length) ++
          [{ body := (launch all.memory task).1
             program := (launch all.memory task).1
             caller := some task
             entered := all.state }] } := by
  unfold step
  rw [here]
  dsimp only
  rw [about]

theorem step_await {task awaited : Nat} {found : Task State Error Result}
    {next : Except Error Result → TaskProgram State Error Result}
    {outcome : Except Error Result}
    (here : all.tasks[task]? = some found)
    (about : found.program = .call (TaskOp.await awaited) next)
    (ended : all.outcome awaited = some outcome) :
    step launch all task =
      { all with tasks := all.goOn task (next outcome) } := by
  unfold step
  rw [here]
  dsimp only
  rw [about]
  dsimp only
  rw [ended]

@[simp]
theorem length_goOn (task : Nat) (program : TaskProgram State Error Result) :
    (all.goOn task program).length = all.tasks.length :=
  List.length_modify _ _ _

theorem programs_goOn (task : Nat)
    (program : TaskProgram State Error Result) :
    (all.goOn task program).map Task.program =
      (all.tasks.map Task.program).set task program := by
  unfold goOn
  refine List.ext_getElem? fun position => ?_
  rw [List.getElem?_map, List.getElem?_modify, List.getElem?_set,
    List.length_map, List.getElem?_map]
  cases here : all.tasks[position]? with
  | none =>
      have beyond := List.getElem?_eq_none_iff.mp here
      by_cases itself : task = position
      · subst itself
        rw [if_pos rfl, if_neg (Nat.not_lt.mpr beyond)]
        rfl
      · rw [if_neg itself]
        rfl
  | some found =>
      have inside := (List.getElem?_eq_some_iff.mp here).1
      by_cases itself : task = position
      · subst itself
        rw [if_pos rfl, if_pos inside]
        simp
      · rw [if_neg itself]
        simp [itself]

theorem entered_goOn (task : Nat)
    (program : TaskProgram State Error Result) :
    (all.goOn task program).map Task.entered =
      all.tasks.map Task.entered := by
  unfold goOn
  refine List.ext_getElem? fun position => ?_
  rw [List.getElem?_map, List.getElem?_modify, List.getElem?_map]
  cases all.tasks[position]? with
  | none => rfl
  | some found =>
      rw [Option.map_some, Option.map_eq_map, Option.map_some, Option.map_some]
      split <;> rfl

/-- A task after another one, or it itself, went on. -/
theorem getElem?_goOn {task position : Nat}
    {program : TaskProgram State Error Result}
    {moved : Task State Error Result}
    (there : (all.goOn task program)[position]? = some moved) :
    ∃ before, all.tasks[position]? = some before ∧
      moved.body = before.body ∧ moved.caller = before.caller ∧
      moved.entered = before.entered ∧
      moved.program = if task = position then program else before.program := by
  unfold goOn at there
  rw [List.getElem?_modify] at there
  cases here : all.tasks[position]? with
  | none =>
      rw [here] at there
      cases there
  | some before =>
      rw [here] at there
      cases there
      refine ⟨before, rfl, ?_⟩
      split <;> exact ⟨rfl, rfl, rfl, rfl⟩

/-! ## Tasks in line -/

/-- Who starts the task at a position of the line. -/
def predecessor : Nat → Option Nat
  | 0 => none
  | position + 1 => some position

/-- What the positions of a line run, up to the last one. -/
structure Line (last : Nat) (body : Nat → TaskProgram State Error Result) :
    Prop where
  once : ∀ position, (body position).StartsAtMostOnce
  ends : ∀ position, last ≤ position → (body position).StartsNothing

/-- A task of the line starts what the next position runs. -/
def Follows (last : Nat) (body : Nat → TaskProgram State Error Result)
    (memoryAt : Nat → Memory)
    (launch : Launcher State Error Result Memory) : Prop :=
  ∀ position, position < last →
    launch (memoryAt position) position =
      (body (position + 1), memoryAt (position + 1))

/-- The tasks stand in line, and only the latest may start another one. -/
structure InLine (last : Nat) (body : Nat → TaskProgram State Error Result)
    (memoryAt : Nat → Memory) (all : Tasks State Error Result Memory)
    (latest : Nat) : Prop where
  length : all.tasks.length = latest + 1
  inside : latest ≤ last
  memory : all.memory = memoryAt latest
  body : ∀ {position : Nat} {task : Task State Error Result},
    all.tasks[position]? = some task → task.body = body position
  caller : ∀ {position : Nat} {task : Task State Error Result},
    all.tasks[position]? = some task → task.caller = predecessor position
  once : ∀ {position : Nat} {task : Task State Error Result},
    all.tasks[position]? = some task → task.program.StartsAtMostOnce
  quiet : ∀ {position : Nat} {task : Task State Error Result},
    all.tasks[position]? = some task → position < latest ∨ last ≤ position →
      task.program.StartsNothing

section Lines

variable {last latest : Nat} {body : Nat → TaskProgram State Error Result}
  {memoryAt : Nat → Memory}

theorem inLine_first (line : Line last body) (state : State) :
    InLine last body memoryAt (first (body 0) (memoryAt 0) state) 0 where
  length := rfl
  inside := Nat.zero_le last
  memory := rfl
  body := by
    intro position task there
    cases position with
    | zero =>
        cases there
        rfl
    | succ position => cases there
  caller := by
    intro position task there
    cases position with
    | zero =>
        cases there
        rfl
    | succ position => cases there
  once := by
    intro position task there
    cases position with
    | zero =>
        cases there
        exact line.once 0
    | succ position => cases there
  quiet := by
    intro position task there quiet
    cases position with
    | zero =>
        cases there
        exact line.ends 0 (quiet.resolve_left (Nat.lt_irrefl 0))
    | succ position => cases there

/-- To go on with a program that starts no more than before keeps the line. -/
theorem InLine.goOn (stands : InLine last body memoryAt all latest)
    {task : Nat} {found : Task State Error Result}
    {program : TaskProgram State Error Result} (state : State)
    (here : all.tasks[task]? = some found)
    (once : found.program.StartsAtMostOnce → program.StartsAtMostOnce)
    (quiet : found.program.StartsNothing → program.StartsNothing) :
    InLine last body memoryAt
      { all with state, tasks := all.goOn task program } latest where
  length := (length_goOn task program).trans stands.length
  inside := stands.inside
  memory := stands.memory
  body := by
    intro position moved there
    obtain ⟨before, was, body, -, -, -⟩ := getElem?_goOn there
    rw [body]
    exact stands.body was
  caller := by
    intro position moved there
    obtain ⟨before, was, -, caller, -, -⟩ := getElem?_goOn there
    rw [caller]
    exact stands.caller was
  once := by
    intro position moved there
    obtain ⟨before, was, -, -, -, goesOn⟩ := getElem?_goOn there
    rw [goesOn]
    by_cases itself : task = position
    · subst itself
      rw [if_pos rfl]
      exact once (stands.once here)
    · rw [if_neg itself]
      exact stands.once was
  quiet := by
    intro position moved there still
    obtain ⟨before, was, -, -, -, goesOn⟩ := getElem?_goOn there
    rw [goesOn]
    by_cases itself : task = position
    · subst itself
      rw [if_pos rfl]
      exact quiet (stands.quiet here still)
    · rw [if_neg itself]
      exact stands.quiet was still

/-- Only the latest task of a line starts another one, before its end. -/
theorem InLine.starter (stands : InLine last body memoryAt all latest)
    {task : Nat} {found : Task State Error Result}
    {next : Nat → TaskProgram State Error Result}
    (here : all.tasks[task]? = some found)
    (about : found.program = .call .start next) :
    task = latest ∧ latest < last := by
  have loud : ¬ (task < latest ∨ last ≤ task) := by
    intro still
    have quiet := stands.quiet here still
    rw [about] at quiet
    exact quiet
  have inside : task < all.tasks.length :=
    (List.getElem?_eq_some_iff.mp here).1
  rw [stands.length] at inside
  omega

theorem InLine.started (stands : InLine last body memoryAt all latest)
    (line : Line last body) (follows : Follows last body memoryAt launch)
    {found : Task State Error Result}
    {next : Nat → TaskProgram State Error Result} (inside : latest < last)
    (here : all.tasks[latest]? = some found)
    (about : found.program = .call .start next) :
    InLine last body memoryAt
      { all with
        memory := (launch all.memory latest).2
        tasks := all.goOn latest (next all.tasks.length) ++
          [{ body := (launch all.memory latest).1
             program := (launch all.memory latest).1
             caller := some latest
             entered := all.state }] } (latest + 1) := by
  have launched := follows latest inside
  rw [← stands.memory] at launched
  have quiet : (next all.tasks.length).StartsNothing := by
    have once := stands.once here
    rw [about] at once
    exact once _
  -- the tasks of the new line are those of the old one and the one started
  have cases_of : ∀ {position : Nat} {task : Task State Error Result},
      (all.goOn latest (next all.tasks.length) ++
          [{ body := (launch all.memory latest).1
             program := (launch all.memory latest).1
             caller := some latest
             entered := all.state }])[position]? = some task →
        (position ≤ latest ∧
          (all.goOn latest (next all.tasks.length))[position]? = some task) ∨
        (position = latest + 1 ∧ task.program = body (latest + 1) ∧
          task.caller = some latest ∧ task.body = task.program) := by
    intro position task there
    have length := stands.length
    rw [List.getElem?_append, length_goOn] at there
    by_cases old : position < all.tasks.length
    · rw [if_pos old] at there
      exact .inl ⟨by omega, there⟩
    · rw [if_neg old, List.getElem?_singleton] at there
      split at there
      · cases there
        exact .inr ⟨by omega, congrArg Prod.fst launched, rfl, rfl⟩
      · cases there
  have kept := stands.goOn all.state here
    (fun _ => quiet.atMostOnce) (fun _ => quiet)
  refine ⟨?_, inside, congrArg Prod.snd launched, ?_, ?_, ?_, ?_⟩
  · rw [List.length_append, length_goOn, stands.length]
    rfl
  · intro position task there
    rcases cases_of there with ⟨-, old⟩ | ⟨rfl, program, -, body⟩
    · exact kept.body old
    · exact body.trans program
  · intro position task there
    rcases cases_of there with ⟨-, old⟩ | ⟨rfl, -, caller, -⟩
    · exact kept.caller old
    · exact caller
  · intro position task there
    rcases cases_of there with ⟨-, old⟩ | ⟨-, program, -⟩
    · exact kept.once old
    · rw [program]
      exact line.once _
  · intro position task there still
    rcases cases_of there with ⟨before, old⟩ | ⟨rfl, program, -⟩
    · by_cases itself : position = latest
      · subst itself
        obtain ⟨was, -, -, -, -, goesOn⟩ := getElem?_goOn old
        rw [goesOn, if_pos rfl]
        exact quiet
      · exact kept.quiet old (.inl (by omega))
    · rw [program]
      exact line.ends _ (by omega)

theorem InLine.step (stands : InLine last body memoryAt all latest)
    (line : Line last body) (follows : Follows last body memoryAt launch)
    (task : Nat) :
    ∃ latest, InLine last body memoryAt (step launch all task) latest := by
  have moves : Moves launch all task (Tasks.step launch all task) :=
    moves_step task
  generalize Tasks.step launch all task = after at moves ⊢
  cases moves with
  | idle => exact ⟨latest, stands⟩
  | act found change next here about =>
      refine ⟨latest, stands.goOn _ here ?_ ?_⟩
      · intro once
        rw [about] at once
        exact once all.state
      · intro quiet
        rw [about] at quiet
        exact quiet all.state
  | start found next here about =>
      obtain ⟨rfl, inside⟩ := stands.starter here about
      exact ⟨_, stands.started line follows inside here about⟩
  | await found awaited next outcome here about ended =>
      refine ⟨latest, stands.goOn _ here ?_ ?_⟩
      · intro once
        rw [about] at once
        exact once outcome
      · intro quiet
        rw [about] at quiet
        exact quiet outcome

theorem inLine_run (line : Line last body)
    (follows : Follows last body memoryAt launch) (state : State)
    (schedule : List Nat) :
    ∃ latest, InLine last body memoryAt
      (run launch (first (body 0) (memoryAt 0) state) schedule) latest :=
  @run_invariant _ _ (step launch)
    (fun all => ∃ latest, InLine last body memoryAt all latest)
    (fun _ task ⟨_, stands⟩ => stands.step line follows task)
    _ ⟨0, inLine_first line state⟩ schedule

/-! ## Lines with memories of their own -/

variable {Other : Type} {otherAt : Nat → Other}
  {other : Tasks State Error Result Other}
  {otherLaunch : Launcher State Error Result Other}

/-- Two groups of tasks that differ at most in the memory of the launcher. -/
def Alike (all : Tasks State Error Result Memory)
    (other : Tasks State Error Result Other) : Prop :=
  all.state = other.state ∧ all.tasks = other.tasks

theorem alike_step {otherLatest : Nat}
    (stands : InLine last body memoryAt all latest)
    (follows : Follows last body memoryAt launch)
    (otherStands : InLine last body otherAt other otherLatest)
    (otherFollows : Follows last body otherAt otherLaunch)
    (alike : Alike all other) (task : Nat) :
    Alike (step launch all task) (step otherLaunch other task) := by
  rcases all with ⟨state, memory, tasks⟩
  rcases other with ⟨otherState, otherMemory, otherTasks⟩
  obtain ⟨rfl, rfl⟩ : state = otherState ∧ tasks = otherTasks := alike
  unfold step
  cases here : tasks[task]? with
  | none => exact ⟨rfl, rfl⟩
  | some found =>
      dsimp only
      cases about : found.program with
      | done result => exact ⟨rfl, rfl⟩
      | fail error => exact ⟨rfl, rfl⟩
      | call op next =>
          cases op with
          | act change => exact ⟨rfl, rfl⟩
          | start =>
              obtain ⟨rfl, inside⟩ := stands.starter here about
              obtain ⟨rfl, -⟩ := otherStands.starter here about
              have launched := follows task inside
              have otherLaunched := otherFollows task inside
              rw [← stands.memory] at launched
              rw [← otherStands.memory] at otherLaunched
              refine ⟨rfl, ?_⟩
              dsimp only at launched otherLaunched ⊢
              rw [launched, otherLaunched]
              rfl
          | await awaited =>
              dsimp only [outcome]
              cases tasks[awaited]?.bind fun found =>
                  found.program.outcome? with
              | none => exact ⟨rfl, rfl⟩
              | some outcome => exact ⟨rfl, rfl⟩

/-- What tasks in line do does not depend on how the line is remembered. -/
theorem alike_run (line : Line last body)
    (follows : Follows last body memoryAt launch)
    (otherFollows : Follows last body otherAt otherLaunch)
    (state : State) (schedule : List Nat) :
    Alike (run launch (first (body 0) (memoryAt 0) state) schedule)
      (run otherLaunch (first (body 0) (otherAt 0) state) schedule) := by
  induction schedule using List.reverseRecOn with
  | nil => exact ⟨rfl, rfl⟩
  | append_singleton schedule task induction =>
      obtain ⟨_, stands⟩ := inLine_run line follows state schedule
      obtain ⟨_, otherStands⟩ := inLine_run line otherFollows state schedule
      unfold run at *
      rw [run_concat, run_concat]
      exact alike_step stands follows otherStands otherFollows induction task

end Lines

end Tasks

end Tasks

end Effects
