import ChatBackend.Effects.Layers
import ChatBackend.Effects.Traces

/-!
# Layers as one program

What a layer surrounds can stand where the layer hands over to it.  All layers
around a handler are then one program, which only acts.

The tasks that stand in line for the layers move as this program does: every
move of a task is the next act of the program, or does nothing to the state.
Between the moves the state may become any other one.
-/

namespace Effects

variable {State Error Result Memory : Type}

section Runs

variable {port : Port} {Input : Type} {program : Program port Error Result}
  {adapter : Adapter port Input State Error}

/-- A program that has ended leaves the state. -/
theorem Program.run_of_outcome? {outcome : Except Error Result}
    (ended : program.outcome? = some outcome) (input : Input) (state : State) :
    program.run adapter input state = (outcome, state) := by
  cases program with
  | done result =>
      cases ended
      rfl
  | fail error =>
      cases ended
      rfl
  | call op next => cases ended

/-- To perform the next operation first makes no difference to a run. -/
theorem Program.run_resume (program : Program port Error Result)
    (input : Input) (state : State) :
    (program.resume adapter input state).1.run adapter input
        (program.resume adapter input state).2 =
      program.run adapter input state := by
  cases program with
  | done result => rfl
  | fail error => rfl
  | call op next =>
      cases answered : adapter op input state with
      | ok result =>
          rw [resume_call_ok next answered, run_call_ok next answered]
      | error error =>
          rw [resume_call_error next answered, run_call_error next answered]
          rfl

end Runs

namespace LayerProgram

/-- The layer with a program in the place of what it surrounds. -/
def inline (inner : ActProgram State Error Result) :
    LayerProgram State Error Result → ActProgram State Error Result
  | .done result => .done result
  | .fail error => .fail error
  | .call (.act change) next =>
      .call change fun state => inline inner (next state)
  | .call .next next =>
      inner.attempt >>= fun outcome => inline inner (next outcome)

/-- A handler surrounds nothing. -/
theorem inline_toLayer (inner program : ActProgram State Error Result) :
    inline inner program.toLayer = program := by
  induction program with
  | done result => rfl
  | fail error => rfl
  | call change next induction =>
      exact congrArg (Program.call change) (funext induction)

theorem outcome?_inline {program : LayerProgram State Error Result}
    {outcome : Except Error Result} (ended : program.outcome? = some outcome)
    (inner : ActProgram State Error Result) :
    (inline inner program).outcome? = some outcome := by
  cases program with
  | done result => exact ended
  | fail error => exact ended
  | call op next => cases ended

end LayerProgram

open LayerProgram

/-- The layers, the outermost first, and the handler as one program. -/
def inlined (handler : ActProgram State Error Result) :
    List (LayerProgram State Error Result) → ActProgram State Error Result
  | [] => handler
  | layer :: rest => layer.inline (inlined handler rest)

section Frames

variable (layers : List (LayerProgram State Error Result))
  (handler : ActProgram State Error Result)

theorem inlined_drop (position : Nat) :
    inlined handler (layers.drop position) =
      (layerAt layers handler position).inline
        (inlined handler (layers.drop (position + 1))) := by
  unfold layerAt
  cases here : layers[position]? with
  | none =>
      have beyond : layers.length ≤ position :=
        List.getElem?_eq_none_iff.mp here
      rw [Option.getD_none, inline_toLayer, List.drop_eq_nil_of_le beyond]
      rfl
  | some layer =>
      obtain ⟨inside, there⟩ := List.getElem?_eq_some_iff.mp here
      rw [Option.getD_some, List.drop_eq_getElem_cons inside, there]
      rfl

/-- What the frames make of the program of the task for which they wait. -/
def remaining : List (Frame State Error Result) →
    ActProgram State Error Result → ActProgram State Error Result
  | [], program => program
  | frame :: frames, program =>
      remaining frames (program.attempt >>= fun outcome =>
        (frame outcome).inline
          (inlined handler (layers.drop (frames.length + 1))))

theorem remaining_call (frames : List (Frame State Error Result))
    (change : State → State)
    (next : State → ActProgram State Error Result) :
    remaining layers handler frames (.call change next) =
      .call change fun state =>
        remaining layers handler frames (next state) := by
  induction frames generalizing next with
  | nil => rfl
  | cons frame frames induction => exact induction _

/-- The innermost frame goes on with the outcome for which it waits. -/
theorem remaining_ended {program : ActProgram State Error Result}
    {outcome : Except Error Result} (ended : program.outcome? = some outcome)
    (frame : Frame State Error Result)
    (frames : List (Frame State Error Result)) :
    remaining layers handler (frame :: frames) program =
      remaining layers handler frames ((frame outcome).inline
        (inlined handler (layers.drop (frames.length + 1)))) := by
  cases program with
  | done result =>
      cases ended
      rfl
  | fail error =>
      cases ended
      rfl
  | call change next => cases ended

/-- What the frames and the running layer have still to do. -/
def residual (frames : List (Frame State Error Result))
    (running : LayerProgram State Error Result) :
    ActProgram State Error Result :=
  remaining layers handler frames
    (running.inline (inlined handler (layers.drop (frames.length + 1))))

/-- The tasks in line for the layers have still to do what the program does. -/
def Remains (memoryAt : Nat → Memory) (all : Tasks State Error Result Memory)
    (program : ActProgram State Error Result) : Prop :=
  ∃ expected frames running,
    Stage layers handler memoryAt expected frames running all ∧
      residual layers handler frames running = program

end Frames

namespace Remains

variable {layers : List (LayerProgram State Error Result)}
  {handler program : ActProgram State Error Result}
  {memoryAt : Nat → Memory} {all : Tasks State Error Result Memory}

theorem first (once : ∀ layer ∈ layers, layer.Once) (state : State) :
    Remains layers handler memoryAt
      (Tasks.first (layerBody layers handler 0) (memoryAt 0) state)
      (inlined handler layers) :=
  ⟨settle handler layers state, [], layerAt layers handler 0,
    ⟨⟨0, Tasks.inLine_first (line_layers once handler) state⟩,
      [], nested_first (memoryAt 0) state⟩,
    (inlined_drop layers handler 0).symm⟩

/-- The tasks do not notice what becomes of the state. -/
theorem withState (remains : Remains layers handler memoryAt all program)
    (state : State) :
    Remains layers handler memoryAt { all with state } program := by
  obtain ⟨_, frames, running, ⟨⟨latest, stands⟩, ended, nested⟩, same⟩ :=
    remains
  have line : Tasks.InLine layers.length (layerBody layers handler) memoryAt
      { all with state } latest :=
    { length := stands.length
      inside := stands.inside
      memory := stands.memory
      body := stands.body
      caller := stands.caller
      once := stands.once
      quiet := stands.quiet }
  have kept : Nested layers handler { all with state }
      ((unwind layers handler frames
        (evaluate (settle handler (layers.drop (frames.length + 1))) running
          state)).after (all.tasks.map Task.entered)) frames running ended :=
    { programs := nested.programs
      finished := nested.finished
      leads := rfl }
  exact ⟨_, frames, running, ⟨⟨latest, line⟩, ended, kept⟩, same⟩

/-- The first task has ended only where nothing remains. -/
theorem outcome? (remains : Remains layers handler memoryAt all program)
    {outcome : Except Error Result}
    (resulted : all.outcome 0 = some outcome) :
    program.outcome? = some outcome := by
  obtain ⟨_, frames, running, ⟨-, ended, nested⟩, rfl⟩ := remains
  obtain ⟨last, ends⟩ := nested.running_of_outcome (Nat.zero_le _) resulted
  obtain rfl : frames = [] := List.length_eq_zero_iff.mp last.symm
  exact outcome?_inline ends _

variable {launch : Launcher State Error Result Memory}
  (once : ∀ layer ∈ layers, layer.Once)
  (follows : Tasks.Follows layers.length (layerBody layers handler)
    memoryAt launch)

include once follows

/-- A task moves as the program does, or it does nothing to the state. -/
theorem step (remains : Remains layers handler memoryAt all program)
    (task : Nat) :
    ((Tasks.step launch all task).state = all.state ∧
        Remains layers handler memoryAt (Tasks.step launch all task) program) ∨
      ∃ change next, program = .call change next ∧
        (Tasks.step launch all task).state = change all.state ∧
        Remains layers handler memoryAt (Tasks.step launch all task)
          (next all.state) := by
  obtain ⟨expected, frames, running, stage, rfl⟩ := remains
  obtain ⟨⟨latest, stands⟩, ended, nested⟩ := id stage
  have moves : Tasks.Moves launch all task (Tasks.step launch all task) :=
    Tasks.moves_step task
  generalize moved : Tasks.step launch all task = after at moves
  cases moves with
  | idle => exact .inl ⟨rfl, expected, frames, running, stage, rfl⟩
  | act found change next here about =>
      rcases nested.program_at here with ⟨-, _, awaits⟩ | ⟨rfl, runs⟩ |
        ⟨-, resulted⟩
      · rw [about] at awaits
        cases awaits
      · obtain ⟨goesOn, rfl, rfl⟩ := act_of_toTask (runs.symm.trans about)
        have acted := stage.step_act once follows
        rw [moved] at acted
        exact .inr ⟨change, _, remaining_call layers handler frames change _,
          rfl, expected, frames, goesOn all.state, acted, rfl⟩
      · rw [about] at resulted
        cases resulted
  | start found next here about =>
      rcases nested.program_at here with ⟨-, _, awaits⟩ | ⟨rfl, runs⟩ |
        ⟨-, resulted⟩
      · rw [about] at awaits
        cases awaits
      · obtain ⟨goesOn, rfl, rfl⟩ := next_of_toTask (runs.symm.trans about)
        obtain ⟨-, handed⟩ := stage.step_next once follows
        rw [moved] at handed
        refine .inl ⟨rfl, expected, goesOn :: frames, _, handed, ?_⟩
        unfold residual
        rw [List.length_cons, ← inlined_drop]
        rfl
      · rw [about] at resulted
        cases resulted
  | await found awaited next outcome here about resulted =>
      rcases nested.program_at here with ⟨before, _, awaits⟩ | ⟨rfl, runs⟩ |
        ⟨-, finished⟩
      · rw [about] at awaits
        cases awaits
        obtain ⟨frame, waiting, rfl, rfl, ends⟩ :=
          nested.innermost_of_outcome before resulted
        have resumed := stage.step_resume once follows ends
        rw [moved] at resumed
        refine .inl ⟨rfl, expected, waiting, frame outcome, resumed, ?_⟩
        exact (remaining_ended layers handler (outcome?_inline ends _) frame
          waiting).symm
      · exact absurd (runs.symm.trans about) toTask_ne_await
      · rw [about] at finished
        cases finished

/-- What the program comes to does not change while nothing disturbs it. -/
theorem run (remains : Remains layers handler memoryAt all program)
    (schedule : List Nat) :
    ∃ later, Remains layers handler memoryAt
        (Tasks.run launch all schedule) later ∧
      later.run actAdapter () (Tasks.run launch all schedule).state =
        program.run actAdapter () all.state := by
  induction schedule generalizing all program with
  | nil => exact ⟨program, remains, rfl⟩
  | cons task schedule induction =>
      rcases remains.step once follows task with
        ⟨idle, still⟩ | ⟨change, next, rfl, acted, goesOn⟩
      · obtain ⟨later, stands, same⟩ := induction still
        exact ⟨later, stands, same.trans (by rw [idle])⟩
      · obtain ⟨later, stands, same⟩ := induction goesOn
        exact ⟨later, stands, same.trans (by rw [acted]; rfl)⟩

/-- Tasks that nothing disturbs end as the program does. -/
theorem run_of_outcome (remains : Remains layers handler memoryAt all program)
    {schedule : List Nat} {outcome : Except Error Result}
    (resulted : (Tasks.run launch all schedule).outcome 0 = some outcome) :
    program.run actAdapter () all.state =
      (outcome, (Tasks.run launch all schedule).state) := by
  obtain ⟨later, stands, same⟩ := remains.run once follows schedule
  rw [← same]
  exact Program.run_of_outcome? (stands.outcome? resulted) _ _

/-- Tasks that are not disturbed any more come to their end. -/
theorem exists_outcome
    (remains : Remains layers handler memoryAt all program) :
    ∃ schedule outcome,
      (Tasks.run launch all schedule).outcome 0 = some outcome := by
  obtain ⟨expected, frames, running, stage, -⟩ := remains
  exact stage.exists_outcome once follows

end Remains

end Effects
