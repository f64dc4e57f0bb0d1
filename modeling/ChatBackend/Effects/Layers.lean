import ChatBackend.Effects.Tasks

/-!
# Layers around a handler

A layer acts, and may hand over to what it surrounds and await its outcome,
which can be an error.  A handler only acts.  Layers and handlers are tasks
that await their successor where they start it.

`settle` evaluates layers inside out, as nested applications of functions.
Whatever the schedule, tasks in line that run the layers pass through the
states in which `settle` enters them, and end as `settle` does.
-/

namespace Effects

open Transition

inductive LayerOp (State : Type) where
  | act (change : State → State)
  | next

abbrev LayerOp.Answer (State Error Result : Type) : LayerOp State → Type
  | .act _ => State
  | .next => Except Error Result

abbrev layerPort (State Error Result : Type) : Port where
  Op := LayerOp State
  Answer := LayerOp.Answer State Error Result

abbrev LayerProgram (State Error Result : Type) :=
  Program (layerPort State Error Result) Error Result

abbrev actPort (State : Type) : Port where
  Op := State → State
  Answer _ := State

abbrev ActProgram (State Error Result : Type) :=
  Program (actPort State) Error Result

section Layers

variable {State Error Result Memory : Type}

/-- An act answers the state that it changes. -/
def actAdapter : Adapter (actPort State) Unit State Error :=
  fun change _ state => .ok (state, change state)

def actEmbedding : (actPort State).Embedding (layerPort State Error Result) where
  op := .act
  answer _ state := state

abbrev ActProgram.toLayer (program : ActProgram State Error Result) :
    LayerProgram State Error Result :=
  program.embed actEmbedding

namespace LayerProgram

/-- What a layer asks, as a task asks it. -/
def carry : (op : LayerOp State) →
    Program (taskPort State Error Result) Error
      (LayerOp.Answer State Error Result op)
  | .act change => .call (TaskOp.act change) fun state => .done state
  | .next =>
      .call TaskOp.start fun task =>
        .call (TaskOp.await task) fun outcome => .done outcome

def toTask (program : LayerProgram State Error Result) :
    TaskProgram State Error Result :=
  program.expand carry

@[simp]
theorem toTask_done (result : Result) :
    toTask (.done result : LayerProgram State Error Result) =
      .done result := rfl

@[simp]
theorem toTask_fail (error : Error) :
    toTask (.fail error : LayerProgram State Error Result) =
      .fail error := rfl

@[simp]
theorem toTask_act (change : State → State)
    (next : State → LayerProgram State Error Result) :
    toTask (.call (.act change) next) =
      .call (.act change) fun state => (next state).toTask := rfl

@[simp]
theorem toTask_next
    (next : Except Error Result → LayerProgram State Error Result) :
    toTask (.call .next next) =
      .call .start fun task =>
        .call (.await task) fun outcome => (next outcome).toTask := rfl

theorem outcome?_toTask (program : LayerProgram State Error Result) :
    program.toTask.outcome? = program.outcome? := by
  cases program with
  | done result => rfl
  | fail error => rfl
  | call op next => cases op <;> rfl

theorem finished_of_outcome? {port : Port}
    {program : Program port Error Result} {outcome : Except Error Result}
    (resulted : program.outcome? = some outcome) : program.Finished := by
  cases program with
  | done result => rfl
  | fail error => rfl
  | call op next => cases resulted

theorem act_of_toTask {program : LayerProgram State Error Result}
    {change : State → State} {next : State → TaskProgram State Error Result}
    (about : program.toTask = .call (TaskOp.act change) next) :
    ∃ rest : State → LayerProgram State Error Result,
      program = .call (LayerOp.act change) rest ∧
        next = fun state => (rest state).toTask := by
  cases program with
  | done result => cases about
  | fail error => cases about
  | call op rest =>
      cases op with
      | act change =>
          cases about
          exact ⟨rest, rfl, rfl⟩
      | next => cases about

theorem next_of_toTask {program : LayerProgram State Error Result}
    {next : Nat → TaskProgram State Error Result}
    (about : program.toTask = .call TaskOp.start next) :
    ∃ rest : Except Error Result → LayerProgram State Error Result,
      program = .call LayerOp.next rest ∧
        next = fun task => .call (TaskOp.await task) fun outcome =>
          (rest outcome).toTask := by
  cases program with
  | done result => cases about
  | fail error => cases about
  | call op rest =>
      cases op with
      | act change => cases about
      | next =>
          cases about
          exact ⟨rest, rfl, rfl⟩

/-- A layer awaits only what it has just started. -/
theorem toTask_ne_await {program : LayerProgram State Error Result}
    {task : Nat} {next : Except Error Result → TaskProgram State Error Result} :
    program.toTask ≠ .call (TaskOp.await task) next := by
  intro about
  cases program with
  | done result => cases about
  | fail error => cases about
  | call op rest => cases op <;> cases about

/-- The layer does not hand over. -/
def Quiet : LayerProgram State Error Result → Prop
  | .done _ => True
  | .fail _ => True
  | .call (.act _) next => ∀ state : State, Quiet (next state)
  | .call .next _ => False

/-- The layer hands over at most once. -/
def Once : LayerProgram State Error Result → Prop
  | .done _ => True
  | .fail _ => True
  | .call (.act _) next => ∀ state : State, Once (next state)
  | .call .next next => ∀ outcome : Except Error Result, Quiet (next outcome)

theorem quiet_toLayer (program : ActProgram State Error Result) :
    Quiet (program.toLayer) := by
  induction program with
  | done result => trivial
  | fail error => trivial
  | call change next induction => exact fun state => induction state

theorem Quiet.once {program : LayerProgram State Error Result}
    (quiet : program.Quiet) : program.Once := by
  induction program with
  | done result => trivial
  | fail error => trivial
  | call op next induction =>
      cases op with
      | act change => exact fun state => induction state (quiet state)
      | next => exact quiet.elim

theorem Quiet.startsNothing {program : LayerProgram State Error Result}
    (quiet : program.Quiet) : program.toTask.StartsNothing := by
  induction program with
  | done result => trivial
  | fail error => trivial
  | call op next induction =>
      cases op with
      | act change => exact fun state => induction state (quiet state)
      | next => exact quiet.elim

theorem Once.startsAtMostOnce {program : LayerProgram State Error Result}
    (once : program.Once) : program.toTask.StartsAtMostOnce := by
  induction program with
  | done result => trivial
  | fail error => trivial
  | call op next induction =>
      cases op with
      | act change => exact fun state => induction state (once state)
      | next => exact fun _ outcome => (once outcome).startsNothing

end LayerProgram

/-! ## Evaluation inside out -/

/-- How a layer with all it surrounds ends, and where layers were entered. -/
structure Settled (State Error Result : Type) where
  outcome : Except Error Result
  state : State
  entered : List State

namespace Settled

/-- With states in which layers were entered before. -/
def after (settled : Settled State Error Result) (before : List State) :
    Settled State Error Result :=
  { settled with entered := before ++ settled.entered }

theorem after_after (settled : Settled State Error Result)
    (first second : List State) :
    (settled.after second).after first = settled.after (first ++ second) := by
  unfold after
  rw [List.append_assoc]

@[simp]
theorem after_nil (settled : Settled State Error Result) :
    settled.after [] = settled := rfl

end Settled

namespace LayerProgram

/-- Evaluate a layer around something that settles. -/
def evaluate (inner : State → Settled State Error Result) :
    LayerProgram State Error Result → State → Settled State Error Result
  | .done result, state => ⟨.ok result, state, []⟩
  | .fail error, state => ⟨.error error, state, []⟩
  | .call (.act change) next, state =>
      evaluate inner (next state) (change state)
  | .call .next next, state =>
      (evaluate inner (next (inner state).outcome) (inner state).state).after
        (inner state).entered

theorem evaluate_toLayer (inner : State → Settled State Error Result)
    (program : ActProgram State Error Result) (state : State) :
    evaluate inner program.toLayer state =
      ⟨(program.run actAdapter () state).1,
        (program.run actAdapter () state).2, []⟩ := by
  induction program generalizing state with
  | done result => rfl
  | fail error => rfl
  | call change next induction => exact induction state (change state)

theorem evaluate_ended {program : LayerProgram State Error Result}
    {outcome : Except Error Result}
    (ended : program.outcome? = some outcome)
    (inner : State → Settled State Error Result) (state : State) :
    evaluate inner program state = ⟨outcome, state, []⟩ := by
  cases program with
  | done result =>
      cases ended
      rfl
  | fail error =>
      cases ended
      rfl
  | call op next => cases ended

end LayerProgram

open LayerProgram

/-- Layers, the outermost first, around a handler. -/
def settle (handler : ActProgram State Error Result) :
    List (LayerProgram State Error Result) → State →
      Settled State Error Result
  | [], state =>
      ⟨(handler.run actAdapter () state).1, (handler.run actAdapter () state).2,
        [state]⟩
  | layer :: rest, state =>
      (evaluate (settle handler rest) layer state).after [state]

/-- The layer at a position, or the handler behind them all. -/
def layerAt (layers : List (LayerProgram State Error Result))
    (handler : ActProgram State Error Result) (position : Nat) :
    LayerProgram State Error Result :=
  layers[position]?.getD handler.toLayer

/-- What the tasks run that stand in line for the layers. -/
abbrev layerBody (layers : List (LayerProgram State Error Result))
    (handler : ActProgram State Error Result) (position : Nat) :
    TaskProgram State Error Result :=
  (layerAt layers handler position).toTask

theorem settle_drop (layers : List (LayerProgram State Error Result))
    (handler : ActProgram State Error Result) (position : Nat)
    (state : State) :
    settle handler (layers.drop position) state =
      (evaluate (settle handler (layers.drop (position + 1)))
        (layerAt layers handler position) state).after [state] := by
  unfold layerAt
  cases here : layers[position]? with
  | none =>
      have beyond : layers.length ≤ position :=
        List.getElem?_eq_none_iff.mp here
      rw [Option.getD_none, evaluate_toLayer,
        List.drop_eq_nil_of_le beyond]
      rfl
  | some layer =>
      obtain ⟨inside, there⟩ := List.getElem?_eq_some_iff.mp here
      rw [Option.getD_some, List.drop_eq_getElem_cons inside, there]
      rfl

theorem line_layers {layers : List (LayerProgram State Error Result)}
    (once : ∀ layer ∈ layers, layer.Once)
    (handler : ActProgram State Error Result) :
    Tasks.Line layers.length (layerBody layers handler) where
  once position := by
    refine Once.startsAtMostOnce ?_
    unfold layerAt
    cases here : layers[position]? with
    | none => exact (quiet_toLayer handler).once
    | some layer => exact once layer (List.mem_of_getElem? here)
  ends position beyond := by
    refine Quiet.startsNothing ?_
    unfold layerAt
    rw [List.getElem?_eq_none_iff.mpr beyond]
    exact quiet_toLayer handler

/-! ## Tasks that run layers -/

/-- How a layer goes on after what it surrounds has ended. -/
abbrev Frame (State Error Result : Type) :=
  Except Error Result → LayerProgram State Error Result

/-- The tasks of the frames, the innermost of which comes first. -/
def waiting : List (Frame State Error Result) →
    List (TaskProgram State Error Result)
  | [] => []
  | frame :: frames =>
      waiting frames ++
        [.call (TaskOp.await (frames.length + 1)) fun outcome =>
          (frame outcome).toTask]

@[simp]
theorem length_waiting (frames : List (Frame State Error Result)) :
    (waiting frames).length = frames.length := by
  induction frames with
  | nil => rfl
  | cons frame frames induction =>
      rw [waiting, List.length_append, induction]
      rfl

section Frames

variable (layers : List (LayerProgram State Error Result))
  (handler : ActProgram State Error Result)

/-- Evaluate the frames, once the innermost is handed an outcome. -/
def unwind : List (Frame State Error Result) →
    Settled State Error Result → Settled State Error Result
  | [], settled => settled
  | frame :: frames, settled =>
      unwind frames
        ((evaluate (settle handler (layers.drop (frames.length + 1)))
          (frame settled.outcome) settled.state).after settled.entered)

theorem unwind_after (frames : List (Frame State Error Result))
    (settled : Settled State Error Result) (before : List State) :
    unwind layers handler frames (settled.after before) =
      (unwind layers handler frames settled).after before := by
  induction frames generalizing settled with
  | nil => rfl
  | cons frame frames induction =>
      rw [unwind, unwind, ← induction, Settled.after_after]
      rfl

/--
The frames wait, each for the next task, the last of them for the running one,
and the evaluation of it all leads to the expected end.
-/
structure Nested (all : Tasks State Error Result Memory)
    (expected : Settled State Error Result)
    (frames : List (Frame State Error Result))
    (running : LayerProgram State Error Result)
    (ended : List (TaskProgram State Error Result)) : Prop where
  programs : all.tasks.map Task.program =
    waiting frames ++ running.toTask :: ended
  finished : ∀ program ∈ ended, program.Finished
  leads : (unwind layers handler frames
    (evaluate (settle handler (layers.drop (frames.length + 1))) running
      all.state)).after (all.tasks.map Task.entered) = expected

end Frames

section Steps

variable {layers : List (LayerProgram State Error Result)}
  {handler : ActProgram State Error Result}
  {all : Tasks State Error Result Memory}
  {expected : Settled State Error Result}
  {frames : List (Frame State Error Result)}
  {running : LayerProgram State Error Result}
  {ended : List (TaskProgram State Error Result)}

theorem waiting_getElem? {position : Nat}
    {program : TaskProgram State Error Result}
    (there : (waiting frames)[position]? = some program) :
    ∃ next, program = .call (TaskOp.await (position + 1)) next := by
  induction frames with
  | nil => cases there
  | cons frame frames induction =>
      rw [waiting, List.getElem?_append, length_waiting] at there
      split at there
      · exact induction there
      · rename_i beyond
        rw [List.getElem?_singleton] at there
        split at there
        · cases there
          have last : position = frames.length := by omega
          rw [last]
          exact ⟨_, rfl⟩
        · cases there

/-- The innermost part of the frames can be replaced at the position after. -/
theorem set_running (frames : List (Frame State Error Result))
    (program other : TaskProgram State Error Result) :
    (waiting frames ++ program :: ended).set frames.length other =
      waiting frames ++ other :: ended := by
  rw [List.set_append_right _ _ (Nat.le_of_eq (length_waiting frames)),
    length_waiting, Nat.sub_self, List.set_cons_zero]

namespace Nested

theorem program_at
    (nested : Nested layers handler all expected frames running ended)
    {position : Nat} {found : Task State Error Result}
    (here : all.tasks[position]? = some found) :
    (position < frames.length ∧
      ∃ next, found.program = .call (TaskOp.await (position + 1)) next) ∨
    (position = frames.length ∧ found.program = running.toTask) ∨
    (frames.length < position ∧ found.program.Finished) := by
  have there : (all.tasks.map Task.program)[position]? =
      some found.program := by
    rw [List.getElem?_map, here]
    rfl
  rw [nested.programs, List.getElem?_append, length_waiting] at there
  by_cases before : position < frames.length
  · rw [if_pos before] at there
    exact .inl ⟨before, waiting_getElem? there⟩
  · rw [if_neg before] at there
    by_cases itself : position = frames.length
    · rw [itself, Nat.sub_self, List.getElem?_cons_zero] at there
      exact .inr (.inl ⟨itself, (Option.some.inj there).symm⟩)
    · rw [show position - frames.length =
        position - frames.length - 1 + 1 by omega,
        List.getElem?_cons_succ] at there
      exact .inr (.inr
        ⟨by omega, nested.finished _ (List.mem_of_getElem? there)⟩)

theorem running_at
    (nested : Nested layers handler all expected frames running ended) :
    ∃ found, all.tasks[frames.length]? = some found ∧
      found.program = running.toTask := by
  have there : (all.tasks.map Task.program)[frames.length]? =
      some running.toTask := by
    rw [nested.programs,
      List.getElem?_append_right (Nat.le_of_eq (length_waiting frames)),
      length_waiting, Nat.sub_self, List.getElem?_cons_zero]
  rw [List.getElem?_map, Option.map_eq_some_iff] at there
  exact there

/-- Of the frames and the running part only the latter can have ended. -/
theorem running_of_outcome
    (nested : Nested layers handler all expected frames running ended)
    {position : Nat} {outcome : Except Error Result}
    (inside : position ≤ frames.length)
    (resulted : all.outcome position = some outcome) :
    position = frames.length ∧ running.outcome? = some outcome := by
  unfold Tasks.outcome at resulted
  rw [Option.bind_eq_some_iff] at resulted
  rcases resulted with ⟨found, here, resulted⟩
  rcases nested.program_at here with ⟨-, next, awaits⟩ | ⟨last, runs⟩ |
    ⟨beyond, -⟩
  · rw [awaits] at resulted
    cases resulted
  · rw [runs, outcome?_toTask] at resulted
    exact ⟨last, resulted⟩
  · exact absurd beyond (Nat.not_lt.mpr inside)

/-- The first awaited task that has ended is the running one. -/
theorem innermost_of_outcome
    (nested : Nested layers handler all expected frames running ended)
    {position : Nat} {outcome : Except Error Result}
    (before : position < frames.length)
    (resulted : all.outcome (position + 1) = some outcome) :
    ∃ frame rest, frames = frame :: rest ∧ position = rest.length ∧
      running.outcome? = some outcome := by
  obtain ⟨last, ended⟩ := nested.running_of_outcome before resulted
  cases frames with
  | nil => exact absurd before (Nat.not_lt_zero position)
  | cons frame rest => exact ⟨frame, rest, rfl, Nat.succ.inj last, ended⟩

theorem waits_at {frame : Frame State Error Result}
    {rest : List (Frame State Error Result)}
    (nested : Nested layers handler all expected (frame :: rest)
      running ended)
    {found : Task State Error Result}
    (here : all.tasks[rest.length]? = some found) :
    found.program =
      .call (TaskOp.await (rest.length + 1)) fun outcome =>
        (frame outcome).toTask := by
  have there : (all.tasks.map Task.program)[rest.length]? =
      some found.program := by
    rw [List.getElem?_map, here]
    rfl
  rw [nested.programs, waiting, List.append_assoc, List.singleton_append,
    List.getElem?_append_right (Nat.le_of_eq (length_waiting rest)),
    length_waiting, Nat.sub_self, List.getElem?_cons_zero] at there
  exact (Option.some.inj there).symm

/-- The running layer acts. -/
theorem act {change : State → State}
    {next : State → LayerProgram State Error Result}
    (nested : Nested layers handler all expected frames
      (.call (LayerOp.act change) next) ended) :
    Nested layers handler
      { all with
        state := change all.state
        tasks := all.goOn frames.length (next all.state).toTask }
      expected frames (next all.state) ended where
  programs := by
    rw [Tasks.programs_goOn, nested.programs, set_running]
  finished := nested.finished
  leads := by
    rw [Tasks.entered_goOn]
    exact nested.leads

/-- The running layer hands over and waits as a frame of its own. -/
theorem start {next : Except Error Result → LayerProgram State Error Result}
    {memory : Memory} {program : TaskProgram State Error Result}
    {caller : Option Nat}
    (nested : Nested layers handler all expected frames
      (.call LayerOp.next next) [])
    (launched : program =
      (layerAt layers handler (frames.length + 1)).toTask) :
    Nested layers handler
      { all with
        memory
        tasks := all.goOn frames.length
            (.call (TaskOp.await all.tasks.length) fun outcome =>
              (next outcome).toTask) ++
          [{ body := program, program, caller, entered := all.state }] }
      expected (next :: frames)
      (layerAt layers handler (frames.length + 1)) [] where
  programs := by
    have length := congrArg List.length nested.programs
    rw [List.length_map, List.length_append, length_waiting] at length
    rw [List.map_append, Tasks.programs_goOn, nested.programs, set_running,
      length, launched]
    rfl
  finished := fun _ none => absurd none List.not_mem_nil
  leads := by
    have leads := nested.leads
    have inner := settle_drop layers handler (frames.length + 1) all.state
    rw [evaluate, inner] at leads
    rw [List.map_append, Tasks.entered_goOn, ← Settled.after_after,
      ← unwind_after, unwind]
    exact leads

/-- The running layer has ended, and the innermost frame goes on. -/
theorem resume {frame : Frame State Error Result}
    {outcome : Except Error Result}
    (nested : Nested layers handler all expected (frame :: frames)
      running ended)
    (resulted : running.outcome? = some outcome) :
    Nested layers handler
      { all with tasks := all.goOn frames.length (frame outcome).toTask }
      expected frames (frame outcome) (running.toTask :: ended) where
  programs := by
    rw [Tasks.programs_goOn, nested.programs, waiting, List.append_assoc,
      List.singleton_append, set_running]
  finished := by
    intro program member
    rcases List.mem_cons.mp member with rfl | older
    · rw [← outcome?_toTask] at resulted
      exact finished_of_outcome? resulted
    · exact nested.finished program older
  leads := by
    have leads := nested.leads
    rw [Tasks.entered_goOn]
    rw [evaluate_ended resulted, unwind, Settled.after_nil] at leads
    exact leads

/-- The layer that hands over stands last and starts the one behind it. -/
theorem hands_over {memoryAt : Nat → Memory} {latest : Nat}
    {launch : Launcher State Error Result Memory}
    (follows : Tasks.Follows layers.length
      (layerBody layers handler) memoryAt launch)
    (stands : Tasks.InLine layers.length (layerBody layers handler)
      memoryAt all latest)
    {next : Except Error Result → LayerProgram State Error Result}
    (nested : Nested layers handler all expected frames
      (.call LayerOp.next next) ended) :
    frames.length < layers.length ∧ ended = [] ∧
      (launch all.memory frames.length).1 =
        (layerAt layers handler (frames.length + 1)).toTask := by
  obtain ⟨found, here, about⟩ := nested.running_at
  obtain ⟨rfl, inside⟩ := stands.starter here about
  have length := congrArg List.length nested.programs
  rw [List.length_map, stands.length, List.length_append, length_waiting,
    List.length_cons] at length
  have launched := follows _ inside
  rw [← stands.memory] at launched
  exact ⟨inside, List.length_eq_zero_iff.mp (by omega),
    congrArg Prod.fst launched⟩

/-- No task moves but the running one, or the frame that waits for its end. -/
theorem step {memoryAt : Nat → Memory} {latest : Nat}
    {launch : Launcher State Error Result Memory}
    (follows : Tasks.Follows layers.length
      (layerBody layers handler) memoryAt launch)
    (stands : Tasks.InLine layers.length (layerBody layers handler)
      memoryAt all latest)
    (nested : Nested layers handler all expected frames running ended)
    (task : Nat) :
    ∃ frames running ended,
      Nested layers handler (Tasks.step launch all task) expected frames
        running ended := by
  have moves : Tasks.Moves launch all task (Tasks.step launch all task) :=
    Tasks.moves_step task
  generalize Tasks.step launch all task = after at moves ⊢
  cases moves with
  | idle => exact ⟨frames, running, ended, nested⟩
  | act found change next here about =>
      rcases nested.program_at here with ⟨-, _, awaits⟩ | ⟨rfl, runs⟩ |
        ⟨-, resulted⟩
      · rw [about] at awaits
        cases awaits
      · obtain ⟨rest, rfl, rfl⟩ := act_of_toTask (runs.symm.trans about)
        exact ⟨frames, rest all.state, ended, nested.act⟩
      · rw [about] at resulted
        cases resulted
  | start found next here about =>
      rcases nested.program_at here with ⟨-, _, awaits⟩ | ⟨rfl, runs⟩ |
        ⟨-, resulted⟩
      · rw [about] at awaits
        cases awaits
      · obtain ⟨rest, rfl, rfl⟩ := next_of_toTask (runs.symm.trans about)
        obtain ⟨-, rfl, launched⟩ := nested.hands_over follows stands
        exact ⟨rest :: frames, _, [], nested.start launched⟩
      · rw [about] at resulted
        cases resulted
  | await found awaited next outcome here about resulted =>
      rcases nested.program_at here with ⟨before, _, awaits⟩ | ⟨rfl, runs⟩ |
        ⟨-, finished⟩
      · rw [about] at awaits
        cases awaits
        obtain ⟨frame, rest, rfl, rfl, ended⟩ :=
          nested.innermost_of_outcome before resulted
        have waits := nested.waits_at here
        rw [about] at waits
        cases waits
        exact ⟨rest, _, _, nested.resume ended⟩
      · exact absurd (runs.symm.trans about) toTask_ne_await
      · rw [about] at finished
        cases finished

/-- Layers have been entered only as the expected evaluation enters them. -/
theorem entered_prefix
    (nested : Nested layers handler all expected frames running ended) :
    all.tasks.map Task.entered <+: expected.entered := by
  rw [← nested.leads]
  exact List.prefix_append _ _

/-- When the first task has ended, all is as expected. -/
theorem expected_of_outcome
    (nested : Nested layers handler all expected frames running ended)
    {outcome : Except Error Result}
    (resulted : all.outcome 0 = some outcome) :
    expected = ⟨outcome, all.state, all.tasks.map Task.entered⟩ := by
  obtain ⟨last, ended⟩ := nested.running_of_outcome (Nat.zero_le _) resulted
  obtain rfl : frames = [] := List.length_eq_zero_iff.mp last.symm
  rw [← nested.leads, evaluate_ended ended]
  simp [unwind, Settled.after]

end Nested

theorem nested_first (memory : Memory) (state : State) :
    Nested layers handler
      (Tasks.first (layerBody layers handler 0) memory state)
      (settle handler layers state) [] (layerAt layers handler 0) [] where
  programs := rfl
  finished := fun _ none => absurd none List.not_mem_nil
  leads := (settle_drop layers handler 0 state).symm

section Runs

variable {memoryAt : Nat → Memory}
  {launch : Launcher State Error Result Memory}
  (once : ∀ layer ∈ layers, layer.Once)
  (follows : Tasks.Follows layers.length (layerBody layers handler)
    memoryAt launch)
  (state : State)

include once follows

theorem nested_run (schedule : List Nat) :
    ∃ frames running ended,
      Nested layers handler
        (Tasks.run launch
          (Tasks.first (layerBody layers handler 0) (memoryAt 0) state)
          schedule)
        (settle handler layers state) frames running ended := by
  induction schedule using List.reverseRecOn with
  | nil => exact ⟨[], _, [], nested_first (memoryAt 0) state⟩
  | append_singleton schedule task induction =>
      obtain ⟨latest, stands⟩ := Tasks.inLine_run
        (line_layers once handler) follows state schedule
      rcases induction with ⟨frames, running, ended, nested⟩
      unfold Tasks.run at *
      rw [run_concat]
      exact nested.step follows stands task

/-- However the tasks of layers are scheduled, they end as evaluated. -/
theorem settle_of_outcome {schedule : List Nat}
    {outcome : Except Error Result}
    (resulted : (Tasks.run launch
      (Tasks.first (layerBody layers handler 0) (memoryAt 0) state)
      schedule).outcome 0 = some outcome) :
    (settle handler layers state).outcome = outcome ∧
      (settle handler layers state).state = (Tasks.run launch
        (Tasks.first (layerBody layers handler 0) (memoryAt 0) state)
        schedule).state := by
  obtain ⟨frames, running, ended, nested⟩ :=
    nested_run once follows state schedule
  rw [nested.expected_of_outcome resulted]
  exact ⟨rfl, rfl⟩

/-- No layer is entered but where the evaluation enters it. -/
theorem entered_of_task {schedule : List Nat} {position : Nat}
    {task : Task State Error Result}
    (there : (Tasks.run launch
      (Tasks.first (layerBody layers handler 0) (memoryAt 0) state)
      schedule).tasks[position]? = some task) :
    (settle handler layers state).entered[position]? = some task.entered := by
  obtain ⟨frames, running, ended, nested⟩ :=
    nested_run once follows state schedule
  obtain ⟨later, split⟩ := nested.entered_prefix
  rw [← split, List.getElem?_append_left, List.getElem?_map, there]
  · rfl
  · rw [List.length_map]
    exact (List.getElem?_eq_some_iff.mp there).1

/-- The running layer and the frames, at some stage of a run. -/
def Stage (layers : List (LayerProgram State Error Result))
    (handler : ActProgram State Error Result) (memoryAt : Nat → Memory)
    (expected : Settled State Error Result)
    (frames : List (Frame State Error Result))
    (running : LayerProgram State Error Result)
    (all : Tasks State Error Result Memory) : Prop :=
  (∃ latest, Tasks.InLine layers.length (layerBody layers handler)
      memoryAt all latest) ∧
    ∃ ended, Nested layers handler all expected frames running ended

theorem Stage.step_act {change : State → State}
    {next : State → LayerProgram State Error Result}
    (stage : Stage layers handler memoryAt expected frames
      (.call (LayerOp.act change) next) all) :
    Stage layers handler memoryAt expected frames (next all.state)
      (Tasks.step launch all frames.length) := by
  rcases stage with ⟨⟨latest, stands⟩, ended, nested⟩
  refine ⟨stands.step (line_layers once handler) follows _, ended, ?_⟩
  obtain ⟨found, here, about⟩ := nested.running_at
  rw [Tasks.step_act here about]
  exact nested.act

theorem Stage.step_next
    {next : Except Error Result → LayerProgram State Error Result}
    (stage : Stage layers handler memoryAt expected frames
      (.call LayerOp.next next) all) :
    frames.length < layers.length ∧
      Stage layers handler memoryAt expected (next :: frames)
        (layerAt layers handler (frames.length + 1))
        (Tasks.step launch all frames.length) := by
  rcases stage with ⟨⟨latest, stands⟩, ended, nested⟩
  obtain ⟨inside, rfl, launched⟩ := nested.hands_over follows stands
  refine ⟨inside, stands.step (line_layers once handler) follows _, [], ?_⟩
  obtain ⟨found, here, about⟩ := nested.running_at
  rw [Tasks.step_start here about]
  exact nested.start launched

theorem Stage.step_resume {frame : Frame State Error Result}
    {outcome : Except Error Result}
    (stage : Stage layers handler memoryAt expected (frame :: frames)
      running all) (resulted : running.outcome? = some outcome) :
    Stage layers handler memoryAt expected frames (frame outcome)
      (Tasks.step launch all frames.length) := by
  rcases stage with ⟨⟨latest, stands⟩, ended, nested⟩
  refine ⟨stands.step (line_layers once handler) follows _,
    running.toTask :: ended, ?_⟩
  obtain ⟨last, there, runs⟩ := nested.running_at
  have inside : frames.length < all.tasks.length :=
    Nat.lt_of_succ_lt (List.getElem?_eq_some_iff.mp there).1
  have here := List.getElem?_eq_getElem inside
  rw [Tasks.step_await here (nested.waits_at here)]
  · exact nested.resume resulted
  · unfold Tasks.outcome
    rw [show frames.length + 1 = (frame :: frames).length from rfl, there,
      Option.bind_some, runs, outcome?_toTask, resulted]

/-- The running layer comes to its end, with all the layers behind it. -/
theorem Stage.ends (depth : Nat)
    (frames : List (Frame State Error Result))
    (deep : layers.length - frames.length = depth)
    (running : LayerProgram State Error Result)
    (all : Tasks State Error Result Memory)
    (stage : Stage layers handler memoryAt expected frames running all) :
    ∃ schedule last outcome, last.outcome? = some outcome ∧
      Stage layers handler memoryAt expected frames last
        (Tasks.run launch all schedule) := by
  induction depth using Nat.strongRecOn generalizing frames running all with
  | ind depth deeper =>
      induction running generalizing all with
      | done result => exact ⟨[], .done result, .ok result, rfl, stage⟩
      | fail error => exact ⟨[], .fail error, .error error, rfl, stage⟩
      | call op next induction =>
          cases op with
          | act change =>
              obtain ⟨schedule, ends⟩ := induction _ _
                (stage.step_act once follows)
              exact ⟨frames.length :: schedule, ends⟩
          | next =>
              obtain ⟨inside, handed⟩ := stage.step_next once follows
              obtain ⟨inner, last, outcome, resulted, ended⟩ := deeper
                (layers.length - (next :: frames).length)
                (by rw [List.length_cons]; omega) _ rfl _ _ handed
              obtain ⟨schedule, ends⟩ := induction _ _
                (ended.step_resume once follows resulted)
              refine ⟨frames.length :: inner ++ frames.length :: schedule, ?_⟩
              unfold Tasks.run at *
              rw [run_append]
              exact ends

theorem Stage.exists_outcome
    (frames : List (Frame State Error Result))
    (running : LayerProgram State Error Result)
    (all : Tasks State Error Result Memory)
    (stage : Stage layers handler memoryAt expected frames running all) :
    ∃ schedule outcome,
      (Tasks.run launch all schedule).outcome 0 = some outcome := by
  induction frames generalizing running all with
  | nil =>
      obtain ⟨schedule, last, outcome, resulted, -, ended, nested⟩ :=
        stage.ends once follows _ [] rfl
      obtain ⟨found, here, runs⟩ := nested.running_at
      refine ⟨schedule, outcome, ?_⟩
      unfold Tasks.outcome
      rw [show (0 : Nat) = ([] : List (Frame State Error Result)).length
        from rfl, here, Option.bind_some, runs, outcome?_toTask, resulted]
  | cons frame frames induction =>
      obtain ⟨schedule, last, outcome, resulted, ended⟩ :=
        stage.ends once follows _ (frame :: frames) rfl
      obtain ⟨rest, final⟩ := induction _ _
        (ended.step_resume once follows resulted)
      refine ⟨schedule ++ frames.length :: rest, ?_⟩
      unfold Tasks.run at *
      rw [run_append]
      exact final

/-- Every schedule can be continued so that the first task ends. -/
theorem exists_outcome (schedule : List Nat) :
    ∃ rest outcome, (Tasks.run launch
      (Tasks.first (layerBody layers handler 0) (memoryAt 0) state)
      (schedule ++ rest)).outcome 0 = some outcome := by
  obtain ⟨frames, running, ended, nested⟩ :=
    nested_run once follows state schedule
  have stands := Tasks.inLine_run (line_layers once handler) follows state
    schedule
  obtain ⟨rest, final⟩ := Stage.exists_outcome once follows _ _ _
    ⟨stands, ended, nested⟩
  refine ⟨rest, ?_⟩
  unfold Tasks.run at *
  rw [run_append]
  exact final

end Runs

end Steps

end Layers

end Effects
