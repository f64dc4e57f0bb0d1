import Mathlib.Logic.Function.Basic

/-!
# Programs over a port

A port lists the operations a component may ask of its surroundings and the
type each of them answers with.  A program over a port ends, fails, or issues
one operation and goes on with the answer.  An adapter says what the
operations do on a state; an operation is atomic and, when it fails, leaves the
state as it was.

The sequential reading of a program is `Program.run`.  Its single steps are
`Program.resume`, from which the interleaved reading is built elsewhere.
-/

namespace Effects

/-- The operations of an interface, with the type each of them answers with. -/
structure Port where
  Op : Type
  Answer : Op → Type

/-- A program over a port, which may end with a result or with an error. -/
inductive Program (port : Port) (Error Result : Type) where
  | done (result : Result)
  | fail (error : Error)
  | call (op : port.Op) (next : port.Answer op → Program port Error Result)

/--
What the operations of a port do on a state.  The input is what the
surroundings contribute at the moment of the operation, such as the reading of
a clock.
-/
abbrev Adapter (port : Port) (Input State Error : Type) :=
  (op : port.Op) → Input → State → Except Error (port.Answer op × State)

/-- How the operations of a port are found among those of another one. -/
structure Port.Embedding (port larger : Port) where
  op : port.Op → larger.Op
  answer : ∀ issued, larger.Answer (op issued) → port.Answer issued

/-- A sequence of attempts succeeds if both parts do. -/
theorem bind_eq_ok_iff {Error Value Result : Type}
    {attempt : Except Error Value} {next : Value → Except Error Result}
    {result : Result} :
    (attempt >>= next) = .ok result ↔
      ∃ value, attempt = .ok value ∧ next value = .ok result := by
  cases attempt with
  | ok value =>
      constructor
      · intro succeeded
        exact ⟨value, rfl, succeeded⟩
      · rintro ⟨other, equal, succeeded⟩
        cases equal
        exact succeeded
  | error error =>
      constructor
      · intro succeeded
        cases succeeded
      · rintro ⟨value, equal, -⟩
        cases equal

theorem map_eq_ok_iff {Error Value Result : Type}
    {attempt : Except Error Value} {change : Value → Result}
    {result : Result} :
    attempt.map change = .ok result ↔
      ∃ value, attempt = .ok value ∧ change value = result := by
  cases attempt <;> simp [Except.map]

namespace Program

variable {port : Port} {Error Result Next Input State : Type}

/-- Go on with a second program once the first has ended. -/
def bind :
    Program port Error Result →
      (Result → Program port Error Next) → Program port Error Next
  | .done result, continuation => continuation result
  | .fail error, _ => .fail error
  | .call op next, continuation =>
      .call op fun answer => (next answer).bind continuation

instance : Monad (Program port Error) where
  pure := .done
  bind := bind

@[simp]
theorem pure_eq_done (result : Result) :
    (pure result : Program port Error Result) = .done result := rfl

@[simp]
theorem done_bind
    (result : Result) (continuation : Result → Program port Error Next) :
    (Program.done result >>= continuation) = continuation result := rfl

@[simp]
theorem fail_bind
    (error : Error) (continuation : Result → Program port Error Next) :
    (Program.fail error >>= continuation) = .fail error := rfl

@[simp]
theorem call_bind
    (op : port.Op) (next : port.Answer op → Program port Error Result)
    (continuation : Result → Program port Error Next) :
    (Program.call op next >>= continuation) =
      .call op fun answer => next answer >>= continuation := rfl

theorem bind_assoc {Last : Type}
    (program : Program port Error Result)
    (second : Result → Program port Error Next)
    (third : Next → Program port Error Last) :
    (program >>= second) >>= third =
      program >>= fun result => second result >>= third := by
  induction program with
  | done result => rfl
  | fail error => rfl
  | call op next induction =>
      rw [call_bind, call_bind, call_bind]
      congr 1
      funext answer
      exact induction answer

/-- The program that issues one operation and ends with its answer. -/
def perform (op : port.Op) : Program port Error (port.Answer op) :=
  .call op .done

@[simp]
theorem perform_bind
    (op : port.Op)
    (continuation : port.Answer op → Program port Error Next) :
    (perform op >>= continuation) = .call op continuation := rfl

@[simp]
theorem map_call (change : Result → Next)
    (op : port.Op) (next : port.Answer op → Program port Error Result) :
    (change <$> Program.call op next) =
      .call op fun answer => change <$> next answer := rfl

/-- The program that issues the operations of a larger port instead. -/
def embed {larger : Port} (embedding : port.Embedding larger) :
    Program port Error Result → Program larger Error Result
  | .done result => .done result
  | .fail error => .fail error
  | .call op next =>
      .call (embedding.op op) fun answer =>
        (next (embedding.answer op answer)).embed embedding

/-- The program that carries every operation out by a program of its own. -/
def expand {finer : Port}
    (carry : ∀ op : port.Op, Program finer Error (port.Answer op)) :
    Program port Error Result → Program finer Error Result
  | .done result => .done result
  | .fail error => .fail error
  | .call op next => (carry op).bind fun answer => (next answer).expand carry

/-! ## The sequential reading -/

/-- Run a program to its end, without any other program in between. -/
def run (adapter : Adapter port Input State Error) (input : Input) :
    Program port Error Result → State → Except Error Result × State
  | .done result, state => (.ok result, state)
  | .fail error, state => (.error error, state)
  | .call op next, state =>
      match adapter op input state with
      | .ok (answer, state) => run adapter input (next answer) state
      | .error error => (.error error, state)

theorem run_call
    (adapter : Adapter port Input State Error) (input : Input)
    (op : port.Op) (next : port.Answer op → Program port Error Result)
    (state : State) :
    (Program.call op next).run adapter input state =
      match adapter op input state with
      | .ok (answer, state) => (next answer).run adapter input state
      | .error error => (.error error, state) := by
  rw [run]

/-- An operation that answers hands its answer and state to the rest. -/
theorem run_call_ok
    {adapter : Adapter port Input State Error} {input : Input}
    {op : port.Op} {state after : State} {answer : port.Answer op}
    (next : port.Answer op → Program port Error Result)
    (answered : adapter op input state = .ok (answer, after)) :
    (Program.call op next).run adapter input state =
      (next answer).run adapter input after := by
  rw [run_call, answered]

/-- An operation that fails ends the program and leaves the state. -/
theorem run_call_error
    {adapter : Adapter port Input State Error} {input : Input}
    {op : port.Op} {state : State} {error : Error}
    (next : port.Answer op → Program port Error Result)
    (failed : adapter op input state = .error error) :
    (Program.call op next).run adapter input state =
      (.error error, state) := by
  rw [run_call, failed]

theorem run_perform_ok
    {adapter : Adapter port Input State Error} {input : Input}
    {op : port.Op} {state after : State} {answer : port.Answer op}
    (answered : adapter op input state = .ok (answer, after)) :
    (perform op : Program port Error (port.Answer op)).run
        adapter input state =
      (.ok answer, after) :=
  run_call_ok _ answered

/-- Running a sequence runs the first part and then, if it ends, the second. -/
theorem run_bind
    (adapter : Adapter port Input State Error) (input : Input)
    (program : Program port Error Result)
    (continuation : Result → Program port Error Next) (state : State) :
    (program >>= continuation).run adapter input state =
      match program.run adapter input state with
      | (.ok result, after) => (continuation result).run adapter input after
      | (.error error, after) => (.error error, after) := by
  induction program generalizing state with
  | done result => rfl
  | fail error => rfl
  | call op next induction =>
      rw [call_bind, run_call, run_call]
      cases adapter op input state with
      | ok answered => exact induction answered.1 answered.2
      | error error => rfl

theorem run_map
    (adapter : Adapter port Input State Error) (input : Input)
    (change : Result → Next) (program : Program port Error Result)
    (state : State) :
    (change <$> program).run adapter input state =
      ((program.run adapter input state).1.map change,
        (program.run adapter input state).2) := by
  change (program >>= fun result => .done (change result)).run _ _ _ = _
  rw [run_bind]
  cases program.run adapter input state with
  | mk outcome after => cases outcome <;> rfl

/-- How the operations of a port work on a component of a larger state. -/
structure Component {larger : Port} {Larger : Type}
    (embedding : port.Embedding larger)
    (adapter : Adapter port Input State Error)
    (whole : Adapter larger Input Larger Error) where
  get : Larger → State
  set : State → Larger → Larger
  get_set : ∀ state all, get (set state all) = state
  set_get : ∀ all, set (get all) all = all
  set_set : ∀ state other all, set state (set other all) = set state all
  carries : ∀ op input all,
    (whole (embedding.op op) input all).map
        (fun answered => (embedding.answer op answered.1, answered.2)) =
      (adapter op input (get all)).map
        fun answered => (answered.1, set answered.2 all)

/-- An embedded program runs on the component. -/
theorem run_embed {larger : Port} {Larger : Type}
    {embedding : port.Embedding larger}
    {adapter : Adapter port Input State Error}
    {whole : Adapter larger Input Larger Error}
    (component : Component embedding adapter whole) (input : Input)
    (program : Program port Error Result) (all : Larger) :
    (program.embed embedding).run whole input all =
      ((program.run adapter input (component.get all)).1,
        component.set (program.run adapter input (component.get all)).2
          all) := by
  induction program generalizing all with
  | done result => exact congrArg _ (component.set_get all).symm
  | fail error => exact congrArg _ (component.set_get all).symm
  | call op next induction =>
      have carries := component.carries op input all
      rw [embed, run_call, run_call]
      cases here : adapter op input (component.get all) with
      | error error =>
          rw [here] at carries
          cases there : whole (embedding.op op) input all with
          | error other =>
              rw [there] at carries
              cases carries
              exact congrArg _ (component.set_get all).symm
          | ok answered =>
              rw [there] at carries
              cases carries
      | ok answered =>
          rw [here] at carries
          cases there : whole (embedding.op op) input all with
          | error other =>
              rw [there] at carries
              cases carries
          | ok otherAnswered =>
              rw [there] at carries
              obtain ⟨sameAnswer, sameState⟩ :=
                Prod.mk.inj (Except.ok.inj carries)
              dsimp only
              rw [sameAnswer, induction, sameState, component.get_set,
                component.set_set]

/-- The adapter whose operations are carried out by programs, each at once. -/
def atomically {finer : Port} (adapter : Adapter finer Input State Error)
    (carry : Input → ∀ op : port.Op,
      Program finer Error (port.Answer op)) :
    Adapter port Input State Error := fun op input state =>
  match (carry input op).run adapter input state with
  | (.ok answer, after) => .ok (answer, after)
  | (.error error, _) => .error error

/--
The state a program leaves that stops after some of its operations, as when its
process or its connection to the surroundings is lost.
-/
def stopAfter (adapter : Adapter port Input State Error) (input : Input) :
    Nat → Program port Error Result → State → State
  | operations + 1, .call op next, state =>
      match adapter op input state with
      | .ok (answer, state) =>
          stopAfter adapter input operations (next answer) state
      | .error _ => state
  | _, _, state => state

/-! ## Single steps -/

/-- Perform the next operation of a program, if it has one. -/
def resume (adapter : Adapter port Input State Error) (input : Input) :
    Program port Error Result → State → Program port Error Result × State
  | .done result, state => (.done result, state)
  | .fail error, state => (.fail error, state)
  | .call op next, state =>
      match adapter op input state with
      | .ok (answer, state) => (next answer, state)
      | .error error => (.fail error, state)

theorem resume_call_ok
    {adapter : Adapter port Input State Error} {input : Input}
    {op : port.Op} {state after : State} {answer : port.Answer op}
    (next : port.Answer op → Program port Error Result)
    (answered : adapter op input state = .ok (answer, after)) :
    (Program.call op next).resume adapter input state =
      (next answer, after) := by
  simp only [resume, answered]

theorem resume_call_error
    {adapter : Adapter port Input State Error} {input : Input}
    {op : port.Op} {state : State} {error : Error}
    (next : port.Answer op → Program port Error Result)
    (failed : adapter op input state = .error error) :
    (Program.call op next).resume adapter input state =
      (.fail error, state) := by
  simp only [resume, failed]

/-- The operation a program is about to issue. -/
def pending : Program port Error Result → Option port.Op
  | .call op _ => some op
  | _ => none

@[simp]
theorem pending_done (result : Result) :
    (Program.done result : Program port Error Result).pending = none := rfl

@[simp]
theorem pending_fail (error : Error) :
    (Program.fail error : Program port Error Result).pending = none := rfl

@[simp]
theorem pending_call
    (op : port.Op) (next : port.Answer op → Program port Error Result) :
    (Program.call op next).pending = some op := rfl

theorem pending_eq_some_iff
    {program : Program port Error Result} {op : port.Op} :
    program.pending = some op ↔ ∃ next, program = .call op next := by
  cases program with
  | done result => simp
  | fail error => simp
  | call issued next =>
      rw [pending_call, Option.some.injEq]
      constructor
      · rintro rfl
        exact ⟨next, rfl⟩
      · rintro ⟨other, equal⟩
        cases equal
        rfl

/-- A program with nothing left to do. -/
def Finished (program : Program port Error Result) : Prop :=
  program.pending = none

instance (program : Program port Error Result) :
    Decidable program.Finished :=
  match program with
  | .done _ => isTrue rfl
  | .fail _ => isTrue rfl
  | .call _ _ => isFalse nofun

/-- The result of a program that has ended with one. -/
def result? : Program port Error Result → Option Result
  | .done result => some result
  | _ => none

end Program

end Effects
