import ChatBackend.Effects.Program

/-!
# Postconditions of programs

`Program.Ensures` says that a postcondition holds of the outcome of a program
and of the state it leaves, whether the program ends or throws.  The rules
follow the program: one for each of its constructors, one for a sequence, and
one for what every operation preserves.

`Program.Issues` collects the operations a program may issue, whatever it is
answered; it is kept by every single step, so it applies to a program that
waits between two operations.
-/

namespace Effects.Program

variable {port : Port} {Error Result Next Input State : Type}

/-- The postcondition holds of how a program ends and of the state it leaves. -/
def Ensures (adapter : Adapter port Input State Error) (input : Input)
    (program : Program port Error Result) (state : State)
    (post : Except Error Result → State → Prop) : Prop :=
  post (program.run adapter input state).1 (program.run adapter input state).2

section Rules

variable {adapter : Adapter port Input State Error} {input : Input}
  {state : State} {post : Except Error Result → State → Prop}

theorem Ensures.done {result : Result} (holds : post (.ok result) state) :
    Ensures adapter input (.done result) state post := holds

theorem Ensures.fail {error : Error} (holds : post (.error error) state) :
    Ensures adapter input (.fail error) state post := holds

/-- An operation either fails, which ends the program, or answers. -/
theorem Ensures.call
    {op : port.Op} {next : port.Answer op → Program port Error Result}
    (failed : ∀ error, adapter op input state = .error error →
      post (.error error) state)
    (answered : ∀ answer after, adapter op input state = .ok (answer, after) →
      Ensures adapter input (next answer) after post) :
    Ensures adapter input (.call op next) state post := by
  cases attempt : adapter op input state with
  | error error =>
      rw [Ensures, run_call_error next attempt]
      exact failed error attempt
  | ok result =>
      rw [Ensures, run_call_ok next attempt]
      exact answered result.1 result.2 attempt

/-- An operation whose answer is known. -/
theorem Ensures.call_ok
    {op : port.Op} {next : port.Answer op → Program port Error Result}
    {answer : port.Answer op} {after : State}
    (answered : adapter op input state = .ok (answer, after))
    (rest : Ensures adapter input (next answer) after post) :
    Ensures adapter input (.call op next) state post := by
  rw [Ensures, run_call_ok next answered]
  exact rest

/-- A sequence goes on from wherever its first part ends. -/
theorem Ensures.bind
    {program : Program port Error Result}
    {continuation : Result → Program port Error Next}
    {middle : Except Error Result → State → Prop}
    {last : Except Error Next → State → Prop}
    (first : Ensures adapter input program state middle)
    (failed : ∀ error after, middle (.error error) after →
      last (.error error) after)
    (ended : ∀ result after, middle (.ok result) after →
      Ensures adapter input (continuation result) after last) :
    Ensures adapter input (program >>= continuation) state last := by
  rw [Ensures, run_bind]
  unfold Ensures at first
  cases ran : program.run adapter input state with
  | mk outcome after =>
      rw [ran] at first
      cases outcome with
      | error error => exact failed error after first
      | ok result => exact ended result after first

/-- Changing the result of a program changes only its outcome. -/
theorem Ensures.map
    {program : Program port Error Result} {change : Result → Next}
    {last : Except Error Next → State → Prop}
    (ensures : Ensures adapter input program state
      fun outcome after => last (outcome.map change) after) :
    Ensures adapter input (change <$> program) state last := by
  rw [Ensures, run_map]
  exact ensures

theorem Ensures.imp
    {program : Program port Error Result}
    {strong : Except Error Result → State → Prop}
    (ensures : Ensures adapter input program state strong)
    (implies : ∀ outcome after, strong outcome after → post outcome after) :
    Ensures adapter input program state post :=
  implies _ _ ensures

/-- The postcondition of a program, read at the result of its run. -/
theorem Ensures.of_run
    {program : Program port Error Result}
    {outcome : Except Error Result} {after : State}
    (ensures : Ensures adapter input program state post)
    (ran : program.run adapter input state = (outcome, after)) :
    post outcome after := by
  rw [Ensures, ran] at ensures
  exact ensures

/-- What every operation preserves is preserved by a program that stops. -/
theorem stopAfter_preserves
    {invariant : State → Prop}
    (preserved : ∀ op state answer after, invariant state →
      adapter op input state = .ok (answer, after) → invariant after)
    (operations : Nat) (program : Program port Error Result)
    (start : invariant state) :
    invariant (program.stopAfter adapter input operations state) := by
  induction operations generalizing program state with
  | zero =>
      rw [stopAfter]
      · exact start
      · nofun
  | succ operations induction =>
      cases program with
      | done result => exact start
      | fail error => exact start
      | call op next =>
          rw [stopAfter]
          cases attempt : adapter op input state with
          | error error => exact start
          | ok answered =>
              exact induction (next answered.1)
                (preserved op state answered.1 answered.2 start attempt)

end Rules

/-! ## The operations a program may issue -/

/-- Every operation the program may issue satisfies the condition. -/
def Issues (condition : port.Op → Prop) : Program port Error Result → Prop
  | .done _ => True
  | .fail _ => True
  | .call op next => condition op ∧ ∀ answer, (next answer).Issues condition

section Issues

variable {condition : port.Op → Prop}

theorem Issues.bind
    {program : Program port Error Result}
    {continuation : Result → Program port Error Next}
    (first : program.Issues condition)
    (rest : ∀ result, (continuation result).Issues condition) :
    (program >>= continuation).Issues condition := by
  induction program with
  | done result => exact rest result
  | fail error => trivial
  | call op next induction =>
      exact ⟨first.1, fun answer => induction answer (first.2 answer)⟩

theorem Issues.perform_bind
    {op : port.Op} {continuation : port.Answer op → Program port Error Next}
    (holds : condition op)
    (rest : ∀ answer, (continuation answer).Issues condition) :
    ((perform op : Program port Error (port.Answer op)) >>=
      continuation).Issues condition :=
  ⟨holds, rest⟩

theorem Issues.map
    {program : Program port Error Result} {change : Result → Next}
    (issues : program.Issues condition) :
    (change <$> program).Issues condition :=
  issues.bind fun _ => trivial

theorem Issues.imp
    {program : Program port Error Result} {weaker : port.Op → Prop}
    (issues : program.Issues condition)
    (implies : ∀ op, condition op → weaker op) :
    program.Issues weaker := by
  induction program with
  | done result => trivial
  | fail error => trivial
  | call op next induction =>
      exact ⟨implies op issues.1,
        fun answer => induction answer (issues.2 answer)⟩

/-- What the operations preserve that a program issues is preserved by it. -/
theorem Issues.run_preserves
    {adapter : Adapter port Input State Error} {input : Input}
    {invariant : State → Prop} {program : Program port Error Result}
    (issues : program.Issues condition)
    (preserved : ∀ op state answer after, condition op → invariant state →
      adapter op input state = .ok (answer, after) → invariant after)
    {state : State} (start : invariant state) :
    invariant (program.run adapter input state).2 := by
  induction program generalizing state with
  | done result => exact start
  | fail error => exact start
  | call op next induction =>
      have kept : Ensures adapter input (.call op next) state
          fun _ after => invariant after := by
        apply Ensures.call
        · intro error _
          exact start
        · intro answer after answered
          exact induction answer (issues.2 answer)
            (preserved op state answer after issues.1 start answered)
      exact kept

theorem issues_of_forall (holds : ∀ op, condition op)
    (program : Program port Error Result) : program.Issues condition := by
  induction program with
  | done result => trivial
  | fail error => trivial
  | call op next induction => exact ⟨holds op, induction⟩

/-- What every operation preserves is preserved by every program. -/
theorem run_preserves
    {adapter : Adapter port Input State Error} {input : Input}
    {invariant : State → Prop}
    (preserved : ∀ op state answer after, invariant state →
      adapter op input state = .ok (answer, after) → invariant after)
    (program : Program port Error Result) {state : State}
    (start : invariant state) :
    invariant (program.run adapter input state).2 := by
  have anything : program.Issues fun _ => True :=
    issues_of_forall (fun _ => trivial) program
  apply anything.run_preserves _ start
  exact fun op state answer after _ => preserved op state answer after

/-- A finished program issues nothing. -/
theorem Issues.of_finished {program : Program port Error Result}
    (finished : program.Finished) : program.Issues condition := by
  cases program with
  | done result => trivial
  | fail error => trivial
  | call op next => cases finished

/-- An embedded program issues the embedded operations. -/
theorem Issues.embed {larger : Port} {embedding : port.Embedding larger}
    {program : Program port Error Result} {condition : larger.Op → Prop}
    (issues : program.Issues fun op => condition (embedding.op op)) :
    (program.embed embedding).Issues condition := by
  induction program with
  | done result => trivial
  | fail error => trivial
  | call op next induction =>
      exact ⟨issues.1, fun answer => induction _ (issues.2 _)⟩

/-- The operation a program is about to issue is one it may issue. -/
theorem Issues.pending
    {program : Program port Error Result} {op : port.Op}
    (issues : program.Issues condition) (waits : program.pending = some op) :
    condition op := by
  rcases pending_eq_some_iff.mp waits with ⟨next, rfl⟩
  exact issues.1

/-- A step leaves what issues only what it may after the answer. -/
theorem Issues.resume_call
    {op : port.Op} {next : port.Answer op → Program port Error Result}
    {adapter : Adapter port Input State Error} {input : Input} {state : State}
    (answered : ∀ answer after, adapter op input state = .ok (answer, after) →
      (next answer).Issues condition) :
    ((Program.call op next).resume adapter input state).1.Issues
      condition := by
  cases attempt : adapter op input state with
  | error error =>
      rw [resume_call_error next attempt]
      trivial
  | ok result =>
      rw [resume_call_ok next attempt]
      exact answered result.1 result.2 attempt

/-- A step leaves a program that issues nothing more. -/
theorem Issues.resume
    {program : Program port Error Result}
    (issues : program.Issues condition)
    (adapter : Adapter port Input State Error) (input : Input)
    (state : State) :
    (program.resume adapter input state).1.Issues condition := by
  cases program with
  | done result => trivial
  | fail error => trivial
  | call op next => exact .resume_call fun answer _ _ => issues.2 answer

end Issues

end Effects.Program
