import ChatBackend.Effects.Postcondition

/-!
# Two runs side by side

Two programs are coupled on two related states if they end alike: both throw
the same error, or both return results that are alike, and the states that they
leave are related again.  This is how a property of two runs is proved along
the programs, which usually issue the same operations and may part for a while
where they may not be told apart.
-/

namespace Effects.Program

variable {port : Port} {Error Answer Result Next Input State : Type}

/-- Two attempts fail alike or succeed alike, leaving related states. -/
def Agree (related : State → State → Prop) (alike : Answer → Answer → Prop) :
    Except Error (Answer × State) → Except Error (Answer × State) → Prop
  | .ok first, .ok second =>
      alike first.1 second.1 ∧ related first.2 second.2
  | .error error, .error other => error = other
  | _, _ => False

/-- Two runs end alike and leave related states. -/
def Alike (related : State → State → Prop) (alike : Result → Result → Prop)
    (first second : Except Error Result × State) : Prop :=
  related first.2 second.2 ∧
    match first.1, second.1 with
    | .ok result, .ok other => alike result other
    | .error error, .error other => error = other
    | _, _ => False

/-- The programs, each run on its state, end alike. -/
def Coupled (adapter : Adapter port Input State Error) (input : Input)
    (related : State → State → Prop) (alike : Result → Result → Prop)
    (left right : Program port Error Result) (state other : State) : Prop :=
  Alike related alike (left.run adapter input state)
    (right.run adapter input other)

section Rules

variable {adapter : Adapter port Input State Error} {input : Input}
  {related : State → State → Prop} {alike : Result → Result → Prop}
  {state other : State}

/-- Results that are always the same make the outcomes equal. -/
theorem Alike.outcome_eq {first second : Except Error Result × State}
    (same : Alike related Eq first second) : first.1 = second.1 := by
  rcases first with ⟨result | error, state⟩ <;>
    rcases second with ⟨otherResult | otherError, after⟩ <;>
    rcases same with ⟨-, same⟩ <;> cases same <;> rfl

theorem Alike.mono {strong weak : Result → Result → Prop}
    {first second : Except Error Result × State}
    (same : Alike related strong first second)
    (implies : ∀ result other, strong result other → weak result other) :
    Alike related weak first second := by
  rcases first with ⟨result | error, state⟩ <;>
    rcases second with ⟨otherResult | otherError, after⟩
  · exact same
  · exact same
  · exact same
  · exact ⟨same.1, implies _ _ same.2⟩

theorem Coupled.done {result otherResult : Result}
    (holds : related state other) (same : alike result otherResult) :
    Coupled adapter input related alike (.done result) (.done otherResult)
      state other :=
  ⟨holds, same⟩

theorem Coupled.fail {error : Error} (holds : related state other) :
    Coupled adapter input related alike (.fail error) (.fail error)
      state other :=
  ⟨holds, rfl⟩

/-- Attempts that begin alike agree if what follows does. -/
theorem Agree.bind {Value : Type} {answers : Answer → Answer → Prop}
    {attempt : Except Error Value}
    {next otherNext : Value → Except Error (Answer × State)}
    (rest : ∀ value, Agree related answers (next value) (otherNext value)) :
    Agree related answers (attempt >>= next) (attempt >>= otherNext) := by
  cases attempt with
  | error error => exact rfl
  | ok value => exact rest value

/-- What holds of the states that two attempts leave may be added. -/
theorem Agree.imp {stronger : State → State → Prop}
    {answers : Answer → Answer → Prop}
    {first second : Except Error (Answer × State)}
    (agree : Agree related answers first second)
    (implies : ∀ answer after otherAnswer otherAfter,
      first = .ok (answer, after) → second = .ok (otherAnswer, otherAfter) →
        related after otherAfter → stronger after otherAfter) :
    Agree stronger answers first second := by
  cases first with
  | error error =>
      cases second with
      | error other => exact agree
      | ok answered => exact agree.elim
  | ok answered =>
      cases second with
      | error other => exact agree.elim
      | ok otherAnswered =>
          exact ⟨agree.1, implies _ _ _ _ rfl rfl agree.2⟩

/-- Both programs issue an operation on which the states agree. -/
theorem Coupled.call {op : port.Op}
    {next otherNext : port.Answer op → Program port Error Result}
    {answers : port.Answer op → port.Answer op → Prop}
    (holds : related state other)
    (agree : Agree related answers (adapter op input state)
      (adapter op input other))
    (rest : ∀ answer after otherAnswer otherAfter,
      adapter op input state = .ok (answer, after) →
        adapter op input other = .ok (otherAnswer, otherAfter) →
          answers answer otherAnswer → related after otherAfter →
            Coupled adapter input related alike (next answer)
              (otherNext otherAnswer) after otherAfter) :
    Coupled adapter input related alike (.call op next) (.call op otherNext)
      state other := by
  unfold Coupled
  cases here : adapter op input state with
  | error error =>
      cases there : adapter op input other with
      | error otherError =>
          rw [here, there] at agree
          rw [run_call_error next here, run_call_error otherNext there]
          exact ⟨holds, agree⟩
      | ok answered =>
          rw [here, there] at agree
          cases agree
  | ok answered =>
      cases there : adapter op input other with
      | error otherError =>
          rw [here, there] at agree
          cases agree
      | ok otherAnswered =>
          rw [here, there] at agree
          rw [run_call_ok next here, run_call_ok otherNext there]
          exact rest _ _ _ _ here there agree.1 agree.2

/-- Only the left program goes on. -/
theorem Coupled.call_left {op : port.Op}
    {next : port.Answer op → Program port Error Result}
    {right : Program port Error Result} {answer : port.Answer op}
    {after : State} (answered : adapter op input state = .ok (answer, after))
    (rest : Coupled adapter input related alike (next answer) right after
      other) :
    Coupled adapter input related alike (.call op next) right state other := by
  unfold Coupled
  rw [run_call_ok next answered]
  exact rest

/-- Only the right program goes on. -/
theorem Coupled.call_right {op : port.Op}
    {next : port.Answer op → Program port Error Result}
    {left : Program port Error Result} {answer : port.Answer op}
    {after : State} (answered : adapter op input other = .ok (answer, after))
    (rest : Coupled adapter input related alike left (next answer) state
      after) :
    Coupled adapter input related alike left (.call op next) state other := by
  unfold Coupled
  rw [run_call_ok next answered]
  exact rest

/-- Sequences are coupled if their parts are. -/
theorem Coupled.bind {left right : Program port Error Result}
    {continuation otherContinuation : Result → Program port Error Next}
    {last : Next → Next → Prop}
    (first : Coupled adapter input related alike left right state other)
    (rest : ∀ result otherResult after otherAfter, related after otherAfter →
      alike result otherResult →
        Coupled adapter input related last (continuation result)
          (otherContinuation otherResult) after otherAfter) :
    Coupled adapter input related last (left >>= continuation)
      (right >>= otherContinuation) state other := by
  unfold Coupled at first ⊢
  rw [run_bind, run_bind]
  generalize left.run adapter input state = here at first ⊢
  generalize right.run adapter input other = there at first ⊢
  rcases here with ⟨result | error, after⟩ <;>
    rcases there with ⟨otherResult | otherError, otherAfter⟩
  · exact first
  · exact first.2.elim
  · exact first.2.elim
  · exact rest _ _ _ _ first.1 first.2

theorem Coupled.map {left right : Program port Error Result}
    {change : Result → Next} {last : Next → Next → Prop}
    (first : Coupled adapter input related alike left right state other)
    (same : ∀ result otherResult, alike result otherResult →
      last (change result) (change otherResult)) :
    Coupled adapter input related last (change <$> left) (change <$> right)
      state other :=
  first.bind fun _ _ _ _ holds given => .done holds (same _ _ given)

theorem Coupled.mono {left right : Program port Error Result}
    {weak : Result → Result → Prop}
    (coupled : Coupled adapter input related alike left right state other)
    (implies : ∀ result otherResult, alike result otherResult →
      weak result otherResult) :
    Coupled adapter input related weak left right state other :=
  Alike.mono coupled implies

/-- A program whose operations cannot tell the states apart ends alike. -/
theorem Coupled.of_issues {condition : port.Op → Prop}
    (agree : ∀ op state other, condition op → related state other →
      Agree related Eq (adapter op input state) (adapter op input other))
    {program : Program port Error Result} (issues : program.Issues condition)
    (holds : related state other) :
    Coupled adapter input related Eq program program state other := by
  induction program generalizing state other with
  | done result => exact .done holds rfl
  | fail error => exact .fail holds
  | call op next induction =>
      refine .call holds (agree op state other issues.1 holds) ?_
      rintro answer after _ otherAfter - - rfl goesOn
      exact induction answer (issues.2 answer) goesOn

/-- Programs coupled on a component of two states are coupled on the states. -/
theorem Coupled.embed {larger : Port} {Larger : Type}
    {embedding : port.Embedding larger}
    {whole : Adapter larger Input Larger Error}
    (component : Component embedding adapter whole)
    {relatedAll : Larger → Larger → Prop}
    {left right : Program port Error Result} {all otherAll : Larger}
    (lifts : ∀ state other, related state other →
      relatedAll (component.set state all) (component.set other otherAll))
    (coupled : Coupled adapter input related alike left right
      (component.get all) (component.get otherAll)) :
    Coupled whole input relatedAll alike (left.embed embedding)
      (right.embed embedding) all otherAll := by
  unfold Coupled at coupled ⊢
  rw [run_embed component, run_embed component]
  exact ⟨lifts _ _ coupled.1, coupled.2⟩

end Rules

end Effects.Program
