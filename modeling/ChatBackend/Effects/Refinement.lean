import ChatBackend.Effects.Traces

/-!
# Adapters that refine one another

An adapter refines a simpler one on the operations that are allowed if both
answer them alike in related states and leave related states again.  What is
allowed may depend on the state.  A program that issues only what is allowed
where it issues it then ends alike on both of them.
-/

namespace Effects.Program

variable {port : Port}
  {Fault Error Answer Result Next Input Given State Abstract : Type}

/-- Two attempts fail alike, or answer the same and leave related states. -/
def Matched (related : State → Abstract → Prop) :
    Except Fault (Answer × State) → Except Fault (Answer × Abstract) → Prop
  | .ok low, .ok high => low.1 = high.1 ∧ related low.2 high.2
  | .error fault, .error other => fault = other
  | _, _ => False

/-- The first adapter does what the second one does, where it is allowed. -/
def Refines (concrete : Adapter port Input State Fault) (input : Input)
    (abstract : Adapter port Given Abstract Fault) (given : Given)
    (related : State → Abstract → Prop)
    (allowed : port.Op → Abstract → Prop) : Prop :=
  ∀ op state spec, related state spec → allowed op spec →
    Matched related (concrete op input state) (abstract op given spec)

section Keeps

variable (adapter : Adapter port Given Abstract Fault) (given : Given)
  (allowed : port.Op → Abstract → Prop)

/-- Every operation of the program is allowed in the state that it meets. -/
def Keeps : Program port Error Result → Abstract → Prop
  | .done _, _ => True
  | .fail _, _ => True
  | .call op next, spec =>
      allowed op spec ∧ ∀ answer after,
        adapter op given spec = .ok (answer, after) →
          Keeps (next answer) after

variable {adapter given allowed}

theorem Keeps.bind {program : Program port Error Result}
    {continuation : Result → Program port Error Next} {spec : Abstract}
    (first : program.Keeps adapter given allowed spec)
    (rest : ∀ result after,
      (continuation result).Keeps adapter given allowed after) :
    (program >>= continuation).Keeps adapter given allowed spec := by
  induction program generalizing spec with
  | done result => exact rest result spec
  | fail error => trivial
  | call op next induction =>
      exact ⟨first.1, fun answer after answered =>
        induction answer (first.2 answer after answered)⟩

theorem Keeps.attempt_bind {Caught : Type}
    {program : Program port Error Result}
    {continuation : Except Error Result → Program port Caught Next}
    {spec : Abstract} (first : program.Keeps adapter given allowed spec)
    (rest : ∀ outcome after,
      (continuation outcome).Keeps adapter given allowed after) :
    (program.attempt >>= continuation).Keeps adapter given allowed spec := by
  induction program generalizing spec with
  | done result => exact rest (.ok result) spec
  | fail error => exact rest (.error error) spec
  | call op next induction =>
      exact ⟨first.1, fun answer after answered =>
        induction answer (first.2 answer after answered)⟩

/-- What is allowed in every state may be issued in every state. -/
theorem Issues.keeps {condition : port.Op → Prop}
    (always : ∀ op spec, condition op → allowed op spec)
    {program : Program port Error Result} (issues : program.Issues condition)
    (spec : Abstract) : program.Keeps adapter given allowed spec := by
  induction program generalizing spec with
  | done result => trivial
  | fail error => trivial
  | call op next induction =>
      exact ⟨always op spec issues.1, fun answer after _ =>
        induction answer (issues.2 answer) after⟩

end Keeps

/-- A program ends alike on an adapter and on one that it refines. -/
theorem Refines.run {concrete : Adapter port Input State Fault} {input : Input}
    {abstract : Adapter port Given Abstract Fault} {given : Given}
    {related : State → Abstract → Prop}
    {allowed : port.Op → Abstract → Prop}
    (refines : Refines concrete input abstract given related allowed)
    {program : Program port Fault Result} {state : State} {spec : Abstract}
    (keeps : program.Keeps abstract given allowed spec)
    (holds : related state spec) :
    (program.run concrete input state).1 =
        (program.run abstract given spec).1 ∧
      related (program.run concrete input state).2
        (program.run abstract given spec).2 := by
  induction program generalizing state spec with
  | done result => exact ⟨rfl, holds⟩
  | fail error => exact ⟨rfl, holds⟩
  | call op next induction =>
      have matched := refines op state spec holds keeps.1
      cases low : concrete op input state with
      | error fault =>
          cases high : abstract op given spec with
          | error other =>
              rw [low, high] at matched
              rw [run_call_error next low, run_call_error next high]
              exact ⟨congrArg Except.error matched, holds⟩
          | ok answered =>
              rw [low, high] at matched
              cases matched
      | ok answered =>
          cases high : abstract op given spec with
          | error other =>
              rw [low, high] at matched
              cases matched
          | ok specified =>
              rw [low, high] at matched
              rw [run_call_ok next low, run_call_ok next high, matched.1]
              exact induction specified.1
                (keeps.2 specified.1 specified.2 high) matched.2

end Effects.Program
