import ChatBackend.Effects.Program

/-!
# Operations that fail

An adapter in which some operations fail with an error of their own.  Like
every operation that fails, they leave the state as it was, and the program
that issued one ends with the error.
-/

namespace Effects

variable {port : Port} {Error Result Next Input State : Type}

/-- The adapter, except that the broken operations fail with the error. -/
def failing (adapter : Adapter port Input State Error)
    (broken : port.Op → Prop) [DecidablePred broken] (error : Error) :
    Adapter port Input State Error := fun op input state =>
  if broken op then .error error else adapter op input state

section Faults

variable {adapter : Adapter port Input State Error}
  {broken : port.Op → Prop} [DecidablePred broken] {error : Error}
  {input : Input} {op : port.Op} {state after : State}
  {answer : port.Answer op}

/-- A program ends at an operation that is broken. -/
theorem run_failing_of_broken
    (next : port.Answer op → Program port Error Result) (fails : broken op) :
    (Program.call op next).run (failing adapter broken error) input state =
      (.error error, state) :=
  Program.run_call_error next (if_pos fails)

/-- An operation that is not broken answers as before. -/
theorem run_failing_of_sound
    (next : port.Answer op → Program port Error Result) (sound : ¬ broken op)
    (answered : adapter op input state = .ok (answer, after)) :
    (Program.call op next).run (failing adapter broken error) input state =
      (next answer).run (failing adapter broken error) input after :=
  Program.run_call_ok next ((if_neg sound).trans answered)

end Faults

end Effects
