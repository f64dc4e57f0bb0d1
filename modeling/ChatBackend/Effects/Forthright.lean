import ChatBackend.Effects.Conduct
import ChatBackend.Effects.Notices

/-!
# Threads that tell of what they change

A thread is forthright about a value if, within a conduct, each of its
operations that changes the value is followed by a notice of it: at once, or
after operations that cannot fail.  Forthright threads owe a notice whenever
they change the value, so in the end the last notice has found the value that
there is.
-/

namespace Effects.Conduct

variable {Name : Type*} {port : Port}
  {Input State Error Result Next Told Value : Type}

section Definitions

variable (adapter : Adapter port Input State Error)
  (tells : port.Op → Option Told)

/-- The operation succeeds on every input, in every state. -/
def Certain (op : port.Op) : Prop :=
  ∀ input state, ∃ answered, adapter op input state = .ok answered

/-- The program tells something at once, or after what cannot fail. -/
def Owes : Program port Error Result → Prop
  | .done _ => False
  | .fail _ => False
  | .call op next =>
      tells op ≠ none ∨ Certain adapter op ∧ ∀ answer, Owes (next answer)

/--
Within the conduct, the operations of the program keep the value or leave a
notice of it to the program.
-/
def Forthright (conduct : Conduct State) (value : State → Value) :
    Program port Error Result → State → Prop
  | .done _, _ => True
  | .fail _, _ => True
  | .call op next, state => ∀ later,
      conduct.allows state later → conduct.invariant later →
        ∀ input answer after, adapter op input later = .ok (answer, after) →
          conduct.invariant after ∧ conduct.allows later after ∧
            (value after = value later ∨
              tells op = none ∧ Owes adapter tells (next answer)) ∧
              Forthright conduct value (next answer) after

end Definitions

section Rules

variable {conduct : Conduct State} {adapter : Adapter port Input State Error}
  {tells : port.Op → Option Told} {value : State → Value}

/-- An operation that only looks changes nothing. -/
theorem Forthright.look {op : port.Op}
    {next : port.Answer op → Program port Error Result} {state : State}
    (looks : ∀ input later answer after,
      adapter op input later = .ok (answer, after) → after = later)
    (goesOn : ∀ later, conduct.allows state later → conduct.invariant later →
      ∀ input answer, adapter op input later = .ok (answer, later) →
        Forthright adapter tells conduct value (next answer) later) :
    Forthright adapter tells conduct value (.call op next) state := by
  intro later allowed holds input answer after answered
  cases looks input later answer after answered
  exact ⟨holds, conduct.refl later, .inl rfl,
    goesOn later allowed holds input answer answered⟩

theorem Forthright.later {program : Program port Error Result}
    {before after : State}
    (forthright : Forthright adapter tells conduct value program before)
    (allowed : conduct.allows before after) :
    Forthright adapter tells conduct value program after := by
  cases program with
  | done result => trivial
  | fail error => trivial
  | call op next =>
      intro later allowedLater
      exact forthright later
        (conduct.trans before after later allowed allowedLater)

theorem Owes.map {program : Program port Error Result} {change : Result → Next}
    (owes : Owes adapter tells program) :
    Owes adapter tells (change <$> program) := by
  induction program with
  | done result => exact owes
  | fail error => exact owes
  | call op next induction =>
      rcases owes with now | ⟨certain, later⟩
      · exact .inl now
      · exact .inr ⟨certain, fun answer => induction answer (later answer)⟩

theorem Forthright.map {program : Program port Error Result}
    {change : Result → Next} {state : State}
    (forthright : Forthright adapter tells conduct value program state) :
    Forthright adapter tells conduct value (change <$> program) state := by
  induction program generalizing state with
  | done result => trivial
  | fail error => trivial
  | call op next induction =>
      intro later allowed holds input answer after answered
      obtain ⟨kept, change, told, goesOn⟩ :=
        forthright later allowed holds input answer after answered
      exact ⟨kept, change, told.imp_right fun ⟨untold, owes⟩ =>
        ⟨untold, owes.map⟩, induction answer goesOn⟩

/-- What the next operation of a forthright program does. -/
theorem Forthright.resume {program : Program port Error Result} {state : State}
    (forthright : Forthright adapter tells conduct value program state)
    (holds : conduct.invariant state) (input : Input) :
    conduct.invariant (program.resume adapter input state).2 ∧
      conduct.allows state (program.resume adapter input state).2 ∧
        (value (program.resume adapter input state).2 = value state ∨
          program.pending.bind tells = none ∧
            Owes adapter tells (program.resume adapter input state).1) ∧
          Forthright adapter tells conduct value
            (program.resume adapter input state).1
            (program.resume adapter input state).2 := by
  cases program with
  | done result => exact ⟨holds, conduct.refl state, .inl rfl, trivial⟩
  | fail error => exact ⟨holds, conduct.refl state, .inl rfl, trivial⟩
  | call op next =>
      cases attempt : adapter op input state with
      | error error =>
          rw [Program.resume_call_error next attempt]
          exact ⟨holds, conduct.refl state, .inl rfl, trivial⟩
      | ok result =>
          rw [Program.resume_call_ok next attempt]
          exact forthright state (conduct.refl state) holds input _ _ attempt

/-- Who owes a notice still does after a turn in which it was not given. -/
theorem Owes.resume {program : Program port Error Result}
    (owes : Owes adapter tells program)
    (untold : program.pending.bind tells = none) (input : Input)
    (state : State) :
    Owes adapter tells (program.resume adapter input state).1 := by
  cases program with
  | done result => exact owes.elim
  | fail error => exact owes.elim
  | call op next =>
      obtain ⟨certain, later⟩ :=
        Or.resolve_left owes fun told => told untold
      obtain ⟨⟨answer, after⟩, answered⟩ := certain input state
      rw [Program.resume_call_ok next answered]
      exact later answer

end Rules

/-! ## Interleavings -/

section Interleavings

variable [DecidableEq Name] {conduct : Conduct State}
  {adapter : Adapter port Input State Error} {tells : port.Op → Option Told}
  {value : State → Value} {config : Config Name port State Error Result}

/-- The invariant holds and every thread is forthright. -/
structure Frank (conduct : Conduct State)
    (adapter : Adapter port Input State Error)
    (tells : port.Op → Option Told) (value : State → Value)
    (config : Config Name port State Error Result) : Prop where
  holds : conduct.invariant config.shared
  forthright : ∀ name,
    Forthright adapter tells conduct value (config.threads name) config.shared

theorem Frank.advance (frank : Frank conduct adapter tells value config)
    (turn : Name × Input) :
    Frank conduct adapter tells value (config.advance adapter turn) := by
  obtain ⟨holds, allowed, -, forthright⟩ :=
    (frank.forthright turn.1).resume frank.holds turn.2
  refine ⟨holds, (Config.forall_threads_advance_iff fun name program =>
    Forthright adapter tells conduct value program
      (config.advance adapter turn).shared).mpr ⟨forthright, ?_⟩⟩
  intro name _
  exact (frank.forthright name).later allowed

omit [DecidableEq Name] in
theorem notice_eq_none_iff (turn : Name × Input) :
    config.notice tells value turn = none ↔
      (config.threads turn.1).pending.bind tells = none := by
  rw [← Config.pending, ← Config.map_fst_notice tells value config turn,
    Option.map_eq_none_iff]

/-- Frank threads owe notices of what they change. -/
theorem owing : Config.Owing tells value adapter
    (fun program _ => Owes adapter tells program)
    (fun config : Config Name port State Error Result =>
      Frank conduct adapter tells value config)
    fun _ _ => True where
  busy program current owes := by
    cases program with
    | done result => exact owes.elim
    | fail error => exact owes.elim
    | call op next =>
        intro ended
        cases ended
  stays config turn frank _ := frank.advance turn
  told config turn frank _ told := by
    obtain ⟨-, -, same | ⟨untold, -⟩, -⟩ :=
      (frank.forthright turn.1).resume frank.holds turn.2
    · exact same
    · exact absurd ((notice_eq_none_iff turn).mpr untold) told
  changed config turn frank _ untold changed := by
    obtain ⟨-, -, same | ⟨-, owes⟩, -⟩ :=
      (frank.forthright turn.1).resume frank.holds turn.2
    · exact absurd same changed
    · rw [Config.threads_advance_self]
      exact owes
  kept config turn frank _ untold same owes := by
    rw [Config.threads_advance_self]
    exact owes.resume ((notice_eq_none_iff turn).mp untold) turn.2 config.shared

/-- Once all threads are at rest, the last notice has found the value. -/
theorem Frank.value_eq_noted (frank : Frank conduct adapter tells value config)
    (schedule : List (Name × Input))
    (rest : (config.play adapter schedule).Quiescent) :
    value (config.play adapter schedule).shared =
      Config.noted (value config.shared)
        (config.notices tells value adapter schedule) :=
  Config.value_eq_noted owing frank schedule
    (Transition.along_of_forall (fun _ _ => trivial) config schedule) rest

end Interleavings

end Effects.Conduct
