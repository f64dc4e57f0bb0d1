import ChatBackend.Effects.Interleaving

/-!
# What a thread can rely on

Between two operations of a thread its surroundings may change the shared
state.  A `Conduct` is an agreement between threads: an invariant that each of
their operations keeps, and a preorder that says how an operation may change
the state.  A thread is assured of a postcondition if its operations observe the
conduct and it can end only with the postcondition, whatever its surroundings do
within the conduct.  What every thread is assured of at the start of an
interleaving, it is assured of to its end.
-/

namespace Effects

variable {Name : Type*} {port : Port} {Input State Error Result : Type}

/-- An invariant, and the changes that the threads allow each other. -/
structure Conduct (State : Type) where
  invariant : State → Prop
  allows : State → State → Prop
  refl : ∀ state, allows state state
  trans : ∀ first second third,
    allows first second → allows second third → allows first third

namespace Conduct

/-- The conduct of threads that rely on nothing. -/
def free : Conduct State where
  invariant _ := True
  allows _ _ := True
  refl _ := trivial
  trans _ _ _ _ _ := trivial

variable (conduct : Conduct State) (adapter : Adapter port Input State Error)

/--
Whatever the surroundings do within the conduct, the operations of the program
observe it and the program ends with the postcondition.
-/
def Assured (post : Result → State → Prop) :
    Program port Error Result → State → Prop
  | .done result, state => post result state
  | .fail _, _ => True
  | .call op next, state => ∀ later,
      conduct.allows state later → conduct.invariant later →
        ∀ input answer after, adapter op input later = .ok (answer, after) →
          conduct.invariant after ∧ conduct.allows later after ∧
            Assured post (next answer) after

/-- The postcondition survives what the conduct allows. -/
def Stable (post : Result → State → Prop) : Prop :=
  ∀ result before after,
    conduct.allows before after → post result before → post result after

variable {conduct adapter} {post : Result → State → Prop}

theorem Assured.call {op : port.Op}
    {next : port.Answer op → Program port Error Result} {state : State}
    (goesOn : ∀ later, conduct.allows state later → conduct.invariant later →
      ∀ input answer after, adapter op input later = .ok (answer, after) →
        conduct.invariant after ∧ conduct.allows later after ∧
          conduct.Assured adapter post (next answer) after) :
    conduct.Assured adapter post (.call op next) state := goesOn

/-- An operation that only looks is as good as its answer. -/
theorem Assured.look {op : port.Op}
    {next : port.Answer op → Program port Error Result} {state : State}
    (looks : ∀ input later answer after,
      adapter op input later = .ok (answer, after) → after = later)
    (goesOn : ∀ later, conduct.allows state later → conduct.invariant later →
      ∀ input answer, adapter op input later = .ok (answer, later) →
        conduct.Assured adapter post (next answer) later) :
    conduct.Assured adapter post (.call op next) state := by
  intro later allowed holds input answer after answered
  cases looks input later answer after answered
  exact ⟨holds, conduct.refl later,
    goesOn later allowed holds input answer answered⟩

/-- A program whose operations all observe the conduct. -/
theorem Assured.of_issues {condition : port.Op → Prop}
    {program : Program port Error Result} {state : State}
    (issues : program.Issues condition)
    (observes : ∀ op, condition op → ∀ input state answer after,
      conduct.invariant state → adapter op input state = .ok (answer, after) →
        conduct.invariant after ∧ conduct.allows state after) :
    conduct.Assured adapter (fun _ _ => True) program state := by
  induction program generalizing state with
  | done result => trivial
  | fail error => trivial
  | call op next induction =>
      intro later _ holds input answer after answered
      obtain ⟨kept, allowed⟩ :=
        observes op issues.1 input later answer after holds answered
      exact ⟨kept, allowed, induction answer (issues.2 answer)⟩

theorem Assured.map {Next : Type} {change : Result → Next}
    {next : Next → State → Prop} {program : Program port Error Result}
    {state : State} (assured : conduct.Assured adapter post program state)
    (implies : ∀ result state, post result state → next (change result) state) :
    conduct.Assured adapter next (change <$> program) state := by
  induction program generalizing state with
  | done result => exact implies result state assured
  | fail error => trivial
  | call op rest induction =>
      intro later allowed holds input answer after answered
      obtain ⟨kept, changed, goesOn⟩ :=
        assured later allowed holds input answer after answered
      exact ⟨kept, changed, induction answer goesOn⟩

theorem Assured.imp {weaker : Result → State → Prop}
    {program : Program port Error Result} {state : State}
    (assured : conduct.Assured adapter post program state)
    (implies : ∀ result state, post result state → weaker result state) :
    conduct.Assured adapter weaker program state := by
  induction program generalizing state with
  | done result => exact implies result state assured
  | fail error => trivial
  | call op rest induction =>
      intro later allowed holds input answer after answered
      obtain ⟨kept, changed, goesOn⟩ :=
        assured later allowed holds input answer after answered
      exact ⟨kept, changed, induction answer goesOn⟩

theorem Assured.bind {Next : Type} {next : Next → State → Prop}
    {program : Program port Error Result}
    {continuation : Result → Program port Error Next} {state : State}
    (assured : conduct.Assured adapter post program state)
    (goesOn : ∀ result state, post result state →
      conduct.Assured adapter next (continuation result) state) :
    conduct.Assured adapter next (program >>= continuation) state := by
  induction program generalizing state with
  | done result => exact goesOn result state assured
  | fail error => trivial
  | call op rest induction =>
      intro later allowed holds input answer after answered
      obtain ⟨kept, changed, further⟩ :=
        assured later allowed holds input answer after answered
      exact ⟨kept, changed, induction answer further⟩

/-- What is left to do keeps a stable postcondition of the result. -/
theorem Assured.finish {condition : port.Op → Prop}
    {program : Program port Error Unit} {state : State} {result : Result}
    (issues : program.Issues condition)
    (observes : ∀ op, condition op → ∀ input state answer after,
      conduct.invariant state → adapter op input state = .ok (answer, after) →
        conduct.invariant after ∧ conduct.allows state after)
    (stable : conduct.Stable post) (holds : post result state) :
    conduct.Assured adapter post (program >>= fun _ => .done result) state := by
  induction program generalizing state with
  | done ended => exact holds
  | fail error => trivial
  | call op next induction =>
      intro later allowed invariant input answer after answered
      obtain ⟨kept, changed⟩ :=
        observes op issues.1 input later answer after invariant answered
      refine ⟨kept, changed, induction answer (issues.2 answer) ?_⟩
      exact stable result later after changed
        (stable result state later allowed holds)

theorem Assured.later {program : Program port Error Result}
    {before after : State} (stable : conduct.Stable post)
    (assured : conduct.Assured adapter post program before)
    (allowed : conduct.allows before after) :
    conduct.Assured adapter post program after := by
  cases program with
  | done result => exact stable result before after allowed assured
  | fail error => trivial
  | call op next =>
      intro later allowedLater
      exact assured later
        (conduct.trans before after later allowed allowedLater)

/-- A program that has ended with a result has ended as it was assured to. -/
theorem Assured.result {program : Program port Error Result} {state : State}
    {result : Result} (assured : conduct.Assured adapter post program state)
    (ended : program.result? = some result) : post result state := by
  cases program with
  | done other =>
      cases ended
      exact assured
  | fail error => cases ended
  | call op next => cases ended

/-- The next operation of an assured program observes the conduct. -/
theorem Assured.resume {program : Program port Error Result} {state : State}
    (assured : conduct.Assured adapter post program state)
    (holds : conduct.invariant state) (input : Input) :
    conduct.invariant (program.resume adapter input state).2 ∧
      conduct.allows state (program.resume adapter input state).2 ∧
        conduct.Assured adapter post (program.resume adapter input state).1
          (program.resume adapter input state).2 := by
  cases program with
  | done result => exact ⟨holds, conduct.refl state, assured⟩
  | fail error => exact ⟨holds, conduct.refl state, trivial⟩
  | call op next =>
      cases attempt : adapter op input state with
      | error error =>
          rw [Program.resume_call_error next attempt]
          exact ⟨holds, conduct.refl state, trivial⟩
      | ok result =>
          rw [Program.resume_call_ok next attempt]
          exact assured state (conduct.refl state) holds input _ _ attempt

/-! ## Interleavings -/

/-- The invariant holds and every thread is assured of its postcondition. -/
structure Orderly (conduct : Conduct State)
    (adapter : Adapter port Input State Error)
    (posts : Name → Result → State → Prop)
    (config : Config Name port State Error Result) : Prop where
  holds : conduct.invariant config.shared
  assured : ∀ name,
    conduct.Assured adapter (posts name) (config.threads name) config.shared

variable {posts : Name → Result → State → Prop}
  {config : Config Name port State Error Result} [DecidableEq Name]

theorem Orderly.advance (stable : ∀ name, conduct.Stable (posts name))
    (orderly : Orderly conduct adapter posts config) (turn : Name × Input) :
    Orderly conduct adapter posts (config.advance adapter turn) := by
  obtain ⟨holds, allowed, assured⟩ :=
    (orderly.assured turn.1).resume orderly.holds turn.2
  refine ⟨holds, (Config.forall_threads_advance_iff fun name program =>
    conduct.Assured adapter (posts name) program
      (config.advance adapter turn).shared).mpr ⟨assured, ?_⟩⟩
  intro name _
  exact (orderly.assured name).later (stable name) allowed

/-- Every interleaving of orderly threads is orderly. -/
theorem Orderly.play (stable : ∀ name, conduct.Stable (posts name))
    (orderly : Orderly conduct adapter posts config)
    (schedule : List (Name × Input)) :
    Orderly conduct adapter posts (config.play adapter schedule) := by
  have kept (config : Config Name port State Error Result)
      (turn : Name × Input)
      (before : Orderly conduct adapter posts config) :
      Orderly conduct adapter posts (config.advance adapter turn) :=
    before.advance stable turn
  exact Transition.run_invariant kept orderly schedule

end Conduct

end Effects
