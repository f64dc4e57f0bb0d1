import ChatBackend.Effects.Interleaving

/-!
# Traces of programs

The trace of a program lists the operations on which it has been answered, each
with its answer.  A program heeds a condition if it issues every operation only
after a trace that the condition allows, and it concludes with a postcondition
if it ends only after such a trace.  Both are about every answer, so they hold
of a thread in every interleaving, whatever the other threads do.

A program may also use operations that answer with an error instead of failing.
What it then throws can be caught.
-/

namespace Effects

/-- Operations and what they were answered, in their order. -/
abbrev Trace (port : Port) := List (Σ op : port.Op, port.Answer op)

namespace Program

variable {port larger : Port} {Input State Error Thrown Result Next : Type}

/-! ## Conditions on traces -/

/-- Every operation is issued after a trace that the condition allows. -/
def Heeds (condition : Trace port → port.Op → Prop) :
    Program port Error Result → Trace port → Prop
  | .done _, _ => True
  | .fail _, _ => True
  | .call op next, trace => condition trace op ∧
      ∀ answer, (next answer).Heeds condition (trace ++ [⟨op, answer⟩])

/-- However it is answered, the program ends after such a trace. -/
def Concludes (post : Trace port → Except Error Result → Prop) :
    Program port Error Result → Trace port → Prop
  | .done result, trace => post trace (.ok result)
  | .fail error, trace => post trace (.error error)
  | .call op next, trace =>
      ∀ answer, (next answer).Concludes post (trace ++ [⟨op, answer⟩])

section Rules

variable {condition : Trace port → port.Op → Prop}
  {post : Trace port → Except Error Result → Prop}
  {program : Program port Error Result} {trace : Trace port}

theorem Heeds.perform_bind {op : port.Op}
    {continuation : port.Answer op → Program port Error Result}
    (allowed : condition trace op)
    (goesOn : ∀ answer,
      (continuation answer).Heeds condition (trace ++ [⟨op, answer⟩])) :
    ((perform op : Program port Error (port.Answer op)) >>=
      continuation).Heeds condition trace :=
  ⟨allowed, goesOn⟩

/-- What the first part concludes with, the second may rely on. -/
theorem Heeds.bind {continuation : Result → Program port Error Next}
    (heeds : program.Heeds condition trace)
    (concludes : program.Concludes post trace)
    (goesOn : ∀ trace result, post trace (.ok result) →
      (continuation result).Heeds condition trace) :
    (program >>= continuation).Heeds condition trace := by
  induction program generalizing trace with
  | done result => exact goesOn trace result concludes
  | fail error => trivial
  | call op next induction =>
      exact ⟨heeds.1, fun answer =>
        induction answer (heeds.2 answer) (concludes answer)⟩

theorem Heeds.map {change : Result → Next}
    (heeds : program.Heeds condition trace) :
    (change <$> program).Heeds condition trace := by
  induction program generalizing trace with
  | done result => trivial
  | fail error => trivial
  | call op next induction =>
      exact ⟨heeds.1, fun answer => induction answer (heeds.2 answer)⟩

/-- Operations that are always allowed. -/
theorem Issues.heeds {always : port.Op → Prop}
    (issues : program.Issues always)
    (allowed : ∀ op, always op → ∀ trace, condition trace op) :
    program.Heeds condition trace := by
  induction program generalizing trace with
  | done result => trivial
  | fail error => trivial
  | call op next induction =>
      exact ⟨allowed op issues.1 trace, fun answer =>
        induction answer (issues.2 answer)⟩

theorem Concludes.perform_bind {op : port.Op}
    {continuation : port.Answer op → Program port Error Result}
    (goesOn : ∀ answer,
      (continuation answer).Concludes post (trace ++ [⟨op, answer⟩])) :
    ((perform op : Program port Error (port.Answer op)) >>=
      continuation).Concludes post trace :=
  goesOn

theorem Concludes.bind {next : Trace port → Except Error Next → Prop}
    {continuation : Result → Program port Error Next}
    (concludes : program.Concludes post trace)
    (goesOn : ∀ trace result, post trace (.ok result) →
      (continuation result).Concludes next trace)
    (throws : ∀ trace error, post trace (.error error) →
      next trace (.error error)) :
    (program >>= continuation).Concludes next trace := by
  induction program generalizing trace with
  | done result => exact goesOn trace result concludes
  | fail error => exact throws trace error concludes
  | call op rest induction =>
      exact fun answer => induction answer (concludes answer)

theorem Concludes.imp {weaker : Trace port → Except Error Result → Prop}
    (concludes : program.Concludes post trace)
    (implies : ∀ trace outcome, post trace outcome → weaker trace outcome) :
    program.Concludes weaker trace := by
  induction program generalizing trace with
  | done result => exact implies trace _ concludes
  | fail error => exact implies trace _ concludes
  | call op next induction =>
      exact fun answer => induction answer (concludes answer)

theorem Concludes.and {other : Trace port → Except Error Result → Prop}
    (concludes : program.Concludes post trace)
    (also_ : program.Concludes other trace) :
    program.Concludes
      (fun trace outcome => post trace outcome ∧ other trace outcome) trace := by
  induction program generalizing trace with
  | done result => exact ⟨concludes, also_⟩
  | fail error => exact ⟨concludes, also_⟩
  | call op next induction =>
      exact fun answer => induction answer (concludes answer) (also_ answer)

/-- Operations that keep an invariant of the trace conclude with it. -/
theorem Issues.concludes {always : port.Op → Prop}
    {invariant : Trace port → Prop} (issues : program.Issues always)
    (kept : ∀ op, always op → ∀ answer trace, invariant trace →
      invariant (trace ++ [⟨op, answer⟩]))
    (holds : invariant trace) :
    program.Concludes (fun trace _ => invariant trace) trace := by
  induction program generalizing trace with
  | done result => exact holds
  | fail error => exact holds
  | call op next induction =>
      exact fun answer => induction answer (issues.2 answer)
        (kept op issues.1 answer trace holds)

end Rules

/-! ## Errors that are thrown and caught -/

/-- The program with what it throws as a result. -/
def attempt {Caught : Type} :
    Program port Error Result → Program port Caught (Except Error Result)
  | .done result => .done (.ok result)
  | .fail error => .done (.error error)
  | .call op next => .call op fun answer => (next answer).attempt

theorem Concludes.attempt_bind {Caught : Type}
    {post : Trace port → Except Error Result → Prop}
    {next : Trace port → Except Caught Next → Prop}
    {program : Program port Error Result} {trace : Trace port}
    {continuation : Except Error Result → Program port Caught Next}
    (concludes : program.Concludes post trace)
    (goesOn : ∀ trace outcome, post trace outcome →
      (continuation outcome).Concludes next trace) :
    (program.attempt >>= continuation).Concludes next trace := by
  induction program generalizing trace with
  | done result => exact goesOn trace (.ok result) concludes
  | fail error => exact goesOn trace (.error error) concludes
  | call op rest induction =>
      exact fun answer => induction answer (concludes answer)

end Program

/--
How the operations of a port are found among those of another one that answer
with what they throw.
-/
structure Port.Fallible (port larger : Port) (Thrown : Type) where
  op : port.Op → larger.Op
  answer : ∀ issued,
    larger.Answer (op issued) → Except Thrown (port.Answer issued)

namespace Program

variable {port larger : Port} {Error Thrown Result : Type}

/-- The program that throws the errors it is answered with. -/
def raise (fallible : port.Fallible larger Thrown) (thrown : Error → Thrown) :
    Program port Error Result → Program larger Thrown Result
  | .done result => .done result
  | .fail error => .fail (thrown error)
  | .call op next => .call (fallible.op op) fun answered =>
      match fallible.answer op answered with
      | .ok answer => (next answer).raise fallible thrown
      | .error error => .fail error

/-- Whatever is issued comes from the smaller port. -/
theorem issues_raise {condition : larger.Op → Prop}
    {fallible : port.Fallible larger Thrown} (thrown : Error → Thrown)
    (program : Program port Error Result)
    (holds : ∀ op, condition (fallible.op op)) :
    (program.raise fallible thrown).Issues condition := by
  induction program with
  | done result => trivial
  | fail error => trivial
  | call op next induction =>
      unfold raise
      refine ⟨holds op, fun answered => ?_⟩
      beta_reduce
      cases fallible.answer op answered with
      | ok answer => exact induction answer
      | error error => trivial

/-- An operation that may throw, and what follows if it does not. -/
theorem Concludes.raise_perform_bind {Answer Next : Type}
    {post : Trace larger → Except Thrown Next → Prop} {trace : Trace larger}
    {fallible : port.Fallible larger Thrown} {thrown : Error → Thrown}
    {op : port.Op}
    {continuation : port.Answer op → Program port Error Answer}
    {rest : Answer → Program larger Thrown Next}
    (throws : ∀ answered error, fallible.answer op answered = .error error →
      post (trace ++ [⟨fallible.op op, answered⟩]) (.error error))
    (goesOn : ∀ answered answer, fallible.answer op answered = .ok answer →
      ((continuation answer).raise fallible thrown >>= rest).Concludes post
        (trace ++ [⟨fallible.op op, answered⟩])) :
    (((perform op : Program port Error (port.Answer op)) >>=
      continuation).raise fallible thrown >>= rest).Concludes post trace := by
  rw [Program.perform_bind, raise, call_bind]
  intro answered
  beta_reduce
  cases outcome : fallible.answer op answered with
  | ok answer => exact goesOn answered answer outcome
  | error error => exact throws answered error outcome

end Program

/-! ## Traces of threads -/

namespace Config

variable {Name : Type*} {port : Port} {Input State Error Result : Type}

/-- What a turn adds to the trace of the thread whose turn it is. -/
def answered (adapter : Adapter port Input State Error)
    (config : Config Name port State Error Result) (turn : Name × Input) :
    Trace port :=
  match config.pending turn.1 with
  | none => []
  | some op =>
      match adapter op turn.2 config.shared with
      | .ok (answer, _) => [⟨op, answer⟩]
      | .error _ => []

variable [DecidableEq Name]

/-- The trace of the named thread in a schedule. -/
def trace (adapter : Adapter port Input State Error) (name : Name) :
    Config Name port State Error Result → List (Name × Input) → Trace port
  | _, [] => []
  | config, turn :: rest =>
      (if turn.1 = name then config.answered adapter turn else []) ++
        trace adapter name (config.advance adapter turn) rest

variable {adapter : Adapter port Input State Error}
  {start : Config Name port State Error Result}
  {schedule : List (Name × Input)} {name : Name}

theorem trace_concat (turn : Name × Input) :
    start.trace adapter name (schedule ++ [turn]) =
      start.trace adapter name schedule ++
        if turn.1 = name then (start.play adapter schedule).answered adapter turn
        else [] := by
  induction schedule generalizing start with
  | nil => exact (List.append_nil _).trans (List.nil_append _).symm
  | cons first rest induction =>
      rw [List.cons_append, trace, trace, induction, List.append_assoc]
      rfl

omit [DecidableEq Name] in
theorem mem_answered_iff {config : Config Name port State Error Result}
    {turn : Name × Input} {op : port.Op} {answer : port.Answer op} :
    (⟨op, answer⟩ : Σ op, port.Answer op) ∈ config.answered adapter turn ↔
      config.pending turn.1 = some op ∧
        ∃ after, adapter op turn.2 config.shared = .ok (answer, after) := by
  unfold answered
  cases config.pending turn.1 with
  | none => simp
  | some issued =>
      dsimp only
      rw [Option.some.injEq]
      cases attempt : adapter issued turn.2 config.shared with
      | error error =>
          refine iff_of_false List.not_mem_nil ?_
          rintro ⟨rfl, after, answers⟩
          cases attempt.symm.trans answers
      | ok result =>
          dsimp only
          rw [List.mem_singleton, Sigma.mk.injEq]
          constructor
          · rintro ⟨rfl, same⟩
            exact ⟨rfl, result.2, attempt.trans (by rw [eq_of_heq same])⟩
          · rintro ⟨rfl, after, answers⟩
            cases attempt.symm.trans answers
            exact ⟨rfl, HEq.rfl⟩

/-- In the trace is what the thread has performed. -/
theorem mem_trace_iff {op : port.Op} {answer : port.Answer op} :
    (⟨op, answer⟩ : Σ op, port.Answer op) ∈ start.trace adapter name schedule ↔
      ∃ input, start.Performs adapter schedule name op input answer := by
  induction schedule using List.reverseRecOn with
  | nil => exact iff_of_false List.not_mem_nil fun ⟨_, done⟩ => performs_nil done
  | append_singleton schedule turn induction =>
      rw [trace_concat, List.mem_append, induction]
      constructor
      · rintro (⟨input, earlier⟩ | now)
        · exact ⟨input, earlier.concat turn⟩
        · split_ifs at now with same
          · obtain ⟨waits, answers⟩ := mem_answered_iff.mp now
            subst same
            exact ⟨turn.2, performs_concat_iff.mpr (.inr ⟨rfl, waits, answers⟩)⟩
          · cases now
      · rintro ⟨input, performs⟩
        rcases performs_concat_iff.mp performs with
          earlier | ⟨rfl, waits, answers⟩
        · exact .inl ⟨input, earlier⟩
        · rw [if_pos rfl]
          exact .inr (mem_answered_iff.mpr ⟨waits, answers⟩)

/-- A program stays as its trace has it, whatever an operation comes to. -/
structure Preserved (holds : Trace port → Program port Error Result → Prop) :
    Prop where
  throws : ∀ trace op next error, holds trace (.call op next) →
    holds trace (.fail error)
  goesOn : ∀ trace op next answer, holds trace (.call op next) →
    holds (trace ++ [⟨op, answer⟩]) (next answer)

section Preserved

variable {holds : Trace port → Program port Error Result → Prop}

theorem thread_advance (preserved : Preserved holds)
    {config : Config Name port State Error Result} {turn : Name × Input}
    {trace : Trace port} (before : holds trace (config.threads turn.1)) :
    holds (trace ++ config.answered adapter turn)
      ((config.advance adapter turn).threads turn.1) := by
  rw [threads_advance_self]
  unfold answered pending
  cases program : config.threads turn.1 with
  | done result =>
      rw [program] at before
      exact (List.append_nil trace).symm ▸ before
  | fail error =>
      rw [program] at before
      exact (List.append_nil trace).symm ▸ before
  | call op next =>
      rw [program] at before
      dsimp only [Program.pending]
      cases attempt : adapter op turn.2 config.shared with
      | error error =>
          rw [Program.resume_call_error next attempt]
          dsimp only
          rw [List.append_nil]
          exact preserved.throws trace op next error before
      | ok result =>
          rw [Program.resume_call_ok next attempt]
          exact preserved.goesOn trace op next result.1 before

/-- What is preserved, holds of a thread in every interleaving. -/
theorem thread_play (preserved : Preserved holds)
    (starts : holds [] (start.threads name))
    (schedule : List (Name × Input)) :
    holds (start.trace adapter name schedule)
      ((start.play adapter schedule).threads name) := by
  induction schedule using List.reverseRecOn with
  | nil => exact starts
  | append_singleton schedule turn induction =>
      rw [play_concat, trace_concat]
      by_cases same : turn.1 = name
      · subst same
        rw [if_pos rfl]
        exact thread_advance preserved induction
      · rw [if_neg same, List.append_nil,
          threads_advance_of_ne fun other => same other.symm]
        exact induction

end Preserved

/-- In every interleaving a thread heeds what its program does. -/
theorem heeds_play {condition : Trace port → port.Op → Prop}
    (heeds : (start.threads name).Heeds condition [])
    (schedule : List (Name × Input)) :
    ((start.play adapter schedule).threads name).Heeds condition
      (start.trace adapter name schedule) :=
  @thread_play _ _ _ _ _ _ _ _ _ _
    (fun trace program => program.Heeds condition trace)
    { throws := fun _ _ _ _ _ => trivial
      goesOn := fun _ _ _ answer heeds => heeds.2 answer } heeds schedule

/-- What a thread is about to issue, its condition allows. -/
theorem allowed_of_pending {condition : Trace port → port.Op → Prop}
    (heeds : (start.threads name).Heeds condition [])
    {op : port.Op}
    (waits : (start.play adapter schedule).pending name = some op) :
    condition (start.trace adapter name schedule) op := by
  have heeded : ((start.play adapter schedule).threads name).Heeds condition
      (start.trace adapter name schedule) := heeds_play heeds schedule
  obtain ⟨next, program⟩ := Program.pending_eq_some_iff.mp waits
  rw [program] at heeded
  exact heeded.1

end Config

/-! ## Threads whose operations cannot fail -/

namespace Config

variable {Name : Type*} {port : Port} {Input State Result : Type}
  [DecidableEq Name] {adapter : Adapter port Input State Empty}
  {start : Config Name port State Empty Result}
  {schedule : List (Name × Input)} {name : Name}
  {post : Trace port → Except Empty Result → Prop}

theorem concludes_play (concludes : (start.threads name).Concludes post [])
    (schedule : List (Name × Input)) :
    ((start.play adapter schedule).threads name).Concludes post
      (start.trace adapter name schedule) :=
  @thread_play _ _ _ _ _ _ _ _ _ _
    (fun trace program => program.Concludes post trace)
    { throws := fun _ _ _ error _ => error.elim
      goesOn := fun _ _ _ answer concludes => concludes answer } concludes
    schedule

/-- A thread that has finished has concluded. -/
theorem concluded (concludes : (start.threads name).Concludes post [])
    (finished : ((start.play adapter schedule).threads name).Finished) :
    ∃ result, post (start.trace adapter name schedule) (.ok result) := by
  have holds : ((start.play adapter schedule).threads name).Concludes post
      (start.trace adapter name schedule) := concludes_play concludes schedule
  cases program : (start.play adapter schedule).threads name with
  | done result =>
      rw [program] at holds
      exact ⟨result, holds⟩
  | fail error => exact error.elim
  | call op next =>
      rw [program] at finished
      cases finished

end Config

end Effects
