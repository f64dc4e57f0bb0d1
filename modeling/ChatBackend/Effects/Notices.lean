import ChatBackend.Effects.Interleaving
import ChatBackend.Transition.Registers

/-!
# Notices of a shared value

Threads change a value of the shared state and tell an audience about it, each
in a step of its own.  A turn that tells something is recorded together with
the value that it finds, which need not be the one it tells.

A thread owes a notice of the value if it is about to tell something unless the
value changes first.  If whoever changes the value owes a notice of it from then
on, then the value that the last notice has found is the final one, so the
audience ends up knowing it exactly if the last notice is true.
-/

namespace Effects.Config

variable {Name : Type*} {port : Port}
  {Input State Error Result Told Value : Type}

section Notices

variable (tells : port.Op → Option Told) (value : State → Value)

/-- What a turn tells, and the value that it finds. -/
def notice (config : Config Name port State Error Result)
    (turn : Name × Input) : Option (Told × Value) :=
  (config.pending turn.1).bind fun op =>
    (tells op).map fun told => (told, value config.shared)

theorem map_fst_notice (config : Config Name port State Error Result)
    (turn : Name × Input) :
    (config.notice tells value turn).map Prod.fst =
      (config.pending turn.1).bind tells := by
  unfold notice
  cases config.pending turn.1 with
  | none => rfl
  | some op =>
      rw [Option.bind_some, Option.bind_some]
      cases tells op <;> rfl

variable [DecidableEq Name] (adapter : Adapter port Input State Error)

/-- The notices of a schedule, in their order. -/
def notices (config : Config Name port State Error Result) :
    List (Name × Input) → List (Told × Value)
  | [] => []
  | turn :: rest =>
      (config.notice tells value turn).toList ++
        notices (config.advance adapter turn) rest

theorem notices_concat (config : Config Name port State Error Result)
    (schedule : List (Name × Input)) (turn : Name × Input) :
    config.notices tells value adapter (schedule ++ [turn]) =
      config.notices tells value adapter schedule ++
        ((config.play adapter schedule).notice tells value turn).toList := by
  induction schedule generalizing config with
  | nil => simp [notices, play]
  | cons first rest induction =>
      rw [List.cons_append, notices, notices, induction, List.append_assoc]
      rfl

/-- What the notices tell is what the turns are about to tell. -/
theorem map_fst_notices (config : Config Name port State Error Result)
    (schedule : List (Name × Input)) :
    (config.notices tells value adapter schedule).map Prod.fst =
      Transition.emitted (advance adapter)
        (fun config turn => (config.pending turn.1).bind tells) config
        schedule := by
  induction schedule generalizing config with
  | nil => rfl
  | cons first rest induction =>
      rw [notices, Transition.emitted, List.map_append, induction,
        ← Option.toList_map, map_fst_notice]

end Notices

/-- The value that the last notice has found, or else the initial one. -/
def noted (initial : Value) (notices : List (Told × Value)) : Value :=
  (notices.getLast?.map Prod.snd).getD initial

theorem noted_append_none (initial : Value) (notices : List (Told × Value)) :
    noted initial (notices ++ (none : Option (Told × Value)).toList) =
      noted initial notices := by
  rw [Option.toList_none, List.append_nil]

theorem noted_append_some (initial found : Value) (told : Told)
    (notices : List (Told × Value)) :
    noted initial (notices ++ (some (told, found)).toList) = found := by
  simp [noted]

section Owing

variable [DecidableEq Name]

/--
What the threads of a valid configuration do about notices, in a fair turn.
-/
structure Owing (tells : port.Op → Option Told) (value : State → Value)
    (adapter : Adapter port Input State Error)
    (owes : Program port Error Result → Value → Prop)
    (valid : Config Name port State Error Result → Prop)
    (fair : Config Name port State Error Result → Name × Input → Prop) :
    Prop where
  /-- Who owes a notice has not finished. -/
  busy : ∀ program current, owes program current → ¬ program.Finished
  stays : ∀ config turn, valid config → fair config turn →
    valid (config.advance adapter turn)
  /-- To tell something changes nothing. -/
  told : ∀ config turn, valid config → fair config turn →
    config.notice tells value turn ≠ none →
      value (config.advance adapter turn).shared = value config.shared
  /-- To change the value without telling is to owe a notice of it. -/
  changed : ∀ config turn, valid config → fair config turn →
    config.notice tells value turn = none →
      value (config.advance adapter turn).shared ≠ value config.shared →
        owes ((config.advance adapter turn).threads turn.1)
          (value (config.advance adapter turn).shared)
  /-- A notice is owed until it is given or the value changes. -/
  kept : ∀ config turn, valid config → fair config turn →
    config.notice tells value turn = none →
      value (config.advance adapter turn).shared = value config.shared →
        owes (config.threads turn.1) (value config.shared) →
          owes ((config.advance adapter turn).threads turn.1)
            (value config.shared)

variable {tells : port.Op → Option Told} {value : State → Value}
  {adapter : Adapter port Input State Error}
  {owes : Program port Error Result → Value → Prop}
  {valid : Config Name port State Error Result → Prop}
  {fair : Config Name port State Error Result → Name × Input → Prop}
  {start config : Config Name port State Error Result}

/-- The value is the one last noted, or a notice of it is owed. -/
def Accounted (value : State → Value)
    (owes : Program port Error Result → Value → Prop) (last : Value)
    (config : Config Name port State Error Result) : Prop :=
  value config.shared = last ∨
    ∃ name, owes (config.threads name) (value config.shared)

theorem Accounted.advance
    (owing : Owing tells value adapter owes valid fair) {last : Value}
    {turn : Name × Input} (holds : valid config) (fairly : fair config turn)
    (untold : config.notice tells value turn = none)
    (accounted : Accounted value owes last config) :
    Accounted value owes last (config.advance adapter turn) := by
  by_cases same :
      value (config.advance adapter turn).shared = value config.shared
  · rcases accounted with noted | ⟨name, owed⟩
    · exact .inl (same.trans noted)
    · refine .inr ⟨name, ?_⟩
      rw [same]
      by_cases here : name = turn.1
      · subst here
        exact owing.kept config turn holds fairly untold same owed
      · rw [threads_advance_of_ne here]
        exact owed
  · exact .inr ⟨turn.1, owing.changed config turn holds fairly untold same⟩

theorem accounted_play (owing : Owing tells value adapter owes valid fair)
    (holds : valid start) (schedule : List (Name × Input))
    (fairly : Transition.Along (advance adapter) fair start schedule) :
    valid (start.play adapter schedule) ∧
      Accounted value owes
        (noted (value start.shared)
          (start.notices tells value adapter schedule))
        (start.play adapter schedule) := by
  induction schedule using List.reverseRecOn with
  | nil => exact ⟨holds, .inl rfl⟩
  | append_singleton schedule turn induction =>
      rcases Transition.along_append.mp fairly with ⟨earlier, last, -⟩
      rcases induction earlier with ⟨holdsBefore, accounted⟩
      rw [play_concat, notices_concat]
      refine ⟨owing.stays _ turn holdsBefore last, ?_⟩
      cases told : (start.play adapter schedule).notice tells value turn with
      | none =>
          rw [noted_append_none]
          exact accounted.advance owing holdsBefore last told
      | some entry =>
          rcases entry with ⟨said, found⟩
          rw [noted_append_some]
          left
          rw [owing.told _ turn holdsBefore last (by rw [told]; nofun)]
          unfold notice at told
          rcases Option.bind_eq_some_iff.mp told with ⟨op, -, mapped⟩
          rcases Option.map_eq_some_iff.mp mapped with ⟨_, -, equal⟩
          exact congrArg Prod.snd equal

/-- Once all threads are at rest, the last notice has found the value. -/
theorem value_eq_noted (owing : Owing tells value adapter owes valid fair)
    (holds : valid start) (schedule : List (Name × Input))
    (fairly : Transition.Along (advance adapter) fair start schedule)
    (rest : (start.play adapter schedule).Quiescent) :
    value (start.play adapter schedule).shared =
      noted (value start.shared)
        (start.notices tells value adapter schedule) := by
  rcases (accounted_play owing holds schedule fairly).2 with
    same | ⟨name, owed⟩
  · exact same
  · exact absurd (rest name) (owing.busy _ _ owed)

end Owing

end Effects.Config
