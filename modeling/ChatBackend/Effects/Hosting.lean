import ChatBackend.Effects.Inlining
import ChatBackend.Effects.Interleaving

/-!
# Programs that tasks host

Groups of tasks share a part of their states, and the rest is each group's own.
A handler enacts a program on the shared part, with the layers around it acting
on their own part only.

However the tasks of all groups take turns, the programs that they enact are
interleaved: some of the turns are turns of the programs, and what is shared
becomes what these make of it.
-/

namespace Effects

/-- The part of a state that is shared, with the input of the moment. -/
structure Sharing (State Input Shared : Type) where
  get : State → Input × Shared
  set : Input × Shared → State → State
  get_set : ∀ shared state, get (set shared state) = shared
  set_set : ∀ shared other state, set shared (set other state) =
    set shared state

section Hosting

variable {State Input Shared Error Thrown Reply Other Result Next : Type}
  {port : Port}

section Enacting

variable (part : Sharing State Input Shared)
  (adapter : Adapter port Input Shared Error)

/-- What an operation makes of a state, which it leaves where it fails. -/
def Sharing.effect (op : port.Op) (state : State) : State :=
  match adapter op (part.get state).1 (part.get state).2 with
  | .ok (_, after) => part.set ((part.get state).1, after) state
  | .error _ => state

/-- Perform the operations of a program on the shared part. -/
def Program.enact (thrown : Error → Thrown) :
    Program port Error Result → ActProgram State Thrown Result
  | .done result => .done result
  | .fail error => .fail (thrown error)
  | .call op next => .call (part.effect adapter op) fun state =>
      match adapter op (part.get state).1 (part.get state).2 with
      | .ok (answer, _) => (next answer).enact thrown
      | .error error => .fail (thrown error)

/--
Acts carry out a program of the port on the shared part, whatever it has become,
and otherwise change only the part of their own, which is that of a state.  When
both have come to their ends, these are as expected.
-/
inductive Hosts
    (post : Except Error Reply → Except Thrown Result → State → Prop) :
    Program port Error Reply → ActProgram State Thrown Result → State → Prop
  | ended {inner : Program port Error Reply}
      {outer : ActProgram State Thrown Result} {own : State}
      {outcome : Except Error Reply} {result : Except Thrown Result}
      (ended : inner.outcome? = some outcome)
      (resulted : outer.outcome? = some result)
      (holds : post outcome result own) : Hosts post inner outer own
  | aside {inner : Program port Error Reply} {change : State → State}
      {next : State → ActProgram State Thrown Result} {own : State}
      (keeps : ∀ shared,
        change (part.set shared own) = part.set shared (change own))
      (goesOn : ∀ shared,
        Hosts post inner (next (part.set shared own)) (change own)) :
      Hosts post inner (.call change next) own
  | answers {op : port.Op}
      {rest : port.Answer op → Program port Error Reply}
      {next : State → ActProgram State Thrown Result} {own : State}
      (goesOn : ∀ shared : Input × Shared,
        Hosts post
          ((Program.call op rest).resume adapter shared.1 shared.2).1
          (next (part.set shared own)) own) :
      Hosts post (.call op rest) (.call (part.effect adapter op) next) own

end Enacting

/-! ## How hosts are composed -/

section Composition

variable {part : Sharing State Input Shared}
  {adapter : Adapter port Input Shared Error}
  {post : Except Error Reply → Except Thrown Result → State → Prop}
  {inner : Program port Error Reply}
  {outer : ActProgram State Thrown Result} {own : State}

/-- The effect of an operation is what its turn makes of the shared part. -/
theorem effect_set (op : port.Op)
    (rest : port.Answer op → Program port Error Reply)
    (shared : Input × Shared) (own : State) :
    part.effect adapter op (part.set shared own) =
      part.set (shared.1,
        ((Program.call op rest).resume adapter shared.1 shared.2).2) own := by
  unfold Sharing.effect
  rw [part.get_set]
  cases answered : adapter op shared.1 shared.2 with
  | error error =>
      rw [Program.resume_call_error rest answered]
  | ok result =>
      rw [Program.resume_call_ok rest answered]
      exact part.set_set _ _ _

theorem Program.enact_call (thrown : Error → Thrown) (op : port.Op)
    (next : port.Answer op → Program port Error Reply) :
    (Program.call op next).enact part adapter thrown =
      .call (part.effect adapter op) fun state =>
        match adapter op (part.get state).1 (part.get state).2 with
        | .ok (answer, _) => (next answer).enact part adapter thrown
        | .error error => .fail (thrown error) := by
  rw [Program.enact]

/-- An enacted program is hosted, with its replies changed or not. -/
theorem Hosts.enact (thrown : Error → Thrown) (change : Reply → Other)
    (program : Program port Error Reply) (own : State) :
    Hosts part adapter
      (fun outcome result state => state = own ∧
        ∃ first : Except Error Reply, outcome = first.map change ∧
          result = first.mapError thrown)
      (change <$> program) (program.enact part adapter thrown) own := by
  induction program with
  | done reply => exact .ended rfl rfl ⟨rfl, .ok reply, rfl, rfl⟩
  | fail error => exact .ended rfl rfl ⟨rfl, .error error, rfl, rfl⟩
  | call op next induction =>
      rw [Program.map_call, Program.enact_call]
      refine .answers fun shared => ?_
      rw [part.get_set]
      cases answered : adapter op shared.1 shared.2 with
      | error error =>
          rw [Program.resume_call_error _ answered]
          exact .ended rfl rfl ⟨rfl, .error error, rfl, rfl⟩
      | ok result =>
          rw [Program.resume_call_ok _ answered]
          exact induction result.1

/-- What has been hosted goes on as acts that host no more or the rest. -/
theorem Hosts.attempt_bind
    {after : Except Error Reply → Except Thrown Next → State → Prop}
    {next : Except Thrown Result → ActProgram State Thrown Next}
    (hosts : Hosts part adapter post inner outer own)
    (goesOn : ∀ inner outcome result own,
      Program.outcome? inner = some outcome → post outcome result own →
        Hosts part adapter after inner (next result) own) :
    Hosts part adapter after inner (outer.attempt >>= next) own := by
  induction hosts with
  | @ended inner outer own outcome result ended resulted holds =>
      have goesOn := goesOn inner outcome result own ended holds
      cases outer with
      | done value =>
          cases resulted
          exact goesOn
      | fail error =>
          cases resulted
          exact goesOn
      | call change next => cases resulted
  | aside keeps _ induction => exact .aside keeps induction
  | answers _ induction => exact .answers induction

theorem Hosts.imp
    {weaker : Except Error Reply → Except Thrown Result → State → Prop}
    (hosts : Hosts part adapter post inner outer own)
    (holds : ∀ outcome result own, post outcome result own →
      weaker outcome result own) :
    Hosts part adapter weaker inner outer own := by
  induction hosts with
  | ended ended resulted post => exact .ended ended resulted (holds _ _ _ post)
  | aside keeps _ induction => exact .aside keeps induction
  | answers _ induction => exact .answers induction

theorem Hosts.map
    {after : Except Error Reply → Except Thrown Next → State → Prop}
    {change : Result → Next}
    (hosts : Hosts part adapter post inner outer own)
    (holds : ∀ outcome result own, post outcome result own →
      after outcome (result.map change) own) :
    Hosts part adapter after inner (change <$> outer) own := by
  induction hosts with
  | @ended inner outer own outcome result ended resulted post =>
      have holds := holds outcome result own post
      cases outer with
      | done value =>
          cases resulted
          exact .ended ended rfl holds
      | fail error =>
          cases resulted
          exact .ended ended rfl holds
      | call change next => cases resulted
  | aside keeps _ induction => exact .aside keeps induction
  | answers _ induction => exact .answers induction

/-- Acts that nothing disturbs do what the hosted program does. -/
theorem Hosts.run (hosts : Hosts part adapter post inner outer own)
    (now : Input × Shared) :
    ∃ after, (outer.run actAdapter () (part.set now own)).2 =
        part.set (now.1, (inner.run adapter now.1 now.2).2) after ∧
      post (inner.run adapter now.1 now.2).1
        (outer.run actAdapter () (part.set now own)).1 after := by
  induction hosts generalizing now with
  | ended ended resulted holds =>
      rw [Program.run_of_outcome? ended, Program.run_of_outcome? resulted]
      exact ⟨_, rfl, holds⟩
  | aside keeps _ induction =>
      have goesOn := induction now now
      rw [← keeps] at goesOn
      exact goesOn
  | @answers op rest next own _ induction =>
      have goesOn := induction now (now.1,
        ((Program.call op rest).resume adapter now.1 now.2).2)
      rw [← effect_set op rest, Program.run_resume] at goesOn
      exact goesOn

end Composition

/-! ## Groups of tasks -/

variable {Name Memory : Type} [DecidableEq Name]

/-- Groups of tasks and what they share. -/
structure Groups (Name State Shared Thrown Result Memory : Type) where
  shared : Shared
  groups : Name → Tasks State Thrown Result Memory

/-- A group whose part of what is shared is brought up to date. -/
def Sharing.load (part : Sharing State Input Shared) (now : Input × Shared)
    (group : Tasks State Thrown Result Memory) :
    Tasks State Thrown Result Memory :=
  { group with state := part.set now group.state }

/-- A task of a group moves on the shared part, at an input. -/
def Groups.step (part : Sharing State Input Shared)
    (launch : Name → Launcher State Thrown Result Memory)
    (all : Groups Name State Shared Thrown Result Memory)
    (turn : Name × Nat × Input) :
    Groups Name State Shared Thrown Result Memory :=
  let moved := Tasks.step (launch turn.1)
    (part.load (turn.2.2, all.shared) (all.groups turn.1)) turn.2.1
  { shared := (part.get moved.state).2
    groups := Function.update all.groups turn.1 moved }

section Simulation

variable {part : Sharing State Input Shared}
  {adapter : Adapter port Input Shared Error}
  {launch : Name → Launcher State Thrown Result Memory}
  {layers : Name → List (LayerProgram State Thrown Result)}
  {handler : Name → ActProgram State Thrown Result}
  {memoryAt : Nat → Memory}
  {post : Name → Except Error Reply → Except Thrown Result → State → Prop}
  {all : Groups Name State Shared Thrown Result Memory}
  {config : Config Name port Shared Error Reply} {name : Name}

/-- What the tasks of a group have still to do hosts the program. -/
def Embodies (part : Sharing State Input Shared)
    (adapter : Adapter port Input Shared Error)
    (layers : List (LayerProgram State Thrown Result))
    (handler : ActProgram State Thrown Result) (memoryAt : Nat → Memory)
    (post : Except Error Reply → Except Thrown Result → State → Prop)
    (group : Tasks State Thrown Result Memory)
    (inner : Program port Error Reply) : Prop :=
  ∃ outer own, Remains layers handler memoryAt group outer ∧
    Hosts part adapter post inner outer own ∧
      ∀ shared, part.set shared group.state = part.set shared own

/-- Every group embodies the program of the thread of its name. -/
structure Simulates (part : Sharing State Input Shared)
    (adapter : Adapter port Input Shared Error)
    (layers : Name → List (LayerProgram State Thrown Result))
    (handler : Name → ActProgram State Thrown Result)
    (memoryAt : Nat → Memory)
    (post : Name → Except Error Reply → Except Thrown Result → State → Prop)
    (all : Groups Name State Shared Thrown Result Memory)
    (config : Config Name port Shared Error Reply) : Prop where
  shared : all.shared = config.shared
  embodies : ∀ name, Embodies part adapter (layers name) (handler name) memoryAt
    (post name) (all.groups name) (config.threads name)

omit [DecidableEq Name] in
/-- A group ends only after its thread has, and as is expected. -/
theorem Simulates.outcome
    (simulates : Simulates part adapter layers handler memoryAt post all config)
    {result : Except Thrown Result}
    (resulted : (all.groups name).outcome 0 = some result) :
    ∃ outcome own, (config.threads name).outcome? = some outcome ∧
      post name outcome result own ∧
      ∀ shared, part.set shared (all.groups name).state =
        part.set shared own := by
  obtain ⟨outer, own, remains, hosts, same⟩ := simulates.embodies name
  have ended := remains.outcome? resulted
  generalize config.threads name = inner at hosts ⊢
  cases hosts with
  | ended inner outer holds =>
      rw [ended] at outer
      cases outer
      exact ⟨_, own, inner, holds, same⟩
  | aside keeps goesOn => cases ended
  | answers goesOn => cases ended

variable (once : ∀ name, ∀ layer ∈ layers name, layer.Once)
  (follows : ∀ name, Tasks.Follows (layers name).length
    (layerBody (layers name) (handler name)) memoryAt (launch name))

include once follows

omit [DecidableEq Name] in
/--
A move of a task is the next turn of the program that is carried, or it leaves
both the program and the shared part.
-/
theorem Embodies.step {group : Tasks State Thrown Result Memory}
    {inner : Program port Error Reply}
    (embodies : Embodies part adapter (layers name) (handler name) memoryAt
      (post name) group inner) (input : Input) (shared : Shared) (task : Nat) :
    let moved :=
      Tasks.step (launch name) (part.load (input, shared) group) task
    ∃ goesOn own,
      Embodies part adapter (layers name) (handler name) memoryAt (post name)
          moved goesOn ∧
        ((goesOn = inner ∧ moved.state = part.set (input, shared) own) ∨
          (goesOn = (inner.resume adapter input shared).1 ∧
            moved.state = part.set
              (input, (inner.resume adapter input shared).2) own)) := by
  obtain ⟨outer, own, remains, hosts, same⟩ := embodies
  have moved := (remains.withState (part.set (input, shared)
    group.state)).step (once name) (follows name) task
  unfold Sharing.load
  rw [same] at moved ⊢
  generalize Tasks.step (launch name) _ task = after at moved ⊢
  dsimp only at moved ⊢
  -- whatever is shared, the own part is that of the state
  have keeps {own : State} {becomes : Input × Shared}
      (stands : after.state = part.set becomes own) (other : Input × Shared) :
      part.set other after.state = part.set other own := by
    rw [stands, part.set_set]
  rcases moved with ⟨idle, still⟩ | ⟨change, next, rfl, acted, goes⟩
  · exact ⟨inner, own, ⟨outer, own, still, hosts, keeps idle⟩,
      .inl ⟨rfl, idle⟩⟩
  · cases hosts with
    | ended _ resulted _ => cases resulted
    | aside kept goesOn =>
        rw [kept] at acted
        exact ⟨inner, change own,
          ⟨_, change own, goes, goesOn _, keeps acted⟩, .inl ⟨rfl, acted⟩⟩
    | @answers op rest next own goesOn =>
        rw [effect_set op rest] at acted
        exact ⟨_, own,
          ⟨_, own, goes, goesOn (input, shared), keeps acted⟩,
          .inr ⟨rfl, acted⟩⟩

theorem Simulates.step
    (simulates : Simulates part adapter layers handler memoryAt post all config)
    (turn : Name × Nat × Input) :
    Simulates part adapter layers handler memoryAt post
        (all.step part launch turn) config ∨
      Simulates part adapter layers handler memoryAt post
        (all.step part launch turn)
        (config.advance adapter (turn.1, turn.2.2)) := by
  obtain ⟨name, task, input⟩ := turn
  obtain ⟨inner, own, embodies, moved⟩ :=
    (simulates.embodies name).step once follows input all.shared task
  unfold Groups.step
  dsimp only
  generalize Tasks.step (launch name) _ task = after at embodies moved ⊢
  have simulated {later : Config Name port Shared Error Reply}
      (here : later.threads name = inner)
      (kept : ∀ other, other ≠ name →
        later.threads other = config.threads other)
      (becomes : (part.get after.state).2 = later.shared) :
      Simulates part adapter layers handler memoryAt post
        { shared := (part.get after.state).2
          groups := Function.update all.groups name after } later := by
    refine ⟨becomes, fun other => ?_⟩
    dsimp only
    by_cases itself : other = name
    · subst itself
      rw [Function.update_self, here]
      exact embodies
    · rw [Function.update_of_ne itself, kept other itself]
      exact simulates.embodies other
  rcases moved with ⟨rfl, idle⟩ | ⟨rfl, acted⟩
  · refine .inl (simulated rfl (fun _ _ => rfl) ?_)
    rw [idle, part.get_set]
    exact simulates.shared
  · rw [simulates.shared] at acted simulated
    refine .inr (simulated (Config.threads_advance_self _ _ _)
      (fun other apart => Config.threads_advance_of_ne apart) ?_)
    rw [acted, part.get_set, Config.advance_shared]

/-- However the tasks take turns, some of these turns are the programs'. -/
theorem Simulates.run
    (simulates : Simulates part adapter layers handler memoryAt post all config)
    (turns : List (Name × Nat × Input)) :
    ∃ schedule : List (Name × Input),
      schedule.Sublist (turns.map fun turn => (turn.1, turn.2.2)) ∧
        Simulates part adapter layers handler memoryAt post
          (Transition.run (Groups.step part launch) all turns)
          (config.play adapter schedule) := by
  induction turns generalizing all config with
  | nil => exact ⟨[], .slnil, simulates⟩
  | cons turn rest induction =>
      rcases simulates.step once follows turn with still | turned
      · obtain ⟨schedule, among, simulated⟩ := induction still
        exact ⟨schedule, among.cons _, simulated⟩
      · obtain ⟨schedule, among, simulated⟩ := induction turned
        exact ⟨_ :: schedule, among.cons_cons _, simulated⟩

/-- The moves of one group are not disturbed where only its tasks take turns. -/
theorem Simulates.outcome_alone
    (simulates : Simulates part adapter layers handler memoryAt post all config)
    (input : Input) (tasks : List Nat) {result : Except Thrown Result}
    (resulted : (Tasks.run (launch name)
      (part.load (input, all.shared) (all.groups name)) tasks).outcome 0 =
        some result) :
    ((Transition.run (Groups.step part launch) all
      (tasks.map fun task => (name, task, input))).groups name).outcome 0 =
        some result := by
  induction tasks generalizing all config with
  | nil => exact resulted
  | cons task rest induction =>
      obtain ⟨inner, own, -, moved⟩ :=
        (simulates.embodies name).step once follows input all.shared task
      -- what the group has after a move is up to date
      have loaded :
          part.load (input, (all.step part launch (name, task, input)).shared)
              ((all.step part launch (name, task, input)).groups name) =
            Tasks.step (launch name)
              (part.load (input, all.shared) (all.groups name)) task := by
        unfold Groups.step
        dsimp only
        rw [Function.update_self]
        generalize Tasks.step (launch name) _ task = after at moved ⊢
        have stands : ∃ shared, after.state = part.set (input, shared) own := by
          rcases moved with ⟨-, idle⟩ | ⟨-, acted⟩
          · exact ⟨_, idle⟩
          · exact ⟨_, acted⟩
        obtain ⟨shared, stands⟩ := stands
        unfold Sharing.load
        rw [stands, part.get_set, part.set_set, ← stands]
      rw [List.map_cons, Transition.run_cons]
      rcases simulates.step once follows (name, task, input) with still | turned
      · exact induction still (loaded ▸ resulted)
      · exact induction turned (loaded ▸ resulted)

/-- Whatever has happened, a group can come to its end. -/
theorem Simulates.exists_outcome
    (simulates : Simulates part adapter layers handler memoryAt post all config)
    (name : Name) (input : Input) :
    ∃ tasks : List Nat, ∃ result,
      ((Transition.run (Groups.step part launch) all
        (tasks.map fun task => (name, task, input))).groups name).outcome 0 =
          some result := by
  obtain ⟨outer, own, remains, -⟩ := simulates.embodies name
  obtain ⟨tasks, result, resulted⟩ := Remains.exists_outcome (once name)
    (follows name) (remains.withState
      (part.set (input, all.shared) (all.groups name).state))
  exact ⟨tasks, result,
    simulates.outcome_alone once follows input tasks resulted⟩

end Simulation

end Hosting

end Effects
