import ChatBackend.Effects.Notices
import ChatBackend.Ws.PresenceStore

/-!
# Presence events and the store

`MarkUserOnline` and `MarkUserOffline` change the store in one step and publish
in a later one, and calls for the connections of a user overlap.  A publication
may therefore be overtaken: when it comes, the store need no longer say what it
says.  Nothing is published after the last change of the store without finding
what the store says in the end, so the last event of a user is right exactly if
it has not been overtaken.
-/

namespace ChatBackend.Ws.PresenceEvents

open Collections
open Effects
open Transition
open ChatBackend.Chat.Store
open ChatBackend.Ws.PresenceStore

/-! ## Calls of the store as steps -/

/-- What the use cases of presence await. -/
inductive StoreOp where
  | markOnline (userId connId : String)
  | markOffline (userId connId : String)
  | isOnline (userId : String)
  | publish (channel : Channel) (event : BusEvent)
deriving DecidableEq, Repr

abbrev StoreOp.Answer : StoreOp → Type
  | .markOnline _ _ => Unit
  | .markOffline _ _ => Bool
  | .isOnline _ => Bool
  | .publish _ _ => Unit

abbrev StorePort : Port where
  Op := StoreOp
  Answer := StoreOp.Answer

abbrev StoreProgram (Result : Type) := Program StorePort Empty Result

/-- Await one operation of the port. -/
abbrev StoreOp.await (op : StoreOp) : StoreProgram op.Answer :=
  @Program.perform StorePort Empty op

/-- The commands of a call at the time. -/
def StoreOp.program (ttlSec : Int) (now : Time) :
    (op : StoreOp) → PresenceProgram op.Answer
  | .markOnline userId connId =>
      RedisPresenceStore.markOnline now userId connId ttlSec
  | .markOffline userId connId => RedisPresenceStore.markOffline userId connId
  | .isOnline userId => RedisPresenceStore.isOnline userId
  | .publish channel event => PresenceOp.await (.publish channel event)

/-- Every call of the store is atomic. -/
def storeAdapter (ttlSec : Int) :
    Adapter StorePort Time PresenceState Empty :=
  Program.atomically presenceAdapter (StoreOp.program ttlSec)

/-- `ts` is the reading of `Date.now()` for the event. -/
def MarkUserOnline.steps (ts : Time) (userId connId : String) :
    StoreProgram Unit := do
  StoreOp.await (.markOnline userId connId)
  StoreOp.await (.publish .presenceGlobal (.presenceOnline userId ts))

def MarkUserOffline.steps (ts : Time) (userId connId : String) :
    StoreProgram Unit := do
  let removed ← StoreOp.await (.markOffline userId connId)
  if ¬ removed then return
  let stillOnline ← StoreOp.await (.isOnline userId)
  if ¬ stillOnline then
    StoreOp.await (.publish .presenceGlobal (.presenceOffline userId ts))

/-- The steps of the use case are carried out by its commands. -/
theorem expand_markUserOnline (ttlSec : Int) (now : Time)
    (userId connId : String) :
    (MarkUserOnline.steps now userId connId).expand
        (StoreOp.program ttlSec now) =
      MarkUserOnline.execute now userId connId ttlSec := rfl

theorem expand_markUserOffline (ttlSec : Int) (now : Time)
    (userId connId : String) :
    (MarkUserOffline.steps now userId connId).expand
        (StoreOp.program ttlSec now) =
      MarkUserOffline.execute now userId connId := by
  refine congrArg (Program.call _) (funext fun removed => ?_)
  change Program.expand _ (if _ then _ else _) = if _ then _ else _
  split_ifs with marked
  · refine congrArg (Program.call _) (funext fun count => ?_)
    change Program.expand _ (if _ then _ else _) = if _ then _ else _
    split_ifs
    · rfl
    · rfl
  · rfl

/-! ## Overlapping calls -/

inductive PresenceUse where
  | online (ts : Time) (userId connId : String)
  | offline (ts : Time) (userId connId : String)
deriving DecidableEq, Repr

def PresenceUse.program : PresenceUse → StoreProgram Unit
  | .online ts userId connId => MarkUserOnline.steps ts userId connId
  | .offline ts userId connId => MarkUserOffline.steps ts userId connId

/-- The store and the calls on their way. -/
abbrev PresenceConfig (Name : Type*) :=
  Config Name StorePort PresenceState Empty Unit

/-- All calls at their beginning. -/
def begin {Name : Type*} (calls : Name → PresenceUse) : PresenceConfig Name where
  shared := .empty
  threads name := (calls name).program

/-! ## Specification -/

section Specification

/-- Whether an entry of the bus announces the user as online or offline. -/
def announces (userId : String) : Channel × BusEvent → Option Bool
  | (.presenceGlobal, .presenceOnline other _) =>
      if other = userId then some true else none
  | (.presenceGlobal, .presenceOffline other _) =>
      if other = userId then some false else none
  | _ => none

/-- As what the last event of the user on `presence:global` announces it. -/
def lastAnnounced (state : PresenceState) (userId : String) : Option Bool :=
  (state.published.filterMap (announces userId)).getLast?

/-- The last event of the user is `presence.online` if the user is online. -/
def Converged (state : PresenceState) (now : Time) (userId : String) : Prop :=
  lastAnnounced state userId = some true ↔
    ((RedisPresenceStore.isOnline userId).run presenceAdapter now state).1 =
      .ok true

/-- The hash of the user has not expired. -/
def Unexpired (state : PresenceState) (now : Time) (userId : String) : Prop :=
  ∀ hash ∈ state.redis.entries (RedisPresenceStore.key userId), hash.Alive now

instance (state : PresenceState) (now : Time) (userId : String) :
    Decidable (Unexpired state now userId) :=
  inferInstanceAs (Decidable (∀ _ ∈ state.redis.entries _, _))

/-- As what a publication announces the user. -/
def tells (userId : String) : StoreOp → Option Bool
  | .publish channel event => announces userId (channel, event)
  | _ => none

/-- The store has a connection of the user. -/
def marked (userId : String) (state : PresenceState) : Bool :=
  (state.redis.entries (RedisPresenceStore.key userId)).any
    fun hash => decide (0 < hash.value.size)

variable {Name : Type*} [DecidableEq Name]

/--
As what the publications announce the user, each with whether the store has a
connection of the user when it comes.
-/
abbrev publications (ttlSec : Int) (calls : Name → PresenceUse)
    (schedule : List (Name × Time)) (userId : String) : List (Bool × Bool) :=
  (begin calls).notices (tells userId) (marked userId) (storeAdapter ttlSec)
    schedule

/-- The last publication about the user has been overtaken when it comes. -/
def LastOvertaken (ttlSec : Int) (calls : Name → PresenceUse)
    (schedule : List (Name × Time)) (userId : String) : Prop :=
  ∃ said found, said ≠ found ∧
    (publications ttlSec calls schedule userId).getLast? = some (said, found)

instance (ttlSec : Int) (calls : Name → PresenceUse)
    (schedule : List (Name × Time)) (userId : String) :
    Decidable (LastOvertaken ttlSec calls schedule userId) :=
  inferInstanceAs (Decidable (∃ said found, said ≠ found ∧ _ = some _))

end Specification

/-! ## Steps -/

/-- The program that publishes an event of presence. -/
def announce (event : BusEvent) : StoreProgram Unit :=
  StoreOp.await (.publish .presenceGlobal event)

/-- What is left of `MarkUserOffline` when a connection has been unmarked. -/
def check (ts : Time) (userId : String) : StoreProgram Unit := do
  let stillOnline ← StoreOp.await (.isOnline userId)
  if ¬ stillOnline then announce (.presenceOffline userId ts)

/-- The places at which a call can stand. -/
inductive StandsAt : PresenceUse → StoreProgram Unit → Prop where
  | beforeOnline (ts : Time) (userId connId : String) :
      StandsAt (.online ts userId connId) (MarkUserOnline.steps ts userId connId)
  | announcing (ts : Time) (userId connId : String) :
      StandsAt (.online ts userId connId)
        (announce (.presenceOnline userId ts))
  | beforeOffline (ts : Time) (userId connId : String) :
      StandsAt (.offline ts userId connId)
        (MarkUserOffline.steps ts userId connId)
  | checking (ts : Time) (userId connId : String) :
      StandsAt (.offline ts userId connId) (check ts userId)
  | retracting (ts : Time) (userId connId : String) :
      StandsAt (.offline ts userId connId)
        (announce (.presenceOffline userId ts))
  | ended (use : PresenceUse) : StandsAt use (.done ())

/-- The steps of a call: from where to where, and what is left of the store. -/
inductive Moves (ttlSec : Int) (now : Time) (state : PresenceState) :
    PresenceUse → StoreProgram Unit → StoreProgram Unit → PresenceState →
      Prop where
  | marks (ts : Time) (userId connId : String) :
      Moves ttlSec now state (.online ts userId connId)
        (MarkUserOnline.steps ts userId connId)
        (announce (.presenceOnline userId ts))
        (perform ttlSec state (.markOnline userId connId, now))
  | announces (ts : Time) (userId connId : String) :
      Moves ttlSec now state (.online ts userId connId)
        (announce (.presenceOnline userId ts)) (.done ())
        { state with published := state.published ++
          [(.presenceGlobal, .presenceOnline userId ts)] }
  | unmarks (ts : Time) (userId connId : String)
      (present : Marks state now userId connId) :
      Moves ttlSec now state (.offline ts userId connId)
        (MarkUserOffline.steps ts userId connId) (check ts userId)
        (perform ttlSec state (.markOffline userId connId, now))
  | ignores (ts : Time) (userId connId : String)
      (absent : ¬ Marks state now userId connId) :
      Moves ttlSec now state (.offline ts userId connId)
        (MarkUserOffline.steps ts userId connId) (.done ())
        (perform ttlSec state (.markOffline userId connId, now))
  | findsOnline (ts : Time) (userId connId : String)
      (online : Online state now userId = true) :
      Moves ttlSec now state (.offline ts userId connId) (check ts userId)
        (.done ()) state
  | findsOffline (ts : Time) (userId connId : String)
      (offline : Online state now userId = false) :
      Moves ttlSec now state (.offline ts userId connId) (check ts userId)
        (announce (.presenceOffline userId ts)) state
  | retracts (ts : Time) (userId connId : String) :
      Moves ttlSec now state (.offline ts userId connId)
        (announce (.presenceOffline userId ts)) (.done ())
        { state with published := state.published ++
          [(.presenceGlobal, .presenceOffline userId ts)] }
  | idle (use : PresenceUse) :
      Moves ttlSec now state use (.done ()) (.done ()) state

section Steps

variable {ttlSec : Int} {now : Time} {state after : PresenceState}
  {use : PresenceUse} {program next : StoreProgram Unit} {userId : String}

/-- The answer of `markOffline`, and what it leaves. -/
theorem storeAdapter_markOffline (connId : String) :
    storeAdapter ttlSec (.markOffline userId connId) now state =
      .ok (decide (Marks state now userId connId),
        perform ttlSec state (.markOffline userId connId, now)) := by
  unfold storeAdapter Program.atomically StoreOp.program
  dsimp only
  rw [@run_markOffline ttlSec]

theorem StandsAt.moves (stands : StandsAt use program) (ttlSec : Int)
    (now : Time) (state : PresenceState) :
    ∃ next after,
      program.resume (storeAdapter ttlSec) now state = (next, after) ∧
        Moves ttlSec now state use program next after := by
  cases stands with
  | beforeOnline ts userId connId =>
      exact ⟨_, _, rfl, .marks ts userId connId⟩
  | announcing ts userId connId =>
      exact ⟨_, _, rfl, .announces ts userId connId⟩
  | beforeOffline ts userId connId =>
      have resumed : (MarkUserOffline.steps ts userId connId).resume
          (storeAdapter ttlSec) now state =
            (if ¬ decide (Marks state now userId connId) then .done ()
              else check ts userId,
              perform ttlSec state (.markOffline userId connId, now)) :=
        Program.resume_call_ok _ (storeAdapter_markOffline connId)
      by_cases present : Marks state now userId connId
      · rw [if_neg (by simpa using present)] at resumed
        exact ⟨_, _, resumed, .unmarks ts userId connId present⟩
      · rw [if_pos (by simpa using present)] at resumed
        exact ⟨_, _, resumed, .ignores ts userId connId present⟩
  | checking ts userId connId =>
      have resumed : (check ts userId).resume (storeAdapter ttlSec) now state =
          (if ¬ Online state now userId then
              announce (.presenceOffline userId ts)
            else .done (), state) := rfl
      cases online : Online state now userId with
      | true =>
          rw [online] at resumed
          exact ⟨_, _, resumed, .findsOnline ts userId connId online⟩
      | false =>
          rw [online] at resumed
          exact ⟨_, _, resumed, .findsOffline ts userId connId online⟩
  | retracting ts userId connId =>
      exact ⟨_, _, rfl, .retracts ts userId connId⟩
  | ended use => exact ⟨_, _, rfl, .idle use⟩

theorem Moves.stands (moves : Moves ttlSec now state use program next after) :
    StandsAt use next := by
  cases moves with
  | marks ts userId connId => exact .announcing ts userId connId
  | announces ts userId connId => exact .ended _
  | unmarks ts userId connId present => exact .checking ts userId connId
  | ignores ts userId connId absent => exact .ended _
  | findsOnline ts userId connId online => exact .ended _
  | findsOffline ts userId connId offline => exact .retracting ts userId connId
  | retracts ts userId connId => exact .ended _
  | idle use => exact .ended use

/-! ### What a call does to the marks of a user -/

theorem marked_eq_online (unexpired : Unexpired state now userId) :
    marked userId state = Online state now userId := by
  unfold marked Online ExpiringHashes.hlen Expiring.live
  cases stored : state.redis.entries (RedisPresenceStore.key userId) with
  | none => rfl
  | some hash =>
      have alive : hash.Alive now := unexpired hash stored
      rw [Option.filter_some, if_pos (decide_eq_true alive)]
      rfl

theorem entries_perform_of_ne {call : PresenceCall}
    (other : call.userId ≠ userId) :
    (perform ttlSec state (call, now)).redis.entries
        (RedisPresenceStore.key userId) =
      state.redis.entries (RedisPresenceStore.key userId) := by
  have elsewhere : RedisPresenceStore.key userId ≠
      RedisPresenceStore.key call.userId :=
    fun same => other (RedisPresenceStore.key_injective same).symm
  by_cases sign : call.IsSign
  · rw [perform_sign sign]
    exact (ExpiringHashes.entries_expire_of_ne elsewhere).trans
      (ExpiringHashes.entries_hset_of_ne elsewhere)
  · rw [perform_offline sign]
    exact ExpiringHashes.entries_hdel_of_ne elsewhere

/-- The calls of other users leave the marks of the user. -/
theorem marked_perform_of_ne {call : PresenceCall}
    (other : call.userId ≠ userId) :
    marked userId (perform ttlSec state (call, now)) = marked userId state := by
  unfold marked
  rw [entries_perform_of_ne other]

theorem marked_perform_online (positive : 0 < ttlSec) (connId : String) :
    marked userId (perform ttlSec state (.markOnline userId connId, now)) =
      true := by
  have inTime : now - now < ttlSec * 1000 := by
    rw [Int.sub_self]
    exact Int.mul_pos positive (by decide)
  have alive : Unexpired
      (perform ttlSec state (.markOnline userId connId, now)) now userId := by
    unfold Unexpired
    rw [@perform_sign ttlSec now state (.markOnline userId connId) trivial]
    exact ExpiringHashes.alive_expire_hset
      (Int.lt_add_of_pos_right _ (Int.mul_pos positive (by decide)))
  rw [marked_eq_online alive, online_iff]
  exact ⟨connId, (@marks_perform_sign ttlSec now now state connId
    (.markOnline userId connId) trivial le_rfl).mpr ⟨inTime, .inl rfl⟩⟩

/-- A connection that goes leaves its user marked if there is another one. -/
theorem marked_perform_offline_iff (unexpired : Unexpired state now userId)
    (connId : String) :
    marked userId (perform ttlSec state (.markOffline userId connId, now)) =
        true ↔
      ∃ other, other ≠ connId ∧ Marks state now userId other := by
  have alive : Unexpired
      (perform ttlSec state (.markOffline userId connId, now)) now userId := by
    unfold Unexpired
    rw [@perform_offline ttlSec now state (.markOffline userId connId) id]
    exact ExpiringHashes.alive_hdel unexpired
  rw [marked_eq_online alive, online_iff]
  exact exists_congr fun other => @marks_perform_offline ttlSec now now state
    other (.markOffline userId connId) id le_rfl

theorem published_perform (call : PresenceCall) :
    (perform ttlSec state (call, now)).published = state.published := by
  by_cases sign : call.IsSign
  · rw [perform_sign sign]
  · rw [perform_offline sign]

/-- A step publishes what its operation announces. -/
theorem Moves.published
    (moves : Moves ttlSec now state use program next after) :
    after.published.filterMap (PresenceEvents.announces userId) =
      state.published.filterMap (PresenceEvents.announces userId) ++
        (program.pending.bind (tells userId)).toList := by
  cases moves with
  | marks ts user connId =>
      rw [published_perform]
      exact (List.append_nil _).symm
  | announces ts user connId =>
      rw [List.filterMap_append]
      congr 1
  | unmarks ts user connId present =>
      rw [published_perform]
      exact (List.append_nil _).symm
  | ignores ts user connId absent =>
      rw [published_perform]
      exact (List.append_nil _).symm
  | findsOnline ts user connId online => exact (List.append_nil _).symm
  | findsOffline ts user connId offline => exact (List.append_nil _).symm
  | retracts ts user connId =>
      rw [List.filterMap_append]
      congr 1
  | idle use => exact (List.append_nil _).symm

/-- The marks of a user that a step can change, and those it cannot. -/
theorem Moves.marked (positive : 0 < ttlSec)
    (unexpired : Unexpired state now userId)
    (moves : Moves ttlSec now state use program next after) :
    PresenceEvents.marked userId after = PresenceEvents.marked userId state ∨
      (∃ ts, next = announce (.presenceOnline userId ts) ∧
        PresenceEvents.marked userId after = true) ∨
      ∃ ts, next = check ts userId ∧
        PresenceEvents.marked userId after = false := by
  cases moves with
  | marks ts user connId =>
      by_cases same : user = userId
      · subst same
        exact .inr (.inl ⟨ts, rfl, marked_perform_online positive connId⟩)
      · exact .inl (marked_perform_of_ne same)
  | unmarks ts user connId present =>
      by_cases same : user = userId
      · subst same
        cases left : PresenceEvents.marked user
            (perform ttlSec state (.markOffline user connId, now)) with
        | false => exact .inr (.inr ⟨ts, rfl, rfl⟩)
        | true =>
            rcases (marked_perform_offline_iff unexpired connId).mp left with
              ⟨other, -, marks⟩
            left
            rw [marked_eq_online unexpired]
            exact (online_iff.mpr ⟨other, marks⟩).symm
      · exact .inl (marked_perform_of_ne same)
  | ignores ts user connId absent =>
      left
      by_cases same : user = userId
      · subst same
        rw [Bool.eq_iff_iff, marked_perform_offline_iff unexpired,
          marked_eq_online unexpired, online_iff]
        constructor
        · rintro ⟨other, -, marks⟩
          exact ⟨other, marks⟩
        · rintro ⟨other, marks⟩
          exact ⟨other, fun same => absent (same ▸ marks), marks⟩
      · exact marked_perform_of_ne same
  | announces ts user connId => exact .inl rfl
  | findsOnline ts user connId online => exact .inl rfl
  | findsOffline ts user connId offline => exact .inl rfl
  | retracts ts user connId => exact .inl rfl
  | idle use => exact .inl rfl

end Steps

/-! ## Owed publications -/

/-- The operation settles that the user be announced as the value says. -/
def Settles (userId : String) (value : Bool) : StoreOp → Prop
  | .isOnline other => other = userId ∧ value = false
  | .publish .presenceGlobal (.presenceOnline other _) =>
      other = userId ∧ value = true
  | .publish .presenceGlobal (.presenceOffline other _) =>
      other = userId ∧ value = false
  | _ => False

/-- The call is going to announce the user as the value says. -/
def Owes (userId : String) (program : StoreProgram Unit) (value : Bool) :
    Prop :=
  ∃ op ∈ program.pending, Settles userId value op

/-- Every call stands at one of its places. -/
def Standing {Name : Type*} (calls : Name → PresenceUse)
    (config : PresenceConfig Name) : Prop :=
  ∀ name, StandsAt (calls name) (config.threads name)

section Owing

variable {Name : Type*} [DecidableEq Name] {ttlSec : Int}
  {calls : Name → PresenceUse} {config : PresenceConfig Name} {userId : String}

omit [DecidableEq Name] in
theorem standing_begin : Standing calls (begin calls) := by
  intro name
  change StandsAt (calls name) (calls name).program
  cases calls name with
  | online ts userId connId => exact .beforeOnline ts userId connId
  | offline ts userId connId => exact .beforeOffline ts userId connId

/-- A turn of calls that stand at their places is a step of one of them. -/
theorem Standing.turn (standing : Standing calls config) (ttlSec : Int)
    (turn : Name × Time) :
    ∃ use, Moves ttlSec turn.2 config.shared use (config.threads turn.1)
      ((config.advance (storeAdapter ttlSec) turn).threads turn.1)
      (config.advance (storeAdapter ttlSec) turn).shared := by
  rcases (standing turn.1).moves ttlSec turn.2 config.shared with
    ⟨next, after, resumed, moves⟩
  rw [Config.advance_eq resumed]
  refine ⟨calls turn.1, ?_⟩
  dsimp only
  rw [Function.update_self]
  exact moves

theorem Standing.advance (standing : Standing calls config) (ttlSec : Int)
    (turn : Name × Time) :
    Standing calls (config.advance (storeAdapter ttlSec) turn) := by
  rcases (standing turn.1).moves ttlSec turn.2 config.shared with
    ⟨next, after, resumed, moves⟩
  refine (Config.forall_threads_advance_iff fun name program =>
    StandsAt (calls name) program).mpr ⟨?_, fun name _ => standing name⟩
  rw [resumed]
  exact moves.stands

omit [DecidableEq Name] in
/-- A publication about the user is a notice of it. -/
theorem notice_announce {event : BusEvent} {turn : Name × Time} {said : Bool}
    (stands : config.threads turn.1 = announce event)
    (about : announces userId (.presenceGlobal, event) = some said) :
    config.notice (tells userId) (marked userId) turn =
      some (said, marked userId config.shared) := by
  have waits : config.pending turn.1 =
      some (.publish .presenceGlobal event) := by
    rw [Config.pending, stands]
    rfl
  rw [Config.notice, waits]
  exact congrArg (Option.map _) about

omit [DecidableEq Name] in
/-- A publication changes no mark. -/
theorem marked_eq_of_told {now : Time} {state after : PresenceState}
    {use : PresenceUse} {program next : StoreProgram Unit}
    (moves : Moves ttlSec now state use program next after)
    (told : program.pending.bind (tells userId) ≠ none) :
    marked userId after = marked userId state := by
  cases moves with
  | announces ts user connId => rfl
  | retracts ts user connId => rfl
  | _ => exact absurd rfl told

omit [DecidableEq Name] in
/-- Who owes an announcement makes it, or goes on owing it. -/
theorem owes_or_announces {now : Time} {state after : PresenceState}
    {use : PresenceUse} {program next : StoreProgram Unit}
    (moves : Moves ttlSec now state use program next after)
    (unexpired : Unexpired state now userId)
    (owed : Owes userId program (marked userId state)) :
    Owes userId next (marked userId state) ∨
      ∃ event said, program = announce event ∧
        announces userId (.presenceGlobal, event) = some said := by
  rcases owed with ⟨op, waits, settles⟩
  cases moves with
  | marks ts user connId =>
      cases waits
      exact settles.elim
  | announces ts user connId =>
      cases waits
      rcases settles with ⟨rfl, -⟩
      exact .inr ⟨_, true, rfl, if_pos rfl⟩
  | unmarks ts user connId present =>
      cases waits
      exact settles.elim
  | ignores ts user connId absent =>
      cases waits
      exact settles.elim
  | findsOnline ts user connId online =>
      cases waits
      rcases settles with ⟨rfl, offline⟩
      rw [marked_eq_online unexpired, online] at offline
      cases offline
  | findsOffline ts user connId offline =>
      cases waits
      rcases settles with ⟨rfl, unmarked⟩
      exact .inl ⟨_, rfl, rfl, unmarked⟩
  | retracts ts user connId =>
      cases waits
      rcases settles with ⟨rfl, -⟩
      exact .inr ⟨_, false, rfl, if_pos rfl⟩
  | idle use => cases waits

theorem owing (positive : 0 < ttlSec) (calls : Name → PresenceUse)
    (userId : String) :
    Config.Owing (tells userId) (marked userId) (storeAdapter ttlSec)
      (Owes userId) (Standing calls)
      fun config turn => Unexpired config.shared turn.2 userId where
  busy program value := by
    rintro ⟨op, waits, -⟩ finished
    cases finished.symm.trans waits
  stays config turn standing unexpired := standing.advance ttlSec turn
  told config turn standing unexpired told := by
    rcases standing.turn ttlSec turn with ⟨use, moves⟩
    refine marked_eq_of_told moves fun silent => told ?_
    rw [← Option.map_eq_none_iff, Config.map_fst_notice]
    exact silent
  changed config turn standing unexpired untold changed := by
    rcases standing.turn ttlSec turn with ⟨use, moves⟩
    rcases moves.marked positive unexpired with
      same | ⟨ts, announces, online⟩ | ⟨ts, checks, offline⟩
    · exact absurd same changed
    · rw [announces]
      exact ⟨_, rfl, rfl, online⟩
    · rw [checks]
      exact ⟨_, rfl, rfl, offline⟩
  kept config turn standing unexpired untold same owed := by
    rcases standing.turn ttlSec turn with ⟨use, moves⟩
    rcases owes_or_announces moves unexpired owed with
      still | ⟨event, said, stands, about⟩
    · exact still
    · rw [notice_announce stands about] at untold
      cases untold

/-- What has been published is what the publications have announced. -/
theorem published_play (calls : Name → PresenceUse)
    (schedule : List (Name × Time)) (ttlSec : Int) (userId : String) :
    Standing calls ((begin calls).play (storeAdapter ttlSec) schedule) ∧
      ((begin calls).play (storeAdapter ttlSec)
          schedule).shared.published.filterMap (announces userId) =
        (publications ttlSec calls schedule userId).map Prod.fst := by
  induction schedule using List.reverseRecOn with
  | nil => exact ⟨standing_begin, rfl⟩
  | append_singleton schedule turn induction =>
      rcases induction with ⟨standing, same⟩
      rw [Config.play_concat]
      refine ⟨standing.advance ttlSec turn, ?_⟩
      rcases standing.turn ttlSec turn with ⟨use, moves⟩
      unfold publications at same ⊢
      rw [moves.published, same, Config.notices_concat, List.map_append,
        ← Option.toList_map, Config.map_fst_notice]
      rfl

end Owing

/--
Presence events converge.  When all calls have ended, in whatever order their
steps were taken, the last event published for a user is `presence.online`
exactly if the user is online, if and only if the last publication about the
user was true when it came.
-/
theorem presence_events_converge_iff {Name : Type*} [DecidableEq Name]
    {ttlSec : Int} (positive : 0 < ttlSec) (calls : Name → PresenceUse)
    (schedule : List (Name × Time)) (now : Time) (userId : String)
    (unexpired : Along (Config.advance (storeAdapter ttlSec))
      (fun config turn => Unexpired config.shared turn.2 userId) (begin calls)
        schedule)
    (unexpiredNow : Unexpired
      ((begin calls).play (storeAdapter ttlSec) schedule).shared now userId)
    (rest : ((begin calls).play (storeAdapter ttlSec) schedule).Quiescent) :
    Converged ((begin calls).play (storeAdapter ttlSec) schedule).shared now
        userId ↔
      ¬ LastOvertaken ttlSec calls schedule userId := by
  have found := Config.value_eq_noted (owing positive calls userId)
    standing_begin schedule unexpired rest
  unfold Converged lastAnnounced LastOvertaken
  rw [(published_play calls schedule ttlSec userId).2, run_isOnline,
    ← marked_eq_online unexpiredNow, found, Config.noted,
    List.getLast?_map]
  cases (publications ttlSec calls schedule userId).getLast? with
  | none => simp [marked, begin, PresenceState.empty, Expiring.empty]
  | some last =>
      rcases last with ⟨said, marked⟩
      cases said <;> cases marked <;> simp

/-! ## A publication that is overtaken -/

/-- The connection that a call opens. -/
def PresenceUse.opens : PresenceUse → Option (String × String)
  | .online _ userId connId => some (userId, connId)
  | .offline _ _ _ => none

/-- The connection that a call closes. -/
def PresenceUse.closes : PresenceUse → Option (String × String)
  | .online _ _ _ => none
  | .offline _ userId connId => some (userId, connId)

/-- Every connection is marked online, and done with it, before it is closed. -/
def MarkedFirst {Name : Type*} (calls : Name → PresenceUse)
    (schedule : List (Name × Time)) : Prop :=
  (∀ name, ∀ connection ∈ (calls name).closes,
      ∃ other, (calls other).opens = some connection) ∧
    schedule.Pairwise fun earlier later =>
      ∀ connection ∈ (calls earlier.1).closes,
        (calls later.1).opens ≠ some connection

/-- Ana's phone is opened and closed, and her laptop is opened. -/
inductive Switch where
  | phone
  | phoneGone
  | laptop
deriving DecidableEq

def switching : Switch → PresenceUse
  | .phone => .online 1 "ana" "phone"
  | .phoneGone => .offline 2 "ana" "phone"
  | .laptop => .online 2 "ana" "laptop"

/-- The laptop is open before the phone is closed. -/
def laptopFirst : List (Switch × Time) :=
  [(.phone, 1), (.phone, 1), (.laptop, 2), (.laptop, 2), (.phoneGone, 2),
    (.phoneGone, 2)]

/-- The laptop is opened when no connection has been found for the phone. -/
def laptopBetween : List (Switch × Time) :=
  [(.phone, 1), (.phone, 1), (.phoneGone, 2), (.phoneGone, 2), (.laptop, 2),
    (.laptop, 2), (.phoneGone, 2)]

theorem presence_events_converge_iff_laptopFirst :
    Converged
      ((begin switching).play (storeAdapter 60) laptopFirst).shared 2 "ana" := by
  have rest :
      ((begin switching).play (storeAdapter 60) laptopFirst).Quiescent :=
    fun | .phone => rfl | .phoneGone => rfl | .laptop => rfl
  exact (presence_events_converge_iff (by decide) switching laptopFirst 2 "ana"
    (by decide +kernel) (by decide +kernel) rest).mpr (by decide +kernel)

/-- The event that the phone is gone arrives last, and the laptop is there. -/
theorem presence_events_diverge :
    MarkedFirst switching laptopBetween ∧
      Along (Config.advance (storeAdapter 60))
        (fun config turn => Unexpired config.shared turn.2 "ana")
          (begin switching) laptopBetween ∧
        ((begin switching).play (storeAdapter 60) laptopBetween).Quiescent ∧
          ¬ Converged ((begin switching).play (storeAdapter 60)
            laptopBetween).shared 2 "ana" := by
  refine ⟨⟨?_, by decide⟩, by decide +kernel,
    fun | .phone => rfl | .phoneGone => rfl | .laptop => rfl, ?_⟩
  · rintro (_ | _ | _) connection ⟨⟩
    exact ⟨.phone, rfl⟩
  intro converged
  exact absurd (converged.mpr rfl) (by decide +kernel)

end ChatBackend.Ws.PresenceEvents
