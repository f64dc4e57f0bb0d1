import ChatBackend.Chat.Store
import ChatBackend.Collections.ExpiringHashes
import ChatBackend.Effects.Postcondition
import ChatBackend.Transition.Runs
import Mathlib.Data.Int.Order.Basic

/-!
# The presence store

`RedisPresenceStore` keeps a hash for every user, with a field for every
connection that has shown a sign of life, and lets the hash expire as a whole.
The use cases mark a connection online or offline and publish what that means
for its user.

Redis and the server read one clock.  The commands do not fail.
-/

namespace ChatBackend.Ws.PresenceStore

open Collections
open Effects
open Transition
open ChatBackend.Chat.Store

/-! ## Commands -/

/-- The commands to Redis and the message bus. -/
inductive PresenceOp where
  | hset (key field value : String)
  | expire (key : String) (ttlSec : Int)
  | hdel (key field : String)
  | hlen (key : String)
  | publish (channel : Channel) (event : BusEvent)
deriving DecidableEq, Repr

/-- `hset` and `hdel` count the fields that they add and remove. -/
abbrev PresenceOp.Answer : PresenceOp → Type
  | .hset _ _ _ => Nat
  | .expire _ _ => Bool
  | .hdel _ _ => Nat
  | .hlen _ => Nat
  | .publish _ _ => Unit

abbrev PresencePort : Port where
  Op := PresenceOp
  Answer := PresenceOp.Answer

abbrev PresenceProgram (Result : Type) := Program PresencePort Empty Result

/-- Await one operation of the port. -/
abbrev PresenceOp.await (op : PresenceOp) : PresenceProgram op.Answer :=
  @Program.perform PresencePort Empty op

/-- The hashes that Redis keeps. -/
abbrev RedisHashes := ExpiringHashes String String String Time

structure PresenceState where
  redis : RedisHashes
  published : List (Channel × BusEvent)

def PresenceState.empty : PresenceState where
  redis := .empty
  published := []

def presenceAdapter : Adapter PresencePort Time PresenceState Empty
  | .hset key field value, now, state =>
      .ok ((if (state.redis.hget now key field).isSome then 0 else 1),
        { state with redis := state.redis.hset now key field value })
  | .expire key ttlSec, now, state =>
      .ok ((state.redis.live now key).isSome,
        { state with
          redis := state.redis.expire now key (now + ttlSec * 1000) })
  | .hdel key field, now, state =>
      .ok ((if (state.redis.hget now key field).isSome then 1 else 0),
        { state with redis := state.redis.hdel now key field })
  | .hlen key, now, state => .ok (state.redis.hlen now key, state)
  | .publish channel event, _, state =>
      .ok ((),
        { state with published := state.published ++ [(channel, event)] })

/-! ## The store -/

namespace RedisPresenceStore

def key (userId : String) : String :=
  "presence:" ++ userId

theorem key_injective : Function.Injective key :=
  fun _ _ same => (String.append_right_inj _).mp same

/-- `now` is the reading of `Date.now()`. -/
def markOnline (now : Time) (userId connId : String) (ttlSec : Int) :
    PresenceProgram Unit := do
  let _ ← PresenceOp.await (.hset (key userId) connId (toString now))
  let _ ← PresenceOp.await (.expire (key userId) ttlSec)
  return

def markOffline (userId connId : String) : PresenceProgram Bool := do
  let removed ← PresenceOp.await (.hdel (key userId) connId)
  return decide (0 < removed)

def heartbeat (now : Time) (userId connId : String) (ttlSec : Int) :
    PresenceProgram Unit := do
  let _ ← PresenceOp.await (.hset (key userId) connId (toString now))
  let _ ← PresenceOp.await (.expire (key userId) ttlSec)
  return

def isOnline (userId : String) : PresenceProgram Bool := do
  let count ← PresenceOp.await (.hlen (key userId))
  return decide (0 < count)

/-- The lengths that `Promise.all` collects. -/
def counts : List String → PresenceProgram (List Nat)
  | [] => return []
  | userId :: userIds => do
      let count ← PresenceOp.await (.hlen (key userId))
      let rest ← counts userIds
      return count :: rest

def listOnline (userIds : List String) : PresenceProgram (List String) :=
  if userIds.length = 0 then return [] else do
    let counts ← counts userIds
    return ((userIds.zip counts).filter fun pair => decide (0 < pair.2)).map
      Prod.fst

end RedisPresenceStore

/-! ## The use cases -/

def MarkUserOnline.execute (now : Time) (userId connId : String)
    (ttlSec : Int) : PresenceProgram Unit := do
  RedisPresenceStore.markOnline now userId connId ttlSec
  PresenceOp.await (.publish .presenceGlobal (.presenceOnline userId now))

def MarkUserOffline.execute (now : Time) (userId connId : String) :
    PresenceProgram Unit := do
  let removed ← RedisPresenceStore.markOffline userId connId
  if ¬ removed then return
  let stillOnline ← RedisPresenceStore.isOnline userId
  if ¬ stillOnline then
    PresenceOp.await (.publish .presenceGlobal (.presenceOffline userId now))

def Heartbeat.execute (now : Time) (userId connId : String) (ttlSec : Int) :
    PresenceProgram Unit :=
  RedisPresenceStore.heartbeat now userId connId ttlSec

/-! ## Histories -/

/-- The calls that change the store. -/
inductive PresenceCall where
  | markOnline (userId connId : String)
  | heartbeat (userId connId : String)
  | markOffline (userId connId : String)
deriving DecidableEq, Repr

/-- The program of a call at the time. -/
def PresenceCall.program (ttlSec : Int) (now : Time) :
    PresenceCall → PresenceProgram Unit
  | .markOnline userId connId =>
      RedisPresenceStore.markOnline now userId connId ttlSec
  | .heartbeat userId connId =>
      RedisPresenceStore.heartbeat now userId connId ttlSec
  | .markOffline userId connId =>
      (fun _ => ()) <$> RedisPresenceStore.markOffline userId connId

/-- The call is made at the time. -/
def perform (ttlSec : Int) (state : PresenceState)
    (call : PresenceCall × Time) : PresenceState :=
  ((call.1.program ttlSec call.2).run presenceAdapter call.2 state).2

/-- The store after a history of calls. -/
def stored (ttlSec : Int) (history : List (PresenceCall × Time)) :
    PresenceState :=
  run (perform ttlSec) .empty history

namespace PresenceCall

def userId : PresenceCall → String
  | .markOnline userId _ => userId
  | .heartbeat userId _ => userId
  | .markOffline userId _ => userId

def connId : PresenceCall → String
  | .markOnline _ connId => connId
  | .heartbeat _ connId => connId
  | .markOffline _ connId => connId

/-- The call is a sign of life. -/
def IsSign : PresenceCall → Prop
  | .markOnline _ _ => True
  | .heartbeat _ _ => True
  | .markOffline _ _ => False

instance : DecidablePred IsSign
  | .markOnline _ _ => isTrue trivial
  | .heartbeat _ _ => isTrue trivial
  | .markOffline _ _ => isFalse id

/-- The call is about the connection of the user. -/
def Concerns (call : PresenceCall) (userId connId : String) : Prop :=
  call.userId = userId ∧ call.connId = connId

instance (call : PresenceCall) (userId connId : String) :
    Decidable (call.Concerns userId connId) :=
  inferInstanceAs (Decidable (_ ∧ _))

end PresenceCall

/-! ## What the calls come to -/

/-- The hash of the user has a field for the connection. -/
def Marks (state : PresenceState) (now : Time) (userId connId : String) :
    Prop :=
  (state.redis.hget now (RedisPresenceStore.key userId) connId).isSome

instance (state : PresenceState) (now : Time) (userId connId : String) :
    Decidable (Marks state now userId connId) :=
  inferInstanceAs (Decidable (_ = true))

section Runs

variable {ttlSec : Int} {now later : Time} {state : PresenceState}
  {userId connId : String} {call : PresenceCall}

theorem not_marks_empty : ¬ Marks .empty now userId connId :=
  Bool.false_ne_true

/-- Both signs of life set the field and renew the expiry of the hash. -/
theorem perform_sign (sign : call.IsSign) :
    perform ttlSec state (call, now) =
      { state with
        redis := ExpiringHashes.expire
          (state.redis.hset now (RedisPresenceStore.key call.userId)
            call.connId (toString now))
          now (RedisPresenceStore.key call.userId) (now + ttlSec * 1000) } := by
  cases call with
  | markOnline userId connId => rfl
  | heartbeat userId connId => rfl
  | markOffline userId connId => exact sign.elim

theorem perform_offline (offline : ¬ call.IsSign) :
    perform ttlSec state (call, now) =
      { state with
        redis := state.redis.hdel now (RedisPresenceStore.key call.userId)
          call.connId } := by
  cases call with
  | markOnline userId connId => exact absurd trivial offline
  | heartbeat userId connId => exact absurd trivial offline
  | markOffline userId connId => rfl

/-- A sign of life of another user changes nothing. -/
theorem marks_perform_of_ne (other : call.userId ≠ userId) :
    Marks (perform ttlSec state (call, now)) later userId connId ↔
      Marks state later userId connId := by
  have elsewhere : RedisPresenceStore.key userId ≠
      RedisPresenceStore.key call.userId :=
    fun same => other (RedisPresenceStore.key_injective same).symm
  unfold Marks
  by_cases sign : call.IsSign
  · rw [perform_sign sign, ExpiringHashes.hget_expire_of_ne elsewhere,
      ExpiringHashes.hget_hset_of_ne elsewhere]
  · rw [perform_offline sign, ExpiringHashes.hget_hdel_of_ne elsewhere]

/--
A sign of life keeps every connection of its user that is there, for the time
to live.
-/
theorem marks_perform_sign (sign : call.IsSign) (passed : now ≤ later) :
    Marks (perform ttlSec state (call, now)) later call.userId connId ↔
      later - now < ttlSec * 1000 ∧
        (connId = call.connId ∨ Marks state now call.userId connId) := by
  unfold Marks
  have inTime : later - now < ttlSec * 1000 ↔ later < now + ttlSec * 1000 := by
    rw [Int.sub_lt_iff, Int.add_comm]
  rw [perform_sign sign, ExpiringHashes.hget_expire_hset passed, inTime]
  by_cases early : later < now + ttlSec * 1000
  · by_cases same : connId = call.connId
    · simp [early, same]
    · simp [early, same]
  · simp [early]

theorem marks_perform_offline (offline : ¬ call.IsSign)
    (passed : now ≤ later) :
    Marks (perform ttlSec state (call, now)) later call.userId connId ↔
      connId ≠ call.connId ∧ Marks state later call.userId connId := by
  unfold Marks
  rw [perform_offline offline, ExpiringHashes.hget_hdel passed]
  by_cases same : connId = call.connId
  · simp [same]
  · simp [same]

/-! ## What the store is asked -/

/-- The hash of the user has a field. -/
def Online (state : PresenceState) (now : Time) (userId : String) : Bool :=
  decide (0 < state.redis.hlen now (RedisPresenceStore.key userId))

theorem online_iff :
    Online state now userId = true ↔
      ∃ connId, Marks state now userId connId := by
  unfold Online Marks
  rw [decide_eq_true_eq]
  exact ExpiringHashes.hlen_pos_iff

theorem run_isOnline :
    (RedisPresenceStore.isOnline userId).run presenceAdapter now state =
      (.ok (Online state now userId), state) := rfl

theorem run_counts (userIds : List String) :
    (RedisPresenceStore.counts userIds).run presenceAdapter now state =
      (.ok (userIds.map fun userId =>
        state.redis.hlen now (RedisPresenceStore.key userId)), state) := by
  induction userIds with
  | nil => rfl
  | cons userId userIds induction =>
      unfold RedisPresenceStore.counts
      rw [Program.perform_bind]
      refine (Program.run_call_ok _ rfl).trans ?_
      rw [Program.run_bind, induction]
      rfl

/-- The elements whose value, at the same index, is positive. -/
theorem map_filter_zip (value : String → Nat) (userIds : List String) :
    ((userIds.zip (userIds.map value)).filter
        fun pair => decide (0 < pair.2)).map Prod.fst =
      userIds.filter fun userId => decide (0 < value userId) := by
  induction userIds with
  | nil => rfl
  | cons userId userIds induction =>
      rw [List.map_cons, List.zip_cons_cons, List.filter_cons,
        List.filter_cons]
      dsimp only
      split_ifs
      · rw [List.map_cons, induction]
      · exact induction

theorem run_listOnline (userIds : List String) :
    (RedisPresenceStore.listOnline userIds).run presenceAdapter now state =
      (.ok (userIds.filter (Online state now)), state) := by
  unfold RedisPresenceStore.listOnline
  split_ifs with none
  · rw [List.length_eq_zero_iff.mp none]
    rfl
  · rw [Program.run_bind, run_counts]
    refine congrArg (fun online => (Except.ok online, state)) ?_
    exact map_filter_zip _ userIds

/-! ## What the use cases come to -/

theorem run_markUserOnline :
    (MarkUserOnline.execute now userId connId ttlSec).run presenceAdapter now
        state =
      (.ok (),
        { perform ttlSec state (.markOnline userId connId, now) with
          published := state.published ++
            [(.presenceGlobal, .presenceOnline userId now)] }) := rfl

theorem run_heartbeat :
    (Heartbeat.execute now userId connId ttlSec).run presenceAdapter now
        state =
      (.ok (), perform ttlSec state (.heartbeat userId connId, now)) := rfl

/-- `markOffline` says whether the connection was marked. -/
theorem run_markOffline :
    (RedisPresenceStore.markOffline userId connId).run presenceAdapter now
        state =
      (.ok (decide (Marks state now userId connId)),
        perform ttlSec state (.markOffline userId connId, now)) := by
  refine congrArg (fun removed => (Except.ok removed, _)) ?_
  unfold Marks
  split_ifs with marked
  · simp [marked]
  · simp [marked]

/-- The user is announced if the connection was the last one marked. -/
theorem run_markUserOffline :
    (MarkUserOffline.execute now userId connId).run presenceAdapter now
        state =
      (.ok (),
        let offline :=
          perform ttlSec state (.markOffline userId connId, now)
        if Marks state now userId connId ∧
            Online offline now userId = false then
          { offline with published := state.published ++
            [(.presenceGlobal, .presenceOffline userId now)] }
        else offline) := by
  unfold MarkUserOffline.execute
  rw [Program.run_bind, @run_markOffline ttlSec]
  dsimp only
  by_cases marked : Marks state now userId connId
  · simp only [marked, decide_true, not_true_eq_false, if_false, true_and]
    rw [Program.run_bind, run_isOnline]
    dsimp only
    cases Online (perform ttlSec state (.markOffline userId connId, now)) now
      userId with
    | false => rfl
    | true => rfl
  · simp only [marked, decide_false, Bool.false_eq_true, not_false_eq_true,
      if_true, false_and, if_false]
    rfl

theorem publishes_markUserOffline_iff :
    ((MarkUserOffline.execute now userId connId).run presenceAdapter now
        state).2.published =
      state.published ++ [(.presenceGlobal, .presenceOffline userId now)] ↔
    Marks state now userId connId ∧
      ∀ other, Marks state now userId other → other = connId := by
  have left : Online
      (perform 0 state (.markOffline userId connId, now)) now userId = false ↔
        ∀ other, Marks state now userId other → other = connId := by
    rw [Bool.eq_false_iff, ne_eq, online_iff, not_exists]
    refine forall_congr' fun other => ?_
    have after := @marks_perform_offline 0 now now state other
      (.markOffline userId connId) id le_rfl
    refine after.not.trans ?_
    rw [not_and', ne_eq, not_not]
    exact Iff.rfl
  rw [@run_markUserOffline 0, ← left]
  dsimp only
  split_ifs with last
  · exact iff_of_true rfl last
  · refine iff_of_false ?_ last
    intro longer
    have event := List.append_right_eq_self.mp longer.symm
    cases event

end Runs

end ChatBackend.Ws.PresenceStore
