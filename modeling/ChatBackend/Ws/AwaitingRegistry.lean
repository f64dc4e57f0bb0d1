import ChatBackend.Collections.Feed
import ChatBackend.Ws.Registry

/-!
# The registry at its await points

`register` and `subscribeRoom` call `bus.subscribe` and go on when the call
resolves; everything else they do, and all of `unregister` and
`unsubscribeRoom`, happens at once.  An awaiting server keeps the calls that
have not resolved, and the steps of its runs are the calls of the registry and
the resolutions, in any order.  The bus is a correct one: a handler is
installed when its call resolves and taken out when its unsubscribe is called.

Every channel of the bus is a feed that the registry opens on demand.
-/

namespace ChatBackend.Ws.AwaitingRegistry

open Collections
open ChatBackend.Chat.Store
open ChatBackend.Ws.MessageBus
open ChatBackend.Ws.Registry

/-- The channel that a handler is meant for. -/
def channelOf : FanOut → Channel
  | .fanOutBusEvent roomId => .room roomId
  | .fanOutPresence => .presenceGlobal

/-- A server and the handlers of the calls of `bus.subscribe` under way. -/
structure AwaitingServer extends Server where
  pending : List Handler

/-- A server that has just started. -/
def AwaitingServer.start : AwaitingServer where
  toServer := .start
  pending := []

namespace AwaitingServer

/-! ## The calls of the registry -/

/-- Call `bus.subscribe` with a new handler. -/
def callBus (server : AwaitingServer) (body : FanOut) : AwaitingServer :=
  { server with
    nextHandler := server.nextHandler + 1
    pending :=
      server.pending ++ [{ identity := server.nextHandler, body }] }

/-- `register`, up to the resolution of its call. -/
def register (server : AwaitingServer) (ws : Connection) : AwaitingServer :=
  let added := { server with toServer := server.addConn ws }
  match server.presenceUnsub with
  | some _ => added
  | none => added.callBus .fanOutPresence

def unregister (server : AwaitingServer) (ws : Connection) : AwaitingServer :=
  { server with toServer := server.toServer.unregister ws }

/-- `subscribeRoom`, up to its `await`. -/
def subscribeRoom (server : AwaitingServer) (ws : Connection)
    (roomId : String) : AwaitingServer :=
  let added := { server with toServer := server.addLocalSub ws roomId }
  match server.roomBusUnsub.get roomId with
  | some existing =>
      { added with
        roomBusUnsub :=
          added.roomBusUnsub.set roomId
            { existing with refCount := existing.refCount + 1 } }
  | none => added.callBus (.fanOutBusEvent roomId)

def unsubscribeRoom (server : AwaitingServer) (ws : Connection)
    (roomId : String) : AwaitingServer :=
  { server with toServer := server.toServer.unsubscribeRoom ws roomId }

/-- A call of `bus.subscribe` resolves, and its caller goes on. -/
def resolve (server : AwaitingServer) (handler : Handler) : AwaitingServer :=
  if handler ∈ server.pending then
    let (unsub, bus) := server.bus.subscribe (channelOf handler.body) handler
    let resolved :=
      { server with bus, pending := server.pending.erase handler }
    match handler.body with
    | .fanOutBusEvent roomId =>
        { resolved with
          roomBusUnsub :=
            resolved.roomBusUnsub.set roomId { unsub, refCount := 1 } }
    | .fanOutPresence => { resolved with presenceUnsub := some unsub }
  else server

/-- Calls resolve one after another. -/
def resolveAll (server : AwaitingServer) (order : List Handler) :
    AwaitingServer :=
  order.foldl resolve server

end AwaitingServer

/-! ## Runs -/

/-- What happens between two await points. -/
inductive Call where
  | registers (ws : Connection)
  | unregisters (ws : Connection)
  /-- Called for a room that the connection does not list. -/
  | subscribesRoom (ws : Connection) (roomId : String)
  | unsubscribesRoom (ws : Connection) (roomId : String)
  | resolves (handler : Handler)
deriving DecidableEq

/-- One step of a run. -/
def step (server : AwaitingServer) : Call → AwaitingServer
  | .registers ws => server.register ws
  | .unregisters ws => server.unregister ws
  | .subscribesRoom ws roomId =>
      if roomId ∈ server.rooms ws then server
      else server.subscribeRoom ws roomId
  | .unsubscribesRoom ws roomId => server.unsubscribeRoom ws roomId
  | .resolves handler => server.resolve handler

/-! ## What every run keeps -/

/--
Handlers are installed at their own channel or wait for it, never both, and an
entry of the registry takes a handler out of its own channel.
-/
structure Tracked (server : Server) (pending : List Handler) : Prop where
  listening : server.bus.Listening
  bodies : ∀ channel, ∀ handler ∈ server.bus.receivers channel,
    channelOf handler.body = channel
  drawn : ∀ channel, ∀ handler ∈ server.bus.receivers channel,
    handler.identity < server.nextHandler
  called : ∀ handler ∈ pending, handler.identity < server.nextHandler
  waiting : ∀ handler ∈ pending, ∀ channel,
    handler ∉ server.bus.receivers channel
  distinct : pending.Nodup
  roomUnsubs : ∀ roomId, ∀ entry ∈ server.roomBusUnsub.get roomId,
    entry.unsub.channel = .room roomId
  presenceUnsubs : ∀ unsub ∈ server.presenceUnsub,
    unsub.channel = .presenceGlobal
  mirrored : ∀ ws roomId,
    ws ∈ server.subscribers roomId ↔ roomId ∈ server.rooms ws
  keyed : ∀ userId, ∀ conns ∈ server.userConns.get userId,
    conns ≠ ∅ ∧ ∀ ws ∈ conns, ws.userId = userId

theorem tracked_start : Tracked Server.start [] where
  listening := RedisMessageBus.listening_empty
  bodies := nofun
  drawn := nofun
  called := nofun
  waiting := nofun
  distinct := List.nodup_nil
  roomUnsubs := nofun
  presenceUnsubs := nofun
  mirrored := Server.Wired.start.mirrored
  keyed := nofun

namespace Tracked

variable {server : Server} {pending : List Handler}

/-- A handler that has just been drawn is nowhere yet. -/
theorem not_received (tracked : Tracked server pending) (body : FanOut)
    (channel : Channel) :
    { identity := server.nextHandler, body } ∉
      server.bus.receivers channel := by
  intro received
  exact Nat.lt_irrefl _ (tracked.drawn channel _ received)

theorem callBus {server : AwaitingServer}
    (tracked : Tracked server.toServer server.pending) (body : FanOut) :
    Tracked (server.callBus body).toServer (server.callBus body).pending where
  listening := tracked.listening
  bodies := tracked.bodies
  drawn channel handler received :=
    Nat.lt_succ_of_lt (tracked.drawn channel handler received)
  called := by
    intro handler member
    rcases List.mem_append.mp member with old | new
    · exact Nat.lt_succ_of_lt (tracked.called handler old)
    · cases List.mem_singleton.mp new
      exact Nat.lt_succ_self _
  waiting := by
    intro handler member channel
    rcases List.mem_append.mp member with old | new
    · exact tracked.waiting handler old channel
    · cases List.mem_singleton.mp new
      exact tracked.not_received body channel
  distinct := by
    unfold AwaitingServer.callBus
    rw [← List.concat_eq_append]
    apply tracked.distinct.concat
    intro called
    exact Nat.lt_irrefl _ (tracked.called _ called)
  roomUnsubs := tracked.roomUnsubs
  presenceUnsubs := tracked.presenceUnsubs
  mirrored := tracked.mirrored
  keyed := tracked.keyed

/-- The counters play no part. -/
theorem recount (tracked : Tracked server pending) {roomId : String}
    {existing : BusEntry}
    (found : server.roomBusUnsub.get roomId = some existing)
    (refCount : Int) :
    Tracked { server with
      roomBusUnsub :=
        server.roomBusUnsub.set roomId { existing with refCount } }
      pending := by
  refine { tracked with roomUnsubs := ?_ }
  intro other entry
  rw [OrderedMap.get_set]
  split_ifs with same
  · rintro ⟨⟩
    exact same ▸ tracked.roomUnsubs roomId existing found
  · exact tracked.roomUnsubs other entry

theorem addLocalSub (tracked : Tracked server pending) (ws : Connection)
    (roomId : String) : Tracked (server.addLocalSub ws roomId) pending :=
  { tracked with
    mirrored :=
      Server.mirrored_addLocalSub tracked.mirrored ws roomId }

theorem deleteLocalSub (tracked : Tracked server pending) (ws : Connection)
    (roomId : String) : Tracked (server.deleteLocalSub ws roomId) pending :=
  { tracked with
    mirrored :=
      Server.mirrored_deleteLocalSub tracked.mirrored ws roomId }

/-- Taking a handler out leaves the others where they are. -/
theorem callUnsub (tracked : Tracked server pending)
    (unsub : Unsubscribe Handler) :
    Tracked { server with bus := unsub.call server.bus } pending := by
  have fewer (channel : Channel) (handler : Handler)
      (received : handler ∈ (unsub.call server.bus).receivers channel) :
      handler ∈ server.bus.receivers channel := by
    rw [tracked.listening.receivers_call] at received
    split_ifs at received
    · exact List.mem_of_mem_erase received
    · exact received
  exact
    { tracked with
      listening := tracked.listening.call unsub
      bodies := fun channel handler received =>
        tracked.bodies channel handler (fewer channel handler received)
      drawn := fun channel handler received =>
        tracked.drawn channel handler (fewer channel handler received)
      waiting := fun handler called channel received =>
        tracked.waiting handler called channel
          (fewer channel handler received) }

theorem releaseBus (tracked : Tracked server pending) (roomId : String) :
    Tracked (server.releaseBus roomId) pending := by
  unfold Server.releaseBus
  cases found : server.roomBusUnsub.get roomId with
  | none => exact tracked
  | some existing =>
      dsimp only
      split_ifs
      · refine { tracked.callUnsub existing.unsub with roomUnsubs := ?_ }
        intro other entry
        rw [OrderedMap.get_delete]
        split_ifs
        · intro absent
          cases absent
        · exact tracked.roomUnsubs other entry
      · exact tracked.recount found _

theorem unsubscribeRoom (tracked : Tracked server pending) (ws : Connection)
    (roomId : String) : Tracked (server.unsubscribeRoom ws roomId) pending :=
  (tracked.deleteLocalSub ws roomId).releaseBus roomId

theorem unsubscribeRooms (tracked : Tracked server pending) (ws : Connection)
    (roomIds : List String) :
    Tracked (server.unsubscribeRooms ws roomIds) pending := by
  unfold Server.unsubscribeRooms
  induction roomIds generalizing server with
  | nil => exact tracked
  | cons roomId rest induction =>
      exact induction (tracked.unsubscribeRoom ws roomId)

theorem addConn (tracked : Tracked server pending) (ws : Connection) :
    Tracked (server.addConn ws) pending := by
  refine { tracked with keyed := ?_ }
  intro userId conns
  unfold Server.addConn
  dsimp only
  rw [OrderedMap.get_set]
  split_ifs with same
  · rintro ⟨⟩
    constructor
    · intro empty
      exact OrderedSet.eq_empty_iff.mp empty ws
        (OrderedSet.mem_add.mpr (.inr rfl))
    · intro holder member
      rcases OrderedSet.mem_add.mp member with old | rfl
      · cases found : server.userConns.get ws.userId with
        | none =>
            rw [found] at old
            exact absurd old (OrderedSet.not_mem_empty holder)
        | some known =>
            rw [found] at old
            rw [same]
            exact (tracked.keyed ws.userId known found).2 holder old
      · exact same.symm
  · exact tracked.keyed userId conns

theorem deleteConn (tracked : Tracked server pending) (ws : Connection) :
    Tracked (server.deleteConn ws) pending := by
  unfold Server.deleteConn
  cases found : server.userConns.get ws.userId with
  | none => exact tracked
  | some known =>
      refine { tracked with keyed := ?_ }
      intro userId conns
      dsimp only
      split_ifs with last
      · rw [OrderedMap.get_delete]
        split_ifs
        · intro absent
          cases absent
        · exact tracked.keyed userId conns
      · rw [OrderedMap.get_set]
        split_ifs with same
        · rintro ⟨⟩
          constructor
          · rintro empty
            exact last (OrderedSet.size_eq_zero_iff.mpr empty)
          · intro holder member
            rw [same]
            exact (tracked.keyed ws.userId known found).2 holder
              (OrderedSet.mem_delete.mp member).2
        · exact tracked.keyed userId conns

theorem releasePresence (tracked : Tracked server pending) :
    Tracked server.releasePresence pending := by
  unfold Server.releasePresence
  cases server.presenceUnsub with
  | none => exact tracked
  | some unsub =>
      dsimp only
      split_ifs
      · exact { tracked.callUnsub unsub with presenceUnsubs := nofun }
      · exact tracked

/-- A handler of a resolved call is installed and waits no longer. -/
theorem install (tracked : Tracked server pending) {handler : Handler}
    (called : handler ∈ pending) :
    Tracked
      { server with
        bus :=
          (server.bus.subscribe (channelOf handler.body) handler).2 }
      (pending.erase handler) := by
  have absent := tracked.waiting handler called
  have either (channel : Channel) (other : Handler)
      (received : other ∈ (server.bus.subscribe (channelOf handler.body)
        handler).2.receivers channel) :
      other ∈ server.bus.receivers channel ∨
        (other = handler ∧ channel = channelOf handler.body) := by
    rw [tracked.listening.receivers_subscribe (absent _)] at received
    split_ifs at received with same
    · subst same
      simpa using received
    · exact .inl received
  exact
    { tracked with
      listening := tracked.listening.subscribe _ handler
      bodies := by
        intro channel other received
        rcases either channel other received with old | ⟨rfl, rfl⟩
        · exact tracked.bodies channel other old
        · rfl
      drawn := by
        intro channel other received
        rcases either channel other received with old | ⟨rfl, -⟩
        · exact tracked.drawn channel other old
        · exact tracked.called other called
      called := fun other still =>
        tracked.called other (List.mem_of_mem_erase still)
      waiting := by
        intro other still channel received
        rcases either channel other received with old | ⟨rfl, -⟩
        · exact tracked.waiting other (List.mem_of_mem_erase still) channel old
        · exact (tracked.distinct.mem_erase_iff.mp still).1 rfl
      distinct := tracked.distinct.erase handler }

theorem resolve {server : AwaitingServer}
    (tracked : Tracked server.toServer server.pending) (handler : Handler) :
    Tracked (server.resolve handler).toServer
      (server.resolve handler).pending := by
  unfold AwaitingServer.resolve
  split_ifs with called
  · have installed := tracked.install called
    cases body : handler.body with
    | fanOutBusEvent roomId =>
        rw [body] at installed
        refine { installed with roomUnsubs := ?_ }
        intro other entry
        dsimp only
        rw [OrderedMap.get_set]
        split_ifs with same
        · rintro ⟨⟩
          rw [RedisMessageBus.subscribe_channel, same]
          rfl
        · exact tracked.roomUnsubs other entry
    | fanOutPresence =>
        rw [body] at installed
        refine { installed with presenceUnsubs := ?_ }
        rintro unsub ⟨⟩
        exact RedisMessageBus.subscribe_channel
  · exact tracked

theorem register {server : AwaitingServer}
    (tracked : Tracked server.toServer server.pending) (ws : Connection) :
    Tracked (server.register ws).toServer (server.register ws).pending := by
  have added := tracked.addConn ws
  unfold AwaitingServer.register
  cases server.presenceUnsub with
  | some unsub => exact added
  | none => exact callBus added .fanOutPresence

theorem subscribeRoom {server : AwaitingServer}
    (tracked : Tracked server.toServer server.pending) (ws : Connection)
    (roomId : String) :
    Tracked (server.subscribeRoom ws roomId).toServer
      (server.subscribeRoom ws roomId).pending := by
  have added := tracked.addLocalSub ws roomId
  unfold AwaitingServer.subscribeRoom
  cases found : server.roomBusUnsub.get roomId with
  | some existing => exact added.recount found _
  | none => exact callBus added _

theorem step {server : AwaitingServer}
    (tracked : Tracked server.toServer server.pending) (call : Call) :
    Tracked (step server call).toServer (step server call).pending := by
  cases call with
  | registers ws => exact tracked.register ws
  | unregisters ws =>
      exact ((tracked.unsubscribeRooms ws _).deleteConn ws).releasePresence
  | subscribesRoom ws roomId =>
      unfold AwaitingRegistry.step
      dsimp only
      split_ifs
      · exact tracked
      · exact tracked.subscribeRoom ws roomId
  | unsubscribesRoom ws roomId => exact tracked.unsubscribeRoom ws roomId
  | resolves handler => exact tracked.resolve handler

end Tracked

/-! ## Calls that resolve at once -/

/-- The handler that a call would draw next. -/
def nextFor (server : Server) (body : FanOut) : Handler where
  identity := server.nextHandler
  body

section Atomic

variable {server : AwaitingServer}

theorem nextFor_not_pending
    (tracked : Tracked server.toServer server.pending) (body : FanOut) :
    nextFor server.toServer body ∉ server.pending :=
  fun called => Nat.lt_irrefl _ (tracked.called _ called)

/-- The entry of a room that has one counts the new subscriber. -/
theorem subscribeRoom_of_entry {roomId : String} {existing : BusEntry}
    (ws : Connection)
    (found : server.roomBusUnsub.get roomId = some existing) :
    server.subscribeRoom ws roomId =
      { server with toServer := server.toServer.subscribeRoom ws roomId } := by
  have foundAfter : (server.addLocalSub ws roomId).roomBusUnsub.get roomId =
      some existing := found
  unfold AwaitingServer.subscribeRoom Server.subscribeRoom Server.retainBus
  rw [found, foundAfter]

/-- Between its call and the resolution nothing else happens. -/
theorem resolve_subscribeRoom
    (tracked : Tracked server.toServer server.pending) (ws : Connection)
    (roomId : String) :
    (server.subscribeRoom ws roomId).resolve
        (nextFor server.toServer (.fanOutBusEvent roomId)) =
      { server with toServer := server.toServer.subscribeRoom ws roomId } := by
  have unknown :=
    nextFor_not_pending tracked (.fanOutBusEvent roomId)
  cases found : server.roomBusUnsub.get roomId with
  | some existing =>
      rw [subscribeRoom_of_entry ws found]
      exact if_neg unknown
  | none =>
      have foundAfter : (server.addLocalSub ws roomId).roomBusUnsub.get
          roomId = none := found
      have called : (server.subscribeRoom ws roomId).pending =
          server.pending ++
            [nextFor server.toServer (.fanOutBusEvent roomId)] := by
        unfold AwaitingServer.subscribeRoom
        rw [found]
        rfl
      unfold AwaitingServer.resolve
      rw [if_pos (by simp [called]), called,
        List.erase_append_right _ unknown, List.erase_cons_head,
        List.append_nil]
      unfold AwaitingServer.subscribeRoom Server.subscribeRoom Server.retainBus
      rw [found, foundAfter]
      rfl

theorem resolve_register
    (tracked : Tracked server.toServer server.pending) (ws : Connection) :
    (server.register ws).resolve (nextFor server.toServer .fanOutPresence) =
      { server with toServer := server.toServer.register ws } := by
  have unknown := nextFor_not_pending tracked .fanOutPresence
  cases found : server.presenceUnsub with
  | some unsub =>
      have foundAfter : (server.addConn ws).presenceUnsub = some unsub := found
      unfold AwaitingServer.register Server.register Server.retainPresence
      rw [found, foundAfter]
      exact if_neg unknown
  | none =>
      have foundAfter : (server.addConn ws).presenceUnsub = none := found
      have called : (server.register ws).pending =
          server.pending ++ [nextFor server.toServer .fanOutPresence] := by
        unfold AwaitingServer.register
        rw [found]
        rfl
      unfold AwaitingServer.resolve
      rw [if_pos (by simp [called]), called,
        List.erase_append_right _ unknown, List.erase_cons_head,
        List.append_nil]
      unfold AwaitingServer.register Server.register Server.retainPresence
      rw [found, foundAfter]
      rfl

end Atomic

/-! ## Channels as feeds -/

/-- The feed of a channel. -/
def feed (server : Server) (pending : List Handler) (channel : Channel) :
    Feed Handler where
  installed := server.bus.receivers channel
  pending :=
    pending.filter fun handler => decide (channelOf handler.body = channel)
  kept :=
    match channel with
    | .room roomId =>
        (server.roomBusUnsub.get roomId).map fun entry => entry.unsub.handler
    | .presenceGlobal => server.presenceUnsub.map Unsubscribe.handler

section Feeds

variable {server : Server} {pending : List Handler} {channel : Channel}

/-- A handler waits for its own channel. -/
theorem mem_feed_pending {handler : Handler} :
    handler ∈ (feed server pending channel).pending ↔
      handler ∈ pending ∧ channelOf handler.body = channel := by
  unfold feed
  rw [List.mem_filter, decide_eq_true_eq]

/-- The counters play no part. -/
theorem feed_recount {roomId : String} {existing : BusEntry}
    (found : server.roomBusUnsub.get roomId = some existing)
    (refCount : Int) :
    feed
      { server with
        roomBusUnsub :=
          server.roomBusUnsub.set roomId { existing with refCount } }
      pending channel = feed server pending channel := by
  unfold feed
  cases channel with
  | presenceGlobal => rfl
  | room other =>
      dsimp only
      rw [OrderedMap.get_set]
      split_ifs with same
      · rw [same, found]
        rfl
      · rfl

/-- Giving up the last count of a room releases its feed. -/
theorem feed_releaseBus (tracked : Tracked server pending) (roomId : String) :
    feed (server.releaseBus roomId) pending channel =
      if channel = .room roomId ∧
          countDown (server.room roomId).counter = none then
        (feed server pending channel).release
      else feed server pending channel := by
  unfold Server.releaseBus
  cases found : server.roomBusUnsub.get roomId with
  | none =>
      split_ifs with last
      · rcases last with ⟨rfl, -⟩
        simp [feed, found, Feed.release]
      · rfl
  | some existing =>
      have gives : countDown (server.room roomId).counter = none ↔
          existing.refCount - 1 ≤ 0 := by
        simp only [Server.room, found, Option.map_some, countDown,
          ite_eq_left_iff, reduceCtorEq, imp_false, not_not]
      have own := tracked.roomUnsubs roomId existing found
      have received :
          (existing.unsub.call server.bus).receivers channel = _ :=
        tracked.listening.receivers_call existing.unsub
      rw [own] at received
      dsimp only
      by_cases last : existing.refCount - 1 ≤ 0
      · rw [if_pos last]
        by_cases same : channel = .room roomId
        · subst same
          rw [if_pos rfl] at received
          rw [if_pos ⟨rfl, gives.mpr last⟩]
          unfold feed Feed.release
          simp [received, found]
        · rw [if_neg same] at received
          rw [if_neg fun both => same both.1]
          unfold feed
          rw [received]
          cases channel with
          | presenceGlobal => rfl
          | room other =>
              have different : other ≠ roomId := fun equal =>
                same (congrArg Channel.room equal)
              dsimp only
              rw [OrderedMap.get_delete, if_neg different]
      · rw [if_neg last, if_neg fun both => last (gives.mp both.2)]
        exact feed_recount found _

theorem feed_unsubscribeRoom (tracked : Tracked server pending)
    (ws : Connection) (roomId : String) :
    feed (server.unsubscribeRoom ws roomId) pending channel =
      if channel = .room roomId ∧
          countDown (server.room roomId).counter = none then
        (feed server pending channel).release
      else feed server pending channel :=
  feed_releaseBus (tracked.deleteLocalSub ws roomId) roomId

/-- Rooms that are not named keep their feed. -/
theorem feed_unsubscribeRooms_other (tracked : Tracked server pending)
    (ws : Connection) {roomIds : List String}
    (unnamed : ∀ roomId ∈ roomIds, channel ≠ .room roomId) :
    feed (server.unsubscribeRooms ws roomIds) pending channel =
      feed server pending channel := by
  unfold Server.unsubscribeRooms
  induction roomIds generalizing server with
  | nil => rfl
  | cons roomId rest induction =>
      rw [List.foldl_cons, induction (tracked.unsubscribeRoom ws roomId),
        feed_unsubscribeRoom tracked, if_neg]
      · exact fun both => unnamed roomId (.head _) both.1
      · exact fun other member => unnamed other (.tail _ member)

/-- A room that is named once is released once. -/
theorem feed_unsubscribeRooms (tracked : Tracked server pending)
    (ws : Connection) {roomIds : List String} (distinct : roomIds.Nodup)
    {roomId : String} (named : roomId ∈ roomIds) :
    feed (server.unsubscribeRooms ws roomIds) pending (.room roomId) =
      if countDown (server.room roomId).counter = none then
        (feed server pending (.room roomId)).release
      else feed server pending (.room roomId) := by
  obtain ⟨before, after, rfl⟩ := List.append_of_mem named
  have apart := List.nodup_middle.mp distinct
  rw [List.nodup_cons, List.mem_append, not_or] at apart
  have unnamed {others : List String} (absent : roomId ∉ others) :
      ∀ other ∈ others, Channel.room roomId ≠ .room other := by
    rintro other member ⟨⟩
    exact absent member
  have trackedBefore := tracked.unsubscribeRooms ws before
  have split : server.unsubscribeRooms ws (before ++ roomId :: after) =
      ((server.unsubscribeRooms ws before).unsubscribeRoom ws
        roomId).unsubscribeRooms ws after :=
    List.foldl_append
  rw [split,
    feed_unsubscribeRooms_other (trackedBefore.unsubscribeRoom ws roomId) ws
      (unnamed apart.1.2),
    feed_unsubscribeRoom trackedBefore,
    feed_unsubscribeRooms_other tracked ws (unnamed apart.1.1),
    Server.room_unsubscribeRooms, List.count_eq_zero.mpr apart.1.1]
  simp only [true_and, Function.iterate_zero, id_eq]

theorem feed_deleteConn (ws : Connection) :
    feed (server.deleteConn ws) pending channel =
      feed server pending channel := by
  unfold Server.deleteConn
  split <;> rfl

/-- The presence feed is released when no connection is left. -/
theorem feed_releasePresence (tracked : Tracked server pending) :
    feed server.releasePresence pending channel =
      if channel = .presenceGlobal ∧ server.userConns.size = 0 then
        (feed server pending channel).release
      else feed server pending channel := by
  unfold Server.releasePresence
  cases found : server.presenceUnsub with
  | none =>
      dsimp only
      split_ifs with last
      · rcases last with ⟨rfl, -⟩
        simp [feed, found, Feed.release]
      · rfl
  | some unsub =>
      have own := tracked.presenceUnsubs unsub found
      have received : (unsub.call server.bus).receivers channel = _ :=
        tracked.listening.receivers_call unsub
      rw [own] at received
      dsimp only
      by_cases last : server.userConns.size = 0
      · rw [if_pos last]
        by_cases same : channel = .presenceGlobal
        · subst same
          rw [if_pos rfl] at received
          rw [if_pos ⟨rfl, last⟩]
          unfold feed Feed.release
          simp [received, found]
        · rw [if_neg same] at received
          rw [if_neg fun both => same both.1]
          unfold feed
          rw [received]
          cases channel with
          | presenceGlobal => exact absurd rfl same
          | room other => rfl
      · rw [if_neg last, if_neg fun both => last both.2]

theorem feed_unregister_room (tracked : Tracked server pending)
    (ws : Connection) (roomId : String) :
    feed (server.unregister ws) pending (.room roomId) =
      if roomId ∈ server.rooms ws ∧
          countDown (server.room roomId).counter = none then
        (feed server pending (.room roomId)).release
      else feed server pending (.room roomId) := by
  unfold Server.unregister
  rw [feed_releasePresence ((tracked.unsubscribeRooms ws _).deleteConn ws),
    if_neg nofun, feed_deleteConn]
  by_cases listed : roomId ∈ server.rooms ws
  · rw [feed_unsubscribeRooms tracked ws (server.rooms ws).nodup listed]
    simp only [listed, true_and]
  · rw [if_neg fun both => listed both.1]
    apply feed_unsubscribeRooms_other tracked
    rintro other member ⟨⟩
    exact listed member

@[simp]
theorem userConns_unsubscribeRooms (server : Server) (ws : Connection)
    (roomIds : List String) :
    (server.unsubscribeRooms ws roomIds).userConns = server.userConns := by
  unfold Server.unsubscribeRooms
  induction roomIds generalizing server with
  | nil => rfl
  | cons roomId rest induction =>
      rw [List.foldl_cons, induction]
      unfold Server.unsubscribeRoom Server.releaseBus
      split
      · rfl
      · split_ifs <;> rfl

@[simp]
theorem userConns_unregister (server : Server) (ws : Connection) :
    (server.unregister ws).userConns = (server.deleteConn ws).userConns := by
  have deleted : ((server.unsubscribeRooms ws
      (server.rooms ws).toList).deleteConn ws).userConns =
        (server.deleteConn ws).userConns := by
    unfold Server.deleteConn
    rw [userConns_unsubscribeRooms]
    split
    · exact userConns_unsubscribeRooms server ws _
    · rfl
  unfold Server.unregister
  rw [← deleted]
  unfold Server.releasePresence
  split
  · rfl
  · split_ifs <;> rfl

theorem feed_unregister_presence (tracked : Tracked server pending)
    (ws : Connection) :
    feed (server.unregister ws) pending .presenceGlobal =
      if (server.unregister ws).userConns.size = 0 then
        (feed server pending .presenceGlobal).release
      else feed server pending .presenceGlobal := by
  have left := (tracked.unsubscribeRooms ws
    (server.rooms ws).toList).deleteConn ws
  have conns : (server.unregister ws).userConns = ((server.unsubscribeRooms ws
      (server.rooms ws).toList).deleteConn ws).userConns := by
    unfold Server.unregister Server.releasePresence
    split
    · rfl
    · split_ifs <;> rfl
  have elsewhere : ∀ roomId ∈ (server.rooms ws).toList,
      Channel.presenceGlobal ≠ .room roomId := by
    simp
  rw [conns]
  unfold Server.unregister
  rw [feed_releasePresence left, feed_deleteConn,
    feed_unsubscribeRooms_other tracked ws elsewhere]
  simp only [true_and]

/-- A call of the bus waits at its own channel. -/
theorem feed_callBus (server : AwaitingServer) (body : FanOut)
    (unknown : (feed server.toServer server.pending
      (channelOf body)).kept = none) :
    feed (server.callBus body).toServer (server.callBus body).pending channel =
      if channel = channelOf body then
        (feed server.toServer server.pending channel).retain
          { identity := server.nextHandler, body }
      else feed server.toServer server.pending channel := by
  have kept (other : Channel) :
      (feed (server.callBus body).toServer (server.callBus body).pending
        other).kept = (feed server.toServer server.pending other).kept := rfl
  split_ifs with same
  · subst same
    unfold Feed.retain
    rw [unknown]
    refine Feed.ext rfl ?_ ((kept _).trans unknown)
    simp [feed, AwaitingServer.callBus, List.filter_append]
  · refine Feed.ext rfl ?_ (kept _)
    simp [feed, AwaitingServer.callBus, List.filter_append, Ne.symm same]

theorem feed_register (server : AwaitingServer) (ws : Connection) :
    feed (server.register ws).toServer (server.register ws).pending channel =
      if channel = .presenceGlobal then
        (feed server.toServer server.pending channel).retain
          (nextFor server.toServer .fanOutPresence)
      else feed server.toServer server.pending channel := by
  unfold AwaitingServer.register
  cases found : server.presenceUnsub with
  | none =>
      dsimp only
      rw [feed_callBus]
      · rfl
      · simp [feed, channelOf, found, Server.addConn]
  | some unsub =>
      split_ifs with same
      · subst same
        simp [feed, Feed.retain, found, Server.addConn]
      · rfl

theorem feed_subscribeRoom (server : AwaitingServer) (ws : Connection)
    (roomId : String) :
    feed (server.subscribeRoom ws roomId).toServer
        (server.subscribeRoom ws roomId).pending channel =
      if channel = .room roomId then
        (feed server.toServer server.pending channel).retain
          (nextFor server.toServer (.fanOutBusEvent roomId))
      else feed server.toServer server.pending channel := by
  unfold AwaitingServer.subscribeRoom
  cases found : server.roomBusUnsub.get roomId with
  | none =>
      dsimp only
      rw [feed_callBus]
      · rfl
      · simp [feed, channelOf, found, Server.addLocalSub]
  | some existing =>
      have foundAfter : (server.addLocalSub ws roomId).roomBusUnsub.get
          roomId = some existing := found
      have recounted : feed
          { server.addLocalSub ws roomId with
            roomBusUnsub :=
              (server.addLocalSub ws roomId).roomBusUnsub.set roomId
                { existing with refCount := existing.refCount + 1 } }
          server.pending channel =
            feed server.toServer server.pending channel :=
        feed_recount foundAfter _
      refine Eq.trans recounted ?_
      split_ifs with same
      · subst same
        simp [feed, Feed.retain, found]
      · rfl

theorem filter_erase {handlers : List Handler} (distinct : handlers.Nodup)
    (condition : Handler → Bool) (handler : Handler) :
    (handlers.erase handler).filter condition =
      (handlers.filter condition).erase handler := by
  rw [distinct.erase_eq_filter, (distinct.filter condition).erase_eq_filter]
  exact List.filter_comm _ _ _

theorem feed_resolve {server : AwaitingServer}
    (tracked : Tracked server.toServer server.pending) (handler : Handler) :
    feed (server.resolve handler).toServer (server.resolve handler).pending
        channel =
      if channel = channelOf handler.body then
        (feed server.toServer server.pending channel).resolve handler
      else feed server.toServer server.pending channel := by
  by_cases called : handler ∈ server.pending
  · have received : (server.bus.subscribe (channelOf handler.body)
        handler).2.receivers channel = _ :=
      tracked.listening.receivers_subscribe
        (tracked.waiting handler called (channelOf handler.body))
    have erased := filter_erase tracked.distinct
      (fun other => decide (channelOf other.body = channel)) handler
    unfold AwaitingServer.resolve
    rw [if_pos called]
    split_ifs with same
    · subst same
      have waits : handler ∈ (feed server.toServer server.pending
          (channelOf handler.body)).pending :=
        mem_feed_pending.mpr ⟨called, rfl⟩
      rw [if_pos rfl] at received
      unfold Feed.resolve
      rw [if_pos waits]
      cases body : handler.body with
      | fanOutBusEvent roomId =>
          rw [body] at received erased
          refine Feed.ext received erased ?_
          simp [feed, channelOf]
      | fanOutPresence =>
          rw [body] at received erased
          refine Feed.ext received erased ?_
          simp [feed, channelOf]
    · have elsewhere : handler ∉ server.pending.filter
          fun other => decide (channelOf other.body = channel) := by
        rw [List.mem_filter, decide_eq_true_eq]
        exact fun both => same both.2.symm
      rw [if_neg same] at received
      rw [List.erase_of_not_mem elsewhere] at erased
      cases body : handler.body with
      | fanOutBusEvent roomId =>
          rw [body] at received same
          refine Feed.ext received erased ?_
          cases channel with
          | presenceGlobal => rfl
          | room other =>
              have different : other ≠ roomId := fun equal =>
                same (congrArg Channel.room equal)
              simp [feed, different]
      | fanOutPresence =>
          rw [body] at received same
          refine Feed.ext received erased ?_
          cases channel with
          | presenceGlobal => exact absurd rfl same
          | room other => rfl
  · have unresolved : server.resolve handler = server := if_neg called
    rw [unresolved]
    split_ifs
    · unfold Feed.resolve
      rw [if_neg fun waits => called (mem_feed_pending.mp waits).1]
    · rfl

end Feeds

end ChatBackend.Ws.AwaitingRegistry
