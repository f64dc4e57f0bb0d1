import ChatBackend.Collections.Shared
import ChatBackend.Ws.MessageBus
import Mathlib.Data.List.Induction
import Mathlib.Logic.Function.Basic

/-!
# The connection registry of a server

`ConnectionRegistry` keeps the connections of every user, the local subscribers
of every room and, for every room with subscribers, a counted subscription to
the bus.  The room set of a connection lives in `ws.data`.  A server is the
registry together with its bus, the room sets and the frames sent so far.

Per room, the registry is a counted resource: `room_subscribeRoom` and
`room_unsubscribeRoom` say that subscribing acquires it, that unsubscribing
releases it whoever asks, and that other rooms stay as they are.
-/

namespace ChatBackend.Ws.Registry

open Collections
open ChatBackend.Chat.Store
open ChatBackend.Ws.MessageBus

/-! ## Connections, envelopes and handlers -/

/-- The fixed part of `ws.data`; a connection draws its id when it opens. -/
structure Connection where
  connId : String
  userId : String
deriving DecidableEq, Repr

/-- What an envelope to a client carries. -/
inductive Payload where
  | message (message : MessageDto)
  | deleted (messageId roomId : String)
  | read (roomId userId messageId : String)
  | typing (roomId userId : String)
  /-- All of an event but its kind. -/
  | rest (event : BusEvent)
  | presence (userId : Option String)
  | subscribed (roomIds : List String)
  | unsubscribed (roomIds : List String)
  | error (code message : String)
deriving DecidableEq, Repr

/-- An envelope to a client. -/
structure Envelope where
  type : String
  payload : Payload
  refId : Option String
  ts : Time
deriving DecidableEq, Repr

/-- The two bodies of the handlers that the registry gives to the bus. -/
inductive FanOut where
  | fanOutBusEvent (roomId : String)
  | fanOutPresence
deriving DecidableEq, Repr

/-- A handler; handlers with one body are still different functions. -/
structure Handler where
  identity : Nat
  body : FanOut
deriving DecidableEq, Repr

/-- A call of `ws.send`, with the fan-out that made it, if one did. -/
structure Sent where
  ws : Connection
  envelope : Envelope
  fanOut : Option FanOut
deriving DecidableEq, Repr

/-! ## The state -/

/-- An entry of `roomBusUnsub`. -/
structure BusEntry where
  unsub : Unsubscribe Handler
  refCount : Int
deriving DecidableEq

structure ConnectionRegistry where
  userConns : OrderedMap String (OrderedSet Connection)
  roomLocalSubs : OrderedMap String (OrderedSet Connection)
  roomBusUnsub : OrderedMap String BusEntry
  presenceUnsub : Option (Unsubscribe Handler)

/-- A server: its registry, its bus, the rooms of `ws.data` and what it sent. -/
structure Server extends ConnectionRegistry where
  bus : RedisMessageBus Handler
  rooms : Connection → OrderedSet String
  /-- The identity of the next handler. -/
  nextHandler : Nat
  sent : List Sent

/-- A server that has just started. -/
def Server.start : Server where
  userConns := ∅
  roomLocalSubs := ∅
  roomBusUnsub := ∅
  presenceUnsub := none
  bus := .empty
  rooms _ := ∅
  nextHandler := 0
  sent := []

namespace Server

/-- The local subscribers of a room. -/
def subscribers (server : Server) (roomId : String) : OrderedSet Connection :=
  (server.roomLocalSubs.get roomId).getD ∅

/-- A room as a counted resource of its subscribers. -/
def room (server : Server) (roomId : String) : Shared Connection where
  holders := server.subscribers roomId
  counter := (server.roomBusUnsub.get roomId).map BusEntry.refCount

/-! ## Subscribing and unsubscribing -/

/-- The part of `subscribeRoom` on the local sets. -/
def addLocalSub (server : Server) (ws : Connection) (roomId : String) :
    Server :=
  { server with
    roomLocalSubs :=
      server.roomLocalSubs.set roomId ((server.subscribers roomId).add ws)
    rooms :=
      Function.update server.rooms ws ((server.rooms ws).add roomId) }

/-- The part of `subscribeRoom` on the bus. -/
def retainBus (server : Server) (roomId : String) : Server :=
  match server.roomBusUnsub.get roomId with
  | some existing =>
      { server with
        roomBusUnsub :=
          server.roomBusUnsub.set roomId
            { existing with refCount := existing.refCount + 1 } }
  | none =>
      let (unsub, bus) :=
        server.bus.subscribe (.room roomId)
          { identity := server.nextHandler, body := .fanOutBusEvent roomId }
      { server with
        bus
        nextHandler := server.nextHandler + 1
        roomBusUnsub :=
          server.roomBusUnsub.set roomId { unsub, refCount := 1 } }

def subscribeRoom (server : Server) (ws : Connection) (roomId : String) :
    Server :=
  (server.addLocalSub ws roomId).retainBus roomId

/-- The part of `unsubscribeRoom` on the local sets. -/
def deleteLocalSub (server : Server) (ws : Connection) (roomId : String) :
    Server :=
  { server with
    roomLocalSubs :=
      match server.roomLocalSubs.get roomId with
      | none => server.roomLocalSubs
      | some subs =>
          if (subs.delete ws).size = 0 then server.roomLocalSubs.delete roomId
          else server.roomLocalSubs.set roomId (subs.delete ws)
    rooms :=
      Function.update server.rooms ws ((server.rooms ws).delete roomId) }

/-- The part of `unsubscribeRoom` on the bus. -/
def releaseBus (server : Server) (roomId : String) : Server :=
  match server.roomBusUnsub.get roomId with
  | none => server
  | some existing =>
      if existing.refCount - 1 ≤ 0 then
        { server with
          bus := existing.unsub.call server.bus
          roomBusUnsub := server.roomBusUnsub.delete roomId }
      else
        { server with
          roomBusUnsub :=
            server.roomBusUnsub.set roomId
              { existing with refCount := existing.refCount - 1 } }

def unsubscribeRoom (server : Server) (ws : Connection) (roomId : String) :
    Server :=
  (server.deleteLocalSub ws roomId).releaseBus roomId

/-- The loop over room ids, of `unregister` and of `handleChatUnsubscribe`. -/
def unsubscribeRooms (server : Server) (ws : Connection)
    (roomIds : List String) : Server :=
  roomIds.foldl (fun server roomId => server.unsubscribeRoom ws roomId) server

/-! ## Connections -/

/-- The part of `register` on the connections of the user. -/
def addConn (server : Server) (ws : Connection) : Server :=
  { server with
    userConns :=
      server.userConns.set ws.userId
        (((server.userConns.get ws.userId).getD ∅).add ws) }

/-- The part of `register` on the presence feed. -/
def retainPresence (server : Server) : Server :=
  match server.presenceUnsub with
  | some _ => server
  | none =>
      let (unsub, bus) :=
        server.bus.subscribe .presenceGlobal
          { identity := server.nextHandler, body := .fanOutPresence }
      { server with
        bus
        nextHandler := server.nextHandler + 1
        presenceUnsub := some unsub }

def register (server : Server) (ws : Connection) : Server :=
  (server.addConn ws).retainPresence

/-- The part of `unregister` on the connections of the user. -/
def deleteConn (server : Server) (ws : Connection) : Server :=
  match server.userConns.get ws.userId with
  | none => server
  | some conns =>
      { server with
        userConns :=
          if (conns.delete ws).size = 0 then server.userConns.delete ws.userId
          else server.userConns.set ws.userId (conns.delete ws) }

/-- The part of `unregister` on the presence feed. -/
def releasePresence (server : Server) : Server :=
  match server.presenceUnsub with
  | none => server
  | some unsub =>
      if server.userConns.size = 0 then
        { server with bus := unsub.call server.bus, presenceUnsub := none }
      else server

def unregister (server : Server) (ws : Connection) : Server :=
  ((server.unsubscribeRooms ws (server.rooms ws).toList).deleteConn
    ws).releasePresence

/-! ## Fanning out -/

def send (server : Server) (sent : List Sent) : Server :=
  { server with sent := server.sent ++ sent }

/-- The `kind` of an event. -/
def kind : BusEvent → String
  | .messageCreated _ _ _ => "message.created"
  | .messageEdited _ => "message.edited"
  | .messageDeleted _ _ => "message.deleted"
  | .messageRead _ _ _ => "message.read"
  | .userTyping _ _ => "user.typing"
  | .presenceOnline _ _ => "presence.online"
  | .presenceOffline _ _ => "presence.offline"

/-- The `userId` of an event, if it has one. -/
def eventUserId : BusEvent → Option String
  | .messageRead _ userId _ => some userId
  | .userTyping _ userId => some userId
  | .presenceOnline userId _ => some userId
  | .presenceOffline userId _ => some userId
  | _ => none

/-- The envelope in which `fanOutPresence` sends an event. -/
def presenceEnvelope (now : Time) (event : BusEvent) : Envelope where
  type := kind event
  payload := .presence (eventUserId event)
  refId := none
  ts := now

/-- The envelope in which `fanOutBusEvent` sends an event. -/
def eventEnvelope (now : Time) (event : BusEvent) : Envelope where
  type := kind event
  payload :=
    match event with
    | .messageCreated message _ _ => .message message
    | .messageEdited message => .message message
    | .messageDeleted messageId roomId => .deleted messageId roomId
    | .messageRead roomId userId messageId => .read roomId userId messageId
    | .userTyping roomId userId => .typing roomId userId
    | other => .rest other
  refId :=
    match event with
    | .messageCreated _ refId _ => refId
    | _ => none
  ts := now

def fanOutPresence (server : Server) (now : Time) (event : BusEvent) :
    Server :=
  server.send (server.userConns.values.flatMap fun conns =>
    conns.toList.map fun ws =>
      { ws, envelope := presenceEnvelope now event,
        fanOut := some .fanOutPresence })

/-- What `fanOutBusEvent` sends to one subscriber. -/
def push (now : Time) (roomId : String) (event : BusEvent) (ws : Connection) :
    Sent where
  ws
  envelope := eventEnvelope now event
  fanOut := some (.fanOutBusEvent roomId)

def fanOutBusEvent (server : Server) (now : Time) (roomId : String)
    (event : BusEvent) : Server :=
  match server.roomLocalSubs.get roomId with
  | none => server
  | some subs =>
      if subs.size = 0 then server
      else server.send (subs.toList.map (push now roomId event))

/-- Run the body of a handler on an event. -/
def handle (server : Server) (now : Time) (event : BusEvent) :
    FanOut → Server
  | .fanOutBusEvent roomId => server.fanOutBusEvent now roomId event
  | .fanOutPresence => server.fanOutPresence now event

/-- An event that was published on a channel reaches the server. -/
def deliver (now : Time) (server : Server) (entry : Channel × BusEvent) :
    Server :=
  (server.bus.receivers entry.1).foldl
    (fun server handler => server.handle now entry.2 handler.body) server

/-! ## A room as a counted resource -/

section Rooms

variable (server : Server) (ws : Connection) (roomId other : String)

@[simp]
theorem subscribers_retainBus :
    (server.retainBus roomId).subscribers other =
      server.subscribers other := by
  unfold retainBus
  split <;> rfl

@[simp]
theorem subscribers_releaseBus :
    (server.releaseBus roomId).subscribers other =
      server.subscribers other := by
  unfold releaseBus
  split
  · rfl
  · split_ifs <;> rfl

theorem subscribers_addLocalSub :
    (server.addLocalSub ws roomId).subscribers other =
      if other = roomId then (server.subscribers roomId).add ws
      else server.subscribers other := by
  unfold addLocalSub subscribers
  dsimp only
  rw [OrderedMap.get_set]
  split_ifs <;> rfl

theorem subscribers_deleteLocalSub :
    (server.deleteLocalSub ws roomId).subscribers other =
      if other = roomId then (server.subscribers roomId).delete ws
      else server.subscribers other := by
  unfold deleteLocalSub subscribers
  dsimp only
  cases found : server.roomLocalSubs.get roomId with
  | none =>
      dsimp only
      split_ifs with same
      · rw [same, found]
        rfl
      · rfl
  | some subs =>
      dsimp only
      split_ifs with none_ same same
      · rw [OrderedMap.get_delete, if_pos same]
        exact (OrderedSet.size_eq_zero_iff.mp none_).symm
      · rw [OrderedMap.get_delete, if_neg same]
      · rw [OrderedMap.get_set, if_pos same]
        rfl
      · rw [OrderedMap.get_set, if_neg same]

theorem subscribers_subscribeRoom :
    (server.subscribeRoom ws roomId).subscribers other =
      if other = roomId then (server.subscribers roomId).add ws
      else server.subscribers other := by
  unfold subscribeRoom
  rw [subscribers_retainBus, subscribers_addLocalSub]

theorem subscribers_unsubscribeRoom :
    (server.unsubscribeRoom ws roomId).subscribers other =
      if other = roomId then (server.subscribers roomId).delete ws
      else server.subscribers other := by
  unfold unsubscribeRoom
  rw [subscribers_releaseBus, subscribers_deleteLocalSub]

theorem counter_subscribeRoom :
    ((server.subscribeRoom ws roomId).room other).counter =
      if other = roomId then countUp (server.room roomId).counter
      else (server.room other).counter := by
  unfold subscribeRoom retainBus room
  have entries : (server.addLocalSub ws roomId).roomBusUnsub =
      server.roomBusUnsub := rfl
  rw [entries]
  cases found : server.roomBusUnsub.get roomId with
  | none =>
      dsimp only
      rw [OrderedMap.get_set]
      split_ifs <;> rfl
  | some existing =>
      dsimp only
      rw [OrderedMap.get_set]
      split_ifs <;> rfl

theorem counter_unsubscribeRoom :
    ((server.unsubscribeRoom ws roomId).room other).counter =
      if other = roomId then countDown (server.room roomId).counter
      else (server.room other).counter := by
  unfold unsubscribeRoom releaseBus room
  have entries : (server.deleteLocalSub ws roomId).roomBusUnsub =
      server.roomBusUnsub := rfl
  rw [entries]
  cases found : server.roomBusUnsub.get roomId with
  | none =>
      dsimp only
      split_ifs with same
      · rw [same, entries, found]
        rfl
      · rfl
  | some existing =>
      dsimp only [Option.map_some, countDown]
      split_ifs with last same same
      · rw [OrderedMap.get_delete, if_pos same]
        rfl
      · rw [OrderedMap.get_delete, if_neg same]
      · rw [OrderedMap.get_set, if_pos same]
        rfl
      · rw [OrderedMap.get_set, if_neg same]

/-- Subscribing to a room acquires it and leaves the other rooms alone. -/
theorem room_subscribeRoom :
    (server.subscribeRoom ws roomId).room other =
      if other = roomId then (server.room roomId).acquire ws
      else server.room other := by
  have holders := subscribers_subscribeRoom server ws roomId other
  have counter := counter_subscribeRoom server ws roomId other
  split_ifs at holders counter ⊢
  · exact congrArg₂ Shared.mk holders counter
  · exact congrArg₂ Shared.mk holders counter

/-- Unsubscribing from a room releases it, whoever asks. -/
theorem room_unsubscribeRoom :
    (server.unsubscribeRoom ws roomId).room other =
      if other = roomId then (server.room roomId).release ws
      else server.room other := by
  have holders := subscribers_unsubscribeRoom server ws roomId other
  have counter := counter_unsubscribeRoom server ws roomId other
  split_ifs at holders counter ⊢
  · exact congrArg₂ Shared.mk holders counter
  · exact congrArg₂ Shared.mk holders counter

/-- A list of room ids releases a room as often as it names it. -/
theorem room_unsubscribeRooms (roomIds : List String) :
    (server.unsubscribeRooms ws roomIds).room other =
      (Shared.release ws)^[roomIds.count other] (server.room other) := by
  unfold unsubscribeRooms
  induction roomIds generalizing server with
  | nil => rfl
  | cons roomId rest induction =>
      rw [List.foldl_cons, induction, room_unsubscribeRoom, List.count_cons]
      by_cases same : other = roomId
      · subst same
        rw [if_pos rfl, if_pos (beq_self_eq_true other),
          Function.iterate_succ_apply]
      · rw [if_neg same, if_neg (by simpa using Ne.symm same), Nat.add_zero]

@[simp]
theorem rooms_subscribeRoom :
    (server.subscribeRoom ws roomId).rooms =
      Function.update server.rooms ws ((server.rooms ws).add roomId) := by
  unfold subscribeRoom retainBus
  split <;> rfl

@[simp]
theorem rooms_unsubscribeRoom :
    (server.unsubscribeRoom ws roomId).rooms =
      Function.update server.rooms ws ((server.rooms ws).delete roomId) := by
  unfold unsubscribeRoom releaseBus
  split
  · rfl
  · split_ifs <;> rfl

theorem mem_rooms_subscribeRoom (holder : Connection) :
    other ∈ (server.subscribeRoom ws roomId).rooms holder ↔
      other ∈ server.rooms holder ∨ (holder = ws ∧ other = roomId) := by
  rw [rooms_subscribeRoom, Function.update_apply]
  split_ifs with same
  · subst same
    simp
  · simp [same]

theorem mem_rooms_unsubscribeRoom (holder : Connection) :
    other ∈ (server.unsubscribeRoom ws roomId).rooms holder ↔
      other ∈ server.rooms holder ∧ ¬ (holder = ws ∧ other = roomId) := by
  rw [rooms_unsubscribeRoom, Function.update_apply]
  split_ifs with same
  · subst same
    simp [and_comm]
  · simp [same]

theorem mem_rooms_unsubscribeRooms (holder : Connection)
    (roomIds : List String) :
    other ∈ (server.unsubscribeRooms ws roomIds).rooms holder ↔
      other ∈ server.rooms holder ∧ ¬ (holder = ws ∧ other ∈ roomIds) := by
  unfold unsubscribeRooms
  induction roomIds generalizing server with
  | nil => simp
  | cons roomId rest induction =>
      rw [List.foldl_cons, induction, mem_rooms_unsubscribeRoom,
        List.mem_cons]
      tauto

end Rooms

/-! ## The subscribers of a room and the rooms of a subscriber -/

section Mirrored

variable {server : Server}

theorem mirrored_addLocalSub
    (mirrored : ∀ ws roomId,
      ws ∈ server.subscribers roomId ↔ roomId ∈ server.rooms ws)
    (ws : Connection) (roomId : String) (holder : Connection)
    (other : String) :
    holder ∈ (server.addLocalSub ws roomId).subscribers other ↔
      other ∈ (server.addLocalSub ws roomId).rooms holder := by
  rw [subscribers_addLocalSub]
  unfold addLocalSub
  dsimp only
  rw [Function.update_apply]
  split_ifs with sameRoom sameConnection sameConnection <;> simp [*]

theorem mirrored_deleteLocalSub
    (mirrored : ∀ ws roomId,
      ws ∈ server.subscribers roomId ↔ roomId ∈ server.rooms ws)
    (ws : Connection) (roomId : String) (holder : Connection)
    (other : String) :
    holder ∈ (server.deleteLocalSub ws roomId).subscribers other ↔
      other ∈ (server.deleteLocalSub ws roomId).rooms holder := by
  rw [subscribers_deleteLocalSub]
  unfold deleteLocalSub
  dsimp only
  rw [Function.update_apply]
  split_ifs with sameRoom sameConnection sameConnection <;> simp [*]

end Mirrored

/-! ## How the registry is wired to the bus -/

/--
What every sequence of operations keeps, whatever the counters say: an entry
stands for the only feed of its room, a room without an entry is not fed, and
the local subscribers of a room are the connections that list it.
-/
structure Wired (server : Server) : Prop where
  roomFeeds : ∀ roomId, server.bus.Feeds (.room roomId)
    ((server.roomBusUnsub.get roomId).map BusEntry.unsub)
  roomBodies : ∀ roomId, ∀ entry ∈ server.roomBusUnsub.get roomId,
    entry.unsub.handler.body = .fanOutBusEvent roomId
  presenceFeeds : server.bus.Feeds .presenceGlobal server.presenceUnsub
  presenceBody : ∀ unsub ∈ server.presenceUnsub,
    unsub.handler.body = .fanOutPresence
  mirrored : ∀ ws roomId,
    ws ∈ server.subscribers roomId ↔ roomId ∈ server.rooms ws

namespace Wired

theorem start : Wired Server.start where
  roomFeeds roomId := RedisMessageBus.feeds_empty _
  roomBodies := nofun
  presenceFeeds := RedisMessageBus.feeds_empty _
  presenceBody := nofun
  mirrored ws roomId := by
    apply iff_of_false
    · simp [Server.start, subscribers]
    · exact OrderedSet.not_mem_empty roomId

variable {server : Server}

/-- The counters play no part. -/
theorem recount (wired : Wired server) {roomId : String}
    {existing : BusEntry}
    (found : server.roomBusUnsub.get roomId = some existing)
    (refCount : Int) :
    Wired { server with
      roomBusUnsub :=
        server.roomBusUnsub.set roomId { existing with refCount } } := by
  refine { wired with roomFeeds := ?_, roomBodies := ?_ }
  · intro other
    rw [OrderedMap.get_set]
    split_ifs with same
    · subst same
      have feeds := wired.roomFeeds other
      rw [found] at feeds
      exact feeds
    · exact wired.roomFeeds other
  · intro other entry
    rw [OrderedMap.get_set]
    split_ifs with same
    · rintro ⟨⟩
      exact same ▸ wired.roomBodies roomId existing found
    · exact wired.roomBodies other entry

theorem retainBus (wired : Wired server) (roomId : String) :
    Wired (server.retainBus roomId) := by
  unfold Server.retainBus
  cases found : server.roomBusUnsub.get roomId with
  | some existing => exact wired.recount found _
  | none =>
      have unfed := wired.roomFeeds roomId
      rw [found] at unfed
      dsimp only
      refine
        { roomFeeds := ?_
          roomBodies := ?_
          presenceFeeds := wired.presenceFeeds.subscribe_other _ nofun
          presenceBody := wired.presenceBody
          mirrored := wired.mirrored }
      · intro other
        rw [OrderedMap.get_set]
        split_ifs with same
        · subst same
          exact RedisMessageBus.Feeds.subscribe unfed _
        · refine (wired.roomFeeds other).subscribe_other _ ?_
          exact fun sameChannel => same (Channel.room.inj sameChannel)
      · intro other entry
        rw [OrderedMap.get_set]
        split_ifs with same
        · rintro ⟨⟩
          rw [RedisMessageBus.subscribe_handler, same]
        · exact wired.roomBodies other entry

theorem releaseBus (wired : Wired server) (roomId : String) :
    Wired (server.releaseBus roomId) := by
  unfold Server.releaseBus
  cases found : server.roomBusUnsub.get roomId with
  | none => exact wired
  | some existing =>
      have fed := wired.roomFeeds roomId
      rw [found] at fed
      dsimp only
      split_ifs
      · have elsewhere {channel : Channel} (different : channel ≠ .room roomId) :
            channel ≠ existing.unsub.channel := by
          rw [fed.1]
          exact different
        refine
          { roomFeeds := ?_
            roomBodies := ?_
            presenceFeeds :=
              wired.presenceFeeds.call_other (elsewhere (by simp))
            presenceBody := wired.presenceBody
            mirrored := wired.mirrored }
        · intro other
          rw [OrderedMap.get_delete]
          split_ifs with same
          · subst same
            exact RedisMessageBus.Feeds.call fed
          · apply (wired.roomFeeds other).call_other
            exact elsewhere fun sameChannel =>
              same (Channel.room.inj sameChannel)
        · intro other entry
          rw [OrderedMap.get_delete]
          split_ifs
          · intro absent
            cases absent
          · exact wired.roomBodies other entry
      · exact wired.recount found _

theorem addLocalSub (wired : Wired server) (ws : Connection)
    (roomId : String) : Wired (server.addLocalSub ws roomId) :=
  { wired with mirrored := mirrored_addLocalSub wired.mirrored ws roomId }

theorem deleteLocalSub (wired : Wired server) (ws : Connection)
    (roomId : String) : Wired (server.deleteLocalSub ws roomId) :=
  { wired with mirrored := mirrored_deleteLocalSub wired.mirrored ws roomId }

theorem subscribeRoom (wired : Wired server) (ws : Connection)
    (roomId : String) : Wired (server.subscribeRoom ws roomId) :=
  (wired.addLocalSub ws roomId).retainBus roomId

theorem unsubscribeRoom (wired : Wired server) (ws : Connection)
    (roomId : String) : Wired (server.unsubscribeRoom ws roomId) :=
  (wired.deleteLocalSub ws roomId).releaseBus roomId

theorem unsubscribeRooms (wired : Wired server) (ws : Connection)
    (roomIds : List String) : Wired (server.unsubscribeRooms ws roomIds) := by
  unfold Server.unsubscribeRooms
  induction roomIds generalizing server with
  | nil => exact wired
  | cons roomId rest induction =>
      exact induction (wired.unsubscribeRoom ws roomId)

theorem send (wired : Wired server) (sent : List Sent) :
    Wired (server.send sent) :=
  { wired with }

theorem retainPresence (wired : Wired server) :
    Wired server.retainPresence := by
  unfold Server.retainPresence
  cases found : server.presenceUnsub with
  | some unsub => exact wired
  | none =>
      have unfed := wired.presenceFeeds
      rw [found] at unfed
      dsimp only
      refine
        { roomFeeds := fun roomId =>
            (wired.roomFeeds roomId).subscribe_other _ nofun
          roomBodies := wired.roomBodies
          presenceFeeds := RedisMessageBus.Feeds.subscribe unfed _
          presenceBody := ?_
          mirrored := wired.mirrored }
      rintro unsub ⟨⟩
      rw [RedisMessageBus.subscribe_handler]

theorem releasePresence (wired : Wired server) :
    Wired server.releasePresence := by
  unfold Server.releasePresence
  cases found : server.presenceUnsub with
  | none => exact wired
  | some unsub =>
      have fed := wired.presenceFeeds
      rw [found] at fed
      dsimp only
      split_ifs
      · refine
          { roomFeeds := fun roomId => (wired.roomFeeds roomId).call_other ?_
            roomBodies := wired.roomBodies
            presenceFeeds := RedisMessageBus.Feeds.call fed
            presenceBody := nofun
            mirrored := wired.mirrored }
        rw [fed.1]
        nofun
      · exact wired

theorem deleteConn (wired : Wired server) (ws : Connection) :
    Wired (server.deleteConn ws) := by
  unfold Server.deleteConn
  split
  · exact wired
  · exact { wired with }

theorem register (wired : Wired server) (ws : Connection) :
    Wired (server.register ws) := by
  apply Wired.retainPresence
  exact { wired with }

theorem unregister (wired : Wired server) (ws : Connection) :
    Wired (server.unregister ws) := by
  apply Wired.releasePresence
  apply Wired.deleteConn
  exact wired.unsubscribeRooms ws _

end Wired

/-! ## Opening and closing -/

section Connections

variable (server : Server) (ws holder : Connection) (roomId : String)

@[simp]
theorem room_register :
    (server.register ws).room roomId = server.room roomId := by
  unfold register retainPresence
  split <;> rfl

@[simp]
theorem rooms_register : (server.register ws).rooms = server.rooms := by
  unfold register retainPresence
  split <;> rfl

@[simp]
theorem room_deleteConn_releasePresence :
    (server.deleteConn ws).releasePresence.room roomId =
      server.room roomId := by
  have deleted : (server.deleteConn ws).room roomId = server.room roomId := by
    unfold deleteConn
    split <;> rfl
  rw [← deleted]
  unfold releasePresence
  split
  · rfl
  · split_ifs <;> rfl

@[simp]
theorem rooms_deleteConn_releasePresence :
    (server.deleteConn ws).releasePresence.rooms = server.rooms := by
  have deleted : (server.deleteConn ws).rooms = server.rooms := by
    unfold deleteConn
    split <;> rfl
  rw [← deleted]
  unfold releasePresence
  split
  · rfl
  · split_ifs <;> rfl

/-- Closing releases the rooms that the connection lists, once each. -/
theorem room_unregister :
    (server.unregister ws).room roomId =
      if roomId ∈ server.rooms ws then (server.room roomId).release ws
      else server.room roomId := by
  unfold unregister
  rw [room_deleteConn_releasePresence, room_unsubscribeRooms,
    (server.rooms ws).nodup.count]
  simp only [OrderedSet.mem_toList]
  split_ifs <;> rfl

theorem mem_rooms_unregister :
    roomId ∈ (server.unregister ws).rooms holder ↔
      roomId ∈ server.rooms holder ∧ holder ≠ ws := by
  unfold unregister
  rw [rooms_deleteConn_releasePresence, mem_rooms_unsubscribeRooms]
  constructor
  · rintro ⟨listed, other⟩
    refine ⟨listed, ?_⟩
    rintro rfl
    exact other ⟨rfl, listed⟩
  · rintro ⟨listed, other⟩
    exact ⟨listed, fun same => other same.1⟩

end Connections

/-! ## What leaves the frames alone -/

section Frames

variable (server : Server) (ws : Connection) (roomId : String)

@[simp]
theorem sent_subscribeRoom :
    (server.subscribeRoom ws roomId).sent = server.sent := by
  unfold subscribeRoom retainBus
  split <;> rfl

@[simp]
theorem sent_unsubscribeRoom :
    (server.unsubscribeRoom ws roomId).sent = server.sent := by
  unfold unsubscribeRoom releaseBus
  split
  · rfl
  · split_ifs <;> rfl

@[simp]
theorem sent_unsubscribeRooms (roomIds : List String) :
    (server.unsubscribeRooms ws roomIds).sent = server.sent := by
  unfold unsubscribeRooms
  induction roomIds generalizing server with
  | nil => rfl
  | cons roomId rest induction =>
      rw [List.foldl_cons, induction, sent_unsubscribeRoom]

@[simp]
theorem sent_register : (server.register ws).sent = server.sent := by
  unfold register retainPresence
  split <;> rfl

@[simp]
theorem sent_unregister : (server.unregister ws).sent = server.sent := by
  unfold unregister
  rw [← sent_unsubscribeRooms server ws (server.rooms ws).toList]
  generalize server.unsubscribeRooms ws (server.rooms ws).toList = left
  have deleted : (left.deleteConn ws).sent = left.sent := by
    unfold deleteConn
    split <;> rfl
  rw [← deleted]
  unfold releasePresence
  split
  · rfl
  · split_ifs <;> rfl

end Frames

/-! ## Delivery -/

/-- What a wired server sends when an event reaches it. -/
def pushes (server : Server) (now : Time) :
    Channel × BusEvent → List Sent
  | (.room roomId, event) =>
      if (server.roomBusUnsub.get roomId).isSome then
        (server.subscribers roomId).toList.map (push now roomId event)
      else []
  | (.presenceGlobal, event) =>
      if server.presenceUnsub.isSome then
        server.userConns.values.flatMap fun conns =>
          conns.toList.map fun ws =>
            { ws, envelope := presenceEnvelope now event,
              fanOut := some .fanOutPresence }
      else []

variable {server : Server} {now : Time} {event : BusEvent}

theorem pushes_room (roomId : String) :
    server.pushes now (.room roomId, event) =
      if (server.roomBusUnsub.get roomId).isSome then
        (server.subscribers roomId).toList.map (push now roomId event)
      else [] := rfl

theorem send_nil : server.send [] = server := by
  unfold send
  rw [List.append_nil]

theorem send_send (first second : List Sent) :
    (server.send first).send second = server.send (first ++ second) := by
  unfold send
  rw [List.append_assoc]

theorem fanOutBusEvent_eq (roomId : String) :
    server.fanOutBusEvent now roomId event =
      server.send
        ((server.subscribers roomId).toList.map (push now roomId event)) := by
  unfold fanOutBusEvent subscribers
  cases server.roomLocalSubs.get roomId with
  | none => exact send_nil.symm
  | some subs =>
      dsimp only [Option.getD_some]
      split_ifs with empty
      · rw [OrderedSet.size_eq_zero_iff.mp empty]
        exact send_nil.symm
      · rfl

theorem deliver_eq (wired : Wired server) (entry : Channel × BusEvent) :
    server.deliver now entry = server.send (server.pushes now entry) := by
  rcases entry with ⟨channel, event⟩
  unfold deliver pushes
  cases channel with
  | room roomId =>
      dsimp only
      rw [RedisMessageBus.receivers_of_feeds (wired.roomFeeds roomId)]
      cases found : server.roomBusUnsub.get roomId with
      | none => exact send_nil.symm
      | some entry =>
          have body := wired.roomBodies roomId entry found
          simp [handle, body, fanOutBusEvent_eq]
  | presenceGlobal =>
      dsimp only
      rw [RedisMessageBus.receivers_of_feeds wired.presenceFeeds]
      cases found : server.presenceUnsub with
      | none => exact send_nil.symm
      | some unsub =>
          have body := wired.presenceBody unsub found
          simp [handle, body, fanOutPresence]

/-- Deliveries do not influence each other. -/
theorem deliver_foldl (wired : Wired server)
    (entries : List (Channel × BusEvent)) :
    entries.foldl (deliver now) server =
      server.send (entries.flatMap (server.pushes now)) := by
  induction entries using List.reverseRecOn with
  | nil => exact send_nil.symm
  | append_singleton entries entry induction =>
      rw [List.foldl_append, induction, List.foldl_cons, List.foldl_nil,
        deliver_eq (wired.send _), send_send, List.flatMap_append,
        List.flatMap_singleton]
      rfl

/-- The frames by which the events of a room reached a connection. -/
def received (ws : Connection) (roomId : String) (sent : List Sent) :
    List Sent :=
  sent.filter fun frame =>
    decide (frame.ws = ws ∧ frame.fanOut = some (.fanOutBusEvent roomId))

theorem received_append (ws : Connection) (roomId : String)
    (first second : List Sent) :
    received ws roomId (first ++ second) =
      received ws roomId first ++ received ws roomId second :=
  List.filter_append first second

theorem received_eq_nil {ws : Connection} {roomId : String}
    {sent : List Sent}
    (others : ∀ frame ∈ sent,
      frame.fanOut ≠ some (.fanOutBusEvent roomId)) :
    received ws roomId sent = [] := by
  apply List.filter_eq_nil_iff.mpr
  intro frame member pushed
  exact others frame member (of_decide_eq_true pushed).2

/-- Only the events of a room are pushed as events of the room. -/
theorem pushes_fanOut {roomId : String} {entry : Channel × BusEvent}
    {frame : Sent} (pushed : frame ∈ server.pushes now entry)
    (fanOut : frame.fanOut = some (.fanOutBusEvent roomId)) :
    entry.1 = .room roomId ∧ frame.ws ∈ server.subscribers roomId := by
  rcases entry with ⟨channel, event⟩
  unfold pushes at pushed
  cases channel with
  | room other =>
      dsimp only at pushed
      split_ifs at pushed
      · rcases List.mem_map.mp pushed with ⟨ws, subscribed, rfl⟩
        cases fanOut
        exact ⟨rfl, subscribed⟩
      · cases pushed
  | presenceGlobal =>
      dsimp only at pushed
      split_ifs at pushed
      · rcases List.mem_flatMap.mp pushed with ⟨conns, -, inner⟩
        rcases List.mem_map.mp inner with ⟨ws, -, rfl⟩
        cases fanOut
      · cases pushed

/-- A subscriber of a room with an entry gets an event of the room once. -/
theorem received_pushes {ws : Connection} {roomId : String}
    (entry : (server.roomBusUnsub.get roomId).isSome)
    (subscribed : ws ∈ server.subscribers roomId) :
    received ws roomId (server.pushes now (.room roomId, event)) =
      [push now roomId event ws] := by
  have selects : ((fun frame : Sent => decide (frame.ws = ws ∧
      frame.fanOut = some (.fanOutBusEvent roomId))) ∘
        push now roomId event) = fun other => decide (other = ws) := by
    funext other
    apply decide_eq_decide.mpr
    simp [push]
  unfold received
  rw [pushes_room, if_pos entry, List.filter_map, selects, List.filter_eq,
    List.count_eq_one_of_mem (server.subscribers roomId).nodup subscribed]
  rfl

end Server

end ChatBackend.Ws.Registry
