import ChatBackend.Chat.Requests
import ChatBackend.Ws.Registry

/-!
# One server over the chat tables

The handlers of the gateway and of the requests that act on the registry, and
the runs in which they, the chat requests and the deliveries of their events
are completed one after another.  Payloads have passed their schemas.
-/

namespace ChatBackend.Ws.Gateway

open Collections
open Effects
open ChatBackend.Chat.Store
open ChatBackend.Chat.Schema
open ChatBackend.Chat.RoomUseCases
open ChatBackend.Chat.Requests
open ChatBackend.Ws.Registry

/-! ## Envelopes -/

def buildAck (refId : Option String) (payload : Payload) (now : Time) :
    Envelope where
  type := "ack"
  payload
  refId
  ts := now

def buildError (refId : Option String) (code message : String) (now : Time) :
    Envelope where
  type := "error"
  payload := .error code message
  refId
  ts := now

/-- The code and the message with which `dispatch` answers for an error. -/
def errorReply : Failure → String × String
  | .notFoundError message => ("NOTFOUND", message)
  | .conflictError message => ("CONFLICT", message)
  | .forbiddenError message => ("FORBIDDEN", message)
  | .validationError message => ("VALIDATION", message)
  | .authError message => ("AUTH", message)
  | .rateLimitError _ => ("RATELIMIT", "Too many requests")
  | .databaseError _ => ("INTERNAL_ERROR", "Internal server error")
  | .typeError => ("INTERNAL_ERROR", "Internal server error")

/-- A call of `ws.send` by a handler. -/
def reply (ws : Connection) (envelope : Envelope) : Sent where
  ws
  envelope
  fanOut := none

/-! ## Handlers -/

/-- What `roomRepo.getMember` answers. -/
def getMember (uuid : PgUuid) (chat : ChatState) (roomId userId : String) :
    Except Failure (Option RoomMember) :=
  (PgRoomRepository.handle uuid chat (.getMember roomId userId)).map Prod.fst

/-- Subscribe to a room, unless the connection lists it. -/
def joinRoom (ws : Connection) (server : Server) (roomId : String) : Server :=
  if roomId ∈ server.rooms ws then server else server.subscribeRoom ws roomId

/-- The loop of `handleChatSubscribe`, with the ids it has subscribed. -/
def subscribeMember (uuid : PgUuid) (chat : ChatState) (ws : Connection) :
    List String → List String → Server →
      Except Failure (List String) × Server
  | [], subscribed, server => (.ok subscribed, server)
  | roomId :: rest, subscribed, server =>
      match getMember uuid chat roomId ws.userId with
      | .error error => (.error error, server)
      | .ok none => subscribeMember uuid chat ws rest subscribed server
      | .ok (some _) =>
          subscribeMember uuid chat ws rest (subscribed ++ [roomId])
            (joinRoom ws server roomId)

/-- `chat.subscribe`, with the answer of `dispatch` if it throws. -/
def handleChatSubscribe (uuid : PgUuid) (chat : ChatState) (now : Time)
    (server : Server) (ws : Connection) (refId : Option String)
    (roomIds : List String) : Server :=
  match subscribeMember uuid chat ws roomIds [] server with
  | (.ok subscribed, server) =>
      server.send [reply ws (buildAck refId (.subscribed subscribed) now)]
  | (.error error, server) =>
      let (code, message) := errorReply error
      server.send [reply ws (buildError refId code message now)]

/-- `chat.unsubscribe` -/
def handleChatUnsubscribe (now : Time) (server : Server) (ws : Connection)
    (refId : Option String) (roomIds : List String) : Server :=
  (server.unsubscribeRooms ws roomIds).send
    [reply ws (buildAck refId (.unsubscribed roomIds) now)]

/-! ## Runs -/

/-- The chat tables and a server. -/
structure World where
  chat : ChatState
  server : Server

/-- What happens at a server, each time up to its completion. -/
inductive Happening where
  | opens (ws : Connection)
  | subscribes (ws : Connection) (refId : Option String)
      (roomIds : List String)
  | unsubscribes (ws : Connection) (refId : Option String)
      (roomIds : List String)
  | closes (ws : Connection)
  /-- A chat request, whichever server serves it. -/
  | serves (request : ChatRequest)
  /-- An event that comes from elsewhere. -/
  | hears (channel : Channel) (event : BusEvent)
deriving DecidableEq

/-- One step of a run; the time is that of the server's and database's clock. -/
def step (uuid : PgUuid) (world : World) : Happening × Time → World
  | (.opens ws, _) => { world with server := world.server.register ws }
  | (.subscribes ws refId roomIds, now) =>
      { world with
        server :=
          handleChatSubscribe uuid world.chat now world.server ws refId
            roomIds }
  | (.unsubscribes ws refId roomIds, now) =>
      { world with
        server := handleChatUnsubscribe now world.server ws refId roomIds }
  | (.closes ws, _) => { world with server := world.server.unregister ws }
  | (.serves request, now) =>
      let chat := serve uuid world.chat (request, now)
      let entries := chat.published.drop world.chat.published.length
      { chat, server := entries.foldl (Server.deliver now) world.server }
  | (.hears channel event, now) =>
      { world with server := world.server.deliver now (channel, event) }

/-- The events that reach the server in a step, in order. -/
def arrivals (uuid : PgUuid) (now : Time) (world : World) :
    Happening → List (Channel × BusEvent)
  | .serves request =>
      (serve uuid world.chat (request, now)).published.drop
        world.chat.published.length
  | .hears channel event => [(channel, event)]
  | _ => []

/-- The frames that a step sends. -/
def sentBy (uuid : PgUuid) (world : World) (label : Happening × Time) :
    List Sent :=
  (step uuid world label).server.sent.drop world.server.sent.length

/-- The happening in which a connection gives up a room. -/
def GivesUp (ws : Connection) (roomId : String) : Happening → Prop
  | .unsubscribes other _ roomIds => other = ws ∧ roomId ∈ roomIds
  | .closes other => other = ws
  | _ => False

instance (ws : Connection) (roomId : String) :
    DecidablePred (GivesUp ws roomId)
  | .unsubscribes other _ roomIds =>
      inferInstanceAs (Decidable (other = ws ∧ roomId ∈ roomIds))
  | .closes other => inferInstanceAs (Decidable (other = ws))
  | .opens _ => isFalse id
  | .subscribes _ _ _ => isFalse id
  | .serves _ => isFalse id
  | .hears _ _ => isFalse id

/-! ## What the handlers do to the registry -/

section Handlers

variable {uuid : PgUuid} {chat : ChatState} {now : Time} {server : Server}
  {ws : Connection}

theorem getMember_eq_some {roomId userId : String} {row : RoomMember}
    (found : getMember uuid chat roomId userId = .ok (some row)) :
    Membership uuid chat roomId userId row := by
  unfold getMember at found
  cases handled : PgRoomRepository.handle uuid chat
      (.getMember roomId userId) with
  | error error =>
      rw [handled] at found
      cases found
  | ok result =>
      rcases result with ⟨answer, after⟩
      rw [handled] at found
      cases found
      have answered : chatAdapter uuid (.roomRepo (.getMember roomId userId))
          0 chat = .ok (some row, after) := handled
      obtain ⟨room, roomRead, user, userRead, looked, -⟩ :=
        getMember_eq_ok_iff.mp answered
      exact membership_of_first roomRead userRead looked

variable (uuid chat server ws)

/-- Rooms are joined one after another, each by a member. -/
theorem subscribeMember_joins (roomIds subscribed : List String) :
    ∃ joined : List String,
      (subscribeMember uuid chat ws roomIds subscribed server).2 =
        joined.foldl (joinRoom ws) server ∧
      ∀ roomId ∈ joined, roomId ∈ roomIds ∧
        ∃ row, Membership uuid chat roomId ws.userId row := by
  induction roomIds generalizing subscribed server with
  | nil => exact ⟨[], rfl, nofun⟩
  | cons roomId rest induction =>
      unfold subscribeMember
      cases found : getMember uuid chat roomId ws.userId with
      | error error => exact ⟨[], rfl, nofun⟩
      | ok answer =>
          cases answer with
          | none =>
              rcases induction server subscribed with ⟨joined, equal, allowed⟩
              refine ⟨joined, equal, fun other member => ?_⟩
              rcases allowed other member with ⟨listed, row⟩
              exact ⟨.tail _ listed, row⟩
          | some row =>
              obtain ⟨joined, equal, allowed⟩ :=
                induction (joinRoom ws server roomId) (subscribed ++ [roomId])
              refine ⟨roomId :: joined, equal, fun other member => ?_⟩
              rcases List.mem_cons.mp member with rfl | later
              · exact ⟨.head _, row, getMember_eq_some found⟩
              · rcases allowed other later with ⟨listed, row⟩
                exact ⟨.tail _ listed, row⟩

/-- What a request to subscribe does: joining rooms and one reply. -/
theorem handleChatSubscribe_joins (refId : Option String)
    (roomIds : List String) :
    ∃ (joined : List String) (envelope : Envelope),
      handleChatSubscribe uuid chat now server ws refId roomIds =
        (joined.foldl (joinRoom ws) server).send [reply ws envelope] ∧
      ∀ roomId ∈ joined, roomId ∈ roomIds ∧
        ∃ row, Membership uuid chat roomId ws.userId row := by
  obtain ⟨joined, equal, allowed⟩ :=
    subscribeMember_joins uuid chat server ws roomIds []
  refine ⟨joined, ?_⟩
  unfold handleChatSubscribe
  rw [← equal]
  rcases subscribeMember uuid chat ws roomIds [] server with
    ⟨error | subscribed, after⟩
  · exact ⟨_, rfl, allowed⟩
  · exact ⟨_, rfl, allowed⟩

variable {uuid chat server ws}

theorem wired_joinRooms (wired : server.Wired) (roomIds : List String) :
    (roomIds.foldl (joinRoom ws) server).Wired := by
  induction roomIds generalizing server with
  | nil => exact wired
  | cons roomId rest induction =>
      apply induction
      unfold joinRoom
      split_ifs
      · exact wired
      · exact wired.subscribeRoom ws roomId

theorem mem_rooms_joinRooms (holder : Connection) (other : String)
    (roomIds : List String) :
    other ∈ (roomIds.foldl (joinRoom ws) server).rooms holder ↔
      other ∈ server.rooms holder ∨ (holder = ws ∧ other ∈ roomIds) := by
  induction roomIds generalizing server with
  | nil => simp
  | cons roomId rest induction =>
      rw [List.foldl_cons, induction, List.mem_cons]
      unfold joinRoom
      split_ifs with listed
      · constructor
        · tauto
        · rintro (already | ⟨rfl, rfl | later⟩)
          · exact .inl already
          · exact .inl listed
          · exact .inr ⟨rfl, later⟩
      · rw [Server.mem_rooms_subscribeRoom]
        tauto

theorem sent_joinRooms (roomIds : List String) :
    (roomIds.foldl (joinRoom ws) server).sent = server.sent := by
  induction roomIds generalizing server with
  | nil => rfl
  | cons roomId rest induction =>
      rw [List.foldl_cons, induction]
      unfold joinRoom
      split_ifs
      · rfl
      · exact Server.sent_subscribeRoom server ws roomId

end Handlers

/-! ## What a step does -/

/-- The states in which a happening may leave the tables and the server. -/
inductive Ends (uuid : PgUuid) (now : Time) (world : World) :
    Happening → World → Prop where
  | opens (ws : Connection) :
      Ends uuid now world (.opens ws)
        { world with server := world.server.register ws }
  | subscribes (ws : Connection) (refId : Option String)
      (roomIds joined : List String) (envelope : Envelope)
      (allowed : ∀ roomId ∈ joined, roomId ∈ roomIds ∧
        ∃ row, Membership uuid world.chat roomId ws.userId row) :
      Ends uuid now world (.subscribes ws refId roomIds)
        { world with
          server :=
            (joined.foldl (joinRoom ws) world.server).send
              [reply ws envelope] }
  | unsubscribes (ws : Connection) (refId : Option String)
      (roomIds : List String) (envelope : Envelope) :
      Ends uuid now world (.unsubscribes ws refId roomIds)
        { world with
          server :=
            (world.server.unsubscribeRooms ws roomIds).send
              [reply ws envelope] }
  | closes (ws : Connection) :
      Ends uuid now world (.closes ws)
        { world with server := world.server.unregister ws }
  | serves (request : ChatRequest) (chat : ChatState)
      (served : serve uuid world.chat (request, now) = chat) :
      Ends uuid now world (.serves request)
        { chat
          server :=
            world.server.send
              ((chat.published.drop world.chat.published.length).flatMap
                (world.server.pushes now)) }
  | hears (channel : Channel) (event : BusEvent) :
      Ends uuid now world (.hears channel event)
        { world with
          server :=
            world.server.send (world.server.pushes now (channel, event)) }

section Steps

variable {uuid : PgUuid} {now : Time} {world after : World}
  {happening : Happening}

theorem step_ends (wired : world.server.Wired) (happening : Happening)
    (now : Time) :
    Ends uuid now world happening (step uuid world (happening, now)) := by
  unfold step
  cases happening with
  | opens ws => exact .opens ws
  | subscribes ws refId roomIds =>
      obtain ⟨joined, envelope, equal, allowed⟩ :=
        handleChatSubscribe_joins uuid world.chat world.server ws refId roomIds
      dsimp only
      rw [equal]
      exact .subscribes ws refId roomIds joined envelope allowed
  | unsubscribes ws refId roomIds => exact .unsubscribes ws refId roomIds _
  | closes ws => exact .closes ws
  | serves request =>
      dsimp only
      rw [Server.deliver_foldl wired]
      exact .serves request _ rfl
  | hears channel event =>
      dsimp only
      rw [Server.deliver_eq wired]
      exact .hears channel event

theorem Ends.wired (ends : Ends uuid now world happening after)
    (wired : world.server.Wired) : after.server.Wired := by
  cases ends with
  | opens ws => exact wired.register ws
  | subscribes ws refId roomIds joined envelope allowed =>
      exact (wired_joinRooms wired joined).send _
  | unsubscribes ws refId roomIds envelope =>
      exact (wired.unsubscribeRooms ws roomIds).send _
  | closes ws => exact wired.unregister ws
  | serves request chat served => exact wired.send _
  | hears channel event => exact wired.send _

/-- A connection keeps the rooms it lists until it gives them up. -/
theorem Ends.lists (ends : Ends uuid now world happening after)
    {ws : Connection} {roomId : String}
    (listed : roomId ∈ world.server.rooms ws)
    (keeps : ¬ GivesUp ws roomId happening) :
    roomId ∈ after.server.rooms ws := by
  cases ends with
  | opens other =>
      rw [Server.rooms_register]
      exact listed
  | subscribes other refId roomIds joined envelope allowed =>
      exact (mem_rooms_joinRooms ws roomId joined).mpr (.inl listed)
  | unsubscribes other refId roomIds envelope =>
      apply (Server.mem_rooms_unsubscribeRooms _ _ _ _ _).mpr
      refine ⟨listed, ?_⟩
      rintro ⟨rfl, named⟩
      exact keeps ⟨rfl, named⟩
  | closes other =>
      apply (Server.mem_rooms_unregister _ _ _ _).mpr
      exact ⟨listed, fun same => keeps same.symm⟩
  | serves request chat served => exact listed
  | hears channel event => exact listed

/-- A connection lists a room since before or from a request of its member. -/
theorem Ends.lists_of (ends : Ends uuid now world happening after)
    {ws : Connection} {roomId : String}
    (listed : roomId ∈ after.server.rooms ws) :
    (roomId ∈ world.server.rooms ws ∧ ¬ GivesUp ws roomId happening) ∨
      (∃ refId roomIds, happening = .subscribes ws refId roomIds ∧
        roomId ∈ roomIds ∧
          ∃ row, Membership uuid world.chat roomId ws.userId row) := by
  cases ends with
  | opens other =>
      rw [Server.rooms_register] at listed
      exact .inl ⟨listed, id⟩
  | subscribes other refId roomIds joined envelope allowed =>
      rcases (mem_rooms_joinRooms ws roomId joined).mp listed with
        already | ⟨rfl, joins⟩
      · exact .inl ⟨already, id⟩
      · rcases allowed roomId joins with ⟨named, member⟩
        exact .inr ⟨refId, roomIds, rfl, named, member⟩
  | unsubscribes other refId roomIds envelope =>
      have kept := (Server.mem_rooms_unsubscribeRooms _ _ _ _ _).mp listed
      exact .inl ⟨kept.1, fun ⟨same, named⟩ => kept.2 ⟨same.symm, named⟩⟩
  | closes other =>
      have kept := (Server.mem_rooms_unregister _ _ _ _).mp listed
      exact .inl ⟨kept.1, fun same => kept.2 same.symm⟩
  | serves request chat served => exact .inl ⟨listed, id⟩
  | hears channel event => exact .inl ⟨listed, id⟩

/-- A step sends replies, and what the arriving events are pushed as. -/
theorem Ends.sent (ends : Ends uuid now world happening after) :
    ∃ replies : List Sent, (∀ frame ∈ replies, frame.fanOut = none) ∧
      after.server.sent = world.server.sent ++ (replies ++
        (arrivals uuid now world happening).flatMap
          (world.server.pushes now)) := by
  cases ends with
  | opens ws =>
      refine ⟨[], by simp, ?_⟩
      simp [arrivals]
  | subscribes ws refId roomIds joined envelope allowed =>
      refine ⟨[reply ws envelope], by simp [reply], ?_⟩
      simp [Server.send, sent_joinRooms, arrivals]
  | unsubscribes ws refId roomIds envelope =>
      refine ⟨[reply ws envelope], by simp [reply], ?_⟩
      simp [Server.send, arrivals]
  | closes ws =>
      refine ⟨[], by simp, ?_⟩
      simp [arrivals]
  | serves request chat served =>
      refine ⟨[], by simp, ?_⟩
      simp [Server.send, arrivals, served]
  | hears channel event =>
      refine ⟨[], by simp, ?_⟩
      simp [Server.send, arrivals]

/-- What a connection receives of a room in a step. -/
theorem received_sentBy (wired : world.server.Wired) (ws : Connection)
    (roomId : String) (happening : Happening) (now : Time) :
    Server.received ws roomId (sentBy uuid world (happening, now)) =
      Server.received ws roomId
        ((arrivals uuid now world happening).flatMap
          (world.server.pushes now)) := by
  rcases (step_ends wired happening now).sent with ⟨replies, direct, equal⟩
  have others : Server.received ws roomId replies = [] := by
    apply Server.received_eq_nil
    intro frame member
    rw [direct frame member]
    nofun
  unfold sentBy
  rw [equal, List.drop_left, Server.received_append, others,
    List.nil_append]

end Steps

/-- The tables and a server that has just started. -/
def World.start (chat : ChatState) : World where
  chat
  server := .start

/-- In every run the registry stays wired to the bus. -/
theorem wired_run (uuid : PgUuid) {world : World}
    (wired : world.server.Wired) (labels : List (Happening × Time)) :
    (Transition.run (step uuid) world labels).server.Wired := by
  have kept (world : World) (label : Happening × Time)
      (before : world.server.Wired) :
      (step uuid world label).server.Wired :=
    (step_ends before label.1 label.2).wired before
  exact Transition.run_invariant kept wired labels

/-- Until it gives a room up, a connection goes on listing it. -/
theorem lists_run (uuid : PgUuid) {world : World}
    (wired : world.server.Wired) {ws : Connection} {roomId : String}
    (listed : roomId ∈ world.server.rooms ws)
    {labels : List (Happening × Time)}
    (keeps : ∀ label ∈ labels, ¬ GivesUp ws roomId label.1) :
    roomId ∈ (Transition.run (step uuid) world labels).server.rooms ws := by
  induction labels generalizing world with
  | nil => exact listed
  | cons label rest induction =>
      have ends : Ends uuid label.2 world label.1 (step uuid world label) :=
        step_ends wired label.1 label.2
      apply induction (ends.wired wired)
      · exact ends.lists listed (keeps label (.head _))
      · exact fun other later => keeps other (.tail _ later)

end ChatBackend.Ws.Gateway
