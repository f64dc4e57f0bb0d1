import ChatBackend.Ws.Cluster
import Mathlib.Data.Finset.Basic

/-!
# One hub for all connections

What a cluster of instances is for, without registries, subscriptions to a bus
or instances: a hub knows which connections are open and which rooms each of
them has joined.  An event of a room is pushed to the connections that have
joined the room, and an event of presence to all that are open, once each.

The router and the use cases are those of the instances.
-/

namespace ChatBackend.Ws.Hub

open Effects
open ChatBackend.Chat.Store
open ChatBackend.Chat.Payloads
open ChatBackend.Chat.Requests
open ChatBackend.Ws.Registry
open ChatBackend.Ws.PresenceStore
open ChatBackend.Ws.Dispatch
open ChatBackend.Ws.Cluster

structure HubState where
  chat : ChatState
  presence : PresenceState
  present : Finset Connection
  rooms : Connection → Finset String
  pushed : Connection → List Envelope
  replies : List (Connection × Reply)

/-- A hub without connections. -/
def HubState.start (chat : ChatState) : HubState where
  chat
  presence := .empty
  present := ∅
  rooms _ := ∅
  pushed _ := []
  replies := []

namespace HubState

/-! ## Publishing -/

/-- The connections that events of a channel are for. -/
def Hears (hub : HubState) (ws : Connection) : Channel → Prop
  | .room roomId => roomId ∈ hub.rooms ws
  | .presenceGlobal => ws ∈ hub.present

instance (hub : HubState) (ws : Connection) : DecidablePred (hub.Hears ws)
  | .room roomId => inferInstanceAs (Decidable (roomId ∈ hub.rooms ws))
  | .presenceGlobal => inferInstanceAs (Decidable (ws ∈ hub.present))

/-- The envelope in which an event of a channel is pushed. -/
def envelope (now : Time) : Channel × BusEvent → Envelope
  | (.room _, event) => Server.eventEnvelope now event
  | (.presenceGlobal, event) => Server.presenceEnvelope now event

/-- Push an event to every connection that it is for. -/
def publish (now : Time) (hub : HubState) (entry : Channel × BusEvent) :
    HubState :=
  { hub with
    pushed := fun ws =>
      if hub.Hears ws entry.1 then hub.pushed ws ++ [envelope now entry]
      else hub.pushed ws }

/-! ## Operations of the router -/

def join (hub : HubState) (ws : Connection) (roomId : String) : HubState :=
  { hub with
    rooms := Function.update hub.rooms ws (insert roomId (hub.rooms ws)) }

def leave (hub : HubState) (ws : Connection) (roomId : String) : HubState :=
  { hub with
    rooms := Function.update hub.rooms ws ((hub.rooms ws).erase roomId) }

end HubState

def hubAdapter (uuid : PgUuid) : Adapter RouterPort Time HubState Empty
  | .chat op, now, hub =>
      let (answer, chat) :=
        attempted none .failure (chatAdapter uuid op now hub.chat) hub.chat
      .ok (answer, { hub with chat })
  | .presence op, now, hub =>
      let (answer, presence) := attempted none Empty.elim
        (presenceAdapter op now hub.presence) hub.presence
      .ok (answer, { hub with presence })
  | .hasRoom ws roomId, _, hub =>
      .ok (decide (roomId ∈ hub.rooms ws), hub)
  | .subscribeRoom ws roomId, _, hub => .ok (.ok (), hub.join ws roomId)
  | .unsubscribeRoom ws roomId, _, hub => .ok ((), hub.leave ws roomId)
  | .now, now, hub => .ok (now, hub)
  | .send ws reply, _, hub =>
      .ok ((), { hub with replies := hub.replies ++ [(ws, reply)] })

namespace HubState

variable (settings : Settings) (hub : HubState)

/-- What happens, before the events that it publishes have arrived. -/
def act : Happening × Time → HubState
  | (.opens ws, now) =>
      { hub with
        present := insert ws hub.present
        presence := marked hub.presence now
          (MarkUserOnline.execute now ws.userId ws.connId
            settings.presenceTtlSec) }
  | (.speaks ws raw draws, now) =>
      ((dispatch (settings.router draws) ws raw).run
        (hubAdapter settings.uuid) now hub).2
  | (.serves request, now) =>
      { hub with chat := serve settings.uuid hub.chat (request, now) }
  | (.closes ws, now) =>
      { hub with
        present := hub.present.erase ws
        rooms := Function.update hub.rooms ws ∅
        presence := marked hub.presence now
          (MarkUserOffline.execute now ws.userId ws.connId) }

/-- One step of a run, with the events that it publishes. -/
def step (label : Happening × Time) : HubState :=
  let after := hub.act settings label
  (publishedSince hub.chat hub.presence after.chat after.presence).foldl
    (publish label.2) after

end HubState

/-! ## What clients are to do -/

/-- The rooms that a text asks to give up. -/
def givenUp (settings : Settings) (raw : String) : List String :=
  match parseEnvelope settings.parse raw with
  | .error _ => []
  | .ok envelope =>
      if envelope.type = "chat.unsubscribe" then
        match ChatUnsubscribePayloadSchema settings.zod envelope.payload with
        | .ok roomIds => roomIds
        | .error _ => []
      else []

/-- A connection gives up rooms that it has joined, and each of them once. -/
def Tidy (settings : Settings) (hub : HubState) : Happening × Time → Prop
  | (.speaks ws raw _, _) => (givenUp settings raw).Nodup ∧
      ∀ roomId ∈ givenUp settings raw, roomId ∈ hub.rooms ws
  | _ => True

instance (settings : Settings) (hub : HubState) :
    DecidablePred (Tidy settings hub)
  | (.speaks _ _ _, _) => inferInstanceAs (Decidable (_ ∧ _))
  | (.opens _, _) => isTrue trivial
  | (.serves _, _) => isTrue trivial
  | (.closes _, _) => isTrue trivial

end ChatBackend.Ws.Hub
