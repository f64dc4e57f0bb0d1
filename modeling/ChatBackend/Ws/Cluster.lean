import ChatBackend.Ws.Dispatch

/-!
# A cluster of instances

The instances of the server share the tables, the presence store and the
message bus, and each has connections and a registry of its own.  A connection
stays at the instance at which it was opened, and whatever an instance
publishes reaches every instance.

What happens is completed before the next thing happens, and neither the
database nor Redis fails.
-/

namespace ChatBackend.Ws.Cluster

open Effects
open Text (Json)
open ChatBackend.Chat.Store
open ChatBackend.Chat.MessageUseCases
open ChatBackend.Chat.Payloads
open ChatBackend.Chat.Requests
open ChatBackend.Ws.Registry
open ChatBackend.Ws.PresenceStore
open ChatBackend.Ws.Dispatch

/-! ## Settings -/

/-- What every instance is started with. -/
structure Settings where
  uuid : PgUuid
  /-- What `JSON.parse` makes of a text, unless it throws. -/
  parse : String → Option Json
  zod : Validation
  presenceTtlSec : Int

/-- The router that takes an envelope in, with what the send of it draws. -/
def Settings.router (settings : Settings) (draws : SendMessage.Draws) :
    Router where
  parse := settings.parse
  zod := settings.zod
  presenceTtlSec := settings.presenceTtlSec
  draws

/-- The settings, and the instance at which a connection is opened. -/
structure Deployment (Instance : Type) extends Settings where
  home : Connection → Instance

/-! ## What happens -/

/-- What happens at a cluster, each time up to its completion. -/
inductive Happening where
  | opens (ws : Connection)
  /-- A text comes in over a connection. -/
  | speaks (ws : Connection) (raw : String) (draws : SendMessage.Draws)
  /-- A chat request, whichever instance serves it. -/
  | serves (request : ChatRequest)
  | closes (ws : Connection)

/-- What the instances share, the instances, and the direct replies. -/
structure ClusterState (Instance : Type) where
  chat : ChatState
  presence : PresenceState
  servers : Instance → Server
  replies : List (Connection × Reply)

/-- Instances that have just been started. -/
def ClusterState.start (Instance : Type) (chat : ChatState) :
    ClusterState Instance where
  chat
  presence := .empty
  servers _ := .start
  replies := []

/-- What the presence store and the events are after a use case of presence. -/
def marked (presence : PresenceState) (now : Time)
    (program : PresenceProgram Unit) : PresenceState :=
  (program.run presenceAdapter now presence).2

/-- What was published between two states, messages before presence. -/
def publishedSince (chat : ChatState) (presence : PresenceState)
    (chatAfter : ChatState) (presenceAfter : PresenceState) :
    List (Channel × BusEvent) :=
  chatAfter.published.drop chat.published.length ++
    presenceAfter.published.drop presence.published.length

/-- The surroundings of an operation of which nothing fails. -/
def undisturbed (now : Time) : Moment where
  now
  elsewhere := id
  failure := none
  rejection := none

namespace ClusterState

variable {Instance : Type} [DecidableEq Instance]

/-- The state that the router of an instance works on. -/
def routerState (cluster : ClusterState Instance) (here : Instance) :
    RouterState where
  chat := cluster.chat
  presence := cluster.presence
  server := cluster.servers here
  sent := cluster.replies

/-- The cluster after the router of an instance has worked. -/
def store (cluster : ClusterState Instance) (here : Instance)
    (state : RouterState) : ClusterState Instance where
  chat := state.chat
  presence := state.presence
  servers := Function.update cluster.servers here state.server
  replies := state.sent

/-- What is published reaches every instance, in order. -/
def relay (cluster : ClusterState Instance) (now : Time)
    (entries : List (Channel × BusEvent)) : ClusterState Instance :=
  { cluster with
    servers := fun here =>
      entries.foldl (Server.deliver now) (cluster.servers here) }

variable (deployment : Deployment Instance) (cluster : ClusterState Instance)

/-- What happens, before the events that it publishes have arrived. -/
def act : Happening × Time → ClusterState Instance
  | (.opens ws, now) =>
      let here := deployment.home ws
      { cluster with
        servers := Function.update cluster.servers here
          ((cluster.servers here).register ws)
        presence := marked cluster.presence now
          (MarkUserOnline.execute now ws.userId ws.connId
            deployment.presenceTtlSec) }
  | (.speaks ws raw draws, now) =>
      let here := deployment.home ws
      cluster.store here ((dispatch (deployment.router draws) ws raw).run
        (routerAdapter deployment.uuid) (undisturbed now)
        (cluster.routerState here)).2
  | (.serves request, now) =>
      { cluster with
        chat := serve deployment.uuid cluster.chat (request, now) }
  | (.closes ws, now) =>
      let here := deployment.home ws
      { cluster with
        servers := Function.update cluster.servers here
          ((cluster.servers here).unregister ws)
        presence := marked cluster.presence now
          (MarkUserOffline.execute now ws.userId ws.connId) }

/-- One step of a run, with the deliveries of what it publishes. -/
def step (label : Happening × Time) : ClusterState Instance :=
  let after := cluster.act deployment label
  after.relay label.2 (publishedSince cluster.chat cluster.presence
    after.chat after.presence)

end ClusterState

/-- The envelopes of the events that were pushed to a connection, in order. -/
def pushedTo (ws : Connection) (sent : List Sent) : List Envelope :=
  (sent.filter fun frame => decide (frame.ws = ws)).map Sent.envelope

end ChatBackend.Ws.Cluster
