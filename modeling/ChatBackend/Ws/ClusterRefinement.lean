import ChatBackend.Effects.Refinement
import ChatBackend.Ws.Hub
import ChatBackend.Ws.PresenceOnce
import ChatBackend.Ws.Subscriptions

/-!
# A cluster is one hub

However many instances there are and wherever connections are opened, clients
cannot tell the cluster from a hub: every connection is pushed the same events
in the same order and is given the same replies, and the tables and the presence
store are the same.  Clients may give up only rooms that they have joined, each
once.

An instance serves the connections that are at home there: it lists what they
have joined and counts it, and it listens to presence while one is open.
-/

namespace ChatBackend.Ws.ClusterRefinement

open Collections
open Effects
open Effects.Program
open Transition
open ChatBackend.Chat.Store
open ChatBackend.Chat.MessageUseCases
open ChatBackend.Chat.Payloads
open ChatBackend.Chat.Requests
open ChatBackend.Ws.Registry
open ChatBackend.Ws.AwaitingRegistry (AwaitingServer Tracked)
open ChatBackend.Ws.PresenceOnce (Attended Registered)
open ChatBackend.Ws.Dispatch
open ChatBackend.Ws.Cluster
open ChatBackend.Ws.Hub

/-! ## One instance -/

section Instances

variable {Instance : Type} [DecidableEq Instance]

/-- The instance serves the connections of the hub that are at home there. -/
structure Serves (home : Connection → Instance) (here : Instance)
    (server : Server) (hub : HubState) : Prop where
  wired : server.Wired
  tracked : Tracked server []
  counted : ∀ roomId, (server.room roomId).Exact
  listens : server.presenceUnsub.isSome ↔ Attended server
  rooms : ∀ ws roomId, roomId ∈ server.rooms ws ↔
    home ws = here ∧ roomId ∈ hub.rooms ws
  present : ∀ ws, Registered server ws ↔ home ws = here ∧ ws ∈ hub.present
  pushed : ∀ ws, pushedTo ws server.sent =
    if home ws = here then hub.pushed ws else []

variable {home : Connection → Instance} {here : Instance} {server : Server}
  {hub : HubState} {ws : Connection} {roomId : String}

theorem serves_start (chat : ChatState) :
    Serves home here .start (.start chat) where
  wired := .start
  tracked := AwaitingRegistry.tracked_start
  counted _ := rfl
  listens := by
    refine iff_of_false Bool.false_ne_true ?_
    rintro ⟨ws, conns, stored, -⟩
    cases stored
  rooms ws roomId := by
    refine iff_of_false (OrderedSet.not_mem_empty roomId) ?_
    exact fun joined => absurd joined.2 (Finset.notMem_empty roomId)
  present ws := by
    refine iff_of_false ?_ fun opened =>
      absurd opened.2 (Finset.notMem_empty ws)
    rintro ⟨conns, stored, -⟩
    cases stored
  pushed ws := by split_ifs <;> rfl

/-- An instance does not depend on the stores or the replies. -/
theorem Serves.congr {other : HubState} (serves : Serves home here server hub)
    (rooms : other.rooms = hub.rooms) (present : other.present = hub.present)
    (pushed : other.pushed = hub.pushed) : Serves home here server other where
  wired := serves.wired
  tracked := serves.tracked
  counted := serves.counted
  listens := serves.listens
  rooms := rooms ▸ serves.rooms
  present := present ▸ serves.present
  pushed := pushed ▸ serves.pushed

/-! ### Pushing -/

theorem pushedTo_append (first second : List Sent) :
    pushedTo ws (first ++ second) =
      pushedTo ws first ++ pushedTo ws second := by
  unfold pushedTo
  rw [List.filter_append, List.map_append]

/-- One frame for each of some connections is one for those among them. -/
theorem pushedTo_map {connections : List Connection}
    (distinct : connections.Nodup) (frame : Connection → Sent)
    (envelope : Envelope) (addressed : ∀ ws, (frame ws).ws = ws)
    (carries : ∀ ws, (frame ws).envelope = envelope) :
    pushedTo ws (connections.map frame) =
      if ws ∈ connections then [envelope] else [] := by
  have selects : ((fun sent : Sent => decide (sent.ws = ws)) ∘ frame) =
      fun other => decide (other = ws) := by
    funext other
    rw [Function.comp_apply, addressed]
  unfold pushedTo
  rw [List.filter_map, selects, List.filter_eq]
  split_ifs with member
  · rw [List.count_eq_one_of_mem distinct member]
    exact congrArg (fun sent => [sent]) (carries ws)
  · rw [List.count_eq_zero_of_not_mem member]
    rfl

/-- A room with subscribers has an entry, so that they are pushed its events. -/
theorem pushes_room_eq (counted : ∀ roomId, (server.room roomId).Exact)
    (now : Time) (event : BusEvent) :
    server.pushes now (.room roomId, event) =
      (server.subscribers roomId).toList.map
        (Server.push now roomId event) := by
  rw [Server.pushes_room]
  split_ifs with entry
  · rfl
  · have none_ : (server.room roomId).counter = none := by
      unfold Server.room
      simpa using entry
    have empty : server.subscribers roomId = ∅ :=
      OrderedSet.size_eq_zero_iff.mp
        ((counted roomId).counter_eq_none_iff.mp none_)
    rw [empty]
    rfl

/-- An instance pushes an event to the connections of the hub at home there. -/
theorem Serves.pushedTo_pushes (serves : Serves home here server hub)
    (now : Time) (entry : Channel × BusEvent) :
    pushedTo ws (server.pushes now entry) =
      if home ws = here ∧ hub.Hears ws entry.1 then
        [HubState.envelope now entry]
      else [] := by
  rcases entry with ⟨channel, event⟩
  cases channel with
  | room roomId =>
      rw [pushes_room_eq serves.counted]
      rw [pushedTo_map (server.subscribers roomId).nodup
        (Server.push now roomId event) (Server.eventEnvelope now event)
        (fun _ => rfl) fun _ => rfl]
      refine if_congr ?_ rfl rfl
      exact (serves.wired.mirrored ws roomId).trans (serves.rooms ws roomId)
  | presenceGlobal =>
      obtain ⟨distinct, members⟩ := PresenceOnce.connections serves.tracked
      let frame (ws : Connection) : Sent :=
        { ws, envelope := Server.presenceEnvelope now event,
          fanOut := some .fanOutPresence }
      have frames : server.pushes now (.presenceGlobal, event) =
          (server.userConns.values.flatMap OrderedSet.toList).map frame := by
        unfold Server.pushes
        dsimp only
        split_ifs with listening
        · rw [List.map_flatMap]
        · have nobody : server.userConns.values.flatMap OrderedSet.toList =
              [] := by
            rw [List.eq_nil_iff_forall_not_mem]
            exact fun ws member =>
              listening (serves.listens.mpr ⟨ws, (members ws).mp member⟩)
          rw [nobody]
          rfl
      rw [frames, pushedTo_map distinct frame
        (Server.presenceEnvelope now event) (fun _ => rfl) fun _ => rfl]
      refine if_congr ?_ rfl rfl
      exact (members ws).trans (serves.present ws)

theorem Serves.deliver (serves : Serves home here server hub) (now : Time)
    (entry : Channel × BusEvent) :
    Serves home here (server.deliver now entry) (hub.publish now entry) := by
  rw [Server.deliver_eq serves.wired]
  refine
    { wired := serves.wired.send _
      tracked := { serves.tracked with }
      counted := serves.counted
      listens := serves.listens
      rooms := serves.rooms
      present := serves.present
      pushed := fun ws => ?_ }
  change pushedTo ws (server.sent ++ server.pushes now entry) = _
  rw [pushedTo_append, serves.pushed, serves.pushedTo_pushes]
  unfold HubState.publish
  dsimp only
  by_cases home_ : home ws = here
  · by_cases hears : hub.Hears ws entry.1
    · simp only [home_, hears, and_self, if_true]
    · simp only [home_, hears, and_false, if_true, if_false, List.append_nil]
  · simp only [home_, false_and, if_false, List.append_nil]

theorem Serves.deliver_all (serves : Serves home here server hub) (now : Time)
    (entries : List (Channel × BusEvent)) :
    Serves home here (entries.foldl (Server.deliver now) server)
      (entries.foldl (HubState.publish now) hub) := by
  induction entries generalizing server hub with
  | nil => exact serves
  | cons entry rest induction => exact induction (serves.deliver now entry)

/-! ### Opening and closing -/

/-- What a registration does to the connections, at once. -/
theorem tracked_register (tracked : Tracked server []) (ws : Connection) :
    Tracked (server.register ws) [] := by
  let awaiting : AwaitingServer := { server with pending := [] }
  have awaited : Tracked awaiting.toServer awaiting.pending := tracked
  have registered := (awaited.register ws).resolve
    (AwaitingRegistry.nextFor awaiting.toServer .fanOutPresence)
  rw [AwaitingRegistry.resolve_register awaited] at registered
  exact registered

theorem registered_register (ws other : Connection) :
    Registered (server.register ws) other ↔
      Registered server other ∨ other = ws := by
  have added : (server.register ws).userConns =
      (server.addConn ws).userConns := by
    unfold Server.register Server.retainPresence
    split <;> rfl
  rw [PresenceOnce.registered_congr added, PresenceOnce.registered_addConn]

theorem listens_register :
    (server.register ws).presenceUnsub.isSome := by
  unfold Server.register Server.retainPresence
  cases found : (server.addConn ws).presenceUnsub with
  | some unsub =>
      dsimp only
      rw [found]
      rfl
  | none => rfl

theorem Serves.opens (serves : Serves home here server hub) (ws : Connection)
    (local_ : home ws = here) :
    Serves home here (server.register ws)
      { hub with present := insert ws hub.present } where
  wired := serves.wired.register ws
  tracked := tracked_register serves.tracked ws
  counted roomId := by
    rw [Server.room_register]
    exact serves.counted roomId
  listens := iff_of_true listens_register
    ⟨ws, (registered_register ws ws).mpr (.inr rfl)⟩
  rooms other roomId := by
    rw [Server.rooms_register]
    exact serves.rooms other roomId
  present other := by
    rw [registered_register, serves.present, Finset.mem_insert]
    constructor
    · rintro (⟨there, opened⟩ | rfl)
      · exact ⟨there, .inr opened⟩
      · exact ⟨local_, .inl rfl⟩
    · rintro ⟨there, rfl | opened⟩
      · exact .inr rfl
      · exact .inl ⟨there, opened⟩
  pushed other := by
    rw [Server.sent_register]
    exact serves.pushed other

theorem presenceUnsub_unsubscribeRooms (roomIds : List String) :
    (server.unsubscribeRooms ws roomIds).presenceUnsub =
      server.presenceUnsub := by
  unfold Server.unsubscribeRooms
  induction roomIds generalizing server with
  | nil => rfl
  | cons roomId rest induction =>
      rw [List.foldl_cons, induction]
      unfold Server.unsubscribeRoom Server.releaseBus
      split
      · rfl
      · split_ifs <;> rfl

/-- A server that listened goes on listening while a connection is there. -/
theorem listens_unregister (tracked : Tracked server [])
    (listens : server.presenceUnsub.isSome ↔ Attended server) :
    (server.unregister ws).presenceUnsub.isSome ↔
      Attended (server.unregister ws) := by
  let left :=
    (server.unsubscribeRooms ws (server.rooms ws).toList).deleteConn ws
  have trackedLeft : Tracked left [] :=
    (tracked.unsubscribeRooms ws _).deleteConn ws
  have kept : left.presenceUnsub = server.presenceUnsub := by
    unfold left Server.deleteConn
    split <;> exact presenceUnsub_unsubscribeRooms _
  have conns : left.releasePresence.userConns = left.userConns := by
    unfold Server.releasePresence
    split
    · rfl
    · split_ifs <;> rfl
  have same : Attended (server.unregister ws) ↔ Attended left :=
    PresenceOnce.attended_congr conns
  have fewer : Attended left → Attended server := by
    rintro ⟨other, registered⟩
    refine ⟨other, ?_⟩
    have stayed : Registered (server.unregister ws) other :=
      (PresenceOnce.registered_congr conns other).mpr registered
    rw [PresenceOnce.registered_congr
      (AwaitingRegistry.userConns_unregister server ws),
      PresenceOnce.registered_deleteConn] at stayed
    exact stayed.1
  rw [same]
  change left.releasePresence.presenceUnsub.isSome ↔ _
  unfold Server.releasePresence
  cases found : left.presenceUnsub with
  | none =>
      refine iff_of_false (by simp [found]) fun attended => ?_
      have listening := listens.mpr (fewer attended)
      rw [← kept, found] at listening
      cases listening
  | some unsub =>
      dsimp only
      split_ifs with empty
      · exact iff_of_false Bool.false_ne_true
          ((PresenceOnce.size_eq_zero_iff trackedLeft).mp empty)
      · refine iff_of_true (found ▸ rfl) (not_not.mp ?_)
        exact fun nobody =>
          empty ((PresenceOnce.size_eq_zero_iff trackedLeft).mpr nobody)

theorem Serves.closes (serves : Serves home here server hub)
    (ws : Connection) :
    Serves home here (server.unregister ws)
      { hub with
        present := hub.present.erase ws
        rooms := Function.update hub.rooms ws ∅ } where
  wired := serves.wired.unregister ws
  tracked :=
    ((serves.tracked.unsubscribeRooms ws _).deleteConn ws).releasePresence
  counted := Subscriptions.exact_unregister serves.wired serves.counted
  listens := listens_unregister serves.tracked serves.listens
  rooms other roomId := by
    rw [Server.mem_rooms_unregister, serves.rooms]
    dsimp only
    by_cases same : other = ws
    · subst same
      rw [Function.update_self]
      exact iff_of_false (fun left => left.2 rfl)
        fun joined => absurd joined.2 (Finset.notMem_empty roomId)
    · rw [Function.update_of_ne same]
      exact and_iff_left same
  present other := by
    rw [PresenceOnce.registered_congr
      (AwaitingRegistry.userConns_unregister server ws),
      PresenceOnce.registered_deleteConn, serves.present, Finset.mem_erase,
      and_assoc]
    exact and_congr_right fun _ => and_comm
  pushed other := by
    rw [Server.sent_unregister]
    exact serves.pushed other

/-! ### Joining and leaving -/

theorem tracked_subscribeRoom (tracked : Tracked server [])
    (ws : Connection) (roomId : String) :
    Tracked (server.subscribeRoom ws roomId) [] := by
  let awaiting : AwaitingServer := { server with pending := [] }
  have awaited : Tracked awaiting.toServer awaiting.pending := tracked
  have subscribed := (awaited.subscribeRoom ws roomId).resolve
    (AwaitingRegistry.nextFor awaiting.toServer (.fanOutBusEvent roomId))
  rw [AwaitingRegistry.resolve_subscribeRoom awaited] at subscribed
  exact subscribed

theorem connections_subscribeRoom :
    (server.subscribeRoom ws roomId).userConns = server.userConns ∧
      (server.subscribeRoom ws roomId).presenceUnsub =
        server.presenceUnsub := by
  unfold Server.subscribeRoom Server.retainBus
  constructor
  · split <;> rfl
  · split <;> rfl

theorem connections_unsubscribeRoom :
    (server.unsubscribeRoom ws roomId).userConns = server.userConns ∧
      (server.unsubscribeRoom ws roomId).presenceUnsub =
        server.presenceUnsub :=
  ⟨AwaitingRegistry.userConns_unsubscribeRooms server ws [roomId],
    presenceUnsub_unsubscribeRooms [roomId]⟩

/-- Without new connections, presence and who is registered stay the same. -/
theorem Serves.of_rooms {after : Server} {joined : Connection → Finset String}
    (serves : Serves home here server hub) (wired : after.Wired)
    (tracked : Tracked after [])
    (counted : ∀ roomId, (after.room roomId).Exact)
    (connections : after.userConns = server.userConns ∧
      after.presenceUnsub = server.presenceUnsub)
    (sent : after.sent = server.sent)
    (rooms : ∀ ws roomId, roomId ∈ after.rooms ws ↔
      home ws = here ∧ roomId ∈ joined ws) :
    Serves home here after { hub with rooms := joined } where
  wired := wired
  tracked := tracked
  counted := counted
  listens := by
    rw [connections.2, PresenceOnce.attended_congr connections.1]
    exact serves.listens
  rooms := rooms
  present ws := by
    rw [PresenceOnce.registered_congr connections.1]
    exact serves.present ws
  pushed ws := by
    rw [sent]
    exact serves.pushed ws

theorem Serves.joins (serves : Serves home here server hub)
    (local_ : home ws = here) (fresh : roomId ∉ hub.rooms ws) :
    Serves home here (server.subscribeRoom ws roomId) (hub.join ws roomId) := by
  have unlisted : ws ∉ server.subscribers roomId := fun subscribed =>
    fresh ((serves.rooms ws roomId).mp
      ((serves.wired.mirrored ws roomId).mp subscribed)).2
  refine serves.of_rooms (serves.wired.subscribeRoom ws roomId)
    (tracked_subscribeRoom serves.tracked ws roomId) ?_
    connections_subscribeRoom (Server.sent_subscribeRoom server ws roomId) ?_
  · intro other
    rw [Server.room_subscribeRoom]
    split_ifs
    · exact (serves.counted roomId).acquire unlisted
    · exact serves.counted other
  · intro holder other
    rw [Server.mem_rooms_subscribeRoom, serves.rooms]
    by_cases same : holder = ws
    · subst same
      rw [Function.update_self, Finset.mem_insert]
      simp only [local_, true_and]
      exact or_comm
    · rw [Function.update_of_ne same]
      exact or_iff_left fun joined => same joined.1

theorem Serves.leaves (serves : Serves home here server hub)
    (local_ : home ws = here) (joined : roomId ∈ hub.rooms ws) :
    Serves home here (server.unsubscribeRoom ws roomId)
      (hub.leave ws roomId) := by
  have subscribed : ws ∈ server.subscribers roomId :=
    (serves.wired.mirrored ws roomId).mpr
      ((serves.rooms ws roomId).mpr ⟨local_, joined⟩)
  refine serves.of_rooms (serves.wired.unsubscribeRoom ws roomId)
    (serves.tracked.unsubscribeRoom ws roomId) ?_
    connections_unsubscribeRoom
    (Server.sent_unsubscribeRoom server ws roomId) ?_
  · intro other
    rw [Server.room_unsubscribeRoom]
    split_ifs
    · exact (Shared.exact_release_iterate_iff (serves.counted roomId) ws 1).mpr
        (.inr (.inl ⟨subscribed, rfl⟩))
    · exact serves.counted other
  · intro holder other
    rw [Server.mem_rooms_unsubscribeRoom, serves.rooms]
    by_cases same : holder = ws
    · subst same
      rw [Function.update_self, Finset.mem_erase]
      simp only [local_, true_and]
      exact and_comm
    · rw [Function.update_of_ne same]
      exact and_iff_left fun left => same left.1

end Instances

/-! ## The cluster -/

section Clusters

variable {Instance : Type} [DecidableEq Instance]

/-- The stores and replies are the hub's, and every instance serves it. -/
structure Mirrors (home : Connection → Instance)
    (cluster : ClusterState Instance) (hub : HubState) : Prop where
  chat : cluster.chat = hub.chat
  presence : cluster.presence = hub.presence
  replies : cluster.replies = hub.replies
  serves : ∀ here, Serves home here (cluster.servers here) hub

variable {home : Connection → Instance} {cluster : ClusterState Instance}
  {hub : HubState} {ws : Connection}

theorem mirrors_start (chat : ChatState) :
    Mirrors home (.start Instance chat) (.start chat) where
  chat := rfl
  presence := rfl
  replies := rfl
  serves _ := serves_start chat

/-- A change about one connection is a matter of its instance alone. -/
theorem Mirrors.updates {after : HubState} {server : Server}
    (mirrors : Mirrors home cluster hub)
    (changed : Serves home (home ws) server after)
    (rooms : ∀ other, other ≠ ws → after.rooms other = hub.rooms other)
    (present : ∀ other, other ≠ ws →
      (other ∈ after.present ↔ other ∈ hub.present))
    (pushed : after.pushed = hub.pushed) (here : Instance) :
    Serves home here (Function.update cluster.servers (home ws) server here)
      after := by
  by_cases local_ : here = home ws
  · subst local_
    rw [Function.update_self]
    exact changed
  · rw [Function.update_of_ne local_]
    have serves := mirrors.serves here
    have other_of_home {other : Connection} (there : home other = here) :
        other ≠ ws := by
      rintro rfl
      exact local_ there.symm
    refine
      { wired := serves.wired
        tracked := serves.tracked
        counted := serves.counted
        listens := serves.listens
        rooms := fun other roomId => ?_
        present := fun other => ?_
        pushed := pushed ▸ serves.pushed }
    · rw [serves.rooms]
      refine and_congr_right fun there => ?_
      rw [rooms other (other_of_home there)]
    · rw [serves.present]
      exact and_congr_right fun there =>
        (present other (other_of_home there)).symm

theorem Mirrors.relay (mirrors : Mirrors home cluster hub) (now : Time)
    (entries : List (Channel × BusEvent)) :
    Mirrors home (cluster.relay now entries)
      (entries.foldl (HubState.publish now) hub) := by
  have shared : ∀ hub : HubState,
      (entries.foldl (HubState.publish now) hub).chat = hub.chat ∧
        (entries.foldl (HubState.publish now) hub).presence = hub.presence ∧
          (entries.foldl (HubState.publish now) hub).replies =
            hub.replies := by
    induction entries with
    | nil => exact fun hub => ⟨rfl, rfl, rfl⟩
    | cons entry rest induction =>
        exact fun hub => induction (hub.publish now entry)
  obtain ⟨chat, presence, replies⟩ := shared hub
  exact
    { chat := mirrors.chat.trans chat.symm
      presence := mirrors.presence.trans presence.symm
      replies := mirrors.replies.trans replies.symm
      serves := fun here => (mirrors.serves here).deliver_all now entries }

/-! ### Operations of the router -/

/--
A room is subscribed to only if it has not been joined, and given up only if it
has, by connections of the instance.
-/
def Allowed (home : Connection → Instance) (here : Instance) :
    RouterOp → HubState → Prop
  | .hasRoom ws _, _ => home ws = here
  | .subscribeRoom ws roomId, hub => home ws = here ∧ roomId ∉ hub.rooms ws
  | .unsubscribeRoom ws roomId, hub => home ws = here ∧ roomId ∈ hub.rooms ws
  | _, _ => True

/-- The router leaves a server on which a connection has changed its rooms. -/
theorem Mirrors.stores {state : RouterState} {server : Server}
    {joined : Finset String}
    (mirrors : Mirrors home (cluster.store (home ws) state) hub)
    (changed : Serves home (home ws) server
      { hub with rooms := Function.update hub.rooms ws joined }) :
    Mirrors home (cluster.store (home ws) { state with server })
      { hub with rooms := Function.update hub.rooms ws joined } := by
  refine ⟨mirrors.chat, mirrors.presence, mirrors.replies, fun there => ?_⟩
  have updated := mirrors.updates changed
    (fun other differs => Function.update_of_ne differs _ _)
    (fun _ _ => Iff.rfl) rfl there
  have twice : Function.update
      (cluster.store (home ws) state).servers (home ws) server =
        Function.update cluster.servers (home ws) server :=
    Function.update_idem _ _ _
  rw [twice] at updated
  exact updated

/-- An instance does for its router what the hub does. -/
theorem router_refines (uuid : PgUuid) (now : Time) (ws : Connection)
    (cluster : ClusterState Instance) :
    Refines (routerAdapter uuid) (undisturbed now) (hubAdapter uuid) now
      (fun state hub => Mirrors home (cluster.store (home ws) state) hub)
      (Allowed home (home ws)) := by
  intro op state hub mirrors allowed
  have serves := mirrors.serves (home ws)
  have here : (cluster.store (home ws) state).servers (home ws) =
      state.server := Function.update_self _ _ _
  rw [here] at serves
  cases op with
  | chat op =>
      have chat : state.chat = hub.chat := mirrors.chat
      unfold routerAdapter hubAdapter undisturbed
      dsimp only [id]
      rw [chat]
      exact ⟨rfl, rfl, mirrors.presence, mirrors.replies,
        fun there => (mirrors.serves there).congr rfl rfl rfl⟩
  | presence op =>
      have presence : state.presence = hub.presence := mirrors.presence
      unfold routerAdapter hubAdapter undisturbed
      dsimp only [id]
      rw [presence]
      exact ⟨rfl, mirrors.chat, rfl, mirrors.replies,
        fun there => (mirrors.serves there).congr rfl rfl rfl⟩
  | hasRoom holder roomId =>
      refine ⟨decide_eq_decide.mpr ?_, mirrors⟩
      exact (serves.rooms holder roomId).trans (and_iff_right allowed)
  | subscribeRoom holder roomId =>
      obtain ⟨local_, fresh⟩ := allowed
      have subscribed :
          routerAdapter uuid (.subscribeRoom holder roomId) (undisturbed now)
              state =
            .ok (.ok (), { state with
              server := state.server.subscribeRoom holder roomId }) := by
        unfold routerAdapter undisturbed
        dsimp only [id, Option.isNone_none]
        rw [FailedSubscriptions.subscribeRoom_eq fun _ _ => rfl]
        rfl
      rw [subscribed]
      rw [← local_] at mirrors serves ⊢
      exact ⟨rfl, mirrors.stores (serves.joins rfl fresh)⟩
  | unsubscribeRoom holder roomId =>
      obtain ⟨local_, joined⟩ := allowed
      rw [← local_] at mirrors serves ⊢
      exact ⟨rfl, mirrors.stores (serves.leaves rfl joined)⟩
  | now => exact ⟨rfl, mirrors⟩
  | send holder reply =>
      refine ⟨rfl, mirrors.chat, mirrors.presence, ?_,
        fun there => (mirrors.serves there).congr rfl rfl rfl⟩
      exact congrArg (· ++ [(holder, reply)]) mirrors.replies

end Clusters

/-! ## What the router issues -/

section Routers

variable {Instance : Type} {home : Connection → Instance} {uuid : PgUuid}
  {now : Time} {router : Router} {ws : Connection} {envelope : ClientEnvelope}

/-- What the router issues of a connection at home at its instance. -/
abbrev KeepsHub (home : Connection → Instance) (uuid : PgUuid) (now : Time)
    (ws : Connection) {Error Result : Type}
    (program : Program RouterPort Error Result) (hub : HubState) : Prop :=
  program.Keeps (hubAdapter uuid) now (Allowed home (home ws)) hub

/-- The operations that do not touch the registry. -/
def Plain : RouterOp → Prop
  | .hasRoom _ _ => False
  | .subscribeRoom _ _ => False
  | .unsubscribeRoom _ _ => False
  | _ => True

theorem keeps_of_plain {Error Result : Type}
    {program : Program RouterPort Error Result}
    (plain : program.Issues Plain) (hub : HubState) :
    KeepsHub home uuid now ws program hub := by
  refine plain.keeps (fun op hub allowed => ?_) hub
  cases op with
  | hasRoom holder roomId => exact allowed.elim
  | subscribeRoom holder roomId => exact allowed.elim
  | unsubscribeRoom holder roomId => exact allowed.elim
  | _ => trivial

theorem chat_plain {Result : Type} (program : ChatProgram Result) :
    (chat program).Issues Plain :=
  issues_raise _ program fun _ => trivial

theorem reply_plain {Error : Type} {refId : Option String}
    (payload : ReplyPayload) :
    (buildAck refId payload >>= send ws :
      Program RouterPort Error Unit).Issues Plain :=
  ⟨trivial, fun _ => ⟨trivial, fun _ => trivial⟩⟩

theorem error_plain {Error : Type} {refId : Option String}
    (code message : String) :
    (buildError refId code message >>= send ws :
      Program RouterPort Error Unit).Issues Plain :=
  ⟨trivial, fun _ => ⟨trivial, fun _ => trivial⟩⟩

theorem handlePing_plain : (handlePing ws envelope).Issues Plain :=
  ⟨trivial, fun _ => ⟨trivial, fun _ => trivial⟩⟩

/-- A handler checks its payload, does its work and acknowledges it. -/
theorem request_keeps {Value Result : Type} {zod : Validation}
    {schema : Text.Schema Value} {data : Option Text.Json}
    (work : Value → RouterProgram Result)
    (payload : Value → Result → ReplyPayload) {hub : HubState}
    (keeps : ∀ value, schema data = .ok value →
      KeepsHub home uuid now ws (work value) hub) :
    KeepsHub home uuid now ws (do
      let value ← validated zod schema data
      let result ← work value
      let ack ← buildAck envelope.refId (payload value result)
      send ws ack : RouterProgram Unit) hub := by
  unfold validated validate
  cases accepted : schema data with
  | error issues => trivial
  | ok value =>
      exact (keeps value accepted).bind fun result after =>
        keeps_of_plain (reply_plain _) after

/-- A room is joined only when it was found not to be. -/
theorem subscribeMember_keeps (roomIds subscribed : List String)
    (hub : HubState) :
    KeepsHub home uuid now ws (subscribeMember ws roomIds subscribed) hub := by
  induction roomIds generalizing subscribed hub with
  | nil => trivial
  | cons roomId rest induction =>
      refine (keeps_of_plain (chat_plain _) hub).bind fun member after => ?_
      cases member with
      | none => exact induction subscribed after
      | some row =>
          refine ⟨rfl, fun joined same answered => ?_⟩
          cases answered
          show KeepsHub home uuid now ws
            (if decide (roomId ∈ after.rooms ws) = true then _ else _) after
          split_ifs with found
          · exact induction _ after
          · refine Keeps.bind ?_ fun _ later => induction _ later
            refine ⟨⟨rfl, by simpa using found⟩,
              fun answer later returned => ?_⟩
            cases answer <;> trivial

/-- Rooms that are joined can be given up one after another. -/
theorem unsubscribeRooms_keeps {roomIds : List String}
    (distinct : roomIds.Nodup) {hub : HubState}
    (joined : ∀ roomId ∈ roomIds, roomId ∈ hub.rooms ws) :
    KeepsHub home uuid now ws (unsubscribeRooms ws roomIds) hub := by
  induction roomIds generalizing hub with
  | nil => trivial
  | cons roomId rest induction =>
      rw [List.nodup_cons] at distinct
      refine ⟨⟨rfl, joined roomId (.head _)⟩, fun answer after left => ?_⟩
      cases left
      refine induction distinct.2 fun other member => ?_
      change other ∈ Function.update hub.rooms ws _ ws
      rw [Function.update_self, Finset.mem_erase]
      refine ⟨?_, joined other (.tail _ member)⟩
      rintro rfl
      exact distinct.1 member

theorem handleChatTyping_plain :
    (Dispatch.handleChatTyping router ws envelope).Issues Plain := by
  unfold Dispatch.handleChatTyping validated
  cases validate router.zod _ envelope.payload with
  | error failure => trivial
  | ok roomId =>
      dsimp only
      rw [done_bind]
      refine Issues.bind (chat_plain _) fun typed => ?_
      split_ifs
      · exact reply_plain _
      · trivial

theorem handlePresenceHeartbeat_plain :
    (handlePresenceHeartbeat router ws envelope).Issues Plain := by
  have beats {Result : Type} (program : PresenceStore.PresenceProgram Result) :
      (presence program).Issues Plain :=
    issues_raise _ program fun _ => trivial
  refine Issues.bind (beats _) fun _ => ?_
  exact ⟨trivial, fun _ => reply_plain _⟩

theorem handle_keeps {hub : HubState}
    (tidy : envelope.type = "chat.unsubscribe" → ∀ roomIds,
      ChatUnsubscribePayloadSchema router.zod envelope.payload = .ok roomIds →
        roomIds.Nodup ∧ ∀ roomId ∈ roomIds, roomId ∈ hub.rooms ws) :
    KeepsHub home uuid now ws (handle router ws envelope) hub := by
  unfold handle
  split
  · exact keeps_of_plain handlePing_plain hub
  · exact request_keeps _ _ fun roomIds _ =>
      subscribeMember_keeps roomIds [] hub
  · next type =>
      refine request_keeps _ _ fun roomIds accepted => ?_
      obtain ⟨distinct, joined⟩ := tidy type roomIds accepted
      exact unsubscribeRooms_keeps distinct joined
  · exact request_keeps _ _ fun _ _ => keeps_of_plain (chat_plain _) hub
  · exact request_keeps _ _ fun _ _ => keeps_of_plain (chat_plain _) hub
  · exact request_keeps _ _ fun _ _ => keeps_of_plain (chat_plain _) hub
  · exact request_keeps _ _ fun _ _ => keeps_of_plain (chat_plain _) hub
  · exact keeps_of_plain handleChatTyping_plain hub
  · exact keeps_of_plain handlePresenceHeartbeat_plain hub
  · exact keeps_of_plain (error_plain _ _) hub

/-- Of a tidy connection the router issues what is allowed. -/
theorem dispatch_keeps {settings : Settings} {raw : String}
    {draws : SendMessage.Draws} {hub : HubState} {at_ : Time}
    (tidy : Tidy settings hub (.speaks ws raw draws, at_)) :
    KeepsHub home uuid now ws (dispatch (settings.router draws) ws raw)
      hub := by
  unfold dispatch
  obtain ⟨distinct, joined⟩ := tidy
  unfold givenUp at distinct joined
  cases parsed : parseEnvelope settings.parse raw with
  | error failure =>
      have invalid : parseEnvelope (settings.router draws).parse raw =
          .error failure := parsed
      rw [invalid]
      exact keeps_of_plain (error_plain _ _) hub
  | ok envelope =>
      have accepted : parseEnvelope (settings.router draws).parse raw =
          .ok envelope := parsed
      rw [parsed] at distinct joined
      rw [accepted]
      refine Keeps.attempt_bind (handle_keeps ?_) fun outcome after => ?_
      · intro type roomIds given
        have given : ChatUnsubscribePayloadSchema settings.zod
            envelope.payload = .ok roomIds := given
        dsimp only at distinct joined
        rw [if_pos type, given] at distinct joined
        exact ⟨distinct, joined⟩
      · cases outcome with
        | ok result => trivial
        | error err =>
            exact keeps_of_plain (error_plain _ _) after

end Routers

/-! ## Steps and runs -/

section Runs

variable {Instance : Type} [DecidableEq Instance]
  {deployment : Deployment Instance} {cluster : ClusterState Instance}
  {hub : HubState}

theorem mirrors_act (mirrors : Mirrors deployment.home cluster hub)
    (label : Happening × Time) (tidy : Tidy deployment.toSettings hub label) :
    Mirrors deployment.home (cluster.act deployment label)
      (hub.act deployment.toSettings label) := by
  rcases label with ⟨happening, now⟩
  cases happening with
  | opens ws =>
      have opened := (mirrors.serves (deployment.home ws)).opens ws rfl
      refine ⟨mirrors.chat, ?_, mirrors.replies, fun here => ?_⟩
      · exact congrArg (marked · now _) mirrors.presence
      · refine Serves.congr (mirrors.updates opened (fun _ _ => rfl)
          (fun other differs => ?_) rfl here) rfl rfl rfl
        simp [differs]
  | speaks ws raw draws =>
      have stored : cluster.store (deployment.home ws)
          (cluster.routerState (deployment.home ws)) = cluster := by
        unfold ClusterState.store ClusterState.routerState
        rw [Function.update_eq_self]
      have before : Mirrors deployment.home (cluster.store (deployment.home ws)
          (cluster.routerState (deployment.home ws))) hub := by
        rw [stored]
        exact mirrors
      exact ((router_refines deployment.uuid now ws cluster).run
        (dispatch_keeps tidy) before).2
  | serves request =>
      refine ⟨?_, mirrors.presence, mirrors.replies,
        fun here => (mirrors.serves here).congr rfl rfl rfl⟩
      exact congrArg (serve deployment.uuid · (request, now)) mirrors.chat
  | closes ws =>
      have closed := (mirrors.serves (deployment.home ws)).closes ws
      refine ⟨mirrors.chat, ?_, mirrors.replies, fun here => ?_⟩
      · exact congrArg (marked · now _) mirrors.presence
      · refine Serves.congr (mirrors.updates closed
          (fun other differs => Function.update_of_ne differs _ _)
          (fun other differs => ?_) rfl here) rfl rfl rfl
        simp [differs]

theorem mirrors_step (mirrors : Mirrors deployment.home cluster hub)
    (label : Happening × Time) (tidy : Tidy deployment.toSettings hub label) :
    Mirrors deployment.home (cluster.step deployment label)
      (hub.step deployment.toSettings label) := by
  have acted := mirrors_act mirrors label tidy
  have entries := acted.relay label.2 (publishedSince hub.chat hub.presence
    (hub.act deployment.toSettings label).chat
    (hub.act deployment.toSettings label).presence)
  unfold ClusterState.step HubState.step
  dsimp only
  rw [acted.chat, acted.presence, mirrors.chat, mirrors.presence]
  exact entries

theorem mirrors_run (mirrors : Mirrors deployment.home cluster hub)
    (labels : List (Happening × Time))
    (tidy : Along (HubState.step deployment.toSettings)
      (Tidy deployment.toSettings) hub labels) :
    Mirrors deployment.home
      (run (ClusterState.step deployment) cluster labels)
      (run (HubState.step deployment.toSettings) hub labels) := by
  induction labels generalizing cluster hub with
  | nil => exact mirrors
  | cons label rest induction =>
      exact induction (mirrors_step mirrors label tidy.1) tidy.2

end Runs

/--
While connections give up only rooms that they have joined, a cluster is one hub
for its clients: every connection is pushed, at its instance and nowhere else,
what the hub pushes to it, the replies are the hub's, and so are the tables and
the presence store.
-/
theorem cluster_is_one_hub {Instance : Type} [DecidableEq Instance]
    (deployment : Deployment Instance) (chat : ChatState)
    (labels : List (Happening × Time))
    (tidy : Along (HubState.step deployment.toSettings)
      (Tidy deployment.toSettings) (.start chat) labels) :
    let cluster :=
      run (ClusterState.step deployment) (.start Instance chat) labels
    let hub := run (HubState.step deployment.toSettings) (.start chat) labels
    cluster.chat = hub.chat ∧ cluster.presence = hub.presence ∧
      cluster.replies = hub.replies ∧
        ∀ here ws, pushedTo ws (cluster.servers here).sent =
          if deployment.home ws = here then hub.pushed ws else [] := by
  intro cluster hub
  have mirrors : Mirrors deployment.home cluster hub :=
    mirrors_run (mirrors_start chat) labels tidy
  exact ⟨mirrors.chat, mirrors.presence, mirrors.replies,
    fun here ws => (mirrors.serves here).pushed ws⟩

section Sample

/-- What three texts denote. -/
def sampleParse (raw : String) : Option Text.Json :=
  let rooms : Text.Json := .object [("roomIds", .array [.string sampleRoomId])]
  if raw = "subscribe" then
    some (.object [("type", .string "chat.subscribe"), ("payload", rooms)])
  else if raw = "unsubscribe" then
    some (.object [("type", .string "chat.unsubscribe"), ("payload", rooms)])
  else if raw = "send" then
    some (.object [("type", .string "chat.send"), ("payload",
      .object [("roomId", .string sampleRoomId), ("body", .string "hi")])])
  else none

def ownerConnection : Connection where
  connId := "018f0000-0000-7000-8000-00000000d001"
  userId := sampleOwner

def memberConnection : Connection where
  connId := "018f0000-0000-7000-8000-00000000d002"
  userId := sampleMember

/-- Two instances, the one of the owner and the one of the member. -/
def twoInstances : Deployment Bool where
  uuid := samplePgUuid
  parse := sampleParse
  zod := sampleZod
  presenceTtlSec := 60
  home ws := decide (ws = ownerConnection)

def sampleDraws : SendMessage.Draws where
  id := sampleMessageId
  now := 6

/-- The owner sends a message to a group, and the member leaves it. -/
def sentAcross : List (Happening × Time) :=
  [(.serves (.createGroupRoom { id := sampleRoomId, now := 1 } sampleOwner
      "team" [sampleMember]), 1),
    (.opens ownerConnection, 2),
    (.opens memberConnection, 3),
    (.speaks ownerConnection "subscribe" sampleDraws, 4),
    (.speaks memberConnection "subscribe" sampleDraws, 5),
    (.speaks ownerConnection "send" sampleDraws, 6),
    (.speaks memberConnection "unsubscribe" sampleDraws, 7),
    (.serves (.typing sampleOwner sampleRoomId), 8)]

/-- The message reaches the member at the other instance. -/
theorem cluster_is_one_hub_sentAcross :
    (pushedTo memberConnection ((run (ClusterState.step twoInstances)
      (.start Bool (sampleTables [sampleOwner, sampleMember]))
      sentAcross).servers false).sent).map Envelope.type =
        ["presence.online", "message.created"] := by
  obtain ⟨-, -, -, pushed⟩ := cluster_is_one_hub twoInstances
    (sampleTables [sampleOwner, sampleMember]) sentAcross (by decide +kernel)
  rw [pushed false memberConnection]
  decide +kernel

end Sample

end ChatBackend.Ws.ClusterRefinement
