import ChatBackend.Transition.Runs
import ChatBackend.Ws.AwaitingRegistry

/-!
# Overlapping subscriptions to a room

`subscribeRoom` looks for an entry of the room, awaits the bus and then writes
the entry.  A call for the same room that falls between the two finds no entry:
a second subscriber installs a second handler, and a subscriber that leaves
leaves the handler behind.  Once all calls have resolved, a room has one
handler while it has subscribers and none otherwise exactly in the runs in
which no call for a room falls into the wait of another.
-/

namespace ChatBackend.Ws.FanOutOnce

open Collections
open Transition
open ChatBackend.Chat.Store
open ChatBackend.Ws.MessageBus
open ChatBackend.Ws.Registry
open ChatBackend.Ws.AwaitingRegistry

/-! ## Specification -/

/-- Every connection of the audience is sent the envelope once. -/
def SentOnce (before after : List Sent) (envelope : Envelope)
    (audience : Connection → Prop) : Prop :=
  ∃ frames, after = before ++ frames ∧ (frames.map Sent.ws).Nodup ∧
    (∀ ws, ws ∈ frames.map Sent.ws ↔ audience ws) ∧
      ∀ frame ∈ frames, frame.envelope = envelope

/--
The room has one handler if it has subscribers and none otherwise, and every
event of the room is sent to every subscriber once.
-/
structure RoomOnce (server : Server) (roomId : String) : Prop where
  handlers : (server.bus.receivers (.room roomId)).length =
    if (server.subscribers roomId).size = 0 then 0 else 1
  pushes : ∀ now event,
    SentOnce server.sent (server.deliver now (.room roomId, event)).sent
      (Server.eventEnvelope now event) (· ∈ server.subscribers roomId)

/-- What the rooms come to once all calls have resolved, in any order. -/
def FansOutOnce (server : AwaitingServer) : Prop :=
  ∀ order, (server.resolveAll order).pending = [] →
    ∀ roomId, RoomOnce (server.resolveAll order).toServer roomId

/-- Clients unsubscribe only rooms they hold. -/
def Fair (server : AwaitingServer) : Call → Prop
  | .unsubscribesRoom ws roomId => roomId ∈ server.rooms ws
  | _ => True

instance (server : AwaitingServer) : DecidablePred (Fair server)
  | .unsubscribesRoom ws roomId =>
      inferInstanceAs (Decidable (roomId ∈ server.rooms ws))
  | .registers _ => isTrue trivial
  | .unregisters _ => isTrue trivial
  | .subscribesRoom _ _ => isTrue trivial
  | .resolves _ => isTrue trivial

/-- A call of `bus.subscribe` for the room is under way. -/
def AwaitsRoom (server : AwaitingServer) (roomId : String) : Prop :=
  ∃ handler ∈ server.pending, handler.body = .fanOutBusEvent roomId

/-- The call falls into the wait of another call for the same room. -/
def Disturbs (server : AwaitingServer) (roomId : String) : Call → Prop
  | .subscribesRoom ws other =>
      other = roomId ∧ roomId ∉ server.rooms ws ∧ AwaitsRoom server roomId
  | .unsubscribesRoom _ other => other = roomId ∧ AwaitsRoom server roomId
  | .unregisters ws => roomId ∈ server.rooms ws ∧ AwaitsRoom server roomId
  | _ => False

/-! ## Resolving all calls -/

section Resolving

variable {server : AwaitingServer}

@[simp]
theorem subscribers_resolve (handler : Handler) (roomId : String) :
    (server.resolve handler).subscribers roomId =
      server.subscribers roomId := by
  unfold AwaitingServer.resolve
  split_ifs
  · cases handler.body <;> rfl
  · rfl

theorem tracked_resolveAll
    (tracked : Tracked server.toServer server.pending)
    (order : List Handler) :
    Tracked (server.resolveAll order).toServer
      (server.resolveAll order).pending := by
  unfold AwaitingServer.resolveAll
  induction order generalizing server with
  | nil => exact tracked
  | cons handler rest induction => exact induction (tracked.resolve handler)

theorem pending_resolve {handler : Handler}
    (called : handler ∈ server.pending) :
    (server.resolve handler).pending = server.pending.erase handler := by
  unfold AwaitingServer.resolve
  rw [if_pos called]
  cases handler.body <;> rfl

/-- Calls that resolve in the order in which they were made leave none. -/
theorem pending_resolveAll (server : AwaitingServer) :
    (server.resolveAll server.pending).pending = [] := by
  generalize order : server.pending = calls
  induction calls generalizing server with
  | nil => exact order
  | cons handler rest induction =>
      have called : handler ∈ server.pending := order ▸ .head _
      apply induction (server.resolve handler)
      rw [pending_resolve called, order, List.erase_cons_head]

@[simp]
theorem subscribers_resolveAll (order : List Handler) (roomId : String) :
    (server.resolveAll order).subscribers roomId =
      server.subscribers roomId := by
  unfold AwaitingServer.resolveAll
  induction order generalizing server with
  | nil => rfl
  | cons handler rest induction =>
      rw [List.foldl_cons, induction, subscribers_resolve]

/-- Resolving moves handlers and loses none. -/
theorem eventually_resolveAll
    (tracked : Tracked server.toServer server.pending)
    (order : List Handler) (channel : Channel) :
    (feed (server.resolveAll order).toServer (server.resolveAll order).pending
        channel).eventually =
      (feed server.toServer server.pending channel).eventually := by
  unfold AwaitingServer.resolveAll
  induction order generalizing server with
  | nil => rfl
  | cons handler rest induction =>
      rw [List.foldl_cons, induction (tracked.resolve handler),
        feed_resolve tracked]
      split_ifs
      · exact Feed.eventually_resolve _ handler
      · rfl

/-- At rest, a feed has the handlers that it would eventually have. -/
theorem length_receivers_resolveAll
    (tracked : Tracked server.toServer server.pending)
    {order : List Handler} (rest : (server.resolveAll order).pending = [])
    (channel : Channel) :
    ((server.resolveAll order).bus.receivers channel).length =
      (feed server.toServer server.pending channel).eventually := by
  rw [← eventually_resolveAll tracked order]
  simp [feed, Feed.eventually, rest]

end Resolving

/-! ## Delivery -/

theorem body_of_channel {body : FanOut} {roomId : String}
    (channel : channelOf body = .room roomId) :
    body = .fanOutBusEvent roomId := by
  cases body with
  | fanOutBusEvent other => exact congrArg _ (Channel.room.inj channel)
  | fanOutPresence => cases channel

/-- One handler sends an event to every subscriber of its room. -/
theorem deliver_room {server : Server} {pending : List Handler}
    (tracked : Tracked server pending) {roomId : String}
    (handlers : (server.bus.receivers (.room roomId)).length =
      if (server.subscribers roomId).size = 0 then 0 else 1)
    (now : Time) (event : BusEvent) :
    server.deliver now (.room roomId, event) =
      server.send ((server.subscribers roomId).toList.map
        (Server.push now roomId event)) := by
  unfold Server.deliver
  dsimp only
  split_ifs at handlers with empty
  · rw [List.length_eq_zero_iff.mp handlers,
      OrderedSet.size_eq_zero_iff.mp empty]
    exact Server.send_nil.symm
  · rcases List.length_eq_one_iff.mp handlers with ⟨handler, only⟩
    have body : handler.body = .fanOutBusEvent roomId := by
      apply body_of_channel
      apply tracked.bodies
      rw [only]
      exact .head _
    rw [only, List.foldl_cons, List.foldl_nil, body]
    exact Server.fanOutBusEvent_eq roomId

theorem roomOnce_of_handlers {server : Server} {pending : List Handler}
    (tracked : Tracked server pending) {roomId : String}
    (handlers : (server.bus.receivers (.room roomId)).length =
      if (server.subscribers roomId).size = 0 then 0 else 1) :
    RoomOnce server roomId := by
  refine ⟨handlers, ?_⟩
  intro now event
  have sockets : (((server.subscribers roomId).toList.map
      (Server.push now roomId event)).map Sent.ws) =
        (server.subscribers roomId).toList := by
    rw [List.map_map]
    exact List.map_id _
  refine ⟨_, congrArg Server.sent (deliver_room tracked handlers now event),
    ?_, ?_, ?_⟩
  · rw [sockets]
    exact (server.subscribers roomId).nodup
  · rw [sockets]
    exact fun ws => OrderedSet.mem_toList
  · intro frame member
    rcases List.mem_map.mp member with ⟨ws, -, rfl⟩
    rfl

/-! ## The shape of a room -/

/-- The room is wanted while it has subscribers. -/
def Wanted (server : Server) (roomId : String) : Prop :=
  (server.subscribers roomId).size ≠ 0

/--
The feed of the room is in order.  Its subscribers are counted, except that the
first of them is alone until its call resolves.
-/
structure InShape (server : AwaitingServer) (roomId : String) : Prop where
  orderly : (feed server.toServer server.pending (.room roomId)).Orderly
    (Wanted server.toServer roomId)
  counted :
    (feed server.toServer server.pending (.room roomId)).pending = [] →
      (server.room roomId).Exact
  alone :
    (feed server.toServer server.pending (.room roomId)).pending ≠ [] →
      (server.subscribers roomId).size = 1

theorem awaitsRoom_iff {server : AwaitingServer} {roomId : String} :
    AwaitsRoom server roomId ↔
      (feed server.toServer server.pending (.room roomId)).pending ≠ [] := by
  rw [Ne, List.eq_nil_iff_forall_not_mem, not_forall]
  unfold AwaitsRoom
  simp only [not_not, mem_feed_pending]
  constructor
  · rintro ⟨handler, called, body⟩
    exact ⟨handler, called, by rw [body]; rfl⟩
  · rintro ⟨handler, called, channel⟩
    exact ⟨handler, called, body_of_channel channel⟩

theorem inShape_start (roomId : String) : InShape .start roomId where
  orderly := by
    refine .inl ⟨rfl, rfl, ?_⟩
    simp [feed, AwaitingServer.start, Server.start, Wanted, Server.subscribers]
  counted _ := rfl
  alone := nofun

section Shape

variable {server : AwaitingServer} {roomId : String}

/-- Rooms in shape have their handlers once all calls have resolved. -/
theorem InShape.handlers (shape : InShape server roomId)
    (tracked : Tracked server.toServer server.pending)
    {order : List Handler} (rest : (server.resolveAll order).pending = []) :
    ((server.resolveAll order).bus.receivers (.room roomId)).length =
      if ((server.resolveAll order).subscribers roomId).size = 0 then 0
      else 1 := by
  rw [length_receivers_resolveAll tracked rest, subscribers_resolveAll]
  rcases shape.orderly.single with ⟨one, none_⟩
  split_ifs with empty
  · exact none_ fun wanted => wanted empty
  · exact one empty

/-- A feed that will not be single shows once all calls have resolved. -/
theorem not_fansOutOnce (tracked : Tracked server.toServer server.pending)
    (broken : ¬ (feed server.toServer server.pending (.room roomId)).Single
      (Wanted server.toServer roomId)) : ¬ FansOutOnce server := by
  intro once
  have rest := pending_resolveAll server
  have handlers := (once server.pending rest roomId).handlers
  rw [length_receivers_resolveAll tracked rest, subscribers_resolveAll]
    at handlers
  apply broken
  constructor
  · intro wanted
    rw [handlers, if_neg wanted]
  · intro unwanted
    rw [handlers, if_pos (not_not.mp unwanted)]

/-- A room whose feed, subscribers and count stay as they are. -/
theorem InShape.same {after : AwaitingServer} (shape : InShape server roomId)
    (sameFeed : feed after.toServer after.pending (.room roomId) =
      feed server.toServer server.pending (.room roomId))
    (sameRoom : after.room roomId = server.room roomId) :
    InShape after roomId := by
  have subscribers : after.subscribers roomId = server.subscribers roomId :=
    congrArg Shared.holders sameRoom
  constructor
  · rw [sameFeed]
    unfold Wanted
    rw [subscribers]
    exact shape.orderly
  · rw [sameFeed, sameRoom]
    exact shape.counted
  · rw [sameFeed, subscribers]
    exact shape.alone

/-! ### A connection leaves -/

/-- A subscriber leaves while no call for the room is under way. -/
theorem InShape.leaves {after : AwaitingServer} {ws : Connection}
    (shape : InShape server roomId)
    (subscribed : ws ∈ server.subscribers roomId)
    (idle : ¬ AwaitsRoom server roomId)
    (released : feed after.toServer after.pending (.room roomId) =
      if countDown (server.room roomId).counter = none then
        (feed server.toServer server.pending (.room roomId)).release
      else feed server.toServer server.pending (.room roomId))
    (left : after.room roomId = (server.room roomId).release ws) :
    InShape after roomId := by
  have noCalls := not_not.mp (mt awaitsRoom_iff.mpr idle)
  have counted := shape.counted noCalls
  have counts : (after.room roomId).Exact := by
    rw [left]
    apply (Shared.exact_release_iterate_iff counted ws 1).mpr
    exact .inr (.inl ⟨subscribed, rfl⟩)
  have wanted : Wanted after.toServer roomId ↔
      countDown (server.room roomId).counter ≠ none := by
    have counter : (after.room roomId).counter =
        countDown (server.room roomId).counter :=
      congrArg Shared.counter left
    rw [← counter]
    exact counts.counter_eq_none_iff.not.symm
  have calls : (feed after.toServer after.pending (.room roomId)).pending =
      [] := by
    rw [released]
    split_ifs
    · rw [Feed.pending_release, noCalls]
    · exact noCalls
  refine ⟨?_, fun _ => counts, fun busy => absurd calls busy⟩
  rw [released]
  split_ifs with last
  · apply (shape.orderly.release noCalls).congr
    exact iff_of_false id (fun wants => wanted.mp wants last)
  · apply shape.orderly.congr
    refine iff_of_true ?_ (wanted.mpr last)
    intro empty
    exact OrderedSet.eq_empty_iff.mp (OrderedSet.size_eq_zero_iff.mp empty) ws
      subscribed

/-- The first subscriber leaves before its call has resolved. -/
theorem InShape.not_fansOutOnce_of_leaves {after : AwaitingServer}
    {ws : Connection} (shape : InShape server roomId)
    (tracked : Tracked after.toServer after.pending)
    (subscribed : ws ∈ server.subscribers roomId)
    (awaits : AwaitsRoom server roomId)
    (released : feed after.toServer after.pending (.room roomId) =
      if countDown (server.room roomId).counter = none then
        (feed server.toServer server.pending (.room roomId)).release
      else feed server.toServer server.pending (.room roomId))
    (left : after.room roomId = (server.room roomId).release ws) :
    ¬ FansOutOnce after := by
  have busy := awaitsRoom_iff.mp awaits
  have empty : (after.subscribers roomId).size = 0 := by
    have holders : after.subscribers roomId =
        (server.subscribers roomId).delete ws :=
      congrArg Shared.holders left
    rw [holders, OrderedSet.size_delete_of_mem subscribed, shape.alone busy]
  have counter : (server.room roomId).counter = none := by
    rcases shape.orderly with ⟨idle, -⟩ | ⟨_, -, -, unknown, -⟩
    · exact absurd idle busy
    · unfold feed at unknown
      simpa [Server.room] using unknown
  have gives : countDown (server.room roomId).counter = none := by
    rw [counter]
    rfl
  rw [if_pos gives] at released
  apply not_fansOutOnce tracked
  rw [released]
  intro single
  apply shape.orderly.not_single_release busy
  have unwanted : Wanted after.toServer roomId ↔ False :=
    iff_of_false (fun wants => wants empty) id
  exact propext unwanted ▸ single

/-! ### A connection joins -/

@[simp]
theorem subscribers_subscribeRoom (ws : Connection) (joined other : String) :
    (server.subscribeRoom ws joined).subscribers other =
      if other = joined then (server.subscribers joined).add ws
      else server.subscribers other := by
  rw [← Server.subscribers_addLocalSub]
  unfold AwaitingServer.subscribeRoom
  split <;> rfl

theorem kept_eq_none_iff :
    (feed server.toServer server.pending (.room roomId)).kept = none ↔
      (server.room roomId).counter = none := by
  simp [feed, Server.room]

/-- A connection subscribes while no call for the room is under way. -/
theorem InShape.joins {ws : Connection} (shape : InShape server roomId)
    (absent : ws ∉ server.subscribers roomId)
    (idle : ¬ AwaitsRoom server roomId) :
    InShape (server.subscribeRoom ws roomId) roomId := by
  have noCalls := not_not.mp (mt awaitsRoom_iff.mpr idle)
  have counted := shape.counted noCalls
  have retained : feed (server.subscribeRoom ws roomId).toServer
      (server.subscribeRoom ws roomId).pending (.room roomId) = _ :=
    feed_subscribeRoom server ws roomId
  have size : ((server.subscribeRoom ws roomId).subscribers roomId).size =
      (server.subscribers roomId).size + 1 := by
    rw [subscribers_subscribeRoom, if_pos rfl,
      OrderedSet.size_add_of_not_mem absent]
  rw [if_pos rfl] at retained
  have wanted : True ↔ Wanted (server.subscribeRoom ws roomId).toServer
      roomId := by
    unfold Wanted
    rw [size]
    simp
  have orderly := (shape.orderly.retain noCalls
    (nextFor server.toServer (.fanOutBusEvent roomId))).congr wanted
  rw [← retained] at orderly
  cases found : server.roomBusUnsub.get roomId with
  | none =>
      have unknown : (feed server.toServer server.pending
          (.room roomId)).kept = none := by
        simp [feed, found]
      have calls : (feed (server.subscribeRoom ws roomId).toServer
          (server.subscribeRoom ws roomId).pending (.room roomId)).pending ≠
            [] := by
        rw [retained, Feed.retain_of_unknown unknown]
        simp
      refine ⟨orderly, fun rest => absurd rest calls, fun _ => ?_⟩
      have empty : (server.subscribers roomId).size = 0 :=
        counted.counter_eq_none_iff.mp (kept_eq_none_iff.mp unknown)
      rw [size, empty]
  | some existing =>
      have known : (feed server.toServer server.pending
          (.room roomId)).kept = some existing.unsub.handler := by
        simp [feed, found]
      rw [Feed.retain_of_kept known] at retained
      refine ⟨orderly, fun _ => ?_, fun busy => ?_⟩
      · have acquired : (server.subscribeRoom ws roomId).room roomId =
            (server.room roomId).acquire ws := by
          rw [subscribeRoom_of_entry ws found]
          exact (Server.room_subscribeRoom _ ws roomId roomId).trans
            (if_pos rfl)
        rw [acquired]
        exact counted.acquire absent
      · rw [retained] at busy
        exact absurd noCalls busy

/-- A second connection subscribes before the call of the first resolves. -/
theorem InShape.not_fansOutOnce_of_joins {ws : Connection}
    (shape : InShape server roomId)
    (tracked : Tracked server.toServer server.pending)
    (absent : ws ∉ server.subscribers roomId)
    (awaits : AwaitsRoom server roomId) :
    ¬ FansOutOnce (server.subscribeRoom ws roomId) := by
  have busy := awaitsRoom_iff.mp awaits
  apply not_fansOutOnce (tracked.subscribeRoom ws roomId)
  rw [feed_subscribeRoom, if_pos rfl]
  have wanted : Wanted (server.subscribeRoom ws roomId).toServer roomId ↔
      True := by
    refine iff_true_intro ?_
    unfold Wanted
    rw [subscribers_subscribeRoom, if_pos rfl,
      OrderedSet.size_add_of_not_mem absent]
    exact Nat.succ_ne_zero _
  rw [wanted]
  exact shape.orderly.not_single_retain busy _

/-! ### A call resolves -/

/-- The rooms that a resolved call is not for. -/
theorem room_resolve_other {handler : Handler}
    (elsewhere : handler.body ≠ .fanOutBusEvent roomId) :
    (server.resolve handler).room roomId = server.room roomId := by
  unfold AwaitingServer.resolve
  split_ifs
  · cases body : handler.body with
    | fanOutPresence => rfl
    | fanOutBusEvent other =>
        have different : roomId ≠ other := by
          rintro rfl
          exact elsewhere body
        simp [Server.room, Server.subscribers, different]
  · rfl

theorem counter_resolve {handler : Handler}
    (called : handler ∈ server.pending)
    (body : handler.body = .fanOutBusEvent roomId) :
    ((server.resolve handler).room roomId).counter = some 1 := by
  unfold AwaitingServer.resolve
  rw [if_pos called, body]
  simp [Server.room]

theorem InShape.resolve (shape : InShape server roomId)
    (tracked : Tracked server.toServer server.pending) (handler : Handler) :
    InShape (server.resolve handler) roomId := by
  have resolved : feed (server.resolve handler).toServer
      (server.resolve handler).pending (.room roomId) = _ :=
    feed_resolve tracked handler
  by_cases called : handler ∈ server.pending
  · by_cases body : handler.body = .fanOutBusEvent roomId
    · have waits : handler ∈ (feed server.toServer server.pending
          (.room roomId)).pending :=
        mem_feed_pending.mpr ⟨called, by rw [body]; rfl⟩
      have size : (server.subscribers roomId).size = 1 :=
        shape.alone (List.ne_nil_of_mem waits)
      have own : Channel.room roomId = channelOf handler.body := by
        rw [body]
        rfl
      rw [if_pos own] at resolved
      have calls : (feed (server.resolve handler).toServer
          (server.resolve handler).pending (.room roomId)).pending = [] := by
        rcases shape.orderly with ⟨idle, -⟩ | ⟨opened, opening, -⟩
        · rw [idle] at waits
          cases waits
        · rw [opening] at waits
          cases List.mem_singleton.mp waits
          rw [resolved]
          simp [Feed.resolve, opening]
      refine ⟨?_, fun _ => ?_, fun busy => absurd calls busy⟩
      · rw [resolved]
        unfold Wanted
        rw [subscribers_resolve]
        exact shape.orderly.resolve handler
      · unfold Shared.Exact
        rw [counter_resolve called body]
        have holders : (server.resolve handler).subscribers roomId =
            server.subscribers roomId :=
          subscribers_resolve handler roomId
        change _ = tally ((server.resolve handler).subscribers roomId).size
        rw [holders, size]
        rfl
    · have elsewhere : Channel.room roomId ≠ channelOf handler.body :=
        fun same => body (body_of_channel same.symm)
      rw [if_neg elsewhere] at resolved
      exact shape.same resolved (room_resolve_other body)
  · have unresolved : server.resolve handler = server := if_neg called
    rw [unresolved]
    exact shape

end Shape

/-! ## One step -/

section Steps

variable {server : AwaitingServer} {roomId : String}

theorem room_register (ws : Connection) :
    (server.register ws).room roomId = server.room roomId := by
  unfold AwaitingServer.register
  split <;> rfl

theorem room_subscribeRoom_other {other : String} (ws : Connection)
    (different : roomId ≠ other) :
    (server.subscribeRoom ws other).room roomId = server.room roomId := by
  have subscribers : (server.subscribeRoom ws other).subscribers roomId =
      server.subscribers roomId := by
    rw [subscribers_subscribeRoom, if_neg different]
  refine congrArg₂ Shared.mk subscribers ?_
  unfold AwaitingServer.subscribeRoom
  split
  · simp [different, Server.addLocalSub]
  · rfl

/-- A call that disturbs no wait of a room keeps the room in shape. -/
theorem InShape.step (shape : InShape server roomId)
    (tracked : Tracked server.toServer server.pending) {call : Call}
    (fair : Fair server call) (undisturbed : ¬ Disturbs server roomId call) :
    InShape (step server call) roomId := by
  cases call with
  | registers ws =>
      apply shape.same
      · exact (feed_register server ws).trans (if_neg nofun)
      · exact room_register ws
  | unregisters ws =>
      have released := feed_unregister_room tracked ws roomId
      have left := Server.room_unregister server.toServer ws roomId
      by_cases listed : roomId ∈ server.rooms ws
      · simp only [listed, true_and, if_true] at released left
        exact shape.leaves ((tracked.mirrored ws roomId).mpr listed)
          (fun awaits => undisturbed ⟨listed, awaits⟩) released left
      · simp only [listed, false_and, if_false] at released left
        exact shape.same released left
  | subscribesRoom ws other =>
      unfold AwaitingRegistry.step
      dsimp only
      split_ifs with listed
      · exact shape
      · by_cases same : other = roomId
        · subst same
          apply shape.joins
          · exact fun subscribed =>
              listed ((tracked.mirrored ws other).mp subscribed)
          · exact fun awaits => undisturbed ⟨rfl, listed, awaits⟩
        · have different : roomId ≠ other := Ne.symm same
          apply shape.same
          · refine (feed_subscribeRoom server ws other).trans (if_neg ?_)
            exact fun equal => different (Channel.room.inj equal)
          · exact room_subscribeRoom_other ws different
  | unsubscribesRoom ws other =>
      have released : feed (server.toServer.unsubscribeRoom ws other)
          server.pending (.room roomId) = _ :=
        feed_unsubscribeRoom tracked ws other
      have left := Server.room_unsubscribeRoom server.toServer ws other roomId
      by_cases same : other = roomId
      · subst same
        simp only [true_and, if_true] at released left
        exact shape.leaves ((tracked.mirrored ws other).mpr fair)
          (fun awaits => undisturbed ⟨rfl, awaits⟩) released left
      · have different : roomId ≠ other := Ne.symm same
        simp only [Channel.room.injEq, different, false_and, if_false]
          at released left
        exact shape.same released left
  | resolves handler => exact shape.resolve tracked handler

/-- A call that disturbs the wait of a room breaks the room. -/
theorem InShape.not_fansOutOnce (shape : InShape server roomId)
    (tracked : Tracked server.toServer server.pending) {call : Call}
    (fair : Fair server call) (disturbs : Disturbs server roomId call) :
    ¬ FansOutOnce (AwaitingRegistry.step server call) := by
  have trackedAfter := tracked.step call
  cases call with
  | registers ws => cases disturbs
  | unregisters ws =>
      rcases disturbs with ⟨listed, awaits⟩
      have released := feed_unregister_room tracked ws roomId
      have left := Server.room_unregister server.toServer ws roomId
      simp only [listed, true_and, if_true] at released left
      exact shape.not_fansOutOnce_of_leaves trackedAfter
        ((tracked.mirrored ws roomId).mpr listed) awaits released left
  | subscribesRoom ws other =>
      rcases disturbs with ⟨rfl, unlisted, awaits⟩
      unfold AwaitingRegistry.step
      dsimp only
      rw [if_neg unlisted]
      apply shape.not_fansOutOnce_of_joins tracked _ awaits
      exact fun subscribed =>
        unlisted ((tracked.mirrored ws other).mp subscribed)
  | unsubscribesRoom ws other =>
      rcases disturbs with ⟨rfl, awaits⟩
      have released : feed (server.toServer.unsubscribeRoom ws other)
          server.pending (.room other) = _ :=
        feed_unsubscribeRoom tracked ws other
      have left := Server.room_unsubscribeRoom server.toServer ws other other
      simp only [true_and, if_true] at released left
      exact shape.not_fansOutOnce_of_leaves trackedAfter
        ((tracked.mirrored ws other).mpr fair) awaits released left
  | resolves handler => cases disturbs

end Steps

/-! ## Runs -/

/--
In a run in which clients unsubscribe only rooms they hold, every room has one
handler while it has subscribers and none otherwise whenever all calls have
resolved, and every event is sent to every subscriber once, exactly when no
call for a room falls into the wait of another.
-/
theorem fans_out_once_iff (calls : List Call)
    (fair : Along step Fair .start calls) :
    Throughout step FansOutOnce .start calls ↔
      Along step (fun server call => ∀ roomId, ¬ Disturbs server roomId call)
        .start calls := by
  let shape (server : AwaitingServer) : Prop :=
    Tracked server.toServer server.pending ∧ ∀ roomId, InShape server roomId
  have start : shape .start := ⟨tracked_start, inShape_start⟩
  refine throughout_iff_along_of_shape ?_ ?_ ?_ start fair
  · rintro server ⟨tracked, inShape⟩ order rest roomId
    exact roomOnce_of_handlers (tracked_resolveAll tracked order)
      ((inShape roomId).handlers tracked rest)
  · rintro server call ⟨tracked, inShape⟩ fair undisturbed
    exact ⟨tracked.step call,
      fun roomId => (inShape roomId).step tracked fair (undisturbed roomId)⟩
  · rintro server call ⟨tracked, inShape⟩ fair disturbed
    simp only [not_forall, not_not] at disturbed
    rcases disturbed with ⟨roomId, disturbs⟩
    exact (inShape roomId).not_fansOutOnce tracked fair disturbs

/-! ## Two runs -/

def firstConnection : Connection where
  connId := "018f0000-0000-7000-8000-00000000d001"
  userId := "018f0000-0000-7000-8000-00000000b001"

def secondConnection : Connection where
  connId := "018f0000-0000-7000-8000-00000000d002"
  userId := "018f0000-0000-7000-8000-00000000b002"

/-- The handler of the first call for the room. -/
def roomHandler (identity : Nat) : Handler where
  identity
  body := .fanOutBusEvent "team"

/-- The first call has resolved before anything else happens. -/
def apart : List Call :=
  [.subscribesRoom firstConnection "team", .resolves (roomHandler 0),
    .subscribesRoom secondConnection "team",
    .unsubscribesRoom firstConnection "team", .unregisters secondConnection,
    .subscribesRoom firstConnection "team", .resolves (roomHandler 1)]

/-- A call resolves, or none is under way. -/
def Quiet (server : AwaitingServer) : Call → Prop
  | .resolves _ => True
  | _ => server.pending = []

instance (server : AwaitingServer) : DecidablePred (Quiet server)
  | .resolves _ => isTrue trivial
  | .registers _ => inferInstanceAs (Decidable (server.pending = []))
  | .unregisters _ => inferInstanceAs (Decidable (server.pending = []))
  | .subscribesRoom _ _ => inferInstanceAs (Decidable (server.pending = []))
  | .unsubscribesRoom _ _ => inferInstanceAs (Decidable (server.pending = []))

theorem Quiet.not_disturbs {server : AwaitingServer} {call : Call}
    (quiet : Quiet server call) (roomId : String) :
    ¬ Disturbs server roomId call := by
  have idle (rest : server.pending = []) : ¬ AwaitsRoom server roomId := by
    rintro ⟨handler, called, -⟩
    rw [rest] at called
    cases called
  cases call with
  | registers ws => exact id
  | unregisters ws => exact fun both => idle quiet both.2
  | subscribesRoom ws other => exact fun both => idle quiet both.2.2
  | unsubscribesRoom ws other => exact fun both => idle quiet both.2
  | resolves handler => exact id

theorem fans_out_once_iff_apart :
    Throughout step FansOutOnce .start apart := by
  have quiet : Along step Quiet .start apart := by decide +kernel
  apply (fans_out_once_iff apart (by decide +kernel)).mpr
  exact quiet.mono fun server call => Quiet.not_disturbs

/-- A second connection subscribes before the call of the first resolves. -/
def bothFirst : List Call :=
  [.subscribesRoom firstConnection "team",
    .subscribesRoom secondConnection "team", .resolves (roomHandler 0),
    .resolves (roomHandler 1)]

theorem fans_out_twice :
    ¬ ∀ calls, Along step Fair .start calls →
      Throughout step FansOutOnce .start calls := by
  intro claim
  have once := (claim bothFirst (by decide +kernel)).final [] rfl "team"
  have handlers : ((run step .start bothFirst).bus.receivers
      (.room "team")).length = 2 := by
    decide +kernel
  have subscribers :
      ((run step .start bothFirst).subscribers "team").size ≠ 0 :=
    by decide +kernel
  have single : ((run step .start bothFirst).bus.receivers
      (.room "team")).length =
        if ((run step .start bothFirst).subscribers "team").size = 0 then 0
        else 1 :=
    once.handlers
  rw [if_neg subscribers] at single
  exact absurd (handlers.symm.trans single) (by decide)

end ChatBackend.Ws.FanOutOnce
