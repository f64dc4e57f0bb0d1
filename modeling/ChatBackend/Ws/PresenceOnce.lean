import ChatBackend.Ws.FanOutOnce

/-!
# Overlapping registrations

`register` tests `presenceUnsub`, which is written when the call of the bus
resolves.  Until then every connection that opens calls the bus again, and a
last connection that closes finds nothing to release.  Once all calls have
resolved, presence has one handler while connections are registered and none
otherwise exactly in the runs in which no connection opens, and the only one
does not close, while a call is under way.
-/

namespace ChatBackend.Ws.PresenceOnce

open Collections
open Transition
open ChatBackend.Chat.Store
open ChatBackend.Ws.MessageBus
open ChatBackend.Ws.Registry
open ChatBackend.Ws.AwaitingRegistry
open ChatBackend.Ws.FanOutOnce

/-! ## Specification -/

/-- The connection is registered. -/
def Registered (server : Server) (ws : Connection) : Prop :=
  ∃ conns ∈ server.userConns.get ws.userId, ws ∈ conns

/-- Some connection is registered. -/
def Attended (server : Server) : Prop :=
  ∃ ws, Registered server ws

/--
Presence has one handler if some connection is registered and none otherwise,
and every presence event is sent to every registered connection once.
-/
structure Once (server : Server) : Prop where
  attended : Attended server →
    (server.bus.receivers .presenceGlobal).length = 1
  unattended : ¬ Attended server →
    (server.bus.receivers .presenceGlobal).length = 0
  pushes : ∀ now event,
    SentOnce server.sent (server.deliver now (.presenceGlobal, event)).sent
      (Server.presenceEnvelope now event) (Registered server)

/-- What presence comes to once all calls have resolved, in any order. -/
def FedOnce (server : AwaitingServer) : Prop :=
  ∀ order, (server.resolveAll order).pending = [] →
    Once (server.resolveAll order).toServer

/-- A call of `bus.subscribe` for presence is under way. -/
def AwaitsPresence (server : AwaitingServer) : Prop :=
  ∃ handler ∈ server.pending, handler.body = .fanOutPresence

/-- A connection opens, or the only one closes, while a call is under way. -/
def Disturbs (server : AwaitingServer) : Call → Prop
  | .registers _ => AwaitsPresence server
  | .unregisters ws => AwaitsPresence server ∧
      ∀ other, Registered server.toServer other → other = ws
  | _ => False

/-! ## Registered connections -/

section Registered

variable {server : Server} {pending : List Handler}

theorem registered_of_stored (tracked : Tracked server pending)
    {userId : String} {conns : OrderedSet Connection} {ws : Connection}
    (stored : server.userConns.get userId = some conns) (member : ws ∈ conns) :
    Registered server ws := by
  have key := (tracked.keyed userId conns stored).2 ws member
  exact ⟨conns, key ▸ stored, member⟩

/-- The map is empty when nobody is registered. -/
theorem size_eq_zero_iff (tracked : Tracked server pending) :
    server.userConns.size = 0 ↔ ¬ Attended server := by
  rw [OrderedMap.size_eq_zero_iff]
  constructor
  · rintro empty ⟨ws, conns, stored, -⟩
    rw [empty] at stored
    cases stored
  · intro nobody userId
    cases stored : server.userConns.get userId with
    | none => rfl
    | some conns =>
        have inhabited := (tracked.keyed userId conns stored).1
        rw [Ne, OrderedSet.eq_empty_iff, not_forall] at inhabited
        rcases inhabited with ⟨ws, member⟩
        exact absurd
          ⟨ws, registered_of_stored tracked stored (not_not.mp member)⟩ nobody

theorem registered_addConn (ws other : Connection) :
    Registered (server.addConn ws) other ↔
      Registered server other ∨ other = ws := by
  have known (conns : Option (OrderedSet Connection)) :
      other ∈ conns.getD ∅ ↔ ∃ stored ∈ conns, other ∈ stored := by
    cases conns <;> simp
  unfold Registered Server.addConn
  dsimp only
  rw [OrderedMap.get_set]
  split_ifs with same
  · rw [same, ← known, ← known, Option.getD_some, OrderedSet.mem_add]
  · refine (or_iff_left ?_).symm
    rintro rfl
    exact same rfl

theorem registered_deleteConn (ws other : Connection) :
    Registered (server.deleteConn ws) other ↔
      Registered server other ∧ other ≠ ws := by
  unfold Registered Server.deleteConn
  cases found : server.userConns.get ws.userId with
  | none =>
      refine (and_iff_left_of_imp ?_).symm
      rintro ⟨conns, stored, -⟩ rfl
      rw [found] at stored
      cases stored
  | some conns =>
      dsimp only
      by_cases same : other.userId = ws.userId
      · rw [same, found]
        split_ifs with last
        · rw [OrderedMap.get_delete, if_pos rfl]
          have gone := OrderedSet.eq_empty_iff.mp
            (OrderedSet.size_eq_zero_iff.mp last) other
          rw [OrderedSet.mem_delete] at gone
          simp only [Option.mem_def, reduceCtorEq, false_and, exists_false,
            Option.some.injEq, exists_eq_left', false_iff, not_and, not_not]
          exact fun member =>
            not_not.mp fun different => gone ⟨different, member⟩
        · rw [OrderedMap.get_set, if_pos rfl]
          simp [and_comm]
      · have different : other ≠ ws := by
          rintro rfl
          exact same rfl
        split_ifs
        · simp [same, different]
        · simp [same, different]

/-- The connections that `fanOutPresence` goes through. -/
theorem connections (tracked : Tracked server pending) :
    (server.userConns.values.flatMap OrderedSet.toList).Nodup ∧
      ∀ ws, ws ∈ server.userConns.values.flatMap OrderedSet.toList ↔
        Registered server ws := by
  unfold OrderedMap.values
  constructor
  · rw [List.nodup_flatMap]
    refine ⟨fun conns _ => conns.nodup, ?_⟩
    rw [List.pairwise_map]
    have apart := List.pairwise_map.mp server.userConns.nodup
    refine apart.imp_of_mem ?_
    rintro ⟨userId, conns⟩ ⟨other, others⟩ stored otherStored different ws
      member otherMember
    have key := (tracked.keyed userId conns
      (OrderedMap.mem_entries_iff.mp stored)).2 ws member
    have otherKey := (tracked.keyed other others
      (OrderedMap.mem_entries_iff.mp otherStored)).2 ws otherMember
    exact different (key.symm.trans otherKey)
  · intro ws
    rw [List.mem_flatMap]
    constructor
    · rintro ⟨conns, listed, member⟩
      rcases List.mem_map.mp listed with ⟨⟨userId, _⟩, stored, rfl⟩
      exact registered_of_stored tracked (OrderedMap.mem_entries_iff.mp stored)
        member
    · rintro ⟨conns, stored, member⟩
      refine ⟨conns, List.mem_map.mpr ⟨(ws.userId, conns), ?_, rfl⟩, member⟩
      exact OrderedMap.mem_entries_iff.mpr stored

/-- Who is registered is a matter of the connections of the users. -/
theorem registered_congr {after : Server}
    (same : after.userConns = server.userConns) (ws : Connection) :
    Registered after ws ↔ Registered server ws := by
  unfold Registered
  rw [same]

theorem attended_congr {after : Server}
    (same : after.userConns = server.userConns) :
    Attended after ↔ Attended server :=
  exists_congr (registered_congr same)

end Registered

/-! ## Delivery -/

section Delivery

variable {server : Server} {pending : List Handler}

/-- One handler sends an event to every registered connection. -/
theorem deliver_presence (tracked : Tracked server pending)
    (attended : Attended server →
      (server.bus.receivers .presenceGlobal).length = 1)
    (unattended : ¬ Attended server →
      (server.bus.receivers .presenceGlobal).length = 0)
    (now : Time) (event : BusEvent) :
    server.deliver now (.presenceGlobal, event) =
      server.send ((server.userConns.values.flatMap OrderedSet.toList).map
        fun ws =>
          { ws, envelope := Server.presenceEnvelope now event,
            fanOut := some .fanOutPresence }) := by
  unfold Server.deliver
  dsimp only
  by_cases somebody : Attended server
  · rcases List.length_eq_one_iff.mp (attended somebody) with ⟨handler, only⟩
    have body : handler.body = .fanOutPresence := by
      have channel : channelOf handler.body = .presenceGlobal := by
        apply tracked.bodies
        rw [only]
        exact .head _
      cases here : handler.body with
      | fanOutBusEvent roomId =>
          rw [here] at channel
          cases channel
      | fanOutPresence => rfl
    rw [only, List.foldl_cons, List.foldl_nil, body, List.map_flatMap]
    rfl
  · have nobody : server.userConns.values.flatMap OrderedSet.toList = [] := by
      rw [List.eq_nil_iff_forall_not_mem]
      intro ws member
      exact somebody ⟨ws, ((connections tracked).2 ws).mp member⟩
    rw [List.length_eq_zero_iff.mp (unattended somebody), nobody]
    exact Server.send_nil.symm

theorem once_of_handlers (tracked : Tracked server pending)
    (attended : Attended server →
      (server.bus.receivers .presenceGlobal).length = 1)
    (unattended : ¬ Attended server →
      (server.bus.receivers .presenceGlobal).length = 0) : Once server := by
  refine ⟨attended, unattended, ?_⟩
  intro now event
  have delivered :=
    deliver_presence tracked attended unattended now event
  refine ⟨_, congrArg Server.sent delivered, ?_⟩
  rw [List.map_map]
  change (List.map id _).Nodup ∧ (∀ ws, ws ∈ List.map id _ ↔ _) ∧ _
  rw [List.map_id]
  refine ⟨(connections tracked).1, (connections tracked).2, ?_⟩
  intro frame member
  rcases List.mem_map.mp member with ⟨ws, -, rfl⟩
  rfl

end Delivery

/-! ## The shape of presence -/

section Shape

variable {server : AwaitingServer}

@[simp]
theorem userConns_resolve (handler : Handler) :
    (server.resolve handler).userConns = server.userConns := by
  unfold AwaitingServer.resolve
  split_ifs
  · cases handler.body <;> rfl
  · rfl

@[simp]
theorem userConns_resolveAll (order : List Handler) :
    (server.resolveAll order).userConns = server.userConns := by
  unfold AwaitingServer.resolveAll
  induction order generalizing server with
  | nil => rfl
  | cons handler rest induction =>
      rw [List.foldl_cons, induction, userConns_resolve]

/-- The feed of presence is in order. -/
def InShape (server : AwaitingServer) : Prop :=
  (feed server.toServer server.pending .presenceGlobal).Orderly
    (Attended server.toServer)

theorem inShape_start : InShape .start := by
  refine .inl ⟨rfl, rfl, ?_⟩
  refine iff_of_false nofun ?_
  rintro ⟨ws, conns, stored, -⟩
  cases stored

theorem awaitsPresence_iff :
    AwaitsPresence server ↔
      (feed server.toServer server.pending .presenceGlobal).pending ≠ [] := by
  have body {handler : Handler} : handler.body = .fanOutPresence ↔
      channelOf handler.body = .presenceGlobal := by
    cases handler.body <;> simp [channelOf]
  rw [Ne, List.eq_nil_iff_forall_not_mem, not_forall]
  unfold AwaitsPresence
  simp only [not_not, mem_feed_pending, body]

/-- Presence in shape has its handler once all calls have resolved. -/
theorem InShape.fedOnce (shape : InShape server)
    (tracked : Tracked server.toServer server.pending) : FedOnce server := by
  intro order rest
  have still : Attended (server.resolveAll order).toServer ↔
      Attended server.toServer :=
    attended_congr (userConns_resolveAll order)
  rcases Feed.Orderly.single shape with ⟨one, none_⟩
  apply once_of_handlers (tracked_resolveAll tracked order)
  · intro attended
    rw [length_receivers_resolveAll tracked rest]
    exact one (still.mp attended)
  · intro unattended
    rw [length_receivers_resolveAll tracked rest]
    exact none_ (mt still.mpr unattended)

/-- A feed that will not be single shows once all calls have resolved. -/
theorem not_fedOnce (tracked : Tracked server.toServer server.pending)
    (broken : ¬ (feed server.toServer server.pending .presenceGlobal).Single
      (Attended server.toServer)) : ¬ FedOnce server := by
  intro once
  have rest := pending_resolveAll server
  have still : Attended (server.resolveAll server.pending).toServer ↔
      Attended server.toServer :=
    attended_congr (userConns_resolveAll server.pending)
  have count := length_receivers_resolveAll tracked rest .presenceGlobal
  apply broken
  constructor
  · intro attended
    rw [← count]
    exact (once server.pending rest).attended (still.mpr attended)
  · intro unattended
    rw [← count]
    exact (once server.pending rest).unattended (mt still.mp unattended)

/-- Presence whose feed and connections stay as they are. -/
theorem InShape.same {after : AwaitingServer} (shape : InShape server)
    (sameFeed : feed after.toServer after.pending .presenceGlobal =
      feed server.toServer server.pending .presenceGlobal)
    (sameConns : after.userConns = server.userConns) : InShape after := by
  unfold InShape
  rw [sameFeed]
  exact Feed.Orderly.congr shape (attended_congr sameConns).symm

theorem registered_register (ws other : Connection) :
    Registered (server.register ws).toServer other ↔
      Registered server.toServer other ∨ other = ws := by
  have added : (server.register ws).userConns =
      (server.addConn ws).userConns := by
    unfold AwaitingServer.register
    split <;> rfl
  rw [← registered_addConn]
  exact registered_congr added other

theorem attended_register (ws : Connection) :
    Attended (server.register ws).toServer :=
  ⟨ws, (registered_register ws ws).mpr (.inr rfl)⟩

@[simp]
theorem userConns_subscribeRoom (ws : Connection) (roomId : String) :
    (server.subscribeRoom ws roomId).userConns = server.userConns := by
  unfold AwaitingServer.subscribeRoom
  split <;> rfl

theorem registered_unregister (ws other : Connection) :
    Registered (server.unregister ws).toServer other ↔
      Registered server.toServer other ∧ other ≠ ws := by
  rw [← registered_deleteConn]
  exact registered_congr (userConns_unregister server.toServer ws) other

/-! ## One step -/

/-- Closing releases the feed when nobody else is registered. -/
theorem feed_unregister (tracked : Tracked server.toServer server.pending)
    {ws : Connection}
    (nobody : ¬ Attended (server.unregister ws).toServer) :
    feed (server.unregister ws).toServer (server.unregister ws).pending
        .presenceGlobal =
      (feed server.toServer server.pending .presenceGlobal).release := by
  have trackedAfter := tracked.step (.unregisters ws)
  have empty : (server.unregister ws).userConns.size = 0 :=
    (size_eq_zero_iff trackedAfter).mpr nobody
  exact (feed_unregister_presence tracked ws).trans (if_pos empty)

/-- A call that disturbs no wait keeps presence in shape. -/
theorem InShape.step (shape : InShape server)
    (tracked : Tracked server.toServer server.pending) {call : Call}
    (undisturbed : ¬ Disturbs server call) :
    InShape (step server call) := by
  cases call with
  | registers ws =>
      have retained : feed (server.register ws).toServer
          (server.register ws).pending .presenceGlobal = _ :=
        feed_register server ws
      have noCalls := not_not.mp (mt awaitsPresence_iff.mpr undisturbed)
      have attended := @attended_register server ws
      rw [if_pos rfl] at retained
      change Feed.Orderly _ _
      rw [AwaitingRegistry.step, retained]
      exact (Feed.Orderly.retain shape noCalls _).congr
        (iff_of_true trivial attended)
  | unregisters ws =>
      by_cases somebody : Attended (server.unregister ws).toServer
      · have trackedAfter := tracked.step (.unregisters ws)
        have inhabited : (server.unregister ws).userConns.size ≠ 0 :=
          fun empty => (size_eq_zero_iff trackedAfter).mp empty somebody
        have kept : feed (server.unregister ws).toServer
            (server.unregister ws).pending .presenceGlobal = _ :=
          (feed_unregister_presence tracked ws).trans (if_neg inhabited)
        have already : Attended server.toServer := by
          rcases somebody with ⟨other, registered⟩
          exact ⟨other, ((registered_unregister ws other).mp registered).1⟩
        change Feed.Orderly _ _
        rw [AwaitingRegistry.step, kept]
        exact Feed.Orderly.congr shape (iff_of_true already somebody)
      · have idle : ¬ AwaitsPresence server := by
          intro awaits
          refine undisturbed ⟨awaits, fun other registered => ?_⟩
          by_contra different
          exact somebody ⟨other,
            (registered_unregister ws other).mpr ⟨registered, different⟩⟩
        have noCalls := not_not.mp (mt awaitsPresence_iff.mpr idle)
        change Feed.Orderly _ _
        rw [AwaitingRegistry.step, feed_unregister tracked somebody]
        exact (Feed.Orderly.release shape noCalls).congr
          (iff_of_false id somebody)
  | subscribesRoom ws roomId =>
      unfold AwaitingRegistry.step
      dsimp only
      split_ifs
      · exact shape
      · apply shape.same
        · exact (feed_subscribeRoom server ws roomId).trans (if_neg nofun)
        · exact userConns_subscribeRoom ws roomId
  | unsubscribesRoom ws roomId =>
      apply shape.same
      · refine (feed_unsubscribeRoom tracked ws roomId).trans (if_neg ?_)
        exact fun both => nomatch both.1
      · exact userConns_unsubscribeRooms server.toServer ws [roomId]
  | resolves handler =>
      have resolved : feed (server.resolve handler).toServer
          (server.resolve handler).pending .presenceGlobal = _ :=
        feed_resolve tracked handler
      have still : Attended server.toServer ↔
          Attended (server.resolve handler).toServer :=
        (attended_congr (userConns_resolve handler)).symm
      change Feed.Orderly _ _
      rw [AwaitingRegistry.step, resolved]
      split_ifs
      · exact (Feed.Orderly.resolve shape handler).congr still
      · exact Feed.Orderly.congr shape still

/-- A call that disturbs a wait breaks presence. -/
theorem InShape.not_fedOnce (shape : InShape server)
    (tracked : Tracked server.toServer server.pending) {call : Call}
    (disturbs : Disturbs server call) :
    ¬ FedOnce (AwaitingRegistry.step server call) := by
  have trackedAfter := tracked.step call
  cases call with
  | registers ws =>
      have busy := awaitsPresence_iff.mp disturbs
      have attended := iff_true_intro (@attended_register server ws)
      have retained : feed (server.register ws).toServer
          (server.register ws).pending .presenceGlobal = _ :=
        (feed_register server ws).trans (if_pos rfl)
      apply PresenceOnce.not_fedOnce trackedAfter
      rw [AwaitingRegistry.step, attended, retained]
      exact Feed.Orderly.not_single_retain shape busy _
  | unregisters ws =>
      rcases disturbs with ⟨awaits, only⟩
      have busy := awaitsPresence_iff.mp awaits
      have nobody : ¬ Attended (server.unregister ws).toServer := by
        rintro ⟨other, registered⟩
        rcases (registered_unregister ws other).mp registered with
          ⟨before, different⟩
        exact different (only other before)
      apply PresenceOnce.not_fedOnce trackedAfter
      rw [AwaitingRegistry.step, iff_false_intro nobody,
        feed_unregister tracked nobody]
      exact Feed.Orderly.not_single_release shape busy
  | subscribesRoom ws roomId => cases disturbs
  | unsubscribesRoom ws roomId => cases disturbs
  | resolves handler => cases disturbs

end Shape

/-! ## Runs -/

/--
Presence has one handler while connections are registered and none otherwise
whenever all calls have resolved, and every presence event is sent to every
registered connection once, exactly in the runs in which no connection opens,
and the only one does not close, while a call for presence is under way.
-/
theorem presence_fed_once_iff (calls : List Call) :
    Throughout step FedOnce .start calls ↔
      Along step (fun server call => ¬ Disturbs server call) .start calls := by
  let shape (server : AwaitingServer) : Prop :=
    Tracked server.toServer server.pending ∧ InShape server
  have start : shape .start := ⟨tracked_start, inShape_start⟩
  refine throughout_iff_along_of_shape ?_ ?_ ?_ start
    (along_of_forall (fun _ _ => trivial) _ calls)
  · rintro server ⟨tracked, inShape⟩
    exact inShape.fedOnce tracked
  · rintro server call ⟨tracked, inShape⟩ - undisturbed
    exact ⟨tracked.step call, inShape.step tracked undisturbed⟩
  · rintro server call ⟨tracked, inShape⟩ - disturbed
    exact inShape.not_fedOnce tracked (not_not.mp disturbed)

/-- Two connections open before the call of the first has resolved. -/
def bothOpen : List Call :=
  [.registers firstConnection, .registers secondConnection,
    .resolves { identity := 0, body := .fanOutPresence },
    .resolves { identity := 1, body := .fanOutPresence }]

theorem presence_fed_twice :
    ¬ ∀ calls, Throughout step FedOnce .start calls := by
  intro claim
  have once : Once (run step .start bothOpen).toServer :=
    (claim bothOpen).final [] rfl
  have handlers : ((run step .start bothOpen).bus.receivers
      .presenceGlobal).length = 2 := by
    decide +kernel
  have attended : Attended (run step .start bothOpen).toServer := by
    refine ⟨firstConnection, OrderedSet.single firstConnection, ?_, ?_⟩
    · decide +kernel
    · decide +kernel
  exact absurd (handlers.symm.trans (once.attended attended)) (by decide)

end ChatBackend.Ws.PresenceOnce
