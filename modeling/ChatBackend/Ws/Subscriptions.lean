import ChatBackend.Transition.Runs
import ChatBackend.Ws.Gateway

/-!
# The counters of the registry

Three structures say who is subscribed to a room: the local subscribers, the
counted subscription to the bus and the room sets of the connections.
Subscribing and closing keep them in step.  `unsubscribeRoom` counts down
whether or not the connection holds the room, so a list of room ids keeps them
in step exactly when it names a room that the connection holds, once, or a room
that nobody else is subscribed to.

While they are in step, connections do not interfere: a subscriber of a room
receives every event of the room once, until it gives the room up itself.
-/

namespace ChatBackend.Ws.Subscriptions

open Collections
open Transition
open ChatBackend.Chat.Store
open ChatBackend.Chat.RoomUseCases
open ChatBackend.Chat.Requests
open ChatBackend.Ws.Registry
open ChatBackend.Ws.Gateway

/-! ## Specification -/

/-- The three structures agree about every room. -/
structure InStep (server : Server) : Prop where
  counted : ∀ roomId, ∀ entry ∈ server.roomBusUnsub.get roomId,
    entry.refCount = (server.subscribers roomId).size
  present : ∀ roomId, (server.roomBusUnsub.get roomId).isSome ↔
    0 < (server.subscribers roomId).size
  mirrored : ∀ ws roomId,
    ws ∈ server.subscribers roomId ↔ roomId ∈ server.rooms ws

/-- The events of a room among those that reach the server. -/
def eventsOf (roomId : String) (entries : List (Channel × BusEvent)) :
    List BusEvent :=
  entries.filterMap fun entry =>
    if entry.1 = .room roomId then some entry.2 else none

/--
From subscribing to a room until giving it up, a connection receives every
event of the room once, whatever the other connections do.
-/
def KeepsReceiving (uuid : PgUuid) (start : World)
    (labels : List (Happening × Time)) : Prop :=
  ∀ before between happening now after,
    labels = before ++ between ++ (happening, now) :: after →
      ∀ ws roomId,
        roomId ∈ (run (step uuid) start before).server.rooms ws →
          (∀ label ∈ between, ¬ GivesUp ws roomId label.1) →
            let world := run (step uuid) start (before ++ between)
            Server.received ws roomId (sentBy uuid world (happening, now)) =
              (eventsOf roomId (arrivals uuid now world happening)).map
                fun event => Server.push now roomId event ws

/--
If the step unsubscribes, it names rooms that the connection holds, each once,
or rooms that nobody else is subscribed to.
-/
def Harmless (world : World) : Happening × Time → Prop
  | (.unsubscribes ws _ roomIds, _) => ∀ roomId ∈ roomIds,
      (roomId ∈ world.server.rooms ws ∧ roomIds.count roomId = 1) ∨
        ∀ other ∈ world.server.subscribers roomId, other = ws
  | _ => True

/-! ## Counters -/

section Counters

variable {server : Server} {ws : Connection}

/-- For a wired server, being in step is a matter of the counters. -/
theorem inStep_iff (wired : server.Wired) :
    InStep server ↔ ∀ roomId, (server.room roomId).Exact := by
  constructor
  · intro inStep roomId
    have counted := inStep.counted roomId
    have present := inStep.present roomId
    unfold Shared.Exact Server.room
    dsimp only
    cases found : server.roomBusUnsub.get roomId with
    | none =>
        rw [found] at present
        have empty : (server.subscribers roomId).size = 0 := by
          simpa using present
        rw [empty]
        rfl
    | some entry =>
        rw [found] at present
        obtain ⟨number, size⟩ :=
          Nat.exists_eq_succ_of_ne_zero (Nat.ne_of_gt (present.mp rfl))
        rw [Option.map_some, counted entry found, size]
        simp [tally]
  · intro exact_
    refine ⟨?_, ?_, wired.mirrored⟩
    · intro roomId entry found
      have counter := exact_ roomId
      unfold Shared.Exact Server.room at counter
      rw [found] at counter
      cases size : (server.subscribers roomId).size with
      | zero => simp [tally, size] at counter
      | succ number => simpa [tally, size] using counter
    · intro roomId
      have counter := exact_ roomId
      unfold Shared.Exact Server.room at counter
      rw [Nat.pos_iff_ne_zero, Ne, ← tally_eq_none_iff, ← counter,
        Option.map_eq_none_iff, ← Ne, Option.isSome_iff_ne_none]

/-- Joining rooms counts every new subscriber. -/
theorem exact_joinRooms (wired : server.Wired)
    (exact_ : ∀ roomId, (server.room roomId).Exact) (joined : List String) :
    ∀ roomId, ((joined.foldl (joinRoom ws) server).room roomId).Exact := by
  induction joined generalizing server with
  | nil => exact exact_
  | cons joins rest induction =>
      rw [List.foldl_cons]
      unfold joinRoom
      split_ifs with listed
      · exact induction wired exact_
      · apply induction (wired.subscribeRoom ws joins)
        intro roomId
        rw [Server.room_subscribeRoom]
        split_ifs
        · apply (exact_ joins).acquire
          intro subscribed
          exact listed ((wired.mirrored ws joins).mp subscribed)
        · exact exact_ roomId

/-- Closing counts the connection out of the rooms it holds. -/
theorem exact_unregister (wired : server.Wired)
    (exact_ : ∀ roomId, (server.room roomId).Exact) (roomId : String) :
    ((server.unregister ws).room roomId).Exact := by
  rw [Server.room_unregister]
  split_ifs with listed
  · apply (Shared.exact_release_iterate_iff (exact_ roomId) ws 1).mpr
    exact .inr (.inl ⟨(wired.mirrored ws roomId).mpr listed, rfl⟩)
  · exact exact_ roomId

end Counters

/-! ## One step -/

section Steps

variable {uuid : PgUuid} {world : World}

/-- A step keeps the structures in step exactly if it is harmless. -/
theorem inStep_step_iff (wired : world.server.Wired)
    (inStep : InStep world.server) (label : Happening × Time) :
    InStep (step uuid world label).server ↔ Harmless world label := by
  rcases label with ⟨happening, now⟩
  have ends : Ends uuid now world happening _ := step_ends wired happening now
  rw [inStep_iff (ends.wired wired)]
  have exact_ := (inStep_iff wired).mp inStep
  generalize step uuid world (happening, now) = after at ends
  cases ends with
  | opens ws =>
      refine iff_of_true ?_ trivial
      intro roomId
      rw [Server.room_register]
      exact exact_ roomId
  | subscribes ws refId roomIds joined envelope allowed =>
      exact iff_of_true (exact_joinRooms wired exact_ joined) trivial
  | unsubscribes ws refId roomIds envelope =>
      have released (roomId : String) :=
        Shared.exact_release_iterate_iff (exact_ roomId) ws
          (roomIds.count roomId)
      simp only [← Server.room_unsubscribeRooms] at released
      constructor
      · intro after roomId named
        rcases (released roomId).mp (after roomId) with
          absent | ⟨holds, once⟩ | only
        · exact absurd named (List.count_eq_zero.mp absent)
        · exact .inl ⟨(wired.mirrored ws roomId).mp holds, once⟩
        · exact .inr only
      · intro harmless roomId
        apply (released roomId).mpr
        by_cases named : roomId ∈ roomIds
        · rcases harmless roomId named with ⟨listed, once⟩ | only
          · exact .inr (.inl ⟨(wired.mirrored ws roomId).mpr listed, once⟩)
          · exact .inr (.inr only)
        · exact .inl (List.count_eq_zero.mpr named)
  | closes ws =>
      exact iff_of_true (exact_unregister wired exact_) trivial
  | serves request chat served => exact iff_of_true exact_ trivial
  | hears channel event => exact iff_of_true exact_ trivial

/-- What a subscriber receives of the events that reach the server. -/
theorem received_pushes_all (inStep : InStep world.server) {ws : Connection}
    {roomId : String} (listed : roomId ∈ world.server.rooms ws) (now : Time)
    (entries : List (Channel × BusEvent)) :
    Server.received ws roomId
        (entries.flatMap (world.server.pushes now)) =
      (eventsOf roomId entries).map
        fun event => Server.push now roomId event ws := by
  have subscribed := (inStep.mirrored ws roomId).mpr listed
  have positive : (world.server.subscribers roomId).size ≠ 0 := by
    rw [Ne, OrderedSet.size_eq_zero_iff, OrderedSet.eq_empty_iff]
    exact fun empty => empty ws subscribed
  have entry := (inStep.present roomId).mpr (Nat.pos_of_ne_zero positive)
  induction entries with
  | nil => rfl
  | cons head rest induction =>
      rcases head with ⟨channel, event⟩
      unfold eventsOf at induction ⊢
      rw [List.flatMap_cons, Server.received_append, induction,
        List.filterMap_cons]
      dsimp only
      split_ifs with same
      · subst same
        rw [Server.received_pushes entry subscribed]
        rfl
      · rw [Server.received_eq_nil, List.nil_append]
        intro frame pushed fanOut
        exact same (Server.pushes_fanOut pushed fanOut).1

end Steps

/-! ## Runs -/

/-- While the structures are in step, subscribers receive every event. -/
theorem keepsReceiving_of_inStep (uuid : PgUuid) {start : World}
    (wired : start.server.Wired) {labels : List (Happening × Time)}
    (inStep : Throughout (step uuid) (fun world => InStep world.server) start
      labels) :
    KeepsReceiving uuid start labels := by
  intro before between happening now after split ws roomId listed keeps world
  have still : roomId ∈ world.server.rooms ws := by
    have later := lists_run uuid (wired_run uuid wired before) listed keeps
    rw [← run_append] at later
    exact later
  have here : InStep world.server :=
    throughout_iff.mp inStep (before ++ between) _ split
  rw [received_sentBy (wired_run uuid wired _)]
  exact received_pushes_all here still now _

theorem inStep_start : InStep Server.start :=
  (inStep_iff .start).mpr fun _ => rfl

/-- The structures are in step in the runs that are harmless throughout. -/
theorem throughout_inStep_iff (uuid : PgUuid) (chat : ChatState)
    (labels : List (Happening × Time)) :
    Throughout (step uuid) (fun world => InStep world.server)
        (World.start chat) labels ↔
      Along (step uuid) Harmless (World.start chat) labels := by
  have supported (world : World) (label : Happening × Time)
      (wired : world.server.Wired) : (step uuid world label).server.Wired :=
    (step_ends wired label.1 label.2).wired wired
  have exactly (world : World) (label : Happening × Time)
      (wired : world.server.Wired) (inStep : InStep world.server) :
      InStep (step uuid world label).server ↔ Harmless world label :=
    inStep_step_iff wired inStep label
  exact throughout_iff_along supported exactly Server.Wired.start inStep_start

/--
The registry keeps its counters, its subscribers and the room sets in step, and
every subscriber receives every event until it gives the room up, exactly in
the runs in which every request to unsubscribe is harmless.
-/
theorem registry_in_step (uuid : PgUuid) (chat : ChatState)
    (labels : List (Happening × Time)) :
    (Throughout (step uuid) (fun world => InStep world.server)
        (World.start chat) labels ∧
      KeepsReceiving uuid (World.start chat) labels) ↔
      Along (step uuid) Harmless (World.start chat) labels := by
  constructor
  · rintro ⟨inStep, -⟩
    exact (throughout_inStep_iff uuid chat labels).mp inStep
  · intro harmless
    have inStep := (throughout_inStep_iff uuid chat labels).mpr harmless
    exact ⟨inStep, keepsReceiving_of_inStep uuid Server.Wired.start inStep⟩

/-! ## A run out of step -/

/-- Two connections of the members of a group. -/
def ownerConnection : Connection where
  connId := "018f0000-0000-7000-8000-00000000d001"
  userId := sampleOwner

def memberConnection : Connection where
  connId := "018f0000-0000-7000-8000-00000000d002"
  userId := sampleMember

/-- Both subscribe; then one names the room twice when it unsubscribes. -/
def unsubscribedTwice : List (Happening × Time) :=
  [(.serves (.createGroupRoom { id := sampleRoomId, now := 1 } sampleOwner
      "team" [sampleMember]), 1),
    (.opens ownerConnection, 2),
    (.opens memberConnection, 3),
    (.subscribes ownerConnection (some "a") [sampleRoomId], 4),
    (.subscribes memberConnection (some "b") [sampleRoomId], 5),
    (.unsubscribes memberConnection (some "c") [sampleRoomId, sampleRoomId],
      6)]

/-- The member types in the room. -/
def typing : Happening :=
  .serves (.typing sampleMember sampleRoomId)

/--
After one connection has unsubscribed twice, the room has a subscriber and no
entry, and the subscriber receives nothing of the next event.
-/
theorem registry_out_of_step :
    let start := World.start (sampleTables [sampleOwner, sampleMember])
    ¬ Throughout (step samplePgUuid) (fun world => InStep world.server) start
        unsubscribedTwice ∧
      ¬ KeepsReceiving samplePgUuid start
        (unsubscribedTwice ++ [(typing, 7)]) := by
  intro start
  constructor
  · intro throughout
    have present := throughout.final.present sampleRoomId
    have subscribed : 0 < ((run (step samplePgUuid) start
        unsubscribedTwice).server.subscribers sampleRoomId).size := by
      decide +kernel
    exact absurd (present.mpr subscribed) (by decide +kernel)
  · intro keeps
    have receives := keeps (unsubscribedTwice.take 4)
      (unsubscribedTwice.drop 4) typing 7 [] rfl ownerConnection sampleRoomId
      (by decide +kernel) (by decide +kernel)
    exact absurd receives (by decide +kernel)

end ChatBackend.Ws.Subscriptions
