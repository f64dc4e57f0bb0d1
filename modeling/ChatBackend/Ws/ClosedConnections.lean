import ChatBackend.Ws.Gateway
import ChatBackend.Ws.PresenceOnce

/-!
# Closed connections

`dispatch` is asynchronous, and a close does not cancel it.  A `chat.subscribe`
awaits the membership of each of its rooms and then joins the room for its
connection, whether or not that has closed meanwhile.  A closed connection
stays out of the registry exactly in the runs in which no lookup answers, after
the close, that the user is a member.
-/

namespace ChatBackend.Ws.ClosedConnections

open Collections
open Transition
open ChatBackend.Chat.Store
open ChatBackend.Ws.Registry
open ChatBackend.Ws.Gateway
open ChatBackend.Ws.AwaitingRegistry
open ChatBackend.Ws.PresenceOnce

/-! ## Messages in progress -/

/-- What a `chat.subscribe` waits for. -/
inductive Await where
  | getMember
  /-- `subscribeRoom`, with the call of the bus that it awaits itself. -/
  | subscribeRoom (call : Option Handler)

/-- A `chat.subscribe` in its loop. -/
structure Task where
  ws : Connection
  refId : Option String
  subscribed : List String
  roomId : String
  /-- The room ids that follow in the message. -/
  rest : List String
  awaits : Await

/-- A server, its messages in progress and the connections that have closed. -/
structure World where
  server : AwaitingServer
  tasks : Nat → Option Task
  nextTask : Nat
  closed : List Connection

/-- A server that has just started. -/
def World.start : World where
  server := .start
  tasks _ := none
  nextTask := 0
  closed := []

namespace World

/-- Call `ws.send`. -/
def send (world : World) (frames : List Sent) : World :=
  { world with
    server :=
      { world.server with toServer := world.server.toServer.send frames } }

/-- A message is done. -/
def finish (world : World) (name : Nat) : World :=
  { world with tasks := Function.update world.tasks name none }

/-- The loop of `handleChatSubscribe`, up to its next `await`. -/
def proceed (world : World) (name : Nat) (ws : Connection)
    (refId : Option String) (subscribed : List String) (now : Time) :
    List String → World
  | [] =>
      (world.finish name).send
        [reply ws (buildAck refId (.subscribed subscribed) now)]
  | roomId :: rest =>
      { world with
        tasks :=
          Function.update world.tasks name
            (some { ws, refId, subscribed, roomId, rest,
                    awaits := .getMember }) }

/-- The call of the bus that `subscribeRoom` is going to await. -/
def awaitedCall (server : AwaitingServer) (roomId : String) : Option Handler :=
  match server.roomBusUnsub.get roomId with
  | some _ => none
  | none => some (nextFor server.toServer (.fanOutBusEvent roomId))

/-- The lookup of a message has answered. -/
def answer (world : World) (name : Nat) (task : Task) (now : Time) :
    Except Failure (Option RoomMember) → World
  | .error error =>
      let (code, message) := errorReply error
      (world.finish name).send
        [reply task.ws (buildError task.refId code message now)]
  | .ok none =>
      world.proceed name task.ws task.refId task.subscribed now task.rest
  | .ok (some _) =>
      if task.roomId ∈ world.server.rooms task.ws then
        world.proceed name task.ws task.refId
          (task.subscribed ++ [task.roomId]) now task.rest
      else
        { world with
          server := world.server.subscribeRoom task.ws task.roomId
          tasks :=
            Function.update world.tasks name
              (some { task with
                      awaits :=
                        .subscribeRoom
                          (awaitedCall world.server task.roomId) }) }

/-- `subscribeRoom` has returned to a message. -/
def resume (world : World) (name : Nat) (task : Task) (now : Time) : World :=
  world.proceed name task.ws task.refId (task.subscribed ++ [task.roomId]) now
    task.rest

end World

/-! ## Runs -/

/-- What happens between two await points. -/
inductive Happening where
  | opens (ws : Connection)
  | subscribes (ws : Connection) (refId : Option String)
      (roomIds : List String)
  /-- `getMember` answers to a message. -/
  | answers (name : Nat) (answer : Except Failure (Option RoomMember))
  /-- `subscribeRoom` returns to a message. -/
  | resumes (name : Nat)
  | unsubscribes (ws : Connection) (refId : Option String)
      (roomIds : List String)
  | closes (ws : Connection)
  | resolves (handler : Handler)
  /-- Another handler replies, or an event is fanned out. -/
  | sends (frames : List Sent)

/-- One step of a run; no handler is called for a closed connection. -/
def step (world : World) : Happening × Time → World
  | (.opens ws, _) =>
      if ws ∈ world.closed then world
      else { world with server := world.server.register ws }
  | (.subscribes ws refId roomIds, now) =>
      if ws ∈ world.closed then world
      else
        { world with nextTask := world.nextTask + 1 }.proceed world.nextTask ws
          refId [] now roomIds
  | (.answers name answer, now) =>
      match world.tasks name with
      | none => world
      | some task =>
          match task.awaits with
          | .getMember => world.answer name task now answer
          | .subscribeRoom _ => world
  | (.resumes name, now) =>
      match world.tasks name with
      | none => world
      | some task =>
          match task.awaits with
          | .getMember => world
          | .subscribeRoom call =>
              if ∀ handler ∈ call, handler ∉ world.server.pending then
                world.resume name task now
              else world
  | (.unsubscribes ws refId roomIds, now) =>
      if ws ∈ world.closed then world
      else
        { world with
          server :=
            { world.server with
              toServer :=
                handleChatUnsubscribe now world.server.toServer ws refId
                  roomIds } }
  | (.closes ws, _) =>
      if ws ∈ world.closed then world
      else
        { world with
          server := world.server.unregister ws
          closed := ws :: world.closed }
  | (.resolves handler, _) =>
      { world with server := world.server.resolve handler }
  | (.sends frames, _) => world.send frames

/-! ## Specification -/

/-- The connection is in no set of the registry. -/
def Gone (server : Server) (ws : Connection) : Prop :=
  (∀ userId, ∀ conns ∈ server.userConns.get userId, ws ∉ conns) ∧
    ∀ roomId, ∀ subs ∈ server.roomLocalSubs.get roomId, ws ∉ subs

/-- Closed connections are in no set of the registry. -/
def NoZombies (world : World) : Prop :=
  ∀ ws ∈ world.closed, Gone world.server.toServer ws

/-- A lookup answers that the user of a closed connection is a member. -/
def AdmitsClosed (world : World) : Happening × Time → Prop
  | (.answers name (.ok (some _)), _) =>
      ∃ task ∈ world.tasks name,
        task.awaits = .getMember ∧ task.ws ∈ world.closed
  | _ => False

/-! ## What a step does -/

/-- What a step does to the server and to the closed connections. -/
inductive Ends (world after : World) (label : Happening × Time) : Prop where
  | sends (frames : List Sent)
      (server : after.server =
        { world.server with
          toServer := world.server.toServer.send frames })
      (closed : after.closed = world.closed)
  | registers (ws : Connection)
      (opened : ws ∉ world.closed)
      (server : after.server = world.server.register ws)
      (closed : after.closed = world.closed)
  | joins (ws : Connection) (roomId : String)
      (admitted : ¬ AdmitsClosed world label → ws ∉ world.closed)
      (server : after.server = world.server.subscribeRoom ws roomId)
      (closed : after.closed = world.closed)
  | unsubscribes (ws : Connection) (roomIds : List String)
      (frames : List Sent)
      (server : after.server =
        { world.server with
          toServer :=
            (world.server.unsubscribeRooms ws roomIds).send frames })
      (closed : after.closed = world.closed)
  | closes (ws : Connection)
      (server : after.server = world.server.unregister ws)
      (closed : after.closed = ws :: world.closed)
  | resolves (handler : Handler)
      (server : after.server = world.server.resolve handler)
      (closed : after.closed = world.closed)

section Steps

variable {world : World} {label : Happening × Time}

/-- A step that sends nothing. -/
theorem Ends.stays {after : World} (server : after.server = world.server)
    (closed : after.closed = world.closed) : Ends world after label :=
  .sends [] (by rw [server, Server.send_nil]) closed

theorem proceed_ends (name : Nat) (ws : Connection) (refId : Option String)
    (subscribed : List String) (now : Time) (roomIds : List String) :
    Ends world (world.proceed name ws refId subscribed now roomIds) label := by
  cases roomIds with
  | nil => exact .sends _ rfl rfl
  | cons roomId rest => exact .stays rfl rfl

theorem step_ends (world : World) (label : Happening × Time) :
    Ends world (step world label) label := by
  rcases label with ⟨happening, now⟩
  unfold step
  cases happening with
  | opens ws =>
      dsimp only
      split_ifs with shut
      · exact .stays rfl rfl
      · exact .registers ws shut rfl rfl
  | subscribes ws refId roomIds =>
      dsimp only
      split_ifs with shut
      · exact .stays rfl rfl
      · cases roomIds with
        | nil => exact .sends _ rfl rfl
        | cons roomId rest => exact .stays rfl rfl
  | answers name answer =>
      dsimp only
      cases found : world.tasks name with
      | none => exact .stays rfl rfl
      | some task =>
          dsimp only
          cases awaits : task.awaits with
          | subscribeRoom call => exact .stays rfl rfl
          | getMember =>
              dsimp only
              rcases answer with error | _ | row
              · exact .sends _ rfl rfl
              · exact proceed_ends _ _ _ _ _ _
              · unfold World.answer
                dsimp only
                split_ifs with listed
                · exact proceed_ends _ _ _ _ _ _
                · refine .joins task.ws task.roomId ?_ rfl rfl
                  exact fun admitted shut =>
                    admitted ⟨task, found, awaits, shut⟩
  | resumes name =>
      dsimp only
      cases world.tasks name with
      | none => exact .stays rfl rfl
      | some task =>
          dsimp only
          cases task.awaits with
          | getMember => exact .stays rfl rfl
          | subscribeRoom call =>
              dsimp only
              split_ifs
              · exact proceed_ends _ _ _ _ _ _
              · exact .stays rfl rfl
  | unsubscribes ws refId roomIds =>
      dsimp only
      split_ifs
      · exact .stays rfl rfl
      · exact .unsubscribes ws roomIds _ rfl rfl
  | closes ws =>
      dsimp only
      split_ifs
      · exact .stays rfl rfl
      · exact .closes ws rfl rfl
  | resolves handler => exact .resolves handler rfl rfl
  | sends frames => exact .sends frames rfl rfl

/-- The registry and the bus agree after every step. -/
theorem Ends.tracked {after : World} (ends : Ends world after label)
    (tracked : Tracked world.server.toServer world.server.pending) :
    Tracked after.server.toServer after.server.pending := by
  cases ends with
  | sends frames server closed =>
      rw [server]
      exact { tracked with }
  | registers ws opened server closed =>
      rw [server]
      exact tracked.register ws
  | joins ws roomId admitted server closed =>
      rw [server]
      exact tracked.subscribeRoom ws roomId
  | unsubscribes ws roomIds frames server closed =>
      rw [server]
      exact { tracked.unsubscribeRooms ws roomIds with }
  | closes ws server closed =>
      rw [server]
      exact tracked.step (.unregisters ws)
  | resolves handler server closed =>
      rw [server]
      exact tracked.resolve handler

/-! ## Who is gone -/

theorem gone_iff {server : Server} {pending : List Handler}
    (tracked : Tracked server pending) {ws : Connection} :
    Gone server ws ↔
      ¬ Registered server ws ∧ ∀ roomId, roomId ∉ server.rooms ws := by
  have subscribed (roomId : String) : roomId ∈ server.rooms ws ↔
      ∃ subs ∈ server.roomLocalSubs.get roomId, ws ∈ subs := by
    rw [← tracked.mirrored]
    unfold Server.subscribers
    cases server.roomLocalSubs.get roomId <;> simp
  constructor
  · rintro ⟨unregistered, unsubscribed⟩
    constructor
    · rintro ⟨conns, stored, member⟩
      exact unregistered ws.userId conns stored member
    · intro roomId listed
      rcases (subscribed roomId).mp listed with ⟨subs, stored, member⟩
      exact unsubscribed roomId subs stored member
  · rintro ⟨unregistered, unlisted⟩
    constructor
    · intro userId conns stored member
      exact unregistered (registered_of_stored tracked stored member)
    · intro roomId subs stored member
      exact unlisted roomId ((subscribed roomId).mpr ⟨subs, stored, member⟩)

theorem rooms_subscribeRoom (server : AwaitingServer) (ws : Connection)
    (roomId : String) :
    (server.subscribeRoom ws roomId).rooms =
      Function.update server.rooms ws ((server.rooms ws).add roomId) := by
  unfold AwaitingServer.subscribeRoom
  split <;> rfl

theorem rooms_resolve (server : AwaitingServer) (handler : Handler) :
    (server.resolve handler).rooms = server.rooms := by
  unfold AwaitingServer.resolve
  split_ifs
  · cases handler.body <;> rfl
  · rfl

theorem rooms_register (server : AwaitingServer) (ws : Connection) :
    (server.register ws).rooms = server.rooms := by
  unfold AwaitingServer.register
  split <;> rfl

/-- A connection that is gone stays so if the steps are not its own. -/
theorem Ends.gone {after : World} (ends : Ends world after label)
    (tracked : Tracked world.server.toServer world.server.pending)
    (admitted : ¬ AdmitsClosed world label) {ws : Connection}
    (shut : ws ∈ world.closed) (gone : Gone world.server.toServer ws) :
    Gone after.server.toServer ws := by
  have trackedAfter := ends.tracked tracked
  rw [gone_iff tracked] at gone
  rw [gone_iff trackedAfter]
  rcases gone with ⟨unregistered, unlisted⟩
  cases ends with
  | sends frames server closed =>
      rw [server]
      exact ⟨unregistered, unlisted⟩
  | registers other opened server closed =>
      rw [server, rooms_register]
      refine ⟨fun registered => ?_, unlisted⟩
      rcases (registered_register other ws).mp registered with before | rfl
      · exact unregistered before
      · exact opened shut
  | joins other roomId allowed server closed =>
      have different : ws ≠ other := by
        rintro rfl
        exact allowed admitted shut
      rw [server, rooms_subscribeRoom, Function.update_of_ne different]
      refine ⟨fun registered => unregistered ?_, unlisted⟩
      exact (registered_congr (userConns_subscribeRoom other roomId) ws).mp
        registered
  | unsubscribes other roomIds frames server closed =>
      have sameConns : after.server.userConns = world.server.userConns := by
        rw [server]
        exact userConns_unsubscribeRooms world.server.toServer other roomIds
      constructor
      · exact fun registered =>
          unregistered ((registered_congr sameConns ws).mp registered)
      · intro roomId listed
        rw [server] at listed
        exact unlisted roomId ((Server.mem_rooms_unsubscribeRooms
          world.server.toServer other roomId ws roomIds).mp listed).1
  | closes other server closed =>
      constructor
      · intro registered
        rw [server] at registered
        exact unregistered ((registered_unregister other ws).mp registered).1
      · intro roomId listed
        rw [server] at listed
        exact unlisted roomId ((Server.mem_rooms_unregister
          world.server.toServer other ws roomId).mp listed).1
  | resolves handler server closed =>
      rw [server, rooms_resolve]
      exact ⟨fun registered => unregistered
        ((registered_congr (userConns_resolve handler) ws).mp registered),
        unlisted⟩

/-- The close handler takes the connection out of all sets. -/
theorem gone_unregister {server : AwaitingServer}
    (tracked : Tracked server.toServer server.pending) (ws : Connection) :
    Gone (server.unregister ws).toServer ws := by
  have trackedAfter : Tracked (server.unregister ws).toServer
      (server.unregister ws).pending :=
    tracked.step (.unregisters ws)
  rw [gone_iff trackedAfter]
  constructor
  · intro registered
    exact ((registered_unregister ws ws).mp registered).2 rfl
  · intro roomId listed
    exact ((Server.mem_rooms_unregister server.toServer ws ws roomId).mp
      listed).2 rfl

/-- Only the close handler closes a connection. -/
theorem Ends.shuts {after : World} (ends : Ends world after label)
    {ws : Connection} (shut : ws ∈ after.closed) :
    ws ∈ world.closed ∨ after.server = world.server.unregister ws := by
  cases ends with
  | sends frames server closed => exact .inl (closed ▸ shut)
  | registers other opened server closed => exact .inl (closed ▸ shut)
  | joins other roomId allowed server closed => exact .inl (closed ▸ shut)
  | unsubscribes other roomIds frames server closed =>
      exact .inl (closed ▸ shut)
  | closes other server closed =>
      rw [closed] at shut
      rcases List.mem_cons.mp shut with rfl | before
      · exact .inr server
      · exact .inl before
  | resolves handler server closed => exact .inl (closed ▸ shut)

/-- A step that admits no closed connection leaves none in the registry. -/
theorem noZombies_step
    (tracked : Tracked world.server.toServer world.server.pending)
    (clean : NoZombies world) (admitted : ¬ AdmitsClosed world label) :
    NoZombies (step world label) := by
  have ends := step_ends world label
  intro ws shut
  rcases ends.shuts shut with already | closing
  · exact ends.gone tracked admitted already (clean ws already)
  · rw [closing]
    exact gone_unregister tracked ws

/-- A step that admits a closed connection puts it into a set. -/
theorem not_noZombies_step
    (tracked : Tracked world.server.toServer world.server.pending)
    (clean : NoZombies world) (admits : AdmitsClosed world label) :
    ¬ NoZombies (step world label) := by
  rcases label with ⟨happening, now⟩
  cases happening with
  | answers name answer =>
      rcases answer with error | _ | row
      · cases admits
      · cases admits
      · rcases admits with ⟨task, found, awaits, shut⟩
        have gone := (gone_iff tracked).mp (clean task.ws shut)
        have joined : step world (.answers name (.ok (some row)), now) =
            { world with
              server := world.server.subscribeRoom task.ws task.roomId
              tasks :=
                Function.update world.tasks name
                  (some { task with
                          awaits :=
                            .subscribeRoom (World.awaitedCall world.server
                              task.roomId) }) } := by
          have looked : world.tasks name = some task := found
          unfold step World.answer
          simp only [looked, awaits, if_neg (gone.2 task.roomId)]
        intro after
        rw [joined] at after
        have still := (gone_iff (tracked.subscribeRoom task.ws
          task.roomId)).mp (after task.ws shut)
        apply still.2 task.roomId
        rw [rooms_subscribeRoom, Function.update_self]
        exact OrderedSet.mem_add.mpr (.inr rfl)
  | opens ws => cases admits
  | subscribes ws refId roomIds => cases admits
  | resumes name => cases admits
  | unsubscribes ws refId roomIds => cases admits
  | closes ws => cases admits
  | resolves handler => cases admits
  | sends frames => cases admits

end Steps

/-! ## Runs -/

/--
Once its close handler has run, a connection is in no set of the registry in
any later state, exactly in the runs in which no lookup answers that the user
of a closed connection is a member.
-/
theorem no_zombies_iff (labels : List (Happening × Time)) :
    Throughout step NoZombies .start labels ↔
      Along step (fun world label => ¬ AdmitsClosed world label) .start
        labels := by
  have start : Tracked World.start.server.toServer
      World.start.server.pending :=
    tracked_start
  refine throughout_iff_along
    (fun world label tracked => (step_ends world label).tracked tracked) ?_
    start (fun ws shut => nomatch shut)
  intro world label tracked clean
  constructor
  · intro after admits
    exact not_noZombies_step tracked clean admits after
  · exact noZombies_step tracked clean

/-- A row that a lookup answers with. -/
def sampleRow : RoomMember where
  roomId := "team"
  userId := FanOutOnce.firstConnection.userId
  role := .member
  joinedAt := 1
  lastReadMessageId := none
  mutedUntil := none

/-- The connection closes while its subscription looks up the membership. -/
def closedEarly : List (Happening × Time) :=
  [(.opens FanOutOnce.firstConnection, 1),
    (.subscribes FanOutOnce.firstConnection none ["team"], 2),
    (.closes FanOutOnce.firstConnection, 3),
    (.answers 0 (.ok (some sampleRow)), 4)]

theorem zombie_after_close :
    ¬ ∀ labels, Throughout step NoZombies .start labels := by
  intro claim
  have clean := (claim closedEarly).final
  have gone := clean FanOutOnce.firstConnection (by decide +kernel)
  have subs : (run step .start closedEarly).server.roomLocalSubs.get "team" =
      some (OrderedSet.single FanOutOnce.firstConnection) := by
    decide +kernel
  exact gone.2 "team" _ subs (.head _)

end ChatBackend.Ws.ClosedConnections
