import ChatBackend.Transition.Runs
import ChatBackend.Ws.Gateway

/-!
# Subscriptions that Redis rejects

The registry enters a connection into its sets, and the bus a set of handlers
into its map, before Redis has accepted the subscription, and neither takes
anything back when Redis rejects it.  A retry then finds the room listed and is
acknowledged without a feed.

Requests are completed one after another.  What the tables and Redis answer is
part of the request.
-/

namespace ChatBackend.Ws.FailedSubscriptions

open Collections
open Transition
open ChatBackend.Chat.Store
open ChatBackend.Ws.MessageBus
open ChatBackend.Ws.Registry
open ChatBackend.Ws.Gateway

/-! ## The operations -/

/-- What the loop of a `chat.subscribe` meets at one of its room ids. -/
structure Attempt where
  roomId : String
  /-- The answer of `roomRepo.getMember`. -/
  member : Except Failure (Option RoomMember)
  /-- The answer of Redis, should a command be sent. -/
  accepted : Bool

/-- `RedisMessageBus.subscribe`; nothing is returned if Redis rejects. -/
def subscribe (bus : RedisMessageBus Handler) (channel : Channel)
    (handler : Handler) (accepted : Bool) :
    Option (Unsubscribe Handler) × RedisMessageBus Handler :=
  match bus.channelHandlers.get channel with
  -- `isNew`
  | none =>
      if accepted then
        (some { channel, handler },
          { channelHandlers :=
              bus.channelHandlers.set channel
                ((∅ : OrderedSet Handler).add handler)
            listeners := bus.listeners ++ [channel] })
      else
        (none,
          { bus with
            channelHandlers := bus.channelHandlers.set channel ∅ })
  | some handlers =>
      (some { channel, handler },
        { bus with
          channelHandlers :=
            bus.channelHandlers.set channel (handlers.add handler) })

/-- `subscribeRoom`, and whether it has returned. -/
def subscribeRoom (server : Server) (ws : Connection) (roomId : String)
    (accepted : Bool) : Bool × Server :=
  let server := server.addLocalSub ws roomId
  match server.roomBusUnsub.get roomId with
  | some existing =>
      (true,
        { server with
          roomBusUnsub :=
            server.roomBusUnsub.set roomId
              { existing with refCount := existing.refCount + 1 } })
  | none =>
      let handler :=
        { identity := server.nextHandler, body := .fanOutBusEvent roomId }
      match subscribe server.bus (.room roomId) handler accepted with
      | (some unsub, bus) =>
          (true,
            { server with
              bus
              nextHandler := server.nextHandler + 1
              roomBusUnsub :=
                server.roomBusUnsub.set roomId { unsub, refCount := 1 } })
      | (none, bus) =>
          (false, { server with bus, nextHandler := server.nextHandler + 1 })

/-- How the loop goes on. -/
inductive Turn where
  | passes
  | lists
  /-- With the code and the message that `dispatch` answers. -/
  | throws (code message : String)
deriving DecidableEq

/-- The body of the loop. -/
def turn (ws : Connection) (server : Server) (attempt : Attempt) :
    Turn × Server :=
  match attempt.member with
  | .error error =>
      let (code, message) := errorReply error
      (.throws code message, server)
  | .ok none => (.passes, server)
  | .ok (some _) =>
      if attempt.roomId ∈ server.rooms ws then (.lists, server)
      else
        match subscribeRoom server ws attempt.roomId attempt.accepted with
        | (true, server) => (.lists, server)
        -- the error of Redis is no `DomainError`
        | (false, server) =>
            (.throws "INTERNAL_ERROR" "Internal server error", server)

/-- The loop of `handleChatSubscribe`, with the ids it has subscribed. -/
def subscribeMember (ws : Connection) :
    List Attempt → List String → Server →
      Except (String × String) (List String) × Server
  | [], subscribed, server => (.ok subscribed, server)
  | attempt :: rest, subscribed, server =>
      match turn ws server attempt with
      | (.passes, server) => subscribeMember ws rest subscribed server
      | (.lists, server) =>
          subscribeMember ws rest (subscribed ++ [attempt.roomId]) server
      | (.throws code message, server) => (.error (code, message), server)

/-- `chat.subscribe`, with the answer of `dispatch` if it throws. -/
def handleChatSubscribe (now : Time) (server : Server) (ws : Connection)
    (refId : Option String) (attempts : List Attempt) : Server :=
  match subscribeMember ws attempts [] server with
  | (.ok subscribed, server) =>
      server.send [reply ws (buildAck refId (.subscribed subscribed) now)]
  | (.error (code, message), server) =>
      server.send [reply ws (buildError refId code message now)]

/-! ## Runs -/

/-- What happens at a server, each time up to its completion. -/
inductive Happening where
  | opens (ws : Connection)
  | subscribes (ws : Connection) (refId : Option String)
      (attempts : List Attempt)
  | unsubscribes (ws : Connection) (refId : Option String)
      (roomIds : List String)
  | closes (ws : Connection)
  | hears (channel : Channel) (event : BusEvent)

/-- One step of a run. -/
def step (server : Server) : Happening × Time → Server
  | (.opens ws, _) => server.register ws
  | (.subscribes ws refId attempts, now) =>
      handleChatSubscribe now server ws refId attempts
  | (.unsubscribes ws refId roomIds, now) =>
      handleChatUnsubscribe now server ws refId roomIds
  | (.closes ws, _) => server.unregister ws
  | (.hears channel event, now) => server.deliver now (channel, event)

/-! ## Specification -/

/-- The attempt sends a command to Redis, and Redis rejects it. -/
def Rejects (server : Server) (ws : Connection) (attempt : Attempt) : Prop :=
  (∃ row, attempt.member = .ok (some row)) ∧
    attempt.roomId ∉ server.rooms ws ∧
      server.roomBusUnsub.get attempt.roomId = none ∧
        server.bus.channelHandlers.get (.room attempt.roomId) = none ∧
          attempt.accepted = false

/-- The loop comes to the attempt in the state. -/
def Reaches (server : Server) (ws : Connection) (attempts : List Attempt)
    (reached : Server) (attempt : Attempt) : Prop :=
  ∃ before after subscribed, attempts = before ++ attempt :: after ∧
    subscribeMember ws before [] server = (.ok subscribed, reached)

/-- The registry, the room sets and the handlers of the bus are the same. -/
structure Untouched (before after : Server) : Prop where
  registry : after.toConnectionRegistry = before.toConnectionRegistry
  rooms : after.rooms = before.rooms
  channelHandlers :
    after.bus.channelHandlers = before.bus.channelHandlers

/-- If a `chat.subscribe` fails in Redis, the failing turn leaves no trace. -/
def FailsCleanly (server : Server) : Happening × Time → Prop
  | (.subscribes ws _ attempts, _) => ∀ reached attempt,
      Reaches server ws attempts reached attempt →
        Rejects reached ws attempt →
          Untouched reached (turn ws reached attempt).2
  | _ => True

/-- A live subscription to the channel of the room fans its events out. -/
def Fed (server : Server) (roomId : String) : Prop :=
  ∃ handler ∈ server.bus.receivers (.room roomId),
    handler.body = .fanOutBusEvent roomId

/--
Whichever `chat.subscribe` comes next and whatever it meets, the connection is
a fed subscriber of every room that the ack lists.
-/
def AcksTruthfully (server : Server) : Prop :=
  ∀ ws refId attempts now subscribed,
    let after := handleChatSubscribe now server ws refId attempts
    reply ws (buildAck refId (.subscribed subscribed) now) ∈
        after.sent.drop server.sent.length →
      ∀ roomId ∈ subscribed,
        ws ∈ after.subscribers roomId ∧ Fed after roomId

/-- Redis rejects no command of a `chat.subscribe`. -/
def NoneRejected (server : Server) : Happening × Time → Prop
  | (.subscribes ws _ attempts, _) => ∀ reached attempt,
      Reaches server ws attempts reached attempt →
        ¬ Rejects reached ws attempt
  | _ => True

/--
A room that is counted down so often keeps its entry, unless nobody else is
subscribed to it.
-/
def SparesRoom (server : Server) (ws : Connection) (roomId : String)
    (times : Nat) : Prop :=
  (∀ other ∈ server.subscribers roomId, other = ws) ∨
    ∃ entry ∈ server.roomBusUnsub.get roomId, times < entry.refCount

/-- No room of somebody else's is counted down to zero. -/
def Spares (server : Server) : Happening × Time → Prop
  | (.unsubscribes ws _ roomIds, _) => ∀ roomId ∈ roomIds,
      SparesRoom server ws roomId (roomIds.count roomId)
  | (.closes ws, _) => ∀ roomId ∈ server.rooms ws,
      SparesRoom server ws roomId 1
  | _ => True

/-! ## One turn -/

/-- What a rejected subscription leaves behind. -/
def halfJoined (server : Server) (ws : Connection) (roomId : String) :
    Server :=
  { server.addLocalSub ws roomId with
    bus :=
      { server.bus with
        channelHandlers := server.bus.channelHandlers.set (.room roomId) ∅ }
    nextHandler := server.nextHandler + 1 }

/-- What a turn comes to. -/
inductive Turns (server : Server) (ws : Connection) (attempt : Attempt) :
    Turn × Server → Prop where
  | passes : Turns server ws attempt (.passes, server)
  | lists :
      Turns server ws attempt (.lists, joinRoom ws server attempt.roomId)
  | throws (code message : String) :
      Turns server ws attempt (.throws code message, server)
  | rejected (rejects : Rejects server ws attempt) :
      Turns server ws attempt
        (.throws "INTERNAL_ERROR" "Internal server error",
          halfJoined server ws attempt.roomId)

section Turning

variable {server : Server} {ws : Connection} {attempt : Attempt}

/-- A command that is accepted, or is not needed, subscribes. -/
theorem subscribe_eq {bus : RedisMessageBus Handler} {channel : Channel}
    {handler : Handler} {accepted : Bool}
    (succeeds : bus.channelHandlers.get channel = none → accepted = true) :
    subscribe bus channel handler accepted =
      (some (bus.subscribe channel handler).1,
        (bus.subscribe channel handler).2) := by
  unfold subscribe RedisMessageBus.subscribe
  cases found : bus.channelHandlers.get channel with
  | none =>
      rw [succeeds found]
      rfl
  | some handlers => rfl

theorem subscribeRoom_eq {roomId : String} {accepted : Bool}
    (succeeds : server.roomBusUnsub.get roomId = none →
      server.bus.channelHandlers.get (.room roomId) = none →
        accepted = true) :
    subscribeRoom server ws roomId accepted =
      (true, server.subscribeRoom ws roomId) := by
  unfold subscribeRoom Server.subscribeRoom Server.retainBus
  have entries : (server.addLocalSub ws roomId).roomBusUnsub =
      server.roomBusUnsub := rfl
  have bus : (server.addLocalSub ws roomId).bus = server.bus := rfl
  dsimp only
  rw [entries, bus]
  cases found : server.roomBusUnsub.get roomId with
  | some existing => rfl
  | none =>
      dsimp only
      rw [subscribe_eq (succeeds found)]

theorem subscribeRoom_rejected {roomId : String}
    (noEntry : server.roomBusUnsub.get roomId = none)
    (unhandled : server.bus.channelHandlers.get (.room roomId) = none) :
    subscribeRoom server ws roomId false =
      (false, halfJoined server ws roomId) := by
  unfold subscribeRoom halfJoined subscribe
  have entries : (server.addLocalSub ws roomId).roomBusUnsub =
      server.roomBusUnsub := rfl
  have bus : (server.addLocalSub ws roomId).bus = server.bus := rfl
  dsimp only
  rw [entries, bus, noEntry, unhandled]
  rfl

theorem turn_rejected (rejects : Rejects server ws attempt) :
    turn ws server attempt =
      (.throws "INTERNAL_ERROR" "Internal server error",
        halfJoined server ws attempt.roomId) := by
  rcases rejects with
    ⟨⟨row, found⟩, unlisted, noEntry, unhandled, refused⟩
  unfold turn
  rw [found]
  dsimp only
  rw [if_neg unlisted, refused, subscribeRoom_rejected noEntry unhandled]

theorem turns (server : Server) (ws : Connection) (attempt : Attempt) :
    Turns server ws attempt (turn ws server attempt) := by
  by_cases rejects : Rejects server ws attempt
  · rw [turn_rejected rejects]
    exact .rejected rejects
  · unfold turn
    cases found : attempt.member with
    | error error => exact .throws _ _
    | ok answer =>
        cases answer with
        | none => exact .passes
        | some row =>
            have joins : Turns server ws attempt
                (.lists, joinRoom ws server attempt.roomId) := .lists
            unfold joinRoom at joins
            dsimp only
            by_cases listed : attempt.roomId ∈ server.rooms ws
            · rw [if_pos listed] at joins ⊢
              exact joins
            · rw [if_neg listed] at joins ⊢
              rw [subscribeRoom_eq]
              · exact joins
              · intro noEntry unhandled
                by_contra refused
                have wasRefused := eq_false_of_ne_true refused
                exact rejects
                  ⟨⟨row, found⟩, listed, noEntry, unhandled, wasRefused⟩

theorem trace_listed (server : Server) (ws : Connection) (roomId : String) :
    roomId ∈ (halfJoined server ws roomId).rooms ws := by
  unfold halfJoined Server.addLocalSub
  simp

/-- A rejected subscription always leaves a trace. -/
theorem not_untouched_of_rejects (rejects : Rejects server ws attempt) :
    ¬ Untouched server (turn ws server attempt).2 := by
  rw [turn_rejected rejects]
  intro untouched
  have listed := trace_listed server ws attempt.roomId
  rw [untouched.rooms] at listed
  exact rejects.2.1 listed

/-- Failing steps leave no trace only where no step fails. -/
theorem failsCleanly_iff (label : Happening × Time) :
    FailsCleanly server label ↔ NoneRejected server label := by
  rcases label with ⟨happening, now⟩
  cases happening with
  | subscribes ws refId attempts =>
      refine forall_congr' fun reached => forall_congr' fun attempt =>
        imp_congr_right fun _ => ?_
      constructor
      · exact fun cleanly rejects =>
          not_untouched_of_rejects rejects (cleanly rejects)
      · exact fun accepts rejects => absurd rejects accepts
  | opens ws => exact Iff.rfl
  | unsubscribes ws refId roomIds => exact Iff.rfl
  | closes ws => exact Iff.rfl
  | hears channel event => exact Iff.rfl

end Turning

/-! ## The loop -/

section Looping

variable {server : Server} {ws : Connection}

theorem subscribeMember_append (before after : List Attempt)
    (subscribed : List String) (server : Server) :
    subscribeMember ws (before ++ after) subscribed server =
      match subscribeMember ws before subscribed server with
      | (.ok subscribed, server) => subscribeMember ws after subscribed server
      | (.error error, server) => (.error error, server) := by
  induction before generalizing subscribed server with
  | nil => rfl
  | cons attempt rest induction =>
      rw [List.cons_append, subscribeMember, subscribeMember]
      rcases turn ws server attempt with ⟨goesOn, next⟩
      cases goesOn with
      | passes => exact induction subscribed next
      | lists => exact induction (subscribed ++ [attempt.roomId]) next
      | throws code message => rfl

theorem sent_turn (attempt : Attempt) :
    (turn ws server attempt).2.sent = server.sent := by
  have ends := turns server ws attempt
  generalize turn ws server attempt = result at ends ⊢
  cases ends with
  | passes => rfl
  | lists => exact sent_joinRooms [attempt.roomId]
  | throws code message => rfl
  | rejected rejects => rfl

theorem sent_subscribeMember (attempts : List Attempt)
    (subscribed : List String) :
    (subscribeMember ws attempts subscribed server).2.sent = server.sent := by
  induction attempts generalizing subscribed server with
  | nil => rfl
  | cons attempt rest induction =>
      have same : (turn ws server attempt).2.sent = server.sent :=
        sent_turn attempt
      rw [subscribeMember, ← same]
      rcases turn ws server attempt with ⟨goesOn, next⟩
      cases goesOn with
      | passes => exact induction subscribed
      | lists => exact induction (subscribed ++ [attempt.roomId])
      | throws code message => rfl

/-- The attempts that the tables answer and Redis accepts. -/
def acceptedAttempts (uuid : PgUuid) (chat : ChatState) (ws : Connection)
    (roomIds : List String) : List Attempt :=
  roomIds.map fun roomId =>
    { roomId, member := getMember uuid chat roomId ws.userId, accepted := true }

theorem turn_accepted {roomId : String} {row : RoomMember} :
    turn ws server { roomId, member := .ok (some row), accepted := true } =
      (.lists, joinRoom ws server roomId) := by
  unfold turn joinRoom
  dsimp only
  split_ifs
  · rfl
  · rw [subscribeRoom_eq fun _ _ => rfl]

theorem subscribeMember_accepted (uuid : PgUuid) (chat : ChatState)
    (roomIds subscribed : List String) (server : Server) :
    subscribeMember ws (acceptedAttempts uuid chat ws roomIds) subscribed
        server =
      let result :=
        Gateway.subscribeMember uuid chat ws roomIds subscribed server
      (result.1.mapError errorReply, result.2) := by
  unfold acceptedAttempts
  induction roomIds generalizing subscribed server with
  | nil => rfl
  | cons roomId rest induction =>
      rw [List.map_cons, subscribeMember, Gateway.subscribeMember]
      cases found : getMember uuid chat roomId ws.userId with
      | error error => rfl
      | ok answer =>
          cases answer with
          | none => exact induction subscribed server
          | some row =>
              rw [turn_accepted]
              exact induction (subscribed ++ [roomId])
                (joinRoom ws server roomId)

/-- Where Redis accepts everything, the request is the one of the gateway. -/
theorem handleChatSubscribe_accepted (uuid : PgUuid) (chat : ChatState)
    (now : Time) (server : Server) (ws : Connection) (refId : Option String)
    (roomIds : List String) :
    handleChatSubscribe now server ws refId
        (acceptedAttempts uuid chat ws roomIds) =
      Gateway.handleChatSubscribe uuid chat now server ws refId roomIds := by
  unfold handleChatSubscribe Gateway.handleChatSubscribe
  rw [subscribeMember_accepted]
  rcases Gateway.subscribeMember uuid chat ws roomIds [] server with
    ⟨error | subscribed, after⟩
  · rfl
  · rfl

/-- The ack that a `chat.subscribe` sends, if it sends one. -/
theorem acknowledged_iff {refId : Option String} {attempts : List Attempt}
    {now : Time} {subscribed : List String} :
    reply ws (buildAck refId (.subscribed subscribed) now) ∈
        (handleChatSubscribe now server ws refId attempts).sent.drop
          server.sent.length ↔
      (subscribeMember ws attempts [] server).1 = .ok subscribed := by
  have same : (subscribeMember ws attempts [] server).2.sent = server.sent :=
    sent_subscribeMember attempts []
  unfold handleChatSubscribe
  rw [← same]
  rcases subscribeMember ws attempts [] server with
    ⟨⟨code, message⟩ | listed, after⟩
  · simp [Server.send, reply, buildAck, buildError]
  · simp [Server.send, reply, buildAck, eq_comm]

/-- The registry is wired to the bus, and subscribed rooms have an entry. -/
structure Backed (server : Server) : Prop where
  wired : server.Wired
  held : ∀ roomId, (server.room roomId).Held

theorem backed_start : Backed .start where
  wired := .start
  held roomId :=
    { counted := fun holder holds => absurd holds (by simp [Server.start,
        Server.room, Server.subscribers])
      positive := fun count counter => by cases counter }

theorem Backed.send (backed : Backed server) (sent : List Sent) :
    Backed (server.send sent) where
  wired := backed.wired.send sent
  held := backed.held

theorem backed_joinRoom (backed : Backed server) (ws : Connection)
    (roomId : String) : Backed (joinRoom ws server roomId) := by
  unfold joinRoom
  split_ifs
  · exact backed
  · refine ⟨backed.wired.subscribeRoom ws roomId, fun other => ?_⟩
    rw [Server.room_subscribeRoom]
    split_ifs
    · exact (backed.held roomId).acquire ws
    · exact backed.held other

theorem backed_turn (backed : Backed server) {attempt : Attempt}
    (accepts : ¬ Rejects server ws attempt) :
    Backed (turn ws server attempt).2 := by
  have ends := turns server ws attempt
  generalize turn ws server attempt = result at ends ⊢
  cases ends with
  | passes => exact backed
  | lists => exact backed_joinRoom backed ws attempt.roomId
  | throws code message => exact backed
  | rejected rejects => exact absurd rejects accepts

/-- Attempts of which none is rejected keep the rooms backed. -/
theorem backed_subscribeMember (backed : Backed server)
    {attempts : List Attempt}
    (accepts : ∀ reached attempt, Reaches server ws attempts reached attempt →
      ¬ Rejects reached ws attempt) :
    Backed (subscribeMember ws attempts [] server).2 := by
  induction attempts using List.reverseRecOn with
  | nil => exact backed
  | append_singleton before attempt induction =>
      have earlier := induction fun reached other reaches => by
        rcases reaches with ⟨first, rest, subscribed, rfl, loop⟩
        refine accepts reached other
          ⟨first, rest ++ [attempt], subscribed, ?_, loop⟩
        rw [List.append_assoc, List.cons_append]
      rw [subscribeMember_append]
      cases loop : subscribeMember ws before [] server with
      | mk outcome reached =>
          rw [loop] at earlier
          cases outcome with
          | error error => exact earlier
          | ok subscribed =>
              have accepted := accepts reached attempt
                ⟨before, [], subscribed, rfl, loop⟩
              have after : Backed (turn ws reached attempt).2 :=
                backed_turn earlier accepted
              dsimp only
              rw [subscribeMember]
              generalize turn ws reached attempt = result at after ⊢
              rcases result with ⟨goesOn, next⟩
              cases goesOn with
              | passes => exact after
              | lists => exact after
              | throws code message => exact after

theorem backed_handleChatSubscribe (backed : Backed server)
    {refId : Option String} {attempts : List Attempt} {now : Time}
    (accepts : ∀ reached attempt, Reaches server ws attempts reached attempt →
      ¬ Rejects reached ws attempt) :
    Backed (handleChatSubscribe now server ws refId attempts) := by
  have after := backed_subscribeMember backed accepts
  unfold handleChatSubscribe
  generalize subscribeMember ws attempts [] server = result at after ⊢
  rcases result with ⟨⟨code, message⟩ | subscribed, left⟩
  · exact Backed.send after _
  · exact Backed.send after _

/-- A loop that ends without an error lists rooms of the connection. -/
theorem backed_of_listed (backed : Backed server) {attempts : List Attempt}
    {subscribed listed : List String} {after : Server}
    (holds : ∀ roomId ∈ subscribed, roomId ∈ server.rooms ws)
    (loop : subscribeMember ws attempts subscribed server =
      (.ok listed, after)) :
    Backed after ∧ ∀ roomId ∈ listed, roomId ∈ after.rooms ws := by
  induction attempts generalizing subscribed server with
  | nil =>
      cases loop
      exact ⟨backed, holds⟩
  | cons attempt rest induction =>
      rw [subscribeMember] at loop
      have ends := turns server ws attempt
      generalize turn ws server attempt = result at ends loop
      cases ends with
      | passes => exact induction backed holds loop
      | lists =>
          refine induction (backed_joinRoom backed ws attempt.roomId) ?_ loop
          intro roomId member
          have joined : roomId ∈ (joinRoom ws server attempt.roomId).rooms ws ↔
              roomId ∈ server.rooms ws ∨
                (ws = ws ∧ roomId ∈ [attempt.roomId]) :=
            mem_rooms_joinRooms ws roomId [attempt.roomId]
          apply joined.mpr
          rcases List.mem_append.mp member with old | new
          · exact .inl (holds roomId old)
          · exact .inr ⟨rfl, new⟩
      | throws code message => cases loop
      | rejected rejects => cases loop

end Looping

/-! ## One step -/

section Steps

variable {server : Server}

/-- In a backed server every subscriber of a room is fed. -/
theorem Backed.fed (backed : Backed server) {ws : Connection}
    {roomId : String} (subscribed : ws ∈ server.subscribers roomId) :
    Fed server roomId := by
  have counted : (server.room roomId).counter ≠ none :=
    (backed.held roomId).counted ws subscribed
  have feeds := backed.wired.roomFeeds roomId
  have receivers := RedisMessageBus.receivers_of_feeds feeds
  cases found : server.roomBusUnsub.get roomId with
  | none => exact absurd (by rw [Server.room, found]; rfl) counted
  | some entry =>
      rw [found] at receivers
      refine ⟨entry.unsub.handler, ?_, backed.wired.roomBodies roomId entry
        found⟩
      rw [receivers]
      exact .head _

/-- A backed server acknowledges truthfully. -/
theorem Backed.acksTruthfully (backed : Backed server) :
    AcksTruthfully server := by
  intro ws refId attempts now subscribed after acknowledged roomId member
  have loop := acknowledged_iff.mp acknowledged
  cases ended : subscribeMember ws attempts [] server with
  | mk outcome left =>
      rw [ended] at loop
      cases loop
      rcases backed_of_listed backed (by simp) ended with ⟨backedAfter, listed⟩
      have sends : after = left.send
          [reply ws (buildAck refId (.subscribed subscribed) now)] := by
        unfold after handleChatSubscribe
        rw [ended]
      rw [sends]
      have subscribes : ws ∈ left.subscribers roomId :=
        (backedAfter.wired.mirrored ws roomId).mpr (listed roomId member)
      exact ⟨subscribes, (backedAfter.send _).fed subscribes⟩

/-- A subscriber whose room is not fed is acknowledged all the same. -/
theorem not_acksTruthfully {ws : Connection} {roomId : String}
    (listed : roomId ∈ server.rooms ws) (unfed : ¬ Fed server roomId) :
    ¬ AcksTruthfully server := by
  intro truthful
  let row : RoomMember :=
    { roomId, userId := ws.userId, role := .member, joinedAt := 0,
      lastReadMessageId := none, mutedUntil := none }
  let retry : Attempt := { roomId, member := .ok (some row), accepted := true }
  have turned : turn ws server retry = (.lists, server) := if_pos listed
  have loop :
      subscribeMember ws [retry] [] server = (.ok [roomId], server) := by
    unfold subscribeMember
    rw [turned]
    rfl
  have acknowledged := (truthful ws none [retry] 0 [roomId]
    (acknowledged_iff.mpr (congrArg Prod.fst loop)) roomId (.head _)).2
  unfold handleChatSubscribe at acknowledged
  rw [loop] at acknowledged
  exact unfed acknowledged

/-- Without an entry a room of a wired server is not fed. -/
theorem not_fed_of_noEntry (wired : server.Wired) {roomId : String}
    (noEntry : server.roomBusUnsub.get roomId = none) :
    ¬ Fed server roomId := by
  have feeds := wired.roomFeeds roomId
  rw [noEntry] at feeds
  rintro ⟨handler, received, -⟩
  rw [RedisMessageBus.receivers_of_feeds feeds] at received
  cases received

/-- After a rejection the room is listed and not fed. -/
theorem not_acksTruthfully_of_rejects {now : Time} {ws : Connection}
    {refId : Option String} {attempts : List Attempt} (backed : Backed server)
    {reached : Server} {attempt : Attempt}
    (reaches : Reaches server ws attempts reached attempt)
    (rejects : Rejects reached ws attempt) :
    ¬ AcksTruthfully (handleChatSubscribe now server ws refId attempts) := by
  rcases reaches with ⟨before, rest, subscribed, rfl, loop⟩
  have wired := (backed_of_listed backed (by simp) loop).1.wired
  have ended : subscribeMember ws (before ++ attempt :: rest) [] server =
      (.error ("INTERNAL_ERROR", "Internal server error"),
        halfJoined reached ws attempt.roomId) := by
    rw [subscribeMember_append, loop]
    dsimp only
    rw [subscribeMember, turn_rejected rejects]
  have sends : handleChatSubscribe now server ws refId
      (before ++ attempt :: rest) =
        (halfJoined reached ws attempt.roomId).send [reply ws
          (buildError refId "INTERNAL_ERROR" "Internal server error" now)] := by
    unfold handleChatSubscribe
    rw [ended]
  rw [sends]
  refine not_acksTruthfully (trace_listed reached ws attempt.roomId) ?_
  rintro ⟨handler, received, -⟩
  rcases List.mem_flatMap.mp received with ⟨listener, listening, -⟩
  have feeds := wired.roomFeeds attempt.roomId
  rw [rejects.2.2.1] at feeds
  have silent := RedisMessageBus.filter_listeners feeds.2
  exact absurd (silent.symm ▸ listening : listener ∈ []) List.not_mem_nil

/-- What counting a room down leaves of it. -/
theorem held_release_iff {ws : Connection} {roomId : String}
    (backed : Backed server) {times : Nat} (counts : times ≠ 0) :
    ((Shared.release ws)^[times] (server.room roomId)).Held ↔
      SparesRoom server ws roomId times := by
  rw [Shared.held_release_iterate_iff (backed.held roomId),
    or_iff_right counts]
  unfold SparesRoom Server.room
  cases server.roomBusUnsub.get roomId with
  | none => simp
  | some entry => simp

/-- A step that loses an entry leaves a subscriber without a feed. -/
theorem not_acksTruthfully_of_not_held (wired : server.Wired)
    (positive : ∀ roomId, ∀ count ∈ (server.room roomId).counter, 0 < count)
    (lost : ¬ ∀ roomId, (server.room roomId).Held) :
    ¬ AcksTruthfully server := by
  push Not at lost
  rcases lost with ⟨roomId, unheld⟩
  have unfed : ∃ holder ∈ server.subscribers roomId,
      server.roomBusUnsub.get roomId = none := by
    by_contra fed
    push Not at fed
    apply unheld
    refine ⟨fun holder holds => ?_, positive roomId⟩
    unfold Server.room
    rw [Ne, Option.map_eq_none_iff]
    exact fed holder holds
  rcases unfed with ⟨holder, holds, noEntry⟩
  exact not_acksTruthfully ((wired.mirrored holder roomId).mp holds)
    (not_fed_of_noEntry wired noEntry)

theorem step_hears (wired : server.Wired) (channel : Channel)
    (event : BusEvent) (now : Time) :
    step server (.hears channel event, now) =
      server.send (server.pushes now (channel, event)) :=
  Server.deliver_eq wired (channel, event)

theorem wired_step (wired : server.Wired) (label : Happening × Time)
    (requests : ∀ ws refId attempts, label.1 ≠ .subscribes ws refId attempts) :
    (step server label).Wired := by
  rcases label with ⟨happening, now⟩
  cases happening with
  | opens ws => exact wired.register ws
  | subscribes ws refId attempts => exact absurd rfl (requests _ _ _)
  | unsubscribes ws refId roomIds =>
      exact (wired.unsubscribeRooms ws roomIds).send _
  | closes ws => exact wired.unregister ws
  | hears channel event =>
      rw [step_hears wired]
      exact wired.send _

/-- Counted down by a list of room ids, the rooms are held if it spares them. -/
theorem held_unsubscribeRooms_iff (backed : Backed server) (ws : Connection)
    (roomIds : List String) :
    (∀ roomId, ((server.unsubscribeRooms ws roomIds).room roomId).Held) ↔
      ∀ roomId ∈ roomIds,
        SparesRoom server ws roomId (roomIds.count roomId) := by
  refine forall_congr' fun roomId => ?_
  rw [Server.room_unsubscribeRooms]
  by_cases named : roomId ∈ roomIds
  · have counts : roomIds.count roomId ≠ 0 := by
      rw [Ne, List.count_eq_zero]
      exact not_not.mpr named
    rw [held_release_iff backed counts]
    exact ⟨fun spares _ => spares, fun spares => spares named⟩
  · rw [List.count_eq_zero.mpr named]
    exact iff_of_true (backed.held roomId) fun listed => absurd listed named

theorem held_unregister_iff (backed : Backed server) (ws : Connection) :
    (∀ roomId, ((server.unregister ws).room roomId).Held) ↔
      ∀ roomId ∈ server.rooms ws, SparesRoom server ws roomId 1 := by
  refine forall_congr' fun roomId => ?_
  rw [Server.room_unregister]
  by_cases listed : roomId ∈ server.rooms ws
  · rw [if_pos listed]
    have iterated : ((server.room roomId).release ws).Held ↔
        SparesRoom server ws roomId 1 :=
      held_release_iff backed Nat.one_ne_zero
    rw [iterated]
    exact ⟨fun spares _ => spares, fun spares => spares listed⟩
  · rw [if_neg listed]
    exact iff_of_true (backed.held roomId) fun held => absurd held listed

/-- A step without rejections keeps the rooms held exactly if it spares them. -/
theorem held_step_iff (backed : Backed server) (label : Happening × Time)
    (requests : ∀ ws refId attempts, label.1 ≠ .subscribes ws refId attempts) :
    (∀ roomId, ((step server label).room roomId).Held) ↔
      Spares server label := by
  rcases label with ⟨happening, now⟩
  cases happening with
  | opens ws =>
      refine iff_of_true (fun roomId => ?_) trivial
      exact (Server.room_register server ws roomId) ▸ backed.held roomId
  | subscribes ws refId attempts => exact absurd rfl (requests _ _ _)
  | unsubscribes ws refId roomIds =>
      exact held_unsubscribeRooms_iff backed ws roomIds
  | closes ws => exact held_unregister_iff backed ws
  | hears channel event =>
      rw [step_hears backed.wired]
      exact iff_of_true backed.held trivial

/-- The counters of the rooms stay positive. -/
theorem positive_step (backed : Backed server) (label : Happening × Time)
    (requests : ∀ ws refId attempts, label.1 ≠ .subscribes ws refId attempts)
    (roomId : String) :
    ∀ count ∈ ((step server label).room roomId).counter, 0 < count := by
  have positive := (backed.held roomId).positive
  rcases label with ⟨happening, now⟩
  cases happening with
  | opens ws => exact (Server.room_register server ws roomId) ▸ positive
  | subscribes ws refId attempts => exact absurd rfl (requests _ _ _)
  | unsubscribes ws refId roomIds =>
      have released := Shared.positive_release_iterate positive ws
        (roomIds.count roomId)
      rw [← Server.room_unsubscribeRooms] at released
      exact released
  | closes ws =>
      have room := Server.room_unregister server ws roomId
      unfold step
      dsimp only
      rw [room]
      split_ifs
      · exact Shared.positive_release_iterate positive ws 1
      · exact positive
  | hears channel event =>
      rw [step_hears backed.wired]
      exact positive

end Steps

/-! ## Failed subscriptions -/

/--
Failing subscriptions leave no trace and every ack is truthful, exactly in the
runs in which Redis rejects no command and no room of somebody else's is
counted down to zero.
-/
theorem failed_subscriptions_iff (labels : List (Happening × Time)) :
    (Along step FailsCleanly .start labels ∧
        Throughout step AcksTruthfully .start labels) ↔
      Along step (fun server label =>
        NoneRejected server label ∧ Spares server label) .start labels := by
  have kept (server : Server) (label : Happening × Time)
      (backed : Backed server) (_ : True)
      (meets : NoneRejected server label ∧ Spares server label) :
      Backed (step server label) := by
    rcases label with ⟨happening, now⟩
    by_cases requests : ∃ ws refId attempts,
        happening = .subscribes ws refId attempts
    · rcases requests with ⟨ws, refId, attempts, rfl⟩
      exact backed_handleChatSubscribe backed meets.1
    · push Not at requests
      exact ⟨wired_step backed.wired _ requests,
        (held_step_iff backed _ requests).mpr meets.2⟩
  have lost (server : Server) (label : Happening × Time)
      (backed : Backed server) (_ : True)
      (fails : ¬ (NoneRejected server label ∧ Spares server label)) :
      ¬ AcksTruthfully (step server label) := by
    rcases label with ⟨happening, now⟩
    by_cases requests : ∃ ws refId attempts,
        happening = .subscribes ws refId attempts
    · rcases requests with ⟨ws, refId, attempts, rfl⟩
      have rejected : ¬ NoneRejected server
          (.subscribes ws refId attempts, now) :=
        fun accepts => fails ⟨accepts, trivial⟩
      unfold NoneRejected at rejected
      push Not at rejected
      rcases rejected with ⟨reached, attempt, reaches, rejects⟩
      exact not_acksTruthfully_of_rejects backed reaches rejects
    · push Not at requests
      apply not_acksTruthfully_of_not_held (wired_step backed.wired _ requests)
        (positive_step backed _ requests)
      rw [held_step_iff backed _ requests]
      refine fun spares => fails ⟨?_, spares⟩
      cases happening with
      | subscribes ws refId attempts => exact absurd rfl (requests _ _ _)
      | opens ws => trivial
      | unsubscribes ws refId roomIds => trivial
      | closes ws => trivial
      | hears channel event => trivial
  have truthful : Throughout step AcksTruthfully .start labels ↔ _ :=
    throughout_iff_along_of_shape (fun _ => Backed.acksTruthfully) kept lost
      backed_start (along_of_forall (fun _ _ => trivial) _ labels)
  rw [truthful, and_iff_right_iff_imp]
  exact Along.mono fun server label meets =>
    (failsCleanly_iff label).mpr meets.1

/-! ## A run with a rejection -/

def sampleConnection : Connection where
  connId := "018f0000-0000-7000-8000-00000000d001"
  userId := "018f0000-0000-7000-8000-00000000b001"

/-- An attempt of a member. -/
def sampleAttempt (accepted : Bool) : Attempt where
  roomId := "team"
  member := .ok (some
    { roomId := "team", userId := sampleConnection.userId, role := .member,
      joinedAt := 1, lastReadMessageId := none, mutedUntil := none })
  accepted

/-- A first subscription that Redis rejects. -/
def rejectedOnce : List (Happening × Time) :=
  [(.opens sampleConnection, 1),
    (.subscribes sampleConnection (some "a") [sampleAttempt false], 2)]

/-- The retry is acknowledged, and nothing feeds the room. -/
theorem failed_subscription_leaves_traces :
    ¬ Along step FailsCleanly .start rejectedOnce ∧
      ¬ Throughout step AcksTruthfully .start rejectedOnce := by
  constructor
  · rintro ⟨-, cleanly, -⟩
    have rejects : Rejects (step .start (.opens sampleConnection, 1))
        sampleConnection (sampleAttempt false) :=
      ⟨⟨_, rfl⟩, by decide, by decide, by decide, rfl⟩
    exact not_untouched_of_rejects rejects
      (cleanly _ _ ⟨[], [], [], rfl, rfl⟩ rejects)
  · intro throughout
    have acknowledged : reply sampleConnection
        (buildAck (some "b") (.subscribed ["team"]) 3) ∈
          (handleChatSubscribe 3 (run step .start rejectedOnce)
            sampleConnection (some "b") [sampleAttempt true]).sent.drop
              (run step .start rejectedOnce).sent.length := by
      decide +kernel
    have fed := (throughout.final _ _ _ _ _ acknowledged "team" (.head _)).2
    have receivers : (handleChatSubscribe 3 (run step .start rejectedOnce)
        sampleConnection (some "b") [sampleAttempt true]).bus.receivers
          (.room "team") = [] := by
      decide +kernel
    rcases fed with ⟨handler, received, -⟩
    rw [receivers] at received
    cases received

end ChatBackend.Ws.FailedSubscriptions
