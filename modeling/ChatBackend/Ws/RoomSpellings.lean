import ChatBackend.Chat.DirectRoomPairs
import ChatBackend.Ws.PushAudience
import ChatBackend.Ws.Subscriptions

/-!
# The spellings of a room

Membership is decided by the database, which reads an id in several spellings.
The registry and the channels go by the text instead: a subscription and the
channel of `chat.send` and `chat.typing` carry the id as the client spelled it,
the channel of `EditMessage` and `DeleteMessage` as the message is stored.  An
event reaches the connections that have subscribed in the spelling in which it
is published, and no other subscriber of the room.
-/

namespace ChatBackend.Ws.RoomSpellings

open Collections
open Transition
open ChatBackend.Chat.Store
open ChatBackend.Chat.Schema
open ChatBackend.Chat.RoomUseCases
open ChatBackend.Chat.MessageUseCases
open ChatBackend.Chat.Requests
open ChatBackend.Chat.DirectRoomPairs (UuidText hexUuid)
open ChatBackend.Ws.Registry
open ChatBackend.Ws.Gateway
open ChatBackend.Ws.Subscriptions

/-! ## Specification -/

/-- A message of the room has this id. -/
def HasMessage (uuid : PgUuid) (chat : ChatState) (room messageId : String) :
    Prop :=
  ∃ msg ∈ chat.messages,
    uuid.read messageId = some msg.id ∧ msg.roomId = room

/-- The request names the room, by a spelling of its id or by a message. -/
def NamesRoom (uuid : PgUuid) (chat : ChatState) (room : String) :
    ChatRequest → Prop
  | .sendMessage _ input => uuid.read input.roomId = some room
  | .typing _ roomId => uuid.read roomId = some room
  | .editMessage _ _ messageId _ => HasMessage uuid chat room messageId
  | .deleteMessage _ messageId => HasMessage uuid chat room messageId
  | _ => False

/-- How the request spells the room, or how its message is stored. -/
def spelling (room : String) : ChatRequest → String
  | .sendMessage _ input => input.roomId
  | .typing _ roomId => roomId
  | _ => room

/-- The step answers a request to subscribe, and lists the room. -/
def Acknowledged (uuid : PgUuid) (world : World) (ws : Connection)
    (roomId : String) (label : Happening × Time) : Prop :=
  ∃ refId roomIds subscribed,
    label.1 = .subscribes ws refId roomIds ∧ roomId ∈ subscribed ∧
      reply ws (buildAck refId (.subscribed subscribed) label.2) ∈
        sentBy uuid world label

/-- The connection has been acknowledged and has not given the room up. -/
def Subscribed (uuid : PgUuid) (start : World)
    (labels : List (Happening × Time)) (ws : Connection) (roomId : String) :
    Prop :=
  ∃ before label between, labels = before ++ label :: between ∧
    Acknowledged uuid (run (step uuid) start before) ws roomId label ∧
      ∀ later ∈ between, ¬ GivesUp ws roomId later.1

/-- The bus feeds the room, if somebody is subscribed to it. -/
def BusWorks (server : Server) (roomId : String) : Prop :=
  ∀ ws ∈ server.subscribers roomId, (server.roomBusUnsub.get roomId).isSome

/--
After the run the request causes an event of a room, the bus feeds the room in
the spelling of the request, and the connection has subscribed to the room in
some spelling.
-/
structure Awaits (uuid : PgUuid) (start : World)
    (labels : List (Happening × Time)) (ws : Connection) (room : String)
    (request : ChatRequest) (now : Time) (event : BusEvent) : Prop where
  subscribed : ∃ roomId, uuid.read roomId = some room ∧
    Subscribed uuid start labels ws roomId
  works : BusWorks (run (step uuid) start labels).server
    (spelling room request)
  names : NamesRoom uuid (run (step uuid) start labels).chat room request
  caused : ∃ channel, (channel, event) ∈
    arrivals uuid now (run (step uuid) start labels) (.serves request)

/-- The event is pushed to the connection. -/
def Delivered (uuid : PgUuid) (world : World) (label : Happening × Time)
    (ws : Connection) (event : BusEvent) : Prop :=
  ∃ frame ∈ sentBy uuid world label, frame.ws = ws ∧
    frame.envelope = Server.eventEnvelope label.2 event

instance (uuid : PgUuid) (world : World) (label : Happening × Time)
    (ws : Connection) (event : BusEvent) :
    Decidable (Delivered uuid world label ws event) := by
  unfold Delivered
  infer_instance

/-- Publishers and subscribers of a room meet, however they spell its id. -/
def OneChannel (uuid : PgUuid) (start : World)
    (labels : List (Happening × Time)) : Prop :=
  ∀ before request now after,
    labels = before ++ (.serves request, now) :: after →
      ∀ ws room event,
        Awaits uuid start before ws room request now event →
          Delivered uuid (run (step uuid) start before)
            (.serves request, now) ws event

/--
Whenever a request causes an event of a room, the connections that have
subscribed to the room list it in the spelling of the request.
-/
def SpelledAlike (uuid : PgUuid) (start : World)
    (labels : List (Happening × Time)) : Prop :=
  ∀ before request now after,
    labels = before ++ (.serves request, now) :: after →
      ∀ ws room event,
        Awaits uuid start before ws room request now event →
          spelling room request ∈
            (run (step uuid) start before).server.rooms ws

/-! ## On which channel a request publishes -/

section Channels

variable {uuid : PgUuid} {now : Time} {world : World} {room : String}
  {request : ChatRequest}

/-- What a publication adds to the published events. -/
theorem drop_published {state tables : ChatState} {channel : Channel}
    {event : BusEvent} (same : tables.published = state.published) :
    (published tables channel event).published.drop state.published.length =
      [(channel, event)] := by
  unfold published
  dsimp only
  rw [same, List.drop_left]

/-- A message lies in the one room to which it belongs. -/
theorem HasMessage.room_eq (conforms : Conforms uuid world.chat)
    {messageId : String} (has : HasMessage uuid world.chat room messageId)
    {msg : Message} (stored : msg ∈ world.chat.messages)
    (reads : uuid.read messageId = some msg.id) : msg.roomId = room := by
  rcases has with ⟨other, otherStored, otherReads, inRoom⟩
  have sameId : msg.id = other.id :=
    Option.some.inj (reads.symm.trans otherReads)
  rw [conforms.messageIds.eq_of_key stored otherStored sameId]
  exact inRoom

/-- A request causes one event at most, under the spelling it uses. -/
theorem arrivals_of_names (conforms : Conforms uuid world.chat)
    (names : NamesRoom uuid world.chat room request) :
    arrivals uuid now world (.serves request) = [] ∨
      ∃ event, arrivals uuid now world (.serves request) =
        [(.room (spelling room request), event)] := by
  have leaves := serve_leaves conforms (request, now)
  unfold arrivals
  dsimp only at leaves ⊢
  generalize serve uuid world.chat (request, now) = after at leaves ⊢
  cases request with
  | sendMessage draws input =>
      rcases leaves with ⟨_, ends⟩
      cases ends with
      | throws error => exact .inl List.drop_length
      | repeats member row stored membership attached reads known =>
          exact .inr ⟨_, drop_published rfl⟩
      | stores member row membership attached reads unknown fits =>
          exact .inr ⟨_, drop_published rfl⟩
  | typing userId roomId =>
      rcases leaves with ⟨_, ends⟩
      cases ends with
      | throws error => exact .inl List.drop_length
      | ignores => exact .inl List.drop_length
      | announces member membership => exact .inr ⟨_, drop_published rfl⟩
  | editMessage clock requesterId messageId body =>
      rcases leaves with ⟨_, ends⟩
      cases ends with
      | throws error => exact .inl List.drop_length
      | idle msg stored => exact .inl List.drop_length
      | edits msg reads stored alive own stores patch sets =>
          rw [HasMessage.room_eq conforms names stored reads]
          exact .inr ⟨_, drop_published rfl⟩
  | deleteMessage requesterId messageId =>
      rcases leaves with ⟨_, ends⟩
      cases ends with
      | throws error => exact .inl List.drop_length
      | deletes msg reads stored alive allowed =>
          rw [HasMessage.room_eq conforms names stored reads]
          exact .inr ⟨_, drop_published rfl⟩
  | _ => exact names.elim

theorem sentBy_serves (wired : world.server.Wired) :
    sentBy uuid world (.serves request, now) =
      (arrivals uuid now world (.serves request)).flatMap
        (world.server.pushes now) := by
  unfold sentBy step arrivals
  dsimp only
  rw [Server.deliver_foldl wired]
  unfold Server.send
  rw [List.drop_left]

/-- What is published in a spelling reaches those who list the spelling. -/
theorem delivered_iff (conforms : Conforms uuid world.chat)
    (wired : world.server.Wired)
    (works : BusWorks world.server (spelling room request))
    (names : NamesRoom uuid world.chat room request) {channel : Channel}
    {event : BusEvent}
    (caused : (channel, event) ∈ arrivals uuid now world (.serves request))
    (ws : Connection) :
    Delivered uuid world (.serves request, now) ws event ↔
      spelling room request ∈ world.server.rooms ws := by
  have one : arrivals uuid now world (.serves request) =
      [(.room (spelling room request), event)] := by
    rcases arrivals_of_names conforms names with none_ | ⟨other, single⟩
    · rw [none_] at caused
      cases caused
    · rw [single] at caused
      cases List.mem_singleton.mp caused
      exact single
  unfold Delivered
  rw [sentBy_serves wired, one, List.flatMap_singleton, Server.pushes_room,
    ← wired.mirrored]
  constructor
  · rintro ⟨frame, pushed, rfl, -⟩
    split_ifs at pushed
    · rcases List.mem_map.mp pushed with ⟨holder, subscribed, rfl⟩
      exact subscribed
    · cases pushed
  · intro subscribed
    rw [if_pos (works ws subscribed)]
    refine ⟨Server.push now (spelling room request) event ws, ?_, rfl, rfl⟩
    exact List.mem_map_of_mem subscribed

end Channels

/-! ## Subscriptions -/

section Subscriptions

variable {uuid : PgUuid}

/-- The rooms of an acknowledgement are named and listed. -/
theorem subscribeMember_lists {chat : ChatState} {ws : Connection}
    {roomIds earlier subscribed : List String} {server after : Server}
    (answers : subscribeMember uuid chat ws roomIds earlier server =
      (.ok subscribed, after)) :
    ∀ roomId ∈ subscribed, roomId ∈ earlier ∨
      (roomId ∈ roomIds ∧ roomId ∈ after.rooms ws) := by
  induction roomIds generalizing earlier server with
  | nil =>
      cases answers
      exact fun _ => .inl
  | cons head rest induction =>
      unfold subscribeMember at answers
      intro roomId listed
      cases found : getMember uuid chat head ws.userId with
      | error error =>
          rw [found] at answers
          cases answers
      | ok answer =>
          rw [found] at answers
          cases answer with
          | none =>
              rcases induction answers roomId listed with old | ⟨named, held⟩
              · exact .inl old
              · exact .inr ⟨.tail _ named, held⟩
          | some row =>
              rcases induction answers roomId listed with old | ⟨named, held⟩
              · rcases List.mem_append.mp old with before | joins
                · exact .inl before
                · cases List.mem_singleton.mp joins
                  obtain ⟨joined, equal, -⟩ := subscribeMember_joins uuid chat
                    (joinRoom ws server head) ws rest (earlier ++ [head])
                  dsimp only at answers
                  rw [answers] at equal
                  have now : head ∈ (joinRoom ws server head).rooms ws :=
                    (mem_rooms_joinRooms ws head [head]).mpr
                      (.inr ⟨rfl, .head _⟩)
                  right
                  refine ⟨.head _, ?_⟩
                  rw [show after = _ from equal, mem_rooms_joinRooms]
                  exact .inl now
              · exact .inr ⟨.tail _ named, held⟩

/-- An acknowledged room is one that the request names and that is listed. -/
theorem Acknowledged.lists {world : World} {ws : Connection} {roomId : String}
    {label : Happening × Time}
    (acknowledged : Acknowledged uuid world ws roomId label) :
    (∃ refId roomIds, label.1 = .subscribes ws refId roomIds ∧
        roomId ∈ roomIds) ∧
      roomId ∈ (step uuid world label).server.rooms ws := by
  rcases label with ⟨happening, now⟩
  rcases acknowledged with ⟨refId, roomIds, subscribed, rfl, listed, sent⟩
  obtain ⟨joined, equal, -⟩ :=
    subscribeMember_joins uuid world.chat world.server ws roomIds []
  unfold sentBy at sent
  unfold step handleChatSubscribe at sent ⊢
  dsimp only at sent ⊢
  cases answers : subscribeMember uuid world.chat ws roomIds [] world.server
    with
  | mk outcome after =>
      rw [answers] at sent equal
      have kept : after.sent = world.server.sent := by
        rw [show after = _ from equal, sent_joinRooms]
      cases outcome with
      | error error =>
          unfold Server.send at sent
          dsimp only at sent
          rw [kept, List.drop_left] at sent
          have payloads := congrArg (fun frame => frame.envelope.payload)
            (List.mem_singleton.mp sent)
          cases payloads
      | ok ids =>
          unfold Server.send at sent
          dsimp only at sent
          rw [kept, List.drop_left] at sent
          cases List.mem_singleton.mp sent
          rcases subscribeMember_lists answers roomId listed with
            none_ | ⟨named, held⟩
          · cases none_
          · exact ⟨⟨refId, roomIds, rfl, named⟩, held⟩

/-- A connection lists the room in the spelling in which it has subscribed. -/
theorem Subscribed.lists {start : World} (wired : start.server.Wired)
    {labels : List (Happening × Time)} {ws : Connection} {roomId : String}
    (subscribed : Subscribed uuid start labels ws roomId) :
    roomId ∈ (run (step uuid) start labels).server.rooms ws := by
  rcases subscribed with ⟨before, label, between, rfl, acknowledged, keeps⟩
  rw [run_append, run_cons]
  have wiredThen := wired_run uuid wired before
  exact lists_run uuid ((step_ends wiredThen label.1 label.2).wired wiredThen)
    acknowledged.lists.2 keeps

/-- The bus works while connections unsubscribe from rooms they hold. -/
theorem busWorks_of_harmless {chat : ChatState}
    {labels : List (Happening × Time)}
    (harmless : Along (step uuid) Harmless (World.start chat) labels)
    (roomId : String) :
    BusWorks (run (step uuid) (World.start chat) labels).server roomId := by
  have inStep := ((throughout_inStep_iff uuid chat labels).mpr harmless).final
  intro ws subscribed
  apply (inStep.present roomId).mpr
  exact List.length_pos_of_mem subscribed

end Subscriptions

/-! ## Runs -/

/-- The room ids of the happening are spelled as the database does. -/
def Canonical (uuid : PgUuid) : Happening → Prop
  | .subscribes _ _ roomIds =>
      ∀ roomId ∈ roomIds, uuid.read roomId = some roomId
  | .serves (.sendMessage _ input) =>
      uuid.read input.roomId = some input.roomId
  | .serves (.typing _ roomId) => uuid.read roomId = some roomId
  | _ => True

/-- Clients that spell ids as the database does spell them alike. -/
theorem spelledAlike_of_canonical {uuid : PgUuid} {chat : ChatState}
    {labels : List (Happening × Time)}
    (canonical : ∀ label ∈ labels, Canonical uuid label.1) :
    SpelledAlike uuid (World.start chat) labels := by
  rintro before request now after rfl ws room event awaits
  rcases awaits.subscribed with ⟨roomId, reads, subscribed⟩
  have listed := subscribed.lists Server.Wired.start
  rcases subscribed with ⟨earlier, label, between, rfl, acknowledged, -⟩
  rcases acknowledged.lists.1 with ⟨refId, roomIds, subscribes, named⟩
  have same : roomId = room := by
    have spelled := canonical label (by simp)
    rw [subscribes] at spelled
    exact Option.some.inj ((spelled roomId named).symm.trans reads)
  have spelled : spelling room request = room := by
    have spelled := canonical (.serves request, now) (by simp)
    have names := awaits.names
    cases request with
    | sendMessage draws input =>
        exact Option.some.inj (spelled.symm.trans names)
    | typing userId roomId => exact Option.some.inj (spelled.symm.trans names)
    | _ => rfl
  rw [spelled, ← same]
  exact listed

/--
While the bus works, the events that requests cause of a room reach every
connection that has subscribed to it exactly in the runs in which these
connections list the room in the spelling of the request, or in that of the
database where the request names a message.
-/
theorem one_channel_iff {uuid : PgUuid} {chat : ChatState}
    (conforms : Conforms uuid chat) (labels : List (Happening × Time)) :
    OneChannel uuid (World.start chat) labels ↔
      SpelledAlike uuid (World.start chat) labels := by
  have exactly (before : List (Happening × Time)) (ws : Connection)
      (room : String) (request : ChatRequest) (now : Time) (event : BusEvent)
      (awaits :
        Awaits uuid (World.start chat) before ws room request now event) :
      Delivered uuid (run (step uuid) (World.start chat) before)
          (.serves request, now) ws event ↔
        spelling room request ∈
          (run (step uuid) (World.start chat) before).server.rooms ws := by
    have conformsThen : Conforms uuid
        (run (step uuid) (World.start chat) before).chat := by
      have kept (world : World) (label : Happening × Time)
          (holds : Conforms uuid world.chat) :
          Conforms uuid (step uuid world label).chat :=
        PushAudience.conforms_step holds label
      exact run_invariant kept conforms before
    rcases awaits.caused with ⟨channel, caused⟩
    exact delivered_iff conformsThen (wired_run uuid Server.Wired.start before)
      awaits.works awaits.names caused ws
  constructor
  · intro meets before request now after split ws room event awaits
    exact (exactly before ws room request now event awaits).mp
      (meets before request now after split ws room event awaits)
  · intro alike before request now after split ws room event awaits
    exact (exactly before ws room request now event awaits).mpr
      (alike before request now after split ws room event awaits)

/-- The id of the room, in upper case. -/
def sampleRoomUpper : String := "018F0000-0000-7000-8000-00000000A001"

/-- A database that reads the id of the room in both spellings. -/
def twoSpellings : PgUuid where
  read spelled :=
    if spelled = sampleRoomUpper then some sampleRoomId
    else samplePgUuid.read spelled
  canonical := by
    intro spelled id reading
    split_ifs at reading
    · cases reading
      decide
    · have same := samplePgUuid.canonical spelled id reading
      rw [if_neg]
      · exact same
      · rintro rfl
        exact absurd same (by decide)

/-- A member subscribes to a group, in which its owner sends and types. -/
def spelledOnce : List (Happening × Time) :=
  [(.serves (.createGroupRoom { id := sampleRoomId, now := 1 } sampleOwner
      "team" [sampleMember]), 1),
    (.opens memberConnection, 2),
    (.subscribes memberConnection (some "a") [sampleRoomId], 3),
    (.serves (.sendMessage { id := sampleMessageId, now := 4 }
      { roomId := sampleRoomId, senderId := sampleOwner, body := "hello" }), 4),
    (.serves (.typing sampleOwner sampleRoomId), 5)]

/-- The tables hold the two members of the group. -/
def sampleStart : World :=
  .start (sampleTables [sampleOwner, sampleMember])

theorem one_channel_iff_spelledOnce :
    OneChannel twoSpellings sampleStart spelledOnce := by
  have conforms :=
    (sound_sampleTables twoSpellings [sampleOwner, sampleMember]).toConforms
  refine (one_channel_iff conforms spelledOnce).mpr ?_
  apply spelledAlike_of_canonical
  simp only [spelledOnce, List.forall_mem_cons]
  have reads : twoSpellings.read sampleRoomId = some sampleRoomId := by
    decide
  simp [Canonical, reads]

/-! ## Missed events -/

/-- The owner of a group greets a member. -/
def greeting : SendMessage.Input where
  roomId := sampleRoomId
  senderId := sampleOwner
  body := "hello"

/-- The group, its first message and a member who connects. -/
def gathered : List (Happening × Time) :=
  [(.serves (.createGroupRoom { id := sampleRoomId, now := 1 } sampleOwner
      "team" [sampleMember]), 1),
    (.serves (.sendMessage { id := sampleMessageId, now := 2 } greeting), 2),
    (.opens memberConnection, 3)]

/-- The member subscribes to the group, in some spelling. -/
def subscribing (roomId : String) : Happening × Time :=
  (.subscribes memberConnection (some "a") [roomId], 4)

/-- The run up to the answer. -/
def subscribedAs (roomId : String) : List (Happening × Time) :=
  gathered ++ [subscribing roomId]

/-- The owner types, spelling the room in upper case. -/
def types : ChatRequest :=
  .typing sampleOwner sampleRoomUpper

/-- The owner edits the greeting. -/
def edits : ChatRequest :=
  .editMessage 5 sampleOwner sampleMessageId "goodbye"

/-- The edited greeting. -/
def edited : BusEvent :=
  .messageEdited
    { (SendMessage.newMessage { id := sampleMessageId, now := 2 }
        greeting).toMessageDto with body := "goodbye", editedAt := some 5 }

theorem awaits_subscribedAs {roomId : String} {request : ChatRequest}
    {event : BusEvent} (reads : twoSpellings.read roomId = some sampleRoomId)
    (answered :
      reply memberConnection (buildAck (some "a") (.subscribed [roomId]) 4) ∈
        sentBy twoSpellings (run (step twoSpellings) sampleStart gathered)
          (subscribing roomId))
    (names : NamesRoom twoSpellings
      (run (step twoSpellings) sampleStart (subscribedAs roomId)).chat
      sampleRoomId request)
    (caused : ∃ channel, (channel, event) ∈
      arrivals twoSpellings 5
        (run (step twoSpellings) sampleStart (subscribedAs roomId))
        (.serves request)) :
    Awaits twoSpellings sampleStart (subscribedAs roomId) memberConnection
      sampleRoomId request 5 event where
  subscribed := by
    refine ⟨roomId, reads, gathered, subscribing roomId, [], rfl, ?_, ?_⟩
    · exact ⟨some "a", [roomId], [roomId], rfl, .head _, answered⟩
    · exact List.forall_mem_nil _
  works := by
    have harmless : Along (step twoSpellings) Harmless sampleStart
        (subscribedAs roomId) :=
      ⟨trivial, trivial, trivial, trivial, trivial⟩
    exact busWorks_of_harmless harmless _
  names := names
  caused := caused

/--
Who has subscribed in lower case misses what is typed in upper case, and who
has subscribed in upper case misses the edits.
-/
theorem spellings_part :
    UuidText sampleRoomUpper.toList ∧ UuidText sampleRoomId.toList ∧
      hexUuid.read sampleRoomUpper = some sampleRoomId ∧
      ¬ OneChannel twoSpellings sampleStart
        (subscribedAs sampleRoomId ++ [(.serves types, 5)]) ∧
      ¬ OneChannel twoSpellings sampleStart
        (subscribedAs sampleRoomUpper ++ [(.serves edits, 5)]) := by
  have readUpper : twoSpellings.read sampleRoomUpper = some sampleRoomId := by
    decide
  have readLower : twoSpellings.read sampleRoomId = some sampleRoomId := by
    decide
  refine ⟨by decide +kernel, by decide +kernel, by decide +kernel, ?_, ?_⟩
  · intro meets
    have missed := meets (subscribedAs sampleRoomId) types 5 [] rfl
      memberConnection sampleRoomId (.userTyping sampleRoomUpper sampleOwner)
      (awaits_subscribedAs readLower (by decide +kernel) readUpper
        ⟨.room sampleRoomUpper, by decide +kernel⟩)
    exact absurd missed (by decide +kernel)
  · intro meets
    have hasMessage : NamesRoom twoSpellings
        (run (step twoSpellings) sampleStart
          (subscribedAs sampleRoomUpper)).chat sampleRoomId edits := by
      unfold NamesRoom edits HasMessage
      decide +kernel
    have missed := meets (subscribedAs sampleRoomUpper) edits 5 [] rfl
      memberConnection sampleRoomId edited
      (awaits_subscribedAs readUpper (by decide +kernel) hasMessage
        ⟨.room sampleRoomId, by decide +kernel⟩)
    exact absurd missed (by decide +kernel)

end ChatBackend.Ws.RoomSpellings
