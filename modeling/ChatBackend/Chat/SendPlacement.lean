import ChatBackend.Chat.Requests

/-!
# Where a sent message lands

`SendMessage` checks the membership in, bumps and publishes on the room of the
request.  The insertion recognises a client message id that the sender has used
before in any room, and then answers with the stored message.  So a call lands
in its room exactly when it does not reuse a client message id of another room;
and the events on the channels of rooms are in order along a run exactly when
no request of the run does.
-/

namespace ChatBackend.Chat.SendPlacement

open Effects
open Relational
open Transition
open Effects.Program
open ChatBackend.Chat.Store
open ChatBackend.Chat.Schema
open ChatBackend.Chat.RoomUseCases
open ChatBackend.Chat.MessageUseCases
open ChatBackend.Chat.Requests

variable {uuid : PgUuid} {now : Time} {state after : ChatState}
  {draws : SendMessage.Draws} {input : SendMessage.Input}

/-! ## Pages -/

/-- A page that is long enough lists every message of its room. -/
theorem mem_page {messages : List Message} {row : Message} {limit : Nat}
    (stored : row ∈ messages) (enough : messages.length ≤ limit) :
    row ∈ PgMessageRepository.page messages row.roomId none limit := by
  unfold PgMessageRepository.page
  rw [List.take_of_length_le]
  · rw [List.mem_mergeSort, List.mem_filter]
    exact ⟨stored, by simp⟩
  · rw [List.length_mergeSort]
    exact Nat.le_trans (List.length_filter_le _ _) enough

/-! ## The properties -/

/-- The returned message is in the room the call named, and so is its event. -/
structure Lands (uuid : PgUuid) (state after : ChatState)
    (input : SendMessage.Input) (dto : MessageDto) : Prop where
  room : uuid.read input.roomId = some dto.roomId
  stored : ∃ row ∈ after.messages, row.toMessageDto = dto
  listed : ∀ now limit, after.messages.length ≤ limit → ∃ dtos,
    ((ListMessages.execute input.roomId input.senderId none limit).run
      (chatAdapter uuid) now after).1 = .ok dtos ∧ dto ∈ dtos
  event : after.published = state.published ++
    [(.room input.roomId,
      .messageCreated dto input.refId input.senderId)]

/-- If the call returns a message, the message lands in its room. -/
def SendLands (uuid : PgUuid) (now : Time) (state : ChatState)
    (draws : SendMessage.Draws) (input : SendMessage.Input) : Prop :=
  ∀ dto,
    ((SendMessage.execute draws input).run (chatAdapter uuid) now state).1 =
        .ok dto →
      Lands uuid state
        ((SendMessage.execute draws input).run (chatAdapter uuid) now state).2
        input dto

/--
The call passes its checks, has texts that can be stored, and carries a client
message id under which its sender has a stored message in another room.
-/
def ReusesElsewhere (uuid : PgUuid) (state : ChatState)
    (draws : SendMessage.Draws) (input : SendMessage.Input) : Prop :=
  (∃ member ∈ state.roomMembers,
      uuid.read input.roomId = some member.roomId ∧
        uuid.read input.senderId = some member.userId) ∧
    Attached state input.attachmentKey ∧ (uuid.read draws.id).isSome ∧
      Storable input.texts ∧
        ∃ stored ∈ state.messages,
          input.clientMessageId ≠ none ∧
            stored.clientMessageId = input.clientMessageId ∧
              uuid.read input.senderId = some stored.senderId ∧
                uuid.read input.roomId ≠ some stored.roomId

instance (uuid : PgUuid) (state : ChatState) (draws : SendMessage.Draws)
    (input : SendMessage.Input) :
    Decidable (ReusesElsewhere uuid state draws input) :=
  inferInstanceAs (Decidable (_ ∧ _ ∧ _ ∧ _ ∧ ∃ _ ∈ state.messages, _))

/-- An event on the channel of a room carries no message of another room. -/
def InRoom (uuid : PgUuid) : Channel × BusEvent → Prop
  | (.room roomId, .messageCreated message _ _) =>
      uuid.read roomId = some message.roomId
  | (.room roomId, .messageEdited message) =>
      uuid.read roomId = some message.roomId
  | _ => True

instance (uuid : PgUuid) : DecidablePred (InRoom uuid)
  | (.room roomId, .messageCreated message _ _) =>
      inferInstanceAs (Decidable (uuid.read roomId = some message.roomId))
  | (.room roomId, .messageEdited message) =>
      inferInstanceAs (Decidable (uuid.read roomId = some message.roomId))
  | (.room _, .messageDeleted _ _) => isTrue trivial
  | (.room _, .messageRead _ _ _) => isTrue trivial
  | (.room _, .userTyping _ _) => isTrue trivial
  | (.room _, .presenceOnline _ _) => isTrue trivial
  | (.room _, .presenceOffline _ _) => isTrue trivial
  | (.presenceGlobal, _) => isTrue trivial

/-- Everything published so far is in order. -/
def PublishedInRoom (uuid : PgUuid) (state : ChatState) : Prop :=
  ∀ entry ∈ state.published, InRoom uuid entry

instance (uuid : PgUuid) (state : ChatState) :
    Decidable (PublishedInRoom uuid state) :=
  inferInstanceAs (Decidable (∀ _ ∈ state.published, _))

/-- The request is a send that reuses a client message id of another room. -/
def RequestReuses (uuid : PgUuid) (state : ChatState) : ChatRequest → Prop
  | .sendMessage draws input => ReusesElsewhere uuid state draws input
  | _ => False

instance (uuid : PgUuid) (state : ChatState) :
    DecidablePred (RequestReuses uuid state)
  | .sendMessage draws input =>
      inferInstanceAs (Decidable (ReusesElsewhere uuid state draws input))
  | .createDirectRoom _ _ _ => isFalse id
  | .createGroupRoom _ _ _ _ => isFalse id
  | .addMember _ _ _ _ _ => isFalse id
  | .removeMember _ _ _ => isFalse id
  | .deleteRoom _ _ => isFalse id
  | .editMessage _ _ _ _ => isFalse id
  | .deleteMessage _ _ => isFalse id
  | .listMessages _ _ _ _ => isFalse id
  | .markAsRead _ _ _ => isFalse id
  | .typing _ _ => isFalse id

/-! ## One send -/

/-- A call that does not reuse an id of another room finds only its own. -/
theorem room_of_known {member : RoomMember} {row stored : Message}
    (membership : Membership uuid state input.roomId input.senderId member)
    (attached : Attached state input.attachmentKey)
    (reads : PgMessageRepository.readMessage uuid
      (SendMessage.newMessage draws input) = .ok row)
    (known : first (fun other => PgMessageRepository.sameClientKey other row)
      state.messages = some stored)
    (own : ¬ ReusesElsewhere uuid state draws input) :
    uuid.read input.roomId = some stored.roomId := by
  obtain ⟨id, drawn, room, roomRead, sender, senderRead, stores, rfl⟩ :=
    readMessage_eq_ok_iff.mp reads
  rcases condition_of_first known with ⟨given, sameSender, reused⟩
  have sameId : stored.clientMessageId = input.clientMessageId := reused
  by_contra elsewhere
  apply own
  refine ⟨⟨member, membership.stored, membership.room, membership.user⟩,
    attached, ?_, stores, stored, mem_of_first known, ?_, sameId, ?_,
    elsewhere⟩
  · exact Option.isSome_iff_exists.mpr ⟨id, drawn⟩
  · exact sameId ▸ given
  · rw [sameSender]
    exact senderRead

/-- A message that a send has found or stored in its room lands there. -/
theorem lands_of_sent {member : RoomMember} {messages : List Message}
    {msg : Message}
    (conforms : Conforms uuid
      (SendMessage.sent state draws input member.roomId messages
        msg.toMessageDto))
    (membership : Membership uuid state input.roomId input.senderId member)
    (stored : msg ∈ messages)
    (room : uuid.read input.roomId = some msg.roomId) :
    Lands uuid state
      (SendMessage.sent state draws input member.roomId messages
        msg.toMessageDto)
      input msg.toMessageDto where
  room := room
  stored := ⟨msg, stored, rfl⟩
  listed := by
    intro now limit enough
    have same : member.roomId = msg.roomId :=
      Option.some.inj (membership.room.symm.trans room)
    have still : Membership uuid
        (SendMessage.sent state draws input member.roomId messages
          msg.toMessageDto)
        input.roomId input.senderId member :=
      ⟨membership.stored, membership.room, membership.user⟩
    refine ⟨_, (ListMessages.execute_returns conforms still limit).1, ?_⟩
    rw [same]
    exact List.mem_map_of_mem (mem_page stored enough)
  event := rfl

/-- A call that reuses an id of another room returns that room's message. -/
theorem execute_reuses (now : Time) (conforms : Conforms uuid state)
    (reuses : ReusesElsewhere uuid state draws input) :
    ∃ (member : String) (stored : Message),
      uuid.read input.roomId ≠ some stored.roomId ∧
      Ensures (chatAdapter uuid) now (SendMessage.execute draws input) state
        fun outcome after => outcome = .ok stored.toMessageDto ∧
          after = SendMessage.sent state draws input member
            state.messages stored.toMessageDto := by
  obtain ⟨⟨member, memberStored, roomRead, userRead⟩, attached, readable,
    stores, stored, found, given, sameId, senderRead, elsewhere⟩ := reuses
  rcases Option.isSome_iff_exists.mp readable with ⟨id, drawn⟩
  have membership : Membership uuid state input.roomId input.senderId member :=
    ⟨memberStored, roomRead, userRead⟩
  have sameSender : stored.senderId = member.userId :=
    Option.some.inj (senderRead.symm.trans userRead)
  refine ⟨member.roomId, stored, elsewhere,
    SendMessage.execute_repeats conforms membership attached
      (SendMessage.reads membership drawn stores) ?_⟩
  apply first_eq_some_of_unique found
  · exact ⟨sameId ▸ given, sameSender, sameId⟩
  · rintro other otherFound ⟨otherGiven, otherSender, otherId⟩
    apply conforms.clientKeys.eq_of_clash _ otherFound found
    · exact ⟨otherGiven, otherSender.trans sameSender.symm,
        otherId.trans sameId.symm⟩
    · rintro left right ⟨leftGiven, sender, client⟩
      exact ⟨client ▸ leftGiven, sender.symm, client.symm⟩

/-- A send lands exactly when it does not reuse an id of another room. -/
theorem sendLands_iff (conforms : Conforms uuid state) :
    SendLands uuid now state draws input ↔
      ¬ ReusesElsewhere uuid state draws input := by
  constructor
  · intro lands reuses
    obtain ⟨member, stored, elsewhere, returned, -⟩ :=
      execute_reuses now conforms reuses
    exact elsewhere (lands stored.toMessageDto returned).room
  · intro own dto returned
    have conformsAfter : Conforms uuid
        ((SendMessage.execute draws input).run (chatAdapter uuid) now state).2 :=
      conforms.run
    cases ran : (SendMessage.execute draws input).run (chatAdapter uuid) now
        state with
    | mk outcome after =>
        have ends := (SendMessage.execute_ends draws input).of_run ran
        rw [ran] at returned conformsAfter
        cases ends with
        | throws error => cases returned
        | repeats member row stored membership attached reads known =>
            cases returned
            exact lands_of_sent conformsAfter membership (mem_of_first known)
              (room_of_known membership attached reads known own)
        | stores member row membership attached reads unknown fits =>
            cases returned
            apply lands_of_sent conformsAfter membership
            · exact List.mem_append_right _ (.head _)
            · obtain ⟨_, -, room, roomRead, _, -, -, rfl⟩ :=
                readMessage_eq_ok_iff.mp reads
              exact roomRead

/-! ## Published events -/

theorem publishedInRoom_append {entry : Channel × BusEvent}
    {before : ChatState}
    (appended : after.published = before.published ++ [entry]) :
    PublishedInRoom uuid after ↔
      PublishedInRoom uuid before ∧ InRoom uuid entry := by
  unfold PublishedInRoom
  rw [appended, List.forall_mem_append, List.forall_mem_singleton]

/-- A request that reuses no id of another room publishes in order. -/
theorem publishedInRoom_serve (sound : Sound uuid state)
    (published : PublishedInRoom uuid state) (served : ChatRequest × Time)
    (own : ¬ RequestReuses uuid state served.1) :
    PublishedInRoom uuid (serve uuid state served) := by
  have leaves := serve_leaves sound.toConforms served
  have silent := published_serve sound.toConforms served
  generalize serve uuid state served = after at leaves silent
  rcases served with ⟨request, now⟩
  cases request with
  | sendMessage draws input =>
      rcases leaves with ⟨_, ends⟩
      cases ends with
      | throws error => exact published
      | repeats member row stored membership attached reads known =>
          refine (publishedInRoom_append rfl).mpr ⟨published, ?_⟩
          exact room_of_known membership attached reads known own
      | stores member row membership attached reads unknown fits =>
          obtain ⟨_, -, room, roomRead, _, -, -, rfl⟩ :=
            readMessage_eq_ok_iff.mp reads
          refine (publishedInRoom_append rfl).mpr ⟨published, ?_⟩
          exact roomRead
  | editMessage clock requesterId messageId body =>
      rcases leaves with ⟨_, ends⟩
      cases ends with
      | throws error => exact published
      | idle msg stored => exact published
      | edits msg reads stored alive own stores patch sets =>
          refine (publishedInRoom_append rfl).mpr ⟨published, ?_⟩
          exact sound.read_roomId stored
  | deleteMessage requesterId messageId =>
      rcases leaves with ⟨_, ends⟩
      cases ends with
      | throws error => exact published
      | deletes msg reads stored alive allowed =>
          refine (publishedInRoom_append rfl).mpr ⟨published, ?_⟩
          exact trivial
  | markAsRead userId roomId messageId =>
      rcases leaves with ⟨_, ends⟩
      cases ends with
      | throws error => exact published
      | marks member msg membership stored sameRoom =>
          refine (publishedInRoom_append rfl).mpr ⟨published, ?_⟩
          exact trivial
  | typing userId roomId =>
      rcases leaves with ⟨_, ends⟩
      cases ends with
      | throws error => exact published
      | ignores => exact published
      | announces member membership =>
          refine (publishedInRoom_append rfl).mpr ⟨published, ?_⟩
          exact trivial
  | _ =>
      unfold PublishedInRoom
      rw [silent id]
      exact published

theorem publishedInRoom_serve_iff (sound : Sound uuid state)
    (published : PublishedInRoom uuid state) (served : ChatRequest × Time) :
    PublishedInRoom uuid (serve uuid state served) ↔
      ¬ RequestReuses uuid state served.1 := by
  refine ⟨?_, publishedInRoom_serve sound published served⟩
  intro kept reuses
  rcases served with ⟨request, now⟩
  cases request <;> try exact reuses
  case sendMessage draws input =>
    obtain ⟨member, stored, elsewhere, sent⟩ :=
      execute_reuses now sound.toConforms reuses
    have left : serve uuid state (.sendMessage draws input, now) =
        SendMessage.sent state draws input member state.messages
          stored.toMessageDto :=
      (ends_of_request _ sent).2
    rw [left, publishedInRoom_append rfl] at kept
    exact elsewhere kept.2

/-! ## Runs -/

/--
A send lands in its room.  In every state a run reaches, a call that returns a
message has it stored, listed and published in the room it named exactly when
it does not reuse a client message id of another room.  Along a whole run no
event of another room's message is published on the channel of a room exactly
when no request of the run does.
-/
theorem send_lands_iff {start : ChatState} (sound : Sound uuid start)
    (ordered : PublishedInRoom uuid start)
    (history : List (ChatRequest × Time)) :
    (∀ now draws input,
        SendLands uuid now (run (serve uuid) start history) draws input ↔
          ¬ ReusesElsewhere uuid (run (serve uuid) start history) draws
            input) ∧
      (Throughout (serve uuid) (PublishedInRoom uuid) start history ↔
        Along (serve uuid)
          (fun state served => ¬ RequestReuses uuid state served.1)
          start history) := by
  constructor
  · intro now draws input
    exact sendLands_iff (sound.run history).toConforms
  · have supported (before : ChatState) (served : ChatRequest × Time)
        (soundBefore : Sound uuid before) :
        Sound uuid (serve uuid before served) :=
      soundBefore.serve served
    have exactly (before : ChatState) (served : ChatRequest × Time)
        (soundBefore : Sound uuid before)
        (orderedBefore : PublishedInRoom uuid before) :
        PublishedInRoom uuid (serve uuid before served) ↔
          ¬ RequestReuses uuid before served.1 :=
      publishedInRoom_serve_iff soundBefore orderedBefore served
    exact throughout_iff_along supported exactly sound ordered

/-! ## A client message id used in two rooms -/

/-- A user opens two groups and sends a message to the first one. -/
def sendToFirst : List (ChatRequest × Time) :=
  [(.createGroupRoom { id := sampleRoomId, now := 1 } sampleOwner "one" [], 1),
    (.createGroupRoom { id := sampleOtherRoomId, now := 2 } sampleOwner "two"
      [], 2),
    (.sendMessage { id := sampleMessageId, now := 3 }
      { roomId := sampleRoomId, senderId := sampleOwner, body := "hello",
        clientMessageId := some "retry" }, 3)]

/-- The same client message id, sent to the second group. -/
def sendToSecond : SendMessage.Input where
  roomId := sampleOtherRoomId
  senderId := sampleOwner
  body := "hello again"
  clientMessageId := some "retry"

theorem publishedInRoom_sampleTables (users : List String) :
    PublishedInRoom uuid (sampleTables users) := by
  intro entry member
  cases member

theorem send_lands_iff_sendToFirst :
    Throughout (serve samplePgUuid) (PublishedInRoom samplePgUuid)
      (sampleTables [sampleOwner]) sendToFirst := by
  have lands :=
    send_lands_iff (sound_sampleTables samplePgUuid [sampleOwner])
      (publishedInRoom_sampleTables [sampleOwner]) sendToFirst
  apply lands.2.mpr
  decide +kernel

/-- The second send returns the message of the first group. -/
theorem send_lands_elsewhere :
    ¬ ∀ (uuid : PgUuid) (users : List String)
        (history : List (ChatRequest × Time)) (draws : SendMessage.Draws)
        (input : SendMessage.Input) (now : Time),
      SendLands uuid now (run (serve uuid) (sampleTables users) history)
        draws input := by
  intro claim
  have lands := claim samplePgUuid [sampleOwner] sendToFirst
    { id := sampleNextMessageId, now := 4 } sendToSecond 4
    { id := sampleMessageId, roomId := sampleRoomId, senderId := sampleOwner,
      body := "hello", attachmentKey := none, attachmentMeta := none,
      editedAt := none, deletedAt := none, createdAt := 3 }
    (by decide +kernel)
  exact absurd lands.room (by decide)

end ChatBackend.Chat.SendPlacement
