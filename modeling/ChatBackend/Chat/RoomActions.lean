import ChatBackend.Chat.MembershipAuthorization

/-!
# Who acts on a room

A request acts on a room if it changes a message of the room, the time of its
last message or a read pointer in it, or publishes an event on its channel.
Every request acts on one room at most, and its requester is a member of that
room, except that a message may be edited and deleted by its sender, who need
not be a member any more.
-/

namespace ChatBackend.Chat.RoomActions

open Effects
open Relational
open ChatBackend.Chat.Store
open ChatBackend.Chat.Schema
open ChatBackend.Chat.RoomUseCases
open ChatBackend.Chat.MessageUseCases
open ChatBackend.Chat.Requests
open ChatBackend.Chat.MembershipAuthorization (requesterId)

/-! ## Specification -/

def messagesOf (state : ChatState) (room : String) : List Message :=
  state.messages.filter fun row => decide (row.roomId = room)

def lastMessageAt (state : ChatState) (room : String) : Option Time :=
  (first (fun row => row.id = room) state.rooms).bind fun row =>
    row.lastMessageAt

def readPointer (state : ChatState) (room user : String) : Option String :=
  (first (fun row => row.roomId = room ∧ row.userId = user)
    state.roomMembers).bind fun row => row.lastReadMessageId

/-- The events that have been published between two states. -/
def Announces (state after : ChatState) (channel : Channel)
    (event : BusEvent) : Prop :=
  ∃ new, after.published = state.published ++ new ∧ (channel, event) ∈ new

/-- Between two states something has happened to the room. -/
def ActsOn (uuid : PgUuid) (state after : ChatState) (room : String) : Prop :=
  messagesOf after room ≠ messagesOf state room ∨
    lastMessageAt after room ≠ lastMessageAt state room ∨
      (∃ user, readPointer after room user ≠ readPointer state room user) ∨
        ∃ spelled event, uuid.read spelled = some room ∧
          Announces state after (.room spelled) event

/-- The user is a member of the room. -/
def IsMember (uuid : PgUuid) (state : ChatState) (room user : String) : Prop :=
  ∃ row ∈ state.roomMembers, row.roomId = room ∧
    uuid.read user = some row.userId

instance (uuid : PgUuid) (state : ChatState) (room user : String) :
    Decidable (IsMember uuid state room user) :=
  inferInstanceAs (Decidable (∃ row ∈ state.roomMembers, _ ∧ _))

/-- The request edits or deletes the message. -/
def Names (uuid : PgUuid) (message : Message) : ChatRequest → Prop
  | .editMessage _ _ messageId _ => uuid.read messageId = some message.id
  | .deleteMessage _ messageId => uuid.read messageId = some message.id
  | _ => False

/-- The event tells of an edit or the deletion of the message. -/
def Tells (uuid : PgUuid) (message : Message) : BusEvent → Prop
  | .messageEdited dto => dto.id = message.id
  | .messageDeleted messageId _ => uuid.read messageId = some message.id
  | _ => False

/-- The requester edits or deletes a message sent to the room, and only that. -/
structure ActsAsSender (uuid : PgUuid) (state after : ChatState)
    (request : ChatRequest) (room : String) (message : Message) : Prop where
  stored : message ∈ state.messages
  inRoom : message.roomId = room
  own : message.senderId = requesterId request
  names : Names uuid message request
  others : ∀ other : Message, other.id ≠ message.id →
    (other ∈ after.messages ↔ other ∈ state.messages)
  rooms : after.rooms = state.rooms
  roomMembers : after.roomMembers = state.roomMembers
  events : ∀ channel event, Announces state after channel event →
    channel = .room room ∧ Tells uuid message event

/-! ## What leaves a room alone -/

section Untouched

variable {uuid : PgUuid} {state after : ChatState} {room : String}

/-- Nothing has happened to the room. -/
structure Untouched (uuid : PgUuid) (state after : ChatState)
    (room : String) : Prop where
  messages : messagesOf after room = messagesOf state room
  lastMessage : lastMessageAt after room = lastMessageAt state room
  pointers : ∀ user, readPointer after room user = readPointer state room user
  silent : ∀ spelled event, uuid.read spelled = some room →
    ¬ Announces state after (.room spelled) event

theorem Untouched.not_actsOn (untouched : Untouched uuid state after room) :
    ¬ ActsOn uuid state after room := by
  rintro (messages | lastMessage | ⟨user, pointer⟩ |
    ⟨spelled, event, reads, announces⟩)
  · exact messages untouched.messages
  · exact lastMessage untouched.lastMessage
  · exact pointer (untouched.pointers user)
  · exact untouched.silent spelled event reads announces

theorem not_announces_of_same (same : after.published = state.published)
    {channel : Channel} {event : BusEvent} :
    ¬ Announces state after channel event := by
  rintro ⟨new, grown, member⟩
  rw [same] at grown
  rw [List.self_eq_append_right.mp grown] at member
  cases member

/-- A publication announces just its event. -/
theorem announces_iff {channel other : Channel} {event told : BusEvent}
    (grown : after.published = state.published ++ [(channel, event)]) :
    Announces state after other told ↔ other = channel ∧ told = event := by
  constructor
  · rintro ⟨new, equal, member⟩
    rw [grown] at equal
    cases List.append_cancel_left equal
    cases List.mem_singleton.mp member
    exact ⟨rfl, rfl⟩
  · rintro ⟨rfl, rfl⟩
    exact ⟨_, grown, .head _⟩

/-- A room stays as it is where other rooms' rows change. -/
theorem untouched_of_elsewhere
    (messages : after.messages.filter (fun row => decide (row.roomId = room)) =
      state.messages.filter fun row => decide (row.roomId = room))
    (rooms : after.rooms.filter (fun row => decide (row.id = room)) =
      state.rooms.filter fun row => decide (row.id = room))
    (roomMembers : ∀ user,
      after.roomMembers.filter
          (fun row => decide (row.roomId = room ∧ row.userId = user)) =
        state.roomMembers.filter
          fun row => decide (row.roomId = room ∧ row.userId = user))
    (silent : ∀ spelled event, uuid.read spelled = some room →
      ¬ Announces state after (.room spelled) event) :
    Untouched uuid state after room where
  messages := messages
  lastMessage := by rw [lastMessageAt, lastMessageAt, first_congr rooms]
  pointers user := by
    rw [readPointer, readPointer, first_congr (roomMembers user)]
  silent := silent

/-- An event on the channel of one room is none on that of another. -/
theorem silent_of_announced {spelled here : String} {event : BusEvent}
    (reads : uuid.read spelled = some here) (elsewhere : room ≠ here)
    (grown : after.published =
      state.published ++ [(.room spelled, event)]) :
    ∀ other told, uuid.read other = some room →
      ¬ Announces state after (.room other) told := by
  intro other told otherReads announces
  obtain ⟨same, -⟩ := (announces_iff grown).mp announces
  cases same
  exact elsewhere (Option.some.inj (otherReads.symm.trans reads))

/-- The pointers stay where new rows without a pointer come last. -/
theorem readPointer_append {rows : List RoomMember}
    (stored : after.roomMembers = state.roomMembers ++ rows)
    (unread : ∀ row ∈ rows, row.lastReadMessageId = none) (user : String) :
    readPointer after room user = readPointer state room user := by
  rw [readPointer, readPointer, stored]
  cases found : first (fun row => row.roomId = room ∧ row.userId = user)
      state.roomMembers with
  | some row => rw [first_append found]
  | none =>
      unfold first at found ⊢
      rw [List.find?_append, found, Option.none_or]
      cases new : List.find? (fun row => decide (row.roomId = room ∧
          row.userId = user)) rows with
      | none => rfl
      | some row => exact unread row (List.mem_of_find?_eq_some new)

/-- The last message stays where new rooms without one come last. -/
theorem lastMessageAt_append {created : List Room}
    (stored : after.rooms = state.rooms ++ created)
    (empty : ∀ row ∈ created, row.lastMessageAt = none) :
    lastMessageAt after room = lastMessageAt state room := by
  rw [lastMessageAt, lastMessageAt, stored]
  cases found : first (fun row => row.id = room) state.rooms with
  | some row => rw [first_append found]
  | none =>
      unfold first at found ⊢
      rw [List.find?_append, found, Option.none_or]
      cases new : List.find? (fun row => decide (row.id = room)) created with
      | none => rfl
      | some row => exact empty row (List.mem_of_find?_eq_some new)

theorem insertIgnoring_append (row : RoomMember) (rows : List RoomMember) :
    ∃ added, PgRoomRepository.insertIgnoring row rows = rows ++ added ∧
      ∀ other ∈ added, other = row := by
  unfold PgRoomRepository.insertIgnoring
  split_ifs
  · exact ⟨[], (List.append_nil rows).symm, nofun⟩
  · exact ⟨[row], rfl, fun other member => List.mem_singleton.mp member⟩

end Untouched

/-! ## Every request -/

section Requests

variable {uuid : PgUuid} {state after : ChatState}

/-- A request acts on one room at most, as a member or as a sender there. -/
def ActsOnce (uuid : PgUuid) (state after : ChatState)
    (request : ChatRequest) : Prop :=
  ∃ here,
    (IsMember uuid state here (requesterId request) ∨
      (∃ message, ActsAsSender uuid state after request here message) ∨
        Untouched uuid state after here) ∧
      ∀ room, room ≠ here → Untouched uuid state after room

/-- A request that touches no room. -/
theorem actsOnce_of_untouched {request : ChatRequest}
    (untouched : ∀ room, Untouched uuid state after room) :
    ActsOnce uuid state after request :=
  ⟨"", .inr (.inr (untouched "")), fun room _ => untouched room⟩

theorem Untouched.refl (room : String) : Untouched uuid state state room where
  messages := rfl
  lastMessage := rfl
  pointers _ := rfl
  silent _ _ _ := not_announces_of_same rfl

theorem isMember_of_membership {roomId userId : String} {row : RoomMember}
    (membership : Membership uuid state roomId userId row) :
    IsMember uuid state row.roomId userId :=
  ⟨row, membership.stored, rfl, membership.user⟩

/-- A request that only adds members who have read nothing yet. -/
theorem untouched_of_joined {rooms : List RoomMember} {created : List Room}
    (messages : after.messages = state.messages)
    (published : after.published = state.published)
    (stored : after.rooms = state.rooms ++ created)
    (empty : ∀ row ∈ created, row.lastMessageAt = none)
    (joined : after.roomMembers = state.roomMembers ++ rooms)
    (unread : ∀ row ∈ rooms, row.lastReadMessageId = none) (room : String) :
    Untouched uuid state after room where
  messages := congrArg _ messages
  lastMessage := lastMessageAt_append stored empty
  pointers := readPointer_append joined unread
  silent _ _ _ := not_announces_of_same published

/-- A message that is changed leaves the messages of other rooms alone. -/
theorem untouched_of_changed (conforms : Conforms uuid state)
    {message : Message} {change : Message → Message} {event : BusEvent}
    (stored : message ∈ state.messages) (keeps : KeepsMessage change)
    (room : String) (elsewhere : room ≠ message.roomId) :
    Untouched uuid state
      (published
        { state with
          messages :=
            updateWhere (fun row => row.id = message.id) change
              state.messages }
        (.room message.roomId) event)
      room := by
  apply untouched_of_elsewhere
  · apply filter_updateWhere
    · intro row present same inRoom
      cases conforms.messageIds.eq_of_key present stored same
      exact elsewhere inRoom.symm
    · intro row present same inRoom
      cases conforms.messageIds.eq_of_key present stored same
      rw [keeps.roomId] at inRoom
      exact elsewhere inRoom.symm
  · rfl
  · exact fun _ => rfl
  · exact silent_of_announced (conforms.read_roomId stored) elsewhere rfl

/-- The sender of a message acts on it and tells of it. -/
theorem actsAsSender_of_changed {request : ChatRequest}
    {message : Message} {change : Message → Message} {event : BusEvent}
    (stored : message ∈ state.messages) (keeps : KeepsMessage change)
    (own : message.senderId = requesterId request)
    (names : Names uuid message request) (tells : Tells uuid message event) :
    ActsAsSender uuid state
      (published
        { state with
          messages :=
            updateWhere (fun row => row.id = message.id) change
              state.messages }
        (.room message.roomId) event)
      request message.roomId message where
  stored := stored
  inRoom := rfl
  own := own
  names := names
  others other differs := by
    change other ∈ updateWhere _ change state.messages ↔ _
    rw [mem_updateWhere]
    constructor
    · rintro ⟨old, oldStored, rfl⟩
      split_ifs at differs ⊢ with updated
      · exact absurd ((keeps.id old).trans updated) differs
      · exact oldStored
    · intro present
      exact ⟨other, present, (if_neg differs).symm⟩
  rooms := rfl
  roomMembers := rfl
  events channel told announces := by
    obtain ⟨rfl, rfl⟩ := (announces_iff rfl).mp announces
    exact ⟨rfl, tells⟩

/-- A member who goes leaves the other rooms alone. -/
theorem untouched_withoutMember {target : RoomMember} {room : String}
    (elsewhere : room ≠ target.roomId) :
    Untouched uuid state (withoutMember state target) room := by
  refine untouched_of_elsewhere rfl rfl ?_ ?_
  · intro user
    apply filter_deleteWhere
    rintro row - ⟨inRoom, -⟩ ⟨removed, -⟩
    exact elsewhere (inRoom.symm.trans removed)
  · exact fun _ _ _ => not_announces_of_same rfl

/-- The deletion of a room leaves the other rooms alone. -/
theorem untouched_cascade (sound : Sound uuid state) {deleted room : String}
    (elsewhere : room ≠ deleted) :
    Untouched uuid state (PgRoomRepository.cascade state deleted) room := by
  apply untouched_of_elsewhere
  · apply filter_deleteWhere
    rintro row - inRoom removed
    exact elsewhere (inRoom.symm.trans removed)
  · apply filter_deleteWhere
    rintro row - inRoom removed
    exact elsewhere (inRoom.symm.trans removed)
  · intro user
    rw [sound.cascade_roomMembers]
    apply filter_deleteWhere
    rintro row - ⟨inRoom, -⟩ removed
    exact elsewhere (inRoom.symm.trans removed)
  · exact fun _ _ _ => not_announces_of_same rfl

/-- A send leaves the other rooms alone if it adds no message to them. -/
theorem untouched_sent {draws : SendMessage.Draws} {input : SendMessage.Input}
    {here room : String} {messages : List Message} {dto : MessageDto}
    (reads : uuid.read input.roomId = some here) (elsewhere : room ≠ here)
    (kept : messages.filter (fun row => decide (row.roomId = room)) =
      state.messages.filter fun row => decide (row.roomId = room)) :
    Untouched uuid state (SendMessage.sent state draws input here messages dto)
      room := by
  refine untouched_of_elsewhere kept ?_ (fun _ => rfl)
    (silent_of_announced reads elsewhere rfl)
  apply filter_updateWhere
  · exact fun row _ same inRoom => elsewhere (inRoom.symm.trans same)
  · exact fun row _ same inRoom => elsewhere (inRoom.symm.trans same)

/-- A member acts on the room of the membership. -/
theorem actsOnce_of_member {roomId : String} {row : RoomMember}
    {request : ChatRequest}
    (membership : Membership uuid state roomId (requesterId request) row)
    (untouched : ∀ room, room ≠ row.roomId → Untouched uuid state after room) :
    ActsOnce uuid state after request :=
  ⟨row.roomId, .inl (isMember_of_membership membership), untouched⟩

theorem actsOnce_createDirectRoom {request : ChatRequest} {draws : RoomDraws}
    {requestedBy targetUserId : String} {outcome : Except Failure RoomDto}
    (ends : CreateDirectRoom.Ends uuid draws state requestedBy targetUserId
      outcome after) : ActsOnce uuid state after request := by
  apply actsOnce_of_untouched
  cases ends with
  | throws error => exact .refl
  | found room stored keyed => exact .refl
  | creates room memberA memberB unknown reads fits readsA readsB =>
      rcases readRoom_eq_ok_iff.mp reads with ⟨_, -, -, _, -, rfl⟩
      rcases readNewMember_eq_ok_iff.mp readsA with ⟨_, -, _, -, rfl⟩
      rcases readNewMember_eq_ok_iff.mp readsB with ⟨_, -, _, -, rfl⟩
      obtain ⟨first, joins, unread⟩ := insertIgnoring_append _ state.roomMembers
      rw [joins]
      obtain ⟨second, joinsToo, unreadToo⟩ := insertIgnoring_append _ _
      rw [joinsToo, List.append_assoc]
      refine untouched_of_joined rfl rfl rfl ?_ rfl ?_
      · simp [CreateDirectRoom.newRoom]
      · intro row member
        rcases List.mem_append.mp member with a | b
        · rw [unread row a]
          rfl
        · rw [unreadToo row b]
          rfl

theorem actsOnce_createGroupRoom {request : ChatRequest} {draws : RoomDraws}
    {requestedBy name : String} {outcome : Except Failure RoomDto}
    (ends : CreateGroupRoom.Ends uuid draws state requestedBy name outcome
      after) : ActsOnce uuid state after request := by
  apply actsOnce_of_untouched
  cases ends with
  | throws error => exact .refl
  | creates _ room owner joined reads fits readsOwner members returns =>
      rcases readRoom_eq_ok_iff.mp reads with ⟨_, -, -, _, -, rfl⟩
      rcases readNewMember_eq_ok_iff.mp readsOwner with ⟨_, -, _, -, rfl⟩
      refine untouched_of_joined rfl rfl rfl ?_ rfl ?_
      · simp [CreateGroupRoom.newRoom]
      · rw [List.forall_mem_cons]
        refine ⟨rfl, fun row member => ?_⟩
        rcases members row member with ⟨user, rfl⟩
        rfl

theorem actsOnce_addMember {request : ChatRequest} {clock : Time}
    {requestedBy roomId userId : String} {role : RoomRole}
    {outcome : Except Failure RoomMemberDto}
    (ends : AddMember.Ends uuid clock state requestedBy roomId userId role
      outcome after) : ActsOnce uuid state after request := by
  apply actsOnce_of_untouched
  cases ends with
  | throws error => exact .refl
  | adds requester row member allowed reads fresh =>
      rcases readNewMember_eq_ok_iff.mp reads with ⟨_, -, _, -, rfl⟩
      refine untouched_of_joined rfl rfl (List.append_nil _).symm nofun rfl ?_
      rintro row (_ | ⟨_, ⟨⟩⟩)
      rfl

theorem actsOnce_removeMember {requestedBy roomId targetUserId : String}
    {outcome : Except Failure Unit}
    (ends : RemoveMember.Ends uuid state requestedBy roomId targetUserId
      outcome after) :
    ActsOnce uuid state after
      (.removeMember requestedBy roomId targetUserId) := by
  cases ends with
  | throws error => exact actsOnce_of_untouched .refl
  | leaves target self member =>
      subst self
      exact actsOnce_of_member member fun _ => untouched_withoutMember
  | removes target requester member remover allowed notOwner notPeer =>
      have same : requester.roomId = target.roomId :=
        Option.some.inj (remover.room.symm.trans member.room)
      apply actsOnce_of_member remover
      rw [same]
      exact fun _ => untouched_withoutMember

theorem actsOnce_deleteRoom (sound : Sound uuid state)
    {requestedBy roomId : String} {outcome : Except Failure Unit}
    (ends : DeleteRoom.Ends uuid state requestedBy roomId outcome after) :
    ActsOnce uuid state after (.deleteRoom requestedBy roomId) := by
  cases ends with
  | throws error => exact actsOnce_of_untouched .refl
  | deletes room requester stored member same allowed =>
      apply actsOnce_of_member member
      rw [← same]
      exact fun _ => untouched_cascade sound

theorem actsOnce_sendMessage {draws : SendMessage.Draws}
    {input : SendMessage.Input} {outcome : Except Failure MessageDto}
    (ends : SendMessage.Ends uuid state draws input outcome after) :
    ActsOnce uuid state after (.sendMessage draws input) := by
  cases ends with
  | throws error => exact actsOnce_of_untouched .refl
  | repeats member row stored membership attached reads known =>
      apply actsOnce_of_member membership
      exact fun _ differs => untouched_sent membership.room differs rfl
  | stores member row membership attached reads unknown fits =>
      apply actsOnce_of_member membership
      intro room differs
      apply untouched_sent membership.room differs
      rcases readMessage_eq_ok_iff.mp reads with
        ⟨_, -, here, hereRead, _, -, -, rfl⟩
      have placed : here = member.roomId :=
        Option.some.inj (hereRead.symm.trans membership.room)
      rw [List.filter_append, List.filter_cons_of_neg, List.filter_nil,
        List.append_nil]
      rw [decide_eq_true_iff]
      exact fun inRoom => differs (inRoom.symm.trans placed)

theorem actsOnce_editMessage (conforms : Conforms uuid state) {clock : Time}
    {requestedBy messageId body : String} {outcome : Except Failure MessageDto}
    (ends : EditMessage.Ends uuid clock state requestedBy messageId body
      outcome after) :
    ActsOnce uuid state after
      (.editMessage clock requestedBy messageId body) := by
  cases ends with
  | throws error => exact actsOnce_of_untouched .refl
  | idle msg stored => exact actsOnce_of_untouched .refl
  | edits msg reads stored alive own stores patch sets =>
      refine ⟨msg.roomId, .inr (.inl ⟨msg, ?_⟩),
        untouched_of_changed conforms stored (patchMessage_keeps patch)⟩
      exact actsAsSender_of_changed stored (patchMessage_keeps patch) own
        reads rfl

theorem actsOnce_deleteMessage (conforms : Conforms uuid state) {now : Time}
    {requestedBy messageId : String} {outcome : Except Failure Unit}
    (ends : DeleteMessage.Ends uuid now state requestedBy messageId outcome
      after) :
    ActsOnce uuid state after (.deleteMessage requestedBy messageId) := by
  cases ends with
  | throws error => exact actsOnce_of_untouched .refl
  | deletes msg reads stored alive allowed =>
      refine ⟨msg.roomId, ?_,
        untouched_of_changed conforms stored (blank_keeps now)⟩
      by_cases own : msg.senderId = requestedBy
      · exact .inr (.inl ⟨msg, actsAsSender_of_changed stored
          (blank_keeps now) own reads reads⟩)
      · rcases allowed own with ⟨member, membership, -⟩
        have here : msg.roomId = member.roomId :=
          Option.some.inj
            ((conforms.read_roomId stored).symm.trans membership.room)
        exact .inl (here ▸ isMember_of_membership membership)

theorem actsOnce_markAsRead {userId roomId messageId : String}
    {outcome : Except Failure Unit}
    (ends : MarkAsRead.Ends uuid state userId roomId messageId outcome after) :
    ActsOnce uuid state after (.markAsRead userId roomId messageId) := by
  cases ends with
  | throws error => exact actsOnce_of_untouched .refl
  | marks member msg membership stored sameRoom =>
      apply actsOnce_of_member membership
      intro room differs
      refine untouched_of_elsewhere rfl rfl ?_
        (silent_of_announced membership.room differs rfl)
      intro user
      apply filter_updateWhere
      · rintro row - ⟨marked, -⟩ ⟨inRoom, -⟩
        exact differs (inRoom.symm.trans marked)
      · rintro row - ⟨marked, -⟩ ⟨inRoom, -⟩
        exact differs (inRoom.symm.trans marked)

theorem actsOnce_typing {userId roomId : String}
    {outcome : Except Failure Bool}
    (ends : handleChatTyping.Ends uuid state userId roomId outcome after) :
    ActsOnce uuid state after (.typing userId roomId) := by
  cases ends with
  | throws error => exact actsOnce_of_untouched .refl
  | ignores => exact actsOnce_of_untouched .refl
  | announces member membership =>
      apply actsOnce_of_member membership
      intro room differs
      exact untouched_of_elsewhere rfl rfl (fun _ => rfl)
        (silent_of_announced membership.room differs rfl)

/-- Whatever a request is, it acts once. -/
theorem actsOnce_serve (sound : Sound uuid state)
    (served : ChatRequest × Time) :
    ActsOnce uuid state (serve uuid state served) served.1 := by
  have leaves := serve_leaves sound.toConforms served
  generalize serve uuid state served = after at leaves
  rcases served with ⟨request, now⟩
  cases request with
  | createDirectRoom draws requesterId targetUserId =>
      obtain ⟨outcome, ends⟩ := leaves
      exact actsOnce_createDirectRoom ends
  | createGroupRoom draws requesterId name memberIds =>
      obtain ⟨outcome, ends⟩ := leaves
      exact actsOnce_createGroupRoom ends
  | addMember clock requesterId roomId userId role =>
      obtain ⟨outcome, ends⟩ := leaves
      exact actsOnce_addMember ends
  | removeMember requesterId roomId targetUserId =>
      obtain ⟨outcome, ends⟩ := leaves
      exact actsOnce_removeMember ends
  | deleteRoom requesterId roomId =>
      obtain ⟨outcome, ends⟩ := leaves
      exact actsOnce_deleteRoom sound ends
  | sendMessage draws input =>
      obtain ⟨outcome, ends⟩ := leaves
      exact actsOnce_sendMessage ends
  | editMessage clock requesterId messageId body =>
      obtain ⟨outcome, ends⟩ := leaves
      exact actsOnce_editMessage sound.toConforms ends
  | deleteMessage requesterId messageId =>
      obtain ⟨outcome, ends⟩ := leaves
      exact actsOnce_deleteMessage sound.toConforms ends
  | listMessages roomId requesterId before limit =>
      obtain ⟨outcome, ends⟩ := leaves
      cases ends <;> exact actsOnce_of_untouched .refl
  | markAsRead userId roomId messageId =>
      obtain ⟨outcome, ends⟩ := leaves
      exact actsOnce_markAsRead ends
  | typing userId roomId =>
      obtain ⟨outcome, ends⟩ := leaves
      exact actsOnce_typing ends

end Requests

/-! ## Runs -/

/--
Who acts on a room.  In every state that a run of requests reaches, a request
that acts on a room is one of a member of the room, or it edits or deletes one
message that the requester has sent there and does nothing else.
-/
theorem members_or_senders_act {uuid : PgUuid} {start : ChatState}
    (sound : Sound uuid start) (requests : List (ChatRequest × Time))
    (served : ChatRequest × Time) (room : String) :
    let state := Transition.run (serve uuid) start requests
    ActsOn uuid state (complete uuid state served).2 room →
      IsMember uuid state room (requesterId served.1) ∨
        ∃ message, ActsAsSender uuid state (complete uuid state served).2
          served.1 room message := by
  intro state acts
  obtain ⟨here, how, elsewhere⟩ :=
    actsOnce_serve (sound.run requests) served
  by_cases same : room = here
  · subst same
    rcases how with member | sender | untouched
    · exact .inl member
    · exact .inr sender
    · exact absurd acts untouched.not_actsOn
  · exact absurd acts (elsewhere room same).not_actsOn

/-- A member sends a message to a group and is removed from it. -/
def removedMember : List (ChatRequest × Time) :=
  [(.createGroupRoom { id := sampleRoomId, now := 1 } sampleOwner "team"
      [sampleMember], 1),
    (.sendMessage { id := sampleMessageId, now := 2 }
      { roomId := sampleRoomId, senderId := sampleMember, body := "hello" }, 2),
    (.removeMember sampleOwner sampleRoomId sampleMember, 3)]

/-- The edit that the removed member then makes. -/
def lateEdit : ChatRequest × Time :=
  (.editMessage 4 sampleMember sampleMessageId "goodbye", 4)

theorem members_or_senders_act_lateEdit :
    let state := Transition.run (serve samplePgUuid)
      (sampleTables [sampleOwner, sampleMember]) removedMember
    IsMember samplePgUuid state sampleRoomId sampleMember ∨
      ∃ message, ActsAsSender samplePgUuid state
        (complete samplePgUuid state lateEdit).2 lateEdit.1 sampleRoomId
        message :=
  members_or_senders_act
    (sound_sampleTables samplePgUuid [sampleOwner, sampleMember]) removedMember
    lateEdit sampleRoomId (.inl (by decide))

/-- The removed member changes a message of the room and publishes to it. -/
theorem former_member_acts :
    let state := Transition.run (serve samplePgUuid)
      (sampleTables [sampleOwner, sampleMember]) removedMember
    ActsOn samplePgUuid state (complete samplePgUuid state lateEdit).2
        sampleRoomId ∧
      ¬ IsMember samplePgUuid state sampleRoomId (requesterId lateEdit.1) := by
  refine ⟨.inl (by decide), ?_⟩
  unfold IsMember
  decide

end ChatBackend.Chat.RoomActions
