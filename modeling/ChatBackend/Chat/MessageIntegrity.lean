import ChatBackend.Chat.Requests

/-!
# The integrity of stored messages

What a request does to the messages is one of a few things: it keeps them, it
appends one, it edits or blanks one, or it deletes those of a room.  In every
run a stored message keeps its origin for as long as its room exists, its body
changes only when its sender edits it or when it is deleted, it is deleted once
and by somebody who may, and a request that throws has changed no message and
published nothing.
-/

namespace ChatBackend.Chat.MessageIntegrity

open Effects
open Relational
open ChatBackend.Chat.Store
open ChatBackend.Chat.Schema
open ChatBackend.Chat.RoomUseCases
open ChatBackend.Chat.MessageUseCases
open ChatBackend.Chat.Requests

/-! ## What a request does to the messages -/

section Alterations

variable (uuid : PgUuid) (now : Time) (state : ChatState)

/-- What a request may make of the messages. -/
inductive Alters (after : ChatState) : ChatRequest → Prop where
  | keeps (request : ChatRequest) (same : after.messages = state.messages) :
      Alters after request
  | stores (draws : SendMessage.Draws) (input : SendMessage.Input)
      (row : Message) (fresh : ∀ other ∈ state.messages, other.id ≠ row.id)
      (stored : after.messages = state.messages ++ [row]) :
      Alters after (.sendMessage draws input)
  | edits (clock : Time) (messageId body : String) (message : Message)
      (reads : uuid.read messageId = some message.id)
      (stored : message ∈ state.messages)
      (alive : message.deletedAt = none)
      (edited : after.messages =
        updateWhere (fun row => row.id = message.id)
          (PgMessageRepository.patchMessage
            { body := some body, editedAt := some (some clock) })
          state.messages) :
      Alters after (.editMessage clock message.senderId messageId body)
  | blanks (requesterId messageId : String) (message : Message)
      (reads : uuid.read messageId = some message.id)
      (stored : message ∈ state.messages)
      (alive : message.deletedAt = none)
      (allowed : message.senderId ≠ requesterId → ∃ member,
        Membership uuid state message.roomId requesterId member ∧
          member.role ≠ .member)
      (blanked : after.messages =
        updateWhere (fun row => row.id = message.id)
          (PgMessageRepository.blank now) state.messages) :
      Alters after (.deleteMessage requesterId messageId)
  | removes (requesterId roomId room : String)
      (gone : ∀ other ∈ after.rooms, other.id ≠ room)
      (removed : after.messages =
        deleteWhere (fun row => row.roomId = room) state.messages) :
      Alters after (.deleteRoom requesterId roomId)

variable {uuid now state}

theorem alters_serve (conforms : Conforms uuid state)
    (served : ChatRequest × Time) :
    Alters uuid served.2 state (serve uuid state served) served.1 := by
  have leaves := serve_leaves conforms served
  generalize serve uuid state served = after at leaves
  rcases served with ⟨request, now⟩
  cases request with
  | createDirectRoom draws requesterId targetUserId =>
      rcases leaves with ⟨_, ends⟩
      cases ends <;> exact .keeps _ rfl
  | createGroupRoom draws requesterId name memberIds =>
      rcases leaves with ⟨_, ends⟩
      cases ends <;> exact .keeps _ rfl
  | addMember clock requesterId roomId userId role =>
      rcases leaves with ⟨_, ends⟩
      cases ends <;> exact .keeps _ rfl
  | removeMember requesterId roomId targetUserId =>
      rcases leaves with ⟨_, ends⟩
      cases ends <;> exact .keeps _ rfl
  | deleteRoom requesterId roomId =>
      rcases leaves with ⟨_, ends⟩
      cases ends with
      | throws error => exact .keeps _ rfl
      | deletes room requester stored member same allowed =>
          exact .removes requesterId roomId room.id
            (fun other kept => (mem_deleteWhere.mp kept).2) rfl
  | sendMessage draws input =>
      rcases leaves with ⟨_, ends⟩
      cases ends with
      | throws error => exact .keeps _ rfl
      | repeats member row stored membership attached reads known =>
          exact .keeps _ rfl
      | stores member row membership attached reads unknown fits =>
          exact .stores draws input row
            (insertViolation_eq_none_iff.mp fits).1 rfl
  | editMessage clock requesterId messageId body =>
      rcases leaves with ⟨_, ends⟩
      cases ends with
      | throws error => exact .keeps _ rfl
      | idle msg stored => exact .keeps _ rfl
      | edits msg reads stored alive own stores patch sets =>
          subst own sets
          exact .edits clock messageId body msg reads stored alive rfl
  | deleteMessage requesterId messageId =>
      rcases leaves with ⟨_, ends⟩
      cases ends with
      | throws error => exact .keeps _ rfl
      | deletes msg reads stored alive allowed =>
          exact .blanks requesterId messageId msg reads stored alive allowed
            rfl
  | listMessages roomId requesterId before limit =>
      rcases leaves with ⟨_, ends⟩
      cases ends <;> exact .keeps _ rfl
  | markAsRead userId roomId messageId =>
      rcases leaves with ⟨_, ends⟩
      cases ends <;> exact .keeps _ rfl
  | typing userId roomId =>
      rcases leaves with ⟨_, ends⟩
      cases ends <;> exact .keeps _ rfl

end Alterations

/-! ## Specification -/

/-- A later row of the same message has its origin. -/
structure SameOrigin (message later : Message) : Prop where
  id : later.id = message.id
  roomId : later.roomId = message.roomId
  senderId : later.senderId = message.senderId
  clientMessageId : later.clientMessageId = message.clientMessageId
  createdAt : later.createdAt = message.createdAt

/-- The sender of the message, which was not deleted, has edited it. -/
def Edited (uuid : PgUuid) (request : ChatRequest) (message later : Message) :
    Prop :=
  ∃ clock messageId,
    request = .editMessage clock message.senderId messageId later.body ∧
      uuid.read messageId = some message.id ∧ message.deletedAt = none ∧
        later.editedAt = some clock

/-- The message, which was not deleted, has been by somebody who may. -/
def Deleted (uuid : PgUuid) (state : ChatState)
    (served : ChatRequest × Time) (message later : Message) : Prop :=
  ∃ requesterId messageId,
    served.1 = .deleteMessage requesterId messageId ∧
      uuid.read messageId = some message.id ∧ message.deletedAt = none ∧
        later.deletedAt = some served.2 ∧
          (requesterId = message.senderId ∨ ∃ member,
            Membership uuid state message.roomId requesterId member ∧
              (member.role = .admin ∨ member.role = .owner))

/-- What a request may do to the messages that are stored. -/
structure Integrity (uuid : PgUuid) (state after : ChatState)
    (served : ChatRequest × Time) : Prop where
  stays : ∀ message ∈ state.messages,
    (∃ room ∈ after.rooms, room.id = message.roomId) →
      ∃ later ∈ after.messages, later.id = message.id
  origin : ∀ message ∈ state.messages, ∀ later ∈ after.messages,
    later.id = message.id → SameOrigin message later
  body : ∀ message ∈ state.messages, ∀ later ∈ after.messages,
    later.id = message.id → later.body ≠ message.body →
      Edited uuid served.1 message later ∨
        Deleted uuid state served message later
  deletedAt : ∀ message ∈ state.messages, ∀ later ∈ after.messages,
    later.id = message.id → later.deletedAt ≠ message.deletedAt →
      Deleted uuid state served message later

/-- The messages and the events are what they were. -/
def Silent (state after : ChatState) : Prop :=
  after.messages = state.messages ∧ after.published = state.published

/-- A later row of the message, which is as deleted as before. -/
structure Outlasts (message later : Message) : Prop
    extends SameOrigin message later where
  deleted : message.deletedAt ≠ none → later.deletedAt = message.deletedAt

theorem SameOrigin.refl (message : Message) : SameOrigin message message :=
  ⟨rfl, rfl, rfl, rfl, rfl⟩

theorem Outlasts.refl (message : Message) : Outlasts message message :=
  { SameOrigin.refl message with deleted := fun _ => rfl }

theorem Outlasts.trans {message later last : Message}
    (first : Outlasts message later) (second : Outlasts later last) :
    Outlasts message last where
  id := second.id.trans first.id
  roomId := second.roomId.trans first.roomId
  senderId := second.senderId.trans first.senderId
  clientMessageId := second.clientMessageId.trans first.clientMessageId
  createdAt := second.createdAt.trans first.createdAt
  deleted gone := by
    have same := first.deleted gone
    rw [← same] at gone ⊢
    exact second.deleted gone

/-! ## Every request -/

section Requests

variable {uuid : PgUuid} {state : ChatState} {message later : Message}
  {id : String}

theorem sameOrigin_patchMessage (patch : MessagePatch) (message : Message) :
    SameOrigin message (PgMessageRepository.patchMessage patch message) :=
  ⟨rfl, rfl, rfl, rfl, rfl⟩

theorem sameOrigin_blank (now : Time) (message : Message) :
    SameOrigin message (PgMessageRepository.blank now message) :=
  ⟨rfl, rfl, rfl, rfl, rfl⟩

/-- The later row of a message, after an update of the row with some id. -/
theorem eq_of_mem_updateWhere {change : Message → Message}
    (unique : UniqueKey (fun row : Message => row.id) state.messages)
    (keeps : KeepsMessage change) (stored : message ∈ state.messages)
    (present : later ∈
      updateWhere (fun row => row.id = id) change state.messages)
    (same : later.id = message.id) :
    later = if message.id = id then change message else message := by
  rcases mem_updateWhere.mp present with ⟨old, oldStored, rfl⟩
  have sameId : old.id = message.id := by
    split_ifs at same with updated
    · rw [← same, keeps.id]
    · exact same
  cases unique.eq_of_key oldStored stored sameId
  rfl

theorem exists_mem_updateWhere {change : Message → Message}
    (keeps : KeepsMessage change) (stored : message ∈ state.messages) :
    ∃ later ∈ updateWhere (fun row => row.id = id) change state.messages,
      later.id = message.id := by
  refine ⟨_, mem_updateWhere.mpr ⟨message, stored, rfl⟩, ?_⟩
  split_ifs
  · exact keeps.id message
  · rfl

/-- Where the messages of a state are what they were, all is intact. -/
theorem integrity_of_unaltered {after : ChatState}
    {served : ChatRequest × Time}
    (stays : ∀ message ∈ state.messages,
      (∃ room ∈ after.rooms, room.id = message.roomId) →
        ∃ later ∈ after.messages, later.id = message.id)
    (same : ∀ message ∈ state.messages, ∀ later ∈ after.messages,
      later.id = message.id → later = message) :
    Integrity uuid state after served where
  stays := stays
  origin message stored later present sameId := by
    rw [same message stored later present sameId]
    exact .refl message
  body message stored later present sameId differs := by
    rw [same message stored later present sameId] at differs
    exact absurd rfl differs
  deletedAt message stored later present sameId differs := by
    rw [same message stored later present sameId] at differs
    exact absurd rfl differs

/-- Where one row is changed, all is intact if that may be done to the row. -/
theorem integrity_of_changed (conforms : Conforms uuid state)
    {after : ChatState} {served : ChatRequest × Time}
    {change : Message → Message} (keeps : KeepsMessage change)
    (origin : ∀ message, SameOrigin message (change message))
    (stored : message ∈ state.messages)
    (changed : after.messages =
      updateWhere (fun row => row.id = message.id) change state.messages)
    (body : Edited uuid served.1 message (change message) ∨
      Deleted uuid state served message (change message))
    (deletedAt : (change message).deletedAt ≠ message.deletedAt →
      Deleted uuid state served message (change message)) :
    Integrity uuid state after served := by
  have cases (other : Message) (otherStored : other ∈ state.messages)
      (later : Message) (present : later ∈ after.messages)
      (same : later.id = other.id) :
      later = other ∨ other = message ∧ later = change message := by
    rw [changed] at present
    have equal := eq_of_mem_updateWhere conforms.messageIds keeps otherStored
      present same
    split_ifs at equal with updated
    · cases conforms.messageIds.eq_of_key otherStored stored updated
      exact .inr ⟨rfl, equal⟩
    · exact .inl equal
  refine ⟨?_, ?_, ?_, ?_⟩
  · intro other otherStored _
    rw [changed]
    exact exists_mem_updateWhere keeps otherStored
  · intro other otherStored later present same
    rcases cases other otherStored later present same with rfl | ⟨rfl, rfl⟩
    · exact .refl later
    · exact origin other
  · intro other otherStored later present same differs
    rcases cases other otherStored later present same with rfl | ⟨rfl, rfl⟩
    · exact absurd rfl differs
    · exact body
  · intro other otherStored later present same differs
    rcases cases other otherStored later present same with rfl | ⟨rfl, rfl⟩
    · exact absurd rfl differs
    · exact deletedAt differs

theorem integrity_serve (conforms : Conforms uuid state)
    (served : ChatRequest × Time) :
    Integrity uuid state (serve uuid state served) served := by
  have alters := alters_serve conforms served
  generalize serve uuid state served = after at alters
  have unique {other later : Message} (stored : other ∈ state.messages)
      (present : later ∈ state.messages) (same : later.id = other.id) :
      later = other :=
    conforms.messageIds.eq_of_key present stored same
  rcases served with ⟨request, now⟩
  cases alters with
  | keeps _ same =>
      apply integrity_of_unaltered
      · intro message stored _
        exact ⟨message, same ▸ stored, rfl⟩
      · intro message stored later present sameId
        exact unique stored (same ▸ present) sameId
  | stores draws input row fresh stored =>
      apply integrity_of_unaltered
      · intro message old _
        exact ⟨message, stored ▸ List.mem_append_left _ old, rfl⟩
      · intro message old later present sameId
        rw [stored] at present
        rcases List.mem_append.mp present with kept | new
        · exact unique old kept sameId
        · cases List.mem_singleton.mp new
          exact absurd sameId.symm (fresh message old)
  | edits clock messageId body message reads stored alive edited =>
      refine integrity_of_changed conforms (patchMessage_keeps _)
        (sameOrigin_patchMessage _) stored edited ?_ ?_
      · exact .inl ⟨clock, messageId, rfl, reads, alive, rfl⟩
      · exact fun differs => absurd rfl differs
  | blanks requesterId messageId message reads stored alive allowed blanked =>
      have deleted : Deleted uuid state (.deleteMessage requesterId messageId,
          now) message (PgMessageRepository.blank now message) := by
        refine ⟨requesterId, messageId, rfl, reads, alive, rfl, ?_⟩
        by_cases own : message.senderId = requesterId
        · exact .inl own.symm
        · rcases allowed own with ⟨member, membership, role⟩
          refine .inr ⟨member, membership, ?_⟩
          cases held : member.role with
          | owner => exact .inr rfl
          | admin => exact .inl rfl
          | member => exact absurd held role
      exact integrity_of_changed conforms (blank_keeps now)
        (sameOrigin_blank now) stored blanked (.inr deleted) fun _ => deleted
  | removes requesterId roomId room gone removed =>
      apply integrity_of_unaltered
      · rintro message stored ⟨other, exists_, same⟩
        refine ⟨message, ?_, rfl⟩
        rw [removed]
        exact mem_deleteWhere.mpr
          ⟨stored, fun inRoom => gone other exists_ (same.trans inRoom)⟩
      · intro message stored later present sameId
        rw [removed] at present
        exact unique stored (mem_deleteWhere.mp present).1 sameId

/-- A message outlasts a request that does not delete its room. -/
theorem Integrity.outlasts {after : ChatState} {served : ChatRequest × Time}
    (integrity : Integrity uuid state after served)
    (stored : message ∈ state.messages)
    (room : ∃ room ∈ after.rooms, room.id = message.roomId) :
    ∃ later ∈ after.messages, Outlasts message later := by
  obtain ⟨later, present, same⟩ := integrity.stays message stored room
  refine ⟨later, present,
    { integrity.origin message stored later present same with deleted := ?_ }⟩
  intro gone
  by_contra differs
  obtain ⟨_, _, -, -, alive, -⟩ :=
    integrity.deletedAt message stored later present same differs
  exact gone alive

/-- What holds of every ending that throws holds of a request that threw. -/
theorem of_threw {now : Time} {Result : Type} {program : ChatProgram Result}
    {post : Except Failure Result → ChatState → Prop}
    {change : Result → ChatReply} {error : Failure} {quiet : ChatState → Prop}
    (ensures : Program.Ensures (chatAdapter uuid) now program state post)
    (quietly : ∀ error after, post (.error error) after → quiet after)
    (threw : ((change <$> program).run (chatAdapter uuid) now state).1 =
      .error error) :
    quiet ((change <$> program).run (chatAdapter uuid) now state).2 :=
  quietly _ _ (ends_of_threw ensures threw)

/-- A request that throws has changed no message and published nothing. -/
theorem threw_silently (conforms : Conforms uuid state)
    (served : ChatRequest × Time) (error : Failure)
    (threw : (complete uuid state served).1 = .error error) :
    Silent state (complete uuid state served).2 := by
  rcases served with ⟨request, now⟩
  cases request with
  | createDirectRoom draws requesterId targetUserId =>
      refine of_threw (CreateDirectRoom.execute_ends _ _) ?_ threw
      intro error after ends
      cases ends
      exact ⟨rfl, rfl⟩
  | createGroupRoom draws requesterId name memberIds =>
      refine of_threw
        (CreateGroupRoom.execute_ends conforms _ _ memberIds) ?_ threw
      intro error after ends
      cases ends <;> exact ⟨rfl, rfl⟩
  | addMember clock requesterId roomId userId role =>
      refine of_threw (AddMember.execute_ends _ _ _ _) ?_ threw
      intro error after ends
      cases ends
      exact ⟨rfl, rfl⟩
  | removeMember requesterId roomId targetUserId =>
      refine of_threw (RemoveMember.execute_ends _ _ _) ?_ threw
      intro error after ends
      cases ends
      exact ⟨rfl, rfl⟩
  | deleteRoom requesterId roomId =>
      refine of_threw (DeleteRoom.execute_ends _ _) ?_ threw
      intro error after ends
      cases ends
      exact ⟨rfl, rfl⟩
  | sendMessage draws input =>
      refine of_threw (SendMessage.execute_ends _ _) ?_ threw
      intro error after ends
      cases ends
      exact ⟨rfl, rfl⟩
  | editMessage clock requesterId messageId body =>
      refine of_threw (EditMessage.execute_ends _ _ _) ?_ threw
      intro error after ends
      cases ends
      exact ⟨rfl, rfl⟩
  | deleteMessage requesterId messageId =>
      refine of_threw (DeleteMessage.execute_ends _ _) ?_ threw
      intro error after ends
      cases ends
      exact ⟨rfl, rfl⟩
  | listMessages roomId requesterId before limit =>
      refine of_threw (ListMessages.execute_ends _ _ before limit) ?_ threw
      intro error after ends
      cases ends
      exact ⟨rfl, rfl⟩
  | markAsRead userId roomId messageId =>
      refine of_threw (MarkAsRead.execute_ends _ _ _) ?_ threw
      intro error after ends
      cases ends
      exact ⟨rfl, rfl⟩
  | typing userId roomId =>
      refine of_threw (handleChatTyping_ends _ _) ?_ threw
      intro error after ends
      cases ends
      exact ⟨rfl, rfl⟩

end Requests

/-! ## Runs -/

section Runs

variable {uuid : PgUuid} {start : ChatState} {message : Message}

/-- A message outlasts a run throughout which its room exists. -/
theorem exists_outlasts (sound : Sound uuid start)
    (stored : message ∈ start.messages) (requests : List (ChatRequest × Time))
    (room : Transition.Throughout (serve uuid)
      (fun state => ∃ room ∈ state.rooms, room.id = message.roomId) start
      requests) :
    ∃ later ∈ (Transition.run (serve uuid) start requests).messages,
      Outlasts message later := by
  induction requests generalizing start message with
  | nil => exact ⟨message, stored, .refl message⟩
  | cons served rest induction =>
      have here : ∃ room ∈ (serve uuid start served).rooms,
          room.id = message.roomId := by
        cases rest with
        | nil => exact room.2
        | cons _ _ => exact room.2.1
      obtain ⟨later, present, outlasts⟩ :=
        (integrity_serve sound.toConforms served).outlasts stored here
      have goesOn := room.2
      rw [← outlasts.roomId] at goesOn
      obtain ⟨last, lasts, outlastsLater⟩ :=
        induction (sound.serve served) present goesOn
      exact ⟨last, lasts, outlasts.trans outlastsLater⟩

/--
The integrity of stored messages.  In every state that a run of requests
reaches, the next request keeps the origin of every message, changes bodies and
deletions only as it may, and does nothing if it throws; and a message stays,
with its origin and its deletion, for as long as its room exists.
-/
theorem messages_intact (sound : Sound uuid start)
    (requests : List (ChatRequest × Time)) :
    let state := Transition.run (serve uuid) start requests
    (∀ served,
      Integrity uuid state (complete uuid state served).2 served ∧
        ∀ error, (complete uuid state served).1 = .error error →
          Silent state (complete uuid state served).2) ∧
      ∀ message ∈ state.messages, ∀ more,
        Transition.Throughout (serve uuid)
            (fun state => ∃ room ∈ state.rooms, room.id = message.roomId)
            state more →
          ∃ later ∈ (Transition.run (serve uuid) state more).messages,
            Outlasts message later := by
  intro state
  have soundThere : Sound uuid state := sound.run requests
  constructor
  · intro served
    exact ⟨integrity_serve soundThere.toConforms served,
      threw_silently soundThere.toConforms served⟩
  · intro message stored more room
    exact exists_outlasts soundThere stored more room

end Runs

/-- A message that the owner of a group sends to it. -/
def sampleMessage : Message :=
  SendMessage.newMessage { id := sampleMessageId, now := 2 }
    { roomId := sampleRoomId, senderId := sampleOwner, body := "draft" }

def sampleSent : List (ChatRequest × Time) :=
  [(.createGroupRoom { id := sampleRoomId, now := 1 } sampleOwner "team"
      [sampleMember], 1),
    (.sendMessage { id := sampleMessageId, now := 2 }
      { roomId := sampleRoomId, senderId := sampleOwner, body := "draft" }, 2)]

/-- The owner edits the message, and the member may not delete it. -/
def sampleChanges : List (ChatRequest × Time) :=
  [(.editMessage 3 sampleOwner sampleMessageId "final", 3),
    (.deleteMessage sampleMember sampleMessageId, 4)]

theorem messages_intact_sampleSent :
    let state := Transition.run (serve samplePgUuid)
      (sampleTables [sampleOwner, sampleMember]) sampleSent
    ∃ later ∈ (Transition.run (serve samplePgUuid) state
        sampleChanges).messages, Outlasts sampleMessage later := by
  have intact := messages_intact
    (sound_sampleTables samplePgUuid [sampleOwner, sampleMember]) sampleSent
  exact intact.2 sampleMessage (by decide) sampleChanges (by decide)

end ChatBackend.Chat.MessageIntegrity
