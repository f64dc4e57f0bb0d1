import ChatBackend.Chat.RoomUseCases

/-!
# The message use cases

Sending, editing, deleting, listing and acknowledging messages, and the typing
notice, as programs over the chat port.  Sending draws the id and the time of
the message after its checks; both are read synchronously, so they are drawn
before the program starts.

As for the rooms, each use case comes with the list of ways in which it ends.
-/

namespace ChatBackend.Chat.MessageUseCases

open Effects
open Relational
open Effects.Program
open ChatBackend.Chat.Store
open ChatBackend.Chat.Schema
open ChatBackend.Chat.RoomUseCases

/-! ## Dependencies -/

namespace messageRepo

def insert (message : Message) : ChatProgram Message :=
  ChatOp.await (.messageRepo (.insert message))

def findById (id : String) : ChatProgram (Option Message) :=
  ChatOp.await (.messageRepo (.findById id))

def listByRoom (roomId : String) (before : Option String) (limit : Nat) :
    ChatProgram (List Message) :=
  ChatOp.await (.messageRepo (.listByRoom roomId before limit))

def update (id : String) (patch : MessagePatch) : ChatProgram Message :=
  ChatOp.await (.messageRepo (.update id patch))

def softDelete (id : String) : ChatProgram Message :=
  ChatOp.await (.messageRepo (.softDelete id))

end messageRepo

def objectStorage.headObject (key : String) : ChatProgram Bool :=
  ChatOp.await (.headObject key)

def bus.publish (channel : Channel) (event : BusEvent) : ChatProgram Unit :=
  ChatOp.await (.publish channel event)

/-! ## Use cases -/

namespace SendMessage

/-- What the caller passes. -/
structure Input where
  roomId : String
  senderId : String
  body : String
  attachmentKey : Option String := none
  clientMessageId : Option String := none
  refId : Option String := none
deriving DecidableEq, Repr

/-- What a call draws once its checks have passed. -/
structure Draws where
  id : String
  now : Time
deriving DecidableEq, Repr

def newMessage (draws : Draws) (input : Input) : Message where
  id := draws.id
  roomId := input.roomId
  senderId := input.senderId
  body := input.body
  clientMessageId := input.clientMessageId
  attachmentKey := input.attachmentKey
  attachmentMeta := none
  editedAt := none
  deletedAt := none
  createdAt := draws.now

/-- The texts that a call asks the database to store. -/
def Input.texts (input : Input) : List (Option String) :=
  [some input.body, input.clientMessageId, input.attachmentKey]

/-- An attachment is looked up if its key is not empty. -/
def checkAttachment (attachmentKey : Option String) : ChatProgram Unit :=
  match attachmentKey.filter fun key => key ≠ "" with
  | none => .done ()
  | some key => do
      if ← objectStorage.headObject key then return ()
      else .fail (.conflictError
        "Attachment not found; upload it first via presign")

def execute (draws : Draws) (input : Input) : ChatProgram MessageDto := do
  match ← roomRepo.getMember input.roomId input.senderId with
  | none => .fail (.forbiddenError "Not a member of this room")
  | some _ =>
      checkAttachment input.attachmentKey
      let msg ← messageRepo.insert (newMessage draws input)
      roomRepo.bumpLastMessageAt input.roomId draws.now
      bus.publish (.room input.roomId)
        (.messageCreated msg.toMessageDto input.refId input.senderId)
      return msg.toMessageDto

end SendMessage

def EditMessage.execute (now : Time) (requesterId messageId body : String) :
    ChatProgram MessageDto := do
  match ← messageRepo.findById messageId with
  | none => .fail (.notFoundError "Message not found")
  | some msg =>
      if msg.deletedAt ≠ none then .fail (.notFoundError "Message not found")
      else if msg.senderId ≠ requesterId then
        .fail (.forbiddenError "Cannot edit another user's message")
      else if msg.body = body then return msg.toMessageDto
      else
        let updated ← messageRepo.update messageId
          { body := some body, editedAt := some (some now) }
        bus.publish (.room msg.roomId) (.messageEdited updated.toMessageDto)
        return updated.toMessageDto

namespace DeleteMessage

/-- Somebody else's message takes an admin or owner of its room. -/
def assertMayDelete (msg : Message) (requesterId : String) :
    ChatProgram Unit :=
  if msg.senderId ≠ requesterId then do
    match ← roomRepo.getMember msg.roomId requesterId with
    | none => .fail (.forbiddenError "Cannot delete another user's message")
    | some member =>
        if member.role = .member then
          .fail (.forbiddenError "Cannot delete another user's message")
        else return ()
  else .done ()

def execute (requesterId messageId : String) : ChatProgram Unit := do
  match ← messageRepo.findById messageId with
  | none => .fail (.notFoundError "Message not found")
  | some msg =>
      if msg.deletedAt ≠ none then .fail (.notFoundError "Message not found")
      else
        assertMayDelete msg requesterId
        let _ ← messageRepo.softDelete messageId
        bus.publish (.room msg.roomId) (.messageDeleted messageId msg.roomId)

end DeleteMessage

def ListMessages.execute (roomId requesterId : String)
    (before : Option String) (limit : Nat) : ChatProgram (List MessageDto) := do
  match ← roomRepo.getMember roomId requesterId with
  | none => .fail (.forbiddenError "Not a member of this room")
  | some _ =>
      let messages ← messageRepo.listByRoom roomId before limit
      return messages.map fun msg => msg.toMessageDto

def MarkAsRead.execute (userId roomId messageId : String) :
    ChatProgram Unit := do
  match ← roomRepo.getMember roomId userId with
  | none => .fail (.forbiddenError "Not a member of this room")
  | some _ =>
      match ← messageRepo.findById messageId with
      | none => .fail (.notFoundError "Message not found")
      | some msg =>
          if msg.roomId ≠ roomId then
            .fail (.notFoundError "Message not found")
          else
            roomRepo.setLastReadMessage roomId userId messageId
            bus.publish (.room roomId) (.messageRead roomId userId messageId)

/-- `handleChatTyping`; it answers whether it acknowledges. -/
def handleChatTyping (userId roomId : String) : ChatProgram Bool := do
  match ← roomRepo.getMember roomId userId with
  | none => return false
  | some _ =>
      bus.publish (.room roomId) (.userTyping roomId userId)
      return true

/-! ## How a request ends -/

/-- The tables after the publication of an event. -/
def published (state : ChatState) (channel : Channel) (event : BusEvent) :
    ChatState :=
  { state with published := state.published ++ [(channel, event)] }

section Endings

variable (uuid : PgUuid) (now : Time) (state : ChatState)

/-- The attachment of a message is checked by whether its key is known. -/
def Attached (attachmentKey : Option String) : Prop :=
  ∀ key, attachmentKey = some key → key ≠ "" → key ∈ state.objects

instance (attachmentKey : Option String) :
    Decidable (Attached state attachmentKey) :=
  match attachmentKey with
  | none => isTrue nofun
  | some key =>
      decidable_of_iff (key ≠ "" → key ∈ state.objects) (by simp [Attached])

/-- The tables after a send has stored its message or found it stored. -/
def SendMessage.sent (draws : SendMessage.Draws) (input : SendMessage.Input)
    (room : String) (messages : List Message) (dto : MessageDto) : ChatState :=
  published
    { state with
      rooms :=
        updateWhere (fun row => row.id = room)
          (fun row => { row with lastMessageAt := some draws.now }) state.rooms
      messages }
    (.room input.roomId) (.messageCreated dto input.refId input.senderId)

/-- The endings of `SendMessage`: a known client message id stores nothing. -/
inductive SendMessage.Ends (draws : SendMessage.Draws)
    (input : SendMessage.Input) :
    Except Failure MessageDto → ChatState → Prop where
  | throws (error : Failure) : Ends draws input (.error error) state
  | repeats (member : RoomMember) (row stored : Message)
      (membership :
        Membership uuid state input.roomId input.senderId member)
      (attached : Attached state input.attachmentKey)
      (reads : PgMessageRepository.readMessage uuid
        (SendMessage.newMessage draws input) = .ok row)
      (known : first
        (fun other => PgMessageRepository.sameClientKey other row)
        state.messages = some stored) :
      Ends draws input (.ok stored.toMessageDto)
        (SendMessage.sent state draws input member.roomId state.messages
          stored.toMessageDto)
  | stores (member : RoomMember) (row : Message)
      (membership :
        Membership uuid state input.roomId input.senderId member)
      (attached : Attached state input.attachmentKey)
      (reads : PgMessageRepository.readMessage uuid
        (SendMessage.newMessage draws input) = .ok row)
      (unknown : first
        (fun other => PgMessageRepository.sameClientKey other row)
        state.messages = none)
      (fits : PgMessageRepository.insertViolation state row = none) :
      Ends draws input (.ok row.toMessageDto)
        (SendMessage.sent state draws input member.roomId
          (state.messages ++ [row]) row.toMessageDto)

/-- The endings of `EditMessage`. -/
inductive EditMessage.Ends (requesterId messageId body : String) :
    Except Failure MessageDto → ChatState → Prop where
  | throws (error : Failure) :
      Ends requesterId messageId body (.error error) state
  | idle (msg : Message) (stored : msg ∈ state.messages) :
      Ends requesterId messageId body (.ok msg.toMessageDto) state
  | edits (msg : Message)
      (reads : uuid.read messageId = some msg.id)
      (stored : msg ∈ state.messages)
      (alive : msg.deletedAt = none)
      (own : msg.senderId = requesterId)
      (stores : storable body = true) (patch : MessagePatch)
      (sets : patch = { body := some body, editedAt := some (some now) }) :
      Ends requesterId messageId body
        (.ok (PgMessageRepository.patchMessage patch msg).toMessageDto)
        (published
          { state with
            messages :=
              updateWhere (fun row => row.id = msg.id)
                (PgMessageRepository.patchMessage patch) state.messages }
          (.room msg.roomId)
          (.messageEdited
            (PgMessageRepository.patchMessage patch msg).toMessageDto))

/-- The endings of `DeleteMessage`. -/
inductive DeleteMessage.Ends (requesterId messageId : String) :
    Except Failure Unit → ChatState → Prop where
  | throws (error : Failure) : Ends requesterId messageId (.error error) state
  | deletes (msg : Message)
      (reads : uuid.read messageId = some msg.id)
      (stored : msg ∈ state.messages)
      (alive : msg.deletedAt = none)
      (allowed : msg.senderId ≠ requesterId → ∃ member,
        Membership uuid state msg.roomId requesterId member ∧
          member.role ≠ .member) :
      Ends requesterId messageId (.ok ())
        (published
          { state with
            messages :=
              updateWhere (fun row => row.id = msg.id)
                (PgMessageRepository.blank now) state.messages }
          (.room msg.roomId) (.messageDeleted messageId msg.roomId))

/-- The endings of `ListMessages`. -/
inductive ListMessages.Ends (roomId requesterId : String)
    (before : Option String) (limit : Nat) :
    Except Failure (List MessageDto) → ChatState → Prop where
  | throws (error : Failure) :
      Ends roomId requesterId before limit (.error error) state
  | lists (member : RoomMember) (cursor : Option String)
      (membership : Membership uuid state roomId requesterId member)
      (reads : uuid.nullable (before.filter fun cursor => cursor ≠ "") =
        .ok cursor) :
      Ends roomId requesterId before limit
        (.ok ((PgMessageRepository.page state.messages member.roomId cursor
          limit).map fun msg => msg.toMessageDto))
        state

/-- The endings of `MarkAsRead`: the message is one of the room. -/
inductive MarkAsRead.Ends (userId roomId messageId : String) :
    Except Failure Unit → ChatState → Prop where
  | throws (error : Failure) :
      Ends userId roomId messageId (.error error) state
  | marks (member : RoomMember) (msg : Message)
      (membership : Membership uuid state roomId userId member)
      (stored : msg ∈ state.messages)
      (sameRoom : msg.roomId = roomId) :
      Ends userId roomId messageId (.ok ())
        (published
          { state with
            roomMembers :=
              updateWhere
                (fun row =>
                  row.roomId = member.roomId ∧ row.userId = member.userId)
                (fun row => { row with lastReadMessageId := some msg.id })
                state.roomMembers }
          (.room roomId) (.messageRead roomId userId messageId))

/-- The endings of `handleChatTyping`. -/
inductive handleChatTyping.Ends (userId roomId : String) :
    Except Failure Bool → ChatState → Prop where
  | throws (error : Failure) : Ends userId roomId (.error error) state
  | ignores : Ends userId roomId (.ok false) state
  | announces (member : RoomMember)
      (membership : Membership uuid state roomId userId member) :
      Ends userId roomId (.ok true)
        (published state (.room roomId) (.userTyping roomId userId))

end Endings

section

variable {uuid : PgUuid} {now : Time} {state : ChatState} {Result : Type}
  {post : Except Failure Result → ChatState → Prop}

/-! ### Rules for single operations -/

/-- A lookup of a message throws, finds nothing, or finds the row of the id. -/
theorem ensures_findMessage {spelled : String}
    {continuation : Option Message → ChatProgram Result}
    (throws : ∀ error, post (.error error) state)
    (missing :
      Ensures (chatAdapter uuid) now (continuation none) state post)
    (found : ∀ msg, uuid.read spelled = some msg.id →
      first (fun row => row.id = msg.id) state.messages = some msg →
        Ensures (chatAdapter uuid) now (continuation (some msg)) state post) :
    Ensures (chatAdapter uuid) now
      (messageRepo.findById spelled >>= continuation) state post := by
  apply Ensures.call
  · intro error _
    exact throws error
  · intro answer after answered
    rcases findMessageById_eq_ok_iff.mp answered with ⟨id, reading, looked, rfl⟩
    cases answer with
    | none => exact missing
    | some msg =>
        have same : msg.id = id := (condition_of_first looked :)
        subst same
        exact found msg reading looked

theorem ensures_checkAttachment {attachmentKey : Option String}
    {continuation : Unit → ChatProgram Result}
    (throws : ¬ Attached state attachmentKey →
      ∀ error, post (.error error) state)
    (passes : Attached state attachmentKey →
      Ensures (chatAdapter uuid) now (continuation ()) state post) :
    Ensures (chatAdapter uuid) now
      (SendMessage.checkAttachment attachmentKey >>= continuation)
      state post := by
  cases attachmentKey with
  | none => exact passes nofun
  | some key =>
      by_cases empty : key = ""
      · simp only [SendMessage.checkAttachment, Option.filter, empty]
        exact passes fun other given notEmpty =>
          absurd (Option.some.inj given ▸ empty) notEmpty
      · simp only [SendMessage.checkAttachment, Option.filter, ne_eq, empty,
          not_false_eq_true, decide_true, if_true]
        refine Ensures.call_ok (headObject_eq_ok_iff.mpr ⟨rfl, rfl⟩) ?_
        by_cases present : key ∈ state.objects
        · simp only [present]
          exact passes fun other given _ => Option.some.inj given ▸ present
        · simp only [present]
          apply Ensures.fail
          apply throws
          exact fun attached => present (attached key rfl empty)

/-- The bump of a room whose id has been read cannot fail. -/
theorem ensures_bump {roomId room : String} {at_ : Time}
    {continuation : Unit → ChatProgram Result}
    (roomRead : uuid.read roomId = some room)
    (rest : Ensures (chatAdapter uuid) now (continuation ())
      { state with
        rooms :=
          updateWhere (fun row => row.id = room)
            (fun row => { row with lastMessageAt := some at_ }) state.rooms }
      post) :
    Ensures (chatAdapter uuid) now
      (roomRepo.bumpLastMessageAt roomId at_ >>= continuation) state post := by
  exact Ensures.call_ok
    (bumpLastMessageAt_eq_ok_iff.mpr ⟨room, roomRead, rfl⟩) rest

/-! ### The endings -/

theorem SendMessage.execute_ends
    (draws : SendMessage.Draws) (input : SendMessage.Input) :
    Ensures (chatAdapter uuid) now (SendMessage.execute draws input) state
      (SendMessage.Ends uuid state draws input) := by
  refine ensures_getMember .throws (Ensures.fail (.throws _)) ?_
  intro member membership
  refine ensures_checkAttachment (fun _ => .throws) ?_
  intro attached
  apply Ensures.call
  · intro error _
    exact .throws error
  intro stored after answered
  rcases insertMessage_eq_ok_iff.mp answered with ⟨row, reads, known | unknown⟩
  · rcases known with ⟨known, rfl⟩
    refine ensures_bump membership.room ?_
    exact SendMessage.Ends.repeats member row stored membership attached reads
      known
  · rcases unknown with ⟨unknown, fits, rfl, rfl⟩
    refine ensures_bump membership.room ?_
    exact SendMessage.Ends.stores member row membership attached reads unknown
      fits

/-- The row of a message whose ids can be read and whose texts stored. -/
theorem SendMessage.reads {draws : SendMessage.Draws}
    {input : SendMessage.Input} {member : RoomMember} {id : String}
    (membership : Membership uuid state input.roomId input.senderId member)
    (drawn : uuid.read draws.id = some id)
    (stores : Storable input.texts) :
    PgMessageRepository.readMessage uuid (SendMessage.newMessage draws input) =
      .ok { SendMessage.newMessage draws input with
        id, roomId := member.roomId, senderId := member.userId } :=
  readMessage_eq_ok_iff.mpr
    ⟨id, drawn, member.roomId, membership.room, member.userId,
      membership.user, stores, rfl⟩

/-- A send that passes its checks goes on with the insertion. -/
theorem SendMessage.ensures_insert {draws : SendMessage.Draws}
    {input : SendMessage.Input} {member : RoomMember}
    {last : Except Failure MessageDto → ChatState → Prop}
    (conforms : Conforms uuid state)
    (membership : Membership uuid state input.roomId input.senderId member)
    (attached : Attached state input.attachmentKey)
    {msg : Message} {messages : List Message}
    (inserted : chatAdapter uuid
      (.messageRepo (.insert (SendMessage.newMessage draws input))) now state =
        .ok (msg, { state with messages }))
    (sent : last (.ok msg.toMessageDto)
      (SendMessage.sent state draws input member.roomId messages
        msg.toMessageDto)) :
    Ensures (chatAdapter uuid) now (SendMessage.execute draws input) state
      last := by
  refine ensures_getMember_of conforms membership ?_
  refine ensures_checkAttachment (fun missing => absurd attached missing) ?_
  intro _
  apply Ensures.call_ok inserted
  exact ensures_bump membership.room sent

/-- A known client message id returns the message that it was given to. -/
theorem SendMessage.execute_repeats {draws : SendMessage.Draws}
    {input : SendMessage.Input} {member : RoomMember} {row stored : Message}
    (conforms : Conforms uuid state)
    (membership : Membership uuid state input.roomId input.senderId member)
    (attached : Attached state input.attachmentKey)
    (reads : PgMessageRepository.readMessage uuid
      (SendMessage.newMessage draws input) = .ok row)
    (known : first (fun other => PgMessageRepository.sameClientKey other row)
      state.messages = some stored) :
    Ensures (chatAdapter uuid) now (SendMessage.execute draws input) state
      fun outcome after => outcome = .ok stored.toMessageDto ∧
        after = SendMessage.sent state draws input member.roomId
          state.messages stored.toMessageDto :=
  SendMessage.ensures_insert conforms membership attached
    (insertMessage_eq_ok_iff.mpr ⟨row, reads, .inl ⟨known, rfl⟩⟩) ⟨rfl, rfl⟩

/-- What a member sends under a fresh id arrives. -/
theorem SendMessage.execute_returns {draws : SendMessage.Draws}
    {input : SendMessage.Input} {member : RoomMember} {id : String}
    (conforms : Conforms uuid state)
    (membership : Membership uuid state input.roomId input.senderId member)
    (attached : Attached state input.attachmentKey)
    (drawn : uuid.read draws.id = some id)
    (fresh : ∀ message ∈ state.messages, message.id ≠ id)
    (stores : Storable input.texts) :
    Ensures (chatAdapter uuid) now (SendMessage.execute draws input) state
      fun outcome _ => ∃ dto, outcome = .ok dto := by
  have reads := SendMessage.reads membership drawn stores
  have fits : PgMessageRepository.insertViolation state
      { SendMessage.newMessage draws input with
        id, roomId := member.roomId, senderId := member.userId } = none :=
    insertViolation_eq_none_iff.mpr
      ⟨fresh, conforms.memberRooms member membership.stored,
        conforms.memberUsers member membership.stored⟩
  cases known : first (fun other => PgMessageRepository.sameClientKey other
      { SendMessage.newMessage draws input with
        id, roomId := member.roomId, senderId := member.userId })
      state.messages with
  | some stored =>
      exact SendMessage.ensures_insert conforms membership attached
        (insertMessage_eq_ok_iff.mpr ⟨_, reads, .inl ⟨known, rfl⟩⟩) ⟨_, rfl⟩
  | none =>
      exact SendMessage.ensures_insert conforms membership attached
        (insertMessage_eq_ok_iff.mpr
          ⟨_, reads, .inr ⟨known, fits, rfl, rfl⟩⟩) ⟨_, rfl⟩

theorem EditMessage.execute_ends {clock : Time}
    (requesterId messageId body : String) :
    Ensures (chatAdapter uuid) clock
      (EditMessage.execute now requesterId messageId body) state
      (EditMessage.Ends uuid now state requesterId messageId body) := by
  refine ensures_findMessage .throws (Ensures.fail (.throws _)) ?_
  intro msg reads found
  have stored := mem_of_first found
  by_cases dead : msg.deletedAt ≠ none
  · simp only [if_pos dead]
    exact Ensures.fail (.throws _)
  by_cases foreign : msg.senderId ≠ requesterId
  · simp only [if_neg dead, if_pos foreign]
    exact Ensures.fail (.throws _)
  by_cases same : msg.body = body
  · simp only [if_neg dead, if_neg foreign, if_pos same]
    exact Ensures.done (.idle msg stored)
  simp only [if_neg dead, if_neg foreign, if_neg same]
  apply Ensures.call
  · intro error _
    exact .throws error
  intro updated after answered
  obtain ⟨stores, id, reading, row, looked, rfl, rfl⟩ :=
    updateMessage_eq_ok_iff.mp answered
  cases reads.symm.trans reading
  cases found.symm.trans looked
  exact EditMessage.Ends.edits msg reads stored (not_not.mp dead)
    (not_not.mp foreign) stores _ rfl

theorem ensures_assertMayDelete {msg : Message} {requesterId : String}
    {continuation : Unit → ChatProgram Result}
    (throws : ∀ error, post (.error error) state)
    (passes : (msg.senderId ≠ requesterId → ∃ member,
        Membership uuid state msg.roomId requesterId member ∧
          member.role ≠ .member) →
      Ensures (chatAdapter uuid) now (continuation ()) state post) :
    Ensures (chatAdapter uuid) now
      (DeleteMessage.assertMayDelete msg requesterId >>= continuation)
      state post := by
  unfold DeleteMessage.assertMayDelete
  by_cases foreign : msg.senderId ≠ requesterId
  · rw [if_pos foreign, bind_assoc]
    refine ensures_getMember throws (Ensures.fail (throws _)) ?_
    intro member membership
    by_cases plain : member.role = .member
    · simp only [if_pos plain]
      exact Ensures.fail (throws _)
    · simp only [if_neg plain]
      exact passes fun _ => ⟨member, membership, plain⟩
  · rw [if_neg foreign]
    exact passes fun different => absurd different foreign

theorem DeleteMessage.execute_ends (requesterId messageId : String) :
    Ensures (chatAdapter uuid) now
      (DeleteMessage.execute requesterId messageId) state
      (DeleteMessage.Ends uuid now state requesterId messageId) := by
  refine ensures_findMessage .throws (Ensures.fail (.throws _)) ?_
  intro msg reads found
  by_cases dead : msg.deletedAt ≠ none
  · simp only [if_pos dead]
    exact Ensures.fail (.throws _)
  simp only [if_neg dead]
  refine ensures_assertMayDelete .throws ?_
  intro allowed
  refine Ensures.call_ok
    (softDelete_eq_ok_iff.mpr ⟨msg.id, reads, msg, found, rfl, rfl⟩) ?_
  exact DeleteMessage.Ends.deletes msg reads (mem_of_first found)
    (not_not.mp dead) allowed

theorem ListMessages.execute_ends (roomId requesterId : String)
    (before : Option String) (limit : Nat) :
    Ensures (chatAdapter uuid) now
      (ListMessages.execute roomId requesterId before limit) state
      (ListMessages.Ends uuid state roomId requesterId before limit) := by
  refine ensures_getMember .throws (Ensures.fail (.throws _)) ?_
  intro member membership
  apply Ensures.call
  · intro error _
    exact .throws error
  intro answer after answered
  obtain ⟨room, reading, cursor, reads, rfl, rfl⟩ :=
    listByRoom_eq_ok_iff.mp answered
  cases membership.room.symm.trans reading
  exact Ensures.done (.lists member cursor membership reads)

/-- A member can list the messages below a cursor that the database reads. -/
theorem ListMessages.execute_lists {roomId requesterId : String}
    {before cursor : Option String} {member : RoomMember}
    (conforms : Conforms uuid state)
    (membership : Membership uuid state roomId requesterId member)
    (reads : uuid.nullable (before.filter fun cursor => cursor ≠ "") =
      .ok cursor) (limit : Nat) :
    Ensures (chatAdapter uuid) now
      (ListMessages.execute roomId requesterId before limit) state
      fun outcome after =>
        outcome = .ok ((PgMessageRepository.page state.messages member.roomId
          cursor limit).map fun msg => msg.toMessageDto) ∧ after = state := by
  refine ensures_getMember_of conforms membership ?_
  refine Ensures.call_ok
    (listByRoom_eq_ok_iff.mpr
      ⟨member.roomId, membership.room, cursor, reads, rfl, rfl⟩) ?_
  exact Ensures.done ⟨rfl, rfl⟩

/-- A member can list the newest messages. -/
theorem ListMessages.execute_returns {roomId requesterId : String}
    {member : RoomMember} (conforms : Conforms uuid state)
    (membership : Membership uuid state roomId requesterId member)
    (limit : Nat) :
    Ensures (chatAdapter uuid) now
      (ListMessages.execute roomId requesterId none limit) state
      fun outcome after =>
        outcome = .ok ((PgMessageRepository.page state.messages member.roomId
          none limit).map fun msg => msg.toMessageDto) ∧ after = state :=
  ListMessages.execute_lists conforms membership rfl limit

theorem MarkAsRead.execute_ends (userId roomId messageId : String) :
    Ensures (chatAdapter uuid) now
      (MarkAsRead.execute userId roomId messageId) state
      (MarkAsRead.Ends uuid state userId roomId messageId) := by
  refine ensures_getMember .throws (Ensures.fail (.throws _)) ?_
  intro member membership
  refine ensures_findMessage .throws (Ensures.fail (.throws _)) ?_
  intro msg reads found
  have stored := mem_of_first found
  by_cases elsewhere : msg.roomId ≠ roomId
  · simp only [if_pos elsewhere]
    exact Ensures.fail (.throws _)
  simp only [if_neg elsewhere]
  have marked :
      chatAdapter uuid
          (.roomRepo (.setLastReadMessage roomId userId messageId)) now state =
        .ok ((), { state with
          roomMembers :=
            updateWhere
              (fun row =>
                row.roomId = member.roomId ∧ row.userId = member.userId)
              (fun row => { row with lastReadMessageId := some msg.id })
              state.roomMembers }) :=
    setLastReadMessage_eq_ok_iff.mpr
      ⟨msg.id, reads, member.roomId, membership.room, member.userId,
        membership.user, fun dangling => dangling.2 ⟨msg, stored, rfl⟩, rfl⟩
  refine Ensures.call_ok marked ?_
  exact MarkAsRead.Ends.marks member msg membership stored
    (not_not.mp elsewhere)

theorem handleChatTyping_ends (userId roomId : String) :
    Ensures (chatAdapter uuid) now (handleChatTyping userId roomId) state
      (handleChatTyping.Ends uuid state userId roomId) := by
  refine ensures_getMember .throws (Ensures.done .ignores) ?_
  intro member membership
  exact handleChatTyping.Ends.announces member membership

end

end ChatBackend.Chat.MessageUseCases
