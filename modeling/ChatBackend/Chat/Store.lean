import ChatBackend.Users

/-!
# The chat tables and the operations on them

The port of the room and message use cases: the repositories of users, rooms
and messages, the message bus and the object storage.  The adapter gives the
SQL statements of the repositories on the tables; `createDm` and `createGroup`
issue two statements each, and every statement is an operation of its own.

The id columns have type `uuid`.  A request may spell an id in any way the
database reads, so the adapter reads every id it is given and compares the
results.
-/

namespace ChatBackend.Chat.Store

open Effects
open Relational

/-! ## Ids -/

/--
How the database reads the text of a `uuid`: into its canonical spelling, which
reads as itself, or not at all.
-/
structure PgUuid where
  read : String → Option String
  canonical : ∀ spelled id, read spelled = some id → read id = some id

/-- A `uuid` parameter of a statement. -/
def PgUuid.param (uuid : PgUuid) (spelled : String) :
    Except Failure String :=
  match uuid.read spelled with
  | some id => .ok id
  | none => .error (.databaseError .invalidUuid)

/-- A nullable `uuid` parameter. -/
def PgUuid.nullable (uuid : PgUuid) :
    Option String → Except Failure (Option String)
  | none => .ok none
  | some spelled => (uuid.param spelled).map some

/-! ## Rows -/

inductive RoomKind where
  | dm
  | group
deriving DecidableEq, Repr

inductive RoomRole where
  | owner
  | admin
  | member
deriving DecidableEq, Repr

/-- What the outside sees of a room. -/
structure RoomDto where
  id : String
  kind : RoomKind
  name : Option String
  createdBy : Option String
  lastMessageAt : Option Time
  createdAt : Time
deriving DecidableEq, Repr

/-- A row of the `rooms` table. -/
structure Room extends RoomDto where
  dmKey : Option String
deriving DecidableEq, Repr

/-- What the outside sees of a member of a room. -/
structure RoomMemberDto where
  userId : String
  role : RoomRole
  joinedAt : Time
  lastReadMessageId : Option String
  mutedUntil : Option Time
deriving DecidableEq, Repr

/-- A row of the `room_members` table. -/
structure RoomMember extends RoomMemberDto where
  roomId : String
deriving DecidableEq, Repr

/-- What the outside sees of a message. -/
structure MessageDto where
  id : String
  roomId : String
  senderId : String
  body : String
  attachmentKey : Option String
  attachmentMeta : Option String
  editedAt : Option Time
  deletedAt : Option Time
  createdAt : Time
deriving DecidableEq, Repr

/-- A row of the `messages` table. -/
structure Message extends MessageDto where
  clientMessageId : Option String
deriving DecidableEq, Repr

/-- The fields of a message that an update sets; an absent field is kept. -/
structure MessagePatch where
  body : Option String := none
  editedAt : Option (Option Time) := none
deriving DecidableEq, Repr

/-! ## Events -/

/-- The channels of the message bus, `room:` followed by an id among them. -/
inductive Channel where
  | room (roomId : String)
  | presenceGlobal
deriving DecidableEq, Repr

inductive BusEvent where
  | messageCreated (message : MessageDto) (refId : Option String)
      (originUserId : String)
  | messageEdited (message : MessageDto)
  | messageDeleted (messageId roomId : String)
  | messageRead (roomId userId messageId : String)
  | userTyping (roomId userId : String)
  | presenceOnline (userId : String) (ts : Time)
  | presenceOffline (userId : String) (ts : Time)
deriving DecidableEq, Repr

/-- The chat part of the database, the object storage, and what was published. -/
structure ChatState where
  users : List User
  rooms : List Room
  roomMembers : List RoomMember
  messages : List Message
  objects : List String
  published : List (Channel × BusEvent)
deriving DecidableEq, Repr

/-! ## The port -/

/-- The statements of `RoomRepository`. -/
inductive RoomOp where
  | insertDm (room : Room)
  | insertDmMembers (memberA memberB : RoomMember)
  | insertGroup (room : Room)
  | findById (id : String)
  | findByDmKey (dmKey : Option String)
  | insertMember (member : RoomMember)
  | removeMember (roomId userId : String)
  | getMember (roomId userId : String)
  | setLastReadMessage (roomId userId messageId : String)
  | bumpLastMessageAt (roomId : String) (at_ : Time)
  | deleteRoom (id : String)
deriving DecidableEq

abbrev RoomOp.Answer : RoomOp → Type
  | .insertDm _ => Option Room
  | .insertDmMembers _ _ => Unit
  | .insertGroup _ => Room
  | .findById _ => Option Room
  | .findByDmKey _ => Option Room
  | .insertMember _ => RoomMember
  | .removeMember _ _ => Unit
  | .getMember _ _ => Option RoomMember
  | .setLastReadMessage _ _ _ => Unit
  | .bumpLastMessageAt _ _ => Unit
  | .deleteRoom _ => Unit

/-- The statements of `MessageRepository`. -/
inductive MessageOp where
  | insert (message : Message)
  | findById (id : String)
  | listByRoom (roomId : String) (before : Option String) (limit : Nat)
  | update (id : String) (patch : MessagePatch)
  | softDelete (id : String)
deriving DecidableEq

abbrev MessageOp.Answer : MessageOp → Type
  | .insert _ => Message
  | .findById _ => Option Message
  | .listByRoom _ _ _ => List Message
  | .update _ _ => Message
  | .softDelete _ => Message

/-- What the room and message use cases await. -/
inductive ChatOp where
  | findUser (id : String)
  | roomRepo (op : RoomOp)
  | messageRepo (op : MessageOp)
  | headObject (key : String)
  | publish (channel : Channel) (event : BusEvent)
deriving DecidableEq

abbrev ChatOp.Answer : ChatOp → Type
  | .findUser _ => Option User
  | .roomRepo op => op.Answer
  | .messageRepo op => op.Answer
  | .headObject _ => Bool
  | .publish _ _ => Unit

abbrev ChatPort : Port where
  Op := ChatOp
  Answer := ChatOp.Answer

/-- A use case over the chat port. -/
abbrev ChatProgram (Result : Type) := Program ChatPort Failure Result

/-- Await one operation of the port. -/
abbrev ChatOp.await (op : ChatOp) : ChatProgram op.Answer :=
  @Program.perform ChatPort Failure op

/-! ## `PgRoomRepository` -/

namespace PgRoomRepository

/-- The first constraint of `rooms` that an insertion would break. -/
def roomViolation (state : ChatState) (row : Room) : Option DatabaseError :=
  if ∃ other ∈ state.rooms, other.id = row.id then
    some (.uniqueViolation "rooms_pkey")
  else if row.dmKey ≠ none ∧ ∃ other ∈ state.rooms, other.dmKey = row.dmKey then
    some (.uniqueViolation "rooms_dm_key_key")
  else if ∃ creator ∈ row.createdBy, ¬ ∃ user ∈ state.users, user.id = creator then
    some (.foreignKeyViolation "rooms_created_by_fkey")
  else none

/-- The first reference of a `room_members` row that leads nowhere. -/
def memberDangling (state : ChatState) (row : RoomMember) :
    Option DatabaseError :=
  if ¬ ∃ room ∈ state.rooms, room.id = row.roomId then
    some (.foreignKeyViolation "room_members_room_id_fkey")
  else if ¬ ∃ user ∈ state.users, user.id = row.userId then
    some (.foreignKeyViolation "room_members_user_id_fkey")
  else if ∃ read ∈ row.lastReadMessageId,
      ¬ ∃ message ∈ state.messages, message.id = read then
    some (.foreignKeyViolation "fk_last_read_message")
  else none

/-- The primary key of `room_members`. -/
def sameKey (left right : RoomMember) : Prop :=
  left.roomId = right.roomId ∧ left.userId = right.userId

instance (left right : RoomMember) : Decidable (sameKey left right) :=
  inferInstanceAs (Decidable (_ ∧ _))

/--
The room as the columns store it.  The key of a direct room is made of ids that
the database has read.
-/
def readRoom (uuid : PgUuid) (room : Room) : Except Failure Room := do
  let id ← uuid.param room.id
  requireStorable [room.name]
  let createdBy ← uuid.nullable room.createdBy
  return { room with id, createdBy }

/-- The ids of a member as the columns store them. -/
def readMember (uuid : PgUuid) (member : RoomMember) :
    Except Failure RoomMember := do
  let roomId ← uuid.param member.roomId
  let userId ← uuid.param member.userId
  let lastReadMessageId ← uuid.nullable member.lastReadMessageId
  return { member with roomId, userId, lastReadMessageId }

/-- `INSERT INTO rooms` of a row whose ids have been read. -/
def insertRoom (state : ChatState) (row : Room) :
    Except Failure (Room × ChatState) :=
  match roomViolation state row with
  | some cause => .error (.databaseError cause)
  | none => .ok (row, { state with rooms := state.rooms ++ [row] })

/-- `ON CONFLICT DO NOTHING` -/
def insertIgnoring (row : RoomMember) (rows : List RoomMember) :
    List RoomMember :=
  if ∃ other ∈ rows, sameKey other row then rows else rows ++ [row]

/-- `ON DELETE SET NULL` for the messages that the deletion of a room removes. -/
def clearPointer (messages : List Message) (roomId : String)
    (row : RoomMember) : RoomMember :=
  if ∃ message ∈ messages, message.roomId = roomId ∧
      row.lastReadMessageId = some message.id then
    { row with lastReadMessageId := none }
  else row

/-- `DELETE FROM rooms`, with `ON DELETE CASCADE` for members and messages. -/
def cascade (state : ChatState) (roomId : String) : ChatState :=
  { state with
    rooms := deleteWhere (fun row => row.id = roomId) state.rooms
    roomMembers :=
      (deleteWhere (fun row => row.roomId = roomId) state.roomMembers).map
        (clearPointer state.messages roomId)
    messages := deleteWhere (fun row => row.roomId = roomId) state.messages }

/-- The statements of the repository. -/
def handle (uuid : PgUuid) (state : ChatState) :
    (op : RoomOp) → Except Failure (op.Answer × ChatState)
  | .insertDm room => do
      let row ← readRoom uuid room
      -- `ON CONFLICT (dm_key) DO NOTHING`
      if row.dmKey ≠ none ∧ ∃ other ∈ state.rooms, other.dmKey = row.dmKey then
        return (none, state)
      let (created, after) ← insertRoom state row
      return (some created, after)
  | .insertDmMembers memberA memberB => do
      let rowA ← readMember uuid memberA
      let rowB ← readMember uuid memberB
      match (memberDangling state rowA).or (memberDangling state rowB) with
      | some cause => .error (.databaseError cause)
      | none =>
          return ((), { state with
            roomMembers :=
              insertIgnoring rowB (insertIgnoring rowA state.roomMembers) })
  | .insertGroup room => do
      let row ← readRoom uuid room
      insertRoom state row
  | .findById id => do
      let id ← uuid.param id
      return (first (fun row => row.id = id) state.rooms, state)
  | .findByDmKey dmKey =>
      .ok
        (first (fun row => row.dmKey ≠ none ∧ row.dmKey = dmKey) state.rooms,
          state)
  | .insertMember member => do
      let row ← readMember uuid member
      if ∃ other ∈ state.roomMembers, sameKey other row then
        .error (.databaseError (.uniqueViolation "room_members_pkey"))
      else
        match memberDangling state row with
        | some cause => .error (.databaseError cause)
        | none =>
            return (row,
              { state with roomMembers := state.roomMembers ++ [row] })
  | .removeMember roomId userId => do
      let room ← uuid.param roomId
      let user ← uuid.param userId
      return ((), { state with
        roomMembers :=
          deleteWhere (fun row => row.roomId = room ∧ row.userId = user)
            state.roomMembers })
  | .getMember roomId userId => do
      let room ← uuid.param roomId
      let user ← uuid.param userId
      let found :=
        first (fun row => row.roomId = room ∧ row.userId = user)
          state.roomMembers
      return (found, state)
  | .setLastReadMessage roomId userId messageId => do
      let message ← uuid.param messageId
      let room ← uuid.param roomId
      let user ← uuid.param userId
      if (∃ row ∈ state.roomMembers, row.roomId = room ∧ row.userId = user) ∧
          ¬ ∃ row ∈ state.messages, row.id = message then
        .error (.databaseError (.foreignKeyViolation "fk_last_read_message"))
      else
        return ((), { state with
          roomMembers :=
            updateWhere (fun row => row.roomId = room ∧ row.userId = user)
              (fun row => { row with lastReadMessageId := some message })
              state.roomMembers })
  | .bumpLastMessageAt roomId at_ => do
      let room ← uuid.param roomId
      return ((), { state with
        rooms :=
          updateWhere (fun row => row.id = room)
            (fun row => { row with lastMessageAt := some at_ })
            state.rooms })
  | .deleteRoom id => do
      let room ← uuid.param id
      return ((), cascade state room)

end PgRoomRepository

/-! ## `PgMessageRepository` -/

namespace PgMessageRepository

/-- The first constraint of `messages` that an insertion would break. -/
def insertViolation (state : ChatState) (row : Message) :
    Option DatabaseError :=
  if ∃ other ∈ state.messages, other.id = row.id then
    some (.uniqueViolation "messages_pkey")
  else if ¬ ∃ room ∈ state.rooms, room.id = row.roomId then
    some (.foreignKeyViolation "messages_room_id_fkey")
  else if ¬ ∃ user ∈ state.users, user.id = row.senderId then
    some (.foreignKeyViolation "messages_sender_id_fkey")
  else none

/-- The texts of a message. -/
def texts (message : Message) : List (Option String) :=
  [some message.body, message.clientMessageId, message.attachmentKey]

/-- The message as the columns store it. -/
def readMessage (uuid : PgUuid) (message : Message) :
    Except Failure Message := do
  let id ← uuid.param message.id
  let roomId ← uuid.param message.roomId
  let senderId ← uuid.param message.senderId
  requireStorable (texts message)
  return { message with id, roomId, senderId }

/-- The partial unique index on the sender and a given client message id. -/
def sameClientKey (left right : Message) : Prop :=
  left.clientMessageId ≠ none ∧ left.senderId = right.senderId ∧
    left.clientMessageId = right.clientMessageId

instance (left right : Message) : Decidable (sameClientKey left right) :=
  inferInstanceAs (Decidable (_ ∧ _ ∧ _))

/-- `SET body = ..., edited_at = ...` -/
def patchMessage (patch : MessagePatch) (message : Message) : Message :=
  { message with
    body := patch.body.getD message.body
    editedAt := patch.editedAt.getD message.editedAt }

/-- `SET deleted_at = now(), body = '', attachment_key = NULL, ...` -/
def blank (now : Time) (message : Message) : Message :=
  { message with
    deletedAt := some now
    body := ""
    attachmentKey := none
    attachmentMeta := none }

/-- `UPDATE messages ... WHERE id = ... RETURNING *` -/
def updateById (state : ChatState) (id : String)
    (change : Message → Message) : Except Failure (Message × ChatState) :=
  match first (fun row => row.id = id) state.messages with
  -- `mapRow(row!)` of an update that returned no row
  | none => .error .typeError
  | some row =>
      .ok (change row, { state with
        messages :=
          updateWhere (fun row => row.id = id) change state.messages })

/-- The rows of a page, newest id first. -/
def page (messages : List Message) (roomId : String)
    (before : Option String) (limit : Nat) : List Message :=
  ((messages.filter fun row =>
      decide (row.roomId = roomId) &&
        before.all fun id => decide (row.id < id)).mergeSort
    fun left right => decide (¬ left.id < right.id)).take limit

/-- The statements of the repository. -/
def handle (uuid : PgUuid) (now : Time) (state : ChatState) :
    (op : MessageOp) → Except Failure (op.Answer × ChatState)
  | .insert message => do
      let row ← readMessage uuid message
      match first (fun other => sameClientKey other row) state.messages with
      -- `DO UPDATE SET created_at = messages.created_at` keeps the stored row
      | some stored => return (stored, state)
      | none =>
          match insertViolation state row with
          | some cause => .error (.databaseError cause)
          | none =>
              return (row, { state with messages := state.messages ++ [row] })
  | .findById id => do
      let id ← uuid.param id
      return (first (fun row => row.id = id) state.messages, state)
  | .listByRoom roomId before limit => do
      let room ← uuid.param roomId
      -- an empty cursor is falsy
      let before ← uuid.nullable (before.filter fun cursor => cursor ≠ "")
      return (page state.messages room before limit, state)
  | .update id patch => do
      requireStorable [patch.body]
      let id ← uuid.param id
      updateById state id (patchMessage patch)
  | .softDelete id => do
      let id ← uuid.param id
      updateById state id (blank now)

end PgMessageRepository

/-! ## The adapter -/

/-- The chat port on the chat tables; the input is the database clock. -/
def chatAdapter (uuid : PgUuid) : Adapter ChatPort Time ChatState Failure
  | .findUser id, _, state => do
      let id ← uuid.param id
      return (first (fun row => row.id = id) state.users, state)
  | .roomRepo op, _, state => PgRoomRepository.handle uuid state op
  | .messageRepo op, now, state => PgMessageRepository.handle uuid now state op
  | .headObject key, _, state => .ok (decide (key ∈ state.objects), state)
  | .publish channel event, _, state =>
      .ok ((), { state with
        published := state.published ++ [(channel, event)] })

end ChatBackend.Chat.Store
