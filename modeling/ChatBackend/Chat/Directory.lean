import ChatBackend.Chat.Requests
import ChatBackend.Ws.PresenceStore

/-!
# The directory of rooms and users

The room and user use cases that read more than the chat port offers: the
details of a room, the rooms of a user, the users with their presence, and the
profile that a user updates.  Their port contains the chat port, so that the
requests of both kinds run over one state: the tables and the presence store.

The collation of the database and the error with which its client rejects an
update that sets no column are not those of the repository.
-/

namespace ChatBackend.Chat.Directory

open Effects
open Relational
open Effects.Program
open ChatBackend.Chat.Store
open ChatBackend.Chat.Schema
open ChatBackend.Chat.RoomUseCases
open ChatBackend.Chat.MessageUseCases
open ChatBackend.Chat.Requests
open ChatBackend.Ws.PresenceStore

/-! ## The port -/

/-- What the use cases rely on of the database and its client. -/
structure Postgres extends PgUuid where
  /-- Whether a text sorts before another one or with it. -/
  collation : String → String → Bool
  /-- The rejection of `UPDATE` with no columns. -/
  noColumns : Failure

/-- The tables and the presence store. -/
structure DirectoryState where
  tables : ChatState
  presence : PresenceState

inductive DirectoryOp where
  | chat (op : ChatOp)
  | listForUser (userId : String)
  | listMembers (roomId : String)
  | listAll (excludeId : String)
  | updateUser (id : String) (patch : UserPatch)
  | listOnline (userIds : List String)
deriving DecidableEq

abbrev DirectoryOp.Answer : DirectoryOp → Type
  | .chat op => op.Answer
  | .listForUser _ => List Room
  | .listMembers _ => List RoomMember
  | .listAll _ => List User
  | .updateUser _ _ => User
  | .listOnline _ => List String

abbrev DirectoryPort : Port where
  Op := DirectoryOp
  Answer := DirectoryOp.Answer

abbrev DirectoryProgram (Result : Type) :=
  Program DirectoryPort Failure Result

/-- Await one operation of the port. -/
abbrev DirectoryOp.await (op : DirectoryOp) : DirectoryProgram op.Answer :=
  @Program.perform DirectoryPort Failure op

def userRepo.update (id : String) (patch : UserPatch) : DirectoryProgram User :=
  DirectoryOp.await (.updateUser id patch)

/-- The chat port is a part of the port. -/
abbrev chatPart : Port.Embedding ChatPort DirectoryPort where
  op := .chat
  answer _ given := given

/-- A program of the chat port. -/
abbrev overChat {Result : Type} (program : ChatProgram Result) :
    DirectoryProgram Result :=
  program.embed chatPart

/-! ## The statements -/

namespace PgRoomRepository

/-- `ORDER BY r.last_message_at DESC NULLS LAST, r.created_at DESC` -/
def recentFirst (left right : Room) : Bool :=
  match left.lastMessageAt, right.lastMessageAt with
  | some leftAt, some rightAt =>
      decide (rightAt < leftAt ∨
        leftAt = rightAt ∧ right.createdAt ≤ left.createdAt)
  | some _, none => true
  | none, some _ => false
  | none, none => decide (right.createdAt ≤ left.createdAt)

def listForUser (tables : ChatState) (user : String) : List Room :=
  (tables.rooms.filter fun room => decide (∃ row ∈ tables.roomMembers,
    row.roomId = room.id ∧ row.userId = user)).mergeSort recentFirst

def listMembers (tables : ChatState) (room : String) : List RoomMember :=
  (tables.roomMembers.filter fun row =>
    decide (row.roomId = room)).mergeSort
      fun left right => decide (left.joinedAt ≤ right.joinedAt)

end PgRoomRepository

namespace PgUserRepository

def listAll (collation : String → String → Bool) (tables : ChatState)
    (excluded : String) : List User :=
  (tables.users.filter fun user => decide (user.id ≠ excluded)).mergeSort
    fun left right => collation left.displayName right.displayName

end PgUserRepository

/-- The port on the tables and the presence store, which share their clock. -/
def directoryAdapter (postgres : Postgres) :
    Adapter DirectoryPort Time DirectoryState Failure
  | .chat op, now, state => do
      let (answer, tables) ←
        chatAdapter postgres.toPgUuid op now state.tables
      return (answer, { state with tables })
  | .listForUser userId, _, state => do
      let user ← postgres.param userId
      return (PgRoomRepository.listForUser state.tables user, state)
  | .listMembers roomId, _, state => do
      let room ← postgres.param roomId
      return (PgRoomRepository.listMembers state.tables room, state)
  | .listAll excludeId, _, state => do
      let excluded ← postgres.param excludeId
      return (PgUserRepository.listAll postgres.collation state.tables
        excluded, state)
  | .updateUser id patch, now, state => do
      if patch = {} then .error postgres.noColumns
      else
        let id ← postgres.param id
        let (user, users) ←
          PgUserRepository.update id patch now state.tables.users
        return (user, { state with tables := { state.tables with users } })
  | .listOnline userIds, now, state =>
      match (RedisPresenceStore.listOnline userIds).run presenceAdapter now
        state.presence with
      | (.ok online, presence) => .ok (online, { state with presence })

/-- The tables are a component of the state. -/
def tablesPart (postgres : Postgres) :
    Component chatPart (chatAdapter postgres.toPgUuid)
      (directoryAdapter postgres) where
  get state := state.tables
  set tables state := { state with tables }
  get_set _ _ := rfl
  set_get _ := rfl
  set_set _ _ _ := rfl
  carries op now state := by
    change Except.map _
      (chatAdapter postgres.toPgUuid op now state.tables >>= fun answered =>
        pure (answered.1, { state with tables := answered.2 })) = _
    cases chatAdapter postgres.toPgUuid op now state.tables <;> rfl

/-! ## Use cases -/

/-- What the outside sees of a room and its members. -/
structure RoomWithMembersDto extends RoomDto where
  members : List RoomMemberDto
deriving DecidableEq, Repr

def GetRoom.execute (requesterId roomId : String) :
    DirectoryProgram RoomWithMembersDto := do
  let _ ← overChat (RoomAuthorizer.assertMember roomId requesterId)
  let room ← overChat (RoomAuthorizer.assertRoomExists roomId)
  let members ← DirectoryOp.await (.listMembers roomId)
  return { room.toRoomDto with
    members := members.map fun member => member.toRoomMemberDto }

def ListMyRooms.execute (userId : String) : DirectoryProgram (List RoomDto) := do
  let rooms ← DirectoryOp.await (.listForUser userId)
  return rooms.map fun room => room.toRoomDto

def GetUser.execute (id : String) : DirectoryProgram PublicUser := do
  match ← overChat (userRepo.findById id) with
  | none => .fail (.notFoundError "User not found")
  | some user => return toPublicUser user

/-- What the outside sees of a user, and whether the user is online. -/
structure UserWithPresence extends PublicUser where
  isOnline : Bool
deriving DecidableEq, Repr

def ListUsers.execute (requesterId : String) :
    DirectoryProgram (List UserWithPresence) := do
  let users ← DirectoryOp.await (.listAll requesterId)
  let ids := users.map fun user => user.id
  let onlineIds ← DirectoryOp.await (.listOnline ids)
  return users.map fun user =>
    { toPublicUser user with isOnline := decide (user.id ∈ onlineIds) }

/-! ## Requests -/

inductive DirectoryRequest where
  | chat (request : ChatRequest)
  | getRoom (requesterId roomId : String)
  | listMyRooms (userId : String)
  | getUser (requesterId id : String)
  | listUsers (requesterId : String)
  | updateProfile (userId : String) (input : UpdateProfile.Input)
deriving DecidableEq

inductive DirectoryReply where
  | chat (reply : ChatReply)
  | roomWithMembers (dto : RoomWithMembersDto)
  | rooms (dtos : List RoomDto)
  | user (dto : PublicUser)
  | users (dtos : List UserWithPresence)
deriving DecidableEq

/-- The program of a request. -/
def DirectoryRequest.program :
    DirectoryRequest → DirectoryProgram DirectoryReply
  | .chat request => .chat <$> overChat request.program
  | .getRoom requesterId roomId =>
      .roomWithMembers <$> GetRoom.execute requesterId roomId
  | .listMyRooms userId => .rooms <$> ListMyRooms.execute userId
  | .getUser _ id => .user <$> GetUser.execute id
  | .listUsers requesterId => .users <$> ListUsers.execute requesterId
  | .updateProfile userId input =>
      .user <$> UpdateProfile.execute userRepo.update userId input

/-- Complete a request at a time. -/
def respond (postgres : Postgres) (state : DirectoryState)
    (served : DirectoryRequest × Time) :
    Except Failure DirectoryReply × DirectoryState :=
  served.1.program.run (directoryAdapter postgres) served.2 state

/-- One step of a run of completed requests. -/
def progress (postgres : Postgres) (state : DirectoryState)
    (served : DirectoryRequest × Time) : DirectoryState :=
  (respond postgres state served).2

end ChatBackend.Chat.Directory
