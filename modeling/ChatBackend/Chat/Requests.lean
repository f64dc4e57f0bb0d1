import ChatBackend.Chat.MessageUseCases
import ChatBackend.Transition.Runs

/-!
# Runs of completed requests

A request names a use case, its arguments and what it draws from the clock and
the id generator.  Completing requests one after another gives the runs over
which the sequential results are stated.  `ChatRequest.Leaves` says once what a
request can leave behind; the invariants of the runs follow from it.
-/

namespace ChatBackend.Chat.Requests

open Effects
open Relational
open Effects.Program
open ChatBackend.Chat.Store
open ChatBackend.Chat.Schema
open ChatBackend.Chat.RoomUseCases
open ChatBackend.Chat.MessageUseCases

/-! ## Requests -/

inductive ChatRequest where
  | createDirectRoom (draws : RoomDraws) (requesterId targetUserId : String)
  | createGroupRoom (draws : RoomDraws) (requesterId name : String)
      (memberIds : List String)
  | addMember (now : Time) (requesterId roomId userId : String)
      (role : RoomRole)
  | removeMember (requesterId roomId targetUserId : String)
  | deleteRoom (requesterId roomId : String)
  | sendMessage (draws : SendMessage.Draws) (input : SendMessage.Input)
  | editMessage (now : Time) (requesterId messageId body : String)
  | deleteMessage (requesterId messageId : String)
  | listMessages (roomId requesterId : String) (before : Option String)
      (limit : Nat)
  | markAsRead (userId roomId messageId : String)
  | typing (userId roomId : String)
deriving DecidableEq

/-- What a request returns. -/
inductive ChatReply where
  | room (dto : RoomDto)
  | member (dto : RoomMemberDto)
  | message (dto : MessageDto)
  | messages (dtos : List MessageDto)
  | nothing
  | acknowledged (sent : Bool)
deriving DecidableEq, Repr

namespace ChatRequest

/-- The program of a request. -/
def program : ChatRequest → ChatProgram ChatReply
  | createDirectRoom draws requesterId targetUserId =>
      .room <$> CreateDirectRoom.execute draws requesterId targetUserId
  | createGroupRoom draws requesterId name memberIds =>
      .room <$> CreateGroupRoom.execute draws requesterId name memberIds
  | addMember now requesterId roomId userId role =>
      .member <$> AddMember.execute now requesterId roomId userId role
  | removeMember requesterId roomId targetUserId =>
      (fun _ => .nothing) <$>
        RemoveMember.execute requesterId roomId targetUserId
  | deleteRoom requesterId roomId =>
      (fun _ => .nothing) <$> DeleteRoom.execute requesterId roomId
  | sendMessage draws input => .message <$> SendMessage.execute draws input
  | editMessage now requesterId messageId body =>
      .message <$> EditMessage.execute now requesterId messageId body
  | deleteMessage requesterId messageId =>
      (fun _ => .nothing) <$> DeleteMessage.execute requesterId messageId
  | listMessages roomId requesterId before limit =>
      .messages <$> ListMessages.execute roomId requesterId before limit
  | markAsRead userId roomId messageId =>
      (fun _ => .nothing) <$> MarkAsRead.execute userId roomId messageId
  | typing userId roomId => .acknowledged <$> handleChatTyping userId roomId

/-- `AddMemberSchema` admits the roles `admin` and `member`. -/
def Admitted : ChatRequest → Prop
  | addMember _ _ _ _ role => role ≠ .owner
  | _ => True

instance (request : ChatRequest) : Decidable request.Admitted := by
  cases request <;> unfold Admitted <;> infer_instance

end ChatRequest

/-- Complete a request at a time of the database clock. -/
def complete (uuid : PgUuid) (state : ChatState)
    (served : ChatRequest × Time) : Except Failure ChatReply × ChatState :=
  served.1.program.run (chatAdapter uuid) served.2 state

/-- One step of a run of completed requests. -/
def serve (uuid : PgUuid) (state : ChatState) (served : ChatRequest × Time) :
    ChatState :=
  (complete uuid state served).2

/-- A request whose arguments have passed their schema. -/
abbrev AdmittedRequest := { request : ChatRequest // request.Admitted }

/-- One step of a run of admitted requests. -/
def serveAdmitted (uuid : PgUuid) (state : ChatState)
    (served : AdmittedRequest × Time) : ChatState :=
  serve uuid state (served.1.val, served.2)

/-! ## What a request leaves -/

/-- The states in which a request may leave the tables. -/
def ChatRequest.Leaves (uuid : PgUuid) (now : Time) (state after : ChatState) :
    ChatRequest → Prop
  | createDirectRoom draws requesterId targetUserId => ∃ outcome,
      CreateDirectRoom.Ends uuid draws state requesterId targetUserId outcome
        after
  | createGroupRoom draws requesterId name _ => ∃ outcome,
      CreateGroupRoom.Ends uuid draws state requesterId name outcome after
  | addMember now requesterId roomId userId role => ∃ outcome,
      AddMember.Ends uuid now state requesterId roomId userId role outcome
        after
  | removeMember requesterId roomId targetUserId => ∃ outcome,
      RemoveMember.Ends uuid state requesterId roomId targetUserId outcome
        after
  | deleteRoom requesterId roomId => ∃ outcome,
      DeleteRoom.Ends uuid state requesterId roomId outcome after
  | sendMessage draws input => ∃ outcome,
      SendMessage.Ends uuid state draws input outcome after
  | editMessage now requesterId messageId body => ∃ outcome,
      EditMessage.Ends uuid now state requesterId messageId body outcome after
  | deleteMessage requesterId messageId => ∃ outcome,
      DeleteMessage.Ends uuid now state requesterId messageId outcome after
  | listMessages roomId requesterId before limit => ∃ outcome,
      ListMessages.Ends uuid state roomId requesterId before limit outcome
        after
  | markAsRead userId roomId messageId => ∃ outcome,
      MarkAsRead.Ends uuid state userId roomId messageId outcome after
  | typing userId roomId => ∃ outcome,
      handleChatTyping.Ends uuid state userId roomId outcome after

variable {uuid : PgUuid} {now : Time} {state after : ChatState}

/-- How a program ends is how its request does. -/
theorem ends_of_request {Result : Type} {program : ChatProgram Result}
    {post : Except Failure Result → ChatState → Prop}
    (change : Result → ChatReply)
    (ensures : Ensures (chatAdapter uuid) now program state post) :
    post (program.run (chatAdapter uuid) now state).1
      ((change <$> program).run (chatAdapter uuid) now state).2 := by
  rw [run_map]
  exact ensures

/-- How a program ends that throws is how its request does. -/
theorem ends_of_threw {Result : Type} {program : ChatProgram Result}
    {post : Except Failure Result → ChatState → Prop}
    {change : Result → ChatReply} {error : Failure}
    (ensures : Ensures (chatAdapter uuid) now program state post)
    (threw : ((change <$> program).run (chatAdapter uuid) now state).1 =
      .error error) :
    post (.error error)
      ((change <$> program).run (chatAdapter uuid) now state).2 := by
  have ends := ends_of_request change ensures
  rw [run_map] at threw
  cases outcome : (program.run (chatAdapter uuid) now state).1 with
  | error other =>
      rw [outcome] at threw ends
      cases threw
      exact ends
  | ok result =>
      rw [outcome] at threw
      cases threw

theorem serve_leaves (conforms : Conforms uuid state)
    (served : ChatRequest × Time) :
    served.1.Leaves uuid served.2 state (serve uuid state served) := by
  rcases served with ⟨request, now⟩
  unfold serve complete
  cases request with
  | createDirectRoom draws requesterId targetUserId =>
      exact ⟨_, ends_of_request _ (CreateDirectRoom.execute_ends _ _)⟩
  | createGroupRoom draws requesterId name memberIds =>
      exact ⟨_, ends_of_request _
        (CreateGroupRoom.execute_ends conforms _ _ memberIds)⟩
  | addMember clock requesterId roomId userId role =>
      exact ⟨_, ends_of_request _ (AddMember.execute_ends _ _ _ _)⟩
  | removeMember requesterId roomId targetUserId =>
      exact ⟨_, ends_of_request _ (RemoveMember.execute_ends _ _ _)⟩
  | deleteRoom requesterId roomId =>
      exact ⟨_, ends_of_request _ (DeleteRoom.execute_ends _ _)⟩
  | sendMessage draws input =>
      exact ⟨_, ends_of_request _ (SendMessage.execute_ends _ _)⟩
  | editMessage clock requesterId messageId body =>
      exact ⟨_, ends_of_request _ (EditMessage.execute_ends _ _ _)⟩
  | deleteMessage requesterId messageId =>
      exact ⟨_, ends_of_request _ (DeleteMessage.execute_ends _ _)⟩
  | listMessages roomId requesterId before limit =>
      exact ⟨_, ends_of_request _ (ListMessages.execute_ends _ _ before limit)⟩
  | markAsRead userId roomId messageId =>
      exact ⟨_, ends_of_request _ (MarkAsRead.execute_ends _ _ _)⟩
  | typing userId roomId =>
      exact ⟨_, ends_of_request _ (handleChatTyping_ends _ _)⟩

/-- The requests that publish an event when they succeed. -/
def ChatRequest.Publishes : ChatRequest → Prop
  | sendMessage _ _ => True
  | editMessage _ _ _ _ => True
  | deleteMessage _ _ => True
  | markAsRead _ _ _ => True
  | typing _ _ => True
  | _ => False

theorem published_serve (conforms : Conforms uuid state)
    (served : ChatRequest × Time) (silent : ¬ served.1.Publishes) :
    (serve uuid state served).published = state.published := by
  have leaves := serve_leaves conforms served
  generalize serve uuid state served = after at leaves
  rcases served with ⟨request, now⟩
  cases request with
  | createDirectRoom draws requesterId targetUserId =>
      rcases leaves with ⟨_, ends⟩
      cases ends <;> rfl
  | createGroupRoom draws requesterId name memberIds =>
      rcases leaves with ⟨_, ends⟩
      cases ends <;> rfl
  | addMember clock requesterId roomId userId role =>
      rcases leaves with ⟨_, ends⟩
      cases ends <;> rfl
  | removeMember requesterId roomId targetUserId =>
      rcases leaves with ⟨_, ends⟩
      cases ends <;> rfl
  | deleteRoom requesterId roomId =>
      rcases leaves with ⟨_, ends⟩
      cases ends <;> rfl
  | listMessages roomId requesterId before limit =>
      rcases leaves with ⟨_, ends⟩
      cases ends <;> rfl
  | _ => exact absurd trivial silent

/-- The requests that may change the membership table. -/
def ChatRequest.TouchesMembers : ChatRequest → Prop
  | createDirectRoom _ _ _ => True
  | createGroupRoom _ _ _ _ => True
  | addMember _ _ _ _ _ => True
  | removeMember _ _ _ => True
  | deleteRoom _ _ => True
  | markAsRead _ _ _ => True
  | _ => False

theorem roomMembers_serve (conforms : Conforms uuid state)
    (served : ChatRequest × Time) (untouched : ¬ served.1.TouchesMembers) :
    (serve uuid state served).roomMembers = state.roomMembers := by
  have leaves := serve_leaves conforms served
  generalize serve uuid state served = after at leaves
  rcases served with ⟨request, now⟩
  cases request with
  | sendMessage draws input =>
      rcases leaves with ⟨_, ends⟩
      cases ends <;> rfl
  | editMessage clock requesterId messageId body =>
      rcases leaves with ⟨_, ends⟩
      cases ends <;> rfl
  | deleteMessage requesterId messageId =>
      rcases leaves with ⟨_, ends⟩
      cases ends <;> rfl
  | listMessages roomId requesterId before limit =>
      rcases leaves with ⟨_, ends⟩
      cases ends <;> rfl
  | typing userId roomId =>
      rcases leaves with ⟨_, ends⟩
      cases ends <;> rfl
  | _ => exact absurd trivial untouched

/-! ## What every run keeps -/

/-- The read pointer of a member leads to a message of the member's room. -/
def PointsInto (messages : List Message) (row : RoomMember) : Prop :=
  ∀ id ∈ row.lastReadMessageId,
    ∃ message ∈ messages, message.id = id ∧ message.roomId = row.roomId

/-- The tables conform, and read pointers stay in their rooms. -/
structure Sound (uuid : PgUuid) (state : ChatState) : Prop
    extends Conforms uuid state where
  pointers : ∀ row ∈ state.roomMembers, PointsInto state.messages row

theorem sound_empty (uuid : PgUuid) (users : List User)
    (objects : List String) :
    Sound uuid
      { users, rooms := [], roomMembers := [], messages := [], objects,
        published := [] } :=
  { conforms_empty uuid users objects with pointers := by simp }

theorem newMember_pointsInto (messages : List Message)
    (room user : String) (role : RoomRole) (now : Time) :
    PointsInto messages (newMember room user role now) := nofun

theorem PointsInto.append {messages : List Message} {row : RoomMember}
    (points : PointsInto messages row) (others : List Message) :
    PointsInto (messages ++ others) row := by
  intro id given
  rcases points id given with ⟨message, stored, same⟩
  exact ⟨message, List.mem_append_left others stored, same⟩

theorem PointsInto.updateWhere {messages : List Message} {row : RoomMember}
    {condition : Message → Prop} [DecidablePred condition]
    {change : Message → Message} (keeps : KeepsMessage change)
    (points : PointsInto messages row) :
    PointsInto (updateWhere condition change messages) row := by
  intro id given
  rcases points id given with ⟨message, stored, rfl, sameRoom⟩
  refine ⟨_, mem_updateWhere.mpr ⟨message, stored, rfl⟩, ?_, ?_⟩
  · split_ifs
    · exact keeps.id message
    · rfl
  · split_ifs
    · rw [keeps.roomId, sameRoom]
    · exact sameRoom

/-- Pointers into other rooms survive the deletion of a room. -/
theorem PointsInto.clearPointer {row : RoomMember} {roomId : String}
    (points : PointsInto state.messages row)
    (elsewhere : row.roomId ≠ roomId) :
    PointsInto (deleteWhere (fun message => message.roomId = roomId)
        state.messages)
      (PgRoomRepository.clearPointer state.messages roomId row) := by
  intro id given
  unfold PgRoomRepository.clearPointer at given
  split_ifs at given
  · cases given
  · rcases points id given with ⟨message, stored, same, sameRoom⟩
    refine ⟨message, mem_deleteWhere.mpr ⟨stored, ?_⟩, same, ?_⟩
    · rw [sameRoom]
      exact elsewhere
    · rw [sameRoom, clearPointer_roomId]

theorem mem_insertIgnoring {row other : RoomMember} {rows : List RoomMember}
    (member : other ∈ PgRoomRepository.insertIgnoring row rows) :
    other ∈ rows ∨ other = row := by
  unfold PgRoomRepository.insertIgnoring at member
  split_ifs at member
  · exact .inl member
  · simpa using member

theorem mem_insertIgnoring_of_mem {row other : RoomMember}
    {rows : List RoomMember} (member : other ∈ rows) :
    other ∈ PgRoomRepository.insertIgnoring row rows := by
  unfold PgRoomRepository.insertIgnoring
  split_ifs
  · exact member
  · exact List.mem_append_left _ member

/-- Every read pointer leads to a message of the member's room. -/
def PointersStay (state : ChatState) : Prop :=
  ∀ row ∈ state.roomMembers, PointsInto state.messages row

section Pointers

variable {outcome : Except Failure RoomDto}
  {draws : RoomDraws} {requesterId roomId targetUserId name : String}

theorem PointersStay.createDirectRoom (pointers : PointersStay state)
    (ends : CreateDirectRoom.Ends uuid draws state requesterId targetUserId
      outcome after) : PointersStay after := by
  cases ends with
  | throws error => exact pointers
  | found room stored keyed => exact pointers
  | creates room memberA memberB unknown reads fits readsA readsB =>
      rcases readNewMember_eq_ok_iff.mp readsA with ⟨_, -, _, -, rfl⟩
      rcases readNewMember_eq_ok_iff.mp readsB with ⟨_, -, _, -, rfl⟩
      intro row member
      rcases mem_insertIgnoring member with other | rfl
      · rcases mem_insertIgnoring other with old | rfl
        · exact pointers row old
        · exact newMember_pointsInto _ _ _ _ _
      · exact newMember_pointsInto _ _ _ _ _

theorem PointersStay.createGroupRoom (pointers : PointersStay state)
    (ends : CreateGroupRoom.Ends uuid draws state requesterId name outcome
      after) : PointersStay after := by
  cases ends with
  | throws error => exact pointers
  | creates _ room owner joined reads fits readsOwner members returns =>
      rcases readNewMember_eq_ok_iff.mp readsOwner with ⟨_, -, _, -, rfl⟩
      unfold PointersStay
      simp only [List.forall_mem_append, List.forall_mem_cons]
      refine ⟨pointers, newMember_pointsInto _ _ _ _ _, ?_⟩
      intro row member
      rcases members row member with ⟨user, rfl⟩
      exact newMember_pointsInto _ _ _ _ _

theorem PointersStay.addMember (pointers : PointersStay state) {clock : Time}
    {role : RoomRole} {added : Except Failure RoomMemberDto}
    (ends : AddMember.Ends uuid clock state requesterId roomId targetUserId
      role added after) : PointersStay after := by
  cases ends with
  | throws error => exact pointers
  | adds requester row member allowed reads fresh =>
      rcases readNewMember_eq_ok_iff.mp reads with ⟨_, -, _, -, rfl⟩
      unfold PointersStay
      simp only [List.forall_mem_append, List.forall_mem_singleton]
      exact ⟨pointers, newMember_pointsInto _ _ _ _ _⟩

theorem PointersStay.deleteRoom (pointers : PointersStay state)
    {deleted : Except Failure Unit}
    (ends : DeleteRoom.Ends uuid state requesterId roomId deleted after) :
    PointersStay after := by
  cases ends with
  | throws error => exact pointers
  | deletes room requester stored member same allowed =>
      intro row member
      rcases List.mem_map.mp member with ⟨old, kept, rfl⟩
      rcases mem_deleteWhere.mp kept with ⟨oldMember, elsewhere⟩
      exact (pointers old oldMember).clearPointer elsewhere

/-- Who marks a message as read is a member of the room of the message. -/
theorem PointersStay.markAsRead (pointers : PointersStay state)
    (conforms : Conforms uuid state) {userId messageId : String}
    {marked : Except Failure Unit}
    (ends : MarkAsRead.Ends uuid state userId roomId messageId marked after) :
    PointersStay after := by
  cases ends with
  | throws error => exact pointers
  | marks member msg membership stored sameRoom =>
      refine forall_mem_updateWhere pointers ?_
      rintro row old ⟨inRoom, -⟩ id given
      cases given
      -- the message names its room as the request spelled it
      have canonical := conforms.read_roomId stored
      refine ⟨msg, stored, rfl, ?_⟩
      rw [sameRoom, membership.room] at canonical
      exact (sameRoom.trans (Option.some.inj canonical).symm).trans
        inRoom.symm

end Pointers

/-- Whatever a request does, read pointers stay in their rooms. -/
theorem Sound.pointers_serve (sound : Sound uuid state)
    (served : ChatRequest × Time) :
    PointersStay (serve uuid state served) := by
  have pointers : PointersStay state := sound.pointers
  have leaves := serve_leaves sound.toConforms served
  generalize serve uuid state served = after at leaves
  rcases served with ⟨request, now⟩
  cases request with
  | createDirectRoom draws requesterId targetUserId =>
      obtain ⟨outcome, ends⟩ := leaves
      exact pointers.createDirectRoom ends
  | createGroupRoom draws requesterId name memberIds =>
      obtain ⟨outcome, ends⟩ := leaves
      exact pointers.createGroupRoom ends
  | addMember clock requesterId roomId userId role =>
      obtain ⟨outcome, ends⟩ := leaves
      exact pointers.addMember ends
  | deleteRoom requesterId roomId =>
      obtain ⟨outcome, ends⟩ := leaves
      exact pointers.deleteRoom ends
  | markAsRead userId roomId messageId =>
      obtain ⟨outcome, ends⟩ := leaves
      exact pointers.markAsRead sound.toConforms ends
  | removeMember requesterId roomId targetUserId =>
      obtain ⟨outcome, ends⟩ := leaves
      cases ends with
      | throws error => exact pointers
      | leaves target self member =>
          exact fun row kept => pointers row (mem_deleteWhere.mp kept).1
      | removes target requester member remover allowed notOwner notPeer =>
          exact fun row kept => pointers row (mem_deleteWhere.mp kept).1
  | sendMessage draws input =>
      obtain ⟨outcome, ends⟩ := leaves
      cases ends with
      | throws error => exact pointers
      | repeats member row stored membership attached reads known =>
          exact pointers
      | stores member row membership attached reads unknown fits =>
          exact fun other old => (pointers other old).append [row]
  | editMessage clock requesterId messageId body =>
      obtain ⟨outcome, ends⟩ := leaves
      cases ends with
      | throws error => exact pointers
      | idle msg stored => exact pointers
      | edits msg reads stored alive own stores patch sets =>
          exact fun row member =>
            (pointers row member).updateWhere (patchMessage_keeps patch)
  | deleteMessage requesterId messageId =>
      obtain ⟨outcome, ends⟩ := leaves
      cases ends with
      | throws error => exact pointers
      | deletes msg reads stored alive allowed =>
          exact fun row member =>
            (pointers row member).updateWhere (blank_keeps now)
  | listMessages roomId requesterId before limit =>
      obtain ⟨outcome, ends⟩ := leaves
      cases ends <;> exact pointers
  | typing userId roomId =>
      obtain ⟨outcome, ends⟩ := leaves
      cases ends <;> exact pointers

/-- The deletion of a room clears no pointer of another room's member. -/
theorem Sound.cascade_roomMembers (sound : Sound uuid state)
    (roomId : String) :
    (PgRoomRepository.cascade state roomId).roomMembers =
      deleteWhere (fun row => row.roomId = roomId) state.roomMembers := by
  refine (List.map_congr_left ?_).trans (List.map_id _)
  intro row kept
  rcases mem_deleteWhere.mp kept with ⟨stored, elsewhere⟩
  unfold PgRoomRepository.clearPointer
  rw [if_neg]
  · rfl
  rintro ⟨message, found, inRoom, pointed⟩
  obtain ⟨other, otherFound, same, sameRoom⟩ :=
    sound.pointers row stored message.id pointed
  cases sound.messageIds.eq_of_key otherFound found same
  exact elsewhere (sameRoom.symm.trans inRoom)

theorem Sound.serve (sound : Sound uuid state) (served : ChatRequest × Time) :
    Sound uuid (serve uuid state served) :=
  { sound.toConforms.run with pointers := sound.pointers_serve served }

/-- Every run of requests from sound tables leaves sound tables. -/
theorem Sound.run (sound : Sound uuid state)
    (requests : List (ChatRequest × Time)) :
    Sound uuid (Transition.run (Requests.serve uuid) state requests) :=
  Transition.run_invariant (fun _ served before => before.serve served) sound
    requests

/-! ## Sample tables -/

/-- A database that reads the listed spellings, each as itself. -/
def sampleUuid (known : List String) : PgUuid where
  read spelled := if spelled ∈ known then some spelled else none
  canonical := by
    intro spelled id reading
    split_ifs at reading with member
    cases reading
    exact if_pos member

def sampleRoomId : String := "018f0000-0000-7000-8000-00000000a001"

def sampleOtherRoomId : String := "018f0000-0000-7000-8000-00000000a002"

def sampleOwner : String := "018f0000-0000-7000-8000-00000000b001"

def sampleMember : String := "018f0000-0000-7000-8000-00000000b002"

def sampleMessageId : String := "018f0000-0000-7000-8000-00000000c001"

def sampleNextMessageId : String := "018f0000-0000-7000-8000-00000000c002"

def samplePgUuid : PgUuid :=
  sampleUuid
    [sampleRoomId, sampleOtherRoomId, sampleOwner, sampleMember,
      sampleMessageId, sampleNextMessageId]

def sampleUser (id : String) : User where
  id := id
  email := ""
  passwordHash := ""
  displayName := ""
  avatarUrl := none
  emailVerifiedAt := none
  createdAt := 0
  updatedAt := 0

/-- Empty tables with the listed users. -/
def sampleTables (users : List String) : ChatState where
  users := users.map sampleUser
  rooms := []
  roomMembers := []
  messages := []
  objects := []
  published := []

theorem sound_sampleTables (uuid : PgUuid) (users : List String) :
    Sound uuid (sampleTables users) :=
  sound_empty uuid _ []

end ChatBackend.Chat.Requests
