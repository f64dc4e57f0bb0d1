import ChatBackend.Chat.MembershipAuthorization

/-!
# Direct rooms are closed

No request looks at the kind of a room before it adds a member.  A direct room
stays between its two users because both of them are created as plain members,
no request raises a role, and only owners and admins may add members.
-/

namespace ChatBackend.Chat.ClosedDirectRooms

open Relational
open Transition
open ChatBackend.Chat.Store
open ChatBackend.Chat.Schema
open ChatBackend.Chat.RoomUseCases
open ChatBackend.Chat.MessageUseCases
open ChatBackend.Chat.Requests
open ChatBackend.Chat.MembershipAuthorization
open PgRoomRepository (sameKey)

/-! ## The property -/

/-- Tables without rooms. -/
def emptyTables (users : List User) (objects : List String) : ChatState where
  users := users
  rooms := []
  roomMembers := []
  messages := []
  objects := objects
  published := []

/-- A direct room is stored under the id. -/
def StoresDm (roomId : String) (state : ChatState) : Prop :=
  ∃ room ∈ state.rooms, room.id = roomId ∧ room.kind = .dm

section Properties

variable (uuid : PgUuid) (roomId requesterId targetUserId : String)

/-- The request creates the direct room for the two users. -/
def CreatesFor (state : ChatState) (served : ChatRequest × Time) : Prop :=
  (∃ draws, served.1 = .createDirectRoom draws requesterId targetUserId) ∧
    Creates state (serve uuid state served) roomId

/--
A request of the run has created the room for the two users, and it has been
stored ever since.
-/
def CreatedFor (start : ChatState) (requests : List (ChatRequest × Time)) :
    Prop :=
  ∃ before served later, requests = before ++ served :: later ∧
    CreatesFor uuid roomId requesterId targetUserId
      (run (serve uuid) start before) served ∧
    Throughout (serve uuid) (StoresDm roomId)
      (serve uuid (run (serve uuid) start before) served) later

/-- The member of the room is one of the two users. -/
def OneOfTwo (row : RoomMember) : Prop :=
  uuid.read requesterId = some row.userId ∨
    uuid.read targetUserId = some row.userId

/-- The members of the room are plain members among the two users. -/
def Closed (state : ChatState) : Prop :=
  ∀ row ∈ state.roomMembers, row.roomId = roomId →
    row.role = .member ∧ OneOfTwo uuid requesterId targetUserId row

end Properties

/-! ## One request -/

section Requests

variable {uuid : PgUuid} {now : Time} {state after : ChatState}
  {requesterId targetUserId : String}

/-- Authorized changes bring nobody into a room whose members are plain. -/
theorem Closed.kept {request : ChatRequest} {roomId : String}
    (authorized : Authorized uuid state after request)
    (stored : StoresDm roomId state)
    (closed : Closed uuid roomId requesterId targetUserId state) :
    Closed uuid roomId requesterId targetUserId after := by
  intro row member inRoom
  by_cases known : ∃ old ∈ state.roomMembers, sameKey old row
  · rcases known with ⟨old, oldMember, sameRoom, sameUser⟩
    rcases closed old oldMember (sameRoom.trans inRoom) with ⟨plain, oneOfTwo⟩
    constructor
    · rw [authorized.roles old oldMember row member ⟨sameRoom, sameUser⟩]
      exact plain
    · unfold OneOfTwo
      rw [← sameUser]
      exact oneOfTwo
  · have new : ∀ old ∈ state.roomMembers, ¬ sameKey old row :=
      fun old oldMember same => known ⟨old, oldMember, same⟩
    have may := authorized.added row member new
    rw [inRoom] at may
    rcases may with ⟨unknown, -⟩ | ⟨adder, adderMember, adderRoom, role, -⟩ |
      ⟨adder, adderMember, adderRoom, role, -⟩
    · rcases stored with ⟨room, found, same, -⟩
      exact absurd same (unknown room found)
    · cases role.symm.trans (closed adder adderMember adderRoom).1
    · cases role.symm.trans (closed adder adderMember adderRoom).1

/-- A direct room that a request creates has the two users as its members. -/
theorem closed_of_created (conforms : Conforms uuid state) {draws : RoomDraws}
    {room : Room} {memberA memberB : RoomMember}
    (fits : PgRoomRepository.roomViolation state room = none)
    (readsA : PgRoomRepository.readMember uuid
      (newMember draws.id requesterId .member draws.now) = .ok memberA)
    (readsB : PgRoomRepository.readMember uuid
      (newMember draws.id targetUserId .member draws.now) = .ok memberB) :
    Closed uuid room.id requesterId targetUserId
      { state with
        rooms := state.rooms ++ [room]
        roomMembers :=
          PgRoomRepository.insertIgnoring memberB
            (PgRoomRepository.insertIgnoring memberA state.roomMembers) } := by
  rcases readNewMember_eq_ok_iff.mp readsA with ⟨_, -, requester, readA, rfl⟩
  rcases readNewMember_eq_ok_iff.mp readsB with ⟨_, -, target, readB, rfl⟩
  intro row member inRoom
  rcases mem_insertIgnoring member with other | rfl
  · rcases mem_insertIgnoring other with old | rfl
    · exact absurd inRoom (no_members_of_fits conforms fits row old)
    · exact ⟨rfl, .inl readA⟩
  · exact ⟨rfl, .inr readB⟩

/-- A direct room is stored already, or the request creates it. -/
theorem storesDm_or_created (conforms : Conforms uuid state)
    (served : ChatRequest × Time) {roomId : String}
    (stores : StoresDm roomId (serve uuid state served)) :
    StoresDm roomId state ∨ ∃ requesterId targetUserId,
      CreatesFor uuid roomId requesterId targetUserId state served ∧
        Closed uuid roomId requesterId targetUserId
          (serve uuid state served) := by
  have leaves := serve_leaves conforms served
  unfold CreatesFor
  generalize serve uuid state served = after at leaves stores
  rcases served with ⟨request, now⟩
  cases request with
  | createDirectRoom draws requesterId targetUserId =>
      rcases leaves with ⟨_, ends⟩
      cases ends with
      | throws error => exact .inl stores
      | found room stored keyed => exact .inl stores
      | creates room memberA memberB unknown reads fits readsA readsB =>
          rcases stores with ⟨other, member, rfl, dm⟩
          rcases List.mem_append.mp member with old | new
          · exact .inl ⟨other, old, rfl, dm⟩
          · cases List.mem_singleton.mp new
            refine .inr ⟨requesterId, targetUserId, ⟨⟨draws, rfl⟩, ?_⟩, ?_⟩
            · exact ⟨(roomViolation_eq_none_iff.mp fits).1, _, member, rfl⟩
            · exact closed_of_created conforms fits readsA readsB
  | createGroupRoom draws requesterId name memberIds =>
      rcases leaves with ⟨_, ends⟩
      cases ends with
      | throws error => exact .inl stores
      | creates _ room owner joined reads fits readsOwner members returns =>
          rcases readRoom_eq_ok_iff.mp reads with ⟨_, -, -, _, -, rfl⟩
          rcases stores with ⟨other, member, rfl, dm⟩
          rcases List.mem_append.mp member with old | new
          · exact .inl ⟨other, old, rfl, dm⟩
          · cases List.mem_singleton.mp new
            cases dm
  | addMember clock requesterId roomId userId role =>
      rcases leaves with ⟨_, ends⟩
      cases ends <;> exact .inl stores
  | removeMember requesterId roomId targetUserId =>
      rcases leaves with ⟨_, ends⟩
      cases ends <;> exact .inl stores
  | deleteRoom requesterId roomId =>
      rcases leaves with ⟨_, ends⟩
      cases ends with
      | throws error => exact .inl stores
      | deletes room requester stored member same allowed =>
          rcases stores with ⟨other, kept, rest⟩
          exact .inl ⟨other, (mem_deleteWhere.mp kept).1, rest⟩
  | sendMessage draws input =>
      rcases leaves with ⟨_, ends⟩
      -- a message changes when its room was last used
      have bumped : ∀ room messages dto, StoresDm roomId
          (SendMessage.sent state draws input room messages dto) →
            StoresDm roomId state := by
        rintro room messages dto ⟨other, member, rfl, dm⟩
        rcases mem_updateWhere.mp member with ⟨old, stored, rfl⟩
        refine ⟨old, stored, ?_⟩
        split_ifs at dm ⊢
        · exact ⟨rfl, dm⟩
        · exact ⟨rfl, dm⟩
      cases ends with
      | throws error => exact .inl stores
      | repeats member row stored membership attached reads known =>
          exact .inl (bumped _ _ _ stores)
      | stores member row membership attached reads unknown fits =>
          exact .inl (bumped _ _ _ stores)
  | editMessage clock requesterId messageId body =>
      rcases leaves with ⟨_, ends⟩
      cases ends <;> exact .inl stores
  | deleteMessage requesterId messageId =>
      rcases leaves with ⟨_, ends⟩
      cases ends <;> exact .inl stores
  | listMessages roomId requesterId before limit =>
      rcases leaves with ⟨_, ends⟩
      cases ends <;> exact .inl stores
  | markAsRead userId roomId messageId =>
      rcases leaves with ⟨_, ends⟩
      cases ends <;> exact .inl stores
  | typing userId roomId =>
      rcases leaves with ⟨_, ends⟩
      cases ends <;> exact .inl stores

end Requests

/-! ## Runs -/

section Runs

variable {uuid : PgUuid} {start : ChatState}
  {requests : List (ChatRequest × Time)}
  {roomId requesterId targetUserId : String}

/-- A room that is still stored has been stored since its creation. -/
theorem CreatedFor.kept (served : ChatRequest × Time)
    (created : CreatedFor uuid roomId requesterId targetUserId start requests)
    (stores : StoresDm roomId
      (run (serve uuid) start (requests ++ [served]))) :
    CreatedFor uuid roomId requesterId targetUserId start
      (requests ++ [served]) := by
  rcases created with ⟨before, creation, later, rfl, creates, since⟩
  refine ⟨before, creation, later ++ [served], ?_, creates, ?_⟩
  · rw [List.append_assoc, List.cons_append]
  · apply since.concat
    rw [run_concat, List.append_cons, run_append, run_concat] at stores
    rw [run_concat]
    exact stores

/-- The room is closed in the end, and was created for its two users. -/
theorem created_closed (users : List User) (objects : List String)
    (requests : List (ChatRequest × Time))
    (stores : StoresDm roomId
      (run (serve uuid) (emptyTables users objects) requests)) :
    ∃ requesterId targetUserId,
      CreatedFor uuid roomId requesterId targetUserId
          (emptyTables users objects) requests ∧
        Closed uuid roomId requesterId targetUserId
          (run (serve uuid) (emptyTables users objects) requests) := by
  induction requests using List.reverseRecOn with
  | nil =>
      rcases stores with ⟨room, member, -⟩
      cases member
  | append_singleton before served induction =>
      have sound : Sound uuid
          (run (serve uuid) (emptyTables users objects) before) :=
        (sound_empty uuid users objects).run before
      have storesNow := stores
      rw [run_concat] at stores
      rcases storesDm_or_created sound.toConforms served stores with
        earlier | ⟨requesterId, targetUserId, creates, closed⟩
      · rcases induction earlier with
          ⟨requesterId, targetUserId, created, closed⟩
        refine ⟨requesterId, targetUserId, created.kept served storesNow, ?_⟩
        rw [run_concat]
        exact closed.kept (authorized_serve sound served) earlier
      · refine ⟨requesterId, targetUserId,
          ⟨before, served, [], rfl, creates, stores⟩, ?_⟩
        rw [run_concat]
        exact closed

/--
In every run of requests from tables without rooms, every member of a direct
room is one of the two users for whom a request of the run has created it.
-/
theorem dm_closed (uuid : PgUuid) (users : List User) (objects : List String)
    (requests : List (ChatRequest × Time)) :
    let state := run (serve uuid) (emptyTables users objects) requests
    ∀ room ∈ state.rooms, room.kind = .dm → ∃ requesterId targetUserId,
      CreatedFor uuid room.id requesterId targetUserId
          (emptyTables users objects) requests ∧
        ∀ row ∈ state.roomMembers, row.roomId = room.id →
          OneOfTwo uuid requesterId targetUserId row := by
  intro state room member dm
  have stores : StoresDm room.id state := ⟨room, member, rfl, dm⟩
  rcases created_closed users objects requests stores with
    ⟨requesterId, targetUserId, created, closed⟩
  refine ⟨requesterId, targetUserId, created, ?_⟩
  exact fun row rowMember inRoom => (closed row rowMember inRoom).2

end Runs

end ChatBackend.Chat.ClosedDirectRooms
