import ChatBackend.Chat.Schema

/-!
# The room use cases

Creating rooms, adding and removing members and deleting rooms, as programs over
the chat port.  The clock and the id generator are read synchronously and are
drawn before a use case starts.

Each use case comes with the list of ways in which it can end: it throws, or it
passes its checks and writes.
-/

namespace ChatBackend.Chat.RoomUseCases

open Effects
open Relational
open ChatBackend.Chat.Store
open ChatBackend.Chat.Schema
open Effects.Program

/-! ## Dependencies -/

/-- What a call that makes a room reads from the clock and the generator. -/
structure RoomDraws where
  id : String
  now : Time
deriving DecidableEq, Repr

def userRepo.findById (id : String) : ChatProgram (Option User) :=
  ChatOp.await (.findUser id)

namespace roomRepo

def insertDm (room : Room) : ChatProgram (Option Room) :=
  ChatOp.await (.roomRepo (.insertDm room))

def insertDmMembers (memberA memberB : RoomMember) : ChatProgram Unit :=
  ChatOp.await (.roomRepo (.insertDmMembers memberA memberB))

def insertGroup (room : Room) : ChatProgram Room :=
  ChatOp.await (.roomRepo (.insertGroup room))

def findById (id : String) : ChatProgram (Option Room) :=
  ChatOp.await (.roomRepo (.findById id))

def findByDmKey (dmKey : Option String) : ChatProgram (Option Room) :=
  ChatOp.await (.roomRepo (.findByDmKey dmKey))

def addMember (member : RoomMember) : ChatProgram RoomMember :=
  ChatOp.await (.roomRepo (.insertMember member))

def removeMember (roomId userId : String) : ChatProgram Unit :=
  ChatOp.await (.roomRepo (.removeMember roomId userId))

def getMember (roomId userId : String) : ChatProgram (Option RoomMember) :=
  ChatOp.await (.roomRepo (.getMember roomId userId))

def setLastReadMessage (roomId userId messageId : String) : ChatProgram Unit :=
  ChatOp.await (.roomRepo (.setLastReadMessage roomId userId messageId))

def bumpLastMessageAt (roomId : String) (at_ : Time) : ChatProgram Unit :=
  ChatOp.await (.roomRepo (.bumpLastMessageAt roomId at_))

def deleteRoom (id : String) : ChatProgram Unit :=
  ChatOp.await (.roomRepo (.deleteRoom id))

/-- `[userA, userB].sort().join(":")` -/
def dmKey (userA userB : String) : String :=
  if userB < userA then userB ++ ":" ++ userA else userA ++ ":" ++ userB

def findDmBetween (userA userB : String) : ChatProgram (Option Room) :=
  findByDmKey (some (dmKey userA userB))

def createDm (room : Room) (memberA memberB : RoomMember) :
    ChatProgram Room := do
  match ← insertDm room with
  | none =>
      match ← findByDmKey room.dmKey with
      | some found => return found
      -- `mapRoom(found!)` of a missing row
      | none => .fail .typeError
  | some created =>
      insertDmMembers memberA memberB
      return created

def createGroup (room : Room) (owner : RoomMember) : ChatProgram Room := do
  let created ← insertGroup room
  let _ ← addMember owner
  return created

end roomRepo

/-! ## `RoomAuthorizer` -/

namespace RoomAuthorizer

def assertMember (roomId userId : String) : ChatProgram RoomMember := do
  match ← roomRepo.getMember roomId userId with
  | none => .fail (.forbiddenError "Not a member of this room")
  | some member => return member

def assertAdmin (roomId userId : String) : ChatProgram RoomMember := do
  let member ← assertMember roomId userId
  if member.role = .member then
    .fail (.forbiddenError "Admin or owner required")
  else return member

def assertOwner (roomId userId : String) : ChatProgram RoomMember := do
  let member ← assertMember roomId userId
  if member.role ≠ .owner then .fail (.forbiddenError "Owner required")
  else return member

def assertRoomExists (roomId : String) : ChatProgram Room := do
  match ← roomRepo.findById roomId with
  | none => .fail (.notFoundError "Room not found")
  | some room => return room

end RoomAuthorizer

/-! ## Use cases -/

/-- The row of a user who joins a room now. -/
def newMember (roomId userId : String) (role : RoomRole) (now : Time) :
    RoomMember where
  roomId := roomId
  userId := userId
  role := role
  joinedAt := now
  lastReadMessageId := none
  mutedUntil := none

namespace CreateDirectRoom

/-- The room a call inserts if there is none for the pair. -/
def newRoom (draws : RoomDraws) (requesterId targetUserId : String) :
    Room where
  id := draws.id
  kind := .dm
  name := none
  createdBy := some requesterId
  dmKey := some (roomRepo.dmKey requesterId targetUserId)
  lastMessageAt := none
  createdAt := draws.now

/-- The part of a call that follows when no room is found. -/
def create (draws : RoomDraws) (requesterId targetUserId : String) :
    ChatProgram RoomDto := do
  let created ← roomRepo.createDm
    (newRoom draws requesterId targetUserId)
    (newMember draws.id requesterId .member draws.now)
    (newMember draws.id targetUserId .member draws.now)
  return created.toRoomDto

def execute (draws : RoomDraws) (requesterId targetUserId : String) :
    ChatProgram RoomDto := do
  match ← userRepo.findById targetUserId with
  | none => .fail (.notFoundError "Target user not found")
  | some _ =>
      match ← roomRepo.findDmBetween requesterId targetUserId with
      | some existing => return existing.toRoomDto
      | none => create draws requesterId targetUserId

end CreateDirectRoom

namespace CreateGroupRoom

/-- `[...new Set(ids)]` -/
def distinct : List String → List String
  | [] => []
  | id :: rest => id :: (distinct rest).filter fun other => other ≠ id

def newRoom (draws : RoomDraws) (requesterId name : String) : Room where
  id := draws.id
  kind := .group
  name := some name
  createdBy := some requesterId
  dmKey := none
  lastMessageAt := none
  createdAt := draws.now

/-- The loop that looks every listed user up. -/
def findUsers : List String → ChatProgram Unit
  | [] => .done ()
  | id :: rest => do
      match ← userRepo.findById id with
      | none => .fail (.notFoundError ("User not found: " ++ id))
      | some _ => findUsers rest

/-- The loop that adds every listed user. -/
def addMembers (draws : RoomDraws) : List String → ChatProgram Unit
  | [] => .done ()
  | id :: rest => do
      let _ ← roomRepo.addMember (newMember draws.id id .member draws.now)
      addMembers draws rest

def execute (draws : RoomDraws) (requesterId name : String)
    (memberIds : List String) : ChatProgram RoomDto := do
  let allMemberIds :=
    (distinct memberIds).filter fun id => id ≠ requesterId
  findUsers allMemberIds
  let created ← roomRepo.createGroup (newRoom draws requesterId name)
    (newMember draws.id requesterId .owner draws.now)
  addMembers draws allMemberIds
  return created.toRoomDto

end CreateGroupRoom

def AddMember.execute (now : Time) (requesterId roomId userId : String)
    (role : RoomRole) : ChatProgram RoomMemberDto := do
  let _ ← RoomAuthorizer.assertRoomExists roomId
  let _ ← RoomAuthorizer.assertAdmin roomId requesterId
  match ← userRepo.findById userId with
  | none => .fail (.notFoundError "User not found")
  | some _ =>
      match ← roomRepo.getMember roomId userId with
      | some _ => .fail (.conflictError "User is already a member")
      | none =>
          let member ← roomRepo.addMember (newMember roomId userId role now)
          return member.toRoomMemberDto

def RemoveMember.execute (requesterId roomId targetUserId : String) :
    ChatProgram Unit := do
  let _ ← RoomAuthorizer.assertRoomExists roomId
  match ← roomRepo.getMember roomId targetUserId with
  | none => .fail (.notFoundError "Member not found")
  | some target =>
      if requesterId = targetUserId then
        roomRepo.removeMember roomId targetUserId
      else
        match ← roomRepo.getMember roomId requesterId with
        | none => .fail (.forbiddenError "Not a member of this room")
        | some requester =>
            if requester.role = .member then
              .fail (.forbiddenError "Admin or owner required")
            else if target.role = .owner then
              .fail (.forbiddenError "Cannot remove the owner")
            else if requester.role = .admin ∧ target.role = .admin then
              .fail (.forbiddenError "Admin cannot remove another admin")
            else roomRepo.removeMember roomId targetUserId

def DeleteRoom.execute (requesterId roomId : String) : ChatProgram Unit := do
  let room ← RoomAuthorizer.assertRoomExists roomId
  let _ ← match room.kind with
    | .group => RoomAuthorizer.assertOwner roomId requesterId
    | .dm => RoomAuthorizer.assertMember roomId requesterId
  roomRepo.deleteRoom roomId

/-! ## Rules for the lookups -/

/-- The row is the membership that the given spellings refer to. -/
structure Membership (uuid : PgUuid) (state : ChatState)
    (roomId userId : String) (row : RoomMember) : Prop where
  stored : row ∈ state.roomMembers
  room : uuid.read roomId = some row.roomId
  user : uuid.read userId = some row.userId

section Rules

variable {uuid : PgUuid} {now : Time} {state : ChatState} {Result : Type}
  {post : Except Failure Result → ChatState → Prop}

theorem membership_of_first {roomId userId room user : String}
    {row : RoomMember}
    (roomRead : uuid.read roomId = some room)
    (userRead : uuid.read userId = some user)
    (found : first (fun row => row.roomId = room ∧ row.userId = user)
      state.roomMembers = some row) :
    Membership uuid state roomId userId row := by
  rcases condition_of_first found with ⟨sameRoom, sameUser⟩
  exact
    { stored := mem_of_first found
      room := by rw [sameRoom, roomRead]
      user := by rw [sameUser, userRead] }

/-- The lookup of a membership finds its row, which is the only one. -/
theorem Membership.first_eq {roomId userId : String} {row : RoomMember}
    (membership : Membership uuid state roomId userId row)
    (conforms : Conforms uuid state) :
    first (fun other => other.roomId = row.roomId ∧ other.userId = row.userId)
      state.roomMembers = some row := by
  apply first_eq_some_of_unique membership.stored ⟨rfl, rfl⟩
  intro other stored same
  apply Unclashing.eq_of_clash conforms.memberKeys _ stored
    membership.stored same
  rintro left right ⟨sameRoom, sameUser⟩
  exact ⟨sameRoom.symm, sameUser.symm⟩

theorem ensures_findUser {spelled : String}
    {continuation : Option User → ChatProgram Result}
    (throws : ∀ error, post (.error error) state)
    (answers : ∀ id, uuid.read spelled = some id →
      Ensures (chatAdapter uuid) now
        (continuation (first (fun row => row.id = id) state.users))
        state post) :
    Ensures (chatAdapter uuid) now
      (userRepo.findById spelled >>= continuation) state post := by
  apply Ensures.call
  · intro error _
    exact throws error
  · intro answer after answered
    rcases findUser_eq_ok_iff.mp answered with ⟨id, reading, rfl, rfl⟩
    exact answers id reading

theorem ensures_findRoom {spelled : String}
    {continuation : Option Room → ChatProgram Result}
    (throws : ∀ error, post (.error error) state)
    (answers : ∀ id, uuid.read spelled = some id →
      Ensures (chatAdapter uuid) now
        (continuation (first (fun row => row.id = id) state.rooms))
        state post) :
    Ensures (chatAdapter uuid) now
      (roomRepo.findById spelled >>= continuation) state post := by
  apply Ensures.call
  · intro error _
    exact throws error
  · intro answer after answered
    rcases findRoomById_eq_ok_iff.mp answered with ⟨id, reading, rfl, rfl⟩
    exact answers id reading

theorem ensures_findByDmKey {dmKey : Option String}
    {continuation : Option Room → ChatProgram Result}
    (answers : Ensures (chatAdapter uuid) now
      (continuation
        (first (fun row => row.dmKey ≠ none ∧ row.dmKey = dmKey) state.rooms))
      state post) :
    Ensures (chatAdapter uuid) now
      (roomRepo.findByDmKey dmKey >>= continuation) state post := by
  apply Ensures.call
  · intro error failed
    cases failed
  · intro answer after answered
    rcases findByDmKey_eq_ok_iff.mp answered with ⟨rfl, rfl⟩
    exact answers

/-- A lookup of a member throws, finds nobody, or finds the membership. -/
theorem ensures_getMember {roomId userId : String}
    {continuation : Option RoomMember → ChatProgram Result}
    (throws : ∀ error, post (.error error) state)
    (missing :
      Ensures (chatAdapter uuid) now (continuation none) state post)
    (found : ∀ row, Membership uuid state roomId userId row →
      Ensures (chatAdapter uuid) now (continuation (some row)) state post) :
    Ensures (chatAdapter uuid) now
      (roomRepo.getMember roomId userId >>= continuation) state post := by
  apply Ensures.call
  · intro error _
    exact throws error
  · intro answer after answered
    obtain ⟨room, roomRead, user, userRead, looked, rfl⟩ :=
      getMember_eq_ok_iff.mp answered
    cases answer with
    | none => exact missing
    | some row =>
        exact found row (membership_of_first roomRead userRead looked)

/-- The lookup of a member whose row is known. -/
theorem ensures_getMember_of {roomId userId : String} {row : RoomMember}
    {continuation : Option RoomMember → ChatProgram Result}
    (conforms : Conforms uuid state)
    (membership : Membership uuid state roomId userId row)
    (found :
      Ensures (chatAdapter uuid) now (continuation (some row)) state post) :
    Ensures (chatAdapter uuid) now
      (roomRepo.getMember roomId userId >>= continuation) state post := by
  have looked :
      chatAdapter uuid (.roomRepo (.getMember roomId userId)) now state =
        .ok (some row, state) :=
    getMember_eq_ok_iff.mpr
      ⟨row.roomId, membership.room, row.userId, membership.user,
        membership.first_eq conforms, rfl⟩
  exact Ensures.call_ok looked found

theorem ensures_assertRoomExists {roomId : String}
    {continuation : Room → ChatProgram Result}
    (throws : ∀ error, post (.error error) state)
    (found : ∀ room ∈ state.rooms, uuid.read roomId = some room.id →
      Ensures (chatAdapter uuid) now (continuation room) state post) :
    Ensures (chatAdapter uuid) now
      (RoomAuthorizer.assertRoomExists roomId >>= continuation) state post := by
  refine ensures_findRoom throws ?_
  intro id reading
  cases looked : first (fun row => row.id = id) state.rooms with
  | none => exact Ensures.fail (throws _)
  | some room =>
      apply found room (mem_of_first looked)
      rw [condition_of_first looked, reading]

/-- The check of a room that exists. -/
theorem ensures_assertRoomExists_of {roomId : String} {room : Room}
    {continuation : Room → ChatProgram Result}
    (conforms : Conforms uuid state) (stored : room ∈ state.rooms)
    (reading : uuid.read roomId = some room.id)
    (found : Ensures (chatAdapter uuid) now (continuation room) state post) :
    Ensures (chatAdapter uuid) now
      (RoomAuthorizer.assertRoomExists roomId >>= continuation) state post :=
  Ensures.call_ok
    (findRoomById_eq_ok_iff.mpr
      ⟨room.id, reading, conforms.roomIds.first_eq_some stored, rfl⟩) found

theorem ensures_assertMember {roomId userId : String}
    {continuation : RoomMember → ChatProgram Result}
    (throws : ∀ error, post (.error error) state)
    (found : ∀ row, Membership uuid state roomId userId row →
      Ensures (chatAdapter uuid) now (continuation row) state post) :
    Ensures (chatAdapter uuid) now
      (RoomAuthorizer.assertMember roomId userId >>= continuation)
      state post := by
  refine ensures_getMember throws ?_ ?_
  · exact Ensures.fail (throws _)
  · exact found

theorem ensures_assertAdmin {roomId userId : String}
    {continuation : RoomMember → ChatProgram Result}
    (throws : ∀ error, post (.error error) state)
    (found : ∀ row, Membership uuid state roomId userId row →
      row.role ≠ .member →
        Ensures (chatAdapter uuid) now (continuation row) state post) :
    Ensures (chatAdapter uuid) now
      (RoomAuthorizer.assertAdmin roomId userId >>= continuation)
      state post := by
  rw [RoomAuthorizer.assertAdmin, bind_assoc]
  refine ensures_assertMember throws ?_
  intro row membership
  by_cases plain : row.role = .member
  · rw [if_pos plain, fail_bind]
    exact Ensures.fail (throws _)
  · rw [if_neg plain, pure_eq_done, done_bind]
    exact found row membership plain

theorem ensures_assertOwner {roomId userId : String}
    {continuation : RoomMember → ChatProgram Result}
    (throws : ∀ error, post (.error error) state)
    (found : ∀ row, Membership uuid state roomId userId row →
      row.role = .owner →
        Ensures (chatAdapter uuid) now (continuation row) state post) :
    Ensures (chatAdapter uuid) now
      (RoomAuthorizer.assertOwner roomId userId >>= continuation)
      state post := by
  rw [RoomAuthorizer.assertOwner, bind_assoc]
  refine ensures_assertMember throws ?_
  intro row membership
  by_cases owner : row.role = .owner
  · rw [if_neg (not_not.mpr owner), pure_eq_done, done_bind]
    exact found row membership owner
  · rw [if_pos owner, fail_bind]
    exact Ensures.fail (throws _)

end Rules

/-! ## How a request ends -/

section Endings

variable (uuid : PgUuid) (now : Time) (draws : RoomDraws) (state : ChatState)

/-- The endings of `CreateDirectRoom`: only a fresh room gets its members. -/
inductive CreateDirectRoom.Ends (requesterId targetUserId : String) :
    Except Failure RoomDto → ChatState → Prop where
  | throws (error : Failure) :
      Ends requesterId targetUserId (.error error) state
  | found (room : Room)
      (stored : room ∈ state.rooms)
      (keyed : room.dmKey = some (roomRepo.dmKey requesterId targetUserId)) :
      Ends requesterId targetUserId (.ok room.toRoomDto) state
  | creates (room : Room) (memberA memberB : RoomMember)
      (unknown : ∀ other ∈ state.rooms,
        other.dmKey ≠ some (roomRepo.dmKey requesterId targetUserId))
      (reads : PgRoomRepository.readRoom uuid
        (newRoom draws requesterId targetUserId) = .ok room)
      (fits : PgRoomRepository.roomViolation state room = none)
      (readsA : PgRoomRepository.readMember uuid
        (newMember draws.id requesterId .member draws.now) = .ok memberA)
      (readsB : PgRoomRepository.readMember uuid
        (newMember draws.id targetUserId .member draws.now) = .ok memberB) :
      Ends requesterId targetUserId (.ok room.toRoomDto)
        { state with
          rooms := state.rooms ++ [room]
          roomMembers :=
            PgRoomRepository.insertIgnoring memberB
              (PgRoomRepository.insertIgnoring memberA state.roomMembers) }

/-- The endings of `CreateGroupRoom`: a new room has its owner at once. -/
inductive CreateGroupRoom.Ends (requesterId name : String) :
    Except Failure RoomDto → ChatState → Prop where
  | throws (error : Failure) : Ends requesterId name (.error error) state
  | creates (outcome : Except Failure RoomDto) (room : Room)
      (owner : RoomMember) (joined : List RoomMember)
      (reads : PgRoomRepository.readRoom uuid
        (newRoom draws requesterId name) = .ok room)
      (fits : PgRoomRepository.roomViolation state room = none)
      (readsOwner : PgRoomRepository.readMember uuid
        (newMember draws.id requesterId .owner draws.now) = .ok owner)
      (members : ∀ row ∈ joined, ∃ user,
        row = newMember room.id user .member draws.now)
      (returns : ∀ dto, outcome = .ok dto → dto = room.toRoomDto) :
      Ends requesterId name outcome
        { state with
          rooms := state.rooms ++ [room]
          roomMembers := state.roomMembers ++ owner :: joined }

/-- The endings of `AddMember`. -/
inductive AddMember.Ends (requesterId roomId userId : String)
    (role : RoomRole) : Except Failure RoomMemberDto → ChatState → Prop where
  | throws (error : Failure) :
      Ends requesterId roomId userId role (.error error) state
  | adds (requester row : RoomMember)
      (member : Membership uuid state roomId requesterId requester)
      (allowed : requester.role ≠ .member)
      (reads : PgRoomRepository.readMember uuid
        (newMember roomId userId role now) = .ok row)
      (fresh : ∀ other ∈ state.roomMembers,
        ¬ PgRoomRepository.sameKey other row) :
      Ends requesterId roomId userId role (.ok row.toRoomMemberDto)
        { state with roomMembers := state.roomMembers ++ [row] }

/-- The tables after the membership of the row has been removed. -/
def withoutMember (row : RoomMember) : ChatState :=
  { state with
    roomMembers :=
      deleteWhere
        (fun other => other.roomId = row.roomId ∧ other.userId = row.userId)
        state.roomMembers }

/-- The endings of `RemoveMember`: leaving is checked for nothing. -/
inductive RemoveMember.Ends (requesterId roomId targetUserId : String) :
    Except Failure Unit → ChatState → Prop where
  | throws (error : Failure) :
      Ends requesterId roomId targetUserId (.error error) state
  | leaves (target : RoomMember)
      (self : requesterId = targetUserId)
      (member : Membership uuid state roomId targetUserId target) :
      Ends requesterId roomId targetUserId (.ok ())
        (withoutMember state target)
  | removes (target requester : RoomMember)
      (member : Membership uuid state roomId targetUserId target)
      (remover : Membership uuid state roomId requesterId requester)
      (allowed : requester.role ≠ .member)
      (notOwner : target.role ≠ .owner)
      (notPeer : ¬ (requester.role = .admin ∧ target.role = .admin)) :
      Ends requesterId roomId targetUserId (.ok ())
        (withoutMember state target)

/-- The endings of `DeleteRoom`. -/
inductive DeleteRoom.Ends (requesterId roomId : String) :
    Except Failure Unit → ChatState → Prop where
  | throws (error : Failure) : Ends requesterId roomId (.error error) state
  | deletes (room : Room) (requester : RoomMember)
      (stored : room ∈ state.rooms)
      (member : Membership uuid state roomId requesterId requester)
      (same : requester.roomId = room.id)
      (allowed : room.kind = .group → requester.role = .owner) :
      Ends requesterId roomId (.ok ())
        (PgRoomRepository.cascade state room.id)

variable {uuid now state}

theorem AddMember.Ends.unchanged {requesterId roomId userId : String}
    {role : RoomRole} {error : Failure} {after : ChatState}
    (ends : AddMember.Ends uuid now state requesterId roomId userId role
      (.error error) after) :
    after = state := by
  cases ends
  rfl

theorem RemoveMember.Ends.unchanged
    {requesterId roomId targetUserId : String} {error : Failure}
    {after : ChatState}
    (ends : RemoveMember.Ends uuid state requesterId roomId targetUserId
      (.error error) after) :
    after = state := by
  cases ends
  rfl

theorem DeleteRoom.Ends.unchanged {requesterId roomId : String}
    {error : Failure} {after : ChatState}
    (ends : DeleteRoom.Ends uuid state requesterId roomId (.error error)
      after) :
    after = state := by
  cases ends
  rfl

end Endings

section

variable {uuid : PgUuid} {now : Time} {draws : RoomDraws} {state : ChatState}

theorem AddMember.execute_ends {clock : Time}
    (requesterId roomId userId : String) (role : RoomRole) :
    Ensures (chatAdapter uuid) clock
      (AddMember.execute now requesterId roomId userId role) state
      (AddMember.Ends uuid now state requesterId roomId userId role) := by
  refine ensures_assertRoomExists .throws ?_
  intro room _ _
  refine ensures_assertAdmin .throws ?_
  intro requester member allowed
  refine ensures_findUser .throws ?_
  intro user _
  cases first (fun row => row.id = user) state.users with
  | none => exact Ensures.fail (.throws _)
  | some found =>
      refine ensures_getMember .throws ?_ ?_
      · apply Ensures.call
        · intro error _
          exact .throws error
        · intro answer after answered
          obtain ⟨row, reads, fresh, -, rfl, rfl⟩ :=
            insertMember_eq_ok_iff.mp answered
          exact Ensures.done (.adds requester row member allowed reads fresh)
      · intro row _
        exact Ensures.fail (.throws _)

theorem removeMember_ensures {roomId userId : String} {target : RoomMember}
    {post : Except Failure Unit → ChatState → Prop}
    (member : Membership uuid state roomId userId target)
    (removed : post (.ok ()) (withoutMember state target)) :
    Ensures (chatAdapter uuid) now
      (roomRepo.removeMember roomId userId) state post := by
  have deleted :
      chatAdapter uuid (.roomRepo (.removeMember roomId userId)) now state =
        .ok ((), withoutMember state target) :=
    removeMember_eq_ok_iff.mpr
      ⟨target.roomId, member.room, target.userId, member.user, rfl⟩
  exact Ensures.call_ok deleted (Ensures.done removed)

theorem RemoveMember.execute_ends (requesterId roomId targetUserId : String) :
    Ensures (chatAdapter uuid) now
      (RemoveMember.execute requesterId roomId targetUserId) state
      (RemoveMember.Ends uuid state requesterId roomId targetUserId) := by
  refine ensures_assertRoomExists .throws ?_
  intro room _ _
  refine ensures_getMember .throws (Ensures.fail (.throws _)) ?_
  intro target member
  by_cases self : requesterId = targetUserId
  · simp only [if_pos self]
    exact removeMember_ensures member (.leaves target self member)
  · simp only [if_neg self]
    refine ensures_getMember .throws (Ensures.fail (.throws _)) ?_
    intro requester remover
    by_cases plain : requester.role = .member
    · simp only [if_pos plain]
      exact Ensures.fail (.throws _)
    by_cases owner : target.role = .owner
    · simp only [if_neg plain, if_pos owner]
      exact Ensures.fail (.throws _)
    by_cases peer : requester.role = .admin ∧ target.role = .admin
    · simp only [if_neg plain, if_neg owner, if_pos peer]
      exact Ensures.fail (.throws _)
    simp only [if_neg plain, if_neg owner, if_neg peer]
    exact removeMember_ensures member
      (.removes target requester member remover plain owner peer)

/-- Whoever is a member can leave, whatever the role. -/
theorem RemoveMember.execute_self {roomId userId : String}
    {target : RoomMember} (conforms : Conforms uuid state)
    (member : Membership uuid state roomId userId target) :
    Ensures (chatAdapter uuid) now
      (RemoveMember.execute userId roomId userId) state
      fun outcome after =>
        outcome = .ok () ∧ after = withoutMember state target := by
  rcases conforms.memberRooms target member.stored with ⟨room, stored, same⟩
  refine ensures_assertRoomExists_of conforms stored (same ▸ member.room) ?_
  refine ensures_getMember_of conforms member ?_
  simp only [if_true]
  exact removeMember_ensures member ⟨rfl, rfl⟩

theorem DeleteRoom.execute_ends (requesterId roomId : String) :
    Ensures (chatAdapter uuid) now
      (DeleteRoom.execute requesterId roomId) state
      (DeleteRoom.Ends uuid state requesterId roomId) := by
  refine ensures_assertRoomExists .throws ?_
  intro room stored roomRead
  have deletes (requester : RoomMember)
      (member : Membership uuid state roomId requesterId requester)
      (allowed : room.kind = .group → requester.role = .owner) :
      Ensures (chatAdapter uuid) now (roomRepo.deleteRoom roomId) state
        (DeleteRoom.Ends uuid state requesterId roomId) := by
    have same : requester.roomId = room.id :=
      Option.some.inj (member.room.symm.trans roomRead)
    apply Ensures.call
    · intro error _
      exact .throws error
    · intro answer after answered
      rcases deleteRoom_eq_ok_iff.mp answered with ⟨id, reading, rfl⟩
      cases roomRead.symm.trans reading
      exact Ensures.done (.deletes room requester stored member same allowed)
  cases kind : room.kind with
  | group =>
      refine ensures_assertOwner .throws ?_
      intro requester member owner
      exact deletes requester member fun _ => owner
  | dm =>
      refine ensures_assertMember .throws ?_
      intro requester member
      exact deletes requester member fun group => by cases kind.symm.trans group

theorem readNewMember_eq_ok_iff {roomId userId : String} {role : RoomRole}
    {row : RoomMember} :
    PgRoomRepository.readMember uuid (newMember roomId userId role now) =
        .ok row ↔
      ∃ room, uuid.read roomId = some room ∧
        ∃ user, uuid.read userId = some user ∧
          row = newMember room user role now := by
  rw [readMember_eq_ok_iff]
  refine exists_congr fun room => and_congr_right fun _ =>
    exists_congr fun user => and_congr_right fun _ => ?_
  constructor
  · rintro ⟨lastRead, reading, rfl⟩
    cases reading
    rfl
  · rintro rfl
    exact ⟨none, rfl, rfl⟩

theorem readNewMember {roomId userId room user : String} (role : RoomRole)
    (now : Time)
    (roomRead : uuid.read roomId = some room)
    (userRead : uuid.read userId = some user) :
    PgRoomRepository.readMember uuid (newMember roomId userId role now) =
      .ok (newMember room user role now) :=
  readNewMember_eq_ok_iff.mpr ⟨room, roomRead, user, userRead, rfl⟩

/-- A new member of a stored room fits if its user is stored. -/
theorem newMember_refers {room user : String} {role : RoomRole}
    (stored : ∃ row ∈ state.rooms, row.id = room)
    (known : ∃ row ∈ state.users, row.id = user) :
    PgRoomRepository.memberDangling state (newMember room user role now) =
      none :=
  memberDangling_eq_none_iff.mpr ⟨stored, known, nofun⟩

/-- The creator of an inserted room is a stored user. -/
theorem creator_known {room row : Room} {creator : String}
    (createdBy : room.createdBy = some creator)
    (reads : PgRoomRepository.readRoom uuid room = .ok row)
    (fits : PgRoomRepository.roomViolation state row = none) :
    ∃ id, uuid.read creator = some id ∧ row.createdBy = some id ∧
      ∃ user ∈ state.users, user.id = id := by
  rcases readRoom_eq_ok_iff.mp reads with ⟨id, -, -, value, reading, rfl⟩
  rw [createdBy] at reading
  rcases nullable_some_eq_ok_iff.mp reading with ⟨user, spelled, rfl⟩
  rcases roomViolation_eq_none_iff.mp fits with ⟨-, -, refers⟩
  exact ⟨user, spelled, rfl, refers user rfl⟩

/-- The second `INSERT` of `createDm` cannot fail once the first is done. -/
theorem insertDmMembers_ok {room : Room} {requesterId targetUserId : String}
    {target : String}
    (targetRead : uuid.read targetUserId = some target)
    (targetKnown : ∃ user ∈ state.users, user.id = target)
    (reads : PgRoomRepository.readRoom uuid
      (CreateDirectRoom.newRoom draws requesterId targetUserId) = .ok room)
    (fits : PgRoomRepository.roomViolation state room = none) :
    ∃ memberA memberB,
      PgRoomRepository.readMember uuid
          (newMember draws.id requesterId .member draws.now) = .ok memberA ∧
        PgRoomRepository.readMember uuid
            (newMember draws.id targetUserId .member draws.now) =
            .ok memberB ∧
          chatAdapter uuid
              (.roomRepo (.insertDmMembers
                (newMember draws.id requesterId .member draws.now)
                (newMember draws.id targetUserId .member draws.now)))
              now { state with rooms := state.rooms ++ [room] } =
            .ok ((), { state with
              rooms := state.rooms ++ [room]
              roomMembers :=
                PgRoomRepository.insertIgnoring memberB
                  (PgRoomRepository.insertIgnoring memberA
                    state.roomMembers) }) := by
  obtain ⟨requester, requesterRead, -, requesterKnown⟩ :=
    creator_known rfl reads fits
  rcases readRoom_eq_ok_iff.mp reads with ⟨id, idRead, -, createdBy, -, rfl⟩
  have readsA := readNewMember .member draws.now idRead requesterRead
  have readsB := readNewMember .member draws.now idRead targetRead
  refine ⟨_, _, readsA, readsB, insertDmMembers_eq_ok_iff.mpr
    ⟨_, readsA, _, readsB, ?_, ?_, rfl⟩⟩
  · exact newMember_refers ⟨_, List.mem_append_right _ (.head _), rfl⟩
      requesterKnown
  · exact newMember_refers ⟨_, List.mem_append_right _ (.head _), rfl⟩
      targetKnown

theorem readDirectRoom_dmKey {requesterId targetUserId : String} {room : Room}
    (reads : PgRoomRepository.readRoom uuid
      (CreateDirectRoom.newRoom draws requesterId targetUserId) = .ok room) :
    room.dmKey = some (roomRepo.dmKey requesterId targetUserId) := by
  rcases readRoom_eq_ok_iff.mp reads with ⟨_, _, -, _, _, rfl⟩
  rfl

/-- The insertion may find that another call has taken the key meanwhile. -/
theorem CreateDirectRoom.create_ends {requesterId targetUserId : String}
    {target : String}
    (targetRead : uuid.read targetUserId = some target)
    (targetKnown : ∃ user ∈ state.users, user.id = target) :
    Ensures (chatAdapter uuid) now
      (CreateDirectRoom.create draws requesterId targetUserId) state
      (CreateDirectRoom.Ends uuid draws state requesterId targetUserId) := by
  apply Ensures.call
  · intro error _
    exact .throws error
  intro answer after answered
  rcases insertDm_eq_ok_iff.mp answered with ⟨room, reads, ends⟩
  have keyed := readDirectRoom_dmKey reads
  split_ifs at ends with taken
  · rcases ends with ⟨rfl, rfl⟩
    refine Ensures.call_ok (findByDmKey_eq_ok_iff.mpr ⟨rfl, rfl⟩) ?_
    cases looked : first (fun row => row.dmKey ≠ none ∧
        row.dmKey = (newRoom draws requesterId targetUserId).dmKey)
        state.rooms with
    | none => exact Ensures.fail (Ends.throws _)
    | some found =>
        exact Ensures.done
          (Ends.found found (mem_of_first looked) (condition_of_first looked).2)
  · rcases ends with ⟨fits, rfl, rfl⟩
    have unknown : ∀ other ∈ state.rooms,
        other.dmKey ≠ some (roomRepo.dmKey requesterId targetUserId) := by
      intro other stored same
      exact taken ⟨by rw [keyed]; exact Option.some_ne_none _, other, stored,
        same.trans keyed.symm⟩
    obtain ⟨memberA, memberB, readsA, readsB, inserted⟩ :=
      insertDmMembers_ok targetRead targetKnown reads fits
    apply Ensures.call_ok inserted
    exact Ensures.done
      (.creates room memberA memberB unknown reads fits readsA readsB)

theorem CreateDirectRoom.execute_ends (requesterId targetUserId : String) :
    Ensures (chatAdapter uuid) now
      (CreateDirectRoom.execute draws requesterId targetUserId) state
      (CreateDirectRoom.Ends uuid draws state requesterId targetUserId) := by
  refine ensures_findUser .throws ?_
  intro target targetRead
  cases looked : first (fun row => row.id = target) state.users with
  | none => exact Ensures.fail (.throws _)
  | some user =>
      refine ensures_findByDmKey ?_
      cases known : first (fun row => row.dmKey ≠ none ∧
          row.dmKey = some (roomRepo.dmKey requesterId targetUserId))
          state.rooms with
      | some existing =>
          exact Ensures.done
            (.found existing (mem_of_first known) (condition_of_first known).2)
      | none =>
          exact CreateDirectRoom.create_ends targetRead
            ⟨user, mem_of_first looked, (condition_of_first looked :)⟩

theorem CreateGroupRoom.findUsers_ensures (ids : List String) :
    Ensures (chatAdapter uuid) now (CreateGroupRoom.findUsers ids) state
      fun _ after => after = state := by
  induction ids with
  | nil => exact Ensures.done rfl
  | cons id rest induction =>
      refine ensures_findUser (fun _ => rfl) ?_
      intro user _
      cases first (fun row => row.id = user) state.users with
      | none => exact Ensures.fail rfl
      | some found => exact induction

/-- The loop appends plain members of the new room and may stop on the way. -/
theorem CreateGroupRoom.addMembers_ensures {room : String}
    (idRead : uuid.read draws.id = some room) (ids : List String) :
    Ensures (chatAdapter uuid) now (CreateGroupRoom.addMembers draws ids)
      state fun _ after => ∃ joined : List RoomMember,
        (∀ row ∈ joined, ∃ user,
          row = newMember room user .member draws.now) ∧
          after = { state with roomMembers := state.roomMembers ++ joined } := by
  have nobody : ∃ joined : List RoomMember,
      (∀ row ∈ joined, ∃ user, row = newMember room user .member draws.now) ∧
        state = { state with roomMembers := state.roomMembers ++ joined } :=
    ⟨[], by simp, by simp⟩
  induction ids generalizing state with
  | nil => exact Ensures.done nobody
  | cons id rest induction =>
      apply Ensures.call
      · intro error _
        exact nobody
      · intro answer after answered
        obtain ⟨row, reads, -, -, -, rfl⟩ :=
          insertMember_eq_ok_iff.mp answered
        rcases readNewMember_eq_ok_iff.mp reads with
            ⟨same, reading, user, -, rfl⟩
        cases idRead.symm.trans reading
        refine Ensures.imp (induction ⟨[], by simp, by simp⟩) ?_
        rintro outcome last ⟨joined, members, rfl⟩
        refine ⟨newMember room user .member draws.now :: joined, ?_, ?_⟩
        · rw [List.forall_mem_cons]
          exact ⟨⟨user, rfl⟩, members⟩
        · simp

/-- A room that can be inserted has no members yet. -/
theorem no_members_of_fits {room : Room} (conforms : Conforms uuid state)
    (fits : PgRoomRepository.roomViolation state room = none) :
    ∀ row ∈ state.roomMembers, row.roomId ≠ room.id := by
  intro row stored same
  rcases conforms.memberRooms row stored with ⟨old, found, sameRoom⟩
  exact (roomViolation_eq_none_iff.mp fits).1 old found (sameRoom.trans same)

/-- The second `INSERT` of `createGroup` cannot fail once the first is done. -/
theorem insertOwner_ok {room : Room} {user : String}
    (conforms : Conforms uuid state)
    (fits : PgRoomRepository.roomViolation state room = none)
    (idRead : uuid.read draws.id = some room.id) {requesterId : String}
    (requesterRead : uuid.read requesterId = some user)
    (requesterKnown : ∃ row ∈ state.users, row.id = user) :
    chatAdapter uuid
        (.roomRepo (.insertMember
          (newMember draws.id requesterId .owner draws.now)))
        now { state with rooms := state.rooms ++ [room] } =
      .ok (newMember room.id user .owner draws.now, { state with
        rooms := state.rooms ++ [room]
        roomMembers :=
          state.roomMembers ++ [newMember room.id user .owner draws.now] }) := by
  apply insertMember_eq_ok_iff.mpr
  refine ⟨_, readNewMember .owner draws.now idRead requesterRead, ?_, ?_, rfl,
    rfl⟩
  · rintro other stored ⟨sameRoom, -⟩
    exact no_members_of_fits conforms fits other stored sameRoom
  · exact newMember_refers ⟨room, List.mem_append_right _ (.head _), rfl⟩
      requesterKnown

theorem CreateGroupRoom.execute_ends (conforms : Conforms uuid state)
    (requesterId name : String) (memberIds : List String) :
    Ensures (chatAdapter uuid) now
      (CreateGroupRoom.execute draws requesterId name memberIds) state
      (CreateGroupRoom.Ends uuid draws state requesterId name) := by
  refine Ensures.bind (findUsers_ensures _) ?_ ?_
  · rintro error _ rfl
    exact .throws error
  rintro _ _ rfl
  apply Ensures.call
  · intro error _
    exact .throws error
  intro answer after answered
  rcases insertGroup_eq_ok_iff.mp answered with ⟨room, reads, fits, rfl, rfl⟩
  obtain ⟨requester, requesterRead, -, requesterKnown⟩ :=
    creator_known rfl reads fits
  have idRead : uuid.read draws.id = some room.id := by
    rcases readRoom_eq_ok_iff.mp reads with ⟨id, reading, -, _, -, rfl⟩
    exact reading
  have readsOwner := readNewMember .owner draws.now idRead requesterRead
  apply Ensures.call_ok
    (insertOwner_ok conforms fits idRead requesterRead requesterKnown)
  change Ensures (chatAdapter uuid) now
    (addMembers draws _ >>= fun _ => .done room.toRoomDto) _ _
  -- the loop may stop at any id; the room and its owner stay
  have created (outcome : Except Failure RoomDto) (joined : List RoomMember)
      (members : ∀ row ∈ joined, ∃ user,
        row = newMember room.id user .member draws.now)
      (returns : ∀ dto, outcome = .ok dto → dto = room.toRoomDto) :=
    CreateGroupRoom.Ends.creates outcome room _ joined reads fits readsOwner
      members returns
  refine Ensures.bind (addMembers_ensures idRead _) ?_ ?_
  · rintro error _ ⟨joined, members, rfl⟩
    simpa using created (.error error) joined members nofun
  · rintro _ _ ⟨joined, members, rfl⟩
    apply Ensures.done
    simpa using
      created (.ok room.toRoomDto) joined members fun _ same => by cases same; rfl

end

end ChatBackend.Chat.RoomUseCases
