import ChatBackend.Chat.Requests

/-!
# Direct rooms that can be used

`CreateDirectRoom` returns a stored room of the pair, found by the lookup or by
the insertion that lost a race, or a fresh one.  Only the fresh room gets its
members; a stored one is returned as it is, also when a participant has left
it or when the call that made it stopped between its two statements.

The states considered are those that requests reach of which any may stop after
some of its statements.
-/

namespace ChatBackend.Chat.DirectRooms

open Effects
open Relational
open Effects.Program
open ChatBackend.Chat.Store
open ChatBackend.Chat.Schema
open ChatBackend.Chat.RoomUseCases
open ChatBackend.Chat.MessageUseCases
open ChatBackend.Chat.Requests

/-! ## Runs with requests that stop -/

/-- A request that is completed, or that stops after some statements. -/
inductive Attempt where
  | completes (request : ChatRequest) (now : Time)
  | stops (request : ChatRequest) (now : Time) (statements : Nat)
deriving DecidableEq

/-- The state an attempt leaves. -/
def attempt (uuid : PgUuid) (state : ChatState) : Attempt → ChatState
  | .completes request now => serve uuid state (request, now)
  | .stops request now statements =>
      request.program.stopAfter (chatAdapter uuid) now statements state

variable {uuid : PgUuid} {now : Time} {draws : RoomDraws} {state : ChatState}

theorem conforms_attempt (conforms : Conforms uuid state)
    (attempted : Attempt) : Conforms uuid (attempt uuid state attempted) := by
  cases attempted with
  | completes request now => exact conforms.run
  | stops request now statements =>
      exact stopAfter_preserves
        (fun _ _ _ _ before answered => before.statement answered)
        statements request.program conforms

/-- Whatever was attempted, the tables conform. -/
theorem conforms_reached {start : ChatState} (conforms : Conforms uuid start)
    (history : List Attempt) :
    Conforms uuid (Transition.run (attempt uuid) start history) := by
  refine Transition.run_invariant ?_ conforms history
  intro before attempted conformsBefore
  exact conforms_attempt conformsBefore attempted

/-! ## The property -/

/-- The user, however spelled, is a member of the room. -/
def HasMember (uuid : PgUuid) (state : ChatState) (roomId userId : String) :
    Prop :=
  ∃ row ∈ state.roomMembers,
    row.roomId = roomId ∧ uuid.read userId = some row.userId

instance (uuid : PgUuid) (state : ChatState) (roomId userId : String) :
    Decidable (HasMember uuid state roomId userId) :=
  inferInstanceAs (Decidable (∃ _ ∈ state.roomMembers, _))

/--
Both users are members, and the first of them can list and send: whatever texts
the database can store, with an attachment that is there, under a fresh id.
-/
structure Usable (uuid : PgUuid) (state : ChatState)
    (roomId userA userB : String) : Prop where
  memberA : HasMember uuid state roomId userA
  memberB : HasMember uuid state roomId userB
  lists : ∀ now limit, ∃ dtos,
    ((ListMessages.execute roomId userA none limit).run (chatAdapter uuid)
      now state).1 = .ok dtos
  sends : ∀ now (draws : SendMessage.Draws) (input : SendMessage.Input) (id),
    input.roomId = roomId → input.senderId = userA →
      Storable input.texts →
        Attached state input.attachmentKey → uuid.read draws.id = some id →
          (∀ message ∈ state.messages, message.id ≠ id) →
            ∃ dto, ((SendMessage.execute draws input).run (chatAdapter uuid)
              now state).1 = .ok dto

/-- The members of a room can use it. -/
theorem usable_of_members {room : Room} {userA userB : String}
    (conforms : Conforms uuid state) (stored : room ∈ state.rooms)
    (memberA : HasMember uuid state room.id userA)
    (memberB : HasMember uuid state room.id userB) :
    Usable uuid state room.id userA userB := by
  rcases memberA with ⟨row, member, inRoom, userRead⟩
  have membership : Membership uuid state room.id userA row :=
    { stored := member
      room := by rw [inRoom, conforms.canonicalRooms room stored]
      user := userRead }
  exact
    { memberA := ⟨row, member, inRoom, userRead⟩
      memberB := memberB
      lists := fun now limit =>
        ⟨_, (ListMessages.execute_returns conforms membership limit).1⟩
      sends := by
        intro now draws input id sameRoom sameSender stores attached drawn fresh
        rw [← sameRoom, ← sameSender] at membership
        exact SendMessage.execute_returns conforms membership attached drawn
          fresh stores }

/-- If the call returns a room, both users can use it. -/
def ReturnsUsable (uuid : PgUuid) (now : Time) (state : ChatState)
    (userA userB : String) (call : ChatProgram RoomDto) : Prop :=
  ∀ dto, (call.run (chatAdapter uuid) now state).1 = .ok dto →
    Usable uuid (call.run (chatAdapter uuid) now state).2 dto.id userA userB

/-- Both users are members of every room that is stored under their key. -/
def StoredWithMembers (uuid : PgUuid) (state : ChatState)
    (userA userB : String) : Prop :=
  ∀ room ∈ state.rooms, room.dmKey = some (roomRepo.dmKey userA userB) →
    HasMember uuid state room.id userA ∧ HasMember uuid state room.id userB

instance (uuid : PgUuid) (state : ChatState) (userA userB : String) :
    Decidable (StoredWithMembers uuid state userA userB) :=
  inferInstanceAs (Decidable (∀ _ ∈ state.rooms, _))

/-! ## The exits of the call -/

theorem sameKey_mem_insertIgnoring (row : RoomMember)
    (rows : List RoomMember) :
    ∃ other ∈ PgRoomRepository.insertIgnoring row rows,
      PgRoomRepository.sameKey other row := by
  unfold PgRoomRepository.insertIgnoring
  split_ifs with stored
  · exact stored
  · exact ⟨row, List.mem_append_right _ (.head _), rfl, rfl⟩

theorem hasMember_of_sameKey {row other : RoomMember} {roomId userId : String}
    (stored : other ∈ state.roomMembers)
    (same : PgRoomRepository.sameKey other row) (inRoom : row.roomId = roomId)
    (userRead : uuid.read userId = some row.userId) :
    HasMember uuid state roomId userId :=
  ⟨other, stored, same.1.trans inRoom, by rw [same.2, userRead]⟩

/-- A call that stores a room lets both users use it; a found one must. -/
theorem usable_of_ends {userA userB : String}
    {outcome : Except Failure RoomDto} {after : ChatState}
    (conformsAfter : Conforms uuid after)
    (stored : StoredWithMembers uuid state userA userB)
    (ends : CreateDirectRoom.Ends uuid draws state userA userB outcome after) :
    ∀ dto, outcome = .ok dto → Usable uuid after dto.id userA userB := by
  rintro dto returned
  cases ends with
  | throws error => cases returned
  | found room member keyed =>
      cases returned
      rcases stored room member keyed with ⟨memberA, memberB⟩
      exact usable_of_members conformsAfter member memberA memberB
  | creates room rowA rowB unknown reads fits readsA readsB =>
      cases returned
      rcases readRoom_eq_ok_iff.mp reads with ⟨id, idRead, -, _, -, rfl⟩
      obtain ⟨roomA, readA, _, userARead, rfl⟩ :=
        readNewMember_eq_ok_iff.mp readsA
      obtain ⟨roomB, readB, _, userBRead, rfl⟩ :=
        readNewMember_eq_ok_iff.mp readsB
      cases idRead.symm.trans readA
      cases idRead.symm.trans readB
      apply usable_of_members conformsAfter
      · exact List.mem_append_right _ (.head _)
      · obtain ⟨other, member, same⟩ :=
          sameKey_mem_insertIgnoring _ state.roomMembers
        exact hasMember_of_sameKey (mem_insertIgnoring_of_mem member) same rfl
          userARead
      · rcases sameKey_mem_insertIgnoring _ _ with ⟨other, member, same⟩
        exact hasMember_of_sameKey member same rfl userBRead

/-- The room stored under a key is the one a lookup of the key finds. -/
theorem first_dmKey {room : Room} {dmKey : Option String}
    (conforms : Conforms uuid state) (stored : room ∈ state.rooms)
    (given : dmKey ≠ none) (keyed : room.dmKey = dmKey) :
    first (fun row => row.dmKey ≠ none ∧ row.dmKey = dmKey) state.rooms =
      some room := by
  apply first_eq_some_of_unique stored ⟨keyed ▸ given, keyed⟩
  intro other otherStored same
  apply conforms.dmKeys.eq_of_clash _ otherStored stored
  · exact ⟨same.1, same.2.trans keyed.symm⟩
  · rintro left right ⟨leftGiven, clash⟩
    exact ⟨clash ▸ leftGiven, clash.symm⟩

/-- A call finds the room that is stored under its key. -/
theorem execute_finds {userA userB target : String} {room : Room}
    (conforms : Conforms uuid state)
    (targetRead : uuid.read userB = some target)
    (targetKnown : ∃ user ∈ state.users, user.id = target)
    (stored : room ∈ state.rooms)
    (keyed : room.dmKey = some (roomRepo.dmKey userA userB)) :
    Ensures (chatAdapter uuid) now
      (CreateDirectRoom.execute draws userA userB) state
      fun outcome after => outcome = .ok room.toRoomDto ∧ after = state := by
  rcases targetKnown with ⟨user, userStored, same⟩
  obtain ⟨found, looked⟩ :
      ∃ found, first (fun row => row.id = target) state.users = some found :=
    exists_first userStored same
  apply Ensures.call_ok
    (findUser_eq_ok_iff.mpr ⟨target, targetRead, looked, rfl⟩)
  refine ensures_findByDmKey ?_
  rw [first_dmKey conforms stored (Option.some_ne_none _) keyed]
  exact Ensures.done ⟨rfl, rfl⟩

/-- The insertion finds the room that has taken its key in the meantime. -/
theorem create_finds {userA userB id creator : String} {room : Room}
    (conforms : Conforms uuid state)
    (drawn : uuid.read draws.id = some id)
    (creatorRead : uuid.read userA = some creator)
    (stored : room ∈ state.rooms)
    (keyed : room.dmKey = some (roomRepo.dmKey userA userB)) :
    Ensures (chatAdapter uuid) now
      (CreateDirectRoom.create draws userA userB) state
      fun outcome after => outcome = .ok room.toRoomDto ∧ after = state := by
  have reads : PgRoomRepository.readRoom uuid
      (CreateDirectRoom.newRoom draws userA userB) =
        .ok { CreateDirectRoom.newRoom draws userA userB with
          id, createdBy := some creator } :=
    readRoom_eq_ok_iff.mpr
      ⟨id, drawn, rfl, some creator,
        nullable_some_eq_ok_iff.mpr ⟨creator, creatorRead, rfl⟩, rfl⟩
  have given : (CreateDirectRoom.newRoom draws userA userB).dmKey ≠ none :=
    Option.some_ne_none _
  have taken : chatAdapter uuid
      (.roomRepo (.insertDm (CreateDirectRoom.newRoom draws userA userB))) now
        state = .ok (none, state) := by
    refine insertDm_eq_ok_iff.mpr ⟨_, reads, ?_⟩
    rw [if_pos ⟨given, room, stored, keyed⟩]
    exact ⟨rfl, rfl⟩
  apply Ensures.call_ok taken
  refine Ensures.call_ok
    (findByDmKey_eq_ok_iff.mpr
      ⟨first_dmKey conforms stored given keyed, rfl⟩) ?_
  exact Ensures.done ⟨rfl, rfl⟩

/-- A call that finds the stored room returns a usable one only if it is. -/
theorem storedWithMembers_of_returns {userA userB : String}
    {call : ChatProgram RoomDto}
    (finds : ∀ room ∈ state.rooms,
      room.dmKey = some (roomRepo.dmKey userA userB) →
        Ensures (chatAdapter uuid) now call state fun outcome after =>
          outcome = .ok room.toRoomDto ∧ after = state)
    (usable : ReturnsUsable uuid now state userA userB call) :
    StoredWithMembers uuid state userA userB := by
  intro room stored keyed
  rcases finds room stored keyed with ⟨returned, same⟩
  have both := usable room.toRoomDto returned
  rw [same] at both
  exact ⟨both.memberA, both.memberB⟩

/--
A returned direct room is usable.  Take any state that requests reach, some of
which may have stopped between two statements, and two existing users.  A call
for them, and likewise its insertion when the lookup has come before other
requests, returns only usable rooms exactly when both users are members of
whatever room is stored under their key.
-/
theorem returned_dm_usable_iff {start : ChatState}
    (conforms : Conforms uuid start) (history : List Attempt)
    (draws : RoomDraws) {userA userB id creator target : String}
    (drawn : uuid.read draws.id = some id)
    (creatorRead : uuid.read userA = some creator)
    (targetRead : uuid.read userB = some target) :
    let state := Transition.run (attempt uuid) start history
    (∃ user ∈ state.users, user.id = target) →
      (ReturnsUsable uuid now state userA userB
            (CreateDirectRoom.execute draws userA userB) ↔
          StoredWithMembers uuid state userA userB) ∧
        (ReturnsUsable uuid now state userA userB
            (CreateDirectRoom.create draws userA userB) ↔
          StoredWithMembers uuid state userA userB) := by
  intro state targetKnown
  have reached := conforms_reached conforms history
  refine ⟨⟨?_, ?_⟩, ⟨?_, ?_⟩⟩
  · exact storedWithMembers_of_returns fun room stored keyed =>
      execute_finds reached targetRead targetKnown stored keyed
  · intro stored
    exact usable_of_ends reached.run stored (CreateDirectRoom.execute_ends _ _)
  · exact storedWithMembers_of_returns fun room stored keyed =>
      create_finds reached drawn creatorRead stored keyed
  · intro stored
    exact usable_of_ends reached.run stored
      (CreateDirectRoom.create_ends targetRead targetKnown)

/-! ## A direct room that its maker has left -/

/-- A user opens a direct room and leaves it. -/
def openAndLeave : List Attempt :=
  [.completes (.createDirectRoom { id := sampleRoomId, now := 1 }
      sampleOwner sampleMember) 1,
    .completes (.removeMember sampleOwner sampleRoomId sampleOwner) 2]

/-- The second call of a user who has left returns a room of one member. -/
theorem returned_dm_not_usable :
    ¬ ∀ (uuid : PgUuid) (users : List String) (history : List Attempt)
        (draws : RoomDraws) (userA userB : String) (now : Time),
      userA ∈ users → userB ∈ users →
        ReturnsUsable uuid now
          (Transition.run (attempt uuid) (sampleTables users) history)
          userA userB (CreateDirectRoom.execute draws userA userB) := by
  intro claim
  have usable := claim samplePgUuid [sampleOwner, sampleMember] openAndLeave
    { id := sampleOtherRoomId, now := 3 } sampleOwner sampleMember 3
    (by decide) (by decide)
    { id := sampleRoomId, kind := .dm, name := none,
      createdBy := some sampleOwner, lastMessageAt := none, createdAt := 1 }
    (by decide)
  exact absurd usable.memberA (by decide)

/-- A user whose earlier call has stopped after its first statement. -/
def interrupted : List Attempt :=
  [.stops (.createDirectRoom { id := sampleRoomId, now := 1 }
      sampleOwner sampleMember) 1 3]

theorem returned_dm_usable_iff_interrupted :
    ¬ ReturnsUsable samplePgUuid 2
      (Transition.run (attempt samplePgUuid)
        (sampleTables [sampleOwner, sampleMember]) interrupted)
      sampleOwner sampleMember
      (CreateDirectRoom.execute { id := sampleOtherRoomId, now := 2 }
        sampleOwner sampleMember) := by
  intro usable
  have stored :=
    (returned_dm_usable_iff
      (sound_sampleTables samplePgUuid [sampleOwner, sampleMember]).toConforms
      interrupted { id := sampleOtherRoomId, now := 2 }
      (by decide : samplePgUuid.read sampleOtherRoomId = some sampleOtherRoomId)
      (by decide : samplePgUuid.read sampleOwner = some sampleOwner)
      (by decide : samplePgUuid.read sampleMember = some sampleMember)
      (by decide)).1.mp usable
  exact absurd stored (by decide)

end ChatBackend.Chat.DirectRooms
