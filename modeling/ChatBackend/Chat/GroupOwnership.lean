import ChatBackend.Chat.Requests

/-!
# Every group keeps its owner

A group is created with its creator as its owner.  `AddMember` cannot add a
second one and `RemoveMember` refuses to remove the owner, but it lets anybody
leave before it looks at roles.  A run keeps the owner of every group exactly
when no request in it is an owner leaving the group.
-/

namespace ChatBackend.Chat.GroupOwnership

open Relational
open Transition
open ChatBackend.Chat.Store
open ChatBackend.Chat.Schema
open ChatBackend.Chat.RoomUseCases
open ChatBackend.Chat.MessageUseCases
open ChatBackend.Chat.Requests

/-! ## The property -/

/-- Exactly one member of the room is its owner, and that is its creator. -/
def OwnedBy (members : List RoomMember) (room : Room) : Prop :=
  ∃ owner ∈ members,
    (owner.roomId = room.id ∧ owner.role = .owner ∧
      room.createdBy = some owner.userId) ∧
        ∀ other ∈ members,
          other.roomId = room.id → other.role = .owner → other = owner

instance (members : List RoomMember) (room : Room) :
    Decidable (OwnedBy members room) :=
  inferInstanceAs (Decidable (∃ _ ∈ members, _ ∧ _))

/-- Every existing group has its creator as its only owner. -/
def GroupsOwned (state : ChatState) : Prop :=
  ∀ room ∈ state.rooms, room.kind = .group → OwnedBy state.roomMembers room

instance (state : ChatState) : Decidable (GroupsOwned state) :=
  inferInstanceAs (Decidable (∀ _ ∈ state.rooms, _))

/-- The request is the owner of an existing group leaving it. -/
def OwnerLeaves (uuid : PgUuid) (state : ChatState) : ChatRequest → Prop
  | .removeMember requesterId roomId targetUserId =>
      requesterId = targetUserId ∧ ∃ row ∈ state.roomMembers,
        uuid.read roomId = some row.roomId ∧
          uuid.read targetUserId = some row.userId ∧ row.role = .owner ∧
            ∃ room ∈ state.rooms, room.id = row.roomId ∧ room.kind = .group
  | _ => False

instance (uuid : PgUuid) (state : ChatState) :
    DecidablePred (OwnerLeaves uuid state)
  | .removeMember _ _ _ =>
      inferInstanceAs (Decidable (_ ∧ ∃ _ ∈ state.roomMembers,
        _ ∧ _ ∧ _ ∧ ∃ _ ∈ state.rooms, _ ∧ _))
  | .createDirectRoom _ _ _ => isFalse id
  | .createGroupRoom _ _ _ _ => isFalse id
  | .addMember _ _ _ _ _ => isFalse id
  | .deleteRoom _ _ => isFalse id
  | .sendMessage _ _ => isFalse id
  | .editMessage _ _ _ _ => isFalse id
  | .deleteMessage _ _ => isFalse id
  | .listMessages _ _ _ _ => isFalse id
  | .markAsRead _ _ _ => isFalse id
  | .typing _ _ => isFalse id

/-! ## What keeps an owner -/

section Owners

variable {members : List RoomMember} {room : Room}

theorem OwnedBy.append {added : List RoomMember}
    (owned : OwnedBy members room)
    (plain : ∀ row ∈ added, row.roomId = room.id → row.role ≠ .owner) :
    OwnedBy (members ++ added) room := by
  rcases owned with ⟨owner, member, owns, only⟩
  refine ⟨owner, List.mem_append_left added member, owns, ?_⟩
  intro other otherMember inRoom role
  rcases List.mem_append.mp otherMember with old | new
  · exact only other old inRoom role
  · exact absurd role (plain other new inRoom)

theorem OwnedBy.insertIgnoring {row : RoomMember}
    (owned : OwnedBy members room) (plain : row.role ≠ .owner) :
    OwnedBy (PgRoomRepository.insertIgnoring row members) room := by
  unfold PgRoomRepository.insertIgnoring
  split_ifs
  · exact owned
  · apply owned.append
    intro other member _
    rw [List.mem_singleton.mp member]
    exact plain

/-- Changes that keep the key and the role of the rows keep the owner. -/
theorem OwnedBy.map {change : RoomMember → RoomMember}
    (owned : OwnedBy members room)
    (keepsRoom : ∀ row, (change row).roomId = row.roomId)
    (keepsUser : ∀ row, (change row).userId = row.userId)
    (keepsRole : ∀ row, (change row).role = row.role) :
    OwnedBy (members.map change) room := by
  rcases owned with ⟨owner, member, ⟨inRoom, role, creator⟩, only⟩
  refine ⟨change owner, List.mem_map_of_mem member, ⟨?_, ?_, ?_⟩, ?_⟩
  · rw [keepsRoom, inRoom]
  · rw [keepsRole, role]
  · rw [keepsUser, creator]
  · intro other otherMember otherRoom otherRole
    rcases List.mem_map.mp otherMember with ⟨old, stored, rfl⟩
    rw [keepsRoom] at otherRoom
    rw [keepsRole] at otherRole
    rw [only old stored otherRoom otherRole]

/-- A deletion that spares the owner keeps the owner. -/
theorem OwnedBy.deleteWhere {condition : RoomMember → Prop}
    [DecidablePred condition] (owned : OwnedBy members room)
    (spared : ∀ row ∈ members, row.roomId = room.id → row.role = .owner →
      ¬ condition row) :
    OwnedBy (deleteWhere condition members) room := by
  rcases owned with ⟨owner, member, owns, only⟩
  refine ⟨owner, ?_, owns, ?_⟩
  · exact mem_deleteWhere.mpr ⟨member, spared owner member owns.1 owns.2.1⟩
  · intro other kept
    exact only other (mem_deleteWhere.mp kept).1

/-- A room with the same id and creator has the same owner. -/
theorem OwnedBy.of_room {other : Room} (owned : OwnedBy members room)
    (sameId : other.id = room.id)
    (sameCreator : other.createdBy = room.createdBy) :
    OwnedBy members other := by
  unfold OwnedBy
  rw [sameId, sameCreator]
  exact owned

end Owners

/-! ## One request -/

section Requests

variable {uuid : PgUuid} {now : Time} {state after : ChatState}

/-- Removing somebody who owns no group keeps the owners. -/
theorem GroupsOwned.withoutMember {target : RoomMember}
    (owned : GroupsOwned state) (conforms : Conforms uuid state)
    (stored : target ∈ state.roomMembers)
    (plain : target.role = .owner → ∀ room ∈ state.rooms,
      room.id = target.roomId → room.kind ≠ .group) :
    GroupsOwned (withoutMember state target) := by
  intro room found group
  apply (owned room found group).deleteWhere
  rintro row member inRoom role ⟨sameRoom, sameUser⟩
  have same : row = target :=
    conforms.memberKeys.eq_of_clash
      (fun _ _ clash => ⟨clash.1.symm, clash.2.symm⟩) member stored
      ⟨sameRoom, sameUser⟩
  subst same
  exact plain role room found inRoom.symm group

/-- Removing the owner of a group leaves the group without one. -/
theorem not_groupsOwned_withoutMember {target : RoomMember} {room : Room}
    (owned : GroupsOwned state)
    (stored : target ∈ state.roomMembers) (role : target.role = .owner)
    (found : room ∈ state.rooms) (inRoom : room.id = target.roomId)
    (group : room.kind = .group) :
    ¬ GroupsOwned (withoutMember state target) := by
  intro after
  rcases after room found group with ⟨owner, kept, ⟨ownerRoom, ownerRole, -⟩, -⟩
  rcases mem_deleteWhere.mp kept with ⟨member, spared⟩
  rcases owned room found group with ⟨first, -, -, only⟩
  have same : owner = target :=
    (only owner member ownerRoom ownerRole).trans
      (only target stored inRoom.symm role).symm
  exact spared ⟨by rw [same], by rw [same]⟩

/-- A new group has its creator as its only owner. -/
theorem GroupsOwned.withGroup {draws : RoomDraws} {requesterId name : String}
    {room : Room} {owner : RoomMember} {joined : List RoomMember}
    (owned : GroupsOwned state) (conforms : Conforms uuid state)
    (reads : PgRoomRepository.readRoom uuid
      (CreateGroupRoom.newRoom draws requesterId name) = .ok room)
    (fits : PgRoomRepository.roomViolation state room = none)
    (readsOwner : PgRoomRepository.readMember uuid
      (newMember draws.id requesterId .owner draws.now) = .ok owner)
    (members : ∀ row ∈ joined, ∃ user,
      row = newMember room.id user .member draws.now) :
    GroupsOwned
      { state with
        rooms := state.rooms ++ [room]
        roomMembers := state.roomMembers ++ owner :: joined } := by
  have fresh := (roomViolation_eq_none_iff.mp fits).1
  rcases creator_known rfl reads fits with ⟨user, userRead, createdBy, -⟩
  obtain ⟨id, idRead, requester, requesterRead, rfl⟩ :=
    readNewMember_eq_ok_iff.mp readsOwner
  have sameUser : user = requester :=
    Option.some.inj (userRead.symm.trans requesterRead)
  have sameId : id = room.id := by
    rcases readRoom_eq_ok_iff.mp reads with ⟨other, reading, -, _, -, rfl⟩
    exact Option.some.inj (idRead.symm.trans reading)
  subst sameUser sameId
  intro other member group
  rcases List.mem_append.mp member with old | new
  · apply (owned other old group).append
    intro row new inRoom
    have inNewRoom : row.roomId = room.id := by
      rcases List.mem_cons.mp new with rfl | joining
      · rfl
      · rcases members row joining with ⟨_, rfl⟩
        rfl
    exact absurd (inRoom.symm.trans inNewRoom) (fresh other old)
  · cases List.mem_singleton.mp new
    refine ⟨_, List.mem_append_right _ (.head _), ⟨rfl, rfl, createdBy⟩, ?_⟩
    intro row rowMember inRoom role
    rcases List.mem_append.mp rowMember with old | new
    · exact absurd inRoom (no_members_of_fits conforms fits row old)
    · rcases List.mem_cons.mp new with rfl | joining
      · rfl
      · rcases members row joining with ⟨_, rfl⟩
        cases role

theorem GroupsOwned.sent (owned : GroupsOwned state)
    (draws : SendMessage.Draws) (input : SendMessage.Input) (room : String)
    (messages : List Message) (dto : MessageDto) :
    GroupsOwned (SendMessage.sent state draws input room messages dto) := by
  refine forall_mem_updateWhere owned ?_
  intro other found _ group
  exact (owned other found group).of_room rfl rfl

theorem groupsOwned_createDirectRoom (owned : GroupsOwned state)
    {draws : RoomDraws} {requesterId targetUserId : String}
    {outcome : Except Failure RoomDto}
    (ends : CreateDirectRoom.Ends uuid draws state requesterId targetUserId
      outcome after) : GroupsOwned after := by
  cases ends with
  | throws error => exact owned
  | found room stored keyed => exact owned
  | creates room memberA memberB unknown reads fits readsA readsB =>
      rcases readNewMember_eq_ok_iff.mp readsA with ⟨_, -, _, -, rfl⟩
      rcases readNewMember_eq_ok_iff.mp readsB with ⟨_, -, _, -, rfl⟩
      rcases readRoom_eq_ok_iff.mp reads with ⟨_, -, -, _, -, rfl⟩
      intro other member group
      rcases List.mem_append.mp member with old | new
      · apply OwnedBy.insertIgnoring
        · apply (owned other old group).insertIgnoring
          exact nofun
        · exact nofun
      · cases List.mem_singleton.mp new
        cases group

theorem groupsOwned_createGroupRoom (owned : GroupsOwned state)
    (conforms : Conforms uuid state) {draws : RoomDraws}
    {requesterId name : String} {outcome : Except Failure RoomDto}
    (ends : CreateGroupRoom.Ends uuid draws state requesterId name outcome
      after) : GroupsOwned after := by
  cases ends with
  | throws error => exact owned
  | creates _ room owner joined reads fits readsOwner members returns =>
      exact owned.withGroup conforms reads fits readsOwner members

/-- Nobody is added as an owner. -/
theorem groupsOwned_addMember (owned : GroupsOwned state) {clock : Time}
    {requesterId roomId userId : String} {role : RoomRole}
    {outcome : Except Failure RoomMemberDto} (admitted : role ≠ .owner)
    (ends : AddMember.Ends uuid clock state requesterId roomId userId role
      outcome after) : GroupsOwned after := by
  cases ends with
  | throws error => exact owned
  | adds requester row member allowed reads fresh =>
      rcases readNewMember_eq_ok_iff.mp reads with ⟨_, -, _, -, rfl⟩
      intro room found group
      apply (owned room found group).append
      intro other new _
      cases List.mem_singleton.mp new
      exact admitted

/-- Only by leaving can an owner be removed. -/
theorem groupsOwned_removeMember (owned : GroupsOwned state)
    (conforms : Conforms uuid state)
    {requesterId roomId targetUserId : String} {outcome : Except Failure Unit}
    (stays : ¬ OwnerLeaves uuid state
      (.removeMember requesterId roomId targetUserId))
    (ends : RemoveMember.Ends uuid state requesterId roomId targetUserId
      outcome after) : GroupsOwned after := by
  cases ends with
  | throws error => exact owned
  | leaves target self member =>
      apply owned.withoutMember conforms member.stored
      intro role room found same group
      exact stays ⟨self, target, member.stored, member.room, member.user,
        role, room, found, same, group⟩
  | removes target requester member remover allowed notOwner notPeer =>
      apply owned.withoutMember conforms member.stored
      exact fun role => absurd role notOwner

theorem groupsOwned_deleteRoom (owned : GroupsOwned state)
    {requesterId roomId : String} {outcome : Except Failure Unit}
    (ends : DeleteRoom.Ends uuid state requesterId roomId outcome after) :
    GroupsOwned after := by
  cases ends with
  | throws error => exact owned
  | deletes room requester stored member same allowed =>
      intro other kept group
      rcases mem_deleteWhere.mp kept with ⟨found, elsewhere⟩
      apply OwnedBy.map _ (clearPointer_roomId _ _) (clearPointer_userId _ _)
        (clearPointer_role _ _)
      apply (owned other found group).deleteWhere
      intro row _ inRoom _ deleted
      exact elsewhere (inRoom.symm.trans deleted)

theorem groupsOwned_sendMessage (owned : GroupsOwned state)
    {draws : SendMessage.Draws} {input : SendMessage.Input}
    {outcome : Except Failure MessageDto}
    (ends : SendMessage.Ends uuid state draws input outcome after) :
    GroupsOwned after := by
  cases ends with
  | throws error => exact owned
  | repeats member row stored membership attached reads known =>
      exact owned.sent _ _ _ _ _
  | stores member row membership attached reads unknown fits =>
      exact owned.sent _ _ _ _ _

theorem groupsOwned_markAsRead (owned : GroupsOwned state)
    {userId roomId messageId : String} {outcome : Except Failure Unit}
    (ends : MarkAsRead.Ends uuid state userId roomId messageId outcome after) :
    GroupsOwned after := by
  cases ends with
  | throws error => exact owned
  | marks member msg membership stored sameRoom =>
      intro room found group
      apply (owned room found group).map
      · intro row
        split_ifs <;> rfl
      · intro row
        split_ifs <;> rfl
      · intro row
        split_ifs <;> rfl

/-- A request that is not an owner leaving keeps the owner of every group. -/
theorem groupsOwned_serve (owned : GroupsOwned state)
    (sound : Sound uuid state) (served : ChatRequest × Time)
    (admitted : served.1.Admitted)
    (stays : ¬ OwnerLeaves uuid state served.1) :
    GroupsOwned (serve uuid state served) := by
  have leaves := serve_leaves sound.toConforms served
  generalize serve uuid state served = after at leaves
  rcases served with ⟨request, now⟩
  cases request with
  | createDirectRoom draws requesterId targetUserId =>
      obtain ⟨outcome, ends⟩ := leaves
      exact groupsOwned_createDirectRoom owned ends
  | createGroupRoom draws requesterId name memberIds =>
      obtain ⟨outcome, ends⟩ := leaves
      exact groupsOwned_createGroupRoom owned sound.toConforms ends
  | addMember clock requesterId roomId userId role =>
      obtain ⟨outcome, ends⟩ := leaves
      exact groupsOwned_addMember owned admitted ends
  | removeMember requesterId roomId targetUserId =>
      obtain ⟨outcome, ends⟩ := leaves
      exact groupsOwned_removeMember owned sound.toConforms stays ends
  | deleteRoom requesterId roomId =>
      obtain ⟨outcome, ends⟩ := leaves
      exact groupsOwned_deleteRoom owned ends
  | sendMessage draws input =>
      obtain ⟨outcome, ends⟩ := leaves
      exact groupsOwned_sendMessage owned ends
  | markAsRead userId roomId messageId =>
      obtain ⟨outcome, ends⟩ := leaves
      exact groupsOwned_markAsRead owned ends
  -- the others touch neither rooms nor members
  | editMessage clock requesterId messageId body =>
      obtain ⟨outcome, ends⟩ := leaves
      cases ends <;> exact owned
  | deleteMessage requesterId messageId =>
      obtain ⟨outcome, ends⟩ := leaves
      cases ends <;> exact owned
  | listMessages roomId requesterId before limit =>
      obtain ⟨outcome, ends⟩ := leaves
      cases ends <;> exact owned
  | typing userId roomId =>
      obtain ⟨outcome, ends⟩ := leaves
      cases ends <;> exact owned

/-- A request keeps the owners exactly when it is not an owner leaving. -/
theorem groupsOwned_serve_iff (owned : GroupsOwned state)
    (sound : Sound uuid state) (served : ChatRequest × Time)
    (admitted : served.1.Admitted) :
    GroupsOwned (serve uuid state served) ↔
      ¬ OwnerLeaves uuid state served.1 := by
  refine ⟨?_, groupsOwned_serve owned sound served admitted⟩
  intro kept leaving
  rcases served with ⟨request, now⟩
  cases request <;> try exact leaving
  case removeMember requesterId roomId targetUserId =>
    obtain ⟨rfl, target, stored, roomRead, userRead, role, room, found, inRoom,
      group⟩ := leaving
    have left : serve uuid state
        (.removeMember requesterId roomId requesterId, now) =
          withoutMember state target :=
      (ends_of_request _ (RemoveMember.execute_self sound.toConforms
        ⟨stored, roomRead, userRead⟩)).2
    rw [left] at kept
    exact not_groupsOwned_withoutMember owned stored role found inRoom group
      kept

end Requests

/-! ## Runs -/

/--
Every group keeps exactly one owner, its creator, throughout a run exactly when
no request in the run is the owner of an existing group leaving it.
-/
theorem groups_keep_owner {uuid : PgUuid} {state : ChatState}
    (sound : Sound uuid state) (owned : GroupsOwned state)
    (requests : List (AdmittedRequest × Time)) :
    Throughout (serveAdmitted uuid) GroupsOwned state requests ↔
      Along (serveAdmitted uuid)
        (fun state served => ¬ OwnerLeaves uuid state served.1.val)
        state requests := by
  refine throughout_iff_along ?_ ?_ sound owned
  · intro before served soundBefore
    exact soundBefore.serve _
  · intro before served soundBefore ownedBefore
    exact groupsOwned_serve_iff ownedBefore soundBefore _ served.1.property

/-! ## A group without an owner -/

/-- The owner creates a group and another user is added. -/
def createAndAdd : List (AdmittedRequest × Time) :=
  [(⟨.createGroupRoom { id := sampleRoomId, now := 1 } sampleOwner "team" [],
      trivial⟩, 1),
    (⟨.addMember 2 sampleOwner sampleRoomId sampleMember .admin, nofun⟩, 2)]

/-- The owner leaves the group. -/
def leave : AdmittedRequest × Time :=
  (⟨.removeMember sampleOwner sampleRoomId sampleOwner, trivial⟩, 3)

theorem groups_keep_owner_createAndAdd :
    Throughout (serveAdmitted samplePgUuid) GroupsOwned
      (sampleTables [sampleOwner, sampleMember]) createAndAdd := by
  have keeps :=
    groups_keep_owner
      (sound_sampleTables samplePgUuid [sampleOwner, sampleMember]) nofun
      createAndAdd
  apply keeps.mpr
  decide

/-- After its owner has left, the group exists and has no owner. -/
theorem group_loses_owner :
    ¬ ∀ (uuid : PgUuid) (users : List String)
        (requests : List (AdmittedRequest × Time)),
      GroupsOwned (run (serveAdmitted uuid) (sampleTables users) requests) := by
  intro claim
  exact absurd
    (claim samplePgUuid [sampleOwner, sampleMember] (createAndAdd ++ [leave]))
    (by decide)

end ChatBackend.Chat.GroupOwnership
