import ChatBackend.Chat.Requests

/-!
# Who may change memberships

The permission model of the membership table.  A request may add rows to a room
it creates or administers, may remove rows by the rules of roles, by leaving or
by deleting the room, and never changes the role of a row or a row of another
room.

A request changes the table in one of three ways: it appends rows, deletes the
rows that satisfy a condition, or changes fields that no permission depends on.
Each way has a lemma; the endings of the use cases supply the permissions.
-/

namespace ChatBackend.Chat.MembershipAuthorization

open Effects
open Relational
open Effects.Program
open ChatBackend.Chat.Store
open ChatBackend.Chat.Schema
open ChatBackend.Chat.RoomUseCases
open ChatBackend.Chat.MessageUseCases
open ChatBackend.Chat.Requests
open PgRoomRepository (sameKey)

/-! ## Permissions -/

/-- The user on whose behalf a request runs. -/
def requesterId : ChatRequest → String
  | .createDirectRoom _ requesterId _ => requesterId
  | .createGroupRoom _ requesterId _ _ => requesterId
  | .addMember _ requesterId _ _ _ => requesterId
  | .removeMember requesterId _ _ => requesterId
  | .deleteRoom requesterId _ => requesterId
  | .sendMessage _ input => input.senderId
  | .editMessage _ requesterId _ _ => requesterId
  | .deleteMessage requesterId _ => requesterId
  | .listMessages _ requesterId _ _ => requesterId
  | .markAsRead userId _ _ => userId
  | .typing userId _ => userId

/-- The room that a request names, or that it would create. -/
def roomId? : ChatRequest → Option String
  | .createDirectRoom draws _ _ => some draws.id
  | .createGroupRoom draws _ _ _ => some draws.id
  | .addMember _ _ roomId _ _ => some roomId
  | .removeMember _ roomId _ => some roomId
  | .deleteRoom _ roomId => some roomId
  | .sendMessage _ input => some input.roomId
  | .listMessages roomId _ _ _ => some roomId
  | .markAsRead _ roomId _ => some roomId
  | .typing _ roomId => some roomId
  | .editMessage _ _ _ _ => none
  | .deleteMessage _ _ => none

section Permissions

variable (uuid : PgUuid) (state after : ChatState) (request : ChatRequest)

/-- The request is about the room. -/
def Concerns (roomId : String) : Prop :=
  ∃ spelled ∈ roomId? request, uuid.read spelled = some roomId

/-- The requester has the role in the room. -/
def HasRole (roomId : String) (role : RoomRole) : Prop :=
  ∃ row ∈ state.roomMembers, row.roomId = roomId ∧ row.role = role ∧
    uuid.read (requesterId request) = some row.userId

/-- The request has created the room. -/
def Creates (roomId : String) : Prop :=
  (∀ room ∈ state.rooms, room.id ≠ roomId) ∧
    ∃ room ∈ after.rooms, room.id = roomId

/-- The request is one to delete the room that its requester may delete. -/
def MayDelete (roomId : String) : Prop :=
  (∃ spelled, request = .deleteRoom (requesterId request) spelled ∧
      uuid.read spelled = some roomId) ∧
    ∃ room ∈ state.rooms, room.id = roomId ∧
      ((room.kind = .group ∧ HasRole uuid state request roomId .owner) ∨
        (room.kind = .dm ∧ ∃ role, HasRole uuid state request roomId role))

/-- The request may add a member to the room. -/
def MayAdd (roomId : String) : Prop :=
  Creates state after roomId ∨ HasRole uuid state request roomId .owner ∨
    HasRole uuid state request roomId .admin

/-- The request may remove the member. -/
def MayRemove (row : RoomMember) : Prop :=
  uuid.read (requesterId request) = some row.userId ∨
    (HasRole uuid state request row.roomId .owner ∧ row.role ≠ .owner) ∨
      (HasRole uuid state request row.roomId .admin ∧ row.role = .member) ∨
        MayDelete uuid state request row.roomId

/-- Every change of the membership table is one the request may make. -/
structure Authorized : Prop where
  added : ∀ row ∈ after.roomMembers,
    (∀ old ∈ state.roomMembers, ¬ sameKey old row) →
      MayAdd uuid state after request row.roomId
  removed : ∀ row ∈ state.roomMembers,
    (∀ kept ∈ after.roomMembers, ¬ sameKey row kept) →
      MayRemove uuid state request row
  roles : ∀ row ∈ state.roomMembers, ∀ kept ∈ after.roomMembers,
    sameKey row kept → kept.role = row.role
  others : ∀ row, ¬ Concerns uuid request row.roomId →
    (row ∈ after.roomMembers ↔ row ∈ state.roomMembers)

end Permissions

/-! ## The three ways of changing the table -/

section Changes

variable {uuid : PgUuid} {state after : ChatState} {request : ChatRequest}

theorem sameKey_symm {left right : RoomMember} (same : sameKey left right) :
    sameKey right left :=
  ⟨same.1.symm, same.2.symm⟩

/-- Two rows of the table with one key are the same row. -/
theorem eq_of_sameKey (conforms : Conforms uuid state)
    {left right : RoomMember} (leftStored : left ∈ state.roomMembers)
    (rightStored : right ∈ state.roomMembers) (same : sameKey left right) :
    left = right :=
  conforms.memberKeys.eq_of_clash (fun _ _ => sameKey_symm) leftStored
    rightStored same

/-- A request that appends rows to the room it is about. -/
theorem authorized_of_appended (conforms : Conforms uuid state)
    (kept : ∀ row ∈ state.roomMembers, row ∈ after.roomMembers)
    (added : ∀ row ∈ after.roomMembers, row ∈ state.roomMembers ∨
      ((∀ old ∈ state.roomMembers, ¬ sameKey old row) ∧
        MayAdd uuid state after request row.roomId ∧
          Concerns uuid request row.roomId)) :
    Authorized uuid state after request where
  added row member new := by
    rcases added row member with old | ⟨-, may, -⟩
    · exact absurd ⟨rfl, rfl⟩ (new row old)
    · exact may
  removed row stored gone :=
    absurd ⟨rfl, rfl⟩ (gone row (kept row stored))
  roles row stored other member same := by
    rcases added other member with old | ⟨fresh, -, -⟩
    · rw [eq_of_sameKey conforms stored old same]
    · exact absurd same (fresh row stored)
  others row elsewhere := by
    refine ⟨fun member => ?_, kept row⟩
    rcases added row member with old | ⟨-, -, concerned⟩
    · exact old
    · exact absurd concerned elsewhere

/-- A request that leaves the table as it is. -/
theorem authorized_of_same (conforms : Conforms uuid state)
    (same : after.roomMembers = state.roomMembers) :
    Authorized uuid state after request := by
  apply authorized_of_appended conforms
  · intro row stored
    rw [same]
    exact stored
  · intro row member
    rw [same] at member
    exact .inl member

/-- A request that deletes rows it may remove. -/
theorem authorized_of_deleted (conforms : Conforms uuid state)
    {condition : RoomMember → Prop} [DecidablePred condition]
    (deleted : after.roomMembers = deleteWhere condition state.roomMembers)
    (may : ∀ row ∈ state.roomMembers, condition row →
      MayRemove uuid state request row ∧ Concerns uuid request row.roomId) :
    Authorized uuid state after request := by
  have kept (row : RoomMember) :
      row ∈ after.roomMembers ↔ row ∈ state.roomMembers ∧ ¬ condition row := by
    rw [deleted, mem_deleteWhere]
  exact
    { added := fun row member new =>
        absurd ⟨rfl, rfl⟩ (new row ((kept row).mp member).1)
      removed := by
        intro row stored gone
        by_cases holds : condition row
        · exact (may row stored holds).1
        · exact absurd ⟨rfl, rfl⟩ (gone row ((kept row).mpr ⟨stored, holds⟩))
      roles := by
        intro row stored other member same
        rw [eq_of_sameKey conforms stored ((kept other).mp member).1 same]
      others := by
        intro row elsewhere
        rw [kept]
        refine ⟨And.left, fun stored => ⟨stored, fun holds => ?_⟩⟩
        exact elsewhere (may row stored holds).2 }

/-- A request that changes other fields of rows of the room it is about. -/
theorem authorized_of_updated (conforms : Conforms uuid state)
    {condition : RoomMember → Prop} [DecidablePred condition]
    {change : RoomMember → RoomMember}
    (updated : after.roomMembers =
      updateWhere condition change state.roomMembers)
    (keepsKey : ∀ row, sameKey (change row) row)
    (keepsRole : ∀ row, (change row).role = row.role)
    (concerned : ∀ row, condition row → Concerns uuid request row.roomId) :
    Authorized uuid state after request := by
  have changed (old : RoomMember) :
      sameKey old (if condition old then change old else old) ∧
        (if condition old then change old else old).role = old.role := by
    split_ifs
    · exact ⟨sameKey_symm (keepsKey old), keepsRole old⟩
    · exact ⟨⟨rfl, rfl⟩, rfl⟩
  have kept (row : RoomMember) :
      row ∈ after.roomMembers ↔ ∃ old ∈ state.roomMembers,
        row = if condition old then change old else old := by
    rw [updated, mem_updateWhere]
  exact
    { added := by
        intro row member new
        rcases (kept row).mp member with ⟨old, stored, rfl⟩
        exact absurd (changed old).1 (new old stored)
      removed := fun row stored gone =>
        absurd (changed row).1 (gone _ ((kept _).mpr ⟨row, stored, rfl⟩))
      roles := by
        intro row stored other member same
        rcases (kept other).mp member with ⟨old, oldStored, rfl⟩
        have oldSame : sameKey row old :=
          ⟨same.1.trans (changed old).1.1.symm,
            same.2.trans (changed old).1.2.symm⟩
        rw [(changed old).2, eq_of_sameKey conforms stored oldStored oldSame]
      others := by
        intro row elsewhere
        rw [kept]
        constructor
        · rintro ⟨old, stored, rfl⟩
          by_cases holds : condition old
          · rw [if_pos holds, (keepsKey old).1] at elsewhere
            exact absurd (concerned old holds) elsewhere
          · rw [if_neg holds]
            exact stored
        · intro stored
          refine ⟨row, stored, ?_⟩
          rw [if_neg fun holds => elsewhere (concerned row holds)] }

end Changes

/-! ## Every request -/

section Requests

variable {uuid : PgUuid} {state after : ChatState}

/-- The requester of a request that is a member has the role of its row. -/
theorem hasRole_of_membership {request : ChatRequest} {roomId : String}
    {row : RoomMember}
    (membership : Membership uuid state roomId (requesterId request) row) :
    HasRole uuid state request row.roomId row.role :=
  ⟨row, membership.stored, rfl, rfl, membership.user⟩

/-- The rows a request adds to a room it has inserted. -/
theorem authorized_of_created (conforms : Conforms uuid state)
    {request : ChatRequest} {room : Room}
    (fits : PgRoomRepository.roomViolation state room = none)
    (inserted : room ∈ after.rooms)
    (concerned : Concerns uuid request room.id)
    (kept : ∀ row ∈ state.roomMembers, row ∈ after.roomMembers)
    (added : ∀ row ∈ after.roomMembers,
      row ∈ state.roomMembers ∨ row.roomId = room.id) :
    Authorized uuid state after request := by
  apply authorized_of_appended conforms kept
  intro row member
  rcases added row member with old | inRoom
  · exact .inl old
  · refine .inr ⟨?_, .inl ⟨?_, room, inserted, inRoom.symm⟩, ?_⟩
    · rintro old stored ⟨sameRoom, -⟩
      exact no_members_of_fits conforms fits old stored
        (sameRoom.trans inRoom)
    · rw [inRoom]
      exact (roomViolation_eq_none_iff.mp fits).1
    · rw [inRoom]
      exact concerned

/-- What the three checks of `RemoveMember` on the roles amount to. -/
theorem mayRemove_of_roles {roomId userId : String}
    {requestedBy : String} {target requester : RoomMember}
    (remover : Membership uuid state roomId requestedBy requester)
    (member : Membership uuid state roomId userId target)
    (allowed : requester.role ≠ .member) (notOwner : target.role ≠ .owner)
    (notPeer : ¬ (requester.role = .admin ∧ target.role = .admin)) :
    (HasRole uuid state (.removeMember requestedBy roomId userId)
        target.roomId .owner ∧ target.role ≠ .owner) ∨
      (HasRole uuid state (.removeMember requestedBy roomId userId)
          target.roomId .admin ∧ target.role = .member) ∨
        MayDelete uuid state (.removeMember requestedBy roomId userId)
          target.roomId := by
  have role : HasRole uuid state (.removeMember requestedBy roomId userId)
      target.roomId requester.role :=
    Option.some.inj (remover.room.symm.trans member.room) ▸
      hasRole_of_membership remover
  cases requesterRole : requester.role with
  | owner => exact .inl ⟨requesterRole ▸ role, notOwner⟩
  | admin =>
      refine .inr (.inl ⟨requesterRole ▸ role, ?_⟩)
      cases targetRole : target.role with
      | owner => exact absurd targetRole notOwner
      | admin => exact absurd ⟨requesterRole, targetRole⟩ notPeer
      | member => rfl
  | member => exact absurd requesterRole allowed

theorem authorized_createDirectRoom (conforms : Conforms uuid state)
    {draws : RoomDraws} {requestedBy targetUserId : String}
    {outcome : Except Failure RoomDto}
    (ends : CreateDirectRoom.Ends uuid draws state requestedBy targetUserId
      outcome after) :
    Authorized uuid state after
      (.createDirectRoom draws requestedBy targetUserId) := by
  cases ends with
  | throws error => exact authorized_of_same conforms rfl
  | found room stored keyed => exact authorized_of_same conforms rfl
  | creates room memberA memberB unknown reads fits readsA readsB =>
      rcases readRoom_eq_ok_iff.mp reads with ⟨id, idRead, -, _, -, rfl⟩
      rcases readNewMember_eq_ok_iff.mp readsA with ⟨roomA, readA, _, -, rfl⟩
      rcases readNewMember_eq_ok_iff.mp readsB with ⟨roomB, readB, _, -, rfl⟩
      cases idRead.symm.trans readA
      cases idRead.symm.trans readB
      apply authorized_of_created conforms fits
      · exact List.mem_append_right _ (.head _)
      · exact ⟨draws.id, rfl, idRead⟩
      · intro row stored
        exact mem_insertIgnoring_of_mem (mem_insertIgnoring_of_mem stored)
      · intro row member
        rcases mem_insertIgnoring member with other | rfl
        · rcases mem_insertIgnoring other with old | rfl
          · exact .inl old
          · exact .inr rfl
        · exact .inr rfl

theorem authorized_createGroupRoom (conforms : Conforms uuid state)
    {draws : RoomDraws} {requestedBy name : String} {memberIds : List String}
    {outcome : Except Failure RoomDto}
    (ends : CreateGroupRoom.Ends uuid draws state requestedBy name outcome
      after) :
    Authorized uuid state after
      (.createGroupRoom draws requestedBy name memberIds) := by
  cases ends with
  | throws error => exact authorized_of_same conforms rfl
  | creates _ room owner joined reads fits readsOwner members returns =>
      rcases readRoom_eq_ok_iff.mp reads with ⟨id, idRead, -, _, -, rfl⟩
      obtain ⟨other, reading, _, -, rfl⟩ :=
        readNewMember_eq_ok_iff.mp readsOwner
      cases idRead.symm.trans reading
      apply authorized_of_created conforms fits
      · exact List.mem_append_right _ (.head _)
      · exact ⟨draws.id, rfl, idRead⟩
      · intro row stored
        exact List.mem_append_left _ stored
      · intro row member
        rcases List.mem_append.mp member with old | new
        · exact .inl old
        · rcases List.mem_cons.mp new with rfl | joining
          · exact .inr rfl
          · rcases members row joining with ⟨_, rfl⟩
            exact .inr rfl

theorem authorized_addMember (conforms : Conforms uuid state) {clock : Time}
    {requestedBy roomId userId : String} {role : RoomRole}
    {outcome : Except Failure RoomMemberDto}
    (ends : AddMember.Ends uuid clock state requestedBy roomId userId role
      outcome after) :
    Authorized uuid state after
      (.addMember clock requestedBy roomId userId role) := by
  cases ends with
  | throws error => exact authorized_of_same conforms rfl
  | adds requester row member allowed reads fresh =>
      obtain ⟨room, roomRead, _, -, rfl⟩ := readNewMember_eq_ok_iff.mp reads
      cases roomRead.symm.trans member.room
      apply authorized_of_appended conforms
      · intro row stored
        exact List.mem_append_left _ stored
      · intro row stored
        rcases List.mem_append.mp stored with old | new
        · exact .inl old
        · cases List.mem_singleton.mp new
          refine .inr ⟨fresh, .inr ?_, roomId, rfl, roomRead⟩
          have held : HasRole uuid state
              (.addMember clock requestedBy roomId userId role)
              requester.roomId requester.role :=
            hasRole_of_membership member
          cases requesterRole : requester.role with
          | owner => exact .inl (requesterRole ▸ held)
          | admin => exact .inr (requesterRole ▸ held)
          | member => exact absurd requesterRole allowed

theorem authorized_removeMember (conforms : Conforms uuid state)
    {requestedBy roomId targetUserId : String} {outcome : Except Failure Unit}
    (ends : RemoveMember.Ends uuid state requestedBy roomId targetUserId
      outcome after) :
    Authorized uuid state after
      (.removeMember requestedBy roomId targetUserId) := by
  cases ends with
  | throws error => exact authorized_of_same conforms rfl
  | leaves target self member =>
      apply authorized_of_deleted conforms rfl
      rintro row stored ⟨sameRoom, sameUser⟩
      refine ⟨.inl ?_, roomId, rfl, sameRoom ▸ member.room⟩
      rw [sameUser]
      exact self ▸ member.user
  | removes target requester member remover allowed notOwner notPeer =>
      apply authorized_of_deleted conforms rfl
      intro row stored sameKey
      cases eq_of_sameKey conforms stored member.stored sameKey
      refine ⟨.inr ?_, roomId, rfl, member.room⟩
      exact mayRemove_of_roles remover member allowed notOwner notPeer

theorem authorized_deleteRoom (sound : Sound uuid state)
    {requestedBy roomId : String} {outcome : Except Failure Unit}
    (ends : DeleteRoom.Ends uuid state requestedBy roomId outcome after) :
    Authorized uuid state after (.deleteRoom requestedBy roomId) := by
  cases ends with
  | throws error => exact authorized_of_same sound.toConforms rfl
  | deletes room requester found member same allowed =>
      apply authorized_of_deleted sound.toConforms
        (sound.cascade_roomMembers room.id)
      intro row stored inRoom
      have role : HasRole uuid state (.deleteRoom requestedBy roomId)
          requester.roomId requester.role :=
        hasRole_of_membership member
      rw [same, ← inRoom] at role
      have reading : uuid.read roomId = some row.roomId := by
        rw [member.room, same, inRoom]
      refine ⟨.inr (.inr (.inr ⟨⟨roomId, rfl, reading⟩, room, found,
        inRoom.symm, ?_⟩)), roomId, rfl, reading⟩
      cases kind : room.kind with
      | group => exact .inl ⟨rfl, allowed kind ▸ role⟩
      | dm => exact .inr ⟨rfl, _, role⟩

theorem authorized_markAsRead (conforms : Conforms uuid state)
    {userId roomId messageId : String} {outcome : Except Failure Unit}
    (ends : MarkAsRead.Ends uuid state userId roomId messageId outcome after) :
    Authorized uuid state after (.markAsRead userId roomId messageId) := by
  cases ends with
  | throws error => exact authorized_of_same conforms rfl
  | marks member msg membership stored sameRoom =>
      apply authorized_of_updated conforms rfl
      · exact fun row => ⟨rfl, rfl⟩
      · exact fun row => rfl
      · rintro row ⟨inRoom, -⟩
        exact ⟨roomId, rfl, inRoom ▸ membership.room⟩

/-- A request changes the memberships only as its requester may. -/
theorem authorized_serve (sound : Sound uuid state)
    (served : ChatRequest × Time) :
    Authorized uuid state (serve uuid state served) served.1 := by
  have conforms := sound.toConforms
  have leaves := serve_leaves conforms served
  have untouched := roomMembers_serve conforms served
  generalize serve uuid state served = after at leaves untouched
  rcases served with ⟨request, now⟩
  cases request with
  | createDirectRoom draws requesterId targetUserId =>
      obtain ⟨outcome, ends⟩ := leaves
      exact authorized_createDirectRoom conforms ends
  | createGroupRoom draws requesterId name memberIds =>
      obtain ⟨outcome, ends⟩ := leaves
      exact authorized_createGroupRoom conforms ends
  | addMember clock requesterId roomId userId role =>
      obtain ⟨outcome, ends⟩ := leaves
      exact authorized_addMember conforms ends
  | removeMember requesterId roomId targetUserId =>
      obtain ⟨outcome, ends⟩ := leaves
      exact authorized_removeMember conforms ends
  | deleteRoom requesterId roomId =>
      obtain ⟨outcome, ends⟩ := leaves
      exact authorized_deleteRoom sound ends
  | markAsRead userId roomId messageId =>
      obtain ⟨outcome, ends⟩ := leaves
      exact authorized_markAsRead conforms ends
  | _ => exact authorized_of_same conforms (untouched id)

/-- The requests that change the members of an existing room. -/
def ChangesMembers : ChatRequest → Prop
  | .addMember _ _ _ _ _ => True
  | .removeMember _ _ _ => True
  | .deleteRoom _ _ => True
  | _ => False

/-- A request to change the members of a room that throws changes nothing. -/
theorem threw_unchanged (served : ChatRequest × Time) (error : Failure)
    (changes : ChangesMembers served.1)
    (threw : (complete uuid state served).1 = .error error) :
    (complete uuid state served).2 = state := by
  rcases served with ⟨request, now⟩
  cases request with
  | addMember clock requesterId roomId userId role =>
      exact (ends_of_threw (AddMember.execute_ends _ _ _ _) threw).unchanged
  | removeMember requesterId roomId targetUserId =>
      exact (ends_of_threw (RemoveMember.execute_ends _ _ _) threw).unchanged
  | deleteRoom requesterId roomId =>
      exact (ends_of_threw (DeleteRoom.execute_ends _ _) threw).unchanged
  | _ => exact changes.elim

end Requests

/-! ## Runs -/

/--
Complete authorization.  In every state that a run of requests reaches, the
next request changes memberships only as its requester may, and a request to
add or remove a member or to delete a room that throws changes nothing.
-/
theorem complete_authorization {uuid : PgUuid} {start : ChatState}
    (sound : Sound uuid start) (requests : List (ChatRequest × Time))
    (served : ChatRequest × Time) :
    let state := Transition.run (serve uuid) start requests
    Authorized uuid state (complete uuid state served).2 served.1 ∧
      (ChangesMembers served.1 →
        ∀ error, (complete uuid state served).1 = .error error →
          (complete uuid state served).2.roomMembers = state.roomMembers) := by
  intro state
  refine ⟨authorized_serve (sound.run requests) served, ?_⟩
  intro changes error threw
  rw [threw_unchanged served error changes threw]

/-- A group of two, after which its plain member tries to remove its owner. -/
def sampleGroup : List (ChatRequest × Time) :=
  [(.createGroupRoom { id := sampleRoomId, now := 1 } sampleOwner "team"
      [sampleMember], 1)]

theorem complete_authorization_sampleGroup :
    let state := Transition.run (serve samplePgUuid)
      (sampleTables [sampleOwner, sampleMember]) sampleGroup
    let removal := (ChatRequest.removeMember sampleMember sampleRoomId
      sampleOwner, (2 : Time))
    Authorized samplePgUuid state (complete samplePgUuid state removal).2
        removal.1 ∧
      (complete samplePgUuid state removal).2.roomMembers =
        state.roomMembers := by
  obtain ⟨authorized, thrown⟩ :=
    complete_authorization
      (sound_sampleTables samplePgUuid [sampleOwner, sampleMember]) sampleGroup
      (.removeMember sampleMember sampleRoomId sampleOwner, 2)
  refine ⟨authorized, ?_⟩
  exact thrown trivial (.forbiddenError "Admin or owner required")
    (by decide)

end ChatBackend.Chat.MembershipAuthorization
