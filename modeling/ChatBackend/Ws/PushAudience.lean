import ChatBackend.Ws.Gateway

/-!
# To whom events are pushed

Membership is checked when a connection subscribes to a room and never again:
neither `RemoveMember` nor `DeleteRoom` reaches the registry.  Every push goes
to a connection that has subscribed as a connection of a member and has not
given the room up since; its user is still a member unless a removal or the
deletion of the room has ended the membership in between.
-/

namespace ChatBackend.Ws.PushAudience

open Relational
open Transition
open ChatBackend.Chat.Store
open ChatBackend.Chat.Schema
open ChatBackend.Chat.RoomUseCases
open ChatBackend.Chat.MessageUseCases
open ChatBackend.Chat.Requests
open ChatBackend.Ws.Registry
open ChatBackend.Ws.Gateway

/-! ## Memberships and what ends them -/

/-- The user is a member of the room. -/
def IsMember (uuid : PgUuid) (chat : ChatState) (roomId userId : String) :
    Prop :=
  ∃ row, Membership uuid chat roomId userId row

/-- The requests that can end the membership. -/
def CanEnd (uuid : PgUuid) (roomId userId : String) : ChatRequest → Prop
  | .removeMember _ room user =>
      uuid.read room = uuid.read roomId ∧ uuid.read user = uuid.read userId
  | .deleteRoom _ room => uuid.read room = uuid.read roomId
  | _ => False

/-- The step is a removal or a deletion that ends the membership. -/
def EndsMembership (uuid : PgUuid) (roomId userId : String) (world : World)
    (label : Happening × Time) : Prop :=
  (∃ request, label.1 = .serves request ∧
      CanEnd uuid roomId userId request) ∧
    IsMember uuid world.chat roomId userId ∧
      ¬ IsMember uuid (step uuid world label).chat roomId userId

section Memberships

variable {uuid : PgUuid} {chat after : ChatState} {roomId userId : String}

/-- A membership survives while its row does, whatever its other fields. -/
theorem isMember_of_kept {row : RoomMember}
    (membership : Membership uuid chat roomId userId row) {kept : RoomMember}
    (stored : kept ∈ after.roomMembers)
    (same : PgRoomRepository.sameKey row kept) :
    IsMember uuid after roomId userId :=
  ⟨kept, stored, membership.room.trans (congrArg some same.1),
    membership.user.trans (congrArg some same.2)⟩

theorem isMember_of_subset
    (member : IsMember uuid chat roomId userId)
    (kept : ∀ row ∈ chat.roomMembers, row ∈ after.roomMembers) :
    IsMember uuid after roomId userId := by
  rcases member with ⟨row, membership⟩
  exact isMember_of_kept membership (kept row membership.stored) ⟨rfl, rfl⟩

/-- A member stays one when a member leaves or is removed, unless it is it. -/
theorem isMember_withoutMember {target : RoomMember} {room user : String}
    (member : IsMember uuid chat roomId userId)
    (leaves : Membership uuid chat room user target) :
    IsMember uuid (withoutMember chat target) roomId userId ∨
      (uuid.read room = uuid.read roomId ∧
        uuid.read user = uuid.read userId) := by
  rcases member with ⟨row, membership⟩
  by_cases same : row.roomId = target.roomId ∧ row.userId = target.userId
  · right
    rw [leaves.room, leaves.user, membership.room, membership.user, same.1,
      same.2]
    exact ⟨rfl, rfl⟩
  · left
    apply isMember_of_kept membership _ ⟨rfl, rfl⟩
    exact mem_deleteWhere.mpr ⟨membership.stored, same⟩

/-- A member stays one when a room is deleted, unless it is the room. -/
theorem isMember_cascade {requester : RoomMember} {room user : String}
    (member : IsMember uuid chat roomId userId)
    (deletes : Membership uuid chat room user requester) :
    IsMember uuid (PgRoomRepository.cascade chat requester.roomId) roomId
        userId ∨
      uuid.read room = uuid.read roomId := by
  rcases member with ⟨row, membership⟩
  by_cases same : row.roomId = requester.roomId
  · right
    rw [deletes.room, membership.room, same]
  · left
    have kept : PgRoomRepository.clearPointer chat.messages requester.roomId
        row ∈ (PgRoomRepository.cascade chat requester.roomId).roomMembers :=
      List.mem_map_of_mem (mem_deleteWhere.mpr ⟨membership.stored, same⟩)
    apply isMember_of_kept membership kept
    exact ⟨(clearPointer_roomId _ _ _).symm, (clearPointer_userId _ _ _).symm⟩

/-- A request keeps a membership, or is one that can end it. -/
theorem isMember_serve (conforms : Conforms uuid chat)
    (member : IsMember uuid chat roomId userId)
    (served : ChatRequest × Time) :
    IsMember uuid (serve uuid chat served) roomId userId ∨
      CanEnd uuid roomId userId served.1 := by
  have leaves := serve_leaves conforms served
  have untouched := roomMembers_serve conforms served
  generalize serve uuid chat served = after at leaves untouched
  rcases served with ⟨request, now⟩
  cases request with
  | createDirectRoom draws requesterId targetUserId =>
      rcases leaves with ⟨_, ends⟩
      cases ends with
      | throws error => exact .inl member
      | found room stored keyed => exact .inl member
      | creates room memberA memberB unknown reads fits readsA readsB =>
          left
          apply isMember_of_subset member
          intro row stored
          exact mem_insertIgnoring_of_mem (mem_insertIgnoring_of_mem stored)
  | createGroupRoom draws requesterId name memberIds =>
      rcases leaves with ⟨_, ends⟩
      cases ends with
      | throws error => exact .inl member
      | creates _ room owner joined reads fits readsOwner members returns =>
          left
          apply isMember_of_subset member
          exact fun row stored => List.mem_append_left _ stored
  | addMember clock requesterId room userId role =>
      rcases leaves with ⟨_, ends⟩
      cases ends with
      | throws error => exact .inl member
      | adds requester row allowed reads fresh =>
          left
          apply isMember_of_subset member
          exact fun row stored => List.mem_append_left _ stored
  | removeMember requesterId room targetUserId =>
      rcases leaves with ⟨_, ends⟩
      cases ends with
      | throws error => exact .inl member
      | leaves target self membership =>
          exact isMember_withoutMember member membership
      | removes target requester membership remover allowed notOwner notPeer =>
          exact isMember_withoutMember member membership
  | deleteRoom requesterId room =>
      rcases leaves with ⟨_, ends⟩
      cases ends with
      | throws error => exact .inl member
      | deletes room requester stored membership same allowed =>
          rw [← same]
          exact isMember_cascade member membership
  | markAsRead reader room messageId =>
      rcases leaves with ⟨_, ends⟩
      cases ends with
      | throws error => exact .inl member
      | marks reading msg membership stored sameRoom =>
          left
          rcases member with ⟨row, holds⟩
          refine isMember_of_kept holds
            (mem_updateWhere.mpr ⟨row, holds.stored, rfl⟩) ?_
          split_ifs <;> exact ⟨rfl, rfl⟩
  | _ =>
      left
      apply isMember_of_subset member
      intro row stored
      rw [untouched id]
      exact stored

/-- What can end a membership publishes nothing. -/
theorem CanEnd.silent {request : ChatRequest}
    (ends : CanEnd uuid roomId userId request) : ¬ request.Publishes := by
  cases request with
  | removeMember requesterId room user => exact id
  | deleteRoom requesterId room => exact id
  | _ => exact absurd ends id

end Memberships

/-! ## Steps -/

section Steps

variable {uuid : PgUuid} {world : World} {roomId userId : String}

theorem conforms_step (conforms : Conforms uuid world.chat)
    (label : Happening × Time) : Conforms uuid (step uuid world label).chat := by
  rcases label with ⟨happening, now⟩
  cases happening with
  | serves request => exact conforms.run
  | _ => exact conforms

/-- A step keeps a membership, or ends it and nothing arrives. -/
theorem isMember_step (conforms : Conforms uuid world.chat)
    (member : IsMember uuid world.chat roomId userId)
    (happening : Happening) (now : Time) :
    IsMember uuid (step uuid world (happening, now)).chat roomId userId ∨
      (EndsMembership uuid roomId userId world (happening, now) ∧
        arrivals uuid now world happening = []) := by
  by_cases stays :
      IsMember uuid (step uuid world (happening, now)).chat roomId userId
  · exact .inl stays
  · right
    cases happening with
    | serves request =>
        rcases isMember_serve conforms member (request, now) with kept | ends
        · exact absurd kept stays
        · refine ⟨⟨⟨request, rfl, ends⟩, member, stays⟩, ?_⟩
          show List.drop _ (serve uuid world.chat (request, now)).published =
            []
          rw [published_serve conforms _ ends.silent, List.drop_length]
    | _ => exact absurd member stays

/-- A push as an event of a room goes to a connection that lists the room. -/
theorem listed_of_pushed (wired : world.server.Wired) {happening : Happening}
    {now : Time} {frame : Sent}
    (sent : frame ∈ sentBy uuid world (happening, now))
    (pushed : frame.fanOut = some (.fanOutBusEvent roomId)) :
    roomId ∈ world.server.rooms frame.ws ∧
      arrivals uuid now world happening ≠ [] := by
  rcases (step_ends wired happening now).sent with ⟨replies, direct, equal⟩
  unfold sentBy at sent
  rw [equal, List.drop_left] at sent
  rcases List.mem_append.mp sent with replied | arrived
  · rw [direct frame replied] at pushed
    cases pushed
  · rcases List.mem_flatMap.mp arrived with ⟨entry, arrives, pushes⟩
    rcases Server.pushes_fanOut pushes pushed with ⟨-, subscribed⟩
    exact ⟨(wired.mirrored frame.ws roomId).mp subscribed,
      List.ne_nil_of_mem arrives⟩

end Steps

/-! ## Runs -/

section Runs

variable {uuid : PgUuid} {chat : ChatState} {ws : Connection}
  {roomId userId : String}

/-- A connection lists the rooms it has subscribed to as a member's. -/
theorem subscribed_of_listed (labels : List (Happening × Time))
    (listed : roomId ∈
      (run (step uuid) (World.start chat) labels).server.rooms ws) :
    ∃ before refId roomIds now between,
      labels = before ++ (.subscribes ws refId roomIds, now) :: between ∧
        roomId ∈ roomIds ∧
          IsMember uuid (run (step uuid) (World.start chat) before).chat
            roomId ws.userId ∧
              ∀ label ∈ between, ¬ GivesUp ws roomId label.1 := by
  induction labels using List.reverseRecOn with
  | nil => exact absurd listed (Collections.OrderedSet.not_mem_empty roomId)
  | append_singleton earlier label induction =>
      rw [run_concat] at listed
      have wired : (run (step uuid) (World.start chat) earlier).server.Wired :=
        wired_run uuid Server.Wired.start earlier
      rcases (step_ends wired label.1 label.2).lists_of listed with
        ⟨already, keeps⟩ | ⟨refId, roomIds, subscribes, named, member⟩
      · obtain ⟨before, refId, roomIds, now, between, rfl, named, member,
          kept⟩ := induction already
        refine ⟨before, refId, roomIds, now, between ++ [label], ?_, named,
          member, ?_⟩
        · rw [List.append_assoc, List.cons_append]
        · intro other later
          rcases List.mem_append.mp later with inside | last
          · exact kept other inside
          · cases List.mem_singleton.mp last
            exact keeps
      · refine ⟨earlier, refId, roomIds, label.2, [], ?_, named, member, ?_⟩
        · rw [← subscribes]
        · exact fun other later => absurd later List.not_mem_nil

/-- A membership lasts through a run, or a step of it ends the membership. -/
theorem isMember_run {world : World} (conforms : Conforms uuid world.chat)
    (member : IsMember uuid world.chat roomId userId)
    (labels : List (Happening × Time)) :
    Occurs (step uuid) (EndsMembership uuid roomId userId) world labels ∨
      IsMember uuid (run (step uuid) world labels).chat roomId userId := by
  have preserved (world : World) (label : Happening × Time)
      (holds : Conforms uuid world.chat ∧
        IsMember uuid world.chat roomId userId)
      (goesOn : ¬ EndsMembership uuid roomId userId world label) :
      Conforms uuid (step uuid world label).chat ∧
        IsMember uuid (step uuid world label).chat roomId userId := by
    refine ⟨conforms_step holds.1 label, ?_⟩
    rcases isMember_step holds.1 holds.2 label.1 label.2 with
      kept | ⟨ended, -⟩
    · exact kept
    · exact absurd ended goesOn
  exact (occurs_or_invariant preserved ⟨conforms, member⟩ labels).imp_right
    And.right

end Runs

/--
Whenever an event of a room is pushed to a connection, the connection has
subscribed to the room when its user was a member and has not given it up since,
and the user is a member still, unless a removal or the deletion of the room has
ended the membership in between.
-/
theorem pushes_reach_subscribed {uuid : PgUuid} {chat : ChatState}
    (conforms : Conforms uuid chat) (labels : List (Happening × Time))
    (happening : Happening) (now : Time) :
    let start := World.start chat
    let world := run (step uuid) start labels
    ∀ frame ∈ sentBy uuid world (happening, now), ∀ roomId,
      frame.fanOut = some (.fanOutBusEvent roomId) →
        ∃ before refId roomIds at_ between,
          labels =
              before ++ (.subscribes frame.ws refId roomIds, at_) :: between ∧
            roomId ∈ roomIds ∧
            IsMember uuid (run (step uuid) start before).chat roomId
              frame.ws.userId ∧
            (∀ label ∈ between, ¬ GivesUp frame.ws roomId label.1) ∧
            (Occurs (step uuid)
                (EndsMembership uuid roomId frame.ws.userId)
                (run (step uuid) start
                  (before ++ [(.subscribes frame.ws refId roomIds, at_)]))
                between ∨
              IsMember uuid (step uuid world (happening, now)).chat roomId
                frame.ws.userId) := by
  intro start world frame sent roomId pushed
  have wired : world.server.Wired :=
    wired_run uuid Server.Wired.start labels
  have conformsRun (labels : List (Happening × Time)) :
      Conforms uuid (run (step uuid) start labels).chat := by
    have kept (world : World) (label : Happening × Time)
        (before : Conforms uuid world.chat) :
        Conforms uuid (step uuid world label).chat :=
      conforms_step before label
    exact run_invariant kept conforms labels
  rcases listed_of_pushed wired sent pushed with ⟨listed, arrives⟩
  obtain ⟨before, refId, roomIds, at_, between, split, named, member, keeps⟩ :=
    subscribed_of_listed labels listed
  refine ⟨before, refId, roomIds, at_, between, split, named, member, keeps,
    ?_⟩
  -- subscribing leaves the tables as they are
  have memberThen : IsMember uuid
      (run (step uuid) start
        (before ++ [(.subscribes frame.ws refId roomIds, at_)])).chat roomId
      frame.ws.userId := by
    rw [run_concat]
    exact member
  rcases isMember_run (conformsRun _) memberThen between with ended | lasts
  · exact .inl ended
  · have memberNow : IsMember uuid world.chat roomId frame.ws.userId := by
      rw [← run_append, List.append_assoc, List.singleton_append, ← split]
        at lasts
      exact lasts
    rcases isMember_step (conformsRun labels) memberNow happening now with
      stays | ⟨-, silent⟩
    · exact .inr stays
    · exact absurd silent arrives

/-! ## A push after a removal -/

/-- A connection of the member of a group. -/
def sampleConnection : Connection where
  connId := "018f0000-0000-7000-8000-00000000d001"
  userId := sampleMember

/-- The member of a group subscribes to it. -/
def subscribedMember : List (Happening × Time) :=
  [(.serves (.createGroupRoom { id := sampleRoomId, now := 1 } sampleOwner
      "team" [sampleMember]), 1),
    (.opens sampleConnection, 2),
    (.subscribes sampleConnection (some "a") [sampleRoomId], 3)]

/-- The owner removes the member. -/
def removal : Happening × Time :=
  (.serves (.removeMember sampleOwner sampleRoomId sampleMember), 4)

/-- The owner types in the group. -/
def typing : Happening :=
  .serves (.typing sampleOwner sampleRoomId)

theorem pushes_reach_subscribed_typing :
    let start := World.start (sampleTables [sampleOwner, sampleMember])
    let world := run (step samplePgUuid) start subscribedMember
    let frame := Server.push 4 sampleRoomId
      (.userTyping sampleRoomId sampleOwner) sampleConnection
    frame ∈ sentBy samplePgUuid world (typing, 4) ∧
      ∃ before refId roomIds at_ between,
        subscribedMember =
            before ++ (.subscribes sampleConnection refId roomIds, at_) ::
              between ∧
          IsMember samplePgUuid (run (step samplePgUuid) start before).chat
            sampleRoomId sampleMember := by
  intro start world frame
  have sent : frame ∈ sentBy samplePgUuid world (typing, 4) := by
    decide +kernel
  have conforms :=
    (sound_sampleTables samplePgUuid [sampleOwner, sampleMember]).toConforms
  obtain ⟨before, refId, roomIds, at_, between, split, -, member, -⟩ :=
    pushes_reach_subscribed conforms subscribedMember typing 4 frame sent
      sampleRoomId rfl
  exact ⟨sent, before, refId, roomIds, at_, between, split, member⟩

/-- A member that has been removed is still pushed the events of the room. -/
theorem push_reaches_removed :
    let start := World.start (sampleTables [sampleOwner, sampleMember])
    let world := run (step samplePgUuid) start (subscribedMember ++ [removal])
    ∃ frame ∈ sentBy samplePgUuid world (typing, 5),
      frame.fanOut = some (.fanOutBusEvent sampleRoomId) ∧
        frame.ws = sampleConnection ∧
          ¬ IsMember samplePgUuid (step samplePgUuid world (typing, 5)).chat
            sampleRoomId frame.ws.userId := by
  intro start world
  refine ⟨Server.push 5 sampleRoomId (.userTyping sampleRoomId sampleOwner)
    sampleConnection, by decide +kernel, rfl, rfl, ?_⟩
  rintro ⟨row, membership⟩
  have none_ : ∀ row ∈ (step samplePgUuid world (typing, 5)).chat.roomMembers,
      samplePgUuid.read sampleMember ≠ some row.userId := by
    decide +kernel
  exact none_ row membership.stored membership.user

end ChatBackend.Ws.PushAudience
