import ChatBackend.Chat.CoupledRequests
import ChatBackend.Chat.Directory

/-!
# The confidentiality of rooms

Two runs of the same requests from states that differ in the contents of a
room's messages only.  A user who is not a member of the room, and whom nobody
adds to it, gets the same responses in both runs, and the states never come to
differ in anything else.
-/

namespace ChatBackend.Chat.Confidentiality

open Effects
open Relational
open Effects.Program
open ChatBackend.Chat.Store
open ChatBackend.Chat.Schema
open ChatBackend.Chat.RoomUseCases
open ChatBackend.Chat.Requests
open ChatBackend.Chat.Redaction
open ChatBackend.Chat.CoupledRequests
open ChatBackend.Chat.Directory
open ChatBackend.Chat.RoomActions
open ChatBackend.Ws.PresenceStore
open ChatBackend.Chat.MembershipAuthorization
  (requesterId HasRole authorized_serve)

/-! ## The directory -/

section Directories

variable {postgres : Postgres} {user room : String}
  {left right state after : DirectoryState} {now : Time}

/-- The operations of the use cases that look things up or update a user. -/
def LooksUp : DirectoryOp → Prop
  | .chat (.findUser _) => True
  | .chat (.roomRepo (.findById _)) => True
  | .chat (.roomRepo (.getMember _ _)) => True
  | .chat _ => False
  | _ => True

/-- The user on whose behalf a request runs. -/
def requestedBy : DirectoryRequest → String
  | .chat request => requesterId request
  | .getRoom requesterId _ => requesterId
  | .listMyRooms userId => userId
  | .getUser requesterId _ => requesterId
  | .listUsers requesterId => requesterId
  | .updateProfile userId _ => userId

/-- Two indistinguishable states of the tables and the presence store. -/
structure RelatedAll (postgres : Postgres) (user room : String)
    (left right : DirectoryState) : Prop where
  tables : Related postgres.toPgUuid user room left.tables right.tables
  presence : left.presence = right.presence

theorem getRoom_looksUp (requesterId roomId : String) :
    (GetRoom.execute requesterId roomId).Issues LooksUp := by
  refine Issues.bind (Issues.embed ?_) fun _ => ?_
  · apply Issues.perform_bind trivial
    rintro (_ | found) <;> trivial
  refine Issues.bind (Issues.embed ?_) fun _ => ?_
  · apply Issues.perform_bind trivial
    rintro (_ | found) <;> trivial
  exact Issues.perform_bind trivial fun _ => trivial

theorem getUser_looksUp (id : String) :
    (GetUser.execute id).Issues LooksUp := by
  refine Issues.bind (Issues.embed ?_) ?_
  · exact ⟨trivial, fun _ => trivial⟩
  · rintro (_ | found) <;> trivial

theorem listUsers_looksUp (requesterId : String) :
    (ListUsers.execute requesterId).Issues LooksUp :=
  Issues.perform_bind trivial fun _ =>
    Issues.perform_bind trivial fun _ => trivial

/-- A request that is none of the chat port looks things up. -/
theorem request_looksUp (request : DirectoryRequest)
    (other : ∀ chat, request ≠ .chat chat) :
    request.program.Issues LooksUp := by
  cases request with
  | chat request => exact absurd rfl (other request)
  | getRoom requesterId roomId =>
      exact (getRoom_looksUp requesterId roomId).map
  | listMyRooms userId =>
      exact Issues.map (Issues.perform_bind trivial fun _ => trivial)
  | getUser requesterId id => exact (getUser_looksUp id).map
  | listUsers requesterId => exact (listUsers_looksUp requesterId).map
  | updateProfile userId input =>
      exact Issues.map (Issues.perform_bind trivial fun _ => trivial)

/-- An update of users keeps the constraints. -/
theorem conforms_updateUsers {uuid : PgUuid} {tables : ChatState}
    (conforms : Conforms uuid tables) (id : String) (patch : UserPatch) :
    Conforms uuid { tables with
      users := updateWhere (fun user => user.id = id)
        (PgUserRepository.patchUser now patch) tables.users } :=
  { conforms with
    memberUsers := fun row stored =>
      (exists_mem_updateWhere_iff
        (PgUserRepository.patchUser_id now patch)).mpr
        (conforms.memberUsers row stored)
    messageSenders := fun row stored =>
      (exists_mem_updateWhere_iff
        (PgUserRepository.patchUser_id now patch)).mpr
        (conforms.messageSenders row stored) }

theorem messageless_of_looksUp {op : ChatOp} (looksUp : LooksUp (.chat op)) :
    Messageless op := by
  cases op with
  | messageRepo op => exact looksUp
  | _ => trivial

/-- No lookup can tell the states apart. -/
theorem RelatedAll.agree (related : RelatedAll postgres user room left right)
    {op : DirectoryOp} (looksUp : LooksUp op) :
    Agree (RelatedAll postgres user room) Eq
      (directoryAdapter postgres op now left)
      (directoryAdapter postgres op now right) := by
  rcases left with ⟨tables, presence⟩
  rcases right with ⟨otherTables, otherPresence⟩
  obtain ⟨same, rfl⟩ := related
  dsimp only at same
  cases op with
  | chat op =>
      have agrees : Agree (Related postgres.toPgUuid user room) Eq
          (chatAdapter postgres.toPgUuid op now tables)
          (chatAdapter postgres.toPgUuid op now otherTables) :=
        same.agree_messageless (messageless_of_looksUp looksUp)
      unfold directoryAdapter
      dsimp only
      revert agrees
      cases chatAdapter postgres.toPgUuid op now tables <;>
        cases chatAdapter postgres.toPgUuid op now otherTables
      · exact id
      · exact id
      · exact id
      · exact fun agrees => ⟨agrees.1, agrees.2, rfl⟩
  | listForUser userId =>
      refine Agree.bind fun user => ⟨?_, same, rfl⟩
      simp only [Directory.PgRoomRepository.listForUser, same.rooms,
        same.roomMembers]
  | listMembers roomId =>
      refine Agree.bind fun room => ⟨?_, same, rfl⟩
      simp only [Directory.PgRoomRepository.listMembers, same.roomMembers]
  | listAll excludeId =>
      refine Agree.bind fun excluded => ⟨?_, same, rfl⟩
      simp only [PgUserRepository.listAll, same.users]
  | updateUser id patch =>
      unfold directoryAdapter
      dsimp only
      split_ifs
      · exact rfl
      · refine Agree.bind fun id => ?_
        rw [same.users]
        cases updated : PgUserRepository.update id patch now
            otherTables.users with
        | error failure => exact rfl
        | ok result =>
            rcases result with ⟨answer, users⟩
            obtain ⟨-, user, -, -, rfl⟩ :=
              PgUserRepository.update_eq_ok_iff.mp updated
            have kept : Conforms postgres.toPgUuid { tables with
                users := updateWhere (fun user => user.id = id)
                  (PgUserRepository.patchUser now patch) tables.users } :=
              conforms_updateUsers same.left id patch
            rw [same.users] at kept
            refine ⟨rfl, ?_, rfl⟩
            exact { same with
              users := rfl
              left := kept
              right := conforms_updateUsers same.right id patch }
  | listOnline userIds =>
      unfold directoryAdapter
      dsimp only
      cases (RedisPresenceStore.listOnline userIds).run presenceAdapter now
        presence with
      | mk outcome after =>
          cases outcome with
          | error error => exact error.elim
          | ok online => exact ⟨rfl, same, rfl⟩

/-- A request is answered alike, and to the user the same, in both states. -/
theorem respond_alike (canonical : postgres.read user = some user)
    (related : RelatedAll postgres user room left right)
    (served : DirectoryRequest × Time)
    (outside : ¬ IsMember postgres.toPgUuid left.tables room user) :
    Alike (RelatedAll postgres user room)
      (fun reply other => requestedBy served.1 = user → reply = other)
      (respond postgres left served) (respond postgres right served) := by
  rcases served with ⟨request, now⟩
  by_cases chat : ∃ chat, request = .chat chat
  · rcases chat with ⟨request, rfl⟩
    have coupled : Coupled (directoryAdapter postgres) now
        (RelatedAll postgres user room)
        (fun reply other => requesterId request = user → reply = other)
        (overChat request.program) (overChat request.program) left right :=
      Coupled.embed (tablesPart postgres)
        (fun _ _ same => ⟨same, related.presence⟩)
        (chatRequest_coupled canonical related.tables request
          fun _ => outside)
    exact coupled.map fun _ _ same own => congrArg _ (same own)
  · push Not at chat
    have coupled : Coupled (directoryAdapter postgres) now
        (RelatedAll postgres user room) Eq request.program request.program
          left right :=
      .of_issues (fun _ _ _ looksUp same => RelatedAll.agree same looksUp)
        (request_looksUp request chat) related
    exact coupled.mono fun _ _ same _ => same

/-! ## What a request does to the tables -/

/-- A request of the chat port works on the tables. -/
theorem tables_progress_chat (state : DirectoryState) (request : ChatRequest)
    (now : Time) :
    (progress postgres state (.chat request, now)).tables =
      serve postgres.toPgUuid state.tables (request, now) := by
  unfold progress respond DirectoryRequest.program overChat
  rw [run_map, run_embed (tablesPart postgres)]
  rfl

/-- The tables but for the users, which keep their ids. -/
structure Stays (uuid : PgUuid) (tables after : ChatState) : Prop where
  conforms : Conforms uuid after
  rooms : after.rooms = tables.rooms
  roomMembers : after.roomMembers = tables.roomMembers
  messages : after.messages = tables.messages

theorem stays_lookUp {tables : ChatState} {op : DirectoryOp}
    {answer : op.Answer} (looksUp : LooksUp op)
    (stays : Stays postgres.toPgUuid tables state.tables)
    (answered : directoryAdapter postgres op now state = .ok (answer, after)) :
    Stays postgres.toPgUuid tables after.tables := by
  cases op with
  | chat op =>
      obtain ⟨⟨_, reached⟩, here, done⟩ := bind_eq_ok_iff.mp answered
      cases done
      have same : reached = state.tables := by
        cases op with
        | findUser id =>
            obtain ⟨_, -, -, same⟩ := findUser_eq_ok_iff.mp here
            exact same.symm
        | roomRepo op =>
            cases op with
            | findById id =>
                obtain ⟨_, -, -, same⟩ := findRoomById_eq_ok_iff.mp here
                exact same.symm
            | getMember roomId userId =>
                obtain ⟨_, -, _, -, -, same⟩ := getMember_eq_ok_iff.mp here
                exact same.symm
            | _ => exact looksUp.elim
        | _ => exact looksUp.elim
      subst same
      exact stays
  | listForUser userId =>
      obtain ⟨_, -, done⟩ := bind_eq_ok_iff.mp answered
      cases done
      exact stays
  | listMembers roomId =>
      obtain ⟨_, -, done⟩ := bind_eq_ok_iff.mp answered
      cases done
      exact stays
  | listAll excludeId =>
      obtain ⟨_, -, done⟩ := bind_eq_ok_iff.mp answered
      cases done
      exact stays
  | updateUser id patch =>
      unfold directoryAdapter at answered
      dsimp only at answered
      split_ifs at answered
      obtain ⟨id, -, updates⟩ := bind_eq_ok_iff.mp answered
      obtain ⟨⟨_, reached⟩, here, done⟩ := bind_eq_ok_iff.mp updates
      cases done
      obtain ⟨-, user, -, -, rfl⟩ :=
        PgUserRepository.update_eq_ok_iff.mp here
      exact { stays with
        conforms := conforms_updateUsers stays.conforms id patch }
  | listOnline userIds =>
      unfold directoryAdapter at answered
      dsimp only at answered
      split at answered
      cases answered
      exact stays

theorem stays_progress (sound : Sound postgres.toPgUuid state.tables)
    (served : DirectoryRequest × Time)
    (other : ∀ chat, served.1 ≠ .chat chat) :
    Stays postgres.toPgUuid state.tables
      (progress postgres state served).tables :=
  Issues.run_preserves (request_looksUp served.1 other)
    (fun _ _ _ _ looksUp stays answered => stays_lookUp looksUp stays answered)
    ⟨sound.toConforms, rfl, rfl, rfl⟩

theorem sound_progress (sound : Sound postgres.toPgUuid state.tables)
    (served : DirectoryRequest × Time) :
    Sound postgres.toPgUuid (progress postgres state served).tables := by
  by_cases chat : ∃ chat, served.1 = .chat chat
  · rcases served with ⟨request, now⟩
    rcases chat with ⟨request, rfl⟩
    rw [tables_progress_chat]
    exact sound.serve (request, now)
  · push Not at chat
    have stays := stays_progress sound served chat
    refine { stays.conforms with pointers := ?_ }
    rw [stays.roomMembers, stays.messages]
    exact sound.pointers

end Directories

/-! ## Outsiders -/

section Outsiders

variable {uuid : PgUuid} {postgres : Postgres} {user room : String}
  {tables : ChatState} {state left right : DirectoryState}

/-- A room stays, unless one of its members asks for something. -/
theorem room_serve (conforms : Conforms uuid tables)
    (served : ChatRequest × Time) (found : ∃ row ∈ tables.rooms, row.id = room) :
    (∃ row ∈ (serve uuid tables served).rooms, row.id = room) ∨
      IsMember uuid tables room (requesterId served.1) := by
  have leaves := serve_leaves conforms served
  generalize serve uuid tables served = after at leaves
  rcases served with ⟨request, now⟩
  cases request with
  | createDirectRoom draws requesterId targetUserId =>
      rcases leaves with ⟨_, ends⟩
      cases ends with
      | creates =>
          rcases found with ⟨row, stored, same⟩
          exact .inl ⟨row, List.mem_append_left _ stored, same⟩
      | _ => exact .inl found
  | createGroupRoom draws requesterId name memberIds =>
      rcases leaves with ⟨_, ends⟩
      cases ends with
      | creates =>
          rcases found with ⟨row, stored, same⟩
          exact .inl ⟨row, List.mem_append_left _ stored, same⟩
      | _ => exact .inl found
  | addMember clock requesterId roomId userId role =>
      rcases leaves with ⟨_, ends⟩
      cases ends <;> exact .inl found
  | removeMember requesterId roomId targetUserId =>
      rcases leaves with ⟨_, ends⟩
      cases ends <;> exact .inl found
  | deleteRoom requesterId roomId =>
      rcases leaves with ⟨_, ends⟩
      cases ends with
      | throws error => exact .inl found
      | deletes deleted requester stored member same allowed =>
          by_cases here : deleted.id = room
          · exact .inr ⟨requester, member.stored, same.trans here, member.user⟩
          · rcases found with ⟨row, kept, sameId⟩
            refine .inl ⟨row, mem_deleteWhere.mpr ⟨kept, ?_⟩, sameId⟩
            exact fun gone => here (gone.symm.trans sameId)
  | sendMessage draws input =>
      rcases leaves with ⟨_, ends⟩
      have bumped (here : String) :
          ∃ row ∈ updateWhere (fun row : Room => row.id = here)
              (fun row => { row with lastMessageAt := some draws.now })
              tables.rooms,
            row.id = room := by
        have keeps (row : Room) :
            ({ row with lastMessageAt := some draws.now } : Room).id = row.id :=
          rfl
        exact (exists_mem_updateWhere_iff keeps).mpr found
      cases ends with
      | throws error => exact .inl found
      | repeats => exact .inl (bumped _)
      | stores => exact .inl (bumped _)
  | editMessage clock requesterId messageId body =>
      rcases leaves with ⟨_, ends⟩
      cases ends <;> exact .inl found
  | deleteMessage requesterId messageId =>
      rcases leaves with ⟨_, ends⟩
      cases ends <;> exact .inl found
  | listMessages roomId requesterId before limit =>
      rcases leaves with ⟨_, ends⟩
      cases ends <;> exact .inl found
  | markAsRead userId roomId messageId =>
      rcases leaves with ⟨_, ends⟩
      cases ends <;> exact .inl found
  | typing userId roomId =>
      rcases leaves with ⟨_, ends⟩
      cases ends <;> exact .inl found

/-- The room exists, and the user is not a member of it. -/
structure Outside (uuid : PgUuid) (user room : String) (tables : ChatState) :
    Prop where
  found : ∃ row ∈ tables.rooms, row.id = room
  outside : ¬ IsMember uuid tables room user

/-- The requests of a user who is outside leave the user there. -/
theorem outside_serve (sound : Sound uuid tables)
    (outside : Outside uuid user room tables) (served : ChatRequest × Time)
    (own : requesterId served.1 = user) :
    Outside uuid user room (serve uuid tables served) where
  found := (room_serve sound.toConforms served outside.found).resolve_right
    (own ▸ outside.outside)
  outside := by
    rintro ⟨row, stored, inRoom, reads⟩
    have authorized := authorized_serve sound served
    have held (role : RoomRole)
        (has : HasRole uuid tables served.1 row.roomId role) : False := by
      rcases has with ⟨held, heldStored, heldRoom, -, heldReads⟩
      exact outside.outside
        ⟨held, heldStored, heldRoom.trans inRoom, own ▸ heldReads⟩
    have isNew (old : RoomMember) (oldStored : old ∈ tables.roomMembers) :
        ¬ Store.PgRoomRepository.sameKey old row := by
      rintro ⟨sameRoom, sameUser⟩
      exact outside.outside
        ⟨old, oldStored, sameRoom.trans inRoom, sameUser ▸ reads⟩
    rcases authorized.added row stored isNew with creates | owner | admin
    · rcases outside.found with ⟨existing, kept, same⟩
      exact creates.1 existing kept (same.trans inRoom.symm)
    · exact held _ owner
    · exact held _ admin

theorem outside_progress (sound : Sound postgres.toPgUuid state.tables)
    (outside : Outside postgres.toPgUuid user room state.tables)
    (served : DirectoryRequest × Time) (own : requestedBy served.1 = user) :
    Outside postgres.toPgUuid user room
      (progress postgres state served).tables := by
  by_cases chat : ∃ chat, served.1 = .chat chat
  · rcases served with ⟨request, now⟩
    rcases chat with ⟨request, rfl⟩
    rw [tables_progress_chat]
    exact outside_serve sound outside (request, now) own
  · push Not at chat
    have stays := stays_progress sound served chat
    refine ⟨?_, ?_⟩
    · rw [stays.rooms]
      exact outside.found
    · unfold IsMember
      rw [stays.roomMembers]
      exact outside.outside

/-! ## Runs -/

/-- The request makes the user a member of the room. -/
def Adds (postgres : Postgres) (user room : String) (state : DirectoryState)
    (served : DirectoryRequest × Time) : Prop :=
  ¬ IsMember postgres.toPgUuid state.tables room user ∧
    IsMember postgres.toPgUuid (progress postgres state served).tables room
      user

instance (postgres : Postgres) (user room : String) (state : DirectoryState)
    (served : DirectoryRequest × Time) :
    Decidable (Adds postgres user room state served) :=
  inferInstanceAs (Decidable (_ ∧ _))

/-- Runs in which nobody adds the user stay side by side. -/
theorem run_related (canonical : postgres.read user = some user)
    (requests : List (DirectoryRequest × Time))
    (related : RelatedAll postgres user room left right)
    (outside : ¬ IsMember postgres.toPgUuid left.tables room user)
    (nobody : Transition.Along (progress postgres)
      (fun state served => ¬ Adds postgres user room state served) left
      requests) :
    RelatedAll postgres user room
        (Transition.run (progress postgres) left requests)
        (Transition.run (progress postgres) right requests) ∧
      ¬ IsMember postgres.toPgUuid
        (Transition.run (progress postgres) left requests).tables room user := by
  induction requests generalizing left right with
  | nil => exact ⟨related, outside⟩
  | cons served rest induction =>
      have next := (respond_alike canonical related served outside).1
      exact induction next (fun added => nobody.1 ⟨outside, added⟩) nobody.2

/-- A user's own requests do not take the user into a room. -/
theorem run_outside (requests : List (DirectoryRequest × Time))
    (own : ∀ served ∈ requests, requestedBy served.1 = user)
    (sound : Sound postgres.toPgUuid state.tables)
    (outside : Outside postgres.toPgUuid user room state.tables) :
    Outside postgres.toPgUuid user room
      (Transition.run (progress postgres) state requests).tables := by
  induction requests generalizing state with
  | nil => exact outside
  | cons served rest induction =>
      rw [List.forall_mem_cons] at own
      exact induction own.2 (sound_progress sound served)
        (outside_progress sound outside served own.1)

/--
The confidentiality of a room.  In two runs of requests from states that differ
in the contents of messages of the room only that a user outside has not sent,
in which nobody adds the user, the user gets the same responses and the states
differ in nothing else; and the user's own requests do not take the user in.
-/
theorem room_confidential (canonical : postgres.read user = some user)
    (soundLeft : Sound postgres.toPgUuid left.tables)
    (soundRight : Sound postgres.toPgUuid right.tables)
    (same : Indistinguishable user room left.tables right.tables)
    (presence : left.presence = right.presence)
    (outside : ¬ IsMember postgres.toPgUuid left.tables room user) :
    (∀ requests,
      Transition.Along (progress postgres)
          (fun state served => ¬ Adds postgres user room state served) left
          requests →
        (∀ before served after, requests = before ++ served :: after →
          requestedBy served.1 = user →
            (respond postgres
                (Transition.run (progress postgres) left before) served).1 =
              (respond postgres
                (Transition.run (progress postgres) right before) served).1) ∧
          Indistinguishable user room
              (Transition.run (progress postgres) left requests).tables
              (Transition.run (progress postgres) right requests).tables ∧
            (Transition.run (progress postgres) left requests).presence =
              (Transition.run (progress postgres) right requests).presence) ∧
      ((∃ row ∈ left.tables.rooms, row.id = room) →
        ∀ requests : List (DirectoryRequest × Time),
          (∀ served ∈ requests, requestedBy served.1 = user) →
            ¬ IsMember postgres.toPgUuid
              (Transition.run (progress postgres) left requests).tables room
              user) := by
  have related : RelatedAll postgres user room left right :=
    ⟨{ same with
      left := soundLeft.toConforms
      right := soundRight.toConforms }, presence⟩
  constructor
  · intro requests nobody
    constructor
    · rintro before served after rfl own
      have upTo := (Transition.along_append.mp nobody).1
      obtain ⟨there, outsideThere⟩ :=
        run_related canonical before related outside upTo
      have alike := respond_alike canonical there served outsideThere
      exact (Alike.mono alike fun _ _ equal => equal own).outcome_eq
    · obtain ⟨there, -⟩ :=
        run_related canonical requests related outside nobody
      exact ⟨there.tables.toIndistinguishable, there.presence⟩
  · intro found requests own
    exact (run_outside requests own soundLeft ⟨found, outside⟩).outside

end Outsiders

/-- The owner of a group has sent a message with the given body to it. -/
def sampleSent (body : String) : DirectoryState where
  tables := Transition.run (serve samplePgUuid)
    (sampleTables [sampleOwner, sampleMember])
    [(.createGroupRoom { id := sampleRoomId, now := 1 } sampleOwner "team" [],
        1),
      (.sendMessage { id := sampleMessageId, now := 2 }
        { roomId := sampleRoomId, senderId := sampleOwner, body }, 2)]
  presence := .empty

def samplePostgres : Postgres :=
  { samplePgUuid with
    collation := fun left right => left ≤ right
    noColumns := .databaseError .invalidUuid }

/-- The owner edits the message; the edit is none where it has the body. -/
def ownerEdits : DirectoryRequest × Time :=
  (.chat (.editMessage 3 sampleOwner sampleMessageId "final"), 3)

/-- A user outside tries to read the group. -/
def memberLists : DirectoryRequest × Time :=
  (.chat (.listMessages sampleRoomId sampleMember none 50), 4)

theorem room_confidential_ownerEdits :
    (respond samplePostgres
        (Transition.run (progress samplePostgres) (sampleSent "draft")
          [ownerEdits]) memberLists).1 =
      (respond samplePostgres
        (Transition.run (progress samplePostgres) (sampleSent "final")
          [ownerEdits]) memberLists).1 := by
  have confidential :=
    @room_confidential samplePostgres sampleMember sampleRoomId
      (sampleSent "draft") (sampleSent "final")
      (by decide)
      ((sound_sampleTables samplePgUuid [sampleOwner, sampleMember]).run _)
      ((sound_sampleTables samplePgUuid [sampleOwner, sampleMember]).run _)
      ⟨by decide, by decide, by decide, by decide, by decide⟩ rfl
      (by decide)
  have nobody : Transition.Along (progress samplePostgres)
      (fun state served =>
        ¬ Adds samplePostgres sampleMember sampleRoomId state served)
      (sampleSent "draft") [ownerEdits, memberLists] := by
    decide
  exact (confidential.1 _ nobody).1 [ownerEdits] memberLists [] rfl rfl

end ChatBackend.Chat.Confidentiality
