import ChatBackend.Auth.RegistrationRace
import ChatBackend.Chat.DirectRoomPairs

/-!
# Additions of one member

`AddMember` looks the membership up before it inserts it.  Additions of one user
to one room race for the membership: whoever finds none and inserts it last is
rejected by the primary key, and not by the check.
-/

namespace ChatBackend.Chat.MembershipRace

open Effects
open Relational
open Transition
open ChatBackend.Chat.Store
open ChatBackend.Chat.Schema
open ChatBackend.Chat.RoomUseCases
open ChatBackend.Chat.Requests
open ChatBackend.Chat.DirectRoomPairs

/-! ## Overlapping additions -/

/-- A call of `AddMember.execute`, with the reading of its clock. -/
structure AddCall where
  requesterId : String
  roomId : String
  userId : String
  role : RoomRole
  now : Time

/-- Overlapping additions on the chat tables. -/
abbrev Additions (Name : Type*) :=
  Config Name ChatPort ChatState Failure RoomMemberDto

/-- The additions before any of them has taken a turn. -/
def started {Name : Type*} (calls : Name → AddCall) (state : ChatState) :
    Additions Name where
  shared := state
  threads name := AddMember.execute (calls name).now (calls name).requesterId
    (calls name).roomId (calls name).userId (calls name).role

/-- All calls are by admins of the room, for a user who is no member of it. -/
structure Admins {Name : Type*} (uuid : PgUuid) (calls : Name → AddCall)
    (room user : String) (state : ChatState) : Prop where
  conforms : Conforms uuid state
  stored : ∃ row ∈ state.rooms, row.id = room
  known : ∃ row ∈ state.users, row.id = user
  outsider : ∀ row ∈ state.roomMembers, row.roomId = room → row.userId ≠ user
  roomRead : ∀ name, uuid.read (calls name).roomId = some room
  userRead : ∀ name, uuid.read (calls name).userId = some user
  admin : ∀ name, ∃ row ∈ state.roomMembers, row.roomId = room ∧
    uuid.read (calls name).requesterId = some row.userId ∧
      row.role ≠ .member

/-! ## Control points -/

/-- Where an addition stands. -/
inductive ControlPoint where
  | entering
  | authorizing
  | lookingUp
  | checking
  | adding
  | returned (dto : RoomMemberDto)
  | failed (error : Failure)

/-- What an addition has still to do at a control point. -/
def ControlPoint.program (call : AddCall) :
    ControlPoint → ChatProgram RoomMemberDto
  | .entering => AddMember.execute call.now call.requesterId call.roomId
      call.userId call.role
  | .authorizing => do
      let _ ← RoomAuthorizer.assertAdmin call.roomId call.requesterId
      match ← userRepo.findById call.userId with
      | none => .fail (.notFoundError "User not found")
      | some _ =>
          match ← roomRepo.getMember call.roomId call.userId with
          | some _ => .fail (.conflictError "User is already a member")
          | none =>
              let member ← roomRepo.addMember
                (newMember call.roomId call.userId call.role call.now)
              return member.toRoomMemberDto
  | .lookingUp => do
      match ← userRepo.findById call.userId with
      | none => .fail (.notFoundError "User not found")
      | some _ =>
          match ← roomRepo.getMember call.roomId call.userId with
          | some _ => .fail (.conflictError "User is already a member")
          | none =>
              let member ← roomRepo.addMember
                (newMember call.roomId call.userId call.role call.now)
              return member.toRoomMemberDto
  | .checking => do
      match ← roomRepo.getMember call.roomId call.userId with
      | some _ => .fail (.conflictError "User is already a member")
      | none =>
          let member ← roomRepo.addMember
            (newMember call.roomId call.userId call.role call.now)
          return member.toRoomMemberDto
  | .adding => do
      let member ← roomRepo.addMember
        (newMember call.roomId call.userId call.role call.now)
      return member.toRoomMemberDto
  | .returned dto => .done dto
  | .failed error => .fail error

/-- The user is a member of the room. -/
def Joined (room user : String) (state : ChatState) : Prop :=
  ∃ row ∈ state.roomMembers, row.roomId = room ∧ row.userId = user

/-- The membership that a call inserts. -/
def AddCall.row (call : AddCall) (room user : String) : RoomMember :=
  newMember room user call.role call.now

section Moves

variable (call : AddCall) (room user : String) (state : ChatState)

/-- What a turn of an addition can do. -/
inductive Moves : ControlPoint → ControlPoint → ChatState → Prop where
  | enter : Moves .entering .authorizing state
  | authorize : Moves .authorizing .lookingUp state
  | lookUp : Moves .lookingUp .checking state
  | free (outsider : ¬ Joined room user state) :
      Moves .checking .adding state
  | known (joined : Joined room user state) :
      Moves .checking
        (.failed (.conflictError "User is already a member")) state
  | add (outsider : ¬ Joined room user state) :
      Moves .adding (.returned (call.row room user).toRoomMemberDto)
        { state with
          roomMembers := state.roomMembers ++ [call.row room user] }
  | reject (joined : Joined room user state) :
      Moves .adding
        (.failed (.databaseError (.uniqueViolation "room_members_pkey"))) state
  | rest (dto : RoomMemberDto) : Moves (.returned dto) (.returned dto) state
  | still (error : Failure) : Moves (.failed error) (.failed error) state

end Moves

section Resuming

variable {Name : Type*} {uuid : PgUuid} {calls : Name → AddCall}
  {room user : String} {start state : ChatState} {name : Name} {now : Time}

/-- The tables are those of the start, with the membership at most added. -/
structure Grown (uuid : PgUuid) (calls : Name → AddCall) (room user : String)
    (start state : ChatState) : Prop where
  conforms : Conforms uuid state
  rooms : state.rooms = start.rooms
  users : state.users = start.users
  members : state.roomMembers = start.roomMembers ∨ ∃ name,
    state.roomMembers = start.roomMembers ++ [(calls name).row room user]

theorem Grown.kept (grown : Grown uuid calls room user start state) :
    ∀ row ∈ start.roomMembers, row ∈ state.roomMembers := by
  intro row member
  rcases grown.members with same | ⟨name, added⟩
  · rw [same]
    exact member
  · rw [added]
    exact List.mem_append_left _ member

theorem resume_entering (admins : Admins uuid calls room user start)
    (grown : Grown uuid calls room user start state) :
    (ControlPoint.entering.program (calls name)).resume (chatAdapter uuid) now
        state = (ControlPoint.authorizing.program (calls name), state) := by
  obtain ⟨row, stored, same⟩ := admins.stored
  rw [← grown.rooms] at stored
  have looked : chatAdapter uuid (.roomRepo (.findById (calls name).roomId))
      now state = .ok (some row, state) := by
    refine findRoomById_eq_ok_iff.mpr ⟨room, admins.roomRead name, ?_, rfl⟩
    rw [← same]
    exact grown.conforms.roomIds.first_eq_some stored
  exact (Program.resume_call_ok _ looked).trans rfl

theorem resume_authorizing (admins : Admins uuid calls room user start)
    (grown : Grown uuid calls room user start state) :
    (ControlPoint.authorizing.program (calls name)).resume (chatAdapter uuid)
        now state = (ControlPoint.lookingUp.program (calls name), state) := by
  obtain ⟨row, stored, inRoom, requesterRead, admin⟩ := admins.admin name
  have membership : Membership uuid state (calls name).roomId
      (calls name).requesterId row :=
    ⟨grown.kept row stored, inRoom ▸ admins.roomRead name, requesterRead⟩
  have looked : chatAdapter uuid (.roomRepo (.getMember (calls name).roomId
      (calls name).requesterId)) now state = .ok (some row, state) :=
    getMember_eq_ok_iff.mpr ⟨row.roomId, membership.room, row.userId,
      membership.user, membership.first_eq grown.conforms, rfl⟩
  rw [ControlPoint.program, RoomAuthorizer.assertAdmin,
    RoomAuthorizer.assertMember, roomRepo.getMember, Program.bind_assoc,
    Program.bind_assoc, Program.perform_bind,
    Program.resume_call_ok _ looked]
  dsimp only
  rw [Program.pure_eq_done, Program.done_bind, if_neg admin,
    Program.pure_eq_done, Program.done_bind]
  rfl

theorem resume_lookingUp (admins : Admins uuid calls room user start)
    (grown : Grown uuid calls room user start state) :
    (ControlPoint.lookingUp.program (calls name)).resume (chatAdapter uuid)
        now state = (ControlPoint.checking.program (calls name), state) := by
  obtain ⟨row, stored, same⟩ := admins.known
  rw [← grown.users] at stored
  obtain ⟨found, first⟩ := @exists_first _ (fun row : User => row.id = user)
    _ _ row stored same
  have looked : chatAdapter uuid (.findUser (calls name).userId) now state =
      .ok (some found, state) :=
    findUser_eq_ok_iff.mpr ⟨user, admins.userRead name, first, rfl⟩
  exact (Program.resume_call_ok _ looked).trans rfl

/-- The check looks for the membership. -/
theorem checked (admins : Admins uuid calls room user start) :
    chatAdapter uuid (.roomRepo (.getMember (calls name).roomId
        (calls name).userId)) now state =
      .ok (first (fun row => row.roomId = room ∧ row.userId = user)
        state.roomMembers, state) :=
  getMember_eq_ok_iff.mpr
    ⟨room, admins.roomRead name, user, admins.userRead name, rfl, rfl⟩

theorem inserted (admins : Admins uuid calls room user start)
    (grown : Grown uuid calls room user start state)
    (outsider : ¬ Joined room user state) :
    chatAdapter uuid (.roomRepo (.insertMember
        (newMember (calls name).roomId (calls name).userId (calls name).role
          (calls name).now))) now state =
      .ok ((calls name).row room user, { state with
        roomMembers := state.roomMembers ++ [(calls name).row room user] }) := by
  refine insertMember_eq_ok_iff.mpr ⟨_, readNewMember _ _
    (admins.roomRead name) (admins.userRead name), ?_, ?_, rfl, rfl⟩
  · rintro other member ⟨sameRoom, sameUser⟩
    exact outsider ⟨other, member, sameRoom, sameUser⟩
  · apply newMember_refers
    · rw [grown.rooms]
      exact admins.stored
    · rw [grown.users]
      exact admins.known

theorem rejected (admins : Admins uuid calls room user start)
    (joined : Joined room user state) :
    chatAdapter uuid (.roomRepo (.insertMember
        (newMember (calls name).roomId (calls name).userId (calls name).role
          (calls name).now))) now state =
      .error (.databaseError (.uniqueViolation "room_members_pkey")) := by
  have clash : ∃ other ∈ state.roomMembers, PgRoomRepository.sameKey other
      (newMember room user (calls name).role (calls name).now) := by
    obtain ⟨row, member, sameRoom, sameUser⟩ := joined
    exact ⟨row, member, sameRoom, sameUser⟩
  simp only [chatAdapter, PgRoomRepository.handle,
    readNewMember (calls name).role (calls name).now (admins.roomRead name)
      (admins.userRead name)]
  exact if_pos clash

/-- A turn of an addition does nothing else. -/
theorem resume_moves (admins : Admins uuid calls room user start)
    (grown : Grown uuid calls room user start state) (name : Name)
    (now : Time) (point : ControlPoint) :
    ∃ next after, (point.program (calls name)).resume (chatAdapter uuid) now
        state = (next.program (calls name), after) ∧
      Moves (calls name) room user state point next after := by
  cases point with
  | entering => exact ⟨_, _, resume_entering admins grown, .enter⟩
  | authorizing => exact ⟨_, _, resume_authorizing admins grown, .authorize⟩
  | lookingUp => exact ⟨_, _, resume_lookingUp admins grown, .lookUp⟩
  | checking =>
      have looked := @checked _ uuid calls room user start state name now admins
      cases found : first (fun row => row.roomId = room ∧ row.userId = user)
          state.roomMembers with
      | none =>
          rw [found] at looked
          refine ⟨.adding, _, (Program.resume_call_ok _ looked).trans rfl,
            .free ?_⟩
          rintro ⟨row, member, same⟩
          exact first_eq_none_iff.mp found row member same
      | some row =>
          rw [found] at looked
          have same := condition_of_first found
          exact ⟨_, _, (Program.resume_call_ok _ looked).trans rfl,
            .known ⟨row, mem_of_first found, same⟩⟩
  | adding =>
      by_cases joined : Joined room user state
      · exact ⟨_, _, (Program.resume_call_error _
          (rejected admins joined)).trans rfl, .reject joined⟩
      · exact ⟨.returned _, _, (Program.resume_call_ok _
          (inserted admins grown joined)).trans rfl, .add joined⟩
  | returned dto => exact ⟨_, _, rfl, .rest dto⟩
  | failed error => exact ⟨_, _, rfl, .still error⟩

end Resuming

/-! ## The race -/

/-- What an addition is about. -/
def stage : ChatOp → Phase
  | .roomRepo (.insertMember _) => .holding
  | _ => .waiting

/-- Additions race for the membership, which they look up first. -/
def race {Name : Type*} (calls : Name → AddCall) (room user : String) :
    Race Name ChatPort ChatState Failure RoomMemberDto where
  phase := Conflicts.phase stage
  taken := Joined room user
  fit _ := True
  checks name op :=
    op = .roomRepo (.getMember (calls name).roomId (calls name).userId)

section Turns

variable {Name : Type*} {uuid : PgUuid} {calls : Name → AddCall}
  {room user : String} {start state after : ChatState} {name : Name}
  {now : Time} {point next : ControlPoint}

/-- A call that has returned has inserted the membership. -/
def Relies (call : AddCall) (room user : String) (state : ChatState) :
    ControlPoint → Prop
  | .returned _ => call.row room user ∈ state.roomMembers
  | _ => True

/-- An addition stands at a control point, on tables that have grown. -/
def Stands (uuid : PgUuid) (calls : Name → AddCall) (room user : String)
    (start : ChatState) (name : Name) (state : ChatState)
    (program : ChatProgram RoomMemberDto) : Prop :=
  Grown uuid calls room user start state ∧
    ∃ point : ControlPoint, program = point.program (calls name) ∧
      Relies (calls name) room user state point

theorem Relies.grows {call : AddCall}
    (relies : Relies call room user state point)
    (kept : ∀ row ∈ state.roomMembers, row ∈ after.roomMembers) :
    Relies call room user after point := by
  cases point with
  | returned dto => exact kept _ relies
  | _ => trivial

theorem Moves.kept
    (moves : Moves (calls name) room user state point next after) :
    ∀ row ∈ state.roomMembers, row ∈ after.roomMembers := by
  cases moves with
  | add outsider => exact fun row member => List.mem_append_left _ member
  | _ => exact fun row member => member

theorem Moves.relies
    (relies : Relies (calls name) room user state point)
    (moves : Moves (calls name) room user state point next after) :
    Relies (calls name) room user after next := by
  cases moves with
  | add outsider => exact List.mem_concat_self
  | rest dto => exact relies
  | _ => trivial

theorem Moves.grown (admins : Admins uuid calls room user start)
    (grown : Grown uuid calls room user start state)
    (moves : Moves (calls name) room user state point next after) :
    Grown uuid calls room user start after := by
  cases moves with
  | add outsider =>
      have conforms := grown.conforms.statement
        (@inserted _ uuid calls room user start state name 0 admins grown
          outsider)
      refine ⟨conforms, grown.rooms, grown.users, .inr ⟨name, ?_⟩⟩
      rcases grown.members with same | ⟨other, added⟩
      · rw [same]
      · refine absurd ⟨(calls other).row room user, ?_, rfl, rfl⟩ outsider
        rw [added]
        exact List.mem_concat_self
  | _ => exact grown

/-- An admin is a member, and so not the user who is added. -/
theorem requester_ne (admins : Admins uuid calls room user start) :
    (calls name).requesterId ≠ (calls name).userId := by
  intro same
  obtain ⟨row, stored, inRoom, requesterRead, -⟩ := admins.admin name
  rw [same, admins.userRead name, Option.some.injEq] at requesterRead
  exact admins.outsider row stored inRoom requesterRead.symm

theorem Moves.attempt (admins : Admins uuid calls room user start)
    (moves : Moves (calls name) room user state point next after) :
    (race calls room user).Attempt name (point.program (calls name)) state
      (next.program (calls name)) after := by
  have checks : ∃ op ∈ (ControlPoint.checking.program (calls name)).pending,
      (race calls room user).checks name op := ⟨_, rfl, rfl⟩
  cases moves with
  | enter => exact .stays (by rintro _ ⟨⟩ ⟨⟩) rfl Iff.rfl
  | authorize =>
      refine .stays ?_ rfl Iff.rfl
      rintro _ ⟨⟩ same
      exact requester_ne admins
        (RoomOp.getMember.inj (ChatOp.roomRepo.inj same)).2
  | lookUp => exact .stays (by rintro _ ⟨⟩ ⟨⟩) rfl Iff.rfl
  | free outsider => exact .holds checks outsider rfl rfl outsider
  | known joined => exact .loses checks joined rfl rfl joined
  | add outsider =>
      exact .wins (by rintro _ ⟨⟩ ⟨⟩) outsider trivial rfl rfl
        ⟨_, List.mem_concat_self, rfl, rfl⟩
  | reject joined =>
      exact .breaks (by rintro _ ⟨⟩ ⟨⟩) (.inl joined) rfl rfl Iff.rfl
  | rest dto => exact .stays (by rintro _ ⟨⟩) rfl Iff.rfl
  | still error => exact .stays (by rintro _ ⟨⟩) rfl Iff.rfl

theorem turn (admins : Admins uuid calls room user start) (name : Name)
    (now : Time) (state : ChatState) (program : ChatProgram RoomMemberDto)
    (stands : Stands uuid calls room user start name state program) :
    Race.Turn (race calls room user) (Stands uuid calls room user start) name
      program state (program.resume (chatAdapter uuid) now state).1
      (program.resume (chatAdapter uuid) now state).2 := by
  obtain ⟨grown, point, rfl, relies⟩ := stands
  obtain ⟨next, after, resumed, moves⟩ :=
    resume_moves admins grown name now point
  rw [resumed]
  have still := moves.grown admins grown
  refine ⟨moves.attempt admins, ⟨still, next, rfl, moves.relies relies⟩, ?_⟩
  rintro other - - ⟨-, otherPoint, rfl, otherRelies⟩
  exact ⟨still, otherPoint, rfl, otherRelies.grows moves.kept⟩

end Turns

/-! ## One membership -/

section Results

variable {Name : Type*} (calls : Name → AddCall) (room user : String)
  (start : ChatState)

/-- One call adds the member, and all others throw. -/
def OneAdds (config : Additions Name) : Prop :=
  ∃ winner, (∃ dto, config.threads winner = .done dto) ∧
    config.shared.roomMembers =
      start.roomMembers ++ [(calls winner).row room user] ∧
    ∀ other, other ≠ winner → ∃ message,
      config.threads other = .fail (.conflictError message)

/-- A call checks while another one is between its check and its insertion. -/
def Overlaps (config : Additions Name) (turn : Name × Time) : Prop :=
  config.pending turn.1 = some (.roomRepo
      (.getMember (calls turn.1).roomId (calls turn.1).userId)) ∧
    ∃ other, other ≠ turn.1 ∧
      Conflicts.phase stage (config.threads other) = .holding

instance [Fintype Name] [DecidableEq Name] (config : Additions Name)
    (turn : Name × Time) : Decidable (Overlaps calls config turn) :=
  inferInstanceAs (Decidable (_ ∧ ∃ _, _ ∧ _))

variable {calls room user start} {uuid : PgUuid} {config : Additions Name}

/-- The membership that is added is that of the call that returns. -/
theorem added_of_returned (admins : Admins uuid calls room user start)
    {name : Name} {dto : RoomMemberDto}
    (stands : Stands uuid calls room user start name config.shared
      (config.threads name))
    (returned : config.threads name = .done dto) :
    config.shared.roomMembers =
      start.roomMembers ++ [(calls name).row room user] := by
  obtain ⟨grown, point, stand, relies⟩ := stands
  rw [returned] at stand
  have absent : (calls name).row room user ∉ start.roomMembers :=
    fun member => admins.outsider _ member rfl rfl
  cases point with
  | returned dto =>
      have member : (calls name).row room user ∈ config.shared.roomMembers :=
        relies
      rcases grown.members with same | ⟨other, added⟩
      · rw [same] at member
        exact absurd member absent
      · rw [added] at member ⊢
        rcases List.mem_append.mp member with old | new
        · exact absurd old absent
        · rw [List.mem_singleton.mp new]
  | _ => cases stand

variable [DecidableEq Name]

theorem settled_iff_oneAdds (admins : Admins uuid calls room user start)
    (supported :
      Race.Supported (Stands uuid calls room user start) config)
    (quiescent : config.Quiescent) :
    ((race calls room user).contest (chatAdapter uuid)).Settled config ↔
      OneAdds calls room user start config := by
  constructor
  · rintro ⟨winner, won, others⟩
    obtain ⟨dto, returned⟩ :=
      Conflicts.returned_of_won (quiescent winner) won
    exact ⟨winner, ⟨dto, returned⟩,
      added_of_returned admins (supported winner) returned,
      fun other differ =>
        Conflicts.thrown_of_lost (quiescent other) (others other differ)⟩
  · rintro ⟨winner, ⟨dto, returned⟩, -, others⟩
    refine ⟨winner, congrArg (race calls room user).phase returned,
      fun other differ => ?_⟩
    obtain ⟨message, thrown⟩ := others other differ
    exact congrArg (race calls room user).phase thrown

/-- One call adds the member exactly if no check comes before its insertion. -/
theorem oneAdds_iff [Nonempty Name]
    (admins : Admins uuid calls room user start)
    {schedule : List (Name × Time)}
    (quiescent : ((started calls start).play (chatAdapter uuid)
      schedule).Quiescent) :
    OneAdds calls room user start ((started calls start).play
        (chatAdapter uuid) schedule) ↔
      Along (Config.advance (chatAdapter uuid))
        (fun config turn => ¬ Overlaps calls config turn)
        (started calls start) schedule := by
  have supported : Race.Supported (Stands uuid calls room user start)
      (started calls start) := fun name =>
    ⟨⟨admins.conforms, rfl, rfl, .inl rfl⟩, .entering, rfl, trivial⟩
  have hinders (config : Additions Name) (turn : Name × Time) :
      ((race calls room user).contest (chatAdapter uuid)).Hinders config
          turn ↔ Overlaps calls config turn := by
    refine (or_iff_left fun misled => misled.2.2 trivial).trans
      (and_congr_left fun _ => ?_)
    constructor
    · rintro ⟨op, waits, rfl⟩
      exact waits
    · exact fun waits => ⟨_, waits, rfl⟩
  have free : ¬ Joined room user start := by
    rintro ⟨row, member, inRoom, same⟩
    exact admins.outsider row member inRoom same
  rw [← settled_iff_oneAdds admins
    (Race.supported_play (turn admins) supported schedule) quiescent,
    Race.settled_iff (turn admins) supported free (fun _ => rfl)
      fun name => Conflicts.ended_of_finished (quiescent name)]
  simp only [hinders]

end Results

/-! ## Both races -/

section Conflicts

open ChatBackend.Auth.TokenStore
open ChatBackend.Auth.EmailTokens
open ChatBackend.Auth.RegistrationRace (RegisterCall OneCreates Rivals Vacant)

open ChatBackend.Auth.RegistrationRace

/-- A group with an owner and a user outside of it. -/
def sampleGroup : ChatState :=
  ((CreateGroupRoom.execute { id := sampleRoomId, now := 0 } sampleOwner "Team"
    []).run (chatAdapter samplePgUuid) 0
      (sampleTables [sampleOwner, sampleMember])).2

/-- The owner adds the user as a member and as an admin. -/
def sampleAdditions (admin : Bool) : AddCall where
  requesterId := sampleOwner
  roomId := sampleRoomId
  userId := sampleMember
  role := if admin then .admin else .member
  now := 0

theorem admins_sample :
    Admins samplePgUuid sampleAdditions sampleRoomId sampleMember
      sampleGroup where
  conforms := (conforms_empty _ _ _).run
  stored := by decide +kernel
  known := by decide +kernel
  outsider := by decide +kernel
  roomRead := by decide +kernel
  userRead := by decide +kernel
  admin := by decide +kernel

def addOneByOne : List (Bool × Time) :=
  [false, false, false, false, false, true, true, true, true].map (·, 1)

/-- Both calls check before either inserts. -/
def addBothCheck : List (Bool × Time) :=
  [false, false, false, false, true, true, true, true, false, true].map (·, 1)

end Conflicts

end ChatBackend.Chat.MembershipRace
