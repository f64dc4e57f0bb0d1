import ChatBackend.Chat.RoomActions
import ChatBackend.Chat.Statements
import ChatBackend.Effects.Conduct
import ChatBackend.Transition.Registers
import Mathlib.Data.String.Basic

/-!
# Read pointers

`MarkAsRead` checks that its message is one of the room and then sets the
member's pointer to it, whatever is there.  However its calls overlap with each
other, with sends and with requests for memberships, a pointer leads to a
message of its room.  It is the greatest of the messages that were acknowledged
exactly as long as no acknowledgement is of an older message than the one that
the pointer leads to.
-/

namespace ChatBackend.Chat.ReadPointers

open Effects
open Relational
open Transition
open Effects.Program
open ChatBackend.Chat.Store
open ChatBackend.Chat.Schema
open ChatBackend.Chat.RoomUseCases
open ChatBackend.Chat.MessageUseCases
open ChatBackend.Chat.Statements
open ChatBackend.Chat.Requests
open ChatBackend.Chat.RoomActions
  (readPointer readPointer_append insertIgnoring_append)

/-! ## Overlapping calls -/

/-- Acknowledgements, sends and the requests that make or end memberships. -/
inductive MemberCall where
  | markAsRead (userId roomId messageId : String)
  | sendMessage (draws : SendMessage.Draws) (input : SendMessage.Input)
  | createDirectRoom (draws : RoomDraws) (requesterId targetUserId : String)
  | createGroupRoom (draws : RoomDraws) (requesterId name : String)
      (memberIds : List String)
  | addMember (now : Time) (requesterId roomId userId : String)
      (role : RoomRole)
  | removeMember (requesterId roomId targetUserId : String)
deriving DecidableEq

def MemberCall.request : MemberCall → ChatRequest
  | .markAsRead userId roomId messageId => .markAsRead userId roomId messageId
  | .sendMessage draws input => .sendMessage draws input
  | .createDirectRoom draws requesterId targetUserId =>
      .createDirectRoom draws requesterId targetUserId
  | .createGroupRoom draws requesterId name memberIds =>
      .createGroupRoom draws requesterId name memberIds
  | .addMember now requesterId roomId userId role =>
      .addMember now requesterId roomId userId role
  | .removeMember requesterId roomId targetUserId =>
      .removeMember requesterId roomId targetUserId

abbrev MemberConfig (Name : Type*) :=
  Config Name ChatPort ChatState Failure ChatReply

/-- The calls before any of them has taken a turn. -/
def started {Name : Type*} (start : ChatState) (calls : Name → MemberCall) :
    MemberConfig Name where
  shared := start
  threads name := (calls name).request.program

/-- One statement of one call. -/
abbrev turn {Name : Type*} [DecidableEq Name] (uuid : PgUuid) :
    MemberConfig Name → Name × Time → MemberConfig Name :=
  Config.advance (chatAdapter uuid)

/-! ## The property -/

/-- The user has a membership in the room. -/
def HasMember (state : ChatState) (room user : String) : Prop :=
  ∃ row ∈ state.roomMembers, row.roomId = room ∧ row.userId = user

/-- The message to which a statement sets the pointer of the member. -/
def markOp (uuid : PgUuid) (room user : String) (state : ChatState) :
    ChatOp → Option String
  | .roomRepo (.setLastReadMessage roomId userId messageId) =>
      if uuid.read roomId = some room ∧ uuid.read userId = some user then
        (uuid.read messageId).filter fun id =>
          decide (∃ row ∈ state.messages, row.id = id)
      else none
  | _ => none

instance (state : ChatState) (room user : String) :
    Decidable (HasMember state room user) :=
  inferInstanceAs (Decidable (∃ row ∈ state.roomMembers, _))

/-- The statement acknowledges an older message than the pointer leads to. -/
def SetsBack (uuid : PgUuid) (state : ChatState) : ChatOp → Prop
  | .roomRepo (.setLastReadMessage roomId userId messageId) =>
      ∃ row ∈ state.roomMembers, uuid.read roomId = some row.roomId ∧
        uuid.read userId = some row.userId ∧
          ∃ message ∈ state.messages, uuid.read messageId = some message.id ∧
            ∃ pointer ∈ row.lastReadMessageId, message.id < pointer
  | _ => False

instance (uuid : PgUuid) (state : ChatState) (op : ChatOp) :
    Decidable (SetsBack uuid state op) :=
  match op with
  | .roomRepo (.setLastReadMessage roomId userId messageId) =>
      inferInstanceAs (Decidable
        (∃ row ∈ state.roomMembers, uuid.read roomId = some row.roomId ∧
          uuid.read userId = some row.userId ∧
            ∃ message ∈ state.messages, uuid.read messageId = some message.id ∧
              ∃ pointer ∈ row.lastReadMessageId, message.id < pointer))
  | .roomRepo (.insertDm _) => isFalse id
  | .roomRepo (.insertDmMembers _ _) => isFalse id
  | .roomRepo (.insertGroup _) => isFalse id
  | .roomRepo (.findById _) => isFalse id
  | .roomRepo (.findByDmKey _) => isFalse id
  | .roomRepo (.insertMember _) => isFalse id
  | .roomRepo (.removeMember _ _) => isFalse id
  | .roomRepo (.getMember _ _) => isFalse id
  | .roomRepo (.bumpLastMessageAt _ _) => isFalse id
  | .roomRepo (.deleteRoom _) => isFalse id
  | .messageRepo _ => isFalse id
  | .findUser _ => isFalse id
  | .headObject _ => isFalse id
  | .publish _ _ => isFalse id

section Runs

variable {Name : Type*} [DecidableEq Name] (uuid : PgUuid)

/-- The messages that a member acknowledges, in the order of the statements. -/
def acknowledged (room user : String) :
    MemberConfig Name → List (Name × Time) → List String :=
  emitted (turn uuid) fun config taken =>
    (config.pending taken.1).bind (markOp uuid room user config.shared)

/--
While a membership lasts, its pointer never goes back, and it is the greatest of
what it was and of the messages that the member has acknowledged since.
-/
def PointersAdvance (start : MemberConfig Name) (schedule : List (Name × Time)) :
    Prop :=
  ∀ room user before stretch after, schedule = before ++ stretch ++ after →
    let first := run (turn uuid) start before
    let last := run (turn uuid) start (before ++ stretch)
    Throughout (turn uuid) (fun config => HasMember config.shared room user)
        first stretch →
      (∀ old ∈ readPointer first.shared room user,
        ∃ new ∈ readPointer last.shared room user, old ≤ new) ∧
      ∀ top, readPointer last.shared room user = some top ↔
        IsGreatest {id | id ∈ readPointer first.shared room user ∨
          id ∈ acknowledged uuid room user first stretch} top

omit [DecidableEq Name] in
/-- The turn acknowledges an older message than the pointer leads to. -/
def MovesBack (config : MemberConfig Name) (taken : Name × Time) : Prop :=
  ∃ op ∈ config.pending taken.1, SetsBack uuid config.shared op

instance (config : MemberConfig Name) (taken : Name × Time) :
    Decidable (MovesBack uuid config taken) :=
  inferInstanceAs (Decidable (∃ _ ∈ config.pending taken.1, _))

end Runs

/-! ## One statement -/

/-- The calls add unread members and delete no room. -/
def Issued : ChatOp → Prop
  | .roomRepo (.insertMember member) => member.lastReadMessageId = none
  | .roomRepo (.insertDmMembers memberA memberB) =>
      memberA.lastReadMessageId = none ∧ memberB.lastReadMessageId = none
  | .roomRepo (.deleteRoom _) => False
  | _ => True

/-- An acknowledgement is of a message of the room. -/
def Aimed (uuid : PgUuid) (state : ChatState) : ChatOp → Prop
  | .roomRepo (.setLastReadMessage roomId _ messageId) =>
      ∃ message ∈ state.messages, uuid.read messageId = some message.id ∧
        uuid.read roomId = some message.roomId
  | _ => True

/-- What the statements of the calls may do to the memberships. -/
inductive MemberChange (uuid : PgUuid) (state : ChatState) :
    ChatOp → List RoomMember → Prop where
  | kept (op : ChatOp) (unmarking : ∀ room user,
        markOp uuid room user state op = none) :
      MemberChange uuid state op state.roomMembers
  | joined (op : ChatOp) (rows : List RoomMember)
      (unmarking : ∀ room user, markOp uuid room user state op = none)
      (unread : ∀ row ∈ rows, row.lastReadMessageId = none) :
      MemberChange uuid state op (state.roomMembers ++ rows)
  | left (roomId userId room user : String) :
      MemberChange uuid state (.roomRepo (.removeMember roomId userId))
        (deleteWhere (fun row => row.roomId = room ∧ row.userId = user)
          state.roomMembers)
  | marked (roomId userId messageId room user id : String)
      (roomRead : uuid.read roomId = some room)
      (userRead : uuid.read userId = some user)
      (messageRead : uuid.read messageId = some id)
      (stored : HasMember state room user →
        ∃ row ∈ state.messages, row.id = id) :
      MemberChange uuid state
        (.roomRepo (.setLastReadMessage roomId userId messageId))
        (updateWhere (fun row => row.roomId = room ∧ row.userId = user)
          (fun row => { row with lastReadMessageId := some id })
          state.roomMembers)

section Statements

variable {uuid : PgUuid} {now : Time} {state after : ChatState}

theorem unread_of_readMember {member row : RoomMember}
    (reads : PgRoomRepository.readMember uuid member = .ok row)
    (unread : member.lastReadMessageId = none) :
    row.lastReadMessageId = none := by
  obtain ⟨_, -, _, -, pointer, pointerRead, rfl⟩ :=
    readMember_eq_ok_iff.mp reads
  rw [unread] at pointerRead
  cases pointerRead
  rfl

theorem memberChange_room {op : RoomOp} {answer : op.Answer}
    (issued : Issued (.roomRepo op))
    (answered : chatAdapter uuid (.roomRepo op) now state =
      .ok (answer, after)) :
    MemberChange uuid state (.roomRepo op) after.roomMembers := by
  cases op with
  | insertDm room =>
      rcases insertDm_eq_ok_iff.mp answered with ⟨row, -, ends⟩
      split_ifs at ends with known
      · exact ends.2 ▸ .kept _ fun _ _ => rfl
      · exact ends.2.2 ▸ .kept _ fun _ _ => rfl
  | insertDmMembers memberA memberB =>
      rcases insertDmMembers_eq_ok_iff.mp answered with
        ⟨rowA, readsA, rowB, readsB, -, -, rfl⟩
      obtain ⟨first, joins, only⟩ := insertIgnoring_append rowA state.roomMembers
      obtain ⟨second, joinsToo, onlyToo⟩ :=
        insertIgnoring_append rowB (state.roomMembers ++ first)
      dsimp only
      rw [joins, joinsToo, List.append_assoc]
      refine .joined _ _ (fun _ _ => rfl) fun row member => ?_
      rcases List.mem_append.mp member with a | b
      · rw [only row a]
        exact unread_of_readMember readsA issued.1
      · rw [onlyToo row b]
        exact unread_of_readMember readsB issued.2
  | insertGroup room =>
      rcases insertGroup_eq_ok_iff.mp answered with ⟨_, -, -, -, rfl⟩
      exact .kept _ fun _ _ => rfl
  | findById id =>
      rcases findRoomById_eq_ok_iff.mp answered with ⟨-, -, -, rfl⟩
      exact .kept _ fun _ _ => rfl
  | findByDmKey dmKey =>
      rcases findByDmKey_eq_ok_iff.mp answered with ⟨-, rfl⟩
      exact .kept _ fun _ _ => rfl
  | insertMember member =>
      obtain ⟨row, reads, -, -, -, rfl⟩ := insertMember_eq_ok_iff.mp answered
      refine .joined _ _ (fun _ _ => rfl) fun other present => ?_
      rw [List.mem_singleton.mp present]
      exact unread_of_readMember reads issued
  | removeMember roomId userId =>
      rcases removeMember_eq_ok_iff.mp answered with ⟨room, -, user, -, rfl⟩
      exact .left roomId userId room user
  | getMember roomId userId =>
      rcases getMember_eq_ok_iff.mp answered with ⟨-, -, -, -, -, rfl⟩
      exact .kept _ fun _ _ => rfl
  | setLastReadMessage roomId userId messageId =>
      obtain ⟨id, messageRead, room, roomRead, user, userRead, stored, rfl⟩ :=
        setLastReadMessage_eq_ok_iff.mp answered
      refine .marked roomId userId messageId room user id roomRead userRead
        messageRead fun member => ?_
      by_contra missing
      exact stored ⟨member, missing⟩
  | bumpLastMessageAt roomId at_ =>
      rcases bumpLastMessageAt_eq_ok_iff.mp answered with ⟨_, -, rfl⟩
      exact .kept _ fun _ _ => rfl
  | deleteRoom spelled => exact issued.elim

theorem memberChange {op : ChatOp} {answer : op.Answer} (issued : Issued op)
    (answered : chatAdapter uuid op now state = .ok (answer, after)) :
    MemberChange uuid state op after.roomMembers := by
  cases op with
  | findUser id =>
      rcases findUser_eq_ok_iff.mp answered with ⟨-, -, -, rfl⟩
      exact .kept _ fun _ _ => rfl
  | roomRepo op => exact memberChange_room issued answered
  | messageRepo op =>
      have same : after.roomMembers = state.roomMembers := by
        cases op with
        | insert message =>
            obtain ⟨row, -, ⟨-, rfl⟩ | ⟨-, -, -, rfl⟩⟩ :=
              insertMessage_eq_ok_iff.mp answered <;> rfl
        | findById id =>
            rcases findMessageById_eq_ok_iff.mp answered with ⟨-, -, -, rfl⟩
            rfl
        | listByRoom roomId before limit =>
            rcases listByRoom_eq_ok_iff.mp answered with ⟨-, -, -, -, -, rfl⟩
            rfl
        | update spelled patch =>
            obtain ⟨-, _, -, _, -, -, rfl⟩ :=
              updateMessage_eq_ok_iff.mp answered
            rfl
        | softDelete spelled =>
            obtain ⟨_, -, _, -, -, rfl⟩ := softDelete_eq_ok_iff.mp answered
            rfl
      rw [same]
      exact .kept _ fun _ _ => rfl
  | headObject key =>
      rcases headObject_eq_ok_iff.mp answered with ⟨-, rfl⟩
      exact .kept _ fun _ _ => rfl
  | publish channel event =>
      rw [publish_eq_ok_iff] at answered
      subst answered
      exact .kept _ fun _ _ => rfl

/-- The pointer of a membership that lasts is set, or it stays. -/
theorem MemberChange.readPointer {op : ChatOp} {room user : String}
    (change : MemberChange uuid state op after.roomMembers)
    (member : HasMember state room user) (still : HasMember after room user) :
    readPointer after room user =
      (markOp uuid room user state op).or (readPointer state room user) := by
  generalize rows : after.roomMembers = members at change
  cases change with
  | kept op unmarking =>
      rw [unmarking]
      unfold RoomActions.readPointer
      rw [rows]
      rfl
  | joined op added unmarking unread =>
      rw [unmarking, Option.none_or]
      exact readPointer_append rows unread user
  | left roomId userId here removed =>
      change _ = RoomActions.readPointer state room user
      unfold RoomActions.readPointer
      rw [rows]
      refine congrArg (fun found => Option.bind found _) (first_congr ?_)
      apply filter_deleteWhere
      rintro row - ⟨rfl, rfl⟩ ⟨sameRoom, sameUser⟩
      obtain ⟨other, present, inRoom, isUser⟩ := still
      rw [rows] at present
      exact (mem_deleteWhere.mp present).2
        ⟨inRoom.trans sameRoom, isUser.trans sameUser⟩
  | marked roomId userId messageId here marker id roomRead userRead messageRead
      stored =>
      unfold RoomActions.readPointer
      rw [rows, first_updateWhere (by simp)]
      obtain ⟨row, present, same⟩ := member
      obtain ⟨found, looked⟩ := @exists_first _
        (fun row : RoomMember => row.roomId = room ∧ row.userId = user) _ _ row
        present same
      have isMember := condition_of_first looked
      rw [looked]
      simp only [markOp, roomRead, userRead, messageRead, Option.some.injEq]
      by_cases marked : here = room ∧ marker = user
      · obtain ⟨rfl, rfl⟩ := marked
        have known := stored ⟨row, present, same⟩
        simp [isMember, Option.filter, known]
      · have others : ¬ (found.roomId = here ∧ found.userId = marker) :=
          fun is => marked
            ⟨is.1.symm.trans isMember.1, is.2.symm.trans isMember.2⟩
        simp [marked, others]

/-- Messages stay where they are. -/
def MessagesStay (state after : ChatState) : Prop :=
  ∀ row ∈ state.messages, ∃ later ∈ after.messages,
    later.id = row.id ∧ later.roomId = row.roomId

theorem messagesStay_update {id : String} {change : Message → Message}
    (keeps : KeepsMessage change)
    (updated : after.messages =
      updateWhere (fun row => row.id = id) change state.messages) :
    MessagesStay state after := by
  intro row stored
  refine ⟨_, updated ▸ mem_updateWhere.mpr ⟨row, stored, rfl⟩, ?_⟩
  split_ifs
  · exact ⟨keeps.id row, keeps.roomId row⟩
  · exact ⟨rfl, rfl⟩

theorem messagesStay_of_statement {op : ChatOp} {answer : op.Answer}
    (issued : Issued op)
    (answered : chatAdapter uuid op now state = .ok (answer, after)) :
    MessagesStay state after := by
  have change := messageChange answered
  generalize messages : after.messages = rows at change
  cases change with
  | kept =>
      intro row stored
      exact ⟨row, messages ▸ stored, rfl, rfl⟩
  | inserted message row reads =>
      intro other stored
      exact ⟨other, messages ▸ List.mem_append_left _ stored, rfl, rfl⟩
  | patched spelled id patch reads stores =>
      exact messagesStay_update (patchMessage_keeps patch) messages
  | blanked spelled id reads =>
      exact messagesStay_update (blank_keeps now) messages
  | removed spelled room reads => exact issued.elim

theorem MessagesStay.pointsInto (stay : MessagesStay state after)
    {row : RoomMember} (points : PointsInto state.messages row) :
    PointsInto after.messages row := by
  intro id given
  obtain ⟨message, stored, same, inRoom⟩ := points id given
  obtain ⟨later, storedLater, sameId, sameRoom⟩ := stay message stored
  exact ⟨later, storedLater, sameId.trans same, sameRoom.trans inRoom⟩

/-- Pointers stay in their rooms if acknowledgements are of their messages. -/
theorem sound_of_statement {op : ChatOp} {answer : op.Answer}
    (sound : Sound uuid state) (issued : Issued op)
    (aimed : Aimed uuid state op)
    (answered : chatAdapter uuid op now state = .ok (answer, after)) :
    Sound uuid after := by
  refine { sound.toConforms.statement answered with pointers := ?_ }
  have stay := messagesStay_of_statement issued answered
  have change := memberChange issued answered
  intro row present
  generalize after.roomMembers = rows at change present
  cases change with
  | kept op unmarking => exact stay.pointsInto (sound.pointers row present)
  | joined op added unmarking unread =>
      rcases List.mem_append.mp present with old | new
      · exact stay.pointsInto (sound.pointers row old)
      · intro id given
        cases (unread row new).symm.trans given
  | left roomId userId room user =>
      exact stay.pointsInto
        (sound.pointers row (mem_deleteWhere.mp present).1)
  | marked roomId userId messageId room user id roomRead userRead messageRead
      stored =>
      obtain ⟨old, oldPresent, rfl⟩ := mem_updateWhere.mp present
      split_ifs with marks
      · obtain ⟨message, messageStored, sameId, sameRoom⟩ := aimed
        apply stay.pointsInto
        rintro pointer ⟨⟩
        have inRoom : message.roomId = room :=
          Option.some.inj (sameRoom.symm.trans roomRead)
        exact ⟨message, messageStored,
          Option.some.inj (sameId.symm.trans messageRead),
          inRoom.trans marks.1.symm⟩
      · exact stay.pointsInto (sound.pointers old oldPresent)

end Statements

/-! ## The calls -/

/-- The calls keep pointers in their rooms and messages where they are. -/
def conduct (uuid : PgUuid) : Conduct ChatState where
  invariant := Sound uuid
  allows := MessagesStay
  refl _ row stored := ⟨row, stored, rfl, rfl⟩
  trans _ _ _ first second row stored := by
    obtain ⟨later, storedLater, sameId, sameRoom⟩ := first row stored
    obtain ⟨last, storedLast, lastId, lastRoom⟩ := second later storedLater
    exact ⟨last, storedLast, lastId.trans sameId, lastRoom.trans sameRoom⟩

/-- The statements of calls that acknowledge nothing. -/
def Unmarking : ChatOp → Prop
  | .roomRepo (.setLastReadMessage _ _ _) => False
  | op => Issued op

theorem Unmarking.issued {op : ChatOp} (unmarking : Unmarking op) :
    Issued op := by
  cases op with
  | roomRepo op => cases op <;> first | exact unmarking | exact trivial
  | _ => trivial

theorem Unmarking.aimed {uuid : PgUuid} {state : ChatState} {op : ChatOp}
    (unmarking : Unmarking op) : Aimed uuid state op := by
  cases op with
  | roomRepo op => cases op <;> first | exact trivial | exact unmarking.elim
  | _ => trivial

theorem unmarking_of_membership {op : ChatOp}
    (statement : MembershipStatement op) : Unmarking op := by
  cases op with
  | roomRepo op => cases op <;> first | exact statement | exact trivial
  | _ => trivial

theorem unmarking_of_send {draws : SendMessage.Draws}
    {input : SendMessage.Input} {op : ChatOp}
    (statement : SendStatement draws input op) : Unmarking op := by
  cases op with
  | roomRepo op => cases op <;> first | exact trivial | exact statement.elim
  | _ => trivial

/-- A call other than an acknowledgement issues nothing of one. -/
theorem call_unmarking (call : MemberCall)
    (other : ∀ userId roomId messageId,
      call ≠ .markAsRead userId roomId messageId) :
    call.request.program.Issues Unmarking := by
  have joins (op : ChatOp) := @unmarking_of_membership op
  cases call with
  | markAsRead userId roomId messageId => exact absurd rfl (other _ _ _)
  | sendMessage draws input =>
      exact ((sendMessage_statements draws input).imp
        fun _ => unmarking_of_send).map
  | createDirectRoom draws requesterId targetUserId =>
      exact ((createDirectRoom_statements _ _ _).imp joins).map
  | createGroupRoom draws requesterId name memberIds =>
      exact ((createGroupRoom_statements _ _ _ _).imp joins).map
  | addMember now requesterId roomId userId role =>
      exact ((addMember_statements _ _ _ _ _).imp joins).map
  | removeMember requesterId roomId targetUserId =>
      exact ((removeMember_statements _ _ _).imp joins).map

theorem call_issues (call : MemberCall) :
    call.request.program.Issues Issued := by
  cases call with
  | markAsRead userId roomId messageId =>
      exact (markAsRead_statements (fun _ _ => trivial) (fun _ => trivial)
        (fun _ _ _ => trivial) (fun _ _ => trivial) _ _ _).map
  | _ =>
      refine Issues.imp (call_unmarking _ ?_) fun _ => Unmarking.issued
      intro _ _ _ same
      cases same

section Assurance

variable {uuid : PgUuid} {state : ChatState}

/-- A program without acknowledgements keeps the conduct. -/
theorem assured_of_unmarking {Result : Type} {program : ChatProgram Result}
    (issues : program.Issues Unmarking) :
    (conduct uuid).Assured (chatAdapter uuid) (fun _ _ => True) program
      state := by
  refine Conduct.Assured.of_issues issues ?_
  intro op unmarking now later answer after sound answered
  exact ⟨sound_of_statement sound unmarking.issued unmarking.aimed answered,
    messagesStay_of_statement unmarking.issued answered⟩

/-- An acknowledgement is of a message that it has found in the room. -/
theorem markAsRead_assured (userId roomId messageId : String) :
    (conduct uuid).Assured (chatAdapter uuid) (fun _ _ => True)
      (MarkAsRead.execute userId roomId messageId) state := by
  apply Conduct.Assured.look
  · intro now later answer after answered
    obtain ⟨_, -, _, -, -, same⟩ := getMember_eq_ok_iff.mp answered
    exact same.symm
  intro permitted _ _ now member _
  cases member with
  | none => trivial
  | some member =>
      apply Conduct.Assured.look
      · intro now later answer after answered
        obtain ⟨_, -, -, same⟩ := findMessageById_eq_ok_iff.mp answered
        exact same.symm
      intro found _ sound now msg answered
      obtain ⟨id, reads, looked, -⟩ := findMessageById_eq_ok_iff.mp answered
      cases msg with
      | none => trivial
      | some msg =>
          have isId := condition_of_first looked
          have stored := mem_of_first looked
          dsimp only [Program.bind]
          split_ifs with elsewhere
          · trivial
          have inRoom : msg.roomId = roomId := not_not.mp elsewhere
          intro later stay soundLater nowLater answer after answered
          obtain ⟨last, storedLast, sameId, sameRoom⟩ := stay msg stored
          have aimed : Aimed uuid later (.roomRepo (.setLastReadMessage roomId
              userId messageId)) := by
            refine ⟨last, storedLast, ?_, ?_⟩
            · rw [reads, sameId, isId]
            · rw [← inRoom, ← sameRoom]
              exact soundLater.read_roomId storedLast
          have issued : Issued (.roomRepo (.setLastReadMessage roomId userId
              messageId)) := trivial
          refine ⟨sound_of_statement soundLater issued aimed answered,
            messagesStay_of_statement issued answered, ?_⟩
          exact assured_of_unmarking (Issues.perform_bind trivial
            fun _ => trivial)

theorem call_assured (call : MemberCall) :
    (conduct uuid).Assured (chatAdapter uuid) (fun _ _ => True)
      call.request.program state := by
  cases call with
  | markAsRead userId roomId messageId =>
      exact (markAsRead_assured userId roomId messageId).map fun _ _ _ => trivial
  | _ =>
      apply assured_of_unmarking
      apply call_unmarking
      intro _ _ _ same
      cases same

end Assurance

/-! ## Runs -/

section Registers

variable {Name : Type*} [DecidableEq Name] {uuid : PgUuid}
  {config : MemberConfig Name} {start : ChatState} {calls : Name → MemberCall}
  {room user : String}

/-- What holds of the tables and the calls in every interleaving. -/
structure Orderly (uuid : PgUuid) (config : MemberConfig Name) : Prop where
  sound : Sound uuid config.shared
  issuing : config.Issuing Issued

theorem orderly_throughout (sound : Sound uuid start)
    (calls : Name → MemberCall) (schedule : List (Name × Time)) :
    Throughout (turn uuid) (Orderly uuid) (started start calls) schedule := by
  have kept (config : MemberConfig Name) (taken : Name × Time)
      (before : Conduct.Orderly (conduct uuid) (chatAdapter uuid)
          (fun _ _ _ => True) config ∧ config.Issuing Issued) :
      Conduct.Orderly (conduct uuid) (chatAdapter uuid) (fun _ _ _ => True)
          (turn uuid config taken) ∧ (turn uuid config taken).Issuing Issued :=
    ⟨before.1.advance (fun _ _ _ _ _ _ => trivial) taken,
      before.2.advance (chatAdapter uuid) taken⟩
  have assured : Conduct.Orderly (conduct uuid) (chatAdapter uuid)
      (fun _ _ _ => True) (started start calls) :=
    ⟨sound, fun name => call_assured (calls name)⟩
  have issuing : (started start calls).Issuing Issued :=
    fun name => call_issues (calls name)
  exact (throughout_of_invariant kept ⟨assured, issuing⟩ schedule).imp
    fun config before => ⟨before.1.holds, before.2⟩

/-- A statement that fails acknowledges nothing for a member. -/
theorem markOp_of_error {op : ChatOp} {error : Failure} {now : Time}
    {state : ChatState} (fails : chatAdapter uuid op now state = .error error) :
    markOp uuid room user state op = none := by
  cases op with
  | roomRepo op =>
      cases op with
      | setLastReadMessage roomId userId messageId =>
          by_contra marks
          obtain ⟨id, marks⟩ := Option.ne_none_iff_exists'.mp marks
          simp only [markOp] at marks
          split_ifs at marks with reads
          obtain ⟨messageRead, known⟩ := Option.filter_eq_some_iff.mp marks
          have answers := (@setLastReadMessage_eq_ok_iff uuid now state _ roomId
            userId messageId ()).mpr ⟨id, messageRead, room, reads.1, user,
              reads.2, fun dangling => dangling.2 (of_decide_eq_true known), rfl⟩
          cases fails.symm.trans answers
      | _ => rfl
  | _ => rfl

/-- A member's pointer is overwritten by acknowledgements while it lasts. -/
def pointerRegister (uuid : PgUuid) (room user : String) :
    Register (turn uuid)
      (fun (config : MemberConfig Name) taken => Orderly uuid config ∧
        HasMember config.shared room user ∧
          HasMember (turn uuid config taken).shared room user) String where
  read config := readPointer config.shared room user
  writes config taken :=
    (config.pending taken.1).bind (markOp uuid room user config.shared)
  read_step config taken fair := by
    obtain ⟨orderly, member, still⟩ := fair
    have effect := Config.advance_effect (chatAdapter uuid) config taken
    generalize (turn uuid config taken).shared = after at effect still
    cases effect with
    | idle finished =>
        rw [finished]
        rfl
    | failed op error waits fails =>
        rw [waits, Option.bind_some, markOp_of_error fails]
        rfl
    | answered op answer after waits answers =>
        rw [waits, Option.bind_some]
        have change :=
          memberChange ((orderly.issuing taken.1).pending waits) answers
        exact change.readPointer member still

/-- An acknowledgement of a member leaves the membership. -/
theorem MemberChange.still {op : ChatOp} {state : ChatState}
    {rows : List RoomMember} (change : MemberChange uuid state op rows)
    (marks : markOp uuid room user state op ≠ none)
    (member : HasMember state room user) :
    ∃ row ∈ rows, row.roomId = room ∧ row.userId = user := by
  cases change with
  | kept op unmarking => exact absurd (unmarking room user) marks
  | joined op added unmarking unread => exact absurd (unmarking room user) marks
  | left roomId userId here removed => exact absurd rfl marks
  | marked roomId userId messageId here marker id roomRead userRead messageRead
      stored =>
      obtain ⟨row, present, inRoom, isUser⟩ := member
      refine ⟨_, mem_updateWhere.mpr ⟨row, present, rfl⟩, ?_⟩
      split_ifs
      · exact ⟨inRoom, isUser⟩
      · exact ⟨inRoom, isUser⟩

theorem hasMember_of_readPointer {state : ChatState} {pointer : String}
    (reads : readPointer state room user = some pointer) :
    ∃ row ∈ state.roomMembers, (row.roomId = room ∧ row.userId = user) ∧
      row.lastReadMessageId = some pointer := by
  obtain ⟨row, looked, given⟩ := Option.bind_eq_some_iff.mp reads
  have isMember := condition_of_first looked
  exact ⟨row, mem_of_first looked, isMember, given⟩

/-- A member whose pointer is set back is one before and after. -/
theorem hasMember_of_descends (orderly : Orderly uuid config)
    (taken : Name × Time)
    (descends : (pointerRegister uuid room user).Descends config taken) :
    HasMember config.shared room user ∧
      HasMember (turn uuid config taken).shared room user := by
  obtain ⟨old, held, new, writes, -⟩ := descends
  obtain ⟨row, present, isMember, -⟩ := hasMember_of_readPointer held
  have member : HasMember config.shared room user := ⟨row, present, isMember⟩
  refine ⟨member, ?_⟩
  obtain ⟨pending, awaits, marks⟩ := Option.bind_eq_some_iff.mp writes
  have effect := Config.advance_effect (chatAdapter uuid) config taken
  generalize (turn uuid config taken).shared = after at effect
  cases effect with
  | idle finished => exact member
  | failed op error waits fails => exact member
  | answered op answer after waits answers =>
      have same : pending = op := Option.some.inj (awaits.symm.trans waits)
      have change :=
        memberChange ((orderly.issuing taken.1).pending waits) answers
      refine change.still ?_ member
      rw [← same, marks]
      exact Option.some_ne_none new

/-- A turn moves a pointer back exactly when a register is written below. -/
theorem movesBack_iff (orderly : Orderly uuid config) (taken : Name × Time) :
    MovesBack uuid config taken ↔
      ∃ room user, (pointerRegister uuid room user).Descends config taken := by
  constructor
  · rintro ⟨op, waits, back⟩
    cases op with
    | roomRepo op =>
        cases op with
        | setLastReadMessage roomId userId messageId =>
            obtain ⟨row, present, roomRead, userRead, message, stored,
              messageRead, pointer, given, less⟩ := back
            have membership : RoomUseCases.Membership uuid config.shared roomId
                userId row := ⟨present, roomRead, userRead⟩
            refine ⟨row.roomId, row.userId, pointer, ?_, message.id, ?_, less⟩
            · change Option.bind _ _ = _
              rw [membership.first_eq orderly.sound.toConforms]
              exact given
            · refine Option.bind_eq_some_iff.mpr ⟨_, waits, ?_⟩
              refine (if_pos ⟨roomRead, userRead⟩).trans ?_
              exact Option.filter_eq_some_iff.mpr
                ⟨messageRead, decide_eq_true ⟨message, stored, rfl⟩⟩
        | _ => exact back.elim
    | _ => exact back.elim
  · rintro ⟨room, user, old, held, new, writes, less⟩
    obtain ⟨op, waits, marks⟩ := Option.bind_eq_some_iff.mp writes
    refine ⟨op, waits, ?_⟩
    obtain ⟨row, present, ⟨inRoom, isUser⟩, given⟩ :=
      hasMember_of_readPointer held
    cases op with
    | roomRepo op =>
        cases op with
        | setLastReadMessage roomId userId messageId =>
            simp only [markOp] at marks
            split_ifs at marks with reads
            obtain ⟨messageRead, known⟩ := Option.filter_eq_some_iff.mp marks
            obtain ⟨message, stored, rfl⟩ := of_decide_eq_true known
            exact ⟨row, present, inRoom ▸ reads.1, isUser ▸ reads.2, message,
              stored, messageRead, old, given, less⟩
        | _ => cases marks
    | _ => cases marks

end Registers

/--
Read pointers.  However acknowledgements, sends and requests for memberships
overlap, a read pointer leads to a message of its room; and while a membership
lasts its pointer only advances and is the greatest of the messages that have
been acknowledged, exactly when no statement acknowledges an older message than
the one that the pointer leads to.
-/
theorem pointers_advance_iff {Name : Type*} [DecidableEq Name] {uuid : PgUuid}
    {start : ChatState} (sound : Sound uuid start) (calls : Name → MemberCall)
    (schedule : List (Name × Time)) :
    Throughout (turn uuid)
        (fun config => ∀ row ∈ config.shared.roomMembers,
          PointsInto config.shared.messages row)
        (started start calls) schedule ∧
      (PointersAdvance uuid (started start calls) schedule ↔
        Along (turn uuid) (fun config taken => ¬ MovesBack uuid config taken)
          (started start calls) schedule) := by
  have orderly := orderly_throughout sound calls schedule
  have orderlyBefore := orderly.along
  refine ⟨orderly.imp fun config before => before.sound.pointers, ?_⟩
  constructor
  · intro advance
    rw [along_iff_at_step]
    rintro before taken after rfl back
    have here := (orderlyBefore.at_step).1
    obtain ⟨room, user, descends⟩ := (movesBack_iff here taken).mp back
    obtain ⟨member, still⟩ := hasMember_of_descends here taken descends
    have kept := advance room user before [taken] after (by simp)
      ⟨member, still⟩
    rw [run_append] at kept
    exact descends.not_holdsGreatest ⟨here, member, still⟩ kept.2
  · rintro along room user before stretch after rfl first last lasts
    have orderlyStretch := (along_append.mp (along_append.mp orderlyBefore).1).2
    have fair := (orderlyStretch.mono fun _ _ both => both.1).and lasts.along
    have ascending : Along (turn uuid)
        (fun config taken => ¬ (pointerRegister uuid room user).Descends config
          taken) first stretch := by
      have spared :=
        orderlyStretch.and (along_append.mp (along_append.mp along).1).2
      refine spared.mono fun config taken both descends => both.2 ?_
      exact (movesBack_iff both.1.1 taken).mpr ⟨room, user, descends⟩
    have greatest := Register.holdsGreatest_of_ascending fair ascending
    have reached : last = run (turn uuid) first stretch := run_append _ _ _ _
    rw [reached]
    exact ⟨fun old held => greatest.rises fair held, greatest⟩

/-! ## An acknowledgement that comes late -/

/-- A user opens a group and sends two messages. -/
def sendTwo : List (ChatRequest × Time) :=
  [(.createGroupRoom { id := sampleRoomId, now := 1 } sampleOwner "team" [], 1),
    (.sendMessage { id := sampleMessageId, now := 2 }
      { roomId := sampleRoomId, senderId := sampleOwner, body := "one" }, 2),
    (.sendMessage { id := sampleNextMessageId, now := 3 }
      { roomId := sampleRoomId, senderId := sampleOwner, body := "two" }, 3)]

def twoMessages : ChatState :=
  run (serve samplePgUuid) (sampleTables [sampleOwner]) sendTwo

/-- Two clients of the user acknowledge the second message and the first one. -/
def acknowledgeBoth : Bool → MemberCall
  | true => .markAsRead sampleOwner sampleRoomId sampleNextMessageId
  | false => .markAsRead sampleOwner sampleRoomId sampleMessageId

/-- Both have looked their messages up before the first one is marked. -/
def firstThenSecond : List (Bool × Time) :=
  [(true, 4), (false, 4), (true, 4), (false, 4), (false, 5), (true, 5),
    (true, 6), (false, 6)]

def secondThenFirst : List (Bool × Time) :=
  List.replicate 4 (true, 4) ++ List.replicate 4 (false, 5)

theorem pointers_advance_iff_firstThenSecond :
    PointersAdvance samplePgUuid (started twoMessages acknowledgeBoth)
      firstThenSecond := by
  have sound : Sound samplePgUuid twoMessages :=
    (sound_sampleTables samplePgUuid [sampleOwner]).run sendTwo
  have advance := pointers_advance_iff sound acknowledgeBoth firstThenSecond
  apply advance.2.mpr
  decide +kernel

/-- The late acknowledgement takes the pointer back to the first message. -/
theorem late_acknowledgement_goes_back :
    ¬ ∀ (uuid : PgUuid) (users : List String)
        (history : List (ChatRequest × Time)) (calls : Bool → MemberCall)
        (schedule : List (Bool × Time)),
      PointersAdvance uuid
        (started (run (serve uuid) (sampleTables users) history) calls)
        schedule := by
  intro claim
  have advance := claim samplePgUuid [sampleOwner] sendTwo acknowledgeBoth
    secondThenFirst sampleRoomId sampleOwner (secondThenFirst.take 4)
    (secondThenFirst.drop 4) [] (by decide) (by decide +kernel)
  obtain ⟨new, reached, above⟩ :=
    advance.1 sampleNextMessageId (by decide +kernel)
  have back : readPointer (run (turn samplePgUuid)
      (started (run (serve samplePgUuid) (sampleTables [sampleOwner]) sendTwo)
        acknowledgeBoth)
      (secondThenFirst.take 4 ++ secondThenFirst.drop 4)).shared sampleRoomId
      sampleOwner = some sampleMessageId := by
    decide +kernel
  rw [back] at reached
  rw [← Option.some.inj reached] at above
  exact absurd above (by decide +kernel)

end ChatBackend.Chat.ReadPointers
