import ChatBackend.Chat.Store
import ChatBackend.Effects.Postcondition

/-!
# The constraints of the chat tables

What each statement of the repositories does when it succeeds, and the
constraints that the schema declares: primary keys, the unique keys of direct
rooms and of client message ids, and the references between the tables.  Every
statement keeps them, so they hold in every state a program leaves, also when
it stops between two statements.
-/

namespace ChatBackend.Chat.Schema

open Effects
open Relational
open ChatBackend.Chat.Store

variable {uuid : PgUuid} {now : Time} {state after : ChatState}

/-! ## Reading ids -/

theorem param_eq_ok_iff {spelled id : String} :
    uuid.param spelled = .ok id ↔ uuid.read spelled = some id := by
  unfold PgUuid.param
  cases uuid.read spelled <;> simp

theorem nullable_some_eq_ok_iff {spelled : String} {value : Option String} :
    uuid.nullable (some spelled) = .ok value ↔
      ∃ id, uuid.read spelled = some id ∧ value = some id := by
  cases reading : uuid.read spelled <;>
    simp [PgUuid.nullable, PgUuid.param, reading, Except.map, eq_comm]

theorem readRoom_eq_ok_iff {room row : Room} :
    PgRoomRepository.readRoom uuid room = .ok row ↔
      ∃ id, uuid.read room.id = some id ∧
        room.name.all storable = true ∧
          ∃ createdBy, uuid.nullable room.createdBy = .ok createdBy ∧
            row = { room with id, createdBy } := by
  simp only [PgRoomRepository.readRoom, bind_eq_ok_iff, param_eq_ok_iff,
    requireStorable_eq_ok_iff, storable_singleton, exists_const]
  simp only [pure, Except.pure, Except.ok.injEq, eq_comm]

theorem readMember_eq_ok_iff {member row : RoomMember} :
    PgRoomRepository.readMember uuid member = .ok row ↔
      ∃ roomId, uuid.read member.roomId = some roomId ∧
        ∃ userId, uuid.read member.userId = some userId ∧
          ∃ lastReadMessageId,
            uuid.nullable member.lastReadMessageId = .ok lastReadMessageId ∧
              row = { member with roomId, userId, lastReadMessageId } := by
  simp only [PgRoomRepository.readMember, bind_eq_ok_iff, param_eq_ok_iff]
  simp only [pure, Except.pure, Except.ok.injEq, eq_comm]

theorem readMessage_eq_ok_iff {message row : Message} :
    PgMessageRepository.readMessage uuid message = .ok row ↔
      ∃ id, uuid.read message.id = some id ∧
        ∃ roomId, uuid.read message.roomId = some roomId ∧
          ∃ senderId, uuid.read message.senderId = some senderId ∧
            Storable (PgMessageRepository.texts message) ∧
              row = { message with id, roomId, senderId } := by
  simp only [PgMessageRepository.readMessage, bind_eq_ok_iff, param_eq_ok_iff,
    requireStorable_eq_ok_iff, exists_const]
  simp only [pure, Except.pure, Except.ok.injEq, eq_comm]

/-! ## What a statement does -/

theorem findUser_eq_ok_iff {spelled : String}
    {answer : Option User} :
    chatAdapter uuid (.findUser spelled) now state = .ok (answer, after) ↔
      ∃ id, uuid.read spelled = some id ∧
        first (fun row => row.id = id) state.users = answer ∧
          state = after := by
  simp only [chatAdapter, bind_eq_ok_iff, param_eq_ok_iff]
  simp only [pure, Except.pure, Except.ok.injEq, Prod.mk.injEq]

theorem insertRoom_eq_ok_iff {row answer : Room} :
    PgRoomRepository.insertRoom state row = .ok (answer, after) ↔
      PgRoomRepository.roomViolation state row = none ∧ row = answer ∧
        { state with rooms := state.rooms ++ [row] } = after := by
  unfold PgRoomRepository.insertRoom
  cases PgRoomRepository.roomViolation state row <;> simp

/-- A direct room is left alone under a known key and inserted otherwise. -/
theorem insertDm_eq_ok_iff {room : Room} {answer : Option Room} :
    chatAdapter uuid (.roomRepo (.insertDm room)) now state =
        .ok (answer, after) ↔
      ∃ row, PgRoomRepository.readRoom uuid room = .ok row ∧
        if row.dmKey ≠ none ∧ ∃ other ∈ state.rooms, other.dmKey = row.dmKey then
          none = answer ∧ state = after
        else
          PgRoomRepository.roomViolation state row = none ∧
            some row = answer ∧
              { state with rooms := state.rooms ++ [row] } = after := by
  simp only [chatAdapter, PgRoomRepository.handle, bind_eq_ok_iff]
  refine exists_congr fun row => and_congr_right fun _ => ?_
  split_ifs with known
  · simp only [pure, Except.pure, Except.ok.injEq, Prod.mk.injEq]
  · simp only [bind_eq_ok_iff, Prod.exists, insertRoom_eq_ok_iff]
    simp only [pure, Except.pure, Except.ok.injEq, Prod.mk.injEq]
    constructor
    · rintro ⟨created, inserted, ⟨fits, rfl, rfl⟩, same, last⟩
      exact ⟨fits, same, last⟩
    · rintro ⟨fits, same, last⟩
      exact ⟨row, _, ⟨fits, rfl, rfl⟩, same, last⟩

theorem insertDmMembers_eq_ok_iff {memberA memberB : RoomMember}
    {answer : Unit} :
    chatAdapter uuid (.roomRepo (.insertDmMembers memberA memberB)) now state =
        .ok (answer, after) ↔
      ∃ rowA, PgRoomRepository.readMember uuid memberA = .ok rowA ∧
        ∃ rowB, PgRoomRepository.readMember uuid memberB = .ok rowB ∧
          PgRoomRepository.memberDangling state rowA = none ∧
            PgRoomRepository.memberDangling state rowB = none ∧
              { state with
                roomMembers :=
                  PgRoomRepository.insertIgnoring rowB
                    (PgRoomRepository.insertIgnoring rowA
                      state.roomMembers) } = after := by
  simp only [chatAdapter, PgRoomRepository.handle, bind_eq_ok_iff]
  refine exists_congr fun rowA => and_congr_right fun _ =>
    exists_congr fun rowB => and_congr_right fun _ => ?_
  cases PgRoomRepository.memberDangling state rowA <;>
    cases PgRoomRepository.memberDangling state rowB <;>
      simp [pure, Except.pure]

theorem insertGroup_eq_ok_iff {room answer : Room} :
    chatAdapter uuid (.roomRepo (.insertGroup room)) now state =
        .ok (answer, after) ↔
      ∃ row, PgRoomRepository.readRoom uuid room = .ok row ∧
        PgRoomRepository.roomViolation state row = none ∧ row = answer ∧
          { state with rooms := state.rooms ++ [row] } = after := by
  simp only [chatAdapter, PgRoomRepository.handle, bind_eq_ok_iff,
    insertRoom_eq_ok_iff]

theorem findRoomById_eq_ok_iff {spelled : String} {answer : Option Room} :
    chatAdapter uuid (.roomRepo (.findById spelled)) now state =
        .ok (answer, after) ↔
      ∃ id, uuid.read spelled = some id ∧
        first (fun row => row.id = id) state.rooms = answer ∧
          state = after := by
  simp only [chatAdapter, PgRoomRepository.handle, bind_eq_ok_iff,
    param_eq_ok_iff]
  simp only [pure, Except.pure, Except.ok.injEq, Prod.mk.injEq]

theorem findByDmKey_eq_ok_iff {dmKey : Option String} {answer : Option Room} :
    chatAdapter uuid (.roomRepo (.findByDmKey dmKey)) now state =
        .ok (answer, after) ↔
      first (fun row => row.dmKey ≠ none ∧ row.dmKey = dmKey) state.rooms =
          answer ∧
        state = after := by
  simp only [chatAdapter, PgRoomRepository.handle, Except.ok.injEq,
    Prod.mk.injEq]

theorem insertMember_eq_ok_iff {member answer : RoomMember} :
    chatAdapter uuid (.roomRepo (.insertMember member)) now state =
        .ok (answer, after) ↔
      ∃ row, PgRoomRepository.readMember uuid member = .ok row ∧
        (∀ other ∈ state.roomMembers, ¬ PgRoomRepository.sameKey other row) ∧
          PgRoomRepository.memberDangling state row = none ∧
            row = answer ∧
              { state with roomMembers := state.roomMembers ++ [row] } =
                after := by
  simp only [chatAdapter, PgRoomRepository.handle, bind_eq_ok_iff]
  refine exists_congr fun row => and_congr_right fun _ => ?_
  split_ifs with clash
  · simp only [false_iff]
    rintro ⟨fresh, -⟩
    rcases clash with ⟨other, member, same⟩
    exact fresh other member same
  · push Not at clash
    cases PgRoomRepository.memberDangling state row with
    | some cause => simp
    | none =>
        simp only [pure, Except.pure, Except.ok.injEq, Prod.mk.injEq, true_and]
        exact ⟨fun written => ⟨clash, written⟩, fun written => written.2⟩

theorem removeMember_eq_ok_iff {roomId userId : String} {answer : Unit} :
    chatAdapter uuid (.roomRepo (.removeMember roomId userId)) now state =
        .ok (answer, after) ↔
      ∃ room, uuid.read roomId = some room ∧
        ∃ user, uuid.read userId = some user ∧
          { state with
            roomMembers :=
              deleteWhere (fun row => row.roomId = room ∧ row.userId = user)
                state.roomMembers } = after := by
  simp only [chatAdapter, PgRoomRepository.handle, bind_eq_ok_iff,
    param_eq_ok_iff]
  simp only [pure, Except.pure, Except.ok.injEq, Prod.mk.injEq, true_and]

theorem getMember_eq_ok_iff {roomId userId : String}
    {answer : Option RoomMember} :
    chatAdapter uuid (.roomRepo (.getMember roomId userId)) now state =
        .ok (answer, after) ↔
      ∃ room, uuid.read roomId = some room ∧
        ∃ user, uuid.read userId = some user ∧
          first (fun row => row.roomId = room ∧ row.userId = user)
              state.roomMembers = answer ∧
            state = after := by
  simp only [chatAdapter, PgRoomRepository.handle, bind_eq_ok_iff,
    param_eq_ok_iff]
  simp only [pure, Except.pure, Except.ok.injEq, Prod.mk.injEq]

theorem setLastReadMessage_eq_ok_iff {roomId userId messageId : String}
    {answer : Unit} :
    chatAdapter uuid (.roomRepo (.setLastReadMessage roomId userId messageId))
        now state = .ok (answer, after) ↔
      ∃ message, uuid.read messageId = some message ∧
        ∃ room, uuid.read roomId = some room ∧
          ∃ user, uuid.read userId = some user ∧
            ¬ ((∃ row ∈ state.roomMembers,
                row.roomId = room ∧ row.userId = user) ∧
              ¬ ∃ row ∈ state.messages, row.id = message) ∧
            { state with
              roomMembers :=
                updateWhere (fun row => row.roomId = room ∧ row.userId = user)
                  (fun row => { row with lastReadMessageId := some message })
                  state.roomMembers } = after := by
  simp only [chatAdapter, PgRoomRepository.handle, bind_eq_ok_iff,
    param_eq_ok_iff]
  refine exists_congr fun message => and_congr_right fun _ =>
    exists_congr fun room => and_congr_right fun _ =>
      exists_congr fun user => and_congr_right fun _ => ?_
  split_ifs with dangling
  · simp [dangling]
  · simp only [pure, Except.pure, Except.ok.injEq, Prod.mk.injEq, true_and]
    exact ⟨fun written => ⟨dangling, written⟩, fun written => written.2⟩

theorem bumpLastMessageAt_eq_ok_iff {roomId : String} {at_ : Time}
    {answer : Unit} :
    chatAdapter uuid (.roomRepo (.bumpLastMessageAt roomId at_)) now state =
        .ok (answer, after) ↔
      ∃ room, uuid.read roomId = some room ∧
        { state with
          rooms :=
            updateWhere (fun row => row.id = room)
              (fun row => { row with lastMessageAt := some at_ })
              state.rooms } = after := by
  simp only [chatAdapter, PgRoomRepository.handle, bind_eq_ok_iff,
    param_eq_ok_iff]
  simp only [pure, Except.pure, Except.ok.injEq, Prod.mk.injEq, true_and]

theorem deleteRoom_eq_ok_iff {spelled : String} {answer : Unit} :
    chatAdapter uuid (.roomRepo (.deleteRoom spelled)) now state =
        .ok (answer, after) ↔
      ∃ room, uuid.read spelled = some room ∧
        PgRoomRepository.cascade state room = after := by
  simp only [chatAdapter, PgRoomRepository.handle, bind_eq_ok_iff,
    param_eq_ok_iff]
  simp only [pure, Except.pure, Except.ok.injEq, Prod.mk.injEq, true_and]

/-- A message is answered from the table or appended to it. -/
theorem insertMessage_eq_ok_iff {message answer : Message} :
    chatAdapter uuid (.messageRepo (.insert message)) now state =
        .ok (answer, after) ↔
      ∃ row, PgMessageRepository.readMessage uuid message = .ok row ∧
        ((first (fun other => PgMessageRepository.sameClientKey other row)
              state.messages = some answer ∧ state = after) ∨
          (first (fun other => PgMessageRepository.sameClientKey other row)
              state.messages = none ∧
            PgMessageRepository.insertViolation state row = none ∧
              row = answer ∧
                { state with messages := state.messages ++ [row] } =
                  after)) := by
  simp only [chatAdapter, PgMessageRepository.handle, bind_eq_ok_iff]
  refine exists_congr fun row => and_congr_right fun _ => ?_
  cases first (fun other => PgMessageRepository.sameClientKey other row)
      state.messages with
  | some stored => simp [pure, Except.pure]
  | none =>
      cases PgMessageRepository.insertViolation state row <;>
        simp [pure, Except.pure]

theorem findMessageById_eq_ok_iff {spelled : String}
    {answer : Option Message} :
    chatAdapter uuid (.messageRepo (.findById spelled)) now state =
        .ok (answer, after) ↔
      ∃ id, uuid.read spelled = some id ∧
        first (fun row => row.id = id) state.messages = answer ∧
          state = after := by
  simp only [chatAdapter, PgMessageRepository.handle, bind_eq_ok_iff,
    param_eq_ok_iff]
  simp only [pure, Except.pure, Except.ok.injEq, Prod.mk.injEq]

theorem listByRoom_eq_ok_iff {roomId : String} {before : Option String}
    {limit : Nat} {answer : List Message} :
    chatAdapter uuid (.messageRepo (.listByRoom roomId before limit)) now
        state = .ok (answer, after) ↔
      ∃ room, uuid.read roomId = some room ∧
        ∃ cursor,
          uuid.nullable (before.filter fun cursor => cursor ≠ "") =
              .ok cursor ∧
            PgMessageRepository.page state.messages room cursor limit =
                answer ∧
              state = after := by
  simp only [chatAdapter, PgMessageRepository.handle, bind_eq_ok_iff,
    param_eq_ok_iff]
  simp only [pure, Except.pure, Except.ok.injEq, Prod.mk.injEq]

theorem updateById_eq_ok_iff {id : String} {change : Message → Message}
    {answer : Message} :
    PgMessageRepository.updateById state id change = .ok (answer, after) ↔
      ∃ row, first (fun row => row.id = id) state.messages = some row ∧
        change row = answer ∧
          { state with
            messages :=
              updateWhere (fun row => row.id = id) change state.messages } =
            after := by
  unfold PgMessageRepository.updateById
  cases first (fun row => row.id = id) state.messages <;> simp

theorem updateMessage_eq_ok_iff {spelled : String} {patch : MessagePatch}
    {answer : Message} :
    chatAdapter uuid (.messageRepo (.update spelled patch)) now state =
        .ok (answer, after) ↔
      patch.body.all storable = true ∧
        ∃ id, uuid.read spelled = some id ∧
          ∃ row, first (fun row => row.id = id) state.messages = some row ∧
            PgMessageRepository.patchMessage patch row = answer ∧
              { state with
                messages :=
                  updateWhere (fun row => row.id = id)
                    (PgMessageRepository.patchMessage patch) state.messages } =
                after := by
  simp only [chatAdapter, PgMessageRepository.handle, bind_eq_ok_iff,
    param_eq_ok_iff, requireStorable_eq_ok_iff, storable_singleton,
    exists_const, updateById_eq_ok_iff]

theorem softDelete_eq_ok_iff {spelled : String} {answer : Message} :
    chatAdapter uuid (.messageRepo (.softDelete spelled)) now state =
        .ok (answer, after) ↔
      ∃ id, uuid.read spelled = some id ∧
        ∃ row, first (fun row => row.id = id) state.messages = some row ∧
          PgMessageRepository.blank now row = answer ∧
            { state with
              messages :=
                updateWhere (fun row => row.id = id)
                  (PgMessageRepository.blank now) state.messages } =
              after := by
  simp only [chatAdapter, PgMessageRepository.handle, bind_eq_ok_iff,
    param_eq_ok_iff, updateById_eq_ok_iff]

theorem headObject_eq_ok_iff {key : String} {answer : Bool} :
    chatAdapter uuid (.headObject key) now state = .ok (answer, after) ↔
      decide (key ∈ state.objects) = answer ∧ state = after := by
  simp only [chatAdapter, Except.ok.injEq, Prod.mk.injEq]

theorem publish_eq_ok_iff {channel : Channel} {event : BusEvent}
    {answer : Unit} :
    chatAdapter uuid (.publish channel event) now state =
        .ok (answer, after) ↔
      { state with published := state.published ++ [(channel, event)] } =
        after := by
  simp only [chatAdapter, Except.ok.injEq, Prod.mk.injEq, true_and]

/-- What a statement may do to the messages. -/
inductive MessageChange (uuid : PgUuid) (now : Time) (state : ChatState) :
    ChatOp → List Message → Prop where
  | kept (op : ChatOp) : MessageChange uuid now state op state.messages
  | inserted (message row : Message)
      (reads : PgMessageRepository.readMessage uuid message = .ok row) :
      MessageChange uuid now state (.messageRepo (.insert message))
        (state.messages ++ [row])
  | patched (spelled id : String) (patch : MessagePatch)
      (reads : uuid.read spelled = some id)
      (stores : patch.body.all storable = true) :
      MessageChange uuid now state (.messageRepo (.update spelled patch))
        (updateWhere (fun row => row.id = id)
          (PgMessageRepository.patchMessage patch) state.messages)
  | blanked (spelled id : String) (reads : uuid.read spelled = some id) :
      MessageChange uuid now state (.messageRepo (.softDelete spelled))
        (updateWhere (fun row => row.id = id)
          (PgMessageRepository.blank now) state.messages)
  | removed (spelled room : String) (reads : uuid.read spelled = some room) :
      MessageChange uuid now state (.roomRepo (.deleteRoom spelled))
        (deleteWhere (fun row => row.roomId = room) state.messages)

theorem messageChange_room {op : RoomOp} {answer : op.Answer}
    (answered : chatAdapter uuid (.roomRepo op) now state =
      .ok (answer, after)) :
    MessageChange uuid now state (.roomRepo op) after.messages := by
  cases op with
  | insertDm room =>
      rcases insertDm_eq_ok_iff.mp answered with ⟨row, -, ends⟩
      split_ifs at ends with known
      · exact ends.2 ▸ .kept _
      · exact ends.2.2 ▸ .kept _
  | insertDmMembers memberA memberB =>
      rcases insertDmMembers_eq_ok_iff.mp answered with ⟨_, -, _, -, -, -, rfl⟩
      exact .kept _
  | insertGroup room =>
      rcases insertGroup_eq_ok_iff.mp answered with ⟨_, -, -, -, rfl⟩
      exact .kept _
  | findById id =>
      rcases findRoomById_eq_ok_iff.mp answered with ⟨-, -, -, rfl⟩
      exact .kept _
  | findByDmKey dmKey =>
      rcases findByDmKey_eq_ok_iff.mp answered with ⟨-, rfl⟩
      exact .kept _
  | insertMember member =>
      rcases insertMember_eq_ok_iff.mp answered with ⟨_, -, -, -, -, rfl⟩
      exact .kept _
  | removeMember roomId userId =>
      rcases removeMember_eq_ok_iff.mp answered with ⟨_, -, _, -, rfl⟩
      exact .kept _
  | getMember roomId userId =>
      rcases getMember_eq_ok_iff.mp answered with ⟨-, -, -, -, -, rfl⟩
      exact .kept _
  | setLastReadMessage roomId userId messageId =>
      obtain ⟨_, -, _, -, _, -, -, rfl⟩ :=
        setLastReadMessage_eq_ok_iff.mp answered
      exact .kept _
  | bumpLastMessageAt roomId at_ =>
      rcases bumpLastMessageAt_eq_ok_iff.mp answered with ⟨_, -, rfl⟩
      exact .kept _
  | deleteRoom spelled =>
      rcases deleteRoom_eq_ok_iff.mp answered with ⟨room, reads, rfl⟩
      exact .removed spelled room reads

theorem messageChange {op : ChatOp} {answer : op.Answer}
    (answered : chatAdapter uuid op now state = .ok (answer, after)) :
    MessageChange uuid now state op after.messages := by
  cases op with
  | findUser id =>
      rcases findUser_eq_ok_iff.mp answered with ⟨-, -, -, rfl⟩
      exact .kept _
  | roomRepo op => exact messageChange_room answered
  | messageRepo op =>
      cases op with
      | insert message =>
          obtain ⟨row, reads, ⟨-, rfl⟩ | ⟨-, -, -, rfl⟩⟩ :=
            insertMessage_eq_ok_iff.mp answered
          · exact .kept _
          · exact .inserted message row reads
      | findById id =>
          rcases findMessageById_eq_ok_iff.mp answered with ⟨-, -, -, rfl⟩
          exact .kept _
      | listByRoom roomId before limit =>
          rcases listByRoom_eq_ok_iff.mp answered with ⟨-, -, -, -, -, rfl⟩
          exact .kept _
      | update spelled patch =>
          obtain ⟨stores, id, reads, _, -, -, rfl⟩ :=
            updateMessage_eq_ok_iff.mp answered
          exact .patched spelled id patch reads stores
      | softDelete spelled =>
          rcases softDelete_eq_ok_iff.mp answered with ⟨id, reads, _, -, -, rfl⟩
          exact .blanked spelled id reads
  | headObject key =>
      rcases headObject_eq_ok_iff.mp answered with ⟨-, rfl⟩
      exact .kept _
  | publish channel event =>
      rw [publish_eq_ok_iff] at answered
      subst answered
      exact .kept _

/-! ## What is published -/

theorem published_room {op : RoomOp} {answer : op.Answer}
    (answered : chatAdapter uuid (.roomRepo op) now state =
      .ok (answer, after)) :
    after.published = state.published := by
  cases op with
  | insertDm room =>
      rcases insertDm_eq_ok_iff.mp answered with ⟨row, -, ends⟩
      split_ifs at ends with known
      · exact ends.2 ▸ rfl
      · exact ends.2.2 ▸ rfl
  | insertDmMembers memberA memberB =>
      rcases insertDmMembers_eq_ok_iff.mp answered with ⟨_, -, _, -, -, -, rfl⟩
      rfl
  | insertGroup room =>
      rcases insertGroup_eq_ok_iff.mp answered with ⟨_, -, -, -, rfl⟩
      rfl
  | findById id =>
      rcases findRoomById_eq_ok_iff.mp answered with ⟨-, -, -, rfl⟩
      rfl
  | findByDmKey dmKey =>
      rcases findByDmKey_eq_ok_iff.mp answered with ⟨-, rfl⟩
      rfl
  | insertMember member =>
      rcases insertMember_eq_ok_iff.mp answered with ⟨_, -, -, -, -, rfl⟩
      rfl
  | removeMember roomId userId =>
      rcases removeMember_eq_ok_iff.mp answered with ⟨_, -, _, -, rfl⟩
      rfl
  | getMember roomId userId =>
      rcases getMember_eq_ok_iff.mp answered with ⟨-, -, -, -, -, rfl⟩
      rfl
  | setLastReadMessage roomId userId messageId =>
      obtain ⟨_, -, _, -, _, -, -, rfl⟩ :=
        setLastReadMessage_eq_ok_iff.mp answered
      rfl
  | bumpLastMessageAt roomId at_ =>
      rcases bumpLastMessageAt_eq_ok_iff.mp answered with ⟨_, -, rfl⟩
      rfl
  | deleteRoom spelled =>
      rcases deleteRoom_eq_ok_iff.mp answered with ⟨room, -, rfl⟩
      rfl

theorem published_message {op : MessageOp} {answer : op.Answer}
    (answered : chatAdapter uuid (.messageRepo op) now state =
      .ok (answer, after)) :
    after.published = state.published := by
  cases op with
  | insert message =>
      obtain ⟨row, -, ⟨-, rfl⟩ | ⟨-, -, -, rfl⟩⟩ :=
        insertMessage_eq_ok_iff.mp answered
      · rfl
      · rfl
  | findById id =>
      rcases findMessageById_eq_ok_iff.mp answered with ⟨-, -, -, rfl⟩
      rfl
  | listByRoom roomId before limit =>
      rcases listByRoom_eq_ok_iff.mp answered with ⟨-, -, -, -, -, rfl⟩
      rfl
  | update spelled patch =>
      rcases updateMessage_eq_ok_iff.mp answered with ⟨-, -, -, _, -, -, rfl⟩
      rfl
  | softDelete spelled =>
      rcases softDelete_eq_ok_iff.mp answered with ⟨-, -, _, -, -, rfl⟩
      rfl

/-- What an operation publishes. -/
def publication : ChatOp → Option (Channel × BusEvent)
  | .publish channel event => some (channel, event)
  | _ => none

/-- Nothing but a publication publishes. -/
theorem published_statement {op : ChatOp} {answer : op.Answer}
    (answered : chatAdapter uuid op now state = .ok (answer, after)) :
    after.published = state.published ++ (publication op).toList := by
  cases op with
  | findUser id =>
      rcases findUser_eq_ok_iff.mp answered with ⟨-, -, -, rfl⟩
      exact (List.append_nil _).symm
  | roomRepo op =>
      exact (published_room answered).trans (List.append_nil _).symm
  | messageRepo op =>
      exact (published_message answered).trans (List.append_nil _).symm
  | headObject key =>
      rcases headObject_eq_ok_iff.mp answered with ⟨-, rfl⟩
      exact (List.append_nil _).symm
  | publish channel event =>
      rw [publish_eq_ok_iff] at answered
      subst answered
      rfl

/-! ## Violations -/

/-- A list of checks passes if its first one does and so do the others. -/
theorem check_eq_none_iff {broken : Prop} [Decidable broken]
    {cause : DatabaseError} {others : Option DatabaseError} :
    (if broken then some cause else others) = none ↔
      ¬ broken ∧ others = none := by
  by_cases fails : broken <;> simp [fails]

theorem roomViolation_eq_none_iff {row : Room} :
    PgRoomRepository.roomViolation state row = none ↔
      (∀ other ∈ state.rooms, other.id ≠ row.id) ∧
        (row.dmKey ≠ none → ∀ other ∈ state.rooms, other.dmKey ≠ row.dmKey) ∧
          ∀ creator ∈ row.createdBy,
            ∃ user ∈ state.users, user.id = creator := by
  unfold PgRoomRepository.roomViolation
  rw [check_eq_none_iff, check_eq_none_iff, check_eq_none_iff]
  push Not
  simp only [and_true]

theorem memberDangling_eq_none_iff {row : RoomMember} :
    PgRoomRepository.memberDangling state row = none ↔
      (∃ room ∈ state.rooms, room.id = row.roomId) ∧
        (∃ user ∈ state.users, user.id = row.userId) ∧
          ∀ read ∈ row.lastReadMessageId,
            ∃ message ∈ state.messages, message.id = read := by
  unfold PgRoomRepository.memberDangling
  rw [check_eq_none_iff, check_eq_none_iff, check_eq_none_iff]
  push Not
  simp only [and_true]

theorem insertViolation_eq_none_iff {row : Message} :
    PgMessageRepository.insertViolation state row = none ↔
      (∀ other ∈ state.messages, other.id ≠ row.id) ∧
        (∃ room ∈ state.rooms, room.id = row.roomId) ∧
          ∃ user ∈ state.users, user.id = row.senderId := by
  unfold PgMessageRepository.insertViolation
  rw [check_eq_none_iff, check_eq_none_iff, check_eq_none_iff]
  push Not
  simp only [and_true]

/-! ## The constraints -/

/-- The unique key of direct rooms. -/
def sameDmKey (left right : Room) : Prop :=
  left.dmKey ≠ none ∧ left.dmKey = right.dmKey

/--
The tables satisfy the constraints of the schema, and the texts of the messages
are some that the database stores.
-/
structure Conforms (uuid : PgUuid) (state : ChatState) : Prop where
  roomIds : UniqueKey (fun row : Room => row.id) state.rooms
  dmKeys : Unclashing sameDmKey state.rooms
  canonicalRooms : ∀ room ∈ state.rooms, uuid.read room.id = some room.id
  memberKeys : Unclashing PgRoomRepository.sameKey state.roomMembers
  memberRooms : ∀ row ∈ state.roomMembers,
    ∃ room ∈ state.rooms, room.id = row.roomId
  memberUsers : ∀ row ∈ state.roomMembers,
    ∃ user ∈ state.users, user.id = row.userId
  messageIds : UniqueKey (fun row : Message => row.id) state.messages
  clientKeys : Unclashing PgMessageRepository.sameClientKey state.messages
  messageRooms : ∀ row ∈ state.messages,
    ∃ room ∈ state.rooms, room.id = row.roomId
  messageSenders : ∀ row ∈ state.messages,
    ∃ user ∈ state.users, user.id = row.senderId
  messageTexts : ∀ row ∈ state.messages,
    Storable (PgMessageRepository.texts row)

/-- The room of a stored message is spelled as the database does. -/
theorem Conforms.read_roomId {uuid : PgUuid} {state : ChatState}
    (conforms : Conforms uuid state) {message : Message}
    (stored : message ∈ state.messages) :
    uuid.read message.roomId = some message.roomId := by
  rcases conforms.messageRooms message stored with ⟨room, found, same⟩
  exact same ▸ conforms.canonicalRooms room found

theorem Conforms.storable_body {uuid : PgUuid} {state : ChatState}
    (conforms : Conforms uuid state) {message : Message}
    (stored : message ∈ state.messages) : storable message.body = true :=
  conforms.messageTexts message stored (some message.body) (.head _)

/-- Empty tables conform, whatever users there are. -/
theorem conforms_empty (uuid : PgUuid) (users : List User)
    (objects : List String) :
    Conforms uuid
      { users, rooms := [], roomMembers := [], messages := [], objects,
        published := [] } where
  roomIds := unclashing_nil
  dmKeys := unclashing_nil
  canonicalRooms := by simp
  memberKeys := unclashing_nil
  memberRooms := by simp
  memberUsers := by simp
  messageIds := unclashing_nil
  clientKeys := unclashing_nil
  messageRooms := by simp
  messageSenders := by simp
  messageTexts := by simp

theorem Conforms.insertRoom {row : Room}
    (conforms : Conforms uuid state)
    (canonical : uuid.read row.id = some row.id)
    (fits : PgRoomRepository.roomViolation state row = none) :
    Conforms uuid { state with rooms := state.rooms ++ [row] } := by
  rcases roomViolation_eq_none_iff.mp fits with ⟨fresh, free, -⟩
  exact
    { conforms with
      roomIds := conforms.roomIds.append fresh
      dmKeys := by
        refine Unclashing.append conforms.dmKeys ?_
        rintro other member ⟨given, same⟩
        exact free (same ▸ given) other member same
      canonicalRooms := by
        intro room member
        rcases List.mem_append.mp member with old | new
        · exact conforms.canonicalRooms room old
        · rw [List.mem_singleton.mp new]
          exact canonical
      memberRooms := by
        intro member stored
        rcases conforms.memberRooms member stored with ⟨room, found, same⟩
        exact ⟨room, List.mem_append_left _ found, same⟩
      messageRooms := by
        intro message stored
        rcases conforms.messageRooms message stored with ⟨room, found, same⟩
        exact ⟨room, List.mem_append_left _ found, same⟩ }

theorem Conforms.updateRooms {condition : Room → Prop}
    [DecidablePred condition] {change : Room → Room}
    (conforms : Conforms uuid state)
    (keepsId : ∀ room, (change room).id = room.id)
    (keepsKey : ∀ room, (change room).dmKey = room.dmKey) :
    Conforms uuid
      { state with rooms := updateWhere condition change state.rooms } := by
  have sameIds {id : String} :
      (∃ room ∈ updateWhere condition change state.rooms, room.id = id) ↔
        ∃ room ∈ state.rooms, room.id = id :=
    exists_mem_updateWhere_iff keepsId
  exact
    { conforms with
      roomIds := conforms.roomIds.updateWhere keepsId
      dmKeys := by
        refine Unclashing.updateWhere conforms.dmKeys ?_
        intro left right clash
        by_cases changedLeft : condition left <;>
          by_cases changedRight : condition right <;>
            simpa [changedLeft, changedRight, keepsKey, sameDmKey] using clash
      canonicalRooms := by
        refine forall_mem_updateWhere conforms.canonicalRooms ?_
        intro room stored _
        rw [keepsId]
        exact conforms.canonicalRooms room stored
      memberRooms := fun row stored =>
        sameIds.mpr (conforms.memberRooms row stored)
      messageRooms := fun row stored =>
        sameIds.mpr (conforms.messageRooms row stored) }

theorem Conforms.insertMember {row : RoomMember}
    (conforms : Conforms uuid state)
    (fresh : ∀ other ∈ state.roomMembers,
      ¬ PgRoomRepository.sameKey other row)
    (refers : PgRoomRepository.memberDangling state row = none) :
    Conforms uuid
      { state with roomMembers := state.roomMembers ++ [row] } := by
  rcases memberDangling_eq_none_iff.mp refers with ⟨room, user, -⟩
  exact
    { conforms with
      memberKeys := Unclashing.append conforms.memberKeys fresh
      memberRooms := by
        rw [List.forall_mem_append, List.forall_mem_singleton]
        exact ⟨conforms.memberRooms, room⟩
      memberUsers := by
        rw [List.forall_mem_append, List.forall_mem_singleton]
        exact ⟨conforms.memberUsers, user⟩ }

/-- `ON CONFLICT DO NOTHING` keeps the constraints, whether it inserts or not. -/
theorem Conforms.insertIgnoring {row : RoomMember}
    (conforms : Conforms uuid state)
    (refers : PgRoomRepository.memberDangling state row = none) :
    Conforms uuid
      { state with
        roomMembers :=
          PgRoomRepository.insertIgnoring row state.roomMembers } := by
  unfold PgRoomRepository.insertIgnoring
  split_ifs with stored
  · exact conforms
  · push Not at stored
    exact conforms.insertMember stored refers

theorem Conforms.updateMembers {condition : RoomMember → Prop}
    [DecidablePred condition] {change : RoomMember → RoomMember}
    (conforms : Conforms uuid state)
    (keepsRoom : ∀ row, (change row).roomId = row.roomId)
    (keepsUser : ∀ row, (change row).userId = row.userId) :
    Conforms uuid
      { state with
        roomMembers := updateWhere condition change state.roomMembers } :=
  { conforms with
    memberKeys := by
      refine Unclashing.updateWhere conforms.memberKeys ?_
      intro left right clash
      by_cases changedLeft : condition left <;>
        by_cases changedRight : condition right <;>
          simpa [changedLeft, changedRight, keepsRoom, keepsUser,
            PgRoomRepository.sameKey] using clash
    memberRooms := by
      refine forall_mem_updateWhere conforms.memberRooms ?_
      intro row stored _
      rw [keepsRoom]
      exact conforms.memberRooms row stored
    memberUsers := by
      refine forall_mem_updateWhere conforms.memberUsers ?_
      intro row stored _
      rw [keepsUser]
      exact conforms.memberUsers row stored }

theorem Conforms.deleteMembers {condition : RoomMember → Prop}
    [DecidablePred condition] (conforms : Conforms uuid state) :
    Conforms uuid
      { state with
        roomMembers := deleteWhere condition state.roomMembers } :=
  { conforms with
    memberKeys := Unclashing.deleteWhere conforms.memberKeys
    memberRooms := fun row stored =>
      conforms.memberRooms row (mem_deleteWhere.mp stored).1
    memberUsers := fun row stored =>
      conforms.memberUsers row (mem_deleteWhere.mp stored).1 }

/-! ### The cascade of a deleted room -/

@[simp]
theorem clearPointer_roomId
    (messages : List Message) (roomId : String) (row : RoomMember) :
    (PgRoomRepository.clearPointer messages roomId row).roomId =
      row.roomId := by
  unfold PgRoomRepository.clearPointer
  split_ifs <;> rfl

@[simp]
theorem clearPointer_userId
    (messages : List Message) (roomId : String) (row : RoomMember) :
    (PgRoomRepository.clearPointer messages roomId row).userId =
      row.userId := by
  unfold PgRoomRepository.clearPointer
  split_ifs <;> rfl

@[simp]
theorem clearPointer_role
    (messages : List Message) (roomId : String) (row : RoomMember) :
    (PgRoomRepository.clearPointer messages roomId row).role = row.role := by
  unfold PgRoomRepository.clearPointer
  split_ifs <;> rfl

theorem Conforms.cascade (conforms : Conforms uuid state)
    (roomId : String) :
    Conforms uuid (PgRoomRepository.cascade state roomId) where
  roomIds := Unclashing.deleteWhere conforms.roomIds
  dmKeys := Unclashing.deleteWhere conforms.dmKeys
  canonicalRooms := fun room stored =>
    conforms.canonicalRooms room (mem_deleteWhere.mp stored).1
  memberKeys := by
    refine List.pairwise_map.mpr
      ((Unclashing.deleteWhere conforms.memberKeys).imp ?_)
    intro left right distinct clash
    apply distinct
    simpa [PgRoomRepository.sameKey] using clash
  memberRooms := by
    intro row stored
    rcases List.mem_map.mp stored with ⟨old, kept, rfl⟩
    rcases mem_deleteWhere.mp kept with ⟨member, elsewhere⟩
    rcases conforms.memberRooms old member with ⟨room, found, same⟩
    rw [clearPointer_roomId]
    exact ⟨room, mem_deleteWhere.mpr ⟨found, same ▸ elsewhere⟩, same⟩
  memberUsers := by
    intro row stored
    rcases List.mem_map.mp stored with ⟨old, kept, rfl⟩
    rw [clearPointer_userId]
    exact conforms.memberUsers old (mem_deleteWhere.mp kept).1
  messageIds := Unclashing.deleteWhere conforms.messageIds
  clientKeys := Unclashing.deleteWhere conforms.clientKeys
  messageRooms := by
    intro message kept
    rcases mem_deleteWhere.mp kept with ⟨stored, elsewhere⟩
    rcases conforms.messageRooms message stored with ⟨room, found, same⟩
    exact ⟨room, mem_deleteWhere.mpr ⟨found, same ▸ elsewhere⟩, same⟩
  messageSenders := fun message kept =>
    conforms.messageSenders message (mem_deleteWhere.mp kept).1
  messageTexts := fun message kept =>
    conforms.messageTexts message (mem_deleteWhere.mp kept).1

theorem Conforms.insertMessage {row : Message}
    (conforms : Conforms uuid state)
    (stores : Storable (PgMessageRepository.texts row))
    (fresh : ∀ other ∈ state.messages,
      ¬ PgMessageRepository.sameClientKey other row)
    (fits : PgMessageRepository.insertViolation state row = none) :
    Conforms uuid { state with messages := state.messages ++ [row] } := by
  rcases insertViolation_eq_none_iff.mp fits with ⟨newId, room, sender⟩
  exact
    { conforms with
      messageIds := conforms.messageIds.append newId
      clientKeys := Unclashing.append conforms.clientKeys fresh
      messageRooms := by
        rw [List.forall_mem_append, List.forall_mem_singleton]
        exact ⟨conforms.messageRooms, room⟩
      messageSenders := by
        rw [List.forall_mem_append, List.forall_mem_singleton]
        exact ⟨conforms.messageSenders, sender⟩
      messageTexts := by
        rw [List.forall_mem_append, List.forall_mem_singleton]
        exact ⟨conforms.messageTexts, stores⟩ }

/-- The fields of a message that no update changes. -/
structure KeepsMessage (change : Message → Message) : Prop where
  id : ∀ row, (change row).id = row.id
  roomId : ∀ row, (change row).roomId = row.roomId
  senderId : ∀ row, (change row).senderId = row.senderId
  clientMessageId : ∀ row, (change row).clientMessageId = row.clientMessageId

theorem patchMessage_keeps (patch : MessagePatch) :
    KeepsMessage (PgMessageRepository.patchMessage patch) :=
  ⟨fun _ => rfl, fun _ => rfl, fun _ => rfl, fun _ => rfl⟩

theorem blank_keeps (now : Time) :
    KeepsMessage (PgMessageRepository.blank now) :=
  ⟨fun _ => rfl, fun _ => rfl, fun _ => rfl, fun _ => rfl⟩

theorem patchMessage_texts {patch : MessagePatch} {row : Message}
    (patched : patch.body.all storable = true)
    (stores : Storable (PgMessageRepository.texts row)) :
    Storable (PgMessageRepository.texts
      (PgMessageRepository.patchMessage patch row)) := by
  unfold PgMessageRepository.texts PgMessageRepository.patchMessage Storable
    at *
  rw [List.forall_mem_cons] at stores ⊢
  refine ⟨?_, stores.2⟩
  cases given : patch.body with
  | none => exact stores.1
  | some body => exact given ▸ patched

theorem blank_texts {row : Message}
    (stores : Storable (PgMessageRepository.texts row)) :
    Storable (PgMessageRepository.texts
      (PgMessageRepository.blank now row)) := by
  unfold PgMessageRepository.texts PgMessageRepository.blank Storable at *
  simp only [List.forall_mem_cons] at stores ⊢
  exact ⟨rfl, stores.2.1, rfl, stores.2.2.2⟩

theorem Conforms.updateMessages {condition : Message → Prop}
    [DecidablePred condition] {change : Message → Message}
    (conforms : Conforms uuid state) (keeps : KeepsMessage change)
    (stores : ∀ row, Storable (PgMessageRepository.texts row) →
      Storable (PgMessageRepository.texts (change row))) :
    Conforms uuid
      { state with
        messages := updateWhere condition change state.messages } :=
  { conforms with
    messageIds := conforms.messageIds.updateWhere keeps.id
    clientKeys := by
      refine Unclashing.updateWhere conforms.clientKeys ?_
      intro left right clash
      by_cases changedLeft : condition left <;>
        by_cases changedRight : condition right <;>
          simpa [changedLeft, changedRight, keeps.senderId,
            keeps.clientMessageId, PgMessageRepository.sameClientKey] using
              clash
    messageRooms := by
      refine forall_mem_updateWhere conforms.messageRooms ?_
      intro row stored _
      rw [keeps.roomId]
      exact conforms.messageRooms row stored
    messageSenders := by
      refine forall_mem_updateWhere conforms.messageSenders ?_
      intro row stored _
      rw [keeps.senderId]
      exact conforms.messageSenders row stored
    messageTexts := by
      refine forall_mem_updateWhere conforms.messageTexts ?_
      intro row stored _
      exact stores row (conforms.messageTexts row stored) }

/-! ## Every statement keeps the constraints -/

/-- The id of a room that has been read is the one the column stores. -/
theorem canonical_of_readRoom {room row : Room}
    (reading : PgRoomRepository.readRoom uuid room = .ok row) :
    uuid.read row.id = some row.id := by
  rcases readRoom_eq_ok_iff.mp reading with ⟨id, spelled, -, createdBy, -, rfl⟩
  exact uuid.canonical room.id id spelled

theorem Conforms.roomStatement {op : RoomOp} {answer : op.Answer}
    (conforms : Conforms uuid state)
    (answered : chatAdapter uuid (.roomRepo op) now state =
      .ok (answer, after)) :
    Conforms uuid after := by
  cases op with
  | insertDm room =>
      rcases insertDm_eq_ok_iff.mp answered with ⟨row, reading, ends⟩
      split_ifs at ends with known
      · exact ends.2 ▸ conforms
      · rcases ends with ⟨fits, -, rfl⟩
        exact conforms.insertRoom (canonical_of_readRoom reading) fits
  | insertDmMembers memberA memberB =>
      obtain ⟨rowA, -, rowB, -, refersA, refersB, rfl⟩ :=
        insertDmMembers_eq_ok_iff.mp answered
      exact (conforms.insertIgnoring refersA).insertIgnoring refersB
  | insertGroup room =>
      rcases insertGroup_eq_ok_iff.mp answered with ⟨row, reading, fits, -, rfl⟩
      exact conforms.insertRoom (canonical_of_readRoom reading) fits
  | findById id =>
      rcases findRoomById_eq_ok_iff.mp answered with ⟨-, -, -, rfl⟩
      exact conforms
  | findByDmKey dmKey =>
      rcases findByDmKey_eq_ok_iff.mp answered with ⟨-, rfl⟩
      exact conforms
  | insertMember member =>
      obtain ⟨row, -, fresh, refers, -, rfl⟩ :=
        insertMember_eq_ok_iff.mp answered
      exact conforms.insertMember fresh refers
  | removeMember roomId userId =>
      rcases removeMember_eq_ok_iff.mp answered with ⟨room, -, user, -, rfl⟩
      exact conforms.deleteMembers
  | getMember roomId userId =>
      rcases getMember_eq_ok_iff.mp answered with ⟨-, -, -, -, -, rfl⟩
      exact conforms
  | setLastReadMessage roomId userId messageId =>
      obtain ⟨message, -, room, -, user, -, -, rfl⟩ :=
        setLastReadMessage_eq_ok_iff.mp answered
      exact conforms.updateMembers (fun _ => rfl) (fun _ => rfl)
  | bumpLastMessageAt roomId at_ =>
      rcases bumpLastMessageAt_eq_ok_iff.mp answered with ⟨room, -, rfl⟩
      exact conforms.updateRooms (fun _ => rfl) (fun _ => rfl)
  | deleteRoom id =>
      rcases deleteRoom_eq_ok_iff.mp answered with ⟨room, -, rfl⟩
      exact conforms.cascade room

theorem Conforms.messageStatement {op : MessageOp} {answer : op.Answer}
    (conforms : Conforms uuid state)
    (answered : chatAdapter uuid (.messageRepo op) now state =
      .ok (answer, after)) :
    Conforms uuid after := by
  cases op with
  | insert message =>
      rcases insertMessage_eq_ok_iff.mp answered with ⟨row, reads, ends⟩
      rcases ends with ⟨-, rfl⟩ | ⟨unknown, fits, -, rfl⟩
      · exact conforms
      · obtain ⟨_, -, _, -, _, -, stores, rfl⟩ :=
          readMessage_eq_ok_iff.mp reads
        exact conforms.insertMessage stores (first_eq_none_iff.mp unknown) fits
  | findById id =>
      rcases findMessageById_eq_ok_iff.mp answered with ⟨-, -, -, rfl⟩
      exact conforms
  | listByRoom roomId before limit =>
      rcases listByRoom_eq_ok_iff.mp answered with ⟨-, -, -, -, -, rfl⟩
      exact conforms
  | update id patch =>
      obtain ⟨patched, -, -, row, -, -, rfl⟩ :=
        updateMessage_eq_ok_iff.mp answered
      exact conforms.updateMessages (patchMessage_keeps patch)
        fun _ => patchMessage_texts patched
  | softDelete id =>
      rcases softDelete_eq_ok_iff.mp answered with ⟨-, -, row, -, -, rfl⟩
      exact conforms.updateMessages (blank_keeps now) fun _ => blank_texts

theorem Conforms.statement {op : ChatOp} {answer : op.Answer}
    (conforms : Conforms uuid state)
    (answered : chatAdapter uuid op now state = .ok (answer, after)) :
    Conforms uuid after := by
  cases op with
  | findUser id =>
      rcases findUser_eq_ok_iff.mp answered with ⟨-, -, -, rfl⟩
      exact conforms
  | roomRepo op => exact conforms.roomStatement answered
  | messageRepo op => exact conforms.messageStatement answered
  | headObject key =>
      rcases headObject_eq_ok_iff.mp answered with ⟨-, rfl⟩
      exact conforms
  | publish channel event =>
      rw [publish_eq_ok_iff] at answered
      subst answered
      exact { conforms with }

/-- Whatever a use case does, it leaves tables that conform. -/
theorem Conforms.run {Result : Type} {program : ChatProgram Result}
    (conforms : Conforms uuid state) :
    Conforms uuid (program.run (chatAdapter uuid) now state).2 :=
  Program.run_preserves
    (fun _ _ _ _ before answered => before.statement answered)
    program conforms

end ChatBackend.Chat.Schema
