import ChatBackend.Chat.MessageUseCases
import ChatBackend.Effects.Coupling

/-!
# What a user may not see of a room

The contents of the messages of a room that a user has not sent.  Two states are
indistinguishable if they differ in these only; what has been published is no
part of a state.

No statement tells two indistinguishable states apart, except through the
messages that it answers with, and these differ in their contents only.
-/

namespace ChatBackend.Chat.Redaction

open Effects
open Relational
open Effects.Program
open ChatBackend.Chat.Store
open ChatBackend.Chat.Schema

/-! ## Redaction -/

/-- A message of the room that the user has not sent. -/
def Protected (user room : String) (message : Message) : Prop :=
  message.roomId = room ∧ message.senderId ≠ user

instance (user room : String) (message : Message) :
    Decidable (Protected user room message) :=
  inferInstanceAs (Decidable (_ ∧ _))

/-- The message without its contents. -/
def hide (message : Message) : Message :=
  { message with
    body := ""
    attachmentKey := none
    attachmentMeta := none
    editedAt := none }

/-- The message as it is to look to the user. -/
def redact (user room : String) (message : Message) : Message :=
  if Protected user room message then hide message else message

/-- The states differ in the contents of protected messages only. -/
structure Indistinguishable (user room : String) (left right : ChatState) :
    Prop where
  users : left.users = right.users
  rooms : left.rooms = right.rooms
  roomMembers : left.roomMembers = right.roomMembers
  objects : left.objects = right.objects
  messages : left.messages.map (redact user room) =
    right.messages.map (redact user room)

section Redact

variable {user room : String} {message other : Message}

@[simp]
theorem redact_id : (redact user room message).id = message.id := by
  unfold redact
  split_ifs <;> rfl

@[simp]
theorem redact_roomId :
    (redact user room message).roomId = message.roomId := by
  unfold redact
  split_ifs <;> rfl

@[simp]
theorem redact_senderId :
    (redact user room message).senderId = message.senderId := by
  unfold redact
  split_ifs <;> rfl

@[simp]
theorem redact_clientMessageId :
    (redact user room message).clientMessageId = message.clientMessageId := by
  unfold redact
  split_ifs <;> rfl

@[simp]
theorem redact_deletedAt :
    (redact user room message).deletedAt = message.deletedAt := by
  unfold redact
  split_ifs <;> rfl

theorem redact_of_protected (hidden : Protected user room message) :
    redact user room message = hide message :=
  if_pos hidden

theorem redact_of_not (shown : ¬ Protected user room message) :
    redact user room message = message :=
  if_neg shown

/-- What is never redacted is the same of both messages. -/
structure SameOutline (message other : Message) : Prop where
  id : message.id = other.id
  roomId : message.roomId = other.roomId
  senderId : message.senderId = other.senderId
  deletedAt : message.deletedAt = other.deletedAt

theorem sameOutline_of_redact_eq
    (same : redact user room message = redact user room other) :
    SameOutline message other where
  id := by rw [← @redact_id user room, same, redact_id]
  roomId := by rw [← @redact_roomId user room, same, redact_roomId]
  senderId := by rw [← @redact_senderId user room, same, redact_senderId]
  deletedAt := by rw [← @redact_deletedAt user room, same, redact_deletedAt]

/-- Messages of one outline are protected alike. -/
theorem SameOutline.protected_iff (outline : SameOutline message other) :
    Protected user room message ↔ Protected user room other := by
  unfold Protected
  rw [outline.roomId, outline.senderId]

/-- Messages that are not protected are told apart. -/
theorem eq_of_redact_eq (shown : ¬ Protected user room message)
    (same : redact user room message = redact user room other) :
    message = other := by
  have otherShown : ¬ Protected user room other := by
    rw [← (sameOutline_of_redact_eq same).protected_iff]
    exact shown
  rw [← redact_of_not shown, same, redact_of_not otherShown]

/-- A change of a message that does not depend on what is redacted. -/
def Blind (user room : String) (change : Message → Message) : Prop :=
  ∀ message, redact user room (change (redact user room message)) =
    redact user room (change message)

theorem blind_of_keeps {change : Message → Message}
    (keeps : KeepsMessage change)
    (hides : ∀ message, hide (change (hide message)) = hide (change message)) :
    Blind user room change := by
  intro message
  by_cases hidden : Protected user room message
  · have changed (other : Message) (same : other.roomId = message.roomId)
        (sender : other.senderId = message.senderId) :
        Protected user room (change other) := by
      refine ⟨?_, ?_⟩
      · rw [keeps.roomId, same, hidden.1]
      · rw [keeps.senderId, sender]
        exact hidden.2
    rw [redact_of_protected hidden,
      redact_of_protected (changed (hide message) rfl rfl),
      redact_of_protected (changed message rfl rfl), hides]
  · rw [redact_of_not hidden]

theorem blind_patchMessage (patch : MessagePatch) :
    Blind user room (PgMessageRepository.patchMessage patch) := by
  refine blind_of_keeps (patchMessage_keeps patch) fun message => ?_
  cases patch with
  | mk body editedAt => cases body <;> rfl

theorem blind_blank (now : Time) :
    Blind user room (PgMessageRepository.blank now) :=
  blind_of_keeps (blank_keeps now) fun _ => rfl

/-- A patch of a protected message is redacted. -/
theorem redact_patchMessage (patch : MessagePatch)
    (hidden : Protected user room message) :
    redact user room (PgMessageRepository.patchMessage patch message) =
      redact user room message := by
  have changed : Protected user room
      (PgMessageRepository.patchMessage patch message) := hidden
  rw [redact_of_protected changed, redact_of_protected hidden]
  rfl

end Redact

/-! ## Tables of messages -/

section Tables

variable {user room : String} {left right : List Message}

/-- What a redaction keeps is found in both tables or in none. -/
theorem exists_mem_iff_of_redact {property : Message → Prop}
    (keeps : ∀ message,
      property (redact user room message) ↔ property message)
    (same : left.map (redact user room) = right.map (redact user room)) :
    (∃ message ∈ left, property message) ↔
      ∃ message ∈ right, property message := by
  have redacted (rows : List Message) :
      (∃ message ∈ rows, property message) ↔
        ∃ message ∈ rows.map (redact user room), property message := by
    simp only [List.mem_map, exists_exists_and_eq_and, keeps]
  rw [redacted left, same, ← redacted right]

theorem first_redact (key : Message → Prop) [DecidablePred key]
    (keeps : ∀ message, key (redact user room message) ↔ key message)
    (same : left.map (redact user room) = right.map (redact user room)) :
    (first key left).map (redact user room) =
      (first key right).map (redact user room) := by
  rw [← first_map keeps, same, first_map keeps]

theorem updateWhere_redact (condition : Message → Prop)
    [DecidablePred condition] {change : Message → Message}
    (blind : Blind user room change)
    (keeps : ∀ message,
      condition (redact user room message) ↔ condition message)
    (same : left.map (redact user room) = right.map (redact user room)) :
    (updateWhere condition change left).map (redact user room) =
      (updateWhere condition change right).map (redact user room) := by
  have redacted (rows : List Message) :
      (updateWhere condition change rows).map (redact user room) =
        (updateWhere condition change (rows.map (redact user room))).map
          (redact user room) := by
    unfold updateWhere
    rw [List.map_map, List.map_map, List.map_map]
    refine List.map_congr_left fun message _ => ?_
    simp only [Function.comp_apply, keeps]
    split_ifs
    · exact (blind message).symm
    · by_cases hidden : Protected user room message
      · rw [redact_of_protected hidden,
          @redact_of_protected user room (hide message) hidden]
        rfl
      · rw [redact_of_not hidden, redact_of_not hidden]
  rw [redacted left, same, ← redacted right]

theorem deleteWhere_redact {condition : Message → Prop}
    [DecidablePred condition]
    (keeps : ∀ message,
      condition (redact user room message) ↔ condition message)
    (same : left.map (redact user room) = right.map (redact user room)) :
    (deleteWhere condition left).map (redact user room) =
      (deleteWhere condition right).map (redact user room) := by
  rw [map_deleteWhere keeps, same, map_deleteWhere keeps]

theorem page_redact (roomId : String) (before : Option String) (limit : Nat)
    (same : left.map (redact user room) = right.map (redact user room)) :
    (PgMessageRepository.page left roomId before limit).map
        (redact user room) =
      (PgMessageRepository.page right roomId before limit).map
        (redact user room) := by
  have redacted (rows : List Message) :
      (PgMessageRepository.page rows roomId before limit).map
          (redact user room) =
        PgMessageRepository.page (rows.map (redact user room)) roomId before
          limit := by
    have kept : (fun row : Message => decide (row.roomId = roomId) &&
        before.all fun id => decide (row.id < id)) ∘ redact user room =
          fun row => decide (row.roomId = roomId) &&
            before.all fun id => decide (row.id < id) := by
      funext message
      simp
    have newest (rows : List Message) :
        (rows.mergeSort fun left right => decide (¬ left.id < right.id)).map
            (redact user room) =
          (rows.map (redact user room)).mergeSort
            fun left right => decide (¬ left.id < right.id) :=
      List.map_mergeSort fun _ _ _ _ => by simp
    unfold PgMessageRepository.page
    rw [List.map_take, newest, List.filter_map, kept]
  rw [redacted left, same, ← redacted right]

end Tables

/-! ## Statements -/

/-- The operations that answer with no message. -/
def Messageless : ChatOp → Prop
  | .messageRepo _ => False
  | _ => True

/-- The answers differ in the contents of protected messages only. -/
def MessageAnswers (user room : String) :
    (op : MessageOp) → op.Answer → op.Answer → Prop
  | .insert _ => fun stored other =>
      redact user room stored = redact user room other
  | .findById _ => fun found other =>
      found.map (redact user room) = other.map (redact user room)
  | .listByRoom _ _ _ => fun rows others =>
      rows.map (redact user room) = others.map (redact user room)
  | .update _ _ => fun updated other =>
      redact user room updated = redact user room other
  | .softDelete _ => fun deleted other =>
      redact user room deleted = redact user room other

section Statements

variable {uuid : PgUuid} {user room : String} {left right : ChatState}

theorem Indistinguishable.refl (state : ChatState) :
    Indistinguishable user room state state :=
  ⟨rfl, rfl, rfl, rfl, rfl⟩

/-- The other state has the same tables, but for its messages. -/
theorem Indistinguishable.exists_eq
    (same : Indistinguishable user room left right) :
    ∃ messages published, right = { left with messages, published } := by
  rcases same with ⟨users, rooms, roomMembers, objects, -⟩
  cases left
  cases right
  cases users
  cases rooms
  cases roomMembers
  cases objects
  exact ⟨_, _, rfl⟩

theorem memberDangling_eq (same : Indistinguishable user room left right)
    (row : RoomMember) :
    PgRoomRepository.memberDangling left row =
      PgRoomRepository.memberDangling right row := by
  have known (id : String) : (∃ message ∈ left.messages, message.id = id) ↔
      ∃ message ∈ right.messages, message.id = id :=
    exists_mem_iff_of_redact (fun _ => by rw [redact_id]) same.messages
  unfold PgRoomRepository.memberDangling
  simp only [same.rooms, same.users, known]

theorem insertViolation_eq (same : Indistinguishable user room left right)
    (row : Message) :
    PgMessageRepository.insertViolation left row =
      PgMessageRepository.insertViolation right row := by
  have known (id : String) : (∃ message ∈ left.messages, message.id = id) ↔
      ∃ message ∈ right.messages, message.id = id :=
    exists_mem_iff_of_redact (fun _ => by rw [redact_id]) same.messages
  unfold PgMessageRepository.insertViolation
  simp only [same.rooms, same.users, known]

theorem clearPointer_eq (same : Indistinguishable user room left right)
    (roomId : String) :
    PgRoomRepository.clearPointer left.messages roomId =
      PgRoomRepository.clearPointer right.messages roomId := by
  funext row
  have known : (∃ message ∈ left.messages, message.roomId = roomId ∧
      row.lastReadMessageId = some message.id) ↔
        ∃ message ∈ right.messages, message.roomId = roomId ∧
          row.lastReadMessageId = some message.id :=
    exists_mem_iff_of_redact
      (fun _ => by rw [redact_id, redact_roomId]) same.messages
  unfold PgRoomRepository.clearPointer
  simp only [known]

/-- The statements of the room repository cannot tell the states apart. -/
theorem agree_room (same : Indistinguishable user room left right)
    (op : RoomOp) :
    Agree (Indistinguishable user room) Eq
      (PgRoomRepository.handle uuid left op)
      (PgRoomRepository.handle uuid right op) := by
  have dangling := memberDangling_eq same
  have cleared := clearPointer_eq same
  have known (id : String) : (∃ message ∈ left.messages, message.id = id) ↔
      ∃ message ∈ right.messages, message.id = id :=
    exists_mem_iff_of_redact (fun _ => by rw [redact_id]) same.messages
  obtain ⟨messages, published, rfl⟩ := same.exists_eq
  have redacted := same.messages
  have inserts (row : Room) : Agree (Indistinguishable user room) Eq
      (PgRoomRepository.insertRoom left row)
      (PgRoomRepository.insertRoom { left with messages, published } row) := by
    have violation : PgRoomRepository.roomViolation
        { left with messages, published } row =
          PgRoomRepository.roomViolation left row := rfl
    unfold PgRoomRepository.insertRoom
    rw [violation]
    cases PgRoomRepository.roomViolation left row with
    | some cause => exact rfl
    | none => exact ⟨rfl, rfl, rfl, rfl, rfl, redacted⟩
  cases op with
  | insertDm created =>
      refine Agree.bind fun row => ?_
      dsimp only
      split_ifs
      · exact ⟨rfl, same⟩
      · have inserted := inserts row
        revert inserted
        cases PgRoomRepository.insertRoom left row <;>
          cases PgRoomRepository.insertRoom
            { left with messages, published } row
        · exact id
        · exact id
        · exact id
        · exact fun inserted => ⟨congrArg some inserted.1, inserted.2⟩
  | insertDmMembers memberA memberB =>
      refine Agree.bind fun rowA => Agree.bind fun rowB => ?_
      rw [dangling, dangling]
      split
      · exact rfl
      · exact ⟨rfl, rfl, rfl, rfl, rfl, redacted⟩
  | insertGroup created => exact Agree.bind fun row => inserts row
  | findById id => exact Agree.bind fun id => ⟨rfl, same⟩
  | findByDmKey dmKey => exact ⟨rfl, same⟩
  | insertMember member =>
      refine Agree.bind fun row => ?_
      dsimp only
      split_ifs
      · exact rfl
      · rw [dangling]
        split
        · exact rfl
        · exact ⟨rfl, rfl, rfl, rfl, rfl, redacted⟩
  | removeMember roomId userId =>
      exact Agree.bind fun roomRead => Agree.bind fun userRead =>
        ⟨rfl, rfl, rfl, rfl, rfl, redacted⟩
  | getMember roomId userId =>
      exact Agree.bind fun roomRead => Agree.bind fun userRead =>
        ⟨rfl, same⟩
  | setLastReadMessage roomId userId messageId =>
      refine Agree.bind fun messageRead => Agree.bind fun roomRead =>
        Agree.bind fun userRead => ?_
      have stored := known messageRead
      split_ifs with missing there there
      · exact rfl
      · exact absurd ⟨missing.1, fun held => missing.2 (stored.mpr held)⟩ there
      · exact absurd ⟨there.1, fun held => there.2 (stored.mp held)⟩ missing
      · exact ⟨rfl, rfl, rfl, rfl, rfl, redacted⟩
  | bumpLastMessageAt roomId at_ =>
      exact Agree.bind fun roomRead => ⟨rfl, rfl, rfl, rfl, rfl, redacted⟩
  | deleteRoom id =>
      refine Agree.bind fun roomRead => ⟨rfl, rfl, rfl, ?_, rfl, ?_⟩
      · exact congrArg (fun clear => List.map clear _) (cleared roomRead)
      · exact deleteWhere_redact (fun _ => by rw [redact_roomId]) redacted

/-- No operation that answers with no message can tell the states apart. -/
theorem agree_messageless (same : Indistinguishable user room left right)
    {op : ChatOp} (messageless : Messageless op) (now : Time) :
    Agree (Indistinguishable user room) Eq (chatAdapter uuid op now left)
      (chatAdapter uuid op now right) := by
  cases op with
  | findUser id =>
      exact Agree.bind fun id =>
        ⟨congrArg (first fun row : User => row.id = id) same.users, same⟩
  | roomRepo op => exact agree_room same op
  | messageRepo op => exact messageless.elim
  | headObject key =>
      exact ⟨congrArg (fun objects => decide (key ∈ objects)) same.objects,
        same⟩
  | publish channel event => exact ⟨rfl, { same with }⟩

/-- Updates of the row with an id, if the change is blind to the redaction. -/
theorem agree_updateById (same : Indistinguishable user room left right)
    (id : String) {change : Message → Message}
    (blind : Blind user room change) :
    Agree (Indistinguishable user room)
      (fun updated other => redact user room updated = redact user room other)
      (PgMessageRepository.updateById left id change)
      (PgMessageRepository.updateById right id change) := by
  have keeps (row : Message) : (redact user room row).id = id ↔ row.id = id := by
    rw [redact_id]
  have found := first_redact (fun row => row.id = id) keeps same.messages
  have updated := updateWhere_redact (fun row => row.id = id) blind keeps same.messages
  unfold PgMessageRepository.updateById
  cases here : first (fun row => row.id = id) left.messages <;>
    cases there : first (fun row => row.id = id) right.messages <;>
    rw [here, there] at found
  · exact rfl
  · cases found
  · cases found
  · refine ⟨?_, { same with messages := updated }⟩
    dsimp only
    rw [← blind, Option.some.inj found, blind]

/-- The statements of the message repository answer alike. -/
theorem agree_message (same : Indistinguishable user room left right)
    (op : MessageOp) (now : Time) :
    Agree (Indistinguishable user room) (MessageAnswers user room op)
      (PgMessageRepository.handle uuid now left op)
      (PgMessageRepository.handle uuid now right op) := by
  cases op with
  | insert message =>
      refine Agree.bind fun row => ?_
      have keeps (other : Message) :
          PgMessageRepository.sameClientKey (redact user room other) row ↔
            PgMessageRepository.sameClientKey other row := by
        simp only [PgMessageRepository.sameClientKey, redact_senderId,
          redact_clientMessageId]
      have found := first_redact
        (fun other => PgMessageRepository.sameClientKey other row) keeps
        same.messages
      cases here : first (fun other =>
          PgMessageRepository.sameClientKey other row) left.messages <;>
        cases there : first (fun other =>
          PgMessageRepository.sameClientKey other row) right.messages <;>
        rw [here, there] at found
      · rw [insertViolation_eq same]
        cases PgMessageRepository.insertViolation right row with
        | some cause => exact rfl
        | none =>
            refine ⟨rfl, { same with messages := ?_ }⟩
            dsimp only
            rw [List.map_append, List.map_append, same.messages]
      · cases found
      · cases found
      · exact ⟨Option.some.inj found, same⟩
  | findById id =>
      exact Agree.bind fun id =>
        ⟨first_redact (fun row => row.id = id) (fun _ => by rw [redact_id])
          same.messages, same⟩
  | listByRoom roomId before limit =>
      exact Agree.bind fun roomRead => Agree.bind fun cursor =>
        ⟨page_redact roomRead cursor limit same.messages, same⟩
  | update id patch =>
      exact Agree.bind fun _ => Agree.bind fun id =>
        agree_updateById same id (blind_patchMessage patch)
  | softDelete id =>
      exact Agree.bind fun id => agree_updateById same id (blind_blank now)

end Statements

end ChatBackend.Chat.Redaction
