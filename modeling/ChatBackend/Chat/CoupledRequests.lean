import ChatBackend.Chat.Redaction
import ChatBackend.Chat.RoomActions
import ChatBackend.Chat.Statements

/-!
# Requests on indistinguishable states

The room and message requests, each coupled with itself on two states that
differ in the contents of protected messages only.  They issue the same
operations on both, except that an edit which changes nothing on one of them
stops there early; only the sender of the message can tell, and to the sender
the messages are the same.
-/

namespace ChatBackend.Chat.CoupledRequests

open Effects
open Relational
open Effects.Program
open ChatBackend.Chat.Store
open ChatBackend.Chat.Schema
open ChatBackend.Chat.RoomUseCases
open ChatBackend.Chat.MessageUseCases
open ChatBackend.Chat.Statements
open ChatBackend.Chat.Requests
open ChatBackend.Chat.Redaction
open ChatBackend.Chat.RoomActions
open ChatBackend.Chat.MembershipAuthorization (requesterId)

/-! ## Programs without messages -/

section Messageless

/-- Memberships are made and ended without messages. -/
theorem messageless_of_statements {Result : Type}
    {program : ChatProgram Result}
    (statements : program.Issues MembershipStatement) :
    program.Issues Messageless := by
  refine statements.imp fun op statement => ?_
  cases op with
  | messageRepo op => exact statement
  | _ => trivial

end Messageless

/-! ## Coupled operations -/

section Operations

variable {uuid : PgUuid} {user room : String} {left right : ChatState}
  {now : Time} {Result : Type} {alike : Result → Result → Prop}

/-- Two indistinguishable states of the database. -/
structure Related (uuid : PgUuid) (user room : String)
    (left right : ChatState) : Prop
    extends Indistinguishable user room left right where
  left : Conforms uuid left
  right : Conforms uuid right

theorem Related.symm (related : Related uuid user room left right) :
    Related uuid user room right left where
  users := related.users.symm
  rooms := related.rooms.symm
  roomMembers := related.roomMembers.symm
  objects := related.objects.symm
  messages := related.messages.symm
  left := related.right
  right := related.left

theorem Related.agree_messageless (related : Related uuid user room left right)
    {op : ChatOp} (messageless : Messageless op) :
    Agree (Related uuid user room) Eq (chatAdapter uuid op now left)
      (chatAdapter uuid op now right) := by
  apply (Redaction.agree_messageless related.toIndistinguishable messageless
    now).imp
  intro _ after _ otherAfter here there same
  exact { same with
    left := related.left.statement here
    right := related.right.statement there }

theorem Related.agree_message (related : Related uuid user room left right)
    (op : MessageOp) :
    Agree (Related uuid user room) (MessageAnswers user room op)
      (chatAdapter uuid (.messageRepo op) now left)
      (chatAdapter uuid (.messageRepo op) now right) := by
  apply (Redaction.agree_message related.toIndistinguishable op now).imp
  intro _ after _ otherAfter here there same
  exact { same with
    left := @Conforms.statement _ _ _ _ (.messageRepo op) _ related.left here
    right :=
      @Conforms.statement _ _ _ _ (.messageRepo op) _ related.right there }

/-- A program without messages ends alike. -/
theorem coupled_messageless {program : ChatProgram Result}
    (messageless : program.Issues Messageless)
    (related : Related uuid user room left right) :
    Coupled (chatAdapter uuid) now (Related uuid user room) Eq program program
      left right :=
  .of_issues (fun _ _ _ messageless same =>
    Related.agree_messageless same messageless) messageless related

/-- Events may differ: what is published is no part of a state. -/
theorem coupled_publish {channel otherChannel : Channel}
    {event otherEvent : BusEvent}
    {next otherNext : Unit → ChatProgram Result}
    (related : Related uuid user room left right)
    (rest : ∀ left right, Related uuid user room left right →
      Coupled (chatAdapter uuid) now (Related uuid user room) alike (next ())
        (otherNext ()) left right) :
    Coupled (chatAdapter uuid) now (Related uuid user room) alike
      (bus.publish channel event >>= next)
      (bus.publish otherChannel otherEvent >>= otherNext) left right := by
  refine .call_left rfl (.call_right rfl (rest _ _ ?_))
  exact { related with
    left := { related.left with }
    right := { related.right with } }

/-- A statement on rooms is answered the same in both runs. -/
theorem coupled_room {op : RoomOp}
    {next otherNext : op.Answer → ChatProgram Result}
    (related : Related uuid user room left right)
    (rest : ∀ answer after otherAfter, Related uuid user room after otherAfter →
      chatAdapter uuid (.roomRepo op) now left = .ok (answer, after) →
        Coupled (chatAdapter uuid) now (Related uuid user room) alike
          (next answer) (otherNext answer) after otherAfter) :
    Coupled (chatAdapter uuid) now (Related uuid user room) alike
      (ChatOp.await (.roomRepo op) >>= next)
      (ChatOp.await (.roomRepo op) >>= otherNext) left right := by
  refine .call related
    (@Related.agree_messageless _ _ _ _ _ _ related (.roomRepo op) trivial) ?_
  rintro answer after _ otherAfter here - rfl goesOn
  exact rest answer after otherAfter goesOn here

/-- Messages are answered alike in both runs. -/
theorem coupled_message {op : MessageOp}
    {next otherNext : op.Answer → ChatProgram Result}
    (related : Related uuid user room left right)
    (rest : ∀ answer after otherAnswer otherAfter,
      Related uuid user room after otherAfter →
        chatAdapter uuid (.messageRepo op) now left = .ok (answer, after) →
          chatAdapter uuid (.messageRepo op) now right =
              .ok (otherAnswer, otherAfter) →
            MessageAnswers user room op answer otherAnswer →
              Coupled (chatAdapter uuid) now (Related uuid user room) alike
                (next answer) (otherNext otherAnswer) after otherAfter) :
    Coupled (chatAdapter uuid) now (Related uuid user room) alike
      (ChatOp.await (.messageRepo op) >>= next)
      (ChatOp.await (.messageRepo op) >>= otherNext) left right :=
  .call related (related.agree_message op)
    fun answer after otherAnswer otherAfter here there same goesOn =>
      rest answer after otherAnswer otherAfter goesOn here there same

end Operations

/-! ## Coupled requests -/

section Requests

variable {uuid : PgUuid} {user room : String} {left right : ChatState}
  {now : Time}

/-- The sender of an inserted message is the one of its row. -/
theorem senderId_of_inserted {message stored : Message} {after : ChatState}
    (canonical : uuid.read user = some user) (own : message.senderId = user)
    (inserted : chatAdapter uuid (.messageRepo (.insert message)) now left =
      .ok (stored, after)) :
    stored.senderId = user := by
  rcases insertMessage_eq_ok_iff.mp inserted with ⟨row, reads, cases⟩
  obtain ⟨_, -, _, -, sender, senderRead, -, rfl⟩ :=
    readMessage_eq_ok_iff.mp reads
  have same : sender = user :=
    Option.some.inj (senderRead.symm.trans (own ▸ canonical))
  rcases cases with ⟨known, -⟩ | ⟨-, -, rfl, -⟩
  · exact (condition_of_first known).2.1.trans same
  · exact same

theorem sendMessage_coupled (canonical : uuid.read user = some user)
    (related : Related uuid user room left right) (draws : SendMessage.Draws)
    (input : SendMessage.Input) :
    Coupled (chatAdapter uuid) now (Related uuid user room)
      (fun dto other => input.senderId = user → dto = other)
      (SendMessage.execute draws input) (SendMessage.execute draws input)
      left right := by
  refine coupled_room related ?_
  rintro (_ | member) _ _ related -
  · exact .fail related
  refine .bind (coupled_messageless
    (checkAttachment_statements (fun _ => trivial) _) related) ?_
  rintro _ _ _ _ related -
  refine coupled_message related ?_
  intro stored _ other _ related inserted _ answers
  refine coupled_room related ?_
  intro _ _ _ related _
  refine coupled_publish related fun _ _ related => .done related ?_
  intro own
  have shown : ¬ Protected user room stored := fun hidden =>
    hidden.2 (senderId_of_inserted canonical own inserted)
  rw [eq_of_redact_eq shown answers]

/-- An edit of a protected message in one run only. -/
theorem Related.edit_right (related : Related uuid user room left right)
    {message : Message} {messageId : String} (patch : MessagePatch)
    (patched : patch.body.all storable = true)
    (reads : uuid.read messageId = some message.id)
    (found : first (fun row => row.id = message.id) right.messages =
      some message)
    (hidden : Protected user room message) :
    ∃ updated after,
      chatAdapter uuid (.messageRepo (.update messageId patch)) now right =
          .ok (updated, after) ∧
        Related uuid user room left after := by
  have updates : chatAdapter uuid (.messageRepo (.update messageId patch)) now
      right = .ok (PgMessageRepository.patchMessage patch message,
        { right with
          messages :=
            updateWhere (fun row => row.id = message.id)
              (PgMessageRepository.patchMessage patch) right.messages }) :=
    updateMessage_eq_ok_iff.mpr
      ⟨patched, message.id, reads, message, found, rfl, rfl⟩
  refine ⟨_, _, updates, { related with
    messages := related.messages.trans ?_
    right := @Conforms.statement _ _ _ _ (.messageRepo (.update _ _)) _
      related.right updates }⟩
  dsimp only
  unfold updateWhere
  rw [List.map_map]
  refine List.map_congr_left fun row stored => ?_
  rw [Function.comp_apply]
  split_ifs with same
  · cases related.right.messageIds.eq_of_key stored (mem_of_first found) same
    exact (redact_patchMessage patch hidden).symm
  · rfl

theorem editMessage_coupled (related : Related uuid user room left right)
    (clock : Time) (requesterId messageId body : String) :
    Coupled (chatAdapter uuid) now (Related uuid user room)
      (fun dto other => requesterId = user → dto = other)
      (EditMessage.execute clock requesterId messageId body)
      (EditMessage.execute clock requesterId messageId body) left right := by
  refine coupled_message related ?_
  rintro (_ | message) _ (_ | other) _ goesOn here there answers
  · exact .fail goesOn
  · cases answers
  · cases answers
  obtain ⟨id, reads, found, rfl⟩ := findMessageById_eq_ok_iff.mp here
  obtain ⟨_, otherReads, otherFound, rfl⟩ :=
    findMessageById_eq_ok_iff.mp there
  cases otherReads.symm.trans reads
  cases (condition_of_first found :)
  have same : redact user room message = redact user room other :=
    Option.some.inj answers
  have outline := sameOutline_of_redact_eq same
  by_cases dead : message.deletedAt ≠ none
  · simp only [← outline.deletedAt, if_pos dead]
    exact .fail related
  by_cases foreign : message.senderId ≠ requesterId
  · simp only [← outline.deletedAt, if_neg dead, ← outline.senderId,
      if_pos foreign]
    exact .fail related
  simp only [← outline.deletedAt, if_neg dead, ← outline.senderId,
    if_neg foreign]
  by_cases hidden : Protected user room message
  · -- the sender is somebody else, to whom the two runs may look different
    have otherHidden : Protected user room other :=
      outline.protected_iff.mp hidden
    have others {dto otherDto : MessageDto} (own : requesterId = user) :
        dto = otherDto :=
      absurd ((not_not.mp foreign).trans own) hidden.2
    by_cases idle : message.body = body <;>
      by_cases otherIdle : other.body = body
    · simp only [if_pos idle, if_pos otherIdle]
      exact .done related others
    · simp only [if_pos idle, if_neg otherIdle]
      rw [outline.id] at reads otherFound
      -- a stored body can be stored again
      have stores : storable body = true :=
        idle ▸ related.left.storable_body (mem_of_first found)
      obtain ⟨_, _, edits, edited⟩ := related.edit_right
        { body := some body, editedAt := some (some clock) }
        stores reads otherFound otherHidden
      refine .call_right edits (.call_right rfl (.done ?_ others))
      exact { edited with right := { edited.right with } }
    · simp only [if_neg idle, if_pos otherIdle]
      have stores : storable body = true :=
        otherIdle ▸ related.right.storable_body (mem_of_first otherFound)
      obtain ⟨_, _, edits, edited⟩ := related.symm.edit_right
        { body := some body, editedAt := some (some clock) }
        stores reads found hidden
      refine .call_left edits (.call_left rfl (.done ?_ others))
      exact { edited.symm with left := { edited.right with } }
    · simp only [if_neg idle, if_neg otherIdle]
      refine coupled_message related ?_
      intro _ _ _ _ related _ _ _
      exact coupled_publish related fun _ _ related => .done related others
  · cases eq_of_redact_eq hidden same
    by_cases idle : message.body = body
    · simp only [if_pos idle]
      exact .done related fun _ => rfl
    · simp only [if_neg idle]
      refine coupled_message related ?_
      intro updated _ otherUpdated _ related edits _ answers
      refine coupled_publish related fun _ _ related => .done related ?_
      intro _
      obtain ⟨-, _, editReads, row, rowFound, rfl, -⟩ :=
        updateMessage_eq_ok_iff.mp edits
      cases editReads.symm.trans reads
      cases rowFound.symm.trans found
      exact congrArg _ (eq_of_redact_eq hidden answers)

theorem deleteMessage_coupled (related : Related uuid user room left right)
    (requesterId messageId : String) :
    Coupled (chatAdapter uuid) now (Related uuid user room) Eq
      (DeleteMessage.execute requesterId messageId)
      (DeleteMessage.execute requesterId messageId) left right := by
  refine coupled_message related ?_
  rintro (_ | message) _ (_ | other) _ related - - answers
  · exact .fail related
  · cases answers
  · cases answers
  have same : redact user room message = redact user room other :=
    Option.some.inj answers
  have outline := sameOutline_of_redact_eq same
  have sameCheck : DeleteMessage.assertMayDelete message requesterId =
      DeleteMessage.assertMayDelete other requesterId := by
    unfold DeleteMessage.assertMayDelete
    rw [outline.roomId, outline.senderId]
  by_cases dead : message.deletedAt ≠ none
  · simp only [← outline.deletedAt, if_pos dead]
    exact .fail related
  simp only [← outline.deletedAt, if_neg dead, sameCheck]
  refine .bind (coupled_messageless
    (assertMayDelete_statements (fun _ _ => trivial) _ _) related) ?_
  rintro _ _ _ _ related -
  refine coupled_message related ?_
  intro _ _ _ _ related _ _ _
  exact .call_left rfl (.call_right rfl (.done
    { related with
      left := { related.left with }
      right := { related.right with } } rfl))

/-- The rows of a page are those of its room. -/
theorem mem_page {messages : List Message} {roomId : String}
    {before : Option String} {limit : Nat} {row : Message}
    (listed : row ∈ PgMessageRepository.page messages roomId before limit) :
    row.roomId = roomId := by
  have kept := List.mem_filter.mp
    ((List.mergeSort_perm _ _).mem_iff.mp (List.mem_of_mem_take listed))
  rw [Bool.and_eq_true] at kept
  exact of_decide_eq_true kept.2.1

/-- Lists of messages that are not protected are told apart. -/
theorem eq_of_map_redact {rows others : List Message}
    (shown : ∀ row ∈ rows, ¬ Protected user room row)
    (same : rows.map (redact user room) = others.map (redact user room)) :
    rows = others := by
  induction rows generalizing others with
  | nil => exact (List.map_eq_nil_iff.mp same.symm).symm
  | cons row rest induction =>
      cases others with
      | nil => cases same
      | cons other others =>
          rw [List.map_cons, List.map_cons, List.cons.injEq] at same
          rw [eq_of_redact_eq (shown row (.head _)) same.1,
            induction (fun later member => shown later (.tail _ member))
              same.2]

theorem listMessages_coupled (related : Related uuid user room left right)
    (roomId requesterId : String) (before : Option String) (limit : Nat)
    (outside : requesterId = user → ¬ IsMember uuid left room user) :
    Coupled (chatAdapter uuid) now (Related uuid user room)
      (fun dtos others => requesterId = user → dtos = others)
      (ListMessages.execute roomId requesterId before limit)
      (ListMessages.execute roomId requesterId before limit) left right := by
  refine coupled_room related ?_
  rintro (_ | member) _ _ goesOn found
  · exact .fail goesOn
  obtain ⟨_, roomRead, _, userRead, looked, rfl⟩ :=
    getMember_eq_ok_iff.mp found
  have membership := membership_of_first roomRead userRead looked
  refine coupled_message goesOn ?_
  intro rows after others otherAfter goesOn listed _ answers
  refine .done goesOn ?_
  intro own
  obtain ⟨listedRoom, reads, cursor, -, rfl, -⟩ :=
    listByRoom_eq_ok_iff.mp listed
  have elsewhere : listedRoom ≠ room := by
    rintro rfl
    refine outside own ⟨member, membership.stored, ?_, own ▸ membership.user⟩
    exact Option.some.inj (membership.room.symm.trans reads)
  rw [eq_of_map_redact ?_ answers]
  intro row listed hidden
  exact elsewhere ((mem_page listed).symm.trans hidden.1)

theorem markAsRead_coupled (related : Related uuid user room left right)
    (userId roomId messageId : String) :
    Coupled (chatAdapter uuid) now (Related uuid user room) Eq
      (MarkAsRead.execute userId roomId messageId)
      (MarkAsRead.execute userId roomId messageId) left right := by
  refine coupled_room related ?_
  rintro (_ | member) _ _ related -
  · exact .fail related
  refine coupled_message related ?_
  rintro (_ | message) _ (_ | other) _ related - - answers
  · exact .fail related
  · cases answers
  · cases answers
  have outline : SameOutline message other :=
    sameOutline_of_redact_eq (Option.some.inj answers)
  by_cases elsewhere : message.roomId ≠ roomId
  · simp only [← outline.roomId, if_pos elsewhere]
    exact .fail related
  simp only [← outline.roomId, if_neg elsewhere]
  refine coupled_room related ?_
  intro _ _ _ related _
  have publishes : (bus.publish (.room roomId)
      (.messageRead roomId userId messageId)).Issues Messageless :=
    ⟨trivial, fun _ => trivial⟩
  exact coupled_messageless publishes related

theorem chatRequest_coupled (canonical : uuid.read user = some user)
    (related : Related uuid user room left right) (request : ChatRequest)
    (outside : requesterId request = user →
      ¬ IsMember uuid left room user) :
    Coupled (chatAdapter uuid) now (Related uuid user room)
      (fun reply other => requesterId request = user → reply = other)
      request.program request.program left right := by
  have shown {Result : Type} {change : Result → ChatReply} :
      ∀ result other, result = other → requesterId request = user →
        change result = change other :=
    fun _ _ same _ => congrArg _ same
  have shownTo {Result : Type} {change : Result → ChatReply} :
      ∀ result other, (requesterId request = user → result = other) →
        requesterId request = user → change result = change other :=
    fun _ _ same own => congrArg _ (same own)
  cases request with
  | createDirectRoom draws requesterId targetUserId =>
      exact .map (coupled_messageless
        (messageless_of_statements
          (createDirectRoom_statements draws requesterId targetUserId)) related)
        shown
  | createGroupRoom draws requesterId name memberIds =>
      exact .map (coupled_messageless
        (messageless_of_statements
          (createGroupRoom_statements draws requesterId name memberIds))
        related) shown
  | addMember clock requesterId roomId userId role =>
      exact .map (coupled_messageless
        (messageless_of_statements
          (addMember_statements clock requesterId roomId userId role)) related)
        shown
  | removeMember requesterId roomId targetUserId =>
      exact .map (coupled_messageless
        (messageless_of_statements
          (removeMember_statements requesterId roomId targetUserId)) related)
        shown
  | deleteRoom requesterId roomId =>
      exact .map (coupled_messageless
        (deleteRoom_statements (fun _ => trivial) requesterId roomId) related)
        shown
  | sendMessage draws input =>
      exact .map (sendMessage_coupled canonical related draws input) shownTo
  | editMessage clock requesterId messageId body =>
      exact .map (editMessage_coupled related clock requesterId messageId body)
        shownTo
  | deleteMessage requesterId messageId =>
      exact .map (deleteMessage_coupled related requesterId messageId) shown
  | listMessages roomId requesterId before limit =>
      exact .map (listMessages_coupled related roomId requesterId before limit
        outside) shownTo
  | markAsRead userId roomId messageId =>
      exact .map (markAsRead_coupled related userId roomId messageId) shown
  | typing userId roomId =>
      exact .map (coupled_messageless
        (handleChatTyping_statements (fun _ _ => trivial) (fun _ _ => trivial)
          userId roomId) related) shown

end Requests

end ChatBackend.Chat.CoupledRequests
