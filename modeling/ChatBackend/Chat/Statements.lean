import ChatBackend.Chat.MessageUseCases

/-!
# The statements of the use cases

Which statements a use case may issue, whatever the database answers.  What
later modules need to know of the statements of a request follows from this.
-/

namespace ChatBackend.Chat.Statements

open Effects
open Effects.Program
open ChatBackend.Chat.Store
open ChatBackend.Chat.RoomUseCases
open ChatBackend.Chat.MessageUseCases

/-! ## Memberships -/

/-- The statements that make or end memberships: new members are unread. -/
def MembershipStatement : ChatOp → Prop
  | .findUser _ => True
  | .roomRepo (.insertMember member) => member.lastReadMessageId = none
  | .roomRepo (.insertDmMembers memberA memberB) =>
      memberA.lastReadMessageId = none ∧ memberB.lastReadMessageId = none
  | .roomRepo (.setLastReadMessage _ _ _) => False
  | .roomRepo (.bumpLastMessageAt _ _) => False
  | .roomRepo (.deleteRoom _) => False
  | .roomRepo _ => True
  | _ => False

theorem createDirectRoom_statements (draws : RoomDraws)
    (requesterId targetUserId : String) :
    (CreateDirectRoom.execute draws requesterId targetUserId).Issues
      MembershipStatement := by
  apply Issues.perform_bind trivial
  rintro (_ | target)
  · trivial
  · apply Issues.perform_bind trivial
    rintro (_ | existing)
    · refine Issues.bind (Issues.perform_bind trivial ?_) fun _ => trivial
      rintro (_ | created)
      · apply Issues.perform_bind trivial
        rintro (_ | found) <;> trivial
      · exact Issues.perform_bind ⟨rfl, rfl⟩ fun _ => trivial
    · trivial

theorem findUsers_statements (ids : List String) :
    (CreateGroupRoom.findUsers ids).Issues MembershipStatement := by
  induction ids with
  | nil => trivial
  | cons id rest induction =>
      apply Issues.perform_bind trivial
      rintro (_ | user)
      · trivial
      · exact induction

theorem addMembers_statements (draws : RoomDraws) (ids : List String) :
    (CreateGroupRoom.addMembers draws ids).Issues MembershipStatement := by
  induction ids with
  | nil => trivial
  | cons id rest induction =>
      refine Issues.perform_bind ?_ fun _ => induction
      exact rfl

theorem createGroupRoom_statements (draws : RoomDraws)
    (requesterId name : String) (memberIds : List String) :
    (CreateGroupRoom.execute draws requesterId name memberIds).Issues
      MembershipStatement := by
  refine Issues.bind (findUsers_statements _) fun _ => ?_
  refine Issues.bind ?_ fun created => ?_
  · refine Issues.perform_bind trivial fun _ =>
      Issues.perform_bind ?_ fun _ => trivial
    exact rfl
  · exact Issues.bind (addMembers_statements draws _) fun _ => trivial

theorem assertRoomExists_statements (roomId : String) :
    (RoomAuthorizer.assertRoomExists roomId).Issues MembershipStatement := by
  apply Issues.perform_bind trivial
  rintro (_ | found) <;> trivial

theorem assertMember_statements (roomId userId : String) :
    (RoomAuthorizer.assertMember roomId userId).Issues
      MembershipStatement := by
  apply Issues.perform_bind trivial
  rintro (_ | found) <;> trivial

theorem addMember_statements (now : Time) (requesterId roomId userId : String)
    (role : RoomRole) :
    (AddMember.execute now requesterId roomId userId role).Issues
      MembershipStatement := by
  refine Issues.bind (assertRoomExists_statements roomId) fun _ => ?_
  refine Issues.bind ?_ fun _ => ?_
  · refine Issues.bind (assertMember_statements roomId requesterId) ?_
    intro member
    split_ifs <;> trivial
  · apply Issues.perform_bind trivial
    rintro (_ | user)
    · trivial
    · apply Issues.perform_bind trivial
      rintro (_ | present)
      · refine Issues.perform_bind ?_ fun _ => trivial
        exact rfl
      · trivial

theorem removeMember_statements (requesterId roomId targetUserId : String) :
    (RemoveMember.execute requesterId roomId targetUserId).Issues
      MembershipStatement := by
  refine Issues.bind (assertRoomExists_statements roomId) fun _ => ?_
  apply Issues.perform_bind trivial
  rintro (_ | target)
  · trivial
  · by_cases self : requesterId = targetUserId
    · simp only [if_pos self]
      exact ⟨trivial, fun _ => trivial⟩
    · simp only [if_neg self]
      apply Issues.perform_bind trivial
      rintro (_ | requester)
      · trivial
      · dsimp only
        split_ifs
        · trivial
        · trivial
        · trivial
        · exact ⟨trivial, fun _ => trivial⟩

/-- The end of a room, with its messages, takes statements on rooms only. -/
theorem deleteRoom_statements {condition : ChatOp → Prop}
    (rooms : ∀ op, condition (.roomRepo op)) (requesterId roomId : String) :
    (DeleteRoom.execute requesterId roomId).Issues condition := by
  have found : (RoomAuthorizer.assertRoomExists roomId).Issues condition := by
    apply Issues.perform_bind (rooms _)
    rintro (_ | room) <;> trivial
  have member : (RoomAuthorizer.assertMember roomId requesterId).Issues
      condition := by
    apply Issues.perform_bind (rooms _)
    rintro (_ | member) <;> trivial
  have deletes (_ : RoomMember) :
      (roomRepo.deleteRoom roomId).Issues condition :=
    ⟨rooms _, fun _ => trivial⟩
  apply Issues.bind found
  intro room
  dsimp only
  cases room.kind with
  | dm => exact Issues.bind member deletes
  | group =>
      refine Issues.bind (Issues.bind member ?_) deletes
      intro requester
      split_ifs <;> trivial

/-! ## Messages -/

/-- The statements of a send: it stores its message and bumps to its time. -/
def SendStatement (draws : SendMessage.Draws) (input : SendMessage.Input) :
    ChatOp → Prop
  | .roomRepo (.getMember _ _) => True
  | .roomRepo (.bumpLastMessageAt _ at_) => at_ = draws.now
  | .messageRepo (.insert message) =>
      message = SendMessage.newMessage draws input
  | .headObject _ => True
  | .publish _ _ => True
  | _ => False

section Conditions

variable {condition : ChatOp → Prop}

theorem checkAttachment_statements
    (looks : ∀ key, condition (.headObject key))
    (attachmentKey : Option String) :
    (SendMessage.checkAttachment attachmentKey).Issues condition := by
  unfold SendMessage.checkAttachment
  cases attachmentKey.filter fun key => key ≠ "" with
  | none => trivial
  | some key =>
      apply Issues.perform_bind (looks key)
      intro present
      cases present <;> trivial

theorem editMessage_statements
    (finds : ∀ id, condition (.messageRepo (.findById id)))
    (updates : ∀ id patch, condition (.messageRepo (.update id patch)))
    (publishes : ∀ channel event, condition (.publish channel event))
    (now : Time) (requesterId messageId body : String) :
    (EditMessage.execute now requesterId messageId body).Issues condition := by
  apply Issues.perform_bind (finds messageId)
  rintro (_ | msg)
  · trivial
  · dsimp only
    split_ifs
    · trivial
    · trivial
    · trivial
    · apply Issues.perform_bind (updates _ _)
      intro updated
      exact Issues.perform_bind (publishes _ _) fun _ => trivial

theorem assertMayDelete_statements
    (looks : ∀ roomId userId, condition (.roomRepo (.getMember roomId userId)))
    (msg : Message) (requesterId : String) :
    (DeleteMessage.assertMayDelete msg requesterId).Issues condition := by
  unfold DeleteMessage.assertMayDelete
  split_ifs
  · apply Issues.perform_bind (looks _ _)
    rintro (_ | member)
    · trivial
    · dsimp only
      split_ifs <;> trivial
  · trivial

theorem deleteMessage_statements
    (finds : ∀ id, condition (.messageRepo (.findById id)))
    (looks : ∀ roomId userId, condition (.roomRepo (.getMember roomId userId)))
    (blanks : ∀ id, condition (.messageRepo (.softDelete id)))
    (publishes : ∀ channel event, condition (.publish channel event))
    (requesterId messageId : String) :
    (DeleteMessage.execute requesterId messageId).Issues condition := by
  apply Issues.perform_bind (finds messageId)
  rintro (_ | msg)
  · trivial
  · dsimp only
    split_ifs
    · trivial
    · apply Issues.bind (assertMayDelete_statements looks msg requesterId)
      intro _
      apply Issues.perform_bind (blanks messageId)
      intro _
      exact ⟨publishes _ _, fun _ => trivial⟩

theorem markAsRead_statements
    (looks : ∀ roomId userId, condition (.roomRepo (.getMember roomId userId)))
    (finds : ∀ id, condition (.messageRepo (.findById id)))
    (marks : ∀ roomId userId messageId,
      condition (.roomRepo (.setLastReadMessage roomId userId messageId)))
    (publishes : ∀ channel event, condition (.publish channel event))
    (userId roomId messageId : String) :
    (MarkAsRead.execute userId roomId messageId).Issues condition := by
  apply Issues.perform_bind (looks roomId userId)
  rintro (_ | member)
  · trivial
  · apply Issues.perform_bind (finds messageId)
    rintro (_ | msg)
    · trivial
    · dsimp only
      split_ifs
      · trivial
      · apply Issues.perform_bind (marks roomId userId messageId)
        intro _
        exact ⟨publishes _ _, fun _ => trivial⟩

theorem handleChatTyping_statements
    (looks : ∀ roomId userId, condition (.roomRepo (.getMember roomId userId)))
    (publishes : ∀ channel event, condition (.publish channel event))
    (userId roomId : String) :
    (handleChatTyping userId roomId).Issues condition := by
  apply Issues.perform_bind (looks roomId userId)
  rintro (_ | member)
  · trivial
  · exact Issues.perform_bind (publishes _ _) fun _ => trivial

end Conditions

theorem sendMessage_statements (draws : SendMessage.Draws)
    (input : SendMessage.Input) :
    (SendMessage.execute draws input).Issues (SendStatement draws input) := by
  apply Issues.perform_bind trivial
  rintro (_ | member)
  · trivial
  · refine Issues.bind (checkAttachment_statements (fun _ => trivial) _) ?_
    intro _
    refine Issues.perform_bind ?_ fun msg => Issues.perform_bind ?_ fun _ => ?_
    · exact rfl
    · exact rfl
    · exact Issues.perform_bind trivial fun _ => trivial

end ChatBackend.Chat.Statements
