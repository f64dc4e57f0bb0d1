import ChatBackend.Chat.MessageIntegrity
import ChatBackend.Chat.Statements
import ChatBackend.Effects.Conduct

/-!
# Sends that are repeated

A client that has no answer sends its message again under the same client
message id, and the first send may still be on its way.  Whatever else goes on,
all sends of a user under one client message id that return, return the one
message that is stored under it, and sends that do not belong together return
different messages.

Rooms are not deleted meanwhile: with a room its messages go, and what was sent
can be sent anew.
-/

namespace ChatBackend.Chat.IdempotentSends

open Effects
open Relational
open Effects.Program
open ChatBackend.Chat.Store
open ChatBackend.Chat.Schema
open ChatBackend.Chat.RoomUseCases
open ChatBackend.Chat.MessageUseCases
open ChatBackend.Chat.Requests
open ChatBackend.Chat.Statements
open ChatBackend.Chat.MessageIntegrity (SameOrigin)

/-! ## Overlapping requests -/

/-- The tables and the requests on their way. -/
abbrev ChatConfig (Name : Type*) :=
  Config Name ChatPort ChatState Failure ChatReply

/-- The requests before any of them has taken a turn. -/
def begin {Name : Type*} (start : ChatState) (calls : Name → ChatRequest) :
    ChatConfig Name where
  shared := start
  threads name := (calls name).program

/-- The request is a send of the input, and what it has returned. -/
structure Returned {Name : Type*} (calls : Name → ChatRequest)
    (config : ChatConfig Name) (name : Name) (draws : SendMessage.Draws)
    (input : SendMessage.Input) (dto : MessageDto) : Prop where
  call : calls name = .sendMessage draws input
  result : (config.threads name).result? = some (.message dto)

/-! ## The property -/

/-- Sends of one user under one client message id. -/
def Repeats (uuid : PgUuid) (input other : SendMessage.Input) : Prop :=
  input.clientMessageId ≠ none ∧
    input.clientMessageId = other.clientMessageId ∧
      uuid.read input.senderId = uuid.read other.senderId

/-- The stored message that a send is about. -/
structure Records (uuid : PgUuid) (draws : SendMessage.Draws)
    (input : SendMessage.Input) (dto : MessageDto) (row : Message) : Prop where
  id : row.id = dto.id
  sender : uuid.read input.senderId = some row.senderId
  clientMessageId : row.clientMessageId = input.clientMessageId
  /-- Without a client message id, a send stores a message of its own. -/
  drawn : input.clientMessageId = none → uuid.read draws.id = some row.id

/-- The ids of the messages that are stored for a send under its client message
id. -/
def storedFor (uuid : PgUuid) (input : SendMessage.Input) (state : ChatState) :
    List String :=
  (state.messages.filter fun row =>
    decide (row.clientMessageId = input.clientMessageId ∧
      uuid.read input.senderId = some row.senderId)).map fun row => row.id

/-! ## What the requests allow each other -/

/-- Messages keep their origin. -/
def MessagesLast (state after : ChatState) : Prop :=
  ∀ message ∈ state.messages, ∃ later ∈ after.messages,
    SameOrigin message later

/-- The tables conform, and messages keep their origin. -/
def conduct (uuid : PgUuid) : Conduct ChatState where
  invariant := Conforms uuid
  allows := MessagesLast
  refl _ message stored := ⟨message, stored, .refl message⟩
  trans _ _ _ first second message stored := by
    obtain ⟨later, storedLater, same⟩ := first message stored
    obtain ⟨last, storedLast, sameLast⟩ := second later storedLater
    exact ⟨last, storedLast, sameLast.id.trans same.id,
      sameLast.roomId.trans same.roomId,
      sameLast.senderId.trans same.senderId,
      sameLast.clientMessageId.trans same.clientMessageId,
      sameLast.createdAt.trans same.createdAt⟩

/-- All statements but the deletion of a room. -/
def KeepsRooms : ChatOp → Prop
  | .roomRepo (.deleteRoom _) => False
  | _ => True

section Statements

variable {uuid : PgUuid} {now : Time} {state after : ChatState}

theorem messagesLast_update {id : String} {change : Message → Message}
    (origin : ∀ message, SameOrigin message (change message))
    (updated : after.messages =
      updateWhere (fun row => row.id = id) change state.messages) :
    MessagesLast state after := by
  intro message stored
  refine ⟨_, updated ▸ mem_updateWhere.mpr ⟨message, stored, rfl⟩, ?_⟩
  split_ifs
  · exact origin message
  · exact .refl message

/-- A statement observes the conduct. -/
theorem conduct_observed (op : ChatOp) (keeps : KeepsRooms op) (now : Time)
    (state : ChatState) (answer : op.Answer) (after : ChatState)
    (conforms : (conduct uuid).invariant state)
    (answered : chatAdapter uuid op now state = .ok (answer, after)) :
    (conduct uuid).invariant after ∧ (conduct uuid).allows state after := by
  refine ⟨Conforms.statement conforms answered, ?_⟩
  have change := messageChange answered
  generalize messages : after.messages = rows at change
  cases change with
  | kept =>
      intro message stored
      exact ⟨message, messages ▸ stored, .refl message⟩
  | inserted sent row reads =>
      intro message stored
      exact ⟨message, messages ▸ List.mem_append_left _ stored, .refl message⟩
  | patched spelled id patch reads stores =>
      exact messagesLast_update
        (MessageIntegrity.sameOrigin_patchMessage patch) messages
  | blanked spelled id reads =>
      exact messagesLast_update (MessageIntegrity.sameOrigin_blank now) messages
  | removed spelled room reads => exact keeps.elim

theorem keepsRooms_of_membership {op : ChatOp}
    (statement : MembershipStatement op) : KeepsRooms op := by
  cases op with
  | roomRepo op => cases op <;> first | exact trivial | exact statement
  | _ => trivial

theorem keepsRooms_of_send {draws : SendMessage.Draws}
    {input : SendMessage.Input} {op : ChatOp}
    (statement : SendStatement draws input op) : KeepsRooms op := by
  cases op with
  | roomRepo op => cases op <;> first | exact trivial | exact statement
  | _ => trivial

/-- Only the deletion of a room deletes a room. -/
theorem request_keepsRooms {request : ChatRequest}
    (stays : ∀ requesterId roomId, request ≠ .deleteRoom requesterId roomId) :
    request.program.Issues KeepsRooms := by
  have joins (op : ChatOp) := @keepsRooms_of_membership op
  have sends (draws : SendMessage.Draws) (input : SendMessage.Input)
      (op : ChatOp) := @keepsRooms_of_send draws input op
  cases request with
  | createDirectRoom draws requesterId targetUserId =>
      exact ((createDirectRoom_statements _ _ _).imp joins).map
  | createGroupRoom draws requesterId name memberIds =>
      exact ((createGroupRoom_statements _ _ _ _).imp joins).map
  | addMember now requesterId roomId userId role =>
      exact ((addMember_statements _ _ _ _ _).imp joins).map
  | removeMember requesterId roomId targetUserId =>
      exact ((removeMember_statements _ _ _).imp joins).map
  | deleteRoom requesterId roomId => exact absurd rfl (stays _ _)
  | sendMessage draws input =>
      exact ((sendMessage_statements draws input).imp (sends draws input)).map
  | editMessage now requesterId messageId body =>
      exact (editMessage_statements (fun _ => trivial) (fun _ _ => trivial)
        (fun _ _ => trivial) _ _ _ _).map
  | deleteMessage requesterId messageId =>
      exact (deleteMessage_statements (fun _ => trivial) (fun _ _ => trivial)
        (fun _ => trivial) (fun _ _ => trivial) _ _).map
  | listMessages roomId requesterId before limit =>
      refine Issues.map (Issues.perform_bind trivial ?_)
      rintro (_ | member)
      · trivial
      · exact Issues.perform_bind trivial fun _ => trivial
  | markAsRead userId roomId messageId =>
      exact (markAsRead_statements (fun _ _ => trivial) (fun _ => trivial)
        (fun _ _ _ => trivial) (fun _ _ => trivial) _ _ _).map
  | typing userId roomId =>
      exact (handleChatTyping_statements (fun _ _ => trivial)
        (fun _ _ => trivial) _ _).map

end Statements

/-! ## What a send is assured of -/

section Sends

variable {uuid : PgUuid} {now : Time} {state after : ChatState}
  {draws : SendMessage.Draws} {input : SendMessage.Input} {dto : MessageDto}

/-- A send that returns has its message among those that are stored. -/
def Recorded (uuid : PgUuid) (draws : SendMessage.Draws)
    (input : SendMessage.Input) (dto : MessageDto) (state : ChatState) : Prop :=
  ∃ row ∈ state.messages, Records uuid draws input dto row

theorem recorded_stable :
    (conduct uuid).Stable (Recorded uuid draws input) := by
  rintro dto before after lasts ⟨row, stored, records⟩
  obtain ⟨later, storedLater, same⟩ := lasts row stored
  exact ⟨later, storedLater,
    { id := same.id.trans records.id
      sender := records.sender.trans (congrArg some same.senderId.symm)
      clientMessageId := same.clientMessageId.trans records.clientMessageId
      drawn := fun without =>
        (records.drawn without).trans (congrArg some same.id.symm) }⟩

/-- The insertion answers with the message that is stored for the send. -/
theorem records_insert {msg : Message}
    (inserted : chatAdapter uuid
      (.messageRepo (.insert (SendMessage.newMessage draws input))) now state =
        .ok (msg, after)) :
    msg ∈ after.messages ∧ Records uuid draws input msg.toMessageDto msg := by
  obtain ⟨row, reads, stores⟩ := insertMessage_eq_ok_iff.mp inserted
  obtain ⟨id, drawn, room, -, sender, senderRead, -, rfl⟩ :=
    readMessage_eq_ok_iff.mp reads
  rcases stores with ⟨known, rfl⟩ | ⟨-, -, rfl, rfl⟩
  · obtain ⟨given, sameSender, sameKey⟩ := condition_of_first known
    refine ⟨mem_of_first known, rfl, ?_, sameKey, fun without => ?_⟩
    · exact senderRead.trans (congrArg some sameSender.symm)
    · exact absurd (sameKey.trans without) given
  · exact ⟨List.mem_append_right _ (List.mem_singleton_self _), rfl, senderRead,
      rfl, fun _ => drawn⟩

theorem sendMessage_assured :
    (conduct uuid).Assured (chatAdapter uuid) (Recorded uuid draws input)
      (SendMessage.execute draws input) state := by
  have looks {roomId userId : String} (now : Time) (later : ChatState)
      (answer : Option RoomMember) (after : ChatState)
      (answered : chatAdapter uuid (.roomRepo (.getMember roomId userId)) now
        later = .ok (answer, after)) : after = later := by
    obtain ⟨_, -, _, -, -, same⟩ := getMember_eq_ok_iff.mp answered
    exact same.symm
  refine Conduct.Assured.look looks fun later _ _ now member _ => ?_
  cases member with
  | none => trivial
  | some member =>
      have checks : (SendMessage.checkAttachment input.attachmentKey).Issues
          KeepsRooms := checkAttachment_statements (fun _ => trivial) _
      refine (Conduct.Assured.of_issues checks
        conduct_observed).bind fun _ state _ => ?_
      intro later _ holds now msg after inserted
      obtain ⟨kept, lasts⟩ := conduct_observed
        (.messageRepo (.insert _)) trivial now later msg after holds inserted
      refine ⟨kept, lasts, ?_⟩
      have rest : (roomRepo.bumpLastMessageAt input.roomId draws.now >>=
          fun _ => bus.publish (.room input.roomId) (.messageCreated
            msg.toMessageDto input.refId input.senderId)).Issues KeepsRooms :=
        ⟨trivial, fun _ => ⟨trivial, fun _ => trivial⟩⟩
      exact Conduct.Assured.finish rest conduct_observed recorded_stable
        ⟨msg, records_insert inserted⟩

/-- What a request may end with. -/
def Post (uuid : PgUuid) (request : ChatRequest) (reply : ChatReply)
    (state : ChatState) : Prop :=
  ∀ draws input dto, request = .sendMessage draws input →
    reply = .message dto → Recorded uuid draws input dto state

theorem post_stable (request : ChatRequest) :
    (conduct uuid).Stable (Post uuid request) :=
  fun _ before after lasts holds draws input dto sends replies =>
    recorded_stable dto before after lasts (holds draws input dto sends replies)

theorem request_assured {request : ChatRequest}
    (stays : ∀ requesterId roomId, request ≠ .deleteRoom requesterId roomId)
    (state : ChatState) :
    (conduct uuid).Assured (chatAdapter uuid) (Post uuid request)
      request.program state := by
  by_cases sends : ∃ draws input, request = .sendMessage draws input
  · obtain ⟨draws, input, rfl⟩ := sends
    refine sendMessage_assured.map fun dto state recorded => ?_
    rintro _ _ _ ⟨⟩ ⟨⟩
    exact recorded
  · refine (Conduct.Assured.of_issues (request_keepsRooms stays)
      conduct_observed).imp fun reply state _ => ?_
    intro draws input dto same _
    exact absurd ⟨draws, input, same⟩ sends

end Sends

/-! ## Interleavings -/

section Interleavings

variable {Name : Type*} [DecidableEq Name] {uuid : PgUuid} {start : ChatState}
  {calls : Name → ChatRequest} {schedule : List (Name × Time)}

theorem orderly_play (conforms : Conforms uuid start)
    (stay : ∀ name requesterId roomId,
      calls name ≠ .deleteRoom requesterId roomId) :
    Conduct.Orderly (conduct uuid) (chatAdapter uuid)
      (fun name => Post uuid (calls name))
      ((begin start calls).play (chatAdapter uuid) schedule) := by
  have assured : Conduct.Orderly (conduct uuid) (chatAdapter uuid)
      (fun name => Post uuid (calls name)) (begin start calls) :=
    { holds := conforms
      assured := fun name => request_assured (stay name) start }
  exact assured.play (fun name => post_stable (calls name)) schedule

variable {config : ChatConfig Name} {name other : Name}
  {draws otherDraws : SendMessage.Draws} {input otherInput : SendMessage.Input}
  {dto otherDto : MessageDto}

omit [DecidableEq Name] in
/-- A send that has returned has its message stored. -/
theorem Returned.recorded
    (returned : Returned calls config name draws input dto)
    (orderly : Conduct.Orderly (conduct uuid) (chatAdapter uuid)
      (fun name => Post uuid (calls name)) config) :
    Recorded uuid draws input dto config.shared :=
  (orderly.assured name).result returned.result draws input dto returned.call
    rfl

theorem sameClientKey_symm (left right : Message)
    (clash : PgMessageRepository.sameClientKey left right) :
    PgMessageRepository.sameClientKey right left :=
  ⟨fun without => clash.1 (clash.2.2.trans without), clash.2.1.symm,
    clash.2.2.symm⟩

/-- The stored messages of two sends are one exactly if the sends repeat. -/
theorem records_same_iff {state : ChatState} (conforms : Conforms uuid state)
    {row found : Message} (stored : row ∈ state.messages)
    (foundStored : found ∈ state.messages)
    (records : Records uuid draws input dto row)
    (others : Records uuid otherDraws otherInput otherDto found)
    (apart : uuid.read draws.id ≠ uuid.read otherDraws.id) :
    dto.id = otherDto.id ↔ Repeats uuid input otherInput := by
  rw [← records.id, ← others.id]
  constructor
  · intro same
    have equal : row = found :=
      conforms.messageIds.eq_of_key stored foundStored same
    subst equal
    have sameKey : input.clientMessageId = otherInput.clientMessageId :=
      records.clientMessageId.symm.trans others.clientMessageId
    refine ⟨fun without => apart ?_, sameKey,
      records.sender.trans others.sender.symm⟩
    exact (records.drawn without).trans
      (others.drawn (sameKey ▸ without)).symm
  · rintro ⟨given, sameKey, sameSender⟩
    have clash : PgMessageRepository.sameClientKey row found := by
      refine ⟨fun without => given ?_, ?_, ?_⟩
      · exact records.clientMessageId.symm.trans without
      · exact Option.some.inj
          (records.sender.symm.trans (sameSender.trans others.sender))
      · exact records.clientMessageId.trans
          (sameKey.trans others.clientMessageId.symm)
    exact congrArg (fun message : Message => message.id)
      (Unclashing.eq_of_clash conforms.clientKeys sameClientKey_symm stored
        foundStored clash)

theorem Records.storedFor_eq {state : ChatState}
    (conforms : Conforms uuid state) {row : Message}
    (stored : row ∈ state.messages) (records : Records uuid draws input dto row)
    (given : input.clientMessageId ≠ none) :
    storedFor uuid input state = [dto.id] := by
  unfold storedFor
  rw [conforms.clientKeys.filter_eq_singleton ?_ stored
    ⟨records.clientMessageId, records.sender⟩, List.map_singleton, records.id]
  intro left right keyed otherKeyed
  refine ⟨fun without => given (keyed.1.symm.trans without), ?_,
    keyed.1.trans otherKeyed.1.symm⟩
  exact Option.some.inj (keyed.2.symm.trans otherKeyed.2)

/-- Whatever requests overlap, none of which deletes a room, two sends that have
returned have returned the same message exactly if they are sends of one user
under one client message id, and that message is the only one that is stored
under it. -/
theorem sends_idempotent (conforms : Conforms uuid start)
    (stay : ∀ name requesterId roomId,
      calls name ≠ .deleteRoom requesterId roomId)
    (schedule : List (Name × Time))
    (returned : Returned calls
      ((begin start calls).play (chatAdapter uuid) schedule) name draws input
      dto)
    (otherReturned : Returned calls
      ((begin start calls).play (chatAdapter uuid) schedule) other otherDraws
      otherInput otherDto)
    (apart : uuid.read draws.id ≠ uuid.read otherDraws.id) :
    (dto.id = otherDto.id ↔ Repeats uuid input otherInput) ∧
      (input.clientMessageId ≠ none →
        storedFor uuid input
            ((begin start calls).play (chatAdapter uuid) schedule).shared =
          [dto.id]) := by
  have orderly : Conduct.Orderly (conduct uuid) (chatAdapter uuid)
      (fun name => Post uuid (calls name))
      ((begin start calls).play (chatAdapter uuid) schedule) :=
    orderly_play conforms stay
  obtain ⟨row, stored, records⟩ := returned.recorded orderly
  obtain ⟨found, foundStored, others⟩ := otherReturned.recorded orderly
  constructor
  · exact records_same_iff orderly.holds stored foundStored records others apart
  · exact records.storedFor_eq orderly.holds stored

end Interleavings

/-! ## A send that is repeated before it is answered -/

def sampleInput : SendMessage.Input where
  roomId := sampleRoomId
  senderId := sampleOwner
  body := "hello"
  clientMessageId := some "retry"

/-- The owner sends a message twice; all others read the room. -/
def sampleCalls : Nat → ChatRequest
  | 0 => .sendMessage { id := sampleMessageId, now := 2 } sampleInput
  | 1 => .sendMessage { id := sampleNextMessageId, now := 3 } sampleInput
  | _ => .listMessages sampleRoomId sampleOwner none 50

def openGroup : List (ChatRequest × Time) :=
  [(.createGroupRoom { id := sampleRoomId, now := 1 } sampleOwner "team" [], 1)]

def oneGroup : ChatState :=
  Transition.run (serve samplePgUuid) (sampleTables [sampleOwner]) openGroup

/-- Both sends look up the sender before either stores the message. -/
def crossing : List (Nat × Time) :=
  [(0, 2), (1, 2), (1, 3), (2, 3), (0, 3), (0, 4), (1, 4), (2, 4), (0, 5),
    (1, 5)]

def crossed : ChatConfig Nat :=
  (begin oneGroup sampleCalls).play (chatAdapter samplePgUuid) crossing

/-- The message that the second send has stored. -/
def sampleDto : MessageDto where
  id := sampleNextMessageId
  roomId := sampleRoomId
  senderId := sampleOwner
  body := "hello"
  attachmentKey := none
  attachmentMeta := none
  editedAt := none
  deletedAt := none
  createdAt := 3

theorem sends_idempotent_crossed :
    storedFor samplePgUuid sampleInput crossed.shared =
      [sampleNextMessageId] := by
  have conforms : Conforms samplePgUuid oneGroup :=
    ((sound_sampleTables samplePgUuid [sampleOwner]).run openGroup).toConforms
  have stay (name : Nat) (requesterId roomId : String) :
      sampleCalls name ≠ .deleteRoom requesterId roomId := by
    intro deletes
    match name with
    | 0 => cases deletes
    | 1 => cases deletes
    | _ + 2 => cases deletes
  have first : Returned sampleCalls crossed 0 _ sampleInput sampleDto :=
    ⟨rfl, by decide +kernel⟩
  have second : Returned sampleCalls crossed 1 _ sampleInput sampleDto :=
    ⟨rfl, by decide +kernel⟩
  exact (sends_idempotent conforms stay crossing first second
    (by decide +kernel)).2 (Option.some_ne_none _)

end ChatBackend.Chat.IdempotentSends
