import ChatBackend.Chat.CoupledRequests
import ChatBackend.Chat.Payloads
import ChatBackend.Chat.RoomActions
import ChatBackend.Effects.Traces

/-!
# Stored attachments

A send asks the object storage for the key of its attachment, unless the key is
empty, and stores every key that it is given.  Both schemas admit an empty key,
so that one is stored without having been asked for.

Requests of any kind are interleaved operation by operation.  What the storage
answers comes from outside, and so does what breaks an operation.
-/

namespace ChatBackend.Chat.StoredAttachments

open Effects
open Effects.Program
open Relational
open ChatBackend.Chat.Store
open ChatBackend.Chat.Schema
open ChatBackend.Chat.RoomUseCases
open ChatBackend.Chat.MessageUseCases
open ChatBackend.Chat.Statements
open ChatBackend.Chat.Requests
open ChatBackend.Chat.Payloads
open ChatBackend.Chat.RoomActions (IsMember)
open Transition
open Text (Json)

/-! ## Runs -/

/-- What the surroundings contribute to an operation. -/
structure Moment where
  now : Time
  /-- What `headObject` answers. -/
  stored : String → Bool
  /-- What breaks the operation, if anything does. -/
  failure : Option Failure

/-- The chat port, where the object storage is elsewhere. -/
def storageAdapter (uuid : PgUuid) :
    Adapter ChatPort Moment ChatState Failure := fun op moment state =>
  match moment.failure with
  | some failure => .error failure
  | none =>
      match op with
      | .headObject key => .ok (moment.stored key, state)
      | op => chatAdapter uuid op moment.now state

variable {Name : Type}

/-- Requests that are about to start. -/
def started (tables : ChatState) (requests : Name → ChatRequest) :
    Config Name ChatPort ChatState Failure ChatReply where
  shared := tables
  threads name := (requests name).program

/-! ## Specification -/

section Specification

variable [DecidableEq Name] (uuid : PgUuid) (requests : Name → ChatRequest)
  (tables : ChatState) (schedule : List (Name × Moment))

/-- The tables after the schedule. -/
def tablesAfter : ChatState :=
  ((started tables requests).play (storageAdapter uuid) schedule).shared

def Holds (state : ChatState) (id : String) : Prop :=
  ∃ message ∈ state.messages, message.id = id

/--
In a turn of a send, the message of the id was inserted with the key, and it has
been in the table since.
-/
structure Inserted (id key : String) (name : Name)
    (before : List (Name × Moment)) : Prop where
  send : ∃ draws input, requests name = .sendMessage draws input ∧
    input.attachmentKey = some key
  fresh : ¬ Holds (tablesAfter uuid requests tables before) id
  turn : ∃ moment later, schedule = before ++ (name, moment) :: later ∧
    (∃ message ∈ (tablesAfter uuid requests tables
        (before ++ [(name, moment)])).messages,
      message.id = id ∧ message.attachmentKey = some key) ∧
    ∀ since, since <+: later →
      Holds (tablesAfter uuid requests tables
        (before ++ (name, moment) :: since)) id

/-- The send that inserted the message had been told that the key exists. -/
def Confirmed (id key : String) : Prop :=
  ∃ name before, Inserted uuid requests tables schedule id key name before ∧
    ∃ moment, (started tables requests).Performs (storageAdapter uuid) before
      name (.headObject key) moment true

end Specification

/--
In the turn the sender of a message with the empty key is looked up among the
members of the room, and is one.
-/
def AdmitsEmptyKey (uuid : PgUuid) (requests : Name → ChatRequest)
    (config : Config Name ChatPort ChatState Failure ChatReply)
    (turn : Name × Moment) : Prop :=
  ∃ draws input, requests turn.1 = .sendMessage draws input ∧
    input.attachmentKey = some "" ∧
      config.pending turn.1 =
          some (.roomRepo (.getMember input.roomId input.senderId)) ∧
        ∃ room, uuid.read input.roomId = some room ∧
          IsMember uuid config.shared room input.senderId

/-! ## What requests ask and insert -/

/-- The storage has been asked for the key, unless it is empty. -/
def Asked (trace : Trace ChatPort) (attachmentKey : Option String) : Prop :=
  ∀ key, attachmentKey = some key → key ≠ "" →
    (⟨.headObject key, true⟩ : Σ op : ChatOp, op.Answer) ∈ trace

/-- The sender has been found among the members of the room. -/
def Admitted (input : SendMessage.Input) (trace : Trace ChatPort) : Prop :=
  ∃ member,
    (⟨.roomRepo (.getMember input.roomId input.senderId), some member⟩ :
      Σ op : ChatOp, op.Answer) ∈ trace

/--
Only a send inserts, and only its message, when it has found its sender and
asked for its key.
-/
def Allowed (request : ChatRequest) (trace : Trace ChatPort) : ChatOp → Prop
  | .messageRepo (.insert message) => ∃ draws input,
      request = .sendMessage draws input ∧
        message = SendMessage.newMessage draws input ∧
          Admitted input trace ∧ Asked trace input.attachmentKey
  | .headObject key => key ≠ ""
  | _ => True

/-- The operations of the requests that send nothing. -/
def Sendless : ChatOp → Prop
  | .messageRepo (.insert _) => False
  | .headObject _ => False
  | _ => True

section Programs

variable {request : ChatRequest} {trace : Trace ChatPort}

theorem allowed_of_sendless {op : ChatOp} (sendless : Sendless op) :
    Allowed request trace op := by
  cases op with
  | messageRepo op =>
      cases op with
      | insert message => exact sendless.elim
      | _ => trivial
  | headObject key => exact sendless.elim
  | _ => trivial

/-- The check of an attachment asks for the key that it lets pass. -/
theorem checkAttachment_concludes (attachmentKey : Option String) :
    (SendMessage.checkAttachment attachmentKey).Concludes
      (fun trace outcome => outcome = .ok () → Asked trace attachmentKey)
      trace := by
  unfold SendMessage.checkAttachment
  cases attachmentKey with
  | none =>
      intro _ key given
      cases given
  | some key =>
      by_cases empty : key = ""
      · rw [Option.filter_some, if_neg (by simp [empty])]
        intro _ other given notEmpty
        cases given
        exact absurd empty notEmpty
      · rw [Option.filter_some, if_pos (by simpa using empty)]
        intro present
        cases present with
        | false =>
            intro passed
            cases passed
        | true =>
            intro _ other given _
            cases given
            exact List.mem_append_right _ (List.mem_singleton_self _)

/-- Who has been found stays so, whatever is issued. -/
theorem admitted_concludes {Result : Type} {input : SendMessage.Input}
    (program : ChatProgram Result) (admitted : Admitted input trace) :
    program.Concludes (fun trace _ => Admitted input trace) trace := by
  have anything : program.Issues fun _ => True :=
    issues_of_forall (fun _ => trivial) program
  refine anything.concludes ?_ admitted
  rintro op - answer trace ⟨member, listed⟩
  exact ⟨member, List.mem_append_left _ listed⟩

theorem checkAttachment_heeds (attachmentKey : Option String) :
    (SendMessage.checkAttachment attachmentKey).Heeds (Allowed request)
      trace := by
  unfold SendMessage.checkAttachment
  cases attachmentKey with
  | none => trivial
  | some key =>
      by_cases empty : key = ""
      · rw [Option.filter_some, if_neg (by simp [empty])]
        trivial
      · rw [Option.filter_some, if_pos (by simpa using empty)]
        refine Heeds.perform_bind empty fun present => ?_
        cases present <;> trivial

theorem sendMessage_heeds (draws : SendMessage.Draws)
    (input : SendMessage.Input) :
    (SendMessage.execute draws input).Heeds
      (Allowed (.sendMessage draws input)) trace := by
  refine Heeds.perform_bind trivial fun member => ?_
  cases member with
  | none => trivial
  | some member =>
      have found : Admitted input (trace ++ [⟨.roomRepo
          (.getMember input.roomId input.senderId), some member⟩]) :=
        ⟨member, List.mem_append_right trace (List.mem_singleton_self _)⟩
      refine Heeds.bind (checkAttachment_heeds _)
        ((checkAttachment_concludes input.attachmentKey).and
          (admitted_concludes _ found)) ?_
      rintro trace result ⟨asked, admitted⟩
      refine Heeds.perform_bind
        ⟨draws, input, rfl, rfl, admitted, asked rfl⟩ fun stored => ?_
      exact Heeds.perform_bind trivial fun _ =>
        Heeds.perform_bind trivial fun _ => trivial

theorem sendless_of_statements {Result : Type} {program : ChatProgram Result}
    (statements : program.Issues MembershipStatement) :
    program.Issues Sendless := by
  refine statements.imp fun op statement => ?_
  cases op with
  | messageRepo op => exact statement.elim
  | headObject key => exact statement
  | _ => trivial

theorem sendless_of_not_send {request : ChatRequest}
    (other : ∀ draws input, request ≠ .sendMessage draws input) :
    request.program.Issues Sendless := by
  cases request with
  | sendMessage draws input => exact absurd rfl (other draws input)
  | createDirectRoom draws requesterId targetUserId =>
      exact (sendless_of_statements
        (createDirectRoom_statements draws requesterId targetUserId)).map
  | createGroupRoom draws requesterId name memberIds =>
      exact (sendless_of_statements
        (createGroupRoom_statements draws requesterId name memberIds)).map
  | addMember now requesterId roomId userId role =>
      exact (sendless_of_statements
        (addMember_statements now requesterId roomId userId role)).map
  | removeMember requesterId roomId targetUserId =>
      exact (sendless_of_statements
        (removeMember_statements requesterId roomId targetUserId)).map
  | deleteRoom requesterId roomId =>
      exact (deleteRoom_statements (fun _ => trivial) requesterId roomId).map
  | editMessage now requesterId messageId body =>
      exact (editMessage_statements (fun _ => trivial) (fun _ _ => trivial)
        (fun _ _ => trivial) now requesterId messageId body).map
  | deleteMessage requesterId messageId =>
      exact (deleteMessage_statements (fun _ => trivial) (fun _ _ => trivial)
        (fun _ => trivial) (fun _ _ => trivial) requesterId messageId).map
  | listMessages roomId requesterId before limit =>
      refine Issues.map (Issues.perform_bind trivial ?_)
      rintro (_ | member)
      · trivial
      · exact Issues.perform_bind trivial fun _ => trivial
  | markAsRead userId roomId messageId =>
      exact (markAsRead_statements (fun _ _ => trivial) (fun _ => trivial)
        (fun _ _ _ => trivial) (fun _ _ => trivial) userId roomId
        messageId).map
  | typing userId roomId =>
      exact (handleChatTyping_statements (fun _ _ => trivial)
        (fun _ _ => trivial) userId roomId).map

/-- What a request may do, whatever it is answered. -/
theorem program_heeds (request : ChatRequest) :
    request.program.Heeds (Allowed request) [] := by
  by_cases send : ∃ draws input, request = .sendMessage draws input
  · obtain ⟨draws, input, rfl⟩ := send
    exact Heeds.map (sendMessage_heeds draws input)
  · push Not at send
    exact (sendless_of_not_send send).heeds
      fun op sendless _ => allowed_of_sendless sendless

end Programs

/-! ## What an operation does to the messages -/

section Steps

variable {uuid : PgUuid} {state after : ChatState} {moment : Moment}

/-- An answer is one of the tables, unless the storage gives it. -/
theorem answered_of_storage {op : ChatOp} {answer : op.Answer}
    (answered : storageAdapter uuid op moment state = .ok (answer, after)) :
    after = state ∨ chatAdapter uuid op moment.now state =
      .ok (answer, after) := by
  unfold storageAdapter at answered
  cases broken : moment.failure with
  | some failure =>
      rw [broken] at answered
      cases answered
  | none =>
      rw [broken] at answered
      cases op with
      | headObject key =>
          cases answered
          exact .inl rfl
      | _ => exact .inr answered

/-- Who is found among the members is one. -/
theorem member_of_storage {roomId userId : String} {member : RoomMember}
    (answered : storageAdapter uuid (.roomRepo (.getMember roomId userId))
      moment state = .ok (some member, after)) :
    ∃ room, uuid.read roomId = some room ∧
      IsMember uuid state room userId := by
  unfold storageAdapter at answered
  cases broken : moment.failure with
  | some failure =>
      rw [broken] at answered
      cases answered
  | none =>
      rw [broken] at answered
      obtain ⟨room, roomRead, user, userRead, found, -⟩ :=
        getMember_eq_ok_iff.mp answered
      obtain ⟨inRoom, same⟩ := condition_of_first found
      exact ⟨room, roomRead, member, mem_of_first found, inRoom,
        same ▸ userRead⟩

/-- A message with a key was there before, or it is being inserted. -/
theorem kept_or_inserted {op : ChatOp} {answer : op.Answer} {key : String}
    (answered : chatAdapter uuid op moment.now state = .ok (answer, after))
    {message : Message} (member : message ∈ after.messages)
    (given : message.attachmentKey = some key) :
    (∃ old ∈ state.messages,
        old.id = message.id ∧ old.attachmentKey = some key) ∨
      (∃ sent, op = .messageRepo (.insert sent) ∧
        sent.attachmentKey = some key) ∧ ¬ Holds state message.id := by
  have kept (same : message ∈ state.messages) :
      ∃ old ∈ state.messages,
        old.id = message.id ∧ old.attachmentKey = some key :=
    ⟨message, same, rfl, given⟩
  have updated {condition : Message → Prop} [DecidablePred condition]
      {change : Message → Message}
      (there : message ∈ updateWhere condition change state.messages)
      (keeps : ∀ row, (change row).id = row.id)
      (keyed : ∀ row, (change row).attachmentKey = some key →
        row.attachmentKey = some key) :
      ∃ old ∈ state.messages,
        old.id = message.id ∧ old.attachmentKey = some key := by
    obtain ⟨old, stored, rfl⟩ := mem_updateWhere.mp there
    refine ⟨old, stored, ?_⟩
    split_ifs at given ⊢
    · exact ⟨(keeps old).symm, keyed old given⟩
    · exact ⟨rfl, given⟩
  have change := messageChange answered
  generalize here : after.messages = messages at change
  rw [here] at member
  cases change with
  | kept => exact .inl (kept member)
  | inserted sent row reads =>
      rcases List.mem_append.mp member with old | new
      · exact .inl (kept old)
      · rw [List.mem_singleton] at new
        subst new
        obtain ⟨_, sameRow, ⟨-, rfl⟩ | ⟨-, fits, -, -⟩⟩ :=
          insertMessage_eq_ok_iff.mp answered
        · exact .inl (kept (here ▸ member))
        · rw [reads] at sameRow
          cases sameRow
          obtain ⟨_, -, _, -, _, -, -, rfl⟩ := readMessage_eq_ok_iff.mp reads
          refine .inr ⟨⟨sent, rfl, given⟩, ?_⟩
          rintro ⟨other, stored, same⟩
          exact (insertViolation_eq_none_iff.mp fits).1 other stored same
  | patched spelled id patch reads stores =>
      exact .inl (updated member (fun _ => rfl) fun _ keyed => keyed)
  | blanked spelled id reads =>
      exact .inl (updated member (fun _ => rfl) fun _ => nofun)
  | removed spelled room reads =>
      exact .inl (kept (mem_deleteWhere.mp member).1)

end Steps

/-! ## Runs of requests -/

section Runs

variable [DecidableEq Name] {uuid : PgUuid} {requests : Name → ChatRequest}
  {tables : ChatState} {schedule before : List (Name × Moment)}
  {turn : Name × Moment} {name : Name} {id key : String}

theorem tablesAfter_concat :
    tablesAfter uuid requests tables (schedule ++ [turn]) =
      (((started tables requests).play (storageAdapter uuid) schedule).advance
        (storageAdapter uuid) turn).shared :=
  congrArg Config.shared (Config.play_concat _ _ _ _)

/-- A turn keeps a message with a key, or the thread is about to insert it. -/
theorem turn_keeps_or_inserts {message : Message}
    (member : message ∈
      (tablesAfter uuid requests tables (schedule ++ [turn])).messages)
    (given : message.attachmentKey = some key) :
    (∃ old ∈ (tablesAfter uuid requests tables schedule).messages,
        old.id = message.id ∧ old.attachmentKey = some key) ∨
      (∃ sent, ((started tables requests).play (storageAdapter uuid)
            schedule).pending turn.1 =
          some (.messageRepo (.insert sent)) ∧
        sent.attachmentKey = some key) ∧
        ¬ Holds (tablesAfter uuid requests tables schedule) message.id := by
  have effect := Config.advance_effect (storageAdapter uuid)
    ((started tables requests).play (storageAdapter uuid) schedule) turn
  rw [tablesAfter_concat] at member
  generalize (Config.advance _ _ turn).shared = after at effect member
  cases effect with
  | idle finished => exact .inl ⟨message, member, rfl, given⟩
  | failed op error waits fails => exact .inl ⟨message, member, rfl, given⟩
  | answered op answer after waits answers =>
      rcases answered_of_storage answers with rfl | answered
      · exact .inl ⟨message, member, rfl, given⟩
      · rcases kept_or_inserted answered member given with
          kept | ⟨⟨sent, rfl, keyed⟩, fresh⟩
        · exact .inl kept
        · exact .inr ⟨⟨sent, waits, keyed⟩, fresh⟩

/-- Who is about to insert sends the message, as a member, and has asked. -/
theorem sends_of_pending {sent : Message}
    (waits : ((started tables requests).play (storageAdapter uuid)
      schedule).pending name = some (.messageRepo (.insert sent))) :
    ∃ draws input, requests name = .sendMessage draws input ∧
      input.attachmentKey = sent.attachmentKey ∧
        Admitted input ((started tables requests).trace (storageAdapter uuid)
          name schedule) ∧
        Asked ((started tables requests).trace (storageAdapter uuid) name
          schedule) sent.attachmentKey := by
  obtain ⟨draws, input, request, rfl, admitted, asked⟩ :=
    Config.allowed_of_pending (program_heeds (requests name)) waits
  exact ⟨draws, input, request, rfl, admitted, asked⟩

theorem Inserted.concat
    (inserted : Inserted uuid requests tables schedule id key name before)
    (turn : Name × Moment)
    (holds : Holds (tablesAfter uuid requests tables (schedule ++ [turn])) id) :
    Inserted uuid requests tables (schedule ++ [turn]) id key name before := by
  obtain ⟨moment, later, split, present, stays⟩ := inserted.turn
  refine ⟨inserted.send, inserted.fresh, moment, later ++ [turn], ?_, present,
    fun since leads => ?_⟩
  · rw [split, List.append_assoc, List.cons_append]
  · rcases List.prefix_concat_iff.mp leads with rfl | earlier
    · rw [split, List.append_assoc, List.cons_append] at holds
      exact holds
    · exact stays since earlier

/-- Every message with a key was inserted by a send with that key. -/
theorem exists_inserted
    (unattached : ∀ message ∈ tables.messages, message.attachmentKey = none)
    (schedule : List (Name × Moment)) :
    ∀ message ∈ (tablesAfter uuid requests tables schedule).messages,
      ∀ key, message.attachmentKey = some key → ∃ name before,
        Inserted uuid requests tables schedule message.id key name before := by
  induction schedule using List.reverseRecOn with
  | nil =>
      intro message member key given
      rw [unattached message member] at given
      cases given
  | append_singleton schedule turn induction =>
      intro message member key given
      rcases turn_keeps_or_inserts member given with
        ⟨old, stored, same, keyed⟩ | ⟨⟨sent, waits, keyed⟩, fresh⟩
      · obtain ⟨name, before, inserted⟩ := induction old stored key keyed
        rw [same] at inserted
        exact ⟨name, before, inserted.concat turn ⟨message, member, rfl⟩⟩
      · obtain ⟨draws, input, request, same, -⟩ := sends_of_pending waits
        refine ⟨turn.1, schedule, ⟨draws, input, request, same.trans keyed⟩,
          fresh, turn.2, [], rfl, ⟨message, member, rfl, given⟩, ?_⟩
        intro since leads
        rw [List.prefix_nil.mp leads]
        exact ⟨message, member, rfl⟩

/-- The send that inserted a message with a key has asked for it. -/
theorem Inserted.performs
    (inserted : Inserted uuid requests tables schedule id key name before)
    (notEmpty : key ≠ "") :
    ∃ moment, (started tables requests).Performs (storageAdapter uuid) before
      name (.headObject key) moment true := by
  obtain ⟨moment, later, -, ⟨message, member, rfl, given⟩, -⟩ := inserted.turn
  rcases turn_keeps_or_inserts member given with
    ⟨old, stored, same, -⟩ | ⟨⟨sent, waits, keyed⟩, -⟩
  · exact absurd ⟨old, stored, same⟩ inserted.fresh
  · obtain ⟨-, -, -, -, -, asked⟩ := sends_of_pending waits
    exact Config.mem_trace_iff.mp (asked key keyed notEmpty)

/-- The empty key was inserted for a member of the room. -/
theorem Inserted.admits
    (inserted : Inserted uuid requests tables schedule id "" name before) :
    ∃ earlier moment later, before = earlier ++ (name, moment) :: later ∧
      AdmitsEmptyKey uuid requests
        ((started tables requests).play (storageAdapter uuid) earlier)
        (name, moment) := by
  obtain ⟨_, _, -, ⟨message, member, rfl, given⟩, -⟩ := inserted.turn
  rcases turn_keeps_or_inserts member given with
    ⟨old, stored, same, -⟩ | ⟨⟨sent, waits, keyed⟩, -⟩
  · exact absurd ⟨old, stored, same⟩ inserted.fresh
  · obtain ⟨draws, input, request, same, ⟨_, found⟩, -⟩ :=
      sends_of_pending waits
    obtain ⟨moment, earlier, later, _, split, looksUp, answered⟩ :=
      Config.mem_trace_iff.mp found
    exact ⟨earlier, moment, later, split, draws, input, request,
      same.trans keyed, looksUp, member_of_storage answered⟩

/-- The storage is never asked for the empty key. -/
theorem not_empty_of_performs {moment : Moment} {present : Bool}
    (performs : (started tables requests).Performs (storageAdapter uuid)
      schedule name (.headObject key) moment present) : key ≠ "" := by
  obtain ⟨before, later, after, -, waits, -⟩ := performs
  exact Config.allowed_of_pending (program_heeds (requests name)) waits

end Runs

/--
In every run in which no send of the empty key finds its sender among the
members of the room, every message with a key was inserted by a send to which
the storage had confirmed the key.  In any other run that holds of exactly the
messages whose key is not empty.
-/
theorem stored_attachments_exist :
    ∀ (Name : Type) [DecidableEq Name] (uuid : PgUuid)
      (requests : Name → ChatRequest) (tables : ChatState),
      (∀ message ∈ tables.messages, message.attachmentKey = none) →
      ∀ schedule : List (Name × Moment),
        (Along (Config.advance (storageAdapter uuid))
            (fun config turn => ¬ AdmitsEmptyKey uuid requests config turn)
            (started tables requests) schedule →
          ∀ message ∈ (tablesAfter uuid requests tables schedule).messages,
            ∀ key, message.attachmentKey = some key →
              Confirmed uuid requests tables schedule message.id key) ∧
        ∀ message ∈ (tablesAfter uuid requests tables schedule).messages,
          ∀ key, message.attachmentKey = some key →
            (Confirmed uuid requests tables schedule message.id key ↔
              key ≠ "") := by
  intro Name _ uuid requests tables unattached schedule
  have inserted := @exists_inserted Name _ uuid requests tables
    unattached schedule
  refine ⟨?_, ?_⟩
  · intro filled message member key given
    obtain ⟨name, before, insertion⟩ := inserted message member key given
    refine ⟨name, before, insertion, insertion.performs ?_⟩
    rintro rfl
    obtain ⟨earlier, moment, between, rfl, admits⟩ := insertion.admits
    obtain ⟨_, later, split, -⟩ := insertion.turn
    rw [List.append_assoc, List.cons_append] at split
    exact along_iff_at_step.mp filled earlier _ _ split admits
  · intro message member key given
    constructor
    · rintro ⟨name, before, -, moment, performs⟩
      exact not_empty_of_performs performs
    · intro notEmpty
      obtain ⟨name, before, insertion⟩ := inserted message member key given
      exact ⟨name, before, insertion, insertion.performs notEmpty⟩

section Sample

/-- A body without a text and with a key. -/
def keyedBody (key : String) : Json :=
  .object [("attachmentKey", .string key)]

def keyedInput (key : String) : SendMessageInput where
  body := ""
  attachmentKey := some key
  clientMessageId := none

/-- A user opens a group and sends a message with an attachment to it. -/
def openAndSend (key : String) : Bool → ChatRequest
  | true =>
      .createGroupRoom { id := sampleRoomId, now := 1 } sampleOwner "team" []
  | false =>
      .sendMessage { id := sampleMessageId, now := 2 }
        ((keyedInput key).toInput sampleRoomId sampleOwner none)

/-- The storage knows one key. -/
def sampleMoment : Moment where
  now := 3
  stored key := key = "uploads/cat.png"
  failure := none

/-- One request after the other, each to its end. -/
def sampleSchedule : List (Bool × Moment) :=
  List.replicate 3 (true, sampleMoment) ++ List.replicate 5 (false, sampleMoment)

/-- Both schemas admit the empty key, which is stored unconfirmed. -/
theorem empty_key_stored :
    SendMessageSchema (some (keyedBody "")) = .ok (keyedInput "") ∧
      ChatSendPayloadSchema sampleZod
          (some (.object [("roomId", .string sampleRoomId),
            ("attachmentKey", .string "")])) =
        .ok { keyedInput "" with roomId := sampleRoomId } ∧
      ∃ message ∈ (tablesAfter samplePgUuid (openAndSend "")
          (sampleTables [sampleOwner]) sampleSchedule).messages,
        message.attachmentKey = some "" ∧
          ¬ Confirmed samplePgUuid (openAndSend "") (sampleTables [sampleOwner])
            sampleSchedule message.id "" := by
  have stored : ∃ message ∈ (tablesAfter samplePgUuid (openAndSend "")
      (sampleTables [sampleOwner]) sampleSchedule).messages,
        message.attachmentKey = some "" := by
    decide +kernel
  obtain ⟨message, member, given⟩ := stored
  refine ⟨rfl, rfl, message, member, given, ?_⟩
  rintro ⟨_, _, -, _, performs⟩
  exact not_empty_of_performs performs rfl

theorem stored_attachments_exist_cat :
    SendMessageSchema (some (keyedBody "uploads/cat.png")) =
        .ok (keyedInput "uploads/cat.png") ∧
      ∃ message ∈ (tablesAfter samplePgUuid (openAndSend "uploads/cat.png")
          (sampleTables [sampleOwner]) sampleSchedule).messages,
        Confirmed samplePgUuid (openAndSend "uploads/cat.png")
          (sampleTables [sampleOwner]) sampleSchedule message.id
          "uploads/cat.png" := by
  have stored : ∃ message ∈
      (tablesAfter samplePgUuid (openAndSend "uploads/cat.png")
        (sampleTables [sampleOwner]) sampleSchedule).messages,
        message.attachmentKey = some "uploads/cat.png" := by
    decide +kernel
  obtain ⟨message, member, given⟩ := stored
  refine ⟨rfl, message, member, ?_⟩
  refine (stored_attachments_exist Bool samplePgUuid
    (openAndSend "uploads/cat.png") (sampleTables [sampleOwner]) (by decide)
    sampleSchedule).1 (along_of_forall ?_ _ _) message member _ given
  rintro config ⟨name, moment⟩ ⟨draws, input, request, empty, -⟩
  cases name with
  | true => cases request
  | false =>
      cases request
      exact absurd empty (by decide)

end Sample

end ChatBackend.Chat.StoredAttachments
