import ChatBackend.Chat.Requests
import ChatBackend.Chat.Statements
import ChatBackend.Effects.Interleaving

/-!
# The deletion of a message is final

Any number of sends, edits and deletions overlap; every statement is one step.
`EditMessage` looks its message up, checks that it is not deleted, and updates
it in a later step without looking again.  A deleted message stays deleted in
every interleaving, but it stays blank exactly as long as no update sets the
body of a message that has been deleted since it was looked up.
-/

namespace ChatBackend.Chat.DeletionFinality

open Effects
open Relational
open Transition
open Effects.Program
open ChatBackend.Chat.Store
open ChatBackend.Chat.Schema
open ChatBackend.Chat.RoomUseCases
open ChatBackend.Chat.MessageUseCases
open ChatBackend.Chat.Statements
open ChatBackend.Chat.Requests

/-! ## Overlapping calls -/

/-- The calls that overlap; a duplicate send is a send with the same input. -/
inductive MessageCall where
  | send (draws : SendMessage.Draws) (input : SendMessage.Input)
  | edit (now : Time) (requesterId messageId body : String)
  | delete (requesterId messageId : String)
deriving DecidableEq

def MessageCall.request : MessageCall → ChatRequest
  | .send draws input => .sendMessage draws input
  | .edit now requesterId messageId body =>
      .editMessage now requesterId messageId body
  | .delete requesterId messageId => .deleteMessage requesterId messageId

/-- The tables and the calls on their way. -/
abbrev MessageConfig (Name : Type*) :=
  Config Name ChatPort ChatState Failure ChatReply

/-- All calls at their beginning. -/
def begin {Name : Type*} (start : ChatState) (calls : Name → MessageCall) :
    MessageConfig Name where
  shared := start
  threads name := (calls name).request.program

/-- A turn of a call, at a time of the database clock. -/
abbrev turn {Name : Type*} [DecidableEq Name] (uuid : PgUuid) :
    MessageConfig Name → Name × Time → MessageConfig Name :=
  Config.advance (chatAdapter uuid)

/-! ## The property -/

/-- A deleted message shows nothing of what it was. -/
def Blank (state : ChatState) : Prop :=
  ∀ row ∈ state.messages, row.deletedAt ≠ none →
    row.body = "" ∧ row.attachmentKey = none ∧ row.attachmentMeta = none

instance (state : ChatState) : Decidable (Blank state) :=
  inferInstanceAs (Decidable (∀ _ ∈ state.messages, _))

/-- The message is stored and deleted. -/
def Deleted (state : ChatState) (id : String) : Prop :=
  ∃ row ∈ state.messages, row.id = id ∧ row.deletedAt ≠ none

/--
The statement sets the body of a message that has been deleted, to a text that
the database stores.
-/
def SetsDeleted (uuid : PgUuid) (state : ChatState) : ChatOp → Prop
  | .messageRepo (.update id patch) =>
      (∃ body ∈ patch.body, body ≠ "" ∧ storable body = true) ∧
        ∃ row ∈ state.messages,
          uuid.read id = some row.id ∧ row.deletedAt ≠ none
  | _ => False

instance (uuid : PgUuid) (state : ChatState) (op : ChatOp) :
    Decidable (SetsDeleted uuid state op) :=
  match op with
  | .messageRepo (.update id patch) =>
      inferInstanceAs (Decidable
        ((∃ body ∈ patch.body, body ≠ "" ∧ storable body = true) ∧
          ∃ row ∈ state.messages,
            uuid.read id = some row.id ∧ row.deletedAt ≠ none))
  | .messageRepo (.insert _) => isFalse id
  | .messageRepo (.findById _) => isFalse id
  | .messageRepo (.listByRoom _ _ _) => isFalse id
  | .messageRepo (.softDelete _) => isFalse id
  | .findUser _ => isFalse id
  | .roomRepo _ => isFalse id
  | .headObject _ => isFalse id
  | .publish _ _ => isFalse id

/-- The turn's statement sets the body of a message that has been deleted. -/
def EditsDeleted {Name : Type*} (uuid : PgUuid) (config : MessageConfig Name)
    (turn : Name × Time) : Prop :=
  ∃ op ∈ config.pending turn.1, SetsDeleted uuid config.shared op

instance {Name : Type*} (uuid : PgUuid) (config : MessageConfig Name)
    (turn : Name × Time) : Decidable (EditsDeleted uuid config turn) :=
  inferInstanceAs (Decidable (∃ _ ∈ config.pending turn.1, _))

/-! ## One statement -/

section Statements

variable {uuid : PgUuid} {now : Time} {state after : ChatState}

/-- The calls insert undeleted messages and delete no room. -/
def Issued : ChatOp → Prop
  | .messageRepo (.insert message) => message.deletedAt = none
  | .roomRepo (.deleteRoom _) => False
  | _ => True

/-- A statement that sets no deleted message's body keeps the table blank. -/
theorem blank_of_statement {op : ChatOp} {answer : op.Answer}
    (blank : Blank state) (issued : Issued op)
    (answered : chatAdapter uuid op now state = .ok (answer, after))
    (spares : ¬ SetsDeleted uuid state op) : Blank after := by
  have change := messageChange answered
  unfold Blank
  generalize after.messages = messages at change
  cases change with
  | kept => exact blank
  | inserted message row reads =>
      rw [List.forall_mem_append, List.forall_mem_singleton]
      refine ⟨blank, ?_⟩
      rcases readMessage_eq_ok_iff.mp reads with ⟨_, -, _, -, _, -, -, rfl⟩
      exact fun dead => absurd issued dead
  | patched spelled id patch reads stores =>
      refine forall_mem_updateWhere blank ?_
      rintro row stored rfl dead
      rcases blank row stored dead with ⟨empty, noKey, noMeta⟩
      refine ⟨?_, noKey, noMeta⟩
      cases given : patch.body with
      | none => simpa [PgMessageRepository.patchMessage, given] using empty
      | some body =>
          by_contra shows
          rw [given] at stores
          refine spares ⟨⟨body, given, ?_, stores⟩, row, stored, reads, dead⟩
          simpa [PgMessageRepository.patchMessage, given] using shows
  | blanked spelled id reads =>
      refine forall_mem_updateWhere blank ?_
      exact fun _ _ _ _ => ⟨rfl, rfl, rfl⟩
  | removed spelled room reads =>
      exact fun row kept => blank row (mem_deleteWhere.mp kept).1

/-- A statement that sets a deleted message's body makes it show. -/
theorem not_blank_of_statement {op : ChatOp}
    (sets : SetsDeleted uuid state op) :
    ∃ answer after, chatAdapter uuid op now state = .ok (answer, after) ∧
      ¬ Blank after := by
  cases op with
  | messageRepo op =>
      cases op with
      | update spelled patch =>
          obtain ⟨⟨body, given, shows, stores⟩, row, stored, reads, dead⟩ :=
            sets
          obtain ⟨found, looked⟩ :
              ∃ found, first (fun other => other.id = row.id) state.messages =
                some found :=
            exists_first stored rfl
          have given : patch.body = some body := given
          have patched : patch.body.all storable = true := given ▸ stores
          refine ⟨_, _, updateMessage_eq_ok_iff.mpr
            ⟨patched, row.id, reads, found, looked, rfl, rfl⟩, ?_⟩
          intro blank
          have patched : PgMessageRepository.patchMessage patch row ∈
              updateWhere (fun other => other.id = row.id)
                (PgMessageRepository.patchMessage patch) state.messages :=
            mem_updateWhere.mpr ⟨row, stored, by rw [if_pos rfl]⟩
          have empty := (blank _ patched dead).1
          simp only [PgMessageRepository.patchMessage, given,
            Option.getD_some] at empty
          exact shows empty
      | _ => exact sets.elim
  | _ => exact sets.elim

/-- A deleted message stays deleted. -/
theorem deleted_of_statement {op : ChatOp} {answer : op.Answer} {id : String}
    (deleted : Deleted state id) (issued : Issued op)
    (answered : chatAdapter uuid op now state = .ok (answer, after)) :
    Deleted after id := by
  rcases deleted with ⟨row, stored, same, dead⟩
  have change := messageChange answered
  unfold Deleted
  generalize after.messages = messages at change
  cases change with
  | kept => exact ⟨row, stored, same, dead⟩
  | inserted message other reads =>
      exact ⟨row, List.mem_append_left _ stored, same, dead⟩
  | patched spelled other patch reads stores =>
      refine ⟨_, mem_updateWhere.mpr ⟨row, stored, rfl⟩, ?_⟩
      split_ifs
      · exact ⟨same, dead⟩
      · exact ⟨same, dead⟩
  | blanked spelled other reads =>
      refine ⟨_, mem_updateWhere.mpr ⟨row, stored, rfl⟩, ?_⟩
      split_ifs
      · exact ⟨same, Option.some_ne_none now⟩
      · exact ⟨same, dead⟩
  | removed spelled room reads => exact issued.elim

end Statements

/-! ## The calls -/

theorem sendMessage_issues (draws : SendMessage.Draws)
    (input : SendMessage.Input) :
    (SendMessage.execute draws input).Issues Issued := by
  refine (sendMessage_statements draws input).imp fun op statement => ?_
  cases op with
  | roomRepo op => cases op <;> first | exact trivial | exact statement.elim
  | messageRepo op =>
      cases op with
      | insert message => exact congrArg (fun row => row.deletedAt) statement
      | _ => trivial
  | _ => trivial

theorem request_issues (call : MessageCall) :
    call.request.program.Issues Issued := by
  cases call with
  | send draws input => exact (sendMessage_issues draws input).map
  | edit now requesterId messageId body =>
      exact (editMessage_statements (fun _ => trivial) (fun _ _ => trivial)
        (fun _ _ => trivial) now requesterId messageId body).map
  | delete requesterId messageId =>
      exact (deleteMessage_statements (fun _ => trivial) (fun _ _ => trivial)
        (fun _ => trivial) (fun _ _ => trivial) requesterId messageId).map

/-! ## Interleavings -/

section Interleavings

variable {Name : Type*} [DecidableEq Name] {uuid : PgUuid}
  {config : MessageConfig Name}

omit [DecidableEq Name] in
theorem begin_issuing (start : ChatState) (calls : Name → MessageCall) :
    (begin start calls).Issuing Issued :=
  fun name => request_issues (calls name)

/-- A turn keeps the table blank exactly when it sets no deleted message. -/
theorem blank_turn_iff (issuing : config.Issuing Issued)
    (blank : Blank config.shared) (named : Name × Time) :
    Blank (turn uuid config named).shared ↔
      ¬ EditsDeleted uuid config named := by
  have effect := Config.advance_effect (chatAdapter uuid) config named
  generalize shared : (turn uuid config named).shared = after
  rw [shared] at effect
  cases effect with
  | idle finished =>
      refine ⟨?_, fun _ => blank⟩
      rintro - ⟨op, waits, -⟩
      cases finished.symm.trans waits
  | failed op error waits fails =>
      refine ⟨?_, fun _ => blank⟩
      rintro - ⟨other, otherWaits, sets⟩
      cases waits.symm.trans otherWaits
      rcases not_blank_of_statement sets with ⟨answer, after, answers, -⟩
      cases fails.symm.trans answers
  | answered op answer after waits answers =>
      constructor
      · rintro kept ⟨other, otherWaits, sets⟩
        cases waits.symm.trans otherWaits
        rcases not_blank_of_statement sets with ⟨_, _, otherAnswers, shows⟩
        cases answers.symm.trans otherAnswers
        exact shows kept
      · intro spares
        refine blank_of_statement blank ((issuing named.1).pending waits)
          answers ?_
        exact fun sets => spares ⟨op, waits, sets⟩

theorem deleted_turn {id : String} (issuing : config.Issuing Issued)
    (deleted : Deleted config.shared id) (named : Name × Time) :
    Deleted (turn uuid config named).shared id := by
  have effect := Config.advance_effect (chatAdapter uuid) config named
  generalize shared : (turn uuid config named).shared = after
  rw [shared] at effect
  cases effect with
  | idle finished => exact deleted
  | failed op error waits fails => exact deleted
  | answered op answer after waits answers =>
      exact deleted_of_statement deleted ((issuing named.1).pending waits)
        answers

/--
The deletion of a message is final.  In every interleaving of any number of
calls, a message that is deleted stays deleted, and every deleted message is
blank throughout exactly when no turn of the interleaving sets the body of a
message that is already deleted.
-/
theorem deletion_final (uuid : PgUuid) {start : ChatState}
    (blank : Blank start) (calls : Name → MessageCall)
    (schedule : List (Name × Time)) :
    (∀ before later id, schedule = before ++ later →
        Deleted (run (turn uuid) (begin start calls) before).shared id →
          Deleted (run (turn uuid) (begin start calls) schedule).shared id) ∧
      (Throughout (turn uuid) (fun config => Blank config.shared)
          (begin start calls) schedule ↔
        Along (turn uuid) (fun config named => ¬ EditsDeleted uuid config named)
          (begin start calls) schedule) := by
  have issuing (config : MessageConfig Name) (named : Name × Time)
      (before : config.Issuing Issued) :
      (turn uuid config named).Issuing Issued :=
    before.advance (chatAdapter uuid) named
  have issued := begin_issuing start calls
  constructor
  · rintro before later id rfl deleted
    rw [run_append]
    have reached : (run (turn uuid) (begin start calls) before).Issuing Issued :=
      run_invariant issuing issued before
    have kept (config : MessageConfig Name) (named : Name × Time)
        (holds : config.Issuing Issued ∧ Deleted config.shared id) :
        (turn uuid config named).Issuing Issued ∧
          Deleted (turn uuid config named).shared id :=
      ⟨issuing config named holds.1, deleted_turn holds.1 holds.2 named⟩
    exact (run_invariant kept ⟨reached, deleted⟩ later).2
  · have exactly (config : MessageConfig Name) (named : Name × Time)
        (before : config.Issuing Issued) (blankBefore : Blank config.shared) :
        Blank (turn uuid config named).shared ↔
          ¬ EditsDeleted uuid config named :=
      blank_turn_iff before blankBefore named
    exact throughout_iff_along issuing exactly issued blank

end Interleavings

/-! ## An edit that comes after a deletion -/

/-- A user opens a group and sends one message. -/
def sendOne : List (ChatRequest × Time) :=
  [(.createGroupRoom { id := sampleRoomId, now := 1 } sampleOwner "team" [], 1),
    (.sendMessage { id := sampleMessageId, now := 2 }
      { roomId := sampleRoomId, senderId := sampleOwner, body := "hello" }, 2)]

def oneMessage : ChatState :=
  run (serve samplePgUuid) (sampleTables [sampleOwner]) sendOne

/-- Its sender edits and deletes it at the same time. -/
def editAndDelete : Bool → MessageCall
  | true => .edit 3 sampleOwner sampleMessageId "hello again"
  | false => .delete sampleOwner sampleMessageId

/-- The edit is done before the deletion looks the message up. -/
def editFirst : List (Bool × Time) :=
  [(true, 3), (true, 3), (true, 3), (false, 4), (false, 4), (false, 4)]

/-- The edit has looked the message up before it is deleted. -/
def editLate : List (Bool × Time) :=
  [(true, 3), (false, 4), (false, 4), (true, 5)]

theorem deletion_final_editFirst :
    Throughout (turn samplePgUuid) (fun config => Blank config.shared)
      (begin oneMessage editAndDelete) editFirst := by
  have final :=
    deletion_final samplePgUuid (by decide : Blank oneMessage) editAndDelete
      editFirst
  apply final.2.mpr
  decide +kernel

/-- The late edit gives the deleted message a body. -/
theorem deletion_not_final :
    ¬ ∀ (uuid : PgUuid) (users : List String)
        (history : List (ChatRequest × Time)) (calls : Bool → MessageCall)
        (schedule : List (Bool × Time)),
      Throughout (turn uuid) (fun config => Blank config.shared)
        (begin (run (serve uuid) (sampleTables users) history) calls)
        schedule := by
  intro claim
  have blank :=
    claim samplePgUuid [sampleOwner] sendOne editAndDelete editLate
  exact absurd blank.final (by decide +kernel)

end ChatBackend.Chat.DeletionFinality
