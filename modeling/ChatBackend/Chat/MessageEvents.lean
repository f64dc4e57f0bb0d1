import ChatBackend.Effects.Forthright
import ChatBackend.Chat.DeletionFinality
import ChatBackend.Chat.HistoryPages

/-!
# Message events and the database

`SendMessage`, `EditMessage` and `DeleteMessage` write a message in one step and
publish the event of it in a later one, and calls overlap.  An event may
therefore be overtaken: when it is published, the message need no longer be what
the event tells.

Whoever writes a message publishes an event of it afterwards.  So the last event
of a message finds what the database holds in the end, and a subscriber ends up
with that exactly if the last event has not been overtaken.
-/

namespace ChatBackend.Chat.MessageEvents

open Effects
open Relational
open ChatBackend.Chat.Store
open ChatBackend.Chat.Schema
open ChatBackend.Chat.RoomUseCases
open ChatBackend.Chat.MessageUseCases
open ChatBackend.Chat.Requests
open ChatBackend.Chat.DeletionFinality
open ChatBackend.Chat.HistoryPages (Keeps keeps_updateMessages)

/-! ## The subscriber -/

/-- What a subscriber shows of a message. -/
structure Shown where
  body : String
  deleted : Bool
deriving DecidableEq, Repr

def Shown.ofDto (dto : MessageDto) : Shown where
  body := dto.body
  deleted := dto.deletedAt.isSome

/-- A blanked message. -/
def Shown.blank : Shown where
  body := ""
  deleted := true

/-- As what an event of the room tells the message. -/
def tells (uuid : PgUuid) (room id : String) :
    Channel × BusEvent → Option Shown
  | (.room spelled, .messageCreated dto _ _) =>
      if uuid.read spelled = some room ∧ dto.id = id then some (.ofDto dto)
      else none
  | (.room spelled, .messageEdited dto) =>
      if uuid.read spelled = some room ∧ dto.id = id then some (.ofDto dto)
      else none
  | (.room spelled, .messageDeleted messageId _) =>
      if uuid.read spelled = some room ∧ uuid.read messageId = some id then
        some .blank
      else none
  | _ => none

/-- The messages a subscriber shows. -/
abbrev View : Type := String → Option Shown

/-- An event overwrites or blanks the message that it tells. -/
def View.apply (uuid : PgUuid) (room : String) (view : View)
    (entry : Channel × BusEvent) : View :=
  fun id => (tells uuid room id entry).or (view id)

/-- What the database holds of the messages of the room. -/
def held (room : String) (state : ChatState) : View := fun id =>
  (first (fun row => row.id = id ∧ row.roomId = room) state.messages).map
    fun row => .ofDto row.toMessageDto

/-- The events that have been published since the start. -/
def published (start state : ChatState) : List (Channel × BusEvent) :=
  state.published.drop start.published.length

/-- What somebody shows who has subscribed to the room at the start. -/
def subscriber (uuid : PgUuid) (room : String) (start state : ChatState) :
    View :=
  (published start state).foldl (View.apply uuid room) (held room start)

/-- The subscriber shows what the database holds. -/
def Converged (uuid : PgUuid) (room : String) (start state : ChatState) :
    Prop :=
  subscriber uuid room start state = held room state

/-! ## Overtaken events -/

/-- As what a publication tells the message. -/
def tellsOp (uuid : PgUuid) (room id : String) : ChatOp → Option Shown
  | .publish channel event => tells uuid room id (channel, event)
  | _ => none

section Overtaken

variable {Name : Type*} [DecidableEq Name]

/--
As what the publications tell the message, each with what the database holds of
the message when it comes.
-/
abbrev publications (uuid : PgUuid) (room id : String) (start : ChatState)
    (calls : Name → MessageCall) (schedule : List (Name × Time)) :
    List (Shown × Option Shown) :=
  (begin start calls).notices (tellsOp uuid room id)
    (fun state => held room state id) (chatAdapter uuid) schedule

/-- The last publication about the message has been overtaken when it comes. -/
def LastOvertaken (uuid : PgUuid) (room : String) (start : ChatState)
    (calls : Name → MessageCall) (schedule : List (Name × Time))
    (id : String) : Prop :=
  ∃ said found, some said ≠ found ∧
    (publications uuid room id start calls schedule).getLast? =
      some (said, found)

end Overtaken

/-! ## What a statement does to a message -/

section Statements

variable {uuid : PgUuid} {state : ChatState} {room id : String}

/-- An inserted message is the only one of which more is held than before. -/
theorem held_append {row : Message} :
    held room { state with messages := state.messages ++ [row] } id =
        held room state id ∨
      row.id = id ∧ row.roomId = room := by
  unfold held
  cases found : first (fun row => row.id = id ∧ row.roomId = room)
      state.messages with
  | some stored =>
      rw [first_append found]
      exact .inl rfl
  | none =>
      by_cases here : row.id = id ∧ row.roomId = room
      · exact .inr here
      · left
        have still : first (fun row => row.id = id ∧ row.roomId = room)
            (state.messages ++ [row]) = none := by
          rw [first_eq_none_iff] at found ⊢
          intro other stored
          rcases List.mem_append.mp stored with old | new
          · exact found other old
          · rw [List.mem_singleton.mp new]
            exact here
        rw [still]

/-- An updated message is the only one of which something else is held. -/
theorem held_update (conforms : Conforms uuid state) {target : String}
    {row : Message} {change : Message → Message}
    (found : first (fun row => row.id = target) state.messages = some row)
    (sameId : ∀ row, (change row).id = row.id)
    (sameRoom : ∀ row, (change row).roomId = row.roomId) :
    held room { state with
        messages :=
          updateWhere (fun row => row.id = target) change state.messages } id =
        held room state id ∨
      row.id = id ∧ row.roomId = room := by
  by_cases here : row.id = id ∧ row.roomId = room
  · exact .inr here
  · left
    have keeps (row : Message) :
        ((change row).id = id ∧ (change row).roomId = room) ↔
          row.id = id ∧ row.roomId = room := by
      rw [sameId, sameRoom]
    unfold held
    rw [first_updateWhere keeps, Option.map_map]
    cases other : first (fun row => row.id = id ∧ row.roomId = room)
        state.messages with
    | none => rfl
    | some stored =>
        have elsewhere : stored.id ≠ target := by
          intro same
          have equal : stored = row := conforms.messageIds.eq_of_key
            (mem_of_first other) (mem_of_first found)
            (same.trans (condition_of_first found).symm)
          have about := condition_of_first other
          rw [equal] at about
          exact here about
        simp [elsewhere]

end Statements

/-! ## The calls are forthright -/

/-- Threads keep the constraints, and messages where they are. -/
def conduct (uuid : PgUuid) : Conduct ChatState where
  invariant := Conforms uuid
  allows := Keeps
  refl := Keeps.refl
  trans _ _ _ := Keeps.trans

section Calls

variable {uuid : PgUuid} {room id : String} {Result : Type}
  {state : ChatState}

/-- The program tells of what it changes of the message. -/
abbrev Tells (uuid : PgUuid) (room id : String)
    (program : ChatProgram Result) (state : ChatState) : Prop :=
  Conduct.Forthright (chatAdapter uuid) (tellsOp uuid room id) (conduct uuid)
    (fun state => held room state id) program state

/-- A publication changes no table. -/
theorem tells_publish {channel : Channel} {event : BusEvent}
    {continuation : Unit → ChatProgram Result}
    (goesOn : ∀ later, Tells uuid room id (continuation ()) later) :
    Tells uuid room id (bus.publish channel event >>= continuation) state := by
  intro later allowed conforms now answer after answered
  have conformsAfter := conforms.statement answered
  rw [publish_eq_ok_iff] at answered
  subst answered
  exact ⟨conformsAfter, ⟨rfl, fun row stored => ⟨row, stored, rfl, rfl⟩⟩,
    .inl rfl, goesOn _⟩

theorem tells_getMember {roomId userId : String}
    {continuation : Option RoomMember → ChatProgram Result}
    (goesOn : ∀ member later, Keeps state later → Conforms uuid later →
      Tells uuid room id (continuation member) later) :
    Tells uuid room id (roomRepo.getMember roomId userId >>= continuation)
      state := by
  apply Conduct.Forthright.look
  · intro now later answer after answered
    obtain ⟨_, -, _, -, -, same⟩ := getMember_eq_ok_iff.mp answered
    exact same.symm
  · intro later allowed conforms _ member _
    exact goesOn member later allowed conforms

/-- A message is found where it stays. -/
theorem tells_findMessage {messageId : String}
    {continuation : Option Message → ChatProgram Result}
    (missing : ∀ later, Tells uuid room id (continuation none) later)
    (found : ∀ msg later, Conforms uuid later → msg ∈ later.messages →
      uuid.read messageId = some msg.id →
        Tells uuid room id (continuation (some msg)) later) :
    Tells uuid room id (messageRepo.findById messageId >>= continuation)
      state := by
  apply Conduct.Forthright.look
  · intro now later answer after answered
    obtain ⟨_, -, -, same⟩ := findMessageById_eq_ok_iff.mp answered
    exact same.symm
  · intro later _ conforms _ answer answered
    obtain ⟨read, reads, looked, -⟩ := findMessageById_eq_ok_iff.mp answered
    cases answer with
    | none => exact missing later
    | some msg =>
        refine found msg later conforms (mem_of_first looked) ?_
        rw [reads, condition_of_first looked]

theorem tells_checkAttachment {attachmentKey : Option String}
    {continuation : Unit → ChatProgram Result} (conforms : Conforms uuid state)
    (goesOn : ∀ later, Conforms uuid later →
      Tells uuid room id (continuation ()) later) :
    Tells uuid room id
      (SendMessage.checkAttachment attachmentKey >>= continuation) state := by
  unfold SendMessage.checkAttachment
  cases attachmentKey.filter fun key => key ≠ "" with
  | none => exact goesOn state conforms
  | some key =>
      apply Conduct.Forthright.look
      · intro now later answer after answered
        obtain ⟨-, same⟩ := headObject_eq_ok_iff.mp answered
        exact same.symm
      · intro later _ conformsLater _ present _
        cases present with
        | false => trivial
        | true => exact goesOn later conformsLater

/-- What is published of a message comes right after it has been updated. -/
theorem told_update {later : ChatState} {msg row : Message}
    {change : Message → Message} {channel : Channel} {event : BusEvent}
    {op : MessageOp} {continuation : Unit → ChatProgram Result}
    (stored : msg ∈ state.messages) (allowed : Keeps state later)
    (conforms : Conforms uuid later)
    (found : first (fun row => row.id = msg.id) later.messages = some row)
    (sameId : ∀ row, (change row).id = row.id)
    (sameRoom : ∀ row, (change row).roomId = row.roomId)
    (told : msg.id = id → msg.roomId = room →
      tells uuid room id (channel, event) ≠ none) :
    held room { later with
        messages :=
          updateWhere (fun row => row.id = msg.id) change later.messages } id =
        held room later id ∨
      tellsOp uuid room id (.messageRepo op) = none ∧
        Conduct.Owes (chatAdapter uuid) (tellsOp uuid room id)
          (bus.publish channel event >>= continuation) := by
  rcases held_update conforms found sameId sameRoom with
    same | ⟨isId, inRoom⟩
  · exact .inl same
  · obtain ⟨kept, keptStored, keptId, keptRoom⟩ := allowed.messages msg stored
    have isRow : kept = row := conforms.messageIds.eq_of_key keptStored
      (mem_of_first found) (keptId.trans (condition_of_first found).symm)
    subst isRow
    exact .inr ⟨rfl, .inl (told (keptId.symm.trans isId)
      (keptRoom.symm.trans inRoom))⟩

theorem tells_editMessage (now : Time) (requesterId messageId body : String) :
    Tells uuid room id (EditMessage.execute now requesterId messageId body)
      state := by
  refine tells_findMessage (fun _ => trivial) ?_
  intro msg found conformsFound stored reads
  dsimp only
  split_ifs
  · trivial
  · trivial
  · trivial
  · intro later allowed conforms now updated after answered
    have conformsAfter := conforms.statement answered
    obtain ⟨-, target, readsTarget, row, looked, rfl, rfl⟩ :=
      updateMessage_eq_ok_iff.mp answered
    cases readsTarget.symm.trans reads
    refine ⟨conformsAfter,
      keeps_updateMessages (fun _ => rfl) fun _ => rfl, ?_, ?_⟩
    · refine told_update stored allowed conforms looked (fun _ => rfl)
        (fun _ => rfl) ?_
      intro isId inRoom
      have readsRoom := conformsFound.read_roomId stored
      have about : uuid.read msg.roomId = some room ∧ row.id = id :=
        ⟨inRoom ▸ readsRoom, (condition_of_first looked).trans isId⟩
      exact (if_pos about).trans_ne (Option.some_ne_none _)
    · exact tells_publish fun _ => trivial

theorem tells_assertMayDelete {msg : Message} {requesterId : String}
    {continuation : Unit → ChatProgram Result} (conforms : Conforms uuid state)
    (goesOn : ∀ later, Keeps state later → Conforms uuid later →
      Tells uuid room id (continuation ()) later) :
    Tells uuid room id
      (DeleteMessage.assertMayDelete msg requesterId >>= continuation)
      state := by
  unfold DeleteMessage.assertMayDelete
  split_ifs
  · apply tells_getMember
    intro member later allowed conformsLater
    cases member with
    | none => trivial
    | some member =>
        change Tells uuid room id
          ((if _ then _ else _ : ChatProgram Unit) >>= continuation) later
        split_ifs
        · trivial
        · exact goesOn later allowed conformsLater
  · exact goesOn state (Keeps.refl state) conforms

theorem tells_deleteMessage (requesterId messageId : String) :
    Tells uuid room id (DeleteMessage.execute requesterId messageId) state := by
  refine tells_findMessage (fun _ => trivial) ?_
  intro msg found conformsFound stored reads
  dsimp only
  split_ifs
  · trivial
  · apply tells_assertMayDelete conformsFound
    intro permitted allowed _ later allowedLater conforms now deleted after
      answered
    have conformsAfter := conforms.statement answered
    obtain ⟨target, readsTarget, row, looked, rfl, rfl⟩ :=
      softDelete_eq_ok_iff.mp answered
    cases readsTarget.symm.trans reads
    refine ⟨conformsAfter,
      keeps_updateMessages (fun _ => rfl) fun _ => rfl, ?_, ?_⟩
    · refine told_update stored (allowed.trans allowedLater) conforms looked
        (fun _ => rfl) (fun _ => rfl) ?_
      intro isId inRoom
      have readsRoom := conformsFound.read_roomId stored
      have about : uuid.read msg.roomId = some room ∧
          uuid.read messageId = some id :=
        ⟨inRoom ▸ readsRoom, isId ▸ reads⟩
      exact (if_pos about).trans_ne (Option.some_ne_none _)
    · exact tells_publish fun _ => trivial

theorem tells_sendMessage (draws : SendMessage.Draws)
    (input : SendMessage.Input) :
    Tells uuid room id (SendMessage.execute draws input) state := by
  apply tells_getMember
  intro member permitted _ conformsPermitted
  cases member with
  | none => trivial
  | some member =>
      apply tells_checkAttachment conformsPermitted
      intro checked _ later allowed conforms now msg after answered
      have conformsAfter := conforms.statement answered
      obtain ⟨row, reads, ends⟩ := insertMessage_eq_ok_iff.mp answered
      obtain ⟨_, -, roomRead, readsRoom, _, -, -, rfl⟩ :=
        readMessage_eq_ok_iff.mp reads
      have goesOn : Tells uuid room id (do
          roomRepo.bumpLastMessageAt input.roomId draws.now
          bus.publish (.room input.roomId)
            (.messageCreated msg.toMessageDto input.refId input.senderId)
          return msg.toMessageDto) after := by
        intro bumped allowedBump conformsBump nowBump answer last answeredBump
        have conformsLast := conformsBump.statement answeredBump
        obtain ⟨_, -, rfl⟩ := bumpLastMessageAt_eq_ok_iff.mp answeredBump
        exact ⟨conformsLast, ⟨rfl, fun row stored => ⟨row, stored, rfl, rfl⟩⟩,
          .inl rfl, tells_publish fun _ => trivial⟩
      rcases ends with ⟨-, rfl⟩ | ⟨-, -, rfl, rfl⟩
      · exact ⟨conforms, Keeps.refl later, .inl rfl, goesOn⟩
      · refine ⟨conformsAfter, ⟨rfl, fun other stored =>
          ⟨other, List.mem_append_left _ stored, rfl, rfl⟩⟩, ?_, goesOn⟩
        refine held_append.imp_right fun ⟨isId, inRoom⟩ =>
          ⟨rfl, .inr ⟨?_, ?_⟩⟩
        · intro time state
          exact ⟨((), _), bumpLastMessageAt_eq_ok_iff.mpr ⟨roomRead, readsRoom, rfl⟩⟩
        · intro _
          have about : uuid.read input.roomId = some room ∧ _ :=
            ⟨inRoom ▸ readsRoom, isId⟩
          exact .inl ((if_pos about).trans_ne (Option.some_ne_none _))

theorem tells_request (call : MessageCall) :
    Tells uuid room id call.request.program state := by
  cases call with
  | send draws input => exact (tells_sendMessage draws input).map
  | edit now requesterId messageId body =>
      exact (tells_editMessage now requesterId messageId body).map
  | delete requesterId messageId =>
      exact (tells_deleteMessage requesterId messageId).map

end Calls

/-! ## Runs -/

section Runs

variable {Name : Type*} [DecidableEq Name] {uuid : PgUuid}
  {start : ChatState} {calls : Name → MessageCall}
  {schedule : List (Name × Time)} {room id : String}

omit [DecidableEq Name] in
theorem frank_begin (conforms : Conforms uuid start)
    (calls : Name → MessageCall) (room id : String) :
    Conduct.Frank (conduct uuid) (chatAdapter uuid) (tellsOp uuid room id)
      (fun state => held room state id) (begin start calls) :=
  ⟨conforms, fun name => tells_request (calls name)⟩

/-- A publication about the message is told as what it publishes. -/
theorem told_publication (pending : Option ChatOp) :
    (pending.bind publication).toList.filterMap (tells uuid room id) =
      (pending.bind (tellsOp uuid room id)).toList := by
  cases pending with
  | none => rfl
  | some op =>
      cases op with
      | publish channel event =>
          change [(channel, event)].filterMap (tells uuid room id) = _
          rw [List.filterMap_cons, List.filterMap_nil]
          change _ = (tells uuid room id (channel, event)).toList
          cases tells uuid room id (channel, event) <;> rfl
      | _ => rfl

/-- A turn publishes what the call is about to publish. -/
theorem published_turn (config : MessageConfig Name) (taken : Name × Time) :
    (turn uuid config taken).shared.published = config.shared.published ++
      ((config.pending taken.1).bind publication).toList := by
  have effect := Config.advance_effect (chatAdapter uuid) config taken
  generalize (turn uuid config taken).shared = after at effect
  cases effect with
  | idle finished =>
      rw [finished]
      exact (List.append_nil _).symm
  | failed op error waits fails =>
      rw [waits]
      cases op with
      | publish channel event => cases fails
      | _ => exact (List.append_nil _).symm
  | answered op answer after waits answers =>
      rw [waits]
      exact published_statement answers

/-- What has been published is what the publications tell. -/
theorem published_play (start : ChatState) (calls : Name → MessageCall)
    (schedule : List (Name × Time)) :
    ∃ entries,
      ((begin start calls).play (chatAdapter uuid) schedule).shared.published =
          start.published ++ entries ∧
        entries.filterMap (tells uuid room id) =
          (publications uuid room id start calls schedule).map Prod.fst := by
  induction schedule using List.reverseRecOn with
  | nil => exact ⟨[], (List.append_nil _).symm, rfl⟩
  | append_singleton schedule taken induction =>
      rcases induction with ⟨entries, published, told⟩
      refine ⟨entries ++ ((((begin start calls).play (chatAdapter uuid)
        schedule).pending taken.1).bind publication).toList, ?_, ?_⟩
      · rw [Config.play_concat, published_turn, published, List.append_assoc]
      · unfold publications at told ⊢
        rw [List.filterMap_append, told, Config.notices_concat,
          List.map_append, ← Option.toList_map, Config.map_fst_notice,
          told_publication]

/-- What a subscriber shows of a message is what the last event tells. -/
theorem foldl_apply (view : View) (entries : List (Channel × BusEvent)) :
    entries.foldl (View.apply uuid room) view id =
      (entries.filterMap (tells uuid room id)).getLast?.or (view id) := by
  induction entries using List.reverseRecOn with
  | nil => rfl
  | append_singleton entries entry induction =>
      rw [List.foldl_append, List.filterMap_append, List.getLast?_append]
      change (tells uuid room id entry).or
        (entries.foldl (View.apply uuid room) view id) = _
      rw [induction, List.filterMap_cons, List.filterMap_nil]
      cases tells uuid room id entry <;> rfl

end Runs

/--
Subscribers converge.  When all calls have ended, in whatever order their steps
were taken, a subscriber shows what the database holds if and only if no message
has a last event that was overtaken when it was published.
-/
theorem subscribers_converge_iff {Name : Type*} [DecidableEq Name]
    {uuid : PgUuid} {start : ChatState} (conforms : Conforms uuid start)
    (calls : Name → MessageCall) (schedule : List (Name × Time))
    (rest : ((begin start calls).play (chatAdapter uuid) schedule).Quiescent)
    (room : String) :
    Converged uuid room start
        ((begin start calls).play (chatAdapter uuid) schedule).shared ↔
      ∀ id, ¬ LastOvertaken uuid room start calls schedule id := by
  unfold Converged
  rw [funext_iff]
  refine forall_congr' fun id => ?_
  have found :=
    (frank_begin conforms calls room id).value_eq_noted schedule rest
  obtain ⟨entries, published, told⟩ :=
    @published_play Name _ uuid room id start calls schedule
  unfold subscriber MessageEvents.published LastOvertaken
  rw [published, List.drop_left, foldl_apply, told, found, Config.noted,
    List.getLast?_map]
  cases (publications uuid room id start calls schedule).getLast? with
  | none => simp [begin]
  | some last =>
      rcases last with ⟨said, found⟩
      simp

/-! ## An event that is overtaken -/

/-- The sends are to the room, and so are the messages that they may repeat. -/
def Confined {Name : Type*} (uuid : PgUuid) (room : String)
    (start : ChatState) (calls : Name → MessageCall) : Prop :=
  ∀ name draws input, calls name = .send draws input →
    uuid.read input.roomId = some room ∧
      ∀ row ∈ start.messages, row.clientMessageId ≠ none →
        row.clientMessageId = input.clientMessageId → row.roomId = room

/-- The owner edits a message twice at a time. -/
def twoEdits : Bool → MessageCall
  | true => .edit 3 sampleOwner sampleMessageId "first"
  | false => .edit 4 sampleOwner sampleMessageId "second"

/-- The event of the first edit is published after that of the second one. -/
def crossed : List (Bool × Time) :=
  [(true, 3), (false, 3), (true, 4), (false, 5), (false, 5), (true, 6)]

theorem crossed_quiescent :
    ((begin oneMessage twoEdits).play (chatAdapter samplePgUuid)
      crossed).Quiescent :=
  fun | true => rfl | false => rfl

theorem crossed_not_converged :
    ¬ Converged samplePgUuid sampleRoomId oneMessage
      ((begin oneMessage twoEdits).play (chatAdapter samplePgUuid)
        crossed).shared :=
  fun converged =>
    absurd (congrFun converged sampleMessageId) (by decide +kernel)

theorem subscribers_converge_iff_crossed :
    ¬ ∀ id, ¬ LastOvertaken samplePgUuid sampleRoomId oneMessage twoEdits
      crossed id := by
  intro none
  have conforms : Conforms samplePgUuid oneMessage :=
    ((sound_sampleTables samplePgUuid [sampleOwner]).run sendOne).toConforms
  exact crossed_not_converged
    ((subscribers_converge_iff conforms twoEdits crossed crossed_quiescent
      sampleRoomId).mpr none)

/-- The subscriber is left with the first edit, and the database has the second. -/
theorem crossed_edits_diverge :
    ¬ ∀ (uuid : PgUuid) (users : List String)
        (history : List (ChatRequest × Time)) (calls : Bool → MessageCall)
        (schedule : List (Bool × Time)) (room : String),
      Confined uuid room
          (Transition.run (serve uuid) (sampleTables users) history) calls →
        ((begin (Transition.run (serve uuid) (sampleTables users) history)
            calls).play (chatAdapter uuid) schedule).Quiescent →
          Converged uuid room
            (Transition.run (serve uuid) (sampleTables users) history)
            ((begin (Transition.run (serve uuid) (sampleTables users) history)
              calls).play (chatAdapter uuid) schedule).shared := by
  intro claim
  refine crossed_not_converged (claim samplePgUuid [sampleOwner] sendOne
    twoEdits crossed sampleRoomId ?_ crossed_quiescent)
  rintro (_ | _) draws input sends
  · cases sends
  · cases sends

end ChatBackend.Chat.MessageEvents
