import ChatBackend.Chat.RoomActions
import ChatBackend.Chat.Statements
import ChatBackend.Effects.Forthright
import ChatBackend.Transition.Registers

/-!
# The time of the last message

`SendMessage` draws a time, stores its message under it, and sets the room's
`last_message_at` to it in a statement of its own, whatever is there, and also
when it has found its message stored.  So `last_message_at` is a register that
holds the time of the call that bumps the room last, and it tells the time of
the last message exactly when that call's time is the greatest of those under
which the room's messages are stored.
-/

namespace ChatBackend.Chat.LastMessage

open Effects
open Relational
open Transition
open Effects.Program
open ChatBackend.Chat.Store
open ChatBackend.Chat.Schema
open ChatBackend.Chat.RoomUseCases
open ChatBackend.Chat.MessageUseCases
open ChatBackend.Chat.Statements
open ChatBackend.Chat.Requests
open ChatBackend.Chat.RoomActions (messagesOf lastMessageAt)

/-! ## Overlapping sends -/

/-- A call of `SendMessage.execute`, with what it draws. -/
structure SendCall where
  draws : SendMessage.Draws
  input : SendMessage.Input
deriving DecidableEq

abbrev Sends (Name : Type*) :=
  Config Name ChatPort ChatState Failure MessageDto

/-- The sends before any of them has taken a turn. -/
def started {Name : Type*} (start : ChatState) (calls : Name → SendCall) :
    Sends Name where
  shared := start
  threads name := SendMessage.execute (calls name).draws (calls name).input

/-- One statement of one call. -/
abbrev turn {Name : Type*} [DecidableEq Name] (uuid : PgUuid) :
    Sends Name → Name × Time → Sends Name :=
  Config.advance (chatAdapter uuid)

/-! ## The property -/

/-- The times of the messages of a room. -/
def times (state : ChatState) (room : String) : List Time :=
  (messagesOf state room).map fun row => row.createdAt

/-- Every room has the time of its last message, or none if it has no message. -/
def TellsTruth (state : ChatState) : Prop :=
  ∀ row ∈ state.rooms, row.lastMessageAt = (times state row.id).max?

instance (state : ChatState) : Decidable (TellsTruth state) :=
  inferInstanceAs (Decidable (∀ _ ∈ state.rooms, _))

/-! ## Bumps and stored messages -/

/-- The time to which a statement bumps the room. -/
def bumpOp (uuid : PgUuid) (room : String) : ChatOp → Option Time
  | .roomRepo (.bumpLastMessageAt roomId at_) =>
      if uuid.read roomId = some room then some at_ else none
  | _ => none

/-- The time of the message that a statement stores in the room. -/
def storeOp (uuid : PgUuid) (room : String) (state : ChatState) :
    ChatOp → Option Time
  | .messageRepo (.insert message) =>
      match PgMessageRepository.readMessage uuid message with
      | .error _ => none
      | .ok row =>
          if row.roomId = room ∧
              first (fun other => PgMessageRepository.sameClientKey other row)
                state.messages = none ∧
              PgMessageRepository.insertViolation state row = none then
            some row.createdAt
          else none
  | _ => none

section Emissions

variable {Name : Type*} [DecidableEq Name] (uuid : PgUuid) (room : String)
  (start : ChatState) (calls : Name → SendCall) (schedule : List (Name × Time))

/-- The calls that bump the room, in the order of their bumps. -/
def bumpers : List Name :=
  emitted (turn uuid)
    (fun config taken =>
      ((config.pending taken.1).bind (bumpOp uuid room)).map fun _ => taken.1)
    (started start calls) schedule

/-- The calls that store their message in the room. -/
def storers : List Name :=
  emitted (turn uuid)
    (fun config taken =>
      ((config.pending taken.1).bind (storeOp uuid room config.shared)).map
        fun _ => taken.1)
    (started start calls) schedule

/-- The times of the room's messages: those of the start and those drawn. -/
def sentTimes : List Time :=
  times start room ++
    (storers uuid room start calls schedule).map fun name =>
      (calls name).draws.now

/--
The call that bumps the room last has drawn the time of a message of the room,
its own or another one's, and no message of the room has a later time.
-/
def LastBumpIsLatest : Prop :=
  ∀ last ∈ (bumpers uuid room start calls schedule).getLast?,
    (calls last).draws.now ∈ sentTimes uuid room start calls schedule ∧
      ∀ time ∈ sentTimes uuid room start calls schedule,
        time ≤ (calls last).draws.now

instance : Decidable (LastBumpIsLatest uuid room start calls schedule) :=
  inferInstanceAs (Decidable (∀ _ ∈ List.getLast? _, _ ∧ ∀ _ ∈ sentTimes .., _))

end Emissions

/-! ## One statement -/

/-- What the statements of a send may do to rooms and messages. -/
inductive Change (uuid : PgUuid) (state : ChatState) :
    ChatOp → ChatState → Prop where
  | looks (op : ChatOp) (bumps : ∀ room, bumpOp uuid room op = none)
      (stores : ∀ room, storeOp uuid room state op = none)
      (after : ChatState) (rooms : after.rooms = state.rooms)
      (messages : after.messages = state.messages) :
      Change uuid state op after
  | bumps (roomId room : String) (at_ : Time)
      (reads : uuid.read roomId = some room) :
      Change uuid state (.roomRepo (.bumpLastMessageAt roomId at_))
        { state with
          rooms :=
            updateWhere (fun row => row.id = room)
              (fun row => { row with lastMessageAt := some at_ }) state.rooms }
  | stores (message row : Message)
      (reads : PgMessageRepository.readMessage uuid message = .ok row)
      (unknown : first
        (fun other => PgMessageRepository.sameClientKey other row)
        state.messages = none)
      (fits : PgMessageRepository.insertViolation state row = none) :
      Change uuid state (.messageRepo (.insert message))
        { state with messages := state.messages ++ [row] }

section Statements

variable {uuid : PgUuid} {now : Time} {state after : ChatState} {room : String}
  {call : SendCall}

theorem change_of_statement {op : ChatOp} {answer : op.Answer}
    (issued : SendStatement call.draws call.input op)
    (answered : chatAdapter uuid op now state = .ok (answer, after)) :
    Change uuid state op after := by
  cases op with
  | findUser id => exact issued.elim
  | roomRepo op =>
      cases op with
      | getMember roomId userId =>
          obtain ⟨_, -, _, -, -, rfl⟩ := getMember_eq_ok_iff.mp answered
          exact .looks _ (fun _ => rfl) (fun _ => rfl) _ rfl rfl
      | bumpLastMessageAt roomId at_ =>
          obtain ⟨room, reads, rfl⟩ := bumpLastMessageAt_eq_ok_iff.mp answered
          exact .bumps roomId room at_ reads
      | _ => exact issued.elim
  | messageRepo op =>
      cases op with
      | insert message =>
          obtain ⟨row, reads, ⟨known, rfl⟩ | ⟨unknown, fits, -, rfl⟩⟩ :=
            insertMessage_eq_ok_iff.mp answered
          · refine .looks _ (fun _ => rfl) (fun room => ?_) _ rfl rfl
            simp [storeOp, reads, known]
          · exact .stores message row reads unknown fits
      | _ => exact issued.elim
  | headObject key =>
      obtain ⟨-, rfl⟩ := headObject_eq_ok_iff.mp answered
      exact .looks _ (fun _ => rfl) (fun _ => rfl) _ rfl rfl
  | publish channel event =>
      rw [publish_eq_ok_iff] at answered
      subst answered
      exact .looks _ (fun _ => rfl) (fun _ => rfl) _ rfl rfl

theorem bumpOp_of_issued {op : ChatOp} {time : Time}
    (issued : SendStatement call.draws call.input op)
    (bumps : bumpOp uuid room op = some time) : time = call.draws.now := by
  cases op with
  | roomRepo op =>
      cases op with
      | bumpLastMessageAt roomId at_ =>
          simp only [bumpOp] at bumps
          split_ifs at bumps
          · exact (Option.some.inj bumps).symm.trans issued
      | _ => cases bumps
  | _ => cases bumps

theorem storeOp_of_issued {op : ChatOp} {time : Time}
    (issued : SendStatement call.draws call.input op)
    (stores : storeOp uuid room state op = some time) :
    time = call.draws.now := by
  cases op with
  | messageRepo op =>
      cases op with
      | insert message =>
          cases reads : PgMessageRepository.readMessage uuid message with
          | error error => simp [storeOp, reads] at stores
          | ok row =>
              simp only [storeOp, reads] at stores
              split_ifs at stores
              obtain ⟨_, -, _, -, _, -, -, rfl⟩ :=
                readMessage_eq_ok_iff.mp reads
              exact (Option.some.inj stores).symm.trans
                (congrArg (fun message => message.createdAt) issued)
      | _ => cases stores
  | _ => cases stores

/-- A statement that fails neither bumps a room nor stores a message. -/
theorem emits_nothing_of_error {op : ChatOp} {error : Failure}
    (fails : chatAdapter uuid op now state = .error error) :
    bumpOp uuid room op = none ∧ storeOp uuid room state op = none := by
  cases op with
  | roomRepo op =>
      cases op with
      | bumpLastMessageAt roomId at_ =>
          refine ⟨if_neg fun reads => ?_, rfl⟩
          have answers := (@bumpLastMessageAt_eq_ok_iff uuid now state _ roomId
            at_ ()).mpr ⟨room, reads, rfl⟩
          cases fails.symm.trans answers
      | _ => exact ⟨rfl, rfl⟩
  | messageRepo op =>
      cases op with
      | insert message =>
          refine ⟨rfl, ?_⟩
          cases reads : PgMessageRepository.readMessage uuid message with
          | error error => simp [storeOp, reads]
          | ok row =>
              simp only [storeOp, reads]
              refine if_neg ?_
              rintro ⟨-, unknown, fits⟩
              have answers := (@insertMessage_eq_ok_iff uuid now state _ message
                row).mpr ⟨row, reads, .inr ⟨unknown, fits, rfl, rfl⟩⟩
              cases fails.symm.trans answers
      | _ => exact ⟨rfl, rfl⟩
  | _ => exact ⟨rfl, rfl⟩

theorem Change.ids {op : ChatOp} (change : Change uuid state op after) :
    after.rooms.map (fun row => row.id) =
      state.rooms.map fun row => row.id := by
  cases change with
  | looks op bumps stores after rooms messages => rw [rooms]
  | bumps roomId room at_ reads =>
      simp only [updateWhere, List.map_map]
      refine List.map_congr_left fun row _ => ?_
      rw [Function.comp_apply]
      split_ifs <;> rfl
  | stores message row reads unknown fits => rfl

/-- The time of a room is the one to which it is bumped. -/
theorem Change.lastMessageAt {op : ChatOp}
    (change : Change uuid state op after)
    (known : room ∈ state.rooms.map fun row => row.id) :
    lastMessageAt after room =
      (bumpOp uuid room op).or (lastMessageAt state room) := by
  cases change with
  | looks op bumps stores after rooms messages =>
      rw [bumps]
      unfold RoomActions.lastMessageAt
      rw [rooms]
      rfl
  | bumps roomId here at_ reads =>
      unfold RoomActions.lastMessageAt
      rw [first_updateWhere (by simp)]
      obtain ⟨row, present, same⟩ := List.mem_map.mp known
      obtain ⟨found, looked⟩ := @exists_first _ (fun row : Room => row.id = room)
        _ _ row present same
      have isRoom := condition_of_first looked
      rw [looked]
      simp only [bumpOp, reads, Option.some.injEq]
      by_cases bumped : here = room
      · simp [bumped, isRoom]
      · have others : ¬ found.id = here := fun is => bumped (is.symm.trans isRoom)
        simp [bumped, others]
  | stores message row reads unknown fits => rfl

/-- The messages of a room grow by the one that is stored there. -/
theorem Change.times {op : ChatOp} (change : Change uuid state op after) :
    times after room =
      times state room ++ (storeOp uuid room state op).toList := by
  cases change with
  | looks op bumps stores after rooms messages =>
      rw [stores]
      unfold LastMessage.times messagesOf
      rw [messages]
      exact (List.append_nil _).symm
  | bumps roomId here at_ reads => exact (List.append_nil _).symm
  | stores message row reads unknown fits =>
      simp only [storeOp, reads, unknown, fits, and_true]
      unfold LastMessage.times messagesOf
      rw [List.filter_append, List.map_append]
      by_cases inRoom : row.roomId = room
      · simp [inRoom]
      · simp [inRoom]

end Statements

/-! ## The sends -/

section Owing

variable {uuid : PgUuid} {room : String} {Result : Type} {state : ChatState}

/-- The program bumps the room once it has stored a message there. -/
abbrev Bumps (uuid : PgUuid) (room : String) (program : ChatProgram Result)
    (state : ChatState) : Prop :=
  Conduct.Forthright (chatAdapter uuid) (bumpOp uuid room) .free
    (fun state => times state room) program state

/-- A statement that stores nothing leaves the times of the room alone. -/
theorem bumps_of_issued {call : SendCall} {op : ChatOp}
    {continuation : op.Answer → ChatProgram Result}
    (issued : SendStatement call.draws call.input op)
    (stores : ∀ state, storeOp uuid room state op = none)
    (goesOn : ∀ answer later, Bumps uuid room (continuation answer) later) :
    Bumps uuid room (op.await >>= continuation) state := by
  intro later _ _ now answer after answered
  refine ⟨trivial, trivial, .inl ?_, goesOn answer after⟩
  have grown := @Change.times uuid later after room op
    (change_of_statement issued answered)
  rw [stores, Option.toList_none, List.append_nil] at grown
  exact grown

theorem bumps_checkAttachment (call : SendCall) {attachmentKey : Option String}
    {continuation : Unit → ChatProgram Result}
    (goesOn : ∀ later, Bumps uuid room (continuation ()) later) :
    Bumps uuid room (SendMessage.checkAttachment attachmentKey >>= continuation)
      state := by
  unfold SendMessage.checkAttachment
  cases attachmentKey.filter fun key => key ≠ "" with
  | none => exact goesOn state
  | some key =>
      refine @bumps_of_issued uuid room _ state call (.headObject key) _ trivial
        (fun _ => rfl) fun present later => ?_
      cases present with
      | false => trivial
      | true => exact goesOn later

theorem bumps_sendMessage (call : SendCall) :
    Bumps uuid room (SendMessage.execute call.draws call.input) state := by
  refine @bumps_of_issued uuid room _ state call (.roomRepo (.getMember _ _)) _
    trivial (fun _ => rfl) fun member permitted => ?_
  cases member with
  | none => trivial
  | some member =>
      apply bumps_checkAttachment call
      intro checked later _ _ now msg after answered
      have goesOn : Bumps uuid room (do
          roomRepo.bumpLastMessageAt call.input.roomId call.draws.now
          bus.publish (.room call.input.roomId)
            (.messageCreated msg.toMessageDto call.input.refId
              call.input.senderId)
          return msg.toMessageDto) after := by
        refine @bumps_of_issued uuid room _ after call
          (.roomRepo (.bumpLastMessageAt _ _)) _ rfl (fun _ => rfl)
          fun _ bumped => ?_
        exact @bumps_of_issued uuid room _ bumped call (.publish _ _) _ trivial
          (fun _ => rfl) fun _ _ => trivial
      refine ⟨trivial, trivial, ?_, goesOn⟩
      obtain ⟨row, reads, ⟨-, rfl⟩ | ⟨unknown, fits, -, rfl⟩⟩ :=
        insertMessage_eq_ok_iff.mp answered
      · exact .inl rfl
      · by_cases inRoom : row.roomId = room
        · right
          refine ⟨rfl, .inl ?_⟩
          obtain ⟨_, -, _, roomRead, _, -, -, rfl⟩ :=
            readMessage_eq_ok_iff.mp reads
          have about : uuid.read call.input.roomId = some room :=
            inRoom ▸ roomRead
          exact (if_pos about).trans_ne (Option.some_ne_none _)
        · left
          have grown := @Change.times uuid later _ room _
            (.stores _ row reads unknown fits)
          simpa [storeOp, reads, inRoom] using grown

end Owing

/-! ## Runs -/

section Runs

variable {Name : Type*} [DecidableEq Name] {uuid : PgUuid}
  {start : ChatState} {calls : Name → SendCall}
  {schedule : List (Name × Time)} {room : String} {config : Sends Name}

/-- Every thread is what is left of its call. -/
def Sending (calls : Name → SendCall) (config : Sends Name) : Prop :=
  ∀ name, (config.threads name).Issues
    (SendStatement (calls name).draws (calls name).input)

omit [DecidableEq Name] in
theorem sending_started (start : ChatState) (calls : Name → SendCall) :
    Sending calls (started start calls) :=
  fun _ => sendMessage_statements _ _

theorem Sending.turn (sending : Sending calls config) (taken : Name × Time) :
    Sending calls (turn uuid config taken) := by
  have resumed :=
    (sending taken.1).resume (chatAdapter uuid) taken.2 config.shared
  intro name
  by_cases here : name = taken.1
  · subst here
    rw [Config.threads_advance_self]
    exact resumed
  · rw [Config.threads_advance_of_ne here]
    exact sending name

theorem along_sending (start : ChatState) (calls : Name → SendCall)
    (schedule : List (Name × Time)) :
    Along (LastMessage.turn uuid) (fun config _ => Sending calls config)
      (started start calls) schedule := by
  have kept (config : Sends Name) (taken : Name × Time)
      (before : Sending calls config) :
      Sending calls (LastMessage.turn uuid config taken) :=
    before.turn taken
  exact along_of_invariant kept (sending_started start calls) schedule

/-- What a turn does to the tables. -/
theorem turn_change (sending : Sending calls config) (taken : Name × Time) :
    (turn uuid config taken).shared = config.shared ∧
        (∀ room, (config.pending taken.1).bind (bumpOp uuid room) = none) ∧
        (∀ room, (config.pending taken.1).bind
          (storeOp uuid room config.shared) = none) ∨
      ∃ op, config.pending taken.1 = some op ∧
        Change uuid config.shared op (turn uuid config taken).shared := by
  have effect := Config.advance_effect (chatAdapter uuid) config taken
  generalize (turn uuid config taken).shared = after at effect
  cases effect with
  | idle finished =>
      rw [finished]
      exact .inl ⟨rfl, fun _ => rfl, fun _ => rfl⟩
  | failed op error waits fails =>
      rw [waits]
      exact .inl ⟨rfl, fun room => (@emits_nothing_of_error uuid _ _ room _ _
        fails).1, fun room => (emits_nothing_of_error fails).2⟩
  | answered op answer after waits answers =>
      exact .inr ⟨op, waits,
        change_of_statement ((sending taken.1).pending waits) answers⟩

theorem ids_turn (sending : Sending calls config) (taken : Name × Time) :
    (turn uuid config taken).shared.rooms.map (fun row => row.id) =
      config.shared.rooms.map fun row => row.id := by
  rcases turn_change sending taken with ⟨same, -, -⟩ | ⟨op, -, change⟩
  · rw [same]
  · exact change.ids

/-- The time of the last message of a room is overwritten by its bumps. -/
def lastMessageRegister (uuid : PgUuid) (calls : Name → SendCall)
    (room : String) :
    Register (turn uuid)
      (fun config _ => Sending calls config ∧
        room ∈ config.shared.rooms.map fun row => row.id) Time where
  read config := lastMessageAt config.shared room
  writes config taken := (config.pending taken.1).bind (bumpOp uuid room)
  read_step config taken fair := by
    rcases turn_change fair.1 taken with ⟨same, bumps, -⟩ | ⟨op, waits, change⟩
    · rw [same, bumps room]
      rfl
    · rw [waits]
      exact change.lastMessageAt fair.2

/-- The times of a room's messages are a log of what is stored. -/
theorem times_turn (sending : Sending calls config) (taken : Name × Time) :
    times (turn uuid config taken).shared room =
      times config.shared room ++
        ((config.pending taken.1).bind
          (storeOp uuid room config.shared)).toList := by
  rcases turn_change sending taken with ⟨same, -, stores⟩ | ⟨op, waits, change⟩
  · rw [same, stores room]
    exact (List.append_nil _).symm
  · rw [waits]
    exact change.times

/-- The callers whose statements yield a time have drawn the time. -/
theorem map_callers {times : ChatState → ChatOp → Option Time}
    (drawn : ∀ (call : SendCall) state op time,
      SendStatement call.draws call.input op → times state op = some time →
        time = call.draws.now) :
    (emitted (turn uuid)
        (fun config taken => ((config.pending taken.1).bind
          (times config.shared)).map fun _ => taken.1)
        (started start calls) schedule).map
          (fun name => (calls name).draws.now) =
      emitted (turn uuid)
        (fun config taken =>
          (config.pending taken.1).bind (times config.shared))
        (started start calls) schedule := by
  refine map_emitted ?_ (along_sending start calls schedule)
  intro config taken sending
  cases waits : config.pending taken.1 with
  | none => rfl
  | some op =>
      rw [Option.bind_some, Option.map_map]
      cases yields : times config.shared op with
      | none => rfl
      | some time =>
          have same := drawn _ _ _ _ ((sending taken.1).pending waits) yields
          exact congrArg some same.symm

/-- The times to which a room is bumped are those that its bumpers drew. -/
theorem map_bumpers :
    (bumpers uuid room start calls schedule).map
        (fun name => (calls name).draws.now) =
      emitted (turn uuid)
        (fun config taken => (config.pending taken.1).bind (bumpOp uuid room))
        (started start calls) schedule :=
  @map_callers _ _ _ _ _ _ (fun _ => bumpOp uuid room)
    fun _ _ _ _ => bumpOp_of_issued

theorem map_storers :
    (storers uuid room start calls schedule).map
        (fun name => (calls name).draws.now) =
      emitted (turn uuid)
        (fun config taken =>
          (config.pending taken.1).bind (storeOp uuid room config.shared))
        (started start calls) schedule :=
  map_callers fun _ _ _ _ => storeOp_of_issued

theorem ids_play :
    ((started start calls).play (chatAdapter uuid)
        schedule).shared.rooms.map (fun row => row.id) =
      start.rooms.map fun row => row.id := by
  have kept (config : Sends Name) (taken : Name × Time)
      (before : Sending calls config ∧
        config.shared.rooms.map (fun row => row.id) =
          start.rooms.map fun row => row.id) :
      Sending calls (turn uuid config taken) ∧
        (turn uuid config taken).shared.rooms.map (fun row => row.id) =
          start.rooms.map fun row => row.id :=
    ⟨before.1.turn taken, (ids_turn before.1 taken).trans before.2⟩
  exact (run_invariant kept ⟨sending_started start calls, rfl⟩ schedule).2

/-- What a schedule leaves of the room's time. -/
theorem lastMessageAt_play
    (known : room ∈ start.rooms.map fun row => row.id) :
    lastMessageAt
        ((started start calls).play (chatAdapter uuid) schedule).shared room =
      ((bumpers uuid room start calls schedule).getLast?.map
        fun name => (calls name).draws.now).or (lastMessageAt start room) := by
  have kept (config : Sends Name) (taken : Name × Time)
      (before : Sending calls config ∧
        room ∈ config.shared.rooms.map fun row => row.id) :
      Sending calls (turn uuid config taken) ∧
        room ∈ (turn uuid config taken).shared.rooms.map fun row => row.id := by
    refine ⟨before.1.turn taken, ?_⟩
    rw [ids_turn before.1 taken]
    exact before.2
  have reads := (lastMessageRegister uuid calls room).read_run
    (along_of_invariant kept ⟨sending_started start calls, known⟩ schedule)
  rw [← List.getLast?_map, map_bumpers]
  exact reads

/-- What a schedule leaves of the times of the room's messages. -/
theorem times_play :
    times ((started start calls).play (chatAdapter uuid) schedule).shared room =
      sentTimes uuid room start calls schedule := by
  have grows (config : Sends Name) (taken : Name × Time)
      (sending : Sending calls config) :
      times (turn uuid config taken).shared room = times config.shared room ++
        ((config.pending taken.1).bind
          (storeOp uuid room config.shared)).toList :=
    times_turn sending taken
  unfold sentTimes
  rw [map_storers]
  exact @log_run _ _ _ _ _ _ _ (fun config => times config.shared room) _ grows
    (along_sending start calls schedule)

/-- Once all calls have ended, a room that was not bumped has no new message. -/
theorem times_of_unbumped
    (rest : ((started start calls).play (chatAdapter uuid) schedule).Quiescent)
    (none : bumpers uuid room start calls schedule = []) :
    times ((started start calls).play (chatAdapter uuid) schedule).shared room =
      times start room := by
  have frank : Conduct.Frank .free (chatAdapter uuid) (bumpOp uuid room)
      (fun state => times state room) (started start calls) :=
    ⟨trivial, fun name => bumps_sendMessage (calls name)⟩
  have found := frank.value_eq_noted schedule rest
  have silent : (started start calls).notices (bumpOp uuid room)
      (fun state => times state room) (chatAdapter uuid) schedule = [] := by
    have told := @map_bumpers _ _ uuid start calls schedule room
    rw [none] at told
    rw [← List.map_eq_nil_iff, Config.map_fst_notices]
    exact told.symm
  rw [silent] at found
  exact found

end Runs

section Truth

variable {uuid : PgUuid} {state : ChatState}

/-- The truth about a room is what a look at its row tells. -/
theorem tellsTruth_iff_lastMessageAt (conforms : Conforms uuid state) :
    TellsTruth state ↔
      ∀ id ∈ state.rooms.map fun row => row.id,
        lastMessageAt state id = (times state id).max? := by
  unfold TellsTruth
  rw [List.forall_mem_map]
  refine forall_congr' fun row => forall_congr' fun present => ?_
  unfold RoomActions.lastMessageAt
  rw [conforms.roomIds.first_eq_some present]
  rfl

end Truth

/--
The time of the last message.  When all sends have ended, in whatever order
their statements were executed, the rooms tell the times of their last messages
exactly when in every room the call that bumps it last has the time of a message
of the room, and no message of the room has a later one.
-/
theorem tellsTruth_iff {Name : Type*} [DecidableEq Name] {uuid : PgUuid}
    {start : ChatState} (conforms : Conforms uuid start)
    (truthful : TellsTruth start) (calls : Name → SendCall)
    (schedule : List (Name × Time))
    (rest :
      ((started start calls).play (chatAdapter uuid) schedule).Quiescent) :
    TellsTruth
        ((started start calls).play (chatAdapter uuid) schedule).shared ↔
      ∀ room ∈ start.rooms,
        LastBumpIsLatest uuid room.id start calls schedule := by
  have conformsLast : Conforms uuid
      ((started start calls).play (chatAdapter uuid) schedule).shared :=
    Config.shared_play (fun _ _ _ _ _ before answered =>
      Conforms.statement before answered) conforms schedule
  rw [tellsTruth_iff_lastMessageAt conformsLast, ids_play, List.forall_mem_map]
  refine forall_congr' fun room => forall_congr' fun present => ?_
  have known : room.id ∈ start.rooms.map fun row => row.id :=
    List.mem_map_of_mem present
  rw [lastMessageAt_play known]
  unfold LastBumpIsLatest
  cases last : (bumpers uuid room.id start calls schedule).getLast? with
  | none =>
      have unbumped := List.getLast?_eq_none_iff.mp last
      have before :=
        (tellsTruth_iff_lastMessageAt conforms).mp truthful room.id known
      rw [times_of_unbumped rest unbumped, ← before]
      exact ⟨fun _ => nofun, fun _ => rfl⟩
  | some _ =>
      rw [times_play, Option.map_some, Option.some_or, eq_comm,
        List.max?_eq_some_iff]
      simp

/-! ## Sends that leave another time -/

/-- A user opens a group. -/
def openGroup : List (ChatRequest × Time) :=
  [(.createGroupRoom { id := sampleRoomId, now := 1 } sampleOwner "team" [], 1)]

def oneGroup : ChatState :=
  Transition.run (serve samplePgUuid) (sampleTables [sampleOwner]) openGroup

def sampleInput (clientMessageId : Option String) : SendMessage.Input where
  roomId := sampleRoomId
  senderId := sampleOwner
  body := "hello"
  clientMessageId := clientMessageId

/-- The owner sends two messages, or the same one twice. -/
def sendTwice (clientMessageId : Option String) : Bool → SendCall
  | true => ⟨{ id := sampleMessageId, now := 2 }, sampleInput clientMessageId⟩
  | false =>
      ⟨{ id := sampleNextMessageId, now := 3 }, sampleInput clientMessageId⟩

/-- Both messages are stored before the room is bumped in their order. -/
def inOrder : List (Bool × Time) :=
  [(true, 2), (false, 2), (false, 3), (true, 3), (true, 4), (false, 4),
    (true, 5), (false, 5)]

/-- The room is bumped in the other order. -/
def crossed : List (Bool × Time) :=
  [(true, 2), (false, 2), (false, 3), (true, 3), (false, 4), (true, 4),
    (true, 5), (false, 5)]

/-- The first call has ended before the second one starts. -/
def oneByOne : List (Bool × Time) :=
  List.replicate 4 (true, 2) ++ List.replicate 4 (false, 3)

theorem tellsTruth_iff_inOrder :
    TellsTruth ((started oneGroup (sendTwice none)).play
      (chatAdapter samplePgUuid) inOrder).shared := by
  have conforms : Conforms samplePgUuid oneGroup :=
    ((sound_sampleTables samplePgUuid [sampleOwner]).run openGroup).toConforms
  refine (tellsTruth_iff conforms (by decide +kernel) (sendTwice none) inOrder
    (Bool.forall_bool.mpr ⟨by decide +kernel, by decide +kernel⟩)).mpr ?_
  decide +kernel

/-- The room has the time of the first message, which is not the last one. -/
example : ¬ TellsTruth ((started oneGroup (sendTwice none)).play
    (chatAdapter samplePgUuid) crossed).shared := by
  decide +kernel

/-- A repeated send leaves the room with a time that no message has. -/
theorem repeat_moves_time :
    ¬ ∀ (uuid : PgUuid) (users : List String)
        (history : List (ChatRequest × Time)) (calls : Bool → SendCall)
        (schedule : List (Bool × Time)),
      TellsTruth (Transition.run (serve uuid) (sampleTables users) history) →
        ((started (Transition.run (serve uuid) (sampleTables users) history)
            calls).play (chatAdapter uuid) schedule).Quiescent →
          TellsTruth
            ((started (Transition.run (serve uuid) (sampleTables users) history)
              calls).play (chatAdapter uuid) schedule).shared := by
  intro claim
  have truthful := claim samplePgUuid [sampleOwner] openGroup
    (sendTwice (some "retry")) oneByOne (by decide +kernel)
    (Bool.forall_bool.mpr ⟨by decide +kernel, by decide +kernel⟩)
  exact absurd truthful (by decide +kernel)

end ChatBackend.Chat.LastMessage
