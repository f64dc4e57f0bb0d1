import ChatBackend.Crypto.Uuidv7
import ChatBackend.Chat.DeletionFinality
import ChatBackend.Chat.HistoryPages
import ChatBackend.Chat.SendPlacement

/-!
# The order of a room's history

Messages are listed by their ids, not by the times at which they were sent.  A
later message is listed before an earlier one if its id has been drawn in a
later millisecond; in one millisecond the random bits decide.
-/

namespace ChatBackend.Chat.SendingOrder

open Effects
open Relational
open Collections
open ChatBackend.Crypto.Uuidv7
open ChatBackend.Chat.Store
open ChatBackend.Chat.Schema
open ChatBackend.Chat.RoomUseCases
open ChatBackend.Chat.MessageUseCases
open ChatBackend.Chat.Requests
open ChatBackend.Chat.SendPlacement (mem_page)
open ChatBackend.Chat.DeletionFinality (MessageConfig turn)

/-! ## Runs of the server -/

/-- What a call draws: the clock and the random bytes of the id, and the time. -/
structure Draw where
  reading : Time
  random : Fin 16 → UInt8
  now : Time

def Draw.id (draw : Draw) : String := uuidv7 draw.reading draw.random

/-- A call of `SendMessage`, or any other call. -/
inductive ServerCall where
  | send (draw : Draw) (input : SendMessage.Input)
  | other (request : ChatRequest)

def ServerCall.request : ServerCall → ChatRequest
  | .send draw input => .sendMessage { id := draw.id, now := draw.now } input
  | .other request => request

section Runs

variable {Name : Type*} [DecidableEq Name] (uuid : PgUuid) (start : ChatState)
  (calls : Name → ServerCall)

/-- The state that the schedule leads to, with the calls on their way. -/
def reached (schedule : List (Name × Time)) : MessageConfig Name :=
  Transition.run (turn uuid)
    { shared := start, threads := fun name => (calls name).request.program }
    schedule

/-- The first call has returned before the second one has started. -/
def ReturnsBefore (schedule : List (Name × Time)) (first second : Name) :
    Prop :=
  ∃ before after, schedule = before ++ after ∧
    ((reached uuid start calls before).threads first).Finished ∧
      ∀ taken ∈ before, taken.1 ≠ second

/-- A message with the id is stored. -/
def Holds (state : ChatState) (id : String) : Prop :=
  ∃ row ∈ state.messages, row.id = id

instance (state : ChatState) (id : String) : Decidable (Holds state id) :=
  inferInstanceAs (Decidable (∃ row ∈ state.messages, _))

/-- A turn of the call has stored a message with the id, which has stayed. -/
def Stores (schedule : List (Name × Time)) (name : Name) (id : String) : Prop :=
  ∃ before now after, schedule = before ++ (name, now) :: after ∧
    ¬ Holds (reached uuid start calls before).shared id ∧
      Transition.Throughout (turn uuid) (fun config => Holds config.shared id)
        (reached uuid start calls (before ++ [(name, now)])) after

/-- A listing shows two messages, the first sent before the second. -/
structure Listed (schedule : List (Name × Time)) (earlier later : Draw)
    (dtos : List MessageDto) : Prop where
  sent : ∃ first second input other,
    calls first = .send earlier input ∧ calls second = .send later other ∧
      ReturnsBefore uuid start calls schedule first second ∧
        Stores uuid start calls schedule first earlier.id ∧
          Stores uuid start calls schedule second later.id
  different : earlier.id ≠ later.id
  listing : ∃ roomId requesterId before limit now,
    ((ListMessages.execute roomId requesterId before limit).run
      (chatAdapter uuid) now (reached uuid start calls schedule).shared).1 =
        .ok dtos
  shown : earlier.id ∈ dtos.map fun dto => dto.id
  shownLater : later.id ∈ dtos.map fun dto => dto.id

/-- Every listing shows the later of two messages first. -/
def NewestFirst (schedule : List (Name × Time)) : Prop :=
  ∀ earlier later dtos, Listed uuid start calls schedule earlier later dtos →
    [later.id, earlier.id].Sublist (dtos.map fun dto => dto.id)

/-- The clock of the ids has not gone back between two calls. -/
def ClockAdvances (schedule : List (Name × Time)) : Prop :=
  ∀ first second earlier later input other,
    calls first = .send earlier input → calls second = .send later other →
      ReturnsBefore uuid start calls schedule first second →
        earlier.reading ≤ later.reading

end Runs

/-- Overlapping calls keep the constraints of the schema. -/
theorem conforms_reached {Name : Type*} [DecidableEq Name] {uuid : PgUuid}
    {start : ChatState} (conforms : Conforms uuid start)
    (calls : Name → ServerCall) (schedule : List (Name × Time)) :
    Conforms uuid (reached uuid start calls schedule).shared := by
  have kept (config : MessageConfig Name) (taken : Name × Time)
      (before : Conforms uuid config.shared) :
      Conforms uuid (turn uuid config taken).shared := by
    have effect := Config.advance_effect (chatAdapter uuid) config taken
    generalize (turn uuid config taken).shared = after at effect
    cases effect with
    | idle finished => exact before
    | failed op error waits fails => exact before
    | answered op answer after waits answers =>
        exact before.statement answers
  exact Transition.run_invariant kept conforms schedule

/-! ## Listings -/

section Listings

variable {uuid : PgUuid} {state : ChatState}

/-- The ids of a listing go down. -/
theorem sorted_listing {roomId requesterId : String} {before : Option String}
    {limit : Nat} {now : Time} {dtos : List MessageDto}
    (listing : ((ListMessages.execute roomId requesterId before limit).run
      (chatAdapter uuid) now state).1 = .ok dtos) :
    (dtos.map fun dto => dto.id).Pairwise fun left right => right ≤ left := by
  have ends := @ListMessages.execute_ends uuid now state roomId requesterId
    before limit
  unfold Program.Ensures at ends
  rw [listing] at ends
  generalize Program.run .. = ended at ends
  cases ends with
  | lists member cursor membership reads =>
      unfold PgMessageRepository.page
      rw [List.map_map]
      refine List.pairwise_map.mpr (List.Pairwise.sublist
        (List.take_sublist _ _) ?_)
      exact sorted_mergeSort (fun row : Message => row.id) _

end Listings

/--
In every run, listings show the later of two messages first exactly when the
later one has been drawn in a later millisecond, or in the same one with greater
random bits.
-/
theorem newestFirst_iff {Name : Type*} [DecidableEq Name] (uuid : PgUuid)
    (start : ChatState) (calls : Name → ServerCall)
    (schedule : List (Name × Time)) :
    NewestFirst uuid start calls schedule ↔
      ∀ earlier later dtos,
        Listed uuid start calls schedule earlier later dtos →
          InOrder earlier.reading later.reading earlier.random later.random := by
  refine forall_congr' fun earlier => forall_congr' fun later =>
    forall_congr' fun dtos => imp_congr_right fun listed => ?_
  obtain ⟨roomId, requesterId, before, limit, now, listing⟩ := listed.listing
  rw [← uuidv7_lt_iff]
  exact pair_sublist_iff (sorted_listing listing) listed.shown
    listed.shownLater listed.different

/-- The draws of two calls in one millisecond. -/
def firstDraw : Draw :=
  { reading := 2, random := fun _ => 255, now := 2 }

def secondDraw : Draw :=
  { reading := 2, random := fun _ => 0, now := 2 }

def sampleInput (body : String) : SendMessage.Input where
  roomId := sampleRoomId
  senderId := sampleOwner
  body := body

/-- One call creates a group, and two others send. -/
inductive Caller where
  | creates
  | sends
  | sendsNext
deriving DecidableEq

def sendBoth : Caller → ServerCall
  | .creates => .other (.createGroupRoom { id := sampleRoomId, now := 1 }
      sampleOwner "team" [])
  | .sends => .send firstDraw (sampleInput "first")
  | .sendsNext => .send secondDraw (sampleInput "second")

def oneByOne : List (Caller × Time) :=
  List.replicate 2 (.creates, 1) ++ List.replicate 4 (.sends, 2) ++
    List.replicate 4 (.sendsNext, 2)

def drawnUuid : PgUuid :=
  sampleUuid [sampleRoomId, sampleOwner, firstDraw.id, secondDraw.id]

/-- The tables in which both messages are. -/
def bothSent : ChatState :=
  (reached drawnUuid (sampleTables [sampleOwner]) sendBoth oneByOne).shared

/-- A message that is in the tables is listed. -/
theorem bothSent_shows {draw : Draw} {body : String}
    (stored : SendMessage.newMessage { id := draw.id, now := draw.now }
      (sampleInput body) ∈ bothSent.messages) :
    draw.id ∈ ((PgMessageRepository.page bothSent.messages sampleRoomId none
      2).map fun row => row.toMessageDto).map fun dto => dto.id := by
  have listed := mem_page stored (by decide +kernel : _ ≤ 2)
  exact List.mem_map_of_mem (List.mem_map_of_mem listed)

theorem same_millisecond_reversed :
    ¬ ∀ (uuid : PgUuid) (users : List String) (calls : Caller → ServerCall)
        (schedule : List (Caller × Time)),
      ClockAdvances uuid (sampleTables users) calls schedule →
        NewestFirst uuid (sampleTables users) calls schedule := by
  intro claim
  have sameReading (name : Caller) (draw : Draw) (input : SendMessage.Input)
      (sends : sendBoth name = .send draw input) : draw.reading = 2 := by
    match name, sends with
    | .sends, rfl => rfl
    | .sendsNext, rfl => rfl
  have newest := claim drawnUuid [sampleOwner] sendBoth oneByOne
    (by
      intro first second earlier later input other sends sendsLater _
      rw [sameReading first earlier input sends,
        sameReading second later other sendsLater])
  have conforms : Conforms drawnUuid bothSent :=
    conforms_reached (sound_sampleTables drawnUuid [sampleOwner]).toConforms
      sendBoth oneByOne
  have membership : RoomUseCases.Membership drawnUuid bothSent sampleRoomId
      sampleOwner
      { roomId := sampleRoomId, userId := sampleOwner, role := .owner,
        joinedAt := 1, lastReadMessageId := none, mutedUntil := none } :=
    ⟨by decide +kernel, by decide +kernel, by decide +kernel⟩
  obtain ⟨listing, -⟩ :=
    @ListMessages.execute_returns _ 3 _ _ _ _ conforms membership 2
  have firstShown := @bothSent_shows firstDraw "first" (by decide +kernel)
  have secondShown := @bothSent_shows secondDraw "second" (by decide +kernel)
  have different : firstDraw.id ≠ secondDraw.id := by
    decide +kernel
  have reversed := newest firstDraw secondDraw _
    { sent :=
        ⟨.sends, .sendsNext, _, _, rfl, rfl,
          ⟨oneByOne.take 6, oneByOne.drop 6, by decide, by decide +kernel,
            by decide⟩,
          ⟨oneByOne.take 3, 2, oneByOne.drop 4, by decide, by decide +kernel,
            by decide +kernel⟩,
          ⟨oneByOne.take 7, 2, oneByOne.drop 8, by decide, by decide +kernel,
            by decide +kernel⟩⟩
      different := different
      listing := ⟨sampleRoomId, sampleOwner, none, 2, 3, listing⟩
      shown := firstShown
      shownLater := secondShown }
  have less := (pair_sublist_iff (sorted_listing listing) firstShown
    secondShown different).mp reversed
  exact absurd less (by decide +kernel)

end ChatBackend.Chat.SendingOrder
