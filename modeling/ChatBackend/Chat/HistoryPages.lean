import Mathlib.Data.Set.Finite.Basic
import Mathlib.Data.String.Basic
import ChatBackend.Collections.Paging
import ChatBackend.Chat.MessageUseCases
import ChatBackend.Chat.Requests

/-!
# The history of a room, page by page

A client asks for the newest messages of a room and then, again and again, for
those before the last message it has got, until a page is not full.  Between two
pages messages may be inserted, edited and deleted.

The pages are a sweep of the messages of the room by their ids.
-/

namespace ChatBackend.Chat.HistoryPages

open Effects
open Relational
open Collections
open ChatBackend.Chat.Store
open ChatBackend.Chat.Schema
open ChatBackend.Chat.RoomUseCases
open ChatBackend.Chat.MessageUseCases
open ChatBackend.Chat.Requests

/-! ## The client -/

/-- What becomes of the messages between two pages. -/
inductive Change where
  | insert (message : Message)
  | edit (id : String) (patch : MessagePatch)
  | softDelete (id : String)

def Change.op : Change → MessageOp
  | .insert message => .insert message
  | .edit id patch => .update id patch
  | .softDelete id => .softDelete id

/-- A statement that fails changes nothing. -/
def change (uuid : PgUuid) (state : ChatState) (made : Change × Time) :
    ChatState :=
  match chatAdapter uuid (.messageRepo made.1.op) made.2 state with
  | .ok (_, after) => after
  | .error _ => state

/-- The time at which a page is served, and the changes that follow it. -/
structure Round where
  now : Time
  changes : List (Change × Time)

/-- The client reads the pages from a cursor on, as long as its fuel lasts. -/
def readHistory (uuid : PgUuid) (roomId requesterId : String) (limit : Nat) :
    Nat → (Nat → Round) → ChatState → Option String →
      Option (Except Failure (List (List MessageDto)))
  | 0, _, _, _ => none
  | fuel + 1, rounds, state, before =>
      match (ListMessages.execute roomId requesterId before limit).run
          (chatAdapter uuid) (rounds 0).now state with
      | (.error error, _) => some (.error error)
      | (.ok page, after) =>
          if page.length < limit then some (.ok [page])
          else
            (readHistory uuid roomId requesterId limit fuel
              (fun round => rounds (round + 1))
              (Transition.run (change uuid) after (rounds 0).changes)
              (page.getLast?.map fun message => message.id)).map
                fun rest => rest.map fun pages => page :: pages

/-- The messages of a room. -/
def roomMessages (room : String) (messages : List Message) : List Message :=
  messages.filter fun row => decide (row.roomId = room)

/-- The state in which a page is read. -/
def stateAt (uuid : PgUuid) : (Nat → Round) → ChatState → Nat → ChatState
  | _, state, 0 => state
  | rounds, state, round + 1 =>
      stateAt uuid (fun round => rounds (round + 1))
        (Transition.run (change uuid) state (rounds 0).changes) round

/-! ## Changes -/

section Changes

variable {uuid : PgUuid} {state after : ChatState} {room : String}

/-- Tables with messages whose ids are stored as the database spells them. -/
structure Listable (uuid : PgUuid) (state : ChatState) : Prop extends
    Conforms uuid state where
  canonicalMessages : ∀ row ∈ state.messages, uuid.read row.id = some row.id

/-- The members are the same, and every message is where it was. -/
structure Keeps (state after : ChatState) : Prop where
  roomMembers : after.roomMembers = state.roomMembers
  messages : ∀ row ∈ state.messages, ∃ later ∈ after.messages,
    later.id = row.id ∧ later.roomId = row.roomId

theorem Keeps.refl (state : ChatState) : Keeps state state :=
  ⟨rfl, fun row stored => ⟨row, stored, rfl, rfl⟩⟩

theorem Keeps.trans {last : ChatState} (first : Keeps state after)
    (second : Keeps after last) : Keeps state last where
  roomMembers := second.roomMembers.trans first.roomMembers
  messages := by
    intro row stored
    obtain ⟨later, kept, sameId, sameRoom⟩ := first.messages row stored
    obtain ⟨latest, found, equalId, equalRoom⟩ := second.messages later kept
    exact ⟨latest, found, equalId.trans sameId, equalRoom.trans sameRoom⟩

theorem Keeps.membership {roomId userId : String} {member : RoomMember}
    (keeps : Keeps state after)
    (membership : Membership uuid state roomId userId member) :
    Membership uuid after roomId userId member :=
  { membership with stored := keeps.roomMembers ▸ membership.stored }

/-- An update of messages that keeps their ids and rooms. -/
theorem keeps_updateMessages {id : String} {patch : Message → Message}
    (sameId : ∀ row, (patch row).id = row.id)
    (sameRoom : ∀ row, (patch row).roomId = row.roomId) :
    Keeps state { state with
      messages := updateWhere (fun row => row.id = id) patch state.messages } where
  roomMembers := rfl
  messages := by
    intro row stored
    refine ⟨_, mem_updateWhere.mpr ⟨row, stored, rfl⟩, ?_⟩
    split_ifs
    · exact ⟨sameId row, sameRoom row⟩
    · exact ⟨rfl, rfl⟩

theorem listable_updateMessages {id : String} {patch : Message → Message}
    (listable : Listable uuid state)
    (sameId : ∀ row, (patch row).id = row.id)
    (conforms : Conforms uuid { state with
      messages := updateWhere (fun row => row.id = id) patch state.messages }) :
    Listable uuid { state with
      messages := updateWhere (fun row => row.id = id) patch state.messages } :=
  { conforms with
    canonicalMessages := forall_mem_updateWhere listable.canonicalMessages
      fun row stored _ => by
        rw [sameId]
        exact listable.canonicalMessages row stored }

theorem statement_listable {made : Change} {answer : made.op.Answer}
    {now : Time} (listable : Listable uuid state)
    (answered : chatAdapter uuid (.messageRepo made.op) now state =
      .ok (answer, after)) :
    Listable uuid after ∧ Keeps state after := by
  have conforms := listable.toConforms.statement answered
  cases made with
  | insert message =>
      obtain ⟨row, reads, ⟨-, rfl⟩ | ⟨-, -, -, rfl⟩⟩ :=
        insertMessage_eq_ok_iff.mp answered
      · exact ⟨listable, Keeps.refl state⟩
      · refine ⟨{ conforms with canonicalMessages := ?_ }, rfl, ?_⟩
        · intro other stored
          rcases List.mem_append.mp stored with old | new
          · exact listable.canonicalMessages other old
          · obtain ⟨id, read, _, -, _, -, -, rfl⟩ :=
              readMessage_eq_ok_iff.mp reads
            rw [List.mem_singleton.mp new]
            exact uuid.canonical message.id id read
        · intro other stored
          exact ⟨other, List.mem_append_left _ stored, rfl, rfl⟩
  | edit spelled patch =>
      obtain ⟨-, id, -, _, -, -, rfl⟩ := updateMessage_eq_ok_iff.mp answered
      exact ⟨listable_updateMessages listable (fun _ => rfl) conforms,
        keeps_updateMessages (fun _ => rfl) fun _ => rfl⟩
  | softDelete spelled =>
      obtain ⟨id, -, _, -, -, rfl⟩ := softDelete_eq_ok_iff.mp answered
      exact ⟨listable_updateMessages listable (fun _ => rfl) conforms,
        keeps_updateMessages (fun _ => rfl) fun _ => rfl⟩

theorem change_listable (listable : Listable uuid state)
    (made : Change × Time) :
    Listable uuid (change uuid state made) ∧
      Keeps state (change uuid state made) := by
  unfold change
  split
  · next answer after answered => exact statement_listable listable answered
  · exact ⟨listable, Keeps.refl state⟩

theorem run_listable (listable : Listable uuid state)
    (changes : List (Change × Time)) :
    Listable uuid (Transition.run (change uuid) state changes) ∧
      Keeps state (Transition.run (change uuid) state changes) := by
  induction changes generalizing state with
  | nil => exact ⟨listable, Keeps.refl state⟩
  | cons made rest induction =>
      obtain ⟨next, kept⟩ := change_listable listable made
      obtain ⟨last, later⟩ := induction next
      exact ⟨last, kept.trans later⟩

theorem stateAt_listable (listable : Listable uuid state)
    (rounds : Nat → Round) (round : Nat) :
    Listable uuid (stateAt uuid rounds state round) := by
  induction round generalizing rounds state with
  | zero => exact listable
  | succ round induction =>
      exact induction (run_listable listable (rounds 0).changes).1 _

theorem stateAt_keeps (listable : Listable uuid state)
    (rounds : Nat → Round) (round : Nat) :
    Keeps (stateAt uuid rounds state round)
      (stateAt uuid rounds state (round + 1)) := by
  induction round generalizing rounds state with
  | zero => exact (run_listable listable (rounds 0).changes).2
  | succ round induction =>
      exact induction (run_listable listable (rounds 0).changes).1 _

/-- Without changes, every page is read in the same state. -/
theorem stateAt_quiet (clock : Nat → Time) (round : Nat) :
    stateAt uuid (fun round => ⟨clock round, []⟩) state round = state := by
  induction round generalizing clock with
  | zero => rfl
  | succ round induction => exact induction fun round => clock (round + 1)

end Changes

/-! ## Pages -/

section Pages

variable {uuid : PgUuid} {state : ChatState} {roomId requesterId : String}
  {member : RoomMember} {limit : Nat}

theorem mem_roomMessages {room : String} {messages : List Message}
    {row : Message} :
    row ∈ roomMessages room messages ↔ row ∈ messages ∧ row.roomId = room := by
  unfold roomMessages
  rw [List.mem_filter, decide_eq_true_eq]

/-- What the repository lists is a page of the messages of the room. -/
theorem isPage_page {messages : List Message}
    (unique : UniqueKey (fun row : Message => row.id) messages)
    (room : String) (cursor : Option String) (limit : Nat) :
    IsPage (fun row : Message => row.id) limit (roomMessages room messages)
      cursor (PgMessageRepository.page messages room cursor limit) := by
  have split : (messages.filter fun row =>
        decide (row.roomId = room) &&
          cursor.all fun id => decide (row.id < id)) =
      (roomMessages room messages).filter fun row =>
        cursor.all fun id => decide (row.id < id) := by
    unfold roomMessages
    rw [List.filter_filter]
    exact List.filter_congr fun row _ => Bool.and_comm _ _
  unfold PgMessageRepository.page
  rw [split]
  exact isPage_take_mergeSort (unique.filter _) cursor limit

/-- A cursor that is an id, and so not empty, is read as itself. -/
theorem nullable_cursor {cursor : Option String}
    (nonempty : uuid.read "" = none)
    (reads : ∀ id ∈ cursor, uuid.read id = some id) :
    uuid.nullable (cursor.filter fun cursor => cursor ≠ "") = .ok cursor := by
  cases cursor with
  | none => rfl
  | some id =>
      have read := reads id rfl
      have given : id ≠ "" := by
        rintro rfl
        exact absurd (read.symm.trans nonempty) nofun
      rw [Option.filter_some_pos (by simpa using given)]
      exact nullable_some_eq_ok_iff.mpr ⟨id, read, rfl⟩

/--
With fuel for all keys below the cursor, the client reads a sweep of the room.
-/
theorem readHistory_sweeps {keys : Finset String} {fuel : Nat}
    {rounds : Nat → Round} {cursor : Option String}
    (nonempty : uuid.read "" = none) (listable : Listable uuid state)
    (membership : Membership uuid state roomId requesterId member)
    (positive : 1 ≤ limit)
    (known : ∀ round, ∀ row ∈ (stateAt uuid rounds state round).messages,
      row.id ∈ keys)
    (reads : ∀ id ∈ cursor, uuid.read id = some id)
    (enough : (keys.filter (Below cursor)).card < fuel) :
    ∃ pages, readHistory uuid roomId requesterId limit fuel rounds state
          cursor =
        some (.ok (pages.map fun page => page.map fun row => row.toMessageDto)) ∧
      Sweep (fun row : Message => row.id) limit
        (fun round => roomMessages member.roomId
          (stateAt uuid rounds state round).messages) cursor pages := by
  induction fuel generalizing rounds state cursor with
  | zero => omega
  | succ fuel induction =>
      have isPage := isPage_page listable.messageIds member.roomId cursor limit
      obtain ⟨outcome, same⟩ := @ListMessages.execute_lists uuid
        (rounds 0).now state _ _ _ _ _ listable.toConforms membership
        (nullable_cursor nonempty reads) limit
      have served :
          (ListMessages.execute roomId requesterId cursor limit).run
              (chatAdapter uuid) (rounds 0).now state =
            (.ok ((PgMessageRepository.page state.messages member.roomId cursor
              limit).map fun row => row.toMessageDto), state) :=
        Prod.ext outcome same
      rw [readHistory, served]
      generalize PgMessageRepository.page state.messages member.roomId cursor
        limit = page at isPage
      dsimp only
      rw [List.length_map]
      by_cases short : page.length < limit
      · rw [if_pos short]
        exact ⟨[page], rfl, .last isPage short⟩
      · rw [if_neg short]
        cases final : page.getLast? with
        | none =>
            rw [List.getLast?_eq_none_iff.mp final] at short
            exact absurd positive short
        | some last =>
            have lastListed := isPage.listed last (List.mem_of_getLast? final)
            have stored := (mem_roomMessages.mp lastListed.1).1
            obtain ⟨next, kept⟩ := run_listable listable (rounds 0).changes
            have canonical := listable.canonicalMessages last stored
            have fewer := card_below_lt (known 0 last stored) lastListed.2
            obtain ⟨pages, read, sweep⟩ := @induction _
              (fun round => rounds (round + 1)) (some last.id) next
              (kept.membership membership) (fun round => known (round + 1))
              (fun id held => Option.mem_some.mp held ▸ canonical) (by omega)
            refine ⟨page :: pages, ?_, .more isPage final sweep⟩
            rw [List.getLast?_map, final]
            dsimp only [Option.map_some]
            rw [read]
            rfl

/-- The last page is not full, so the client stops after it. -/
theorem exists_readHistory {keys : Finset String} (rounds : Nat → Round)
    (nonempty : uuid.read "" = none) (listable : Listable uuid state)
    (membership : Membership uuid state roomId requesterId member)
    (positive : 1 ≤ limit)
    (known : ∀ round, ∀ row ∈ (stateAt uuid rounds state round).messages,
      row.id ∈ keys) :
    ∃ fuel pages, readHistory uuid roomId requesterId limit fuel rounds state
          none =
        some (.ok (pages.map fun page => page.map fun row => row.toMessageDto)) ∧
      Sweep (fun row : Message => row.id) limit
        (fun round => roomMessages member.roomId
          (stateAt uuid rounds state round).messages) none pages :=
  ⟨_, readHistory_sweeps nonempty listable membership positive known nofun
    (Nat.lt_succ_self _)⟩

/-- The messages that a client has got, as the client sees them. -/
theorem flatten_dtos (pages : List (List Message)) :
    (pages.map fun page => page.map fun row => row.toMessageDto).flatten =
      pages.flatten.map fun row => row.toMessageDto :=
  List.map_flatten.symm

/--
Cursor pagination is complete.  In a room that nobody changes, the client ends
with every message of the room once, newest id first, and no other.  Whatever
is inserted, edited and deleted between two pages, the client ends, goes down
the ids, and gets every message that was there at the start once.
-/
theorem history_complete (nonempty : uuid.read "" = none)
    (listable : Listable uuid state)
    (membership : Membership uuid state roomId requesterId member)
    (positive : 1 ≤ limit) :
    (∀ clock : Nat → Time, ∃ fuel pages,
      readHistory uuid roomId requesterId limit fuel
            (fun round => ⟨clock round, []⟩) state none = some (.ok pages) ∧
        Descending (fun dto : MessageDto => dto.id) pages.flatten ∧
          ∀ dto, dto ∈ pages.flatten ↔
            ∃ row ∈ state.messages, row.roomId = member.roomId ∧
              row.toMessageDto = dto) ∧
      ({ id | uuid.read id = some id }.Finite →
        ∀ rounds : Nat → Round, ∃ fuel pages,
          readHistory uuid roomId requesterId limit fuel rounds state none =
              some (.ok pages) ∧
            Descending (fun dto : MessageDto => dto.id) pages.flatten ∧
              ∀ row ∈ state.messages, row.roomId = member.roomId →
                (pages.flatten.map fun dto => dto.id).count row.id = 1) := by
  constructor
  · intro clock
    have known (round : Nat) : ∀ row ∈ (stateAt uuid
          (fun round => ⟨clock round, []⟩) state round).messages,
        row.id ∈ (state.messages.map fun row => row.id).toFinset := by
      rw [stateAt_quiet]
      intro row stored
      exact List.mem_toFinset.mpr (List.mem_map_of_mem stored)
    obtain ⟨fuel, pages, read, sweep⟩ := exists_readHistory
      (fun round => ⟨clock round, []⟩) nonempty listable membership positive
      known
    refine ⟨fuel, _, read, ?_⟩
    rw [flatten_dtos]
    refine ⟨List.pairwise_map.mpr sweep.descending, fun dto => ?_⟩
    have unique : UniqueKey (fun row : Message => row.id)
        (roomMessages member.roomId state.messages) :=
      listable.messageIds.filter _
    simp only [stateAt_quiet] at sweep
    simp only [List.mem_map, sweep.mem_flatten_iff unique, mem_roomMessages,
      and_assoc]
  · intro finite rounds
    have known (round : Nat) : ∀ row ∈
        (stateAt uuid rounds state round).messages,
        row.id ∈ finite.toFinset := by
      intro row stored
      exact finite.mem_toFinset.mpr
        ((stateAt_listable listable rounds round).canonicalMessages row stored)
    obtain ⟨fuel, pages, read, sweep⟩ :=
      exists_readHistory rounds nonempty listable membership positive known
    refine ⟨fuel, _, read, ?_⟩
    rw [flatten_dtos]
    refine ⟨List.pairwise_map.mpr sweep.descending, ?_⟩
    intro row stored here
    obtain ⟨other, listed, same⟩ := sweep.complete
      (fun round row stored => by
        obtain ⟨inTable, inRoom⟩ := mem_roomMessages.mp stored
        obtain ⟨later, kept, sameId, sameRoom⟩ :=
          (stateAt_keeps listable rounds round).messages row inTable
        exact ⟨later, mem_roomMessages.mpr ⟨kept, sameRoom.trans inRoom⟩,
          sameId⟩)
      (mem_roomMessages.mpr ⟨stored, here⟩) (below_none _)
    have distinct : (pages.flatten.map fun row => row.id).Nodup :=
      List.pairwise_map.mpr (sweep.descending.imp fun less => less.ne')
    rw [List.map_map, ← same]
    exact List.count_eq_one_of_mem distinct (List.mem_map_of_mem listed)

end Pages

theorem finite_sampleUuid (known : List String) :
    { id | (sampleUuid known).read id = some id }.Finite := by
  refine known.finite_toSet.subset fun id reads => ?_
  by_contra unknown
  have unread : (sampleUuid known).read id = none := if_neg unknown
  exact Option.some_ne_none id (reads.symm.trans unread)

/-- Two messages of a group, the second of which will be deleted. -/
def twoSent : ChatState :=
  Transition.run (serve samplePgUuid) (sampleTables [sampleOwner])
    [(.createGroupRoom { id := sampleRoomId, now := 1 } sampleOwner "team" [],
        1),
      (.sendMessage { id := sampleMessageId, now := 2 }
        { roomId := sampleRoomId, senderId := sampleOwner, body := "one" }, 2),
      (.sendMessage { id := sampleNextMessageId, now := 3 }
        { roomId := sampleRoomId, senderId := sampleOwner, body := "two" }, 3)]

theorem history_complete_twoSent :
    ∃ fuel pages,
      readHistory samplePgUuid sampleRoomId sampleOwner 1 fuel
            (fun _ => ⟨4, [(.softDelete sampleNextMessageId, 5)]⟩) twoSent
            none = some (.ok pages) ∧
        Descending (fun dto : MessageDto => dto.id) pages.flatten ∧
          ∀ row ∈ twoSent.messages, row.roomId = sampleRoomId →
            (pages.flatten.map fun dto => dto.id).count row.id = 1 := by
  have conforms : Conforms samplePgUuid twoSent :=
    ((sound_sampleTables samplePgUuid [sampleOwner]).run _).toConforms
  have listable : Listable samplePgUuid twoSent :=
    { conforms with canonicalMessages := by decide }
  have membership : Membership samplePgUuid twoSent sampleRoomId sampleOwner
      { roomId := sampleRoomId, userId := sampleOwner, role := .owner,
        joinedAt := 1, lastReadMessageId := none, mutedUntil := none } :=
    ⟨by decide, by decide, by decide⟩
  exact (history_complete (by decide) listable membership (Nat.le_refl 1)).2
    (finite_sampleUuid _) _

end ChatBackend.Chat.HistoryPages
